import BuildRules.Proofs.ContextConfigurations
import BuildRules.Proofs.FirstArtifacts
import BuildRules.Proofs.LabelGrammar

/-!
# Source files of other packages

A rule is to take its sources from its own package, and a context reports the owners of
those that it does not. It goes through the files that the prerequisites of `srcs` build,
but each place is looked at once, and what lies at one place need not have one owner:
`//a:b/c` and `//a/b:c` are the same file. So an owner is reported exactly when it has a
source file in another package that is the first one at its place. A foreign source that
follows a file of another owner at its place is left out, and the order of the sources
decides; all foreign sources are reported where the places at which they lie have one
owner each.
-/

set_option autoImplicit false

namespace BuildRules

namespace Rule

/-- A source file whose owner is in another package than the rule. -/
def IsForeign (rule : Rule) (artifact : Artifact) : Prop :=
  artifact.root.kind = .source ∧ artifact.owner.package ≠ rule.package

/-- What is said about a source of another package, by the label that owns it. -/
def foreignSource (rule : Rule) (onlyWarns : Bool) (owner : Label) : Diagnostic :=
  rule.attributeDiagnostic (if onlyWarns then .warning else .error) "srcs"
    ("please do not import '" ++ owner.display ++
      "' directly. You should either move the file to this " ++
        "package or depend on an appropriate rule there")

/-- The diagnostic names the owner. -/
theorem foreignSource_injective (rule : Rule) (onlyWarns : Bool) :
    Function.Injective (rule.foreignSource onlyWarns) := by
  intro first second same
  have message := congrArg Diagnostic.message same
  simp only [foreignSource, attributeDiagnostic, String.append_assoc, String.append_right_inj,
    String.append_left_inj] at message
  exact Label.display_injective message

end Rule

namespace RuleContext

variable {context : RuleContext}

/-- The files that the prerequisites of `srcs` build, in the order of the prerequisites. -/
def sourceFiles (context : RuleContext) : List Artifact :=
  (context.dependencies.of "srcs").flatMap (·.configured.filesToBuild)

/-- The label owns a source of another package among the sources of the rule. -/
def OwnsForeignSource (context : RuleContext) (owner : Label) : Prop :=
  ∃ artifact ∈ context.sourceFiles, context.rule.IsForeign artifact ∧ artifact.owner = owner

/-- The label owns a source of another package that is the first file at its place among the
sources of the rule. -/
def OwnsFirstForeignSource (context : RuleContext) (owner : Label) : Prop :=
  ∃ artifact : Artifact, artifact.IsFirst context.sourceFiles ∧
    context.rule.IsForeign artifact ∧ artifact.owner = owner

/-- No other label owns a file at the place of a foreign source. -/
def ForeignSourcesApart (context : RuleContext) : Prop :=
  ∀ artifact ∈ context.sourceFiles, context.rule.IsForeign artifact →
    ∀ other ∈ context.sourceFiles, other.identity = artifact.identity →
      other.owner = artifact.owner

/-- The check of the sources reports that there are sources of other packages, and names as their
owners exactly the given labels. -/
def ReportsOwners (context : RuleContext) (onlyWarns : Bool) (owners : Label → Prop) : Prop :=
  ∃ reported, (context.checkSourcePackages onlyWarns).Yields () reported ∧
    (∀ diagnostic ∈ reported, ∃ owner,
      diagnostic = context.rule.foreignSource onlyWarns owner) ∧
    ∀ owner, context.rule.foreignSource onlyWarns owner ∈ reported ↔ owners owner

/-- The foreign sources that are left when each place is looked at once. -/
def foreignFirsts (context : RuleContext) : List Artifact :=
  (Artifact.distinct context.sourceFiles).filter context.isForeignSource

/-- The foreign firsts are the source files that are met first at their place and are foreign. -/
theorem mem_foreignFirsts_iff {artifact : Artifact} :
    artifact ∈ context.foreignFirsts ↔
      artifact.IsFirst context.sourceFiles ∧ context.rule.IsForeign artifact := by
  have foreign : context.isForeignSource artifact = true ↔ context.rule.IsForeign artifact := by
    unfold isForeignSource Artifact.isSource Rule.IsForeign
    simp
  unfold foreignFirsts
  rw [List.mem_filter, Artifact.mem_distinct_iff, foreign]

/-- The owner of a foreign first owns a foreign source file. -/
theorem OwnsFirstForeignSource.owns {owner : Label}
    (first : context.OwnsFirstForeignSource owner) : context.OwnsForeignSource owner := by
  obtain ⟨artifact, isFirst, foreign, owned⟩ := first
  exact ⟨artifact, isFirst.mem, foreign, owned⟩

/-- What lies first at the place of a foreign source is a foreign source of the same owner, if no
other label owns a file there. -/
theorem OwnsForeignSource.ownsFirst (apart : context.ForeignSourcesApart) {owner : Label}
    (owns : context.OwnsForeignSource owner) : context.OwnsFirstForeignSource owner := by
  obtain ⟨artifact, member, foreign, rfl⟩ := owns
  obtain ⟨first, isFirst, together⟩ := Artifact.exists_isFirst member
  have sameOwner : first.owner = artifact.owner :=
    apart artifact member foreign first isFirst.mem together
  have sameRoot : first.root = artifact.root := congrArg Prod.fst together
  have foreignFirst : context.rule.IsForeign first :=
    ⟨sameRoot ▸ foreign.1, sameOwner ▸ foreign.2⟩
  exact ⟨first, isFirst, foreignFirst, sameOwner⟩

/-- What is reported about owners is reported about the same owners said in another way. -/
theorem ReportsOwners.of_iff {onlyWarns : Bool} {owners others : Label → Prop}
    (reports : context.ReportsOwners onlyWarns owners)
    (same : ∀ owner, owners owner ↔ others owner) : context.ReportsOwners onlyWarns others := by
  obtain ⟨reported, yields, named, exactly⟩ := reports
  exact ⟨reported, yields, named, fun owner => (exactly owner).trans (same owner)⟩

section Check

variable {attr : Attribute} (declared : context.rule.ruleClass.attribute? "srcs" = some attr)
  (sameMode : attr.transition = Mode.target.transition) (onlyWarns : Bool)

include declared sameMode

/-- The check of packages reports each foreign first, in order. -/
theorem checkSourcePackages_yields_firsts :
    (context.checkSourcePackages onlyWarns).Yields () (context.foreignFirsts.map fun artifact =>
      context.rule.foreignSource onlyWarns artifact.owner) :=
  (Analysis.yields_liftM (artifacts_of_mode declared sameMode)).bind (Analysis.yields_reportAll _)

/-- The check reports the owners of those foreign sources that are the first files at their places.
These are all owners of foreign sources, in whatever order the sources stand, where no other label
owns a file at the place of a foreign source. -/
theorem checkSourcePackages_reports_first_owners :
    context.ReportsOwners onlyWarns context.OwnsFirstForeignSource ∧
      (context.ForeignSourcesApart →
        context.ReportsOwners onlyWarns context.OwnsForeignSource) := by
  have reportsFirst : context.ReportsOwners onlyWarns context.OwnsFirstForeignSource := by
    refine ⟨_, checkSourcePackages_yields_firsts declared sameMode onlyWarns, ?_, fun owner => ?_⟩
    · intro diagnostic member
      obtain ⟨artifact, -, rfl⟩ := List.mem_map.mp member
      exact ⟨artifact.owner, rfl⟩
    · rw [List.mem_map]
      simp only [mem_foreignFirsts_iff, (context.rule.foreignSource_injective onlyWarns).eq_iff,
        and_assoc]
      exact Iff.rfl
  refine ⟨reportsFirst, fun apart => reportsFirst.of_iff fun owner => ?_⟩
  exact ⟨OwnsFirstForeignSource.owns, OwnsForeignSource.ownsFirst apart⟩

end Check

end RuleContext

namespace Sample

/-- The file `a/b/c` as one of the package `a/b`. -/
def inner : Label := ⟨"a/b", "c", by decide⟩

/-- The same file as one of the package `a`. -/
def outer : Label := ⟨"a", "b/c", by decide⟩

/-- A library of the package `a/b` with the given source files, none of them generated. -/
def libraryOf (sources : List Label) : ContextRequest where
  rule :=
    { label := ⟨"a/b", "user", by decide⟩
      ruleClass := libraryClass
      location := ⟨"a/b/BUILD", 1, 1⟩
      values := .ofList [("srcs", .labelList sources)] }
  configuration := configuration "target"
  owner := ⟨"a/b", "user", by decide⟩
  targets := fun label => .ok (.inputFile ⟨label, ⟨"a/BUILD", 0, 0⟩, true, []⟩)
  transition := some (StandardTransitions.configure ⟨configuration "host", none⟩)
  prerequisites := some (.ofList (sources.map fun source =>
    ⟨source, none, { files := some [.source source] }⟩))

end Sample

/-- Two foreign sources at two places are both reported. -/
theorem RuleContext.checkSourcePackages_reports_first_owners_apart :
    ∃ context, (build (Sample.libraryOf [Sample.outer, Sample.source])).start {} =
        (.ok context, {}) ∧
      context.ReportsOwners false context.OwnsForeignSource ∧
      context.OwnsForeignSource Sample.outer ∧ context.OwnsForeignSource Sample.source := by
  let sources : List Artifact := [.source Sample.outer, .source Sample.source]
  obtain ⟨context, built, rule, files⟩ :
      ∃ context, (build (Sample.libraryOf [Sample.outer, Sample.source])).start {} =
          (.ok context, {}) ∧
        context.rule = (Sample.libraryOf [Sample.outer, Sample.source]).rule ∧
        context.sourceFiles = sources :=
    ⟨_, rfl, rfl, rfl⟩
  have declared : context.rule.ruleClass.attribute? "srcs" =
      some { name := "srcs", type := .labelList } := rule ▸ rfl
  have oneOwner : ∀ artifact ∈ sources, ∀ other ∈ sources,
      other.identity = artifact.identity → other.owner = artifact.owner := by decide
  have apart : context.ForeignSourcesApart := by
    unfold ForeignSourcesApart
    rw [files]
    exact fun artifact member _ => oneOwner artifact member
  refine ⟨context, built,
    (checkSourcePackages_reports_first_owners declared rfl false).2 apart, ?_, ?_⟩
  · exact ⟨.source Sample.outer, by simp [files, sources], ⟨rfl, rule ▸ by decide⟩, rfl⟩
  · exact ⟨.source Sample.source, by simp [files, sources], ⟨rfl, rule ▸ by decide⟩, rfl⟩

/-- The outer package owns a foreign source in both orders of two labels of one file, but only one
of the orders is reported. -/
theorem RuleContext.checkSourcePackages_depends_on_order :
    ∃ hidden shown,
      (build (Sample.libraryOf [Sample.inner, Sample.outer])).start {} = (.ok hidden, {}) ∧
      (build (Sample.libraryOf [Sample.outer, Sample.inner])).start {} = (.ok shown, {}) ∧
      hidden.OwnsForeignSource Sample.outer ∧ shown.OwnsForeignSource Sample.outer ∧
      (hidden.checkSourcePackages false).Yields () [] ∧
      (shown.checkSourcePackages false).Yields ()
        [shown.rule.foreignSource false Sample.outer] ∧
      ¬ hidden.ReportsOwners false hidden.OwnsForeignSource := by
  obtain ⟨hidden, built, member, foreign, nothing⟩ :
      ∃ hidden, (build (Sample.libraryOf [Sample.inner, Sample.outer])).start {} =
          (.ok hidden, {}) ∧
        .source Sample.outer ∈ hidden.sourceFiles ∧
        hidden.rule.IsForeign (.source Sample.outer) ∧
        (hidden.checkSourcePackages false).Yields () [] :=
    ⟨_, rfl, by decide, ⟨rfl, by decide⟩, checkSourcePackages_yields_firsts rfl rfl false⟩
  obtain ⟨shown, builtOther, memberOther, foreignOther, reported⟩ :
      ∃ shown, (build (Sample.libraryOf [Sample.outer, Sample.inner])).start {} =
          (.ok shown, {}) ∧
        .source Sample.outer ∈ shown.sourceFiles ∧
        shown.rule.IsForeign (.source Sample.outer) ∧
        (shown.checkSourcePackages false).Yields ()
          [shown.rule.foreignSource false Sample.outer] :=
    ⟨_, rfl, by decide, ⟨rfl, by decide⟩, checkSourcePackages_yields_firsts rfl rfl false⟩
  have owns : hidden.OwnsForeignSource Sample.outer := ⟨_, member, foreign, rfl⟩
  refine ⟨hidden, shown, built, builtOther, owns, ⟨_, memberOther, foreignOther, rfl⟩, nothing,
    reported, ?_⟩
  rintro ⟨others, yields, -, exactly⟩
  have same : others = [] := by
    have ended := (yields.eq_of_start (nothing {})).2
    simpa [Record.withReports] using ended
  exact absurd ((exactly Sample.outer).mpr owns) (by simp [same])

end BuildRules

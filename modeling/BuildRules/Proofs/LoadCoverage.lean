import BuildRules.Proofs.ContextConfigurations
import BuildRules.Proofs.Declarations
import BuildRules.Proofs.LoadedTargets

/-!
# Which analyses of a loaded workspace abort

A rule names labels in its dependencies and in the entries of its filesets. In a loaded
workspace such a label resolves whenever a target of that label is loaded, whatever
attribute names it: the target was analyzed in each configuration to which an attribute
can lead from the target configuration. So an analysis aborts for one reason only, a
named label that is not loaded. Once the context is built nothing aborts any more, the
check of the source packages asks for its attribute in the mode of that attribute.
-/

set_option autoImplicit false

namespace BuildRules

/-- The rule names a label among its dependencies or in an entry of one of its filesets. -/
def Rule.Names (rule : Rule) (label : Label) : Prop :=
  (∃ name labels, rule.labelMap.find? name = some labels ∧ label ∈ labels) ∨
  ∃ attr ∈ rule.ruleClass.attributes, attr.type = .filesetEntryList ∧
    ∃ entry ∈ rule.filesetEntries attr.name, label ∈ entry.namedLabels

/-- A target of the label is loaded. -/
def Workspace.IsLoaded (workspace : Workspace) (label : Label) : Prop :=
  ∃ target ∈ workspace.targets, target.label = label

instance (workspace : Workspace) (label : Label) : Decidable (workspace.IsLoaded label) :=
  inferInstanceAs (Decidable (∃ target ∈ workspace.targets, target.label = label))

namespace RuleContext

/-- All labels that the rule of a request names resolve when its context is built. -/
theorem Resolved.exists_resolves_of_names {request : ContextRequest} {resolver : Resolver}
    {kept : List (String × List Prerequisite)} {found : List (Attribute × List EntrySources)}
    (resolved : Resolved request resolver kept found) (own : request.labelMap = none)
    {label : Label} (named : request.rule.Names label) :
    ∃ attr prerequisite, resolver.Resolves attr label prerequisite := by
  rcases named with ⟨name, labels, bound, member⟩ | ⟨attr, declared, fileset, entry, listed, member⟩
  · have boundHere : request.labels.find? name = some labels := by
      unfold ContextRequest.labels
      rw [own]
      exact bound
    obtain ⟨attr, prerequisites, -, related, -⟩ := resolved.dependencies_of_bound boundHere
    obtain ⟨prerequisite, -, resolves⟩ := exists_right_of_forall₂ related member
    exact ⟨attr, prerequisite, resolves⟩
  · have among : attr ∈ Resolver.filesetsAmong request.rule.ruleClass.attributes :=
      List.mem_filter.mpr ⟨declared, by simpa using fileset⟩
    obtain ⟨result, -, -, sources⟩ := exists_right_of_forall₂ resolved.filesets among
    rw [(resolver?_eq_some resolved.ready).1] at sources
    obtain ⟨source, -, -, resolves⟩ := exists_right_of_forall₂ sources listed
    obtain ⟨prerequisite, -, hit⟩ := exists_right_of_forall₂ resolves member
    exact ⟨attr, prerequisite, hit⟩

/-- A context that is built from the dependencies of its rule is not built only because some label
that the rule names does not resolve. -/
theorem exists_names_of_fails {request : ContextRequest} {resolver : Resolver} {abort : Abort}
    (ready : request.resolver? = some resolver) (own : request.labelMap = none)
    (failed : (∃ entry ∈ request.labels.entries, resolver.FailsEntry entry abort) ∨
      resolver.FailsFileset request.rule.ruleClass.attributes abort) :
    ∃ attr label, request.rule.Names label ∧ resolver.resolve attr label = .error abort := by
  have sameRule : resolver.rule = request.rule := (resolver?_eq_some ready).1
  rcases failed with
    ⟨⟨name, labels⟩, member, fails⟩ | ⟨attr, among, entry, listed, label, named, error⟩
  -- A rule has labels under declared attributes only, so no attribute is missing.
  · have bound : request.rule.labelMap.find? name = some labels := by
      unfold ContextRequest.labels at member
      rw [own] at member
      exact NameMap.mem_entries_iff_find?.mp member
    rcases fails with ⟨undeclared, -⟩ | ⟨attr, -, label, inside, error⟩
    · obtain ⟨attr, declared, -⟩ := Rule.exists_attribute_of_find?_labelMap bound
      dsimp only at undeclared
      rw [sameRule, declared] at undeclared
      cases undeclared
    · exact ⟨attr, label, .inl ⟨name, labels, bound, inside⟩, error⟩
  · obtain ⟨declared, fileset⟩ := List.mem_filter.mp among
    rw [sameRule] at listed
    exact ⟨attr, label, .inr ⟨attr, declared, by simpa using fileset, entry, listed, named⟩, error⟩

/-- Sources are checked only where the class of the rule declares them in the mode of the check. -/
theorem exists_sources_of_hasCheckedSources {rule : Rule}
    (checked : Workspace.hasCheckedSources rule = true) :
    ∃ attr, rule.ruleClass.attribute? "srcs" = some attr ∧
      attr.transition = Mode.target.transition := by
  unfold Workspace.hasCheckedSources at checked
  obtain ⟨attr, declared, holds⟩ := (Option.any_eq_true _ _).mp checked
  simp only [Bool.and_eq_true, decide_eq_true_eq] at holds
  exact ⟨attr, declared, holds.2⟩

/-- The check of the source packages does not abort where the class of the rule has sources in the
mode for which it asks. -/
theorem checkSourcePackages_yields {context : RuleContext}
    (checked : Workspace.hasCheckedSources context.rule = true) (onlyWarns : Bool) :
    ∃ reported, (context.checkSourcePackages onlyWarns).Yields () reported := by
  obtain ⟨attr, declared, sameMode⟩ := exists_sources_of_hasCheckedSources checked
  exact ⟨_, (Analysis.yields_liftM (artifacts_of_mode declared sameMode)).bind
    (Analysis.yields_reportAll _)⟩

end RuleContext

namespace Workspace

variable {workspace : Workspace} {manifest : Manifest} {declared : List DeclaredTarget}

/-- A label that is loaded resolves for every rule and attribute. -/
theorem LoadedFrom.exists_resolves (loaded : workspace.LoadedFrom manifest declared) (rule : Rule)
    (attr : Attribute) {label : Label} (present : workspace.IsLoaded label) :
    ∃ prerequisite, (workspace.resolver rule).Resolves attr label prerequisite := by
  obtain ⟨target, member, rfl⟩ := present
  rw [loaded.targets] at member
  obtain ⟨one, inside, rfl⟩ := List.mem_map.mp member
  exact ⟨_, loaded.resolves rule attr inside⟩

/-- A label that resolves for some rule and attribute is loaded. -/
theorem isLoaded_of_resolves {rule : Rule} {attr : Attribute} {label : Label}
    {prerequisite : Prerequisite}
    (resolves : (workspace.resolver rule).Resolves attr label prerequisite) :
    workspace.IsLoaded label := by
  obtain ⟨found, -⟩ := Resolver.resolves_iff.mp resolves
  exact ⟨prerequisite.target, target_eq_ok found⟩

/-- In a loaded workspace only a label that is not loaded fails to resolve. -/
theorem LoadedFrom.not_loaded_of_error (loaded : workspace.LoadedFrom manifest declared)
    {rule : Rule} {attr : Attribute} {label : Label} {abort : Abort}
    (failed : (workspace.resolver rule).resolve attr label = .error abort) :
    ¬ workspace.IsLoaded label ∧
      abort = .notLoaded rule.location label rule.label attr.name (.noSuchTarget label.display) := by
  have missing : ¬ workspace.IsLoaded label := by
    intro present
    obtain ⟨prerequisite, resolves⟩ := loaded.exists_resolves rule attr present
    unfold Resolver.Resolves at resolves
    rw [failed] at resolves
    cases resolves
  refine ⟨missing, ?_⟩
  have unanswered : workspace.target label = .error (.noSuchTarget label.display) :=
    target_of_not_loaded fun target member same => missing ⟨target, member, same⟩
  have answered : (workspace.resolver rule).resolve attr label =
      .error (.notLoaded rule.location label rule.label attr.name (.noSuchTarget label.display)) :=
    Resolver.resolve_of_not_loaded unanswered
  rw [failed] at answered
  cases answered
  rfl

/-- A rule is analyzed to the end once its context is built. -/
theorem analyze_yields {rule : Rule} {context : RuleContext} {reported : List Diagnostic}
    (built : (RuleContext.build (workspace.request rule)).Yields context reported)
    (sameRule : context.rule = rule) :
    ∃ others, (workspace.analyze rule).Yields context (reported ++ others) := by
  unfold analyze
  cases workspace.options.sourcePackages with
  | none => exact ⟨_, built.bind (Analysis.yields_pure _)⟩
  | some check =>
    cases checked : hasCheckedSources rule with
    | false =>
      exact ⟨_, built.bind (Analysis.yields_pure _)⟩
    | true =>
      obtain ⟨sources, yields⟩ :=
        RuleContext.checkSourcePackages_yields (sameRule ▸ checked) check.onlyWarns
      exact ⟨_, built.bind (yields.bind (Analysis.yields_pure _))⟩

/-- An analysis in a loaded workspace ends with a context if all labels are loaded that the rule
names, and otherwise aborts because of one that is not. -/
theorem LoadedFrom.analyze_yields_or_abortsWith (loaded : workspace.LoadedFrom manifest declared)
    (rule : Rule) :
    ((∀ label, rule.Names label → workspace.IsLoaded label) ∧
      ∃ context reported, (workspace.analyze rule).Yields context reported) ∨
    ∃ label name, rule.Names label ∧ ¬ workspace.IsLoaded label ∧
      (workspace.analyze rule).AbortsWith
        (.notLoaded rule.location label rule.label name (.noSuchTarget label.display)) := by
  have ready : (workspace.request rule).resolver? = some (workspace.resolver rule) := rfl
  rcases RuleContext.build_yields_or_abortsWith ready with
    ⟨kept, found, resolved, yields⟩ | ⟨abort, failed, aborts⟩
  · left
    constructor
    · intro label named
      obtain ⟨attr, prerequisite, resolves⟩ := resolved.exists_resolves_of_names rfl named
      exact isLoaded_of_resolves resolves
    · obtain ⟨others, ended⟩ := analyze_yields yields rfl
      exact ⟨_, _, ended⟩
  · right
    obtain ⟨attr, label, named, error⟩ := RuleContext.exists_names_of_fails ready rfl failed
    obtain ⟨missing, rfl⟩ := loaded.not_loaded_of_error error
    exact ⟨label, attr.name, named, missing, aborts.bind _⟩

/-- In a workspace that was loaded from a manifest the analysis of a rule aborts exactly when the
rule names a label that is not loaded, and that such a label was not loaded is then what it aborts
with. -/
theorem analyze_aborts_iff_not_loaded {manifest : Manifest} {workspace : Workspace}
    (loaded : load manifest = .ok workspace) (rule : Rule) (record : Record) :
    ((∃ abort after, (workspace.analyze rule).start record = (.error abort, after)) ↔
      ∃ label, rule.Names label ∧ ¬ workspace.IsLoaded label) ∧
    ∀ abort after, (workspace.analyze rule).start record = (.error abort, after) →
      ∃ label name, rule.Names label ∧ ¬ workspace.IsLoaded label ∧
        abort = .notLoaded rule.location label rule.label name (.noSuchTarget label.display) := by
  obtain ⟨declared, holds⟩ := exists_loadedFrom loaded
  rcases holds.analyze_yields_or_abortsWith rule with
    ⟨complete, context, reported, yields⟩ | ⟨label, name, named, missing, aborts⟩
  · have never : ∀ abort after, (workspace.analyze rule).start record ≠ (.error abort, after) := by
      intro abort after ended
      rw [yields record] at ended
      cases ended
    constructor
    · constructor
      · rintro ⟨abort, after, ended⟩
        exact absurd ended (never abort after)
      · rintro ⟨label, named, missing⟩
        exact absurd (complete label named) missing
    · intro abort after ended
      exact absurd ended (never abort after)
  · obtain ⟨reported, ended⟩ := aborts record
    constructor
    · constructor
      · intro _
        exact ⟨label, named, missing⟩
      · intro _
        exact ⟨_, _, ended⟩
    · intro abort after other
      rw [ended] at other
      cases other
      exact ⟨label, name, named, missing, rfl⟩

end Workspace

/-- A manifest with a library whose source is declared and whose tool is not. -/
def Sample.withoutTool : Manifest where
  options := { sourcePackages := some .warn }
  configurations := ⟨configuration "target", configuration "host", none⟩
  ruleClasses :=
    [{ name := "library"
       attributes :=
        [{ name := "srcs", type := .labelList },
          { name := "tools", type := .labelList, transition := .host }] }]
  targets :=
    [.inputFile { label := "//p:a.cc" },
      .rule
        { label := "//p:lib", className := "library"
          values := .ofList
            [("srcs", .array [.string "a.cc"]), ("tools", .array [.string "//q:gen"])] }]

/-- The analysis of a library whose tool is not loaded aborts. -/
theorem Workspace.analyze_aborts_without_tool :
    ∃ workspace rule, load Sample.withoutTool = .ok workspace ∧ workspace.rules = [rule] ∧
      ∃ abort after, (workspace.analyze rule).start {} = (.error abort, after) := by
  have loaded : load Sample.withoutTool = .ok _ := rfl
  refine ⟨_, _, loaded, rfl, ?_⟩
  refine (analyze_aborts_iff_not_loaded loaded _ {}).1.mpr ⟨Sample.generator, ?_, by decide⟩
  exact .inl ⟨"tools", _, rfl, List.mem_singleton_self _⟩

end BuildRules

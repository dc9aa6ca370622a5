import BuildRules.Proofs.ForeignSources

/-!
# Collected artifacts

The prerequisites of an attribute may build one file several times. A context collects the
files in the order in which they are built and leaves out each one that lies where an
earlier one does. So every place has its first artifact in the collection, with the owner
that this one has, and no other. The files of some types are collected in the same way, as
if the prerequisites built no others.
-/

set_option autoImplicit false

namespace BuildRules

namespace RuleContext

/-- The files that the prerequisites of an attribute build, as far as they say which, in the order
of the prerequisites. -/
def builtFiles (context : RuleContext) (name : String) : List Artifact :=
  ((context.dependencies.of name).filterMap (·.providers.files)).flatten

/-- The files that prerequisites build are the lists that their providers hold, one after the other.
-/
theorem flatMap_filesToBuild (prerequisites : List Prerequisite) :
    prerequisites.flatMap (·.configured.filesToBuild) =
      (prerequisites.filterMap (·.providers.files)).flatten := by
  induction prerequisites with
  | nil => rfl
  | cons first rest ih =>
    rw [List.flatMap_cons, List.filterMap_cons, ih]
    unfold ConfiguredTarget.filesToBuild Prerequisite.providers
    cases first.configured.providers.files <;> rfl

/-- Asking for the files of an attribute in its mode gives the files that are built without repeats:
each place at which one of them lies once, with the artifact that is first there. Asking for those
of some types gives the same of the built files that are of these types. -/
theorem artifacts_collect_first_files {context : RuleContext} {name : String} {mode : Mode}
    {attr : Attribute} (declared : context.rule.ruleClass.attribute? name = some attr)
    (sameMode : attr.transition = mode.transition) (types : FileTypeSet) :
    context.artifacts name mode = .ok (Artifact.withoutRepeats (context.builtFiles name)) ∧
    (Artifact.withoutRepeats (context.builtFiles name)).Pairwise
      (fun first second => first.identity ≠ second.identity) ∧
    (∀ artifact, artifact ∈ Artifact.withoutRepeats (context.builtFiles name) ↔
      artifact.IsFirst (context.builtFiles name)) ∧
    (∀ artifact ∈ context.builtFiles name,
      ∃ kept ∈ Artifact.withoutRepeats (context.builtFiles name),
        kept.identity = artifact.identity) ∧
    context.artifactsOfType name mode types =
      .ok (Artifact.withoutRepeats
        ((context.builtFiles name).filter fun file => types.admits file.fileName)) := by
  have collected : context.artifacts name mode =
      .ok (Artifact.distinct (context.builtFiles name)) := by
    rw [artifacts_of_mode declared sameMode, flatMap_filesToBuild]
    rfl
  have ofTypes : context.artifactsOfType name mode types =
      .ok (Artifact.distinct (types.filter (context.builtFiles name))) := by
    unfold artifactsOfType
    rw [collected, ← FileTypeSet.filter_distinct]
    rfl
  rw [← Artifact.distinct_eq_withoutRepeats, ← Artifact.distinct_eq_withoutRepeats]
  refine ⟨collected, Artifact.pairwise_distinct _, ?_, ?_, ofTypes⟩
  · intro artifact
    exact Artifact.mem_distinct_iff
  · intro artifact member
    obtain ⟨first, isFirst, together⟩ := Artifact.exists_isFirst member
    exact ⟨first, Artifact.mem_distinct_iff.mpr isFirst, together⟩

end RuleContext

namespace Sample

/-- Three sources of which the second one is the same file as the first one. -/
def repeated : List Label := [outer, inner, source]

/-- The files with the extension `.cc`. -/
def sourceTypes : FileTypeSet :=
  .of [⟨".cc", [.star, .literal '.', .literal 'c', .literal 'c']⟩]

end Sample

/-- The file that two of the sources name is there once, and its owner is the one named first. -/
theorem RuleContext.artifacts_collect_first_files_repeated :
    ∃ context, (build (Sample.libraryOf Sample.repeated)).start {} = (.ok context, {}) ∧
      context.rule.ruleClass.attribute? "srcs" = some { name := "srcs", type := .labelList } ∧
      context.artifacts "srcs" .target = .ok [.source Sample.outer, .source Sample.source] ∧
      context.artifactsOfType "srcs" .target Sample.sourceTypes = .ok [.source Sample.source] := by
  let files : List Artifact := Sample.repeated.map .source
  obtain ⟨context, built, rule, builds⟩ :
      ∃ context, (build (Sample.libraryOf Sample.repeated)).start {} = (.ok context, {}) ∧
        context.rule = (Sample.libraryOf Sample.repeated).rule ∧
        context.builtFiles "srcs" = files :=
    ⟨_, rfl, rfl, rfl⟩
  have declared : context.rule.ruleClass.attribute? "srcs" =
      some { name := "srcs", type := .labelList } := rule ▸ rfl
  have first : Artifact.withoutRepeats files = [.source Sample.outer, .source Sample.source] := by
    decide
  have ofTypes : Artifact.withoutRepeats
      (files.filter fun file => Sample.sourceTypes.admits file.fileName) =
        [.source Sample.source] := by
    decide
  have sameMode : Transition.none = Mode.target.transition := rfl
  have settled := artifacts_collect_first_files declared sameMode Sample.sourceTypes
  rw [builds, first, ofTypes] at settled
  exact ⟨context, built, declared, settled.1, settled.2.2.2.2⟩

end BuildRules

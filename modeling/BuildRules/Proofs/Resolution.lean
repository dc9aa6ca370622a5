import BuildRules.Analysis.Prerequisite
import BuildRules.Proofs.Outcomes

/-!
# Resolved labels

To resolve a label takes three lookups, and the result says what each of them answered:
the prerequisite holds the loaded target, and its analysis is one of that label in the
configuration to which the transition leads. The standard transitions never refuse a
target, so under them only two of the three lookups can fail.
-/

set_option autoImplicit false

namespace BuildRules

/-- What is found for a label and a configuration is an analysis of both. -/
theorem PrerequisiteMap.isFor_of_find? {map : PrerequisiteMap} {label : Label}
    {configuration : Option Configuration} {target : ConfiguredTarget}
    (found : map.find? label configuration = some target) :
    target.label = label ∧ target.configuration = configuration := by
  have hit : target.isFor label configuration = true := by
    unfold find? at found
    simpa using List.find?_some found
  simpa [ConfiguredTarget.isFor] using hit

/-- A map into which analyses were put one after the other answers with the latest that matches. -/
theorem PrerequisiteMap.find?_foldl_insert (targets : List ConfiguredTarget)
    (map : PrerequisiteMap) (label : Label) (configuration : Option Configuration) :
    (targets.foldl insert map).find? label configuration =
      (targets.reverse.find? (·.isFor label configuration)).or (map.find? label configuration) := by
  induction targets generalizing map with
  | nil => rfl
  | cons first rest ih =>
    rw [List.foldl_cons, ih, find?_insert, List.reverse_cons, List.find?_append]
    cases rest.reverse.find? (·.isFor label configuration) with
    | some later => rfl
    | none =>
      rw [Option.none_or, Option.none_or]
      cases same : first.isFor label configuration with
      | true => simp [same]
      | false => simp [same]

/-- An analysis is found under its label and configuration if no other one of the map has both. -/
theorem PrerequisiteMap.find?_ofList_of_unique {targets : List ConfiguredTarget}
    {target : ConfiguredTarget} (member : target ∈ targets)
    (unique : ∀ other ∈ targets, other.label = target.label →
      other.configuration = target.configuration → other = target) :
    (ofList targets).find? target.label target.configuration = some target := by
  unfold ofList
  rw [find?_foldl_insert]
  cases found : targets.reverse.find? (·.isFor target.label target.configuration) with
  | some other =>
    have hit : other.label = target.label ∧ other.configuration = target.configuration := by
      simpa [ConfiguredTarget.isFor] using List.find?_some found
    have inside : other ∈ targets := List.mem_reverse.mp (List.mem_of_find?_eq_some found)
    rw [unique other inside hit.1 hit.2]
    rfl
  | none =>
    have missed := List.find?_eq_none.mp found target (List.mem_reverse.mpr member)
    exact absurd (by simp [ConfiguredTarget.isFor]) missed

/-- The configuration in which a target is needed that a rule in `configuration` reaches through a
transition: nothing leads out of a host configuration. -/
def StandardTransitions.next (transitions : StandardTransitions) (configuration : Configuration)
    (transition : Transition) : Configuration :=
  if configuration.isHost then configuration
  else
    match transition with
    | .none => configuration
    | .host => transitions.host
    | .data => transitions.data.getD configuration

/-- The standard transitions give a configuration to everything but source files. -/
theorem StandardTransitions.configure_eq (transitions : StandardTransitions) (rule : Rule)
    (configuration : Configuration) (attr : Attribute) (target : Target) :
    transitions.configure rule configuration attr target =
      if target.isInputFile then none
      else some (transitions.next configuration attr.transition) := by
  unfold configure next
  cases target.isInputFile with
  | true => rfl
  | false =>
    cases configuration.isHost with
    | true => rfl
    | false => cases attr.transition <;> rfl

namespace Resolver

variable {resolver : Resolver} {attr : Attribute} {label : Label}

/-- The label of an attribute resolves to a prerequisite. -/
def Resolves (resolver : Resolver) (attr : Attribute) (label : Label)
    (prerequisite : Prerequisite) : Prop :=
  resolver.resolve attr label = .ok prerequisite

/-- A label resolves to its target and to the analysis of it that the configuration selects. -/
theorem resolves_iff {prerequisite : Prerequisite} :
    resolver.Resolves attr label prerequisite ↔
      resolver.targets label = .ok prerequisite.target ∧
        ∃ configuration,
          resolver.configurationOf attr label prerequisite.target = .ok configuration ∧
            resolver.prerequisites.find? label configuration = some prerequisite.configured := by
  unfold Resolves resolve
  cases loaded : resolver.targets label with
  | error cause => simp [throw_ne_ok]
  | ok target =>
    dsimp only
    rw [bind_eq_ok_iff]
    constructor
    · rintro ⟨configuration, selected, answered⟩
      split at answered
      · rename_i configured found
        cases answered
        exact ⟨rfl, configuration, selected, found⟩
      · exact absurd answered throw_ne_ok
    · rintro ⟨same, configuration, selected, found⟩
      cases same
      refine ⟨configuration, selected, ?_⟩
      rw [found]
      rfl

/-- The resolution of a label that cannot be loaded ends there, with the cause. -/
theorem resolve_of_not_loaded {cause : LoadError} (missing : resolver.targets label = .error cause) :
    resolver.resolve attr label = .error (.notLoaded resolver.rule.location label
      resolver.rule.label attr.name cause) := by
  unfold resolve
  rw [missing]
  rfl

/-- A prerequisite has the label that resolved to it. -/
theorem Resolves.label_eq {prerequisite : Prerequisite}
    (resolved : resolver.Resolves attr label prerequisite) : prerequisite.label = label := by
  obtain ⟨-, configuration, -, found⟩ := resolves_iff.mp resolved
  exact (PrerequisiteMap.isFor_of_find? found).1

/-- Under the standard transitions the configuration of a target is the one they give. -/
theorem configurationOf_standard {transitions : StandardTransitions}
    (standard : resolver.transition = transitions.configure) (target : Target) :
    resolver.configurationOf attr label target =
      .ok (if target.isInputFile then none
        else some (transitions.next resolver.configuration attr.transition)) := by
  unfold configurationOf
  rw [standard, StandardTransitions.configure_eq]
  cases target.isInputFile <;> rfl

end Resolver

end BuildRules

import BuildRules.Analysis.Abort
import BuildRules.Provider

/-!
# Prerequisites

Every label on which a rule depends was loaded and analyzed before the rule is. To
resolve a label is to load its target, to find the configuration in which the rule needs
it, and to look its analysis up in a `PrerequisiteMap`, which has at most one entry for a
label and a configuration. Configurations are compared by value.
-/

set_option autoImplicit false

namespace BuildRules

abbrev TargetLookup := Label → Except LoadError Target

/-- Gives the configuration in which a rule that is analyzed in some configuration needs a target
through an attribute. -/
abbrev ConfigurationTransition := Rule → Configuration → Attribute → Target → Option Configuration

/-- The configurations to which the standard transitions lead. -/
structure StandardTransitions where
  host : Configuration
  data : Option Configuration := none
  deriving DecidableEq

/-- Source files have no configuration, nothing leads out of a host configuration, and otherwise
the transition of the attribute decides; without a data configuration data stays where it is. -/
def StandardTransitions.configure (transitions : StandardTransitions) :
    ConfigurationTransition := fun _ configuration attr target =>
  if target.isInputFile then none
  else if configuration.isHost then some configuration
  else
    match attr.transition with
    | .none => some configuration
    | .host => some transitions.host
    | .data => some (transitions.data.getD configuration)

/-- A dependency of a rule: the loaded target and its analysis. -/
structure Prerequisite where
  target : Target
  configured : ConfiguredTarget

namespace Prerequisite

def label (prerequisite : Prerequisite) : Label := prerequisite.configured.label

/-- The configuration in which the target was analyzed. -/
def configuration (prerequisite : Prerequisite) : Option Configuration :=
  prerequisite.configured.configuration

def providers (prerequisite : Prerequisite) : ProviderCollection :=
  prerequisite.configured.providers

end Prerequisite

/-- Is the target the analysis of a label in a configuration? -/
def ConfiguredTarget.isFor (target : ConfiguredTarget) (label : Label)
    (configuration : Option Configuration) : Bool :=
  target.label = label && target.configuration = configuration

/-- The analyses that are known, at most one for a label and a configuration. -/
structure PrerequisiteMap where
  entries : List ConfiguredTarget := []
  deriving DecidableEq

namespace PrerequisiteMap

/-- Puts an analysis into the map, over an earlier one of the same label and configuration. -/
def insert (map : PrerequisiteMap) (target : ConfiguredTarget) : PrerequisiteMap :=
  ⟨target :: map.entries.filter fun entry => !entry.isFor target.label target.configuration⟩

def find? (map : PrerequisiteMap) (label : Label) (configuration : Option Configuration) :
    Option ConfiguredTarget :=
  map.entries.find? (·.isFor label configuration)

/-- An inserted analysis is found for its label and configuration; for any others the map answers
as before. -/
theorem find?_insert (map : PrerequisiteMap) (target : ConfiguredTarget) (label : Label)
    (configuration : Option Configuration) :
    (map.insert target).find? label configuration =
      if target.isFor label configuration then some target else map.find? label configuration := by
  unfold insert find?
  by_cases same : target.isFor label configuration
  · simp [same]
  · simp only [List.find?_cons, same, List.find?_filter]
    refine congrArg (fun test => List.find? test map.entries) (funext fun entry => ?_)
    by_cases asked : entry.isFor label configuration
    · have other : entry.isFor target.label target.configuration = false := by
        refine Bool.eq_false_iff.2 fun replaced => same ?_
        simp only [ConfiguredTarget.isFor, Bool.and_eq_true, decide_eq_true_eq] at replaced asked ⊢
        exact ⟨replaced.1.symm.trans asked.1, replaced.2.symm.trans asked.2⟩
      simp [asked, other]
    · simp [asked]

def size (map : PrerequisiteMap) : Nat := map.entries.length

/-- The map of the given analyses, put in one after the other. -/
def ofList (targets : List ConfiguredTarget) : PrerequisiteMap :=
  targets.foldl insert {}

end PrerequisiteMap

/-- All that is needed to resolve the labels of one rule. -/
structure Resolver where
  rule : Rule
  configuration : Configuration
  targets : TargetLookup
  transition : ConfigurationTransition
  prerequisites : PrerequisiteMap

namespace Resolver

/-- The configuration in which the rule needs a target; only a source file can do without. -/
def configurationOf (resolver : Resolver) (attr : Attribute) (label : Label) (target : Target) :
    Except Abort (Option Configuration) :=
  let configuration := resolver.transition resolver.rule resolver.configuration attr target
  if configuration.isNone && !target.isInputFile then
    .error (.noConfiguration resolver.rule.location target.kind label resolver.rule.label attr.name)
  else .ok configuration

def resolve (resolver : Resolver) (attr : Attribute) (label : Label) :
    Except Abort Prerequisite := do
  let rule := resolver.rule
  match resolver.targets label with
  | .error cause => throw (.notLoaded rule.location label rule.label attr.name cause)
  | .ok target =>
    let configuration ← resolver.configurationOf attr label target
    match resolver.prerequisites.find? label configuration with
    | some configured => return ⟨target, configured⟩
    | none => throw (.notAnalyzed rule.location label configuration attr.name rule.label)

end Resolver

end BuildRules

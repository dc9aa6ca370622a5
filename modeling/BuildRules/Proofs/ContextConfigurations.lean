import BuildRules.Proofs.ContextRuns

/-!
# Configurations of the prerequisites of a context

The prerequisites of an attribute are asked for in a mode, and the mode has to be the one
for which the class configures the attribute. What is answered then was analyzed in the
configuration of the mode: source files in none, all else in the configuration of the
context if that is a host configuration, and otherwise in the one to which the standard
transitions lead. This holds whatever analyses were put into the map of prerequisites
and in whatever order, because the map answers with analyses of the configuration that
was asked for, and because the transition of the attribute was fixed by its class both
when the context was built and when it is asked.
-/

set_option autoImplicit false

namespace BuildRules

/-- The configuration of the prerequisites of a mode, for a rule that is not analyzed for the
host. -/
def StandardTransitions.ofMode (transitions : StandardTransitions)
    (configuration : Configuration) : Mode → Configuration
  | .target => configuration
  | .host => transitions.host
  | .data => transitions.data.getD configuration

/-- A configuration for the host is never left. -/
theorem StandardTransitions.next_of_isHost (transitions : StandardTransitions)
    {configuration : Configuration} (host : configuration.isHost = true)
    (transition : Transition) : transitions.next configuration transition = configuration := by
  unfold next
  rw [if_pos host]

/-- Outside of the host, the transition of a mode leads to the configuration of the mode. -/
theorem StandardTransitions.next_of_mode (transitions : StandardTransitions)
    {configuration : Configuration} (notHost : configuration.isHost = false) (mode : Mode) :
    transitions.next configuration mode.transition = transitions.ofMode configuration mode := by
  unfold next
  rw [if_neg (by simp [notHost])]
  cases mode <;> rfl

/-- A label that resolves under the standard transitions leads to an analysis in no configuration,
if it is a source file, and else in the configuration that the transition gives. -/
theorem Resolver.Resolves.configuration_eq {resolver : Resolver}
    {transitions : StandardTransitions} (standard : resolver.transition = transitions.configure)
    {attr : Attribute} {label : Label} {prerequisite : Prerequisite}
    (resolved : resolver.Resolves attr label prerequisite) :
    prerequisite.configuration =
      if prerequisite.target.isInputFile then none
      else some (transitions.next resolver.configuration attr.transition) := by
  obtain ⟨-, configuration, selected, found⟩ := resolves_iff.mp resolved
  rw [configurationOf_standard standard] at selected
  cases selected
  exact (PrerequisiteMap.isFor_of_find? found).2

namespace RuleContext

/-- Asking for the prerequisites of an attribute that is not declared aborts. -/
theorem prerequisites_of_undeclared {context : RuleContext} {name : String} (mode : Mode)
    (undeclared : context.rule.ruleClass.attribute? name = none) :
    context.prerequisites name mode =
      .error (.undeclared context.rule.location context.rule.ruleClass.name name) := by
  unfold prerequisites attributeFor
  simp only [undeclared]
  rfl

/-- Asking for the prerequisites in a mode that is not that of the attribute aborts. -/
theorem prerequisites_of_other_mode {context : RuleContext} {name : String} {mode : Mode}
    {attr : Attribute} (declared : context.rule.ruleClass.attribute? name = some attr)
    (different : attr.transition ≠ mode.transition) :
    context.prerequisites name mode =
      .error (.otherMode context.rule.location context.rule.ruleClass.name name mode) := by
  unfold prerequisites attributeFor
  simp only [declared, if_neg different]
  rfl

/-- Asked in their own mode, the prerequisites of an attribute are its dependencies in the context.
-/
theorem prerequisites_of_mode {context : RuleContext} {name : String} {mode : Mode}
    {attr : Attribute} (declared : context.rule.ruleClass.attribute? name = some attr)
    (same : attr.transition = mode.transition) :
    context.prerequisites name mode = .ok (context.dependencies.of name) := by
  unfold prerequisites attributeFor
  simp only [declared, if_pos same]
  rfl

/-- The files of an attribute that is configured for the mode are there, each place once. -/
theorem artifacts_of_mode {context : RuleContext} {name : String} {mode : Mode}
    {attr : Attribute} (declared : context.rule.ruleClass.attribute? name = some attr)
    (same : attr.transition = mode.transition) :
    context.artifacts name mode =
      .ok (Artifact.distinct
        ((context.dependencies.of name).flatMap (·.configured.filesToBuild))) := by
  unfold artifacts
  rw [prerequisites_of_mode declared same]
  rfl

/-- Asking for the prerequisites of an attribute aborts exactly when the class does not declare the
attribute or configures it for another mode. -/
theorem prerequisites_eq_error_iff (context : RuleContext) (name : String) (mode : Mode) :
    (∃ abort, context.prerequisites name mode = .error abort) ↔
      context.rule.ruleClass.attribute? name = none ∨
        ∃ attr, context.rule.ruleClass.attribute? name = some attr ∧
          attr.transition ≠ mode.transition := by
  constructor
  · rintro ⟨abort, failed⟩
    cases declared : context.rule.ruleClass.attribute? name with
    | none => exact .inl rfl
    | some attr =>
      refine .inr ⟨attr, rfl, ?_⟩
      intro same
      rw [prerequisites_of_mode declared same] at failed
      cases failed
  · rintro (undeclared | ⟨attr, declared, different⟩)
    · exact ⟨_, prerequisites_of_undeclared mode undeclared⟩
    · exact ⟨_, prerequisites_of_other_mode declared different⟩

/-- The answer to a question for prerequisites is what the dependency map has for the attribute,
which the class configures for the mode. -/
theorem prerequisites_eq_ok {context : RuleContext} {name : String} {mode : Mode}
    {found : List Prerequisite} (answered : context.prerequisites name mode = .ok found) :
    found = context.dependencies.of name ∧
      ∃ attr, context.rule.ruleClass.attribute? name = some attr ∧
        attr.transition = mode.transition := by
  cases declared : context.rule.ruleClass.attribute? name with
  | none =>
    rw [prerequisites_of_undeclared mode declared] at answered
    cases answered
  | some attr =>
    by_cases same : attr.transition = mode.transition
    · rw [prerequisites_of_mode declared same] at answered
      cases answered
      exact ⟨rfl, attr, rfl, same⟩
    · rw [prerequisites_of_other_mode declared same] at answered
      cases answered

/-- A context that was built under the standard transitions aborts the question for the
prerequisites of an attribute exactly when the attribute is not declared or is configured for
another mode, and every prerequisite that it does answer with is in the right configuration. -/
theorem prerequisites_in_configuration_of_mode (rule : Rule) (configuration : Configuration)
    (owner : Label) (targets : TargetLookup) (policy : Policy)
    (transitions : StandardTransitions) (analyzed : List ConfiguredTarget)
    (labelMap : Option LabelMap) {context : RuleContext} {record after : Record}
    (built : (build
      { rule := rule, configuration := configuration, owner := owner, targets := targets,
        policy := policy, transition := some transitions.configure,
        prerequisites := some (.ofList analyzed), labelMap := labelMap }).start record =
          (.ok context, after)) (name : String) (mode : Mode) :
    ((∃ abort, context.prerequisites name mode = .error abort) ↔
      rule.ruleClass.attribute? name = none ∨
        ∃ attr, rule.ruleClass.attribute? name = some attr ∧
          attr.transition ≠ mode.transition) ∧
    ∀ found, context.prerequisites name mode = .ok found → ∀ prerequisite ∈ found,
      (prerequisite.target.isInputFile = true → prerequisite.configuration = none) ∧
      (prerequisite.target.isInputFile = false →
        (configuration.isHost = true → prerequisite.configuration = some configuration) ∧
        (configuration.isHost = false →
          prerequisite.configuration = some (transitions.ofMode configuration mode))) := by
  obtain ⟨resolver, kept, entries, resolved, rfl, -⟩ := exists_resolved_of_build built
  obtain ⟨-, sameConfiguration, -, sameTransition, -⟩ := resolver?_eq_some resolved.ready
  have standard : resolver.transition = transitions.configure :=
    (Option.some.inj sameTransition).symm
  refine ⟨prerequisites_eq_error_iff _ name mode, ?_⟩
  intro found answered prerequisite member
  obtain ⟨rfl, attr, declared, sameMode⟩ := prerequisites_eq_ok answered
  obtain ⟨other, label, declaredOther, resolves⟩ := resolved.exists_resolves_of_mem member
  have sameAttr : attr = other := Option.some.inj (declared.symm.trans declaredOther)
  have settled := resolves.configuration_eq standard
  rw [← sameAttr, sameMode, sameConfiguration] at settled
  constructor
  · intro source
    rw [settled, if_pos source]
  · intro notSource
    rw [if_neg (by simp [notSource])] at settled
    constructor
    · intro host
      rw [settled, transitions.next_of_isHost host]
    · intro notHost
      rw [settled, transitions.next_of_mode notHost]

end RuleContext

namespace Sample

def configuration (name : String) : Configuration := ⟨name, name, false, true, ∅⟩

/-- The libraries among the dependencies of a library; other targets are dropped silently. -/
def libraryDeps : Attribute where
  name := "deps"
  type := .labelList
  silentClassFilter := true
  allowedClasses := .only ["library"]

/-- A class whose rules have sources and libraries, which stay in the configuration of the rule,
and tools, which are built for the host. -/
def libraryClass : RuleClass where
  name := "library"
  attributes :=
    [{ name := "srcs", type := .labelList },
      { name := "tools", type := .labelList, transition := .host },
      libraryDeps]
  index := .ofList [("srcs", 0), ("tools", 1), ("deps", 2)]
  checked := rfl

def source : Label := ⟨"p", "a.cc", by decide⟩

def generator : Label := ⟨"q", "gen", by decide⟩

/-- A rule with one source of its own package and one tool of another. Among its libraries the tool
is written twice, and the source once. -/
def library : Rule where
  label := ⟨"p", "lib", by decide⟩
  ruleClass := libraryClass
  location := ⟨"p/BUILD", 3, 0⟩
  values := .ofList
    [("srcs", .labelList [source]), ("tools", .labelList [generator]),
      ("deps", .labelList [generator, source, generator])]

def targets : TargetLookup := fun label =>
  if label = source then .ok (.inputFile ⟨source, ⟨"p/BUILD", 0, 0⟩, true, []⟩)
  else if label = generator then
    .ok (.rule { label := generator, ruleClass := libraryClass, location := ⟨"q/BUILD", 0, 0⟩ })
  else .error (.noSuchTarget label.display)

/-- The tool is analyzed twice for the host, so the later analysis replaces the earlier one. -/
def analyzed : List ConfiguredTarget :=
  [⟨generator, some (configuration "host"), {}⟩, ⟨source, none, {}⟩,
    ⟨generator, some (configuration "target"), {}⟩,
    ⟨generator, some (configuration "host"), { files := some [] }⟩]

def request : ContextRequest where
  rule := library
  configuration := configuration "target"
  owner := library.label
  targets := targets
  transition := some (StandardTransitions.configure ⟨configuration "host", none⟩)
  prerequisites := some (.ofList analyzed)

end Sample

/-- The tool of a library is there for the host. -/
theorem RuleContext.prerequisites_in_configuration_of_mode_tools :
    ∃ context after, (build Sample.request).start {} = (.ok context, after) ∧
      ∃ found, context.prerequisites "tools" .host = .ok found ∧ found.length = 1 ∧
        ∀ prerequisite ∈ found,
          prerequisite.configuration = some (Sample.configuration "host") := by
  have settled := prerequisites_in_configuration_of_mode Sample.library
    (Sample.configuration "target") Sample.library.label Sample.targets .allowAll
    ⟨Sample.configuration "host", none⟩ Sample.analyzed none
    (show (build Sample.request).start {} = (.ok _, _) from rfl) "tools" .host
  refine ⟨_, _, rfl, _, rfl, rfl, ?_⟩
  intro prerequisite member
  refine ((settled.2 _ rfl prerequisite member).2 ?_).2 rfl
  rcases List.mem_singleton.mp member with rfl
  rfl

end BuildRules

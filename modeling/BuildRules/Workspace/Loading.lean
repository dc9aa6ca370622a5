import BuildRules.Analysis.Context
import BuildRules.Workspace.Classes
import BuildRules.Workspace.Provided

/-!
# Loaded workspaces

To load a manifest is to build its rule classes, to load its targets, and to note for
every target what its analysis provides in every configuration. A rule can be analyzed
in a loaded workspace: its dependencies are resolved in the target configuration.

Labels are unique in a workspace, and so are the names of its rule classes.
-/

set_option autoImplicit false

namespace BuildRules

namespace Manifest

/-- The configurations in which targets are analyzed: data only if it is another one. -/
def Configurations.all (configurations : Configurations) : List Configuration :=
  let both := [configurations.target, configurations.host]
  match configurations.data with
  | none => both
  | some data => if data ∈ both then both else both ++ [data]

def Configurations.transitions (configurations : Configurations) : StandardTransitions :=
  ⟨configurations.host, configurations.data⟩

end Manifest

/-- What has been loaded of a workspace. -/
structure LoadedTargets where
  /-- The targets, the latest first. -/
  targets : List Target := []
  /-- The rules, the latest first. -/
  rules : List Rule := []
  prerequisites : PrerequisiteMap := {}

/-- A workspace whose targets are loaded and analyzed. -/
structure Workspace where
  targets : List Target
  /-- The rules in the order of the manifest. -/
  rules : List Rule
  prerequisites : PrerequisiteMap
  configuration : Configuration
  transitions : StandardTransitions
  options : AnalysisOptions

namespace LoadedTargets

def find? (loaded : LoadedTargets) (label : Label) : Option Target :=
  loaded.targets.find? (·.label = label)

/-- Adds a target, whose label no other target may have. -/
def add (loaded : LoadedTargets) (target : Target) : Except LoadError LoadedTargets :=
  if (loaded.find? target.label).isSome then
    .error (.manifest ("duplicate target '" ++ target.label.display ++ "'"))
  else .ok { loaded with targets := target :: loaded.targets }

def note (loaded : LoadedTargets) (target : ConfiguredTarget) : LoadedTargets :=
  { loaded with prerequisites := loaded.prerequisites.insert target }

/-- Notes the analyses of a target in several configurations. -/
def noteAll (loaded : LoadedTargets) (targets : List ConfiguredTarget) : LoadedTargets :=
  targets.foldl note loaded

end LoadedTargets

def Label.buildFile (label : Label) : String :=
  if label.package.isEmpty then "BUILD" else label.package ++ "/BUILD"

namespace Rule

/-- Sets the values that a manifest gives, in the order of the attribute names. -/
def setWritten (rule : Rule) : List (String × Json.Value) → Except LoadError Rule
  | [] => .ok rule
  | (name, written) :: rest => do
    match rule.ruleClass.attribute? name with
    | none =>
      throw (rule.refused name (ValueFault.noSuchAttribute rule.ruleClass.name).message)
    | some attr =>
      match AttributeValue.ofJson attr.type rule.package written with
      | .error fault => throw (rule.refused name fault.message)
      | .ok value =>
        let (set, rule) := (setValue name value).start rule
        set
        rule.setWritten rest

end Rule

namespace Manifest

def WrittenFile.load (written : WrittenFile) : Except LoadError InputFile := do
  let label ← Label.parse written.label
  return ⟨label, ⟨label.buildFile, 0, 0⟩, written.present,
    written.visibility.getD [.everything]⟩

def WrittenRule.load (written : WrittenRule) (classes : RuleClasses) :
    Except LoadError Rule := do
  let label ← Label.parse written.label
  match classes.find? written.className with
  | none =>
    let name := written.className
    throw (.manifest s!"unknown rule class '{name}' for {label}")
  | some ruleClass =>
    let bare : Rule :=
      { label := label, ruleClass := ruleClass,
        location := ⟨label.buildFile, written.line.getD 0, 0⟩ }
    let rule ← bare.setWritten written.values.entries
    let outputs ← written.outputs.mapM (Label.parseIn label.package)
    return { rule with outputs := outputs, visibility := written.visibility }

end Manifest

namespace LoadedTargets

def addOutputs (configurations : List Configuration) (rule : Rule) :
    LoadedTargets → List OutputFile → Except LoadError LoadedTargets
  | loaded, [] => .ok loaded
  | loaded, file :: rest => do
    let loaded := loaded.noteAll (configurations.map (rule.outputAnalysis file.label))
    let loaded ← loaded.add (.outputFile file)
    addOutputs configurations rule loaded rest

def addWritten (classes : Manifest.RuleClasses) (configurations : List Configuration)
    (loaded : LoadedTargets) : Manifest.WrittenTarget → Except LoadError LoadedTargets
  | .inputFile written => do
    let file ← written.load
    (loaded.note file.analysis).add (.inputFile file)
  | .rule written => do
    let rule ← written.load classes
    let loaded ← addOutputs configurations rule loaded rule.outputFiles
    let loaded := loaded.noteAll (configurations.map (rule.analysis written.provides))
    let loaded ← loaded.add (.rule rule)
    return { loaded with rules := rule :: loaded.rules }

def addAll (classes : Manifest.RuleClasses) (configurations : List Configuration) :
    LoadedTargets → List Manifest.WrittenTarget → Except LoadError LoadedTargets
  | loaded, [] => .ok loaded
  | loaded, written :: rest => do
    let loaded ← loaded.addWritten classes configurations written
    addAll classes configurations loaded rest

end LoadedTargets

namespace Workspace

def load (manifest : Manifest) : Except LoadError Workspace := do
  let classes ← Manifest.buildClasses ∅ manifest.ruleClasses
  let configurations := manifest.configurations
  let loaded ← LoadedTargets.addAll classes configurations.all {} manifest.targets
  return ⟨loaded.targets.reverse, loaded.rules.reverse, loaded.prerequisites,
    configurations.target, configurations.transitions, manifest.options⟩

def parse (source : String) : Except LoadError Workspace := do
  let manifest ← Manifest.parse source
  load manifest

def target (workspace : Workspace) (label : Label) : Except LoadError Target :=
  match workspace.targets.find? (·.label = label) with
  | some target => .ok target
  | none => .error (.noSuchTarget label.display)

def rule? (workspace : Workspace) (label : Label) : Option Rule :=
  workspace.rules.find? (·.label = label)

/-- What the context of a rule of the workspace is built from. -/
def request (workspace : Workspace) (rule : Rule) : ContextRequest where
  rule := rule
  configuration := workspace.configuration
  owner := rule.label
  targets := workspace.target
  policy := workspace.options.policy
  transition := some workspace.transitions.configure
  prerequisites := some workspace.prerequisites

/-- Does the class of a rule have sources that are checked for their packages? -/
def hasCheckedSources (rule : Rule) : Bool :=
  (rule.ruleClass.attribute? "srcs").any fun attr =>
    attr.type = .labelList && attr.transition = .none

/-- Analyzes a rule: builds its context, and checks the packages of its sources if the options
ask for it. -/
def analyze (workspace : Workspace) (rule : Rule) : Analysis RuleContext := do
  let context ← RuleContext.build (workspace.request rule)
  match workspace.options.sourcePackages with
  | none => return context
  | some check =>
    if hasCheckedSources rule then context.checkSourcePackages check.onlyWarns
    return context

end Workspace

end BuildRules

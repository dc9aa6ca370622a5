import BuildRules.Analysis.Context

/-!
# Operations on a context

An `Operation` is one thing that the implementation of a rule class can ask of its
context, and an `Answer` is what it gets. `RuleContext.perform` performs an operation on
the record of the analysis. Only `counts` looks at what has been recorded before.
`isVisible` and `register` are about a prerequisite and an action of the rule itself,
`sees` and `registerAction` about any analyzed target and any action.
-/

set_option autoImplicit false

namespace BuildRules

/-- One thing to ask of a context. -/
inductive Operation where
  | prerequisites (name : String) (mode : Mode)
  | prerequisite (name : String) (mode : Mode)
  | provider (name : String) (mode : Mode) (kind : ProviderKind)
  | providers (name : String) (mode : Mode) (kind : ProviderKind)
  | executable (name : String) (mode : Mode)
  | artifacts (name : String) (mode : Mode)
  | artifactsOfType (name : String) (mode : Mode) (types : FileTypeSet)
  | artifact (name : String) (mode : Mode)
  | singleSource (kind : Option String)
  | checkSourcePackages (onlyWarns : Bool)
  | nodepLabel (name : String)
  | compiler (warnUnlessDefault : Bool)
  | isVisible (name : String) (mode : Mode) (index : Nat)
  | sees (analyzed : ConfiguredTarget)
  | dependencyMap
  | dependenciesOf (name : String)
  | filesetMap
  | filesetOf (name : String)
  | expand (name text : String)
  | expandSingle (name text : String)
  | expandWith (name text : String) (lookup : MakeVariable.Lookup)
  | expandedStrings (name : String)
  | attributeWords (name : String)
  | words (given : List String) (name text : String)
  | outputRoot
  | outputArtifactOfRule
  | outputArtifacts
  | singleOutput
  | artifactOf (output : Label)
  | implicitOutput (paths : Rule → List String)
  | relatedArtifact (path extension : String)
  | uniqueDirectory (fragment : String)
  | derivedArtifact (path : String) (root : Root)
  | wantsRunfilesLinks
  | filesToRun (middleman : Option Artifact) (filesToBuild : List Artifact)
  | actionOwner
  | register (mnemonic : String) (inputs outputs : List Artifact) (arguments : List String)
  | registerAction (action : Action)
  | reportRule (severity : Severity) (text : String)
  | reportAttribute (severity : Severity) (name text : String)
  | report (diagnostic : Diagnostic)
  | counts

/-- What an operation gives. -/
inductive Answer where
  | done
  | prerequisites (list : List Prerequisite)
  | prerequisite (value : Option Prerequisite)
  | providers (list : List Provider)
  | provider (value : Option Provider)
  | run (value : Option FilesToRun)
  | artifacts (list : List Artifact)
  | artifact (value : Option Artifact)
  | label (value : Option Label)
  | flag (value : Option Bool)
  | text (value : Option String)
  | texts (list : List String)
  | dependencies (map : DependencyMap)
  | filesets (map : FilesetMap)
  | filesetEntries (list : List ResolvedFilesetEntry)
  | root (value : Root)
  | owner (value : ActionOwner)
  | counts (hasErrors : Bool) (errors warnings : Nat)

/-- Does the operation look at what has been recorded before? -/
def Operation.readsRecord : Operation → Bool
  | .counts => true
  | _ => false

def RuleContext.perform (context : RuleContext) : Operation → Analysis Answer
  | .prerequisites name mode => do return .prerequisites (← context.prerequisites name mode)
  | .prerequisite name mode => do return .prerequisite (← context.prerequisite name mode)
  | .provider name mode kind => do return .provider (← context.provider name mode kind)
  | .providers name mode kind => do return .providers (← context.providers name mode kind)
  | .executable name mode => do return .run (← context.executable name mode)
  | .artifacts name mode => do return .artifacts (← context.artifacts name mode)
  | .artifactsOfType name mode types => do
    return .artifacts (← context.artifactsOfType name mode types)
  | .artifact name mode => do return .artifact (← context.artifact name mode)
  | .singleSource kind => do return .artifact (← context.singleSource kind)
  | .checkSourcePackages onlyWarns => do
    context.checkSourcePackages onlyWarns
    return .done
  | .nodepLabel name => do return .label (← context.nodepLabel name)
  | .compiler warnUnlessDefault => do return .run (← context.compiler warnUnlessDefault)
  | .isVisible name mode index => do
    let prerequisites ← context.prerequisites name mode
    return .flag (prerequisites[index]?.map fun prerequisite =>
      Validation.isVisible context.rule prerequisite.configured)
  | .sees analyzed => return .flag (some (Validation.isVisible context.rule analyzed))
  | .dependencyMap => return .dependencies context.dependencies
  | .dependenciesOf name => return .prerequisites (context.dependencies.of name)
  | .filesetMap => return .filesets context.filesets
  | .filesetOf name => return .filesetEntries (context.filesets.of name)
  | .expand name text => do return .text (some (← context.expand name text))
  | .expandSingle name text => do return .text (← context.expandSingle name text)
  | .expandWith name text lookup => do return .text (some (← context.expandWith name text lookup))
  | .expandedStrings name => do return .texts (← context.expandedStrings name)
  | .attributeWords name => do return .texts (← context.attributeWords name)
  | .words given name text => do return .texts (← context.wordsOf name given text)
  | .outputRoot => return .root context.outputRoot
  | .outputArtifactOfRule => do return .artifact (some (← context.outputArtifactOfRule))
  | .outputArtifacts => do return .artifacts (← context.outputArtifacts)
  | .singleOutput => do return .artifact (← context.singleOutput)
  | .artifactOf output => do return .artifact (some (← context.artifactOf output))
  | .implicitOutput paths => do return .artifact (some (← context.implicitOutput paths))
  | .relatedArtifact path extension => do
    return .artifact (some (← context.relatedArtifact path extension))
  | .uniqueDirectory fragment => return .text (some (context.uniqueDirectory fragment))
  | .derivedArtifact path root => do
    return .artifact (some (← context.derivedArtifact path root))
  | .wantsRunfilesLinks => return .flag (some context.wantsRunfilesLinks)
  | .filesToRun middleman filesToBuild =>
    return .artifacts (RuleContext.filesToRun middleman filesToBuild)
  | .actionOwner => return .owner context.actionOwner
  | .register mnemonic inputs outputs arguments => do
    Analysis.register ⟨context.actionOwner, mnemonic, inputs, outputs, arguments⟩
    return .done
  | .registerAction action => do
    Analysis.register action
    return .done
  | .reportRule severity text => do
    context.reportRule severity text
    return .done
  | .reportAttribute severity name text => do
    context.reportAttribute severity name text
    return .done
  | .report diagnostic => do
    Analysis.report diagnostic
    return .done
  | .counts => do
    let record ← get
    return .counts record.hasErrors (record.count .error) (record.count .warning)

/-- Performs operations one after the other on a record. An operation that aborts leaves what it
has recorded, and the next one goes on from there. -/
def RuleContext.performAll (context : RuleContext) :
    List Operation → Record → List (Except Abort Answer) × Record
  | [], record => ([], record)
  | operation :: rest, record =>
    let (answer, record) := (context.perform operation).start record
    let (answers, record) := context.performAll rest record
    (answer :: answers, record)

end BuildRules

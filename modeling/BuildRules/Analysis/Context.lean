import BuildRules.Analysis.Dependencies
import BuildRules.MakeVariable
import BuildRules.Words

/-!
# The context of a rule under analysis

A `RuleContext` holds a rule, its configuration and its resolved dependencies. It answers
what the implementation of a rule class wants to know about them: prerequisites and
their files, outputs and other derived artifacts, and values with make variables
expanded. What a build file gets wrong is reported; what the class does not declare
aborts.
-/

set_option autoImplicit false

namespace BuildRules

/-- What a context is built from. -/
structure ContextRequest where
  rule : Rule
  configuration : Configuration
  /-- The owner of the artifacts that the analysis derives. -/
  owner : Label
  targets : TargetLookup
  policy : Policy := .allowAll
  transition : Option ConfigurationTransition := none
  prerequisites : Option PrerequisiteMap := none
  /-- The dependencies; those of the rule, if none are given. -/
  labelMap : Option LabelMap := none

/-- A rule in a configuration with its resolved dependencies. -/
structure RuleContext where
  rule : Rule
  configuration : Configuration
  owner : Label
  dependencies : DependencyMap
  filesets : FilesetMap

/-- Builds a context: all dependencies are resolved and checked. -/
def RuleContext.build (request : ContextRequest) : Analysis RuleContext := do
  let rule := request.rule
  let some transition := request.transition | throw (.noTransition rule.label)
  let some prerequisites := request.prerequisites | throw (.noPrerequisites rule.label)
  let resolver : Resolver :=
    ⟨rule, request.configuration, request.targets, transition, prerequisites⟩
  let dependencies ←
    resolver.dependencyMap request.policy (request.labelMap.getD rule.labelMap)
  let filesets ← resolver.filesetMap
  return ⟨rule, request.configuration, request.owner, dependencies, filesets⟩

/-- A path with the extension of its base name replaced. -/
def replaceExtension (path extension : String) : String :=
  let stem (base : List Char) : List Char :=
    match Text.cutAtLast '.' base with
    | some (before, _) => before
    | none => base
  match Text.cutAtLast '/' path.toList with
  | some (directory, base) => String.ofList (directory ++ '/' :: stem base) ++ extension
  | none => String.ofList (stem path.toList) ++ extension

namespace RuleContext

/-! ## Reports -/

def reportRule (context : RuleContext) (severity : Severity) (text : String) : Analysis Unit :=
  Analysis.report (context.rule.diagnostic severity text)

def reportAttribute (context : RuleContext) (severity : Severity) (name text : String) :
    Analysis Unit :=
  Analysis.report (context.rule.attributeDiagnostic severity name text)

/-! ## Actions and outputs -/

/-- The rule and the configuration for which actions are registered. Nothing remembers the owner
from one request to the next: it is made of fields of the context, which never change, so
each request gives the same one. -/
def actionOwner (context : RuleContext) : ActionOwner where
  label := context.rule.label
  location := context.rule.location
  configurationName := context.configuration.name
  configurationMnemonic := context.configuration.mnemonic
  configurationKey := context.configuration.cacheKey
  targetKind := context.rule.kind
  progressInfo := if context.configuration.isHost then some "host" else none

def outputRoot (context : RuleContext) : Root :=
  if context.rule.ruleClass.binaryOutput then context.configuration.binRoot
  else context.configuration.genfilesRoot

def derivedArtifact (context : RuleContext) (path : String) (root : Root) : Analysis Artifact :=
  Analysis.intern ⟨root, path, context.owner⟩

def artifactOf (context : RuleContext) (output : Label) : Analysis Artifact :=
  context.derivedArtifact output.path context.outputRoot

def outputArtifactOfRule (context : RuleContext) : Analysis Artifact :=
  context.artifactOf context.rule.label

/-- The artifacts of the given labels, asked for in order. -/
def artifactsOf (context : RuleContext) : List Label → Analysis (List Artifact)
  | [] => return []
  | label :: rest => do
    let artifact ← context.artifactOf label
    let others ← context.artifactsOf rest
    return artifact :: others

def outputArtifacts (context : RuleContext) : Analysis (List Artifact) :=
  context.artifactsOf context.rule.outputs

/-- The artifact of the first declared output; that it is the only one is checked. -/
def singleOutput (context : RuleContext) : Analysis (Option Artifact) := do
  let outputs ← context.outputArtifacts
  if outputs.length ≠ 1 then
    context.reportAttribute .error "out" "exactly one output file required"
  return outputs.head?

/-- The artifact of an output that is not declared: one path, relative to the package. -/
def implicitOutput (context : RuleContext) (paths : Rule → List String) : Analysis Artifact := do
  let rule := context.rule
  match paths rule with
  | [path] =>
    let path := if rule.package.isEmpty then path else rule.package ++ "/" ++ path
    context.derivedArtifact path context.outputRoot
  | other => throw (.implicitOutputs rule.location rule.label other.length)

/-- The artifact among the binaries whose path differs from a given one in the extension. -/
def relatedArtifact (context : RuleContext) (path extension : String) : Analysis Artifact :=
  context.derivedArtifact (replaceExtension path extension) context.configuration.binRoot

/-- A directory that no other rule uses for the same purpose. -/
def uniqueDirectory (context : RuleContext) (fragment : String) : String :=
  let label := context.rule.label
  if label.package.isEmpty then fragment ++ "/" ++ label.name
  else label.package ++ "/" ++ fragment ++ "/" ++ label.name

/-- Does the rule want symbolic links to its runfiles? Tests leave that to the configuration. -/
def wantsRunfilesLinks (context : RuleContext) : Bool :=
  if context.rule.ruleClass.isTest then context.configuration.buildRunfiles else true

/-- The built files, followed by the middleman of the runfiles. -/
def filesToRun (middleman : Option Artifact) (filesToBuild : List Artifact) : List Artifact :=
  filesToBuild ++ middleman.toList

/-! ## Prerequisites -/

/-- The declaration of an attribute that is configured for a mode. -/
def attributeFor (context : RuleContext) (name : String) (mode : Mode) :
    Except Abort Attribute :=
  let rule := context.rule
  match rule.ruleClass.attribute? name with
  | none => .error (.undeclared rule.location rule.ruleClass.name name)
  | some attr =>
    if attr.transition = mode.transition then .ok attr
    else .error (.otherMode rule.location rule.ruleClass.name name mode)

def prerequisites (context : RuleContext) (name : String) (mode : Mode) :
    Except Abort (List Prerequisite) := do
  let _ ← context.attributeFor name mode
  return context.dependencies.of name

/-- The only prerequisite of an attribute, if it has one. -/
def prerequisite (context : RuleContext) (name : String) (mode : Mode) :
    Except Abort (Option Prerequisite) := do
  let attr ← context.attributeFor name mode
  if !attr.type.isDependency then throw (.notLabels context.rule.ruleClass.name name)
  match context.dependencies.of name with
  | [] => return none
  | [only] => return some only
  | _ => throw (.manyPrerequisites context.rule.ruleClass.name name)

/-- A provider of the only prerequisite of an attribute. -/
def provider (context : RuleContext) (name : String) (mode : Mode) (kind : ProviderKind) :
    Except Abort (Option Provider) := do
  let prerequisite ← context.prerequisite name mode
  return prerequisite.bind (·.providers.get? kind)

/-- The providers of a kind of all prerequisites of an attribute. -/
def providers (context : RuleContext) (name : String) (mode : Mode) (kind : ProviderKind) :
    Except Abort (List Provider) := do
  let prerequisites ← context.prerequisites name mode
  return prerequisites.filterMap (·.providers.get? kind)

/-- The only prerequisite of an executable attribute, which has to have an executable. -/
def executable (context : RuleContext) (name : String) (mode : Mode) :
    Analysis (Option FilesToRun) := do
  let attr ← context.attributeFor name mode
  if !attr.executable then throw (.notExecutable context.rule.ruleClass.name name)
  match ← context.prerequisite name mode with
  | none => return none
  | some prerequisite =>
    match prerequisite.providers.filesToRun.filter (·.executable.isSome) with
    | some run => return some run
    | none =>
      context.reportAttribute .error name
        (prerequisite.label.display ++ " does not refer to a valid executable target")
      return none

/-- The files that the prerequisites of an attribute build, each file once. -/
def artifacts (context : RuleContext) (name : String) (mode : Mode) :
    Except Abort (List Artifact) := do
  let prerequisites ← context.prerequisites name mode
  return Artifact.distinct (prerequisites.flatMap (·.configured.filesToBuild))

/-- Those of the files that the prerequisites of an attribute build that are of given types. -/
def artifactsOfType (context : RuleContext) (name : String) (mode : Mode) (types : FileTypeSet) :
    Except Abort (List Artifact) := do
  let artifacts ← context.artifacts name mode
  return types.filter artifacts

/-- The only file that the only prerequisite of an attribute builds. -/
def artifact (context : RuleContext) (name : String) (mode : Mode) :
    Analysis (Option Artifact) := do
  match ← context.prerequisite name mode with
  | none => return none
  | some prerequisite =>
    match prerequisite.configured.filesToBuild with
    | [only] => return some only
    | _ =>
      context.reportAttribute .error name
        (prerequisite.label.display ++ " expected a single artifact")
      return none

/-- The first source of the rule; that it is the only one is checked. -/
def singleSource (context : RuleContext) (kind : Option String) : Analysis (Option Artifact) := do
  let sources ← context.artifacts "srcs" .target
  if 1 < sources.length then
    let kind := kind.getD (context.rule.ruleClass.name ++ " source file")
    context.reportAttribute .error "srcs" s!"only a single {kind} is allowed here"
  return sources.head?

/-- A source file that belongs to another package. -/
def isForeignSource (context : RuleContext) (artifact : Artifact) : Bool :=
  artifact.isSource && artifact.owner.package ≠ context.rule.package

/-- Reports the source files of other packages among the sources of the rule. -/
def checkSourcePackages (context : RuleContext) (onlyWarns : Bool) : Analysis Unit := do
  let sources ← context.artifacts "srcs" .target
  Analysis.reportAll <| (sources.filter context.isForeignSource).map fun artifact =>
    let owner := artifact.owner
    context.rule.attributeDiagnostic (if onlyWarns then .warning else .error) "srcs"
      (s!"please do not import '{owner}' directly. You should either move the file to this " ++
        "package or depend on an appropriate rule there")

/-- The label of a `nodep_label` attribute; that it is one of the package is checked. -/
def nodepLabel (context : RuleContext) (name : String) : Analysis (Option Label) := do
  let rule := context.rule
  if !rule.ruleClass.hasAttribute name .nodepLabel then
    throw (.notNodepLabel rule.ruleClass.name name)
  match rule.labelValue? name with
  | none => return none
  | some label =>
    if label.package ≠ rule.package then
      context.reportAttribute .warning name "does not reference a local rule"
    return some label

/-- The label that the class of the rule gives for an attribute by default. -/
def defaultLabel? (context : RuleContext) (name : String) : Option Label :=
  match (context.rule.ruleClass.attribute? name).bind Attribute.defaultValue with
  | some (.label value) => value
  | _ => none

def compiler (context : RuleContext) (warnUnlessDefault : Bool) : Analysis (Option FilesToRun) := do
  if warnUnlessDefault then
    if context.rule.labelValue? "compiler" ≠ context.defaultLabel? "compiler" then
      context.reportAttribute .warning "compiler" "setting the compiler is strongly discouraged"
  context.executable "compiler" .host

/-! ## Make variables -/

def makeVariables (context : RuleContext) : MakeVariable.Lookup :=
  MakeVariable.ofConfiguration context.rule.package context.configuration

/-- The text with the given variables expanded; a text that cannot be expanded stays as it is. -/
def expandWith (context : RuleContext) (name text : String) (lookup : MakeVariable.Lookup) :
    Analysis String := do
  match MakeVariable.expand lookup text with
  | .ok expanded => return expanded
  | .error error =>
    context.reportAttribute .error name error.message
    return text

/-- The text with the make variables of the rule expanded. -/
def expand (context : RuleContext) (name text : String) : Analysis String :=
  context.expandWith name text context.makeVariables

/-- The value of a text that is one reference and nothing else. -/
def expandSingle (context : RuleContext) (name text : String) : Analysis (Option String) := do
  match MakeVariable.expandSingle context.makeVariables text with
  | .ok value => return value
  | .error error =>
    context.reportAttribute .error name error.message
    return some text

/-- The given texts with the make variables of the rule expanded, in order. -/
def expandAll (context : RuleContext) (name : String) : List String → Analysis (List String)
  | [] => return []
  | text :: rest => do
    let expanded ← context.expand name text
    let others ← context.expandAll name rest
    return expanded :: others

/-- The strings of an attribute with the make variables of the rule expanded. -/
def expandedStrings (context : RuleContext) (name : String) : Analysis (List String) :=
  context.expandAll name (context.rule.stringListValue name)

/-- The given words, and after them those of a text, which is expanded first. -/
def wordsOf (context : RuleContext) (name : String) (words : List String) (text : String) :
    Analysis (List String) := do
  let expanded ← context.expand name text
  let (words, fault?) := Words.appendTo words expanded
  match fault? with
  | none => pure ()
  | some fault => context.reportAttribute .error name fault.message
  return words

/-- The given words, and after them those of the texts, each expanded and read on its own. -/
def wordsOfAll (context : RuleContext) (name : String) (words : List String) :
    List String → Analysis (List String)
  | [] => return words
  | text :: rest => do
    let words ← context.wordsOf name words text
    context.wordsOfAll name words rest

/-- The words of the strings of an attribute; none, if it is no list of strings. -/
def attributeWords (context : RuleContext) (name : String) : Analysis (List String) :=
  if context.rule.ruleClass.hasAttribute name .stringList then
    context.wordsOfAll name [] (context.rule.stringListValue name)
  else return []

end RuleContext

end BuildRules

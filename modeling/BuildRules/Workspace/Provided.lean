import BuildRules.Provider
import BuildRules.Target
import BuildRules.Workspace.Manifest

/-!
# What the analyses of targets provide

A workspace knows what the analysis of each of its targets provides without running it: a
source file provides itself, an output of a rule provides its artifact in each
configuration, and a rule provides its outputs and what its capabilities add to them.
-/

set_option autoImplicit false

namespace BuildRules

/-- What the analysis of a source file provides: the file itself. -/
def InputFile.analysis (file : InputFile) : ConfiguredTarget :=
  ⟨file.label, none, .ofList [.files [.source file.label], .visibility file.visibility]⟩

namespace Rule

/-- The root of the outputs of a rule in a configuration. -/
def outputRoot (rule : Rule) (configuration : Configuration) : Root :=
  if rule.ruleClass.binaryOutput then configuration.binRoot else configuration.genfilesRoot

/-- The artifact of an output of a rule in a configuration. -/
def outputArtifact (rule : Rule) (configuration : Configuration) (output : Label) : Artifact :=
  ⟨rule.outputRoot configuration, output.path, rule.label⟩

/-- What the analysis of an output of a rule provides. -/
def outputAnalysis (rule : Rule) (output : Label) (configuration : Configuration) :
    ConfiguredTarget :=
  ⟨output, some configuration,
    .ofList [.files [rule.outputArtifact configuration output], .visibility rule.visibility]⟩

/-- An artifact of a rule among the binaries of a configuration. -/
def binArtifact (rule : Rule) (configuration : Configuration) (path : String) : Artifact :=
  ⟨configuration.binRoot, path, rule.label⟩

def analysis (rule : Rule) (provides : Manifest.Capabilities) (configuration : Configuration) :
    ConfiguredTarget :=
  let path := rule.label.path
  let files := rule.outputs.map (rule.outputArtifact configuration)
  let run : FilesToRun :=
    ⟨some (rule.binArtifact configuration path), files,
      some (rule.binArtifact configuration (path ++ ".runfiles"))⟩
  let executable := if provides.executable then [Provider.filesToRun run] else []
  let fileset :=
    if provides.fileset then [Provider.fileset (rule.binArtifact configuration path)] else []
  ⟨rule.label, some configuration,
    .ofList ([.visibility rule.visibility, .files files] ++ executable ++ fileset)⟩

end Rule

end BuildRules

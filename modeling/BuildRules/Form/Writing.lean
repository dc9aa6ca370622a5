import BuildRules.Action
import BuildRules.Diagnostic
import BuildRules.Json.Value
import BuildRules.Options
import BuildRules.Provider

/-!
# Values written as JSON

Labels and package specifications are written in their display forms, and everything
else as a record of its parts. What is not there is null.
-/

set_option autoImplicit false

namespace BuildRules

open Json (Value)

def Json.listForm {α : Type} (form : α → Value) (items : List α) : Value :=
  .array (items.map form)

def Json.optionForm {α : Type} (form : α → Value) (item : Option α) : Value :=
  (item.map form).getD .null

def Json.countForm (count : Nat) : Value := .number (.whole count)

def Label.form (label : Label) : Value := .string label.display

def PackageSpecification.form (specification : PackageSpecification) : Value :=
  .string specification.display

def Location.form (location : Location) : Value :=
  .record [("file", .string location.file), ("line", Json.countForm location.line.toNat),
    ("column", Json.countForm location.column.toNat)]

def Configuration.form (configuration : Configuration) : Value :=
  .record [("name", .string configuration.name), ("mnemonic", .string configuration.mnemonic),
    ("host", .bool configuration.isHost), ("build_runfiles", .bool configuration.buildRunfiles),
    ("make_variables",
      .record (configuration.makeVariables.entries.map fun (name, value) => (name, .string value)))]

def AnalysisOptions.form (options : AnalysisOptions) : Value :=
  .record [("visibility", .string options.visibility.display),
    ("srcs_same_package",
      Json.optionForm (fun check => .string check.display) options.sourcePackages)]

def RootKind.display : RootKind → String
  | .source => "source"
  | .bin => "bin"
  | .genfiles => "genfiles"

def Root.form (root : Root) : Value :=
  .record [("kind", .string root.kind.display), ("exec_path", .string root.execPath)]

def Artifact.form (artifact : Artifact) : Value :=
  .record [("root", artifact.root.form), ("root_relative_path", .string artifact.path),
    ("owner", artifact.owner.form)]

def ProviderKind.display : ProviderKind → String
  | .files => "files"
  | .filesToRun => "files_to_run"
  | .visibility => "visibility"
  | .fileset => "fileset"

def Provider.members : Provider → List (String × Value)
  | .files filesToBuild => [("files_to_build", Json.listForm Artifact.form filesToBuild)]
  | .filesToRun run =>
    [("executable", Json.optionForm Artifact.form run.executable),
      ("runfiles", Json.listForm Artifact.form run.runfiles),
      ("runfiles_middleman", Json.optionForm Artifact.form run.middleman)]
  | .visibility specifications =>
    [("visibility", Json.listForm PackageSpecification.form specifications)]
  | .fileset outputDirectory => [("output_directory", outputDirectory.form)]

def Provider.form (provider : Provider) : Value := .record provider.members

/-- The form of a collection of providers: each provider under the name of its kind, which it
also carries. -/
def ProviderCollection.form (collection : ProviderCollection) : Value :=
  .record [("providers", .record (collection.providers.map fun provider =>
    (provider.kind.display, .record (("kind", .string provider.kind.display) :: provider.members))))]

/-- The form of a configured target, which does not show its configuration. -/
def ConfiguredTarget.form (target : ConfiguredTarget) : Value :=
  .record [("label", target.label.form), ("providers", target.providers.form)]

def Diagnostic.form (diagnostic : Diagnostic) : Value :=
  let severity :=
    match diagnostic.severity with
    | .error => "error"
    | .warning => "warning"
  .record [("severity", .string severity), ("location", diagnostic.location.form),
    ("message", .string diagnostic.message)]

def ActionOwner.form (owner : ActionOwner) : Value :=
  .record [("label", owner.label.form), ("location", owner.location.form),
    ("configuration_name", .string owner.configurationName),
    ("configuration_mnemonic", .string owner.configurationMnemonic),
    ("configuration_short_cache_key", .string owner.configurationKey),
    ("target_kind", .string owner.targetKind),
    ("additional_progress_info", Json.optionForm .string owner.progressInfo)]

def Action.form (action : Action) : Value :=
  .record [("owner", action.owner.form), ("mnemonic", .string action.mnemonic),
    ("inputs", Json.listForm Artifact.form action.inputs),
    ("outputs", Json.listForm Artifact.form action.outputs),
    ("arguments", Json.listForm .string action.arguments)]

end BuildRules

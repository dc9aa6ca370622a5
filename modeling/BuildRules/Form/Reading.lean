import BuildRules.Attribute.Declaration
import BuildRules.Configuration
import BuildRules.Json.Decode
import BuildRules.Options

/-!
# Values read from JSON

Labels and package specifications are strings in JSON, and a configuration, the options
of an analysis and a location are records. The members of a record that may be left out
have the value that the structure gives them by default.
-/

set_option autoImplicit false

namespace BuildRules

open Json (Decoder RecordShape)

def Label.decoder : Decoder Label := Json.parsed fun text => (Label.parse text).toOption

def PackageSpecification.decoder : Decoder PackageSpecification :=
  Json.parsed fun text => (PackageSpecification.parse text).toOption

def Location.shape : RecordShape Location where
  names := ["file", "line", "column"]
  required := ["file"]
  closed := false
  blank := ⟨"", 0, 0⟩
  fill location name node :=
    match name with
    | "file" => do return { location with file := ← Json.text node }
    | "line" => do return { location with line := ← Json.word32 node }
    | _ => do return { location with column := ← Json.word32 node }

def Configuration.shape : RecordShape Configuration where
  names := ["name", "mnemonic", "host", "build_runfiles", "make_variables"]
  required := ["name", "mnemonic"]
  closed := false
  blank := ⟨"", "", false, true, ∅⟩
  fill configuration name node :=
    match name with
    | "name" => do return { configuration with name := ← Json.text node }
    | "mnemonic" => do return { configuration with mnemonic := ← Json.text node }
    | "host" => do return { configuration with isHost := ← Json.flag node }
    | "build_runfiles" => do return { configuration with buildRunfiles := ← Json.flag node }
    | _ => do return { configuration with makeVariables := ← Json.mapOf Json.text node }

def AnalysisOptions.shape : RecordShape AnalysisOptions where
  names := ["visibility", "srcs_same_package"]
  required := []
  closed := false
  blank := {}
  fill options name node :=
    match name with
    | "visibility" => do
      return { options with visibility := ← Json.oneOf VisibilityMode.choices node }
    | _ => do
      let check ← Json.orNull (Json.oneOf SourcePackageCheck.choices) node
      return { options with sourcePackages := check }

def AttributeType.decoder : Decoder AttributeType := Json.oneOf AttributeType.choices

def Transition.decoder : Decoder Transition := Json.oneOf Transition.choices

end BuildRules

import BuildRules.Workspace.Values

/-!
# Manifests

A manifest describes a workspace: the options of its analysis, the configurations, the
rule classes and the targets. It is a JSON text. A target is a record that carries its
kind among its members; such a record is read as a whole before its other members are
looked at.
-/

set_option autoImplicit false

namespace BuildRules.Manifest

open Json (Decoder Fault Node RecordShape Scan Value)

/-- The configurations of a workspace. -/
structure Configurations where
  target : Configuration
  host : Configuration
  data : Option Configuration := none
  deriving DecidableEq

/-- An attribute of a rule class as a manifest writes it. -/
structure WrittenAttribute where
  name : String
  type : AttributeType
  transition : Transition := .none
  executable : Bool := false
  strict : Bool := false
  singleArtifact : Bool := false
  nonEmpty : Bool := false
  silentClassFilter : Bool := false
  skipFileTypeCheck : Bool := false
  allowedClasses : Option (List String) := none
  warnedClasses : Option (List String) := none
  allowedFiles : Option (List String) := none
  defaultValue : Option Value := none

/-- A rule class as a manifest writes it. -/
structure WrittenRuleClass where
  name : String
  binaryOutput : Bool := true
  attributes : List WrittenAttribute := []
  exclusive : List (String × String) := []

/-- What the analysis of a rule provides besides its files. -/
structure Capabilities where
  executable : Bool := false
  fileset : Bool := false
  deriving DecidableEq, Repr

/-- A rule as a manifest writes it. -/
structure WrittenRule where
  label : String
  className : String
  line : Option UInt32 := none
  values : NameMap Value := ∅
  outputs : List String := []
  visibility : List PackageSpecification := []
  provides : Capabilities := {}

/-- A source file as a manifest writes it. -/
structure WrittenFile where
  label : String
  present : Bool := true
  visibility : Option (List PackageSpecification) := none

/-- A target as a manifest writes it. -/
inductive WrittenTarget where
  | rule (written : WrittenRule)
  | inputFile (written : WrittenFile)

/-! ## Records -/

def blankConfiguration : Configuration := ⟨"", "", false, true, ∅⟩

def Configurations.shape : RecordShape Configurations where
  names := ["target", "host", "data"]
  required := ["target", "host"]
  closed := true
  blank := ⟨blankConfiguration, blankConfiguration, none⟩
  fill configurations name node :=
    match name with
    | "target" => do return { configurations with target := ← Configuration.shape.decode node }
    | "host" => do return { configurations with host := ← Configuration.shape.decode node }
    | _ => do
      return { configurations with data := ← Json.orNull Configuration.shape.decode node }

def WrittenAttribute.shape : RecordShape WrittenAttribute where
  names := ["name", "type", "cfg", "executable", "strict", "single_artifact", "non_empty",
    "silent_rule_class_filter", "skip_analysis_time_file_type_check", "allowed_rule_classes",
    "allowed_rule_classes_with_warning", "allowed_file_types", "default"]
  required := ["name", "type"]
  closed := true
  blank := ⟨"", .label, .none, false, false, false, false, false, false, none, none, none, none⟩
  fill written name node :=
    let texts := Json.orNull (Json.listOf Json.text)
    match name with
    | "name" => do return { written with name := ← Json.text node }
    | "type" => do return { written with type := ← AttributeType.decoder node }
    | "cfg" => do return { written with transition := ← Transition.decoder node }
    | "executable" => do return { written with executable := ← Json.flag node }
    | "strict" => do return { written with strict := ← Json.flag node }
    | "single_artifact" => do return { written with singleArtifact := ← Json.flag node }
    | "non_empty" => do return { written with nonEmpty := ← Json.flag node }
    | "silent_rule_class_filter" => do
      return { written with silentClassFilter := ← Json.flag node }
    | "skip_analysis_time_file_type_check" => do
      return { written with skipFileTypeCheck := ← Json.flag node }
    | "allowed_rule_classes" => do return { written with allowedClasses := ← texts node }
    | "allowed_rule_classes_with_warning" => do return { written with warnedClasses := ← texts node }
    | "allowed_file_types" => do return { written with allowedFiles := ← texts node }
    | _ => do return { written with defaultValue := ← Json.orNull Node.value node }

def WrittenRuleClass.shape : RecordShape WrittenRuleClass where
  names := ["name", "binary_output", "attributes", "mutually_exclusive"]
  required := ["name"]
  closed := true
  blank := ⟨"", true, [], []⟩
  fill written name node :=
    match name with
    | "name" => do return { written with name := ← Json.text node }
    | "binary_output" => do return { written with binaryOutput := ← Json.flag node }
    | "attributes" => do
      return { written with attributes := ← Json.listOf WrittenAttribute.shape.decode node }
    | _ => do return { written with exclusive := ← Json.listOf (Json.pairOf Json.text) node }

def Capabilities.shape : RecordShape Capabilities where
  names := ["executable", "fileset"]
  required := []
  closed := true
  blank := {}
  fill capabilities name node :=
    match name with
    | "executable" => do return { capabilities with executable := ← Json.flag node }
    | _ => do return { capabilities with fileset := ← Json.flag node }

def WrittenRule.shape : RecordShape WrittenRule where
  names := ["label", "class", "line", "attributes", "outputs", "visibility", "provides"]
  required := ["label", "class"]
  closed := true
  blank := ⟨"", "", none, ∅, [], [], {}⟩
  fill written name node :=
    match name with
    | "label" => do return { written with label := ← Json.text node }
    | "class" => do return { written with className := ← Json.text node }
    | "line" => do return { written with line := ← Json.orNull Json.word32 node }
    | "attributes" => do return { written with values := ← Json.mapOf Node.value node }
    | "outputs" => do return { written with outputs := ← Json.listOf Json.text node }
    | "visibility" => do
      return { written with visibility := ← Json.listOf PackageSpecification.decoder node }
    | _ => do return { written with provides := ← Capabilities.shape.decode node }

def WrittenFile.shape : RecordShape WrittenFile where
  names := ["label", "exists", "visibility"]
  required := ["label"]
  closed := true
  blank := ⟨"", true, none⟩
  fill written name node :=
    match name with
    | "label" => do return { written with label := ← Json.text node }
    | "exists" => do return { written with present := ← Json.flag node }
    | _ => do
      let visibility ← Json.orNull (Json.listOf PackageSpecification.decoder) node
      return { written with visibility := visibility }

/-! ## Targets -/

/-- The kinds of targets that a manifest can declare. -/
inductive TargetKind where
  | rule
  | inputFile
  deriving DecidableEq, Repr

def TargetKind.ofName? : String → Option TargetKind
  | "rule" => some .rule
  | "input_file" => some .inputFile
  | _ => none

def TargetKind.decoder : Decoder TargetKind := Json.parsed TargetKind.ofName?

/-- Passes over the members of a target, whose content is wanted later, and takes the kind out. -/
def takeKind : Option TargetKind → List (Scan String × Node) →
    Except Fault (Option TargetKind × List (Scan String × Node))
  | kind, [] => .ok (kind, [])
  | kind, (name, node) :: rest => do
    let key ← name.content
    if key = "kind" then
      if kind.isSome then throw .unfit
      let found ← TargetKind.decoder node
      takeKind (some found) rest
    else
      let _ ← node.value
      let (kind, members) ← takeKind kind rest
      return (kind, (name, node) :: members)

/-- The target of a kind whose other members are in a node without faults. -/
def targetOfKind (kind : TargetKind) (members : Node) : Except Fault WrittenTarget :=
  let target : Except Fault WrittenTarget :=
    match kind with
    | .rule => WrittenTarget.rule <$> WrittenRule.shape.decode members
    | .inputFile => WrittenTarget.inputFile <$> WrittenFile.shape.decode members
  target.mapError fun _ => .unfit

/-- A target: an object with a member `kind`, or an array that starts with the kind. -/
def WrittenTarget.decoder : Decoder WrittenTarget
  | .object deep members ending => do
    if deep then throw .malformed
    let (kind, others) ← takeKind none members
    Json.endingWith ending ()
    match kind with
    | some kind => targetOfKind kind (.object false others none)
    | none => throw .unfit
  | .array deep items ending => do
    if deep then throw .malformed
    match items with
    | [] =>
      Json.endingWith ending ()
      throw .unfit
    | first :: rest =>
      let kind ← TargetKind.decoder first
      let _ ← Json.itemValues rest
      Json.endingWith ending ()
      targetOfKind kind (.array false rest none)
  | node => .error node.mismatch

end Manifest

/-! ## Manifests -/

/-- The description of a workspace. -/
structure Manifest where
  options : AnalysisOptions := {}
  configurations : Manifest.Configurations
  ruleClasses : List Manifest.WrittenRuleClass := []
  targets : List Manifest.WrittenTarget := []

namespace Manifest

def shape : Json.RecordShape Manifest where
  names := ["options", "configurations", "rule_classes", "targets"]
  required := ["configurations"]
  closed := true
  blank := ⟨{}, ⟨blankConfiguration, blankConfiguration, none⟩, [], []⟩
  fill manifest name node :=
    match name with
    | "options" => do return { manifest with options := ← AnalysisOptions.shape.decode node }
    | "configurations" => do
      return { manifest with configurations := ← Configurations.shape.decode node }
    | "rule_classes" => do
      return { manifest with ruleClasses := ← Json.listOf WrittenRuleClass.shape.decode node }
    | _ => do return { manifest with targets := ← Json.listOf WrittenTarget.decoder node }

def parse (source : String) : Except LoadError Manifest :=
  (Json.decodeText shape.decode source).mapError .json

end Manifest

end BuildRules

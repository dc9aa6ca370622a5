import BuildRules.Form.Reading

/-!
# Attribute values in a manifest

A manifest gives the value of an attribute as a JSON value, which is read as a value of
the declared type of the attribute. Labels are strings and may be written relative to
the package of the rule; null is the absence of a single label.
-/

set_option autoImplicit false

namespace BuildRules

open Json (Decoder RecordShape Value)

/-- An entry of a fileset as a manifest writes it, with labels as texts. -/
structure WrittenFilesetEntry where
  source : String
  files : Option (List String) := none
  destination : Option String := none
  excludes : List String := []
  deriving DecidableEq, Repr

def WrittenFilesetEntry.shape : RecordShape WrittenFilesetEntry where
  names := ["srcdir", "files", "destdir", "excludes"]
  required := ["srcdir"]
  closed := true
  blank := ⟨"", none, none, []⟩
  fill entry name node :=
    match name with
    | "srcdir" => do return { entry with source := ← Json.text node }
    | "files" => do return { entry with files := ← Json.orNull (Json.listOf Json.text) node }
    | "destdir" => do return { entry with destination := ← Json.orNull Json.text node }
    | _ => do return { entry with excludes := ← Json.listOf Json.text node }

/-- Why a JSON value is no value of the declared type. -/
inductive ConversionFault where
  | otherType (expected : AttributeType) (value : Value)
  | badLabel (error : LoadError)

/-- What is wrong with a value. For a list that does not hold entries of filesets the message ends
with the value: the reason that a reader of JSON adds in words of its own is left out. -/
def ConversionFault.message : ConversionFault → String
  | .otherType expected value =>
    "expected a " ++ expected.display ++ " value, got " ++ value.render
  | .badLabel error => error.message

namespace AttributeValue

def labelIn (package text : String) : Except ConversionFault Label :=
  (Label.parseIn package text).mapError .badLabel

def optionalLabel (type : AttributeType) (package : String) :
    Value → Except ConversionFault (Option Label)
  | .null => .ok none
  | .string text => some <$> labelIn package text
  | value => .error (.otherType type value)

def listedLabel (type : AttributeType) (package : String) : Value → Except ConversionFault Label
  | .string text => labelIn package text
  | value => .error (.otherType type value)

def stringItem? : Value → Option String
  | .string text => some text
  | _ => none

/-- A fileset entry whose labels are read in a package. -/
def filesetEntryIn (package : String) (entry : WrittenFilesetEntry) :
    Except ConversionFault FilesetEntry := do
  let source ← labelIn package entry.source
  let files ←
    match entry.files with
    | none => pure none
    | some texts => some <$> texts.mapM (labelIn package)
  return ⟨source, files, entry.destination.getD "", entry.excludes⟩

/-- The value of the given type that a JSON value stands for in a package. -/
def ofJson (type : AttributeType) (package : String) (value : Value) :
    Except ConversionFault AttributeValue :=
  match type, value with
  | .label, value => .label <$> optionalLabel type package value
  | .nodepLabel, value => .nodepLabel <$> optionalLabel type package value
  | .labelList, .array items => .labelList <$> items.mapM (listedLabel type package)
  | .string, .string text => .ok (.string text)
  | .stringList, .array items =>
    match items.mapM stringItem? with
    | some texts => .ok (.stringList texts)
    | none => .error (.otherType type value)
  | .bool, .bool flag => .ok (.bool flag)
  | .filesetEntryList, value =>
    match value.decode (Json.listOf WrittenFilesetEntry.shape.decode) with
    | .ok entries => .filesetEntries <$> entries.mapM (filesetEntryIn package)
    | .error _ => .error (.otherType type value)
  | type, value => .error (.otherType type value)

end AttributeValue

end BuildRules

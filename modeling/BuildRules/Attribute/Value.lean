import BuildRules.Label

/-!
# Attribute values

An attribute of a rule has a type and its values are values of that type. Labels of
`label` and `label_list` attributes are dependencies; a `nodep_label` names a target
without depending on it, and a fileset entry names files or a whole tree.
-/

set_option autoImplicit false

namespace BuildRules

/-- The types of attributes. -/
inductive AttributeType where
  | label
  | labelList
  | nodepLabel
  | string
  | stringList
  | bool
  | filesetEntryList
  deriving DecidableEq, Repr

namespace AttributeType

def choices : List (String × AttributeType) :=
  [("label", .label), ("label_list", .labelList), ("nodep_label", .nodepLabel),
    ("string", .string), ("string_list", .stringList), ("bool", .bool),
    ("fileset_entry_list", .filesetEntryList)]

def display : AttributeType → String
  | .label => "label"
  | .labelList => "label_list"
  | .nodepLabel => "nodep_label"
  | .string => "string"
  | .stringList => "string_list"
  | .bool => "bool"
  | .filesetEntryList => "fileset_entry_list"

/-- Are the labels of such an attribute dependencies? -/
def isDependency (type : AttributeType) : Bool := type = .label || type = .labelList

/-- Can such an attribute change the configuration of what it names? -/
def canTransition (type : AttributeType) : Bool := type.isDependency || type = .filesetEntryList

end AttributeType

/-- One entry of a fileset: files listed one by one, or the whole tree of a target. -/
structure FilesetEntry where
  source : Label
  files : Option (List Label) := none
  destination : String := ""
  excludes : List String := []
  deriving DecidableEq

/-- Does the entry take its files from a source directory, which its build file stands for? -/
def FilesetEntry.isSourceDirectory (entry : FilesetEntry) : Bool := entry.source.name = "BUILD"

/-- The value of an attribute. -/
inductive AttributeValue where
  | label (value : Option Label)
  | labelList (values : List Label)
  | nodepLabel (value : Option Label)
  | string (value : String)
  | stringList (values : List String)
  | bool (value : Bool)
  | filesetEntries (entries : List FilesetEntry)
  deriving DecidableEq

namespace AttributeValue

def type : AttributeValue → AttributeType
  | .label _ => .label
  | .labelList _ => .labelList
  | .nodepLabel _ => .nodepLabel
  | .string _ => .string
  | .stringList _ => .stringList
  | .bool _ => .bool
  | .filesetEntries _ => .filesetEntryList

def hasType (value : AttributeValue) (type : AttributeType) : Bool := value.type = type

/-- The labels on which a rule depends through the value. -/
def dependencyLabels : AttributeValue → List Label
  | .label value => value.toList
  | .labelList values => values
  | _ => []

end AttributeValue

end BuildRules

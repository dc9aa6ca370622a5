import BuildRules.RuleClass

/-!
# Targets

A package declares rules, names source files and, through the outputs of its rules,
generated files. The values of a rule are checked against its class when they are set,
so `Rule.value?` gives a value of the declared type, explicit or by default, and
`Rule.labelMap` gives the dependencies by attribute. A `Rule.Change` works on a rule in
place: it may fail, and it leaves a rule behind in either case.
-/

set_option autoImplicit false

namespace BuildRules

/-- The labels of the dependencies of a rule by attribute. -/
abbrev LabelMap := NameMap (List Label)

/-- A rule with the values that were set for it. -/
structure Rule where
  label : Label
  ruleClass : RuleClass
  location : Location
  values : NameMap AttributeValue := ∅
  attributeLocations : NameMap Location := ∅
  outputs : List Label := []
  visibility : List PackageSpecification := []

/-- A change of a rule that may fail. What was changed before it fails stays changed. -/
abbrev Rule.Change := ExceptT LoadError (StateM Rule)

/-- What comes of a change, and the rule that it leaves behind. -/
def Rule.Change.start {α : Type} (change : Rule.Change α) (rule : Rule) :
    Except LoadError α × Rule :=
  change.run.run rule

/-- A change that begins with a look at the rule goes on with the rule as it is. -/
theorem Rule.Change.start_get_bind {α : Type} (next : Rule → Rule.Change α) (rule : Rule) :
    ((get : Rule.Change Rule) >>= next).start rule = (next rule).start rule := rfl

/-- Why a value cannot be set. -/
inductive ValueFault where
  | noSuchAttribute (className : String)
  | otherType (expected : AttributeType)
  deriving DecidableEq, Repr

def ValueFault.message : ValueFault → String
  | .noSuchAttribute className => s!"no such attribute in {className} rule"
  | .otherType expected => "expected a value of type " ++ expected.display

namespace Rule

def package (rule : Rule) : String := rule.label.package

def kind (rule : Rule) : String := rule.ruleClass.name ++ " rule"

def refused (rule : Rule) (name problem : String) : LoadError :=
  .invalidAttribute rule.label.display name problem

/-- Sets the value of an attribute, if the class declares the attribute with the type of the
value. -/
def setValue (name : String) (value : AttributeValue) : Change Unit := do
  let rule ← get
  match rule.ruleClass.attribute? name with
  | none => throw (rule.refused name (ValueFault.noSuchAttribute rule.ruleClass.name).message)
  | some attr =>
    if value.hasType attr.type then set { rule with values := rule.values.insert name value }
    else throw (rule.refused name (ValueFault.otherType attr.type).message)

/-- Where the value of an attribute stands; where the rule stands, if that is not known. -/
def attributeLocation (rule : Rule) (name : String) : Location :=
  (rule.attributeLocations.find? name).getD rule.location

def isExplicit (rule : Rule) (name : String) : Bool := rule.values.contains name

/-- The value of an attribute: the one that was set, or else the default of the class. -/
def value? (rule : Rule) (name : String) : Option AttributeValue :=
  (rule.values.find? name).or ((rule.ruleClass.attribute? name).bind Attribute.defaultValue)

/-- The label of an attribute that holds at most one. -/
def labelValue? (rule : Rule) (name : String) : Option Label :=
  match rule.value? name with
  | some (.label value) => value
  | some (.nodepLabel value) => value
  | _ => none

def labelListValue (rule : Rule) (name : String) : List Label :=
  match rule.value? name with
  | some (.labelList values) => values
  | _ => []

def stringValue? (rule : Rule) (name : String) : Option String :=
  match rule.value? name with
  | some (.string value) => some value
  | _ => none

def stringListValue (rule : Rule) (name : String) : List String :=
  match rule.value? name with
  | some (.stringList values) => values
  | _ => []

/-- The value of a flag; a flag that has no value is not set. -/
def boolValue (rule : Rule) (name : String) : Bool :=
  match rule.value? name with
  | some (.bool value) => value
  | _ => false

def filesetEntries (rule : Rule) (name : String) : List FilesetEntry :=
  match rule.value? name with
  | some (.filesetEntries entries) => entries
  | _ => []

/-- The labels on which the rule depends through one attribute of its class. -/
def dependencyLabels (rule : Rule) (attr : Attribute) : List Label :=
  if attr.type.isDependency then ((rule.value? attr.name).map (·.dependencyLabels)).getD [] else []

/-- The dependencies of the rule; attributes without any are left out. -/
def labelMap (rule : Rule) : LabelMap :=
  .ofList <| rule.ruleClass.attributes.filterMap fun attr =>
    let labels := rule.dependencyLabels attr
    if labels.isEmpty then none else some (attr.name, labels)

/-- What the rule shows of itself to other rules. -/
def view (rule : Rule) : RuleView where
  label := rule.label
  className := rule.ruleClass.name
  location := rule.location
  value? := rule.value?
  outputs := rule.outputs
  visibility := rule.visibility

end Rule

/-- A source file. -/
structure InputFile where
  label : Label
  location : Location
  present : Bool := true
  visibility : List PackageSpecification := [.everything]
  deriving DecidableEq

/-- A file that a rule generates. -/
structure OutputFile where
  label : Label
  generatingRule : Label
  location : Location
  deriving DecidableEq

def Rule.outputFiles (rule : Rule) : List OutputFile :=
  rule.outputs.map fun label => ⟨label, rule.label, rule.location⟩

/-- A loaded target. -/
inductive Target where
  | rule (rule : Rule)
  | inputFile (file : InputFile)
  | outputFile (file : OutputFile)

namespace Target

def label : Target → Label
  | .rule declared => declared.label
  | .inputFile file => file.label
  | .outputFile file => file.label

def location : Target → Location
  | .rule declared => declared.location
  | .inputFile file => file.location
  | .outputFile file => file.location

def kind : Target → String
  | .rule declared => declared.kind
  | .inputFile _ => "source file"
  | .outputFile _ => "generated file"

def rule? : Target → Option Rule
  | .rule declared => some declared
  | _ => none

def isInputFile : Target → Bool
  | .inputFile _ => true
  | _ => false

def isFile (target : Target) : Bool := target.rule?.isNone

def fileName? : Target → Option String
  | .rule _ => none
  | .inputFile file => some file.label.fileName
  | .outputFile file => some file.label.fileName

end Target

end BuildRules

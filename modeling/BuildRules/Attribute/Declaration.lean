import BuildRules.Attribute.Value
import BuildRules.FileType
import BuildRules.Location
import BuildRules.NameMap
import BuildRules.PackageSpecification

/-!
# Declarations of attributes

A rule class declares the attributes of its rules: the type, the configuration of what
they name, and what they admit. To say which rule classes or files an attribute admits
makes it strict. The name of an implicit attribute starts with `$`.
-/

set_option autoImplicit false

namespace BuildRules

/-- How an attribute changes the configuration of what it names. -/
inductive Transition where
  | none
  | host
  | data
  deriving DecidableEq, Repr

def Transition.choices : List (String × Transition) :=
  [("none", .none), ("host", .host), ("data", .data)]

def Transition.display : Transition → String
  | .none => "none"
  | .host => "host"
  | .data => "data"

/-- The configuration in which the prerequisites of an attribute are asked for. -/
inductive Mode where
  | target
  | host
  | data
  deriving DecidableEq, Repr

def Mode.transition : Mode → Transition
  | .target => .none
  | .host => .host
  | .data => .data

def Mode.display : Mode → String
  | .target => "target"
  | .host => "host"
  | .data => "data"

/-- A set of rule classes. -/
inductive RuleClassSet where
  | any
  | only (names : List String)
  deriving DecidableEq, Repr

namespace RuleClassSet

def empty : RuleClassSet := .only []

def isAny (set : RuleClassSet) : Bool := set = .any

def contains : RuleClassSet → String → Bool
  | .any, _ => true
  | .only names, name => name ∈ names

def display : RuleClassSet → String
  | .any => "any rule"
  | .only [] => "no rule"
  | .only names => String.intercalate " or " names

end RuleClassSet

/-- What one rule shows of itself to another. This is not the whole rule: of its class only the name
is shown, and a value that was set looks like one that is there by default. -/
structure RuleView where
  label : Label
  className : String
  location : Location
  /-- The value of an attribute, declared or by default. -/
  value? : String → Option AttributeValue
  outputs : List Label
  visibility : List PackageSpecification

/-- A condition on the dependencies of a rule: given the rule and a rule it depends on, the
reason why it may not, if there is one. The condition judges by the views of the two rules
alone, so one that asks for more than they show is no such condition. -/
abbrev ValidityPredicate := RuleView → RuleView → Option String

/-- The declaration of one attribute. -/
structure Attribute where
  name : String
  type : AttributeType
  transition : Transition := .none
  executable : Bool := false
  strict : Bool := false
  singleArtifact : Bool := false
  nonEmpty : Bool := false
  silentClassFilter : Bool := false
  skipFileTypeCheck : Bool := false
  allowedClasses : RuleClassSet := .any
  warnedClasses : RuleClassSet := .empty
  allowedFiles : FileTypeSet := .any
  validity : Option ValidityPredicate := none
  defaultValue : Option AttributeValue := none

/-- The name of an implicit attribute starts with this character. -/
def implicitMarker : Char := '$'

/-- Does the name belong to an implicit attribute? -/
def isImplicitName (name : String) : Bool := name.toList.head? = some implicitMarker

/-- What is wrong with the declaration of an attribute. -/
inductive AttributeProblem where
  | emptyName
  /-- Only dependencies can have the property of this name. -/
  | dependenciesOnly (name : String) (type : AttributeType) (property : String)
  | cannotTransition (name : String) (type : AttributeType)
  | filterAdmitsAll (name : String)
  | defaultOfOtherType (name : String) (type : AttributeType)
  deriving DecidableEq, Repr

def AttributeProblem.message : AttributeProblem → String
  | .emptyName => "attribute with empty name"
  | .dependenciesOnly name type property =>
    s!"attribute '{name}' of type " ++ type.display ++ s!" cannot be {property}"
  | .cannotTransition name type =>
    s!"attribute '{name}' of type " ++ type.display ++ " cannot have a configuration transition"
  | .filterAdmitsAll name => s!"attribute '{name}' filters by rule class but allows any rule"
  | .defaultOfOtherType name type =>
    s!"default value of attribute '{name}' is not a " ++ type.display

namespace Attribute

/-- Admits only rules of the given classes, and makes the attribute strict. -/
def withAllowedClasses (attr : Attribute) (classes : RuleClassSet) : Attribute :=
  { attr with allowedClasses := classes, strict := true }

/-- Admits rules of the given classes with a warning, and makes the attribute strict. -/
def withWarnedClasses (attr : Attribute) (classes : RuleClassSet) : Attribute :=
  { attr with warnedClasses := classes, strict := true }

/-- Admits only files of the given types, and makes the attribute strict. -/
def withAllowedFiles (attr : Attribute) (files : FileTypeSet) : Attribute :=
  { attr with allowedFiles := files, strict := true }

def isImplicit (attr : Attribute) : Bool := isImplicitName attr.name

/-- The name of the first property that the attribute has and only dependencies can have. -/
def dependencyProperty? (attr : Attribute) : Option String :=
  if attr.executable then some "executable"
  else if attr.singleArtifact then some "single_artifact"
  else if attr.nonEmpty then some "non_empty"
  else if attr.silentClassFilter then some "silent_rule_class_filter"
  else if attr.strict then some "allowed rule classes or file types"
  else none

/-- Is the default, if there is one, a value of the type of the attribute? -/
def defaultFits (attr : Attribute) : Bool :=
  attr.defaultValue.all (·.hasType attr.type)

/-- The first thing that is wrong with the declaration. -/
def problem? (attr : Attribute) : Option AttributeProblem :=
  if attr.name.isEmpty || attr.name = "$" then some .emptyName
  else
    match (if attr.type.isDependency then none else attr.dependencyProperty?) with
    | some property => some (.dependenciesOnly attr.name attr.type property)
    | none =>
      if attr.transition ≠ .none && !attr.type.canTransition then
        some (.cannotTransition attr.name attr.type)
      else if attr.silentClassFilter && attr.allowedClasses.isAny then
        some (.filterAdmitsAll attr.name)
      else if !attr.defaultFits then some (.defaultOfOtherType attr.name attr.type)
      else none

end Attribute

end BuildRules

import BuildRules.LoadError
import BuildRules.Text.Components

/-!
# Labels

A label `//package:name` names a target. Its package is empty or a path, its name is
a path, and no component of either is empty, `.` or `..`; a `Label` carries the
evidence. `Label.read` reads an absolute label and `Label.readIn` one that is
written inside a package; both say why they refuse a text, and `Label.parse` and
`Label.parseIn` put the text beside the reason.
-/

set_option autoImplicit false

namespace BuildRules

/-- The characters of a package component: letters and digits of ASCII, and `_`, `.`, `+`, `-`. -/
def isPackageChar (c : Char) : Bool :=
  c.isAlphanum || c = '_' || c = '.' || c = '+' || c = '-'

/-- The characters of a component of a target name. -/
def isNameChar (c : Char) : Bool :=
  isPackageChar c || c = '=' || c = ',' || c = '@' || c = '~' || c = '#' || c = '%' || c = '^' ||
    c = '&' || c = '!'

/-- Is the text one or more components over the given characters, none of them empty? -/
def isPathOver (allowed : Char → Bool) (text : List Char) : Bool :=
  (Text.pieces '/' text).all fun piece => !piece.isEmpty && piece.all allowed

/-- Is the text empty or a path over the characters of packages? -/
def isPackageText (text : String) : Bool :=
  text.isEmpty || isPathOver isPackageChar text.toList

/-- Is the text a path over the characters of target names? -/
def isNameText (text : String) : Bool :=
  isPathOver isNameChar text.toList

def hasDotComponent (text : String) : Bool :=
  (Text.pieces '/' text.toList).any fun piece => piece = ['.'] || piece = ['.', '.']

def isLabel (package name : String) : Bool :=
  isPackageText package && !hasDotComponent package && isNameText name && !hasDotComponent name

/-- The identity of a target. -/
structure Label where
  package : String
  name : String
  wellFormed : isLabel package name = true
  deriving DecidableEq

/-- Why a text is no label. -/
inductive LabelFault where
  | notAbsolute
  | multipleColons
  | invalidPackageOrName
  | missingName
  | invalidPackage
  | dotsInPackage
  | emptyName
  | invalidName
  | dotsInName
  deriving DecidableEq, Repr

def LabelFault.message : LabelFault → String
  | .notAbsolute => "absolute labels must start with '//'"
  | .multipleColons => "multiple colons"
  | .invalidPackageOrName => "invalid package or target name"
  | .missingName => "missing target name"
  | .invalidPackage => "invalid package name"
  | .dotsInPackage => "package name contains '.' or '..' components"
  | .emptyName => "empty target name"
  | .invalidName => "invalid target name"
  | .dotsInName => "target name contains '.' or '..' components"

namespace Label

def display (label : Label) : String := "//" ++ label.package ++ ":" ++ label.name

instance : ToString Label := ⟨display⟩

/-- The label of a package and a name; the package is looked at first. -/
def ofParts (package name : String) : Except LabelFault Label :=
  if package' : isPackageText package = true then
    if packageDots : hasDotComponent package = true then .error .dotsInPackage
    else if name.isEmpty then .error .emptyName
    else if name' : isNameText name = true then
      if nameDots : hasDotComponent name = true then .error .dotsInName
      else .ok ⟨package, name, by simp [isLabel, package', packageDots, name', nameDots]⟩
    else .error .invalidName
  else .error .invalidPackage

/-- Reads an absolute label. Without a colon the last component of the package is the name. -/
def read (text : String) : Except LabelFault Label :=
  match text.toList with
  | '/' :: '/' :: rest =>
    match Text.cutAtFirst ':' rest with
    | some (package, name) =>
      if ':' ∈ name then .error .multipleColons
      else
        (ofParts (String.ofList package) (String.ofList name)).mapError fun _ => .invalidPackageOrName
    | none =>
      let name := Text.lastPiece '/' rest
      if name.isEmpty then .error .missingName
      else (ofParts (String.ofList rest) (String.ofList name)).mapError fun _ => .invalidPackage
  | _ => .error .notAbsolute

/-- Reads a label that is written inside a package: an absolute one, `:name` or `name`. -/
def readIn (package text : String) : Except LabelFault Label :=
  match text.toList with
  | '/' :: '/' :: _ => read text
  | ':' :: name =>
    if ':' ∈ name then .error .multipleColons
    else (ofParts package (String.ofList name)).mapError fun _ => .invalidName
  | name =>
    if ':' ∈ name then .error .multipleColons
    else (ofParts package text).mapError fun _ => .invalidName

def refused (text : String) (fault : LabelFault) : LoadError :=
  .invalidLabel text fault.message

def make (package name : String) : Except LoadError Label :=
  (ofParts package name).mapError (refused ("//" ++ package ++ ":" ++ name))

def parse (text : String) : Except LoadError Label :=
  (read text).mapError (refused text)

/-- Parses a label that is written inside a package. -/
def parseIn (package text : String) : Except LoadError Label :=
  (readIn package text).mapError (refused text)

def sibling (label : Label) (name : String) : Except LoadError Label :=
  make label.package name

/-- The path of the file that the label would name, relative to the workspace. -/
def path (label : Label) : String :=
  if label.package.isEmpty then label.name else label.package ++ "/" ++ label.name

def fileName (label : Label) : String := Text.baseName label.name

def before (a b : Label) : Bool :=
  a.package < b.package || (a.package = b.package && a.name < b.name)

def sorted (labels : List Label) : List Label :=
  (labels.mergeSort fun a b => !b.before a).eraseReps

end Label

end BuildRules

import BuildRules.Label

/-!
# Package specifications

A package specification is one entry of a target's visibility: it admits every
package, none, one, or all packages at and below one. `display` writes each
specification in its one standard form, and `read` accepts that form and the
shorthand `//package/...`.
-/

set_option autoImplicit false

namespace BuildRules

/-- The packages that one visibility entry admits. -/
inductive PackageSpecification where
  | everything
  | nothing
  | package (path : String)
  | subpackages (path : String)
  deriving DecidableEq, Repr

/-- Why a text is no package specification. -/
inductive SpecificationFault where
  | notAbsolute
  | invalidPackage
  | unknownForm
  deriving DecidableEq, Repr

def SpecificationFault.message : SpecificationFault → String
  | .notAbsolute => "must start with '//'"
  | .invalidPackage => "invalid package name"
  | .unknownForm =>
    "expected //visibility:public, //visibility:private, //pkg:__pkg__ or //pkg:__subpackages__"

namespace PackageSpecification

def display : PackageSpecification → String
  | .everything => "//visibility:public"
  | .nothing => "//visibility:private"
  | .package path => "//" ++ path ++ ":__pkg__"
  | .subpackages path => "//" ++ path ++ ":__subpackages__"

/-- A path that has the characters of a package, put into a specification. -/
def withPackage (form : String → PackageSpecification) (path : List Char) :
    Except SpecificationFault PackageSpecification :=
  if isPackageText (String.ofList path) then .ok (form (String.ofList path))
  else .error .invalidPackage

def read (text : String) : Except SpecificationFault PackageSpecification :=
  if text = "//visibility:public" then .ok .everything
  else if text = "//visibility:private" then .ok .nothing
  else
    match text.toList with
    | '/' :: '/' :: rest =>
      match Text.withoutEnding? ":__pkg__".toList rest with
      | some path => withPackage .package path
      | none =>
        match Text.withoutEnding? ":__subpackages__".toList rest with
        | some path => withPackage .subpackages path
        | none =>
          if rest = ['.', '.', '.'] then .ok (.subpackages "")
          else
            match Text.withoutEnding? "/...".toList rest with
            | some path => withPackage .subpackages path
            | none => .error .unknownForm
    | _ => .error .notAbsolute

def parse (text : String) : Except LoadError PackageSpecification :=
  (read text).mapError fun fault => .invalidPackageSpecification text fault.message

def admits : PackageSpecification → String → Bool
  | .everything, _ => true
  | .nothing, _ => false
  | .package path, asked => path = asked
  | .subpackages path, asked =>
    path.isEmpty || asked = path || (path.toList ++ ['/']).isPrefixOf asked.toList

end PackageSpecification

end BuildRules

import BuildRules.Configuration
import BuildRules.Text.Components

/-!
# Make variables

A value may refer to variables: `$(NAME)`, or `$X` for a name of one character; `$$`
is a dollar. `expand` replaces every reference by its value, which is not looked at
again, and `expandSingle` gives the value of a text that is one reference and nothing
else. Both take any lookup of names.
-/

set_option autoImplicit false

namespace BuildRules.MakeVariable

/-- Why a text cannot be expanded. -/
inductive ExpansionError where
  | unterminatedReference
  | trailingDollar
  | undefined (name : String)
  deriving DecidableEq, Repr

def ExpansionError.message : ExpansionError → String
  | .unterminatedReference => "unterminated variable reference"
  | .trailingDollar => "unterminated $"
  | .undefined name => "$(" ++ name ++ ") not defined"

abbrev Lookup := String → Except ExpansionError String

def ofMap (bindings : NameMap String) : Lookup := fun name =>
  match bindings.find? name with
  | some value => .ok value
  | none => .error (.undefined name)

/-- The variables of a configuration, and after them three that every rule has: the two output
directories and its package. -/
def ofConfiguration (package : String) (configuration : Configuration) : Lookup := fun name =>
  match configuration.makeVariable? name with
  | some value => .ok value
  | none =>
    if name = "BINDIR" then .ok configuration.binRoot.execPath
    else if name = "GENDIR" then .ok configuration.genfilesRoot.execPath
    else if name = "PACKAGE" then .ok package
    else .error (.undefined name)

def expandChars (lookup : Lookup) : List Char → Except ExpansionError (List Char)
  | [] => .ok []
  | ['$'] => .error .trailingDollar
  | '$' :: '$' :: rest => do
    let expanded ← expandChars lookup rest
    return '$' :: expanded
  | '$' :: '(' :: rest =>
    match _cut : Text.cutAtFirst ')' rest with
    | none => .error .unterminatedReference
    | some (name, after) => do
      let value ← lookup (String.ofList name)
      let expanded ← expandChars lookup after
      return value.toList ++ expanded
  | '$' :: name :: rest => do
    let value ← lookup (String.singleton name)
    let expanded ← expandChars lookup rest
    return value.toList ++ expanded
  | c :: rest => do
    let expanded ← expandChars lookup rest
    return c :: expanded
termination_by text => text.length
decreasing_by
  · simp only [List.length_cons]
    omega
  · have := Text.length_after_lt_of_cutAtFirst ‹_›
    simp only [List.length_cons]
    omega
  · simp only [List.length_cons]
    omega
  · simp only [List.length_cons]
    omega

def expand (lookup : Lookup) (text : String) : Except ExpansionError String :=
  (expandChars lookup text.toList).map String.ofList

/-- The value of a text that is one reference and nothing else. -/
def expandSingle (lookup : Lookup) (text : String) : Except ExpansionError (Option String) :=
  match text.toList with
  | ['$'] => .error .trailingDollar
  | '$' :: '(' :: rest =>
    match Text.cutAtFirst ')' rest with
    | none => .error .unterminatedReference
    | some (name, []) => some <$> lookup (String.ofList name)
    | some (_, _ :: _) => .ok none
  | ['$', '$'] => .ok none
  | ['$', name] => some <$> lookup (String.singleton name)
  | _ => .ok none

end BuildRules.MakeVariable

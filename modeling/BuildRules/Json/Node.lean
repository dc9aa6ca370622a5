import BuildRules.Json.Numeral

/-!
# JSON texts read as far as they go

A `Node` is what a text shows of a value. Reading stops at the first character that
no JSON text could have there, and the node keeps the place: a value that is not
there is `broken`, and a container that was not closed carries the fault in place of
its end. What only matters to those who want the content stays with the content: a
string with a lone surrogate and a number too large for binary64 are refused when
they are decoded and accepted when they are skipped, and a container nested too deep
is refused when it is entered. A word that breaks off is kept apart from a place where
nothing stands, since not every decoder reads it before it refuses it.

Hence a decoder that walks a node in document order, and stops at the first fault it
meets, reports the fault that a reader of the text would meet first.
-/

set_option autoImplicit false

namespace BuildRules.Json

/-- A string or a number as it stands in a text: its content, and what is wrong with it even
for one who passes over it. -/
structure Scan (α : Type) where
  content : Except Fault α
  skipped : Option Fault := none

/-- What a text shows of a JSON value. -/
inductive Node where
  | null
  | bool (value : Bool)
  | number (scan : Scan Number)
  | string (scan : Scan String)
  /-- `deep` marks a container that is nested too deep to be entered; `ending` is what stands
  in place of the closing bracket. -/
  | array (deep : Bool) (items : List Node) (ending : Option Fault)
  | object (deep : Bool) (members : List (Scan String × Node)) (ending : Option Fault)
  /-- One of the words `null`, `true` and `false` begins here and breaks off. -/
  | cutWord (isNull : Bool) (fault : Fault)
  /-- No value stands here. -/
  | broken (fault : Fault)

/-- The fault of a node that has not the wanted shape: a scalar at fault in itself reports that
fault. -/
def Node.mismatch : Node → Fault
  | .number ⟨.error fault, _⟩ => fault
  | .string ⟨.error fault, _⟩ => fault
  | .cutWord _ fault => fault
  | .broken fault => fault
  | _ => .unfit

mutual

/-- The first fault met by one who passes over the value. -/
def Node.skip : Node → Except Fault Unit
  | .null => .ok ()
  | .bool _ => .ok ()
  | .number scan => scan.skipped.elim (.ok ()) .error
  | .string scan => scan.skipped.elim (.ok ()) .error
  | .array _ items ending => do skipItems items; ending.elim (.ok ()) .error
  | .object _ members ending => do skipMembers members; ending.elim (.ok ()) .error
  | .cutWord _ fault => .error fault
  | .broken fault => .error fault

/-- The first fault met by one who passes over the items of an array. -/
def skipItems : List Node → Except Fault Unit
  | [] => .ok ()
  | item :: rest => do item.skip; skipItems rest

/-- The first fault met by one who passes over the members of an object. -/
def skipMembers : List (Scan String × Node) → Except Fault Unit
  | [] => .ok ()
  | (name, node) :: rest => do
    name.skipped.elim (.ok ()) .error
    node.skip
    skipMembers rest

end

mutual

/-- The value of a node, all of whose content is wanted. Of two members of one name the later
one stays. -/
def Node.value : Node → Except Fault Value
  | .null => .ok .null
  | .bool value => .ok (.bool value)
  | .number scan => scan.content.map .number
  | .string scan => scan.content.map .string
  | .array deep items ending => do
    if deep then throw .malformed
    let values ← itemValues items
    ending.elim (.ok (.array values)) .error
  | .object deep members ending => do
    if deep then throw .malformed
    let values ← memberValues members
    ending.elim (.ok (.record values)) .error
  | .cutWord _ fault => .error fault
  | .broken fault => .error fault

def itemValues : List Node → Except Fault (List Value)
  | [] => .ok []
  | item :: rest => do
    let value ← item.value
    let values ← itemValues rest
    return value :: values

/-- The names and values of the members of an object, as they are written. -/
def memberValues : List (Scan String × Node) → Except Fault (List (String × Value))
  | [] => .ok []
  | (name, node) :: rest => do
    let key ← name.content
    let value ← node.value
    let values ← memberValues rest
    return (key, value) :: values

end

mutual

/-- The node of a value that is already known: nothing is wrong with it. -/
def Value.node : Value → Node
  | .null => .null
  | .bool value => .bool value
  | .number value => .number { content := .ok value }
  | .string value => .string { content := .ok value }
  | .array items => .array false (itemNodes items) none
  | .object members => .object false (memberNodes members) none

def itemNodes : List Value → List Node
  | [] => []
  | item :: rest => item.node :: itemNodes rest

def memberNodes : List (String × Value) → List (Scan String × Node)
  | [] => []
  | (name, value) :: rest => ({ content := .ok name }, value.node) :: memberNodes rest

end

end BuildRules.Json

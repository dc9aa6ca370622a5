import BuildRules.Json.Reader

/-!
# Decoders

A decoder takes a node to a value of some shape or to the first fault, in document
order, that keeps it from doing so. A scalar that is itself at fault reports that
fault before the decoder finds it to be of the wrong shape.

A record may be written as an object or as the array of its members in order. In an
object a member may not occur twice, and what an unknown member does depends on the
record: an open one passes over it, a closed one refuses it.
-/

set_option autoImplicit false

namespace BuildRules.Json

variable {α : Type}

abbrev Decoder (α : Type) := Node → Except Fault α

/-- A container ends here, unless a fault stands in place of its end. -/
def endingWith (ending : Option Fault) (value : α) : Except Fault α :=
  match ending with
  | none => .ok value
  | some fault => .error fault

def text : Decoder String
  | .string scan => scan.content
  | node => .error node.mismatch

def flag : Decoder Bool
  | .bool value => .ok value
  | node => .error node.mismatch

def word32 : Decoder UInt32
  | .number ⟨.ok (.whole value), _⟩ =>
    if 0 ≤ value ∧ value < 0x100000000 then .ok value.toNat.toUInt32 else .error .unfit
  | node => .error node.mismatch

def orNull (decoder : Decoder α) : Decoder (Option α)
  | .null => .ok none
  | .cutWord true fault => .error fault
  | node => some <$> decoder node

def parsed (parse : String → Option α) : Decoder α := fun node => do
  match parse (← text node) with
  | some value => return value
  | none => throw .unfit

def listOf (decoder : Decoder α) : Decoder (List α)
  | .array deep items ending => do
    if deep then throw .malformed
    let values ← items.mapM decoder
    endingWith ending values
  | node => .error node.mismatch

def pairOf (decoder : Decoder α) : Decoder (α × α)
  | .array deep items ending => do
    if deep then throw .malformed
    match items with
    | [] => endingWith ending () >>= fun _ => .error .unfit
    | first :: rest =>
      let first ← decoder first
      match rest with
      | [] => endingWith ending () >>= fun _ => .error .unfit
      | second :: more =>
        let second ← decoder second
        if more.isEmpty then endingWith ending (first, second) else .error .malformed
  | node => .error node.mismatch

/-- An object as a map; of two members of one name the later one stays. -/
def mapOf (decoder : Decoder α) : Decoder (NameMap α)
  | .object deep members ending => do
    if deep then throw .malformed
    let entries ← members.mapM fun (name, node) => do
      let key ← name.content
      let value ← decoder node
      return (key, value)
    endingWith ending (NameMap.ofList entries)
  | node => .error node.mismatch

/-- One of a few named values, written as its name, or as an object whose only member has that
name and is null. A value that begins like neither is refused at its first character. -/
def oneOf (choices : List (String × α)) : Decoder α :=
  let choose (name : String) : Except Fault α :=
    match choices.lookup name with
    | some value => .ok value
    | none => .error .unfit
  fun
  | .string scan => scan.content >>= choose
  | .object deep members ending => do
    if deep then throw .malformed
    match members with
    | [] => throw (ending.getD .malformed)
    | (name, node) :: rest =>
      let value ← name.content >>= choose
      match node with
      | .null => pure ()
      | node => throw node.mismatch
      if rest.isEmpty then endingWith ending value else throw .malformed
  | .broken fault => .error fault
  | _ => .error .malformed

/-- What a record of type `α` looks like in JSON. Reading starts from a blank record and fills
it in member by member; the blanks of required members never get out. -/
structure RecordShape (α : Type) where
  /-- The names of the members, in the order of the array form. -/
  names : List String
  /-- The members that may not be left out. -/
  required : List String
  /-- Are unknown members refused? -/
  closed : Bool
  blank : α
  fill : α → String → Decoder α

/-- Fills in the members of an object in document order; the names met so far come along. -/
def RecordShape.fillMembers (shape : RecordShape α) :
    List String → α → List (Scan String × Node) → Except Fault (List String × α)
  | seen, record, [] => .ok (seen, record)
  | seen, record, (name, node) :: rest => do
    let key ← name.content
    if key ∈ shape.names then
      if key ∈ seen then throw .unfit
      let record ← shape.fill record key node
      shape.fillMembers (key :: seen) record rest
    else if shape.closed then throw .unfit
    else
      node.skip
      shape.fillMembers seen record rest

/-- Fills in the members of the array form in order. -/
def RecordShape.fillItems (shape : RecordShape α) :
    List String → List String → α → List Node → Except Fault (List String × α)
  | _, seen, record, [] => .ok (seen, record)
  | [], _, _, _ :: _ => .error .malformed
  | name :: names, seen, record, node :: rest => do
    let record ← shape.fill record name node
    shape.fillItems names (name :: seen) record rest

/-- The record, unless a required member was not met. -/
def RecordShape.complete (shape : RecordShape α) (seen : List String) (record : α) :
    Except Fault α :=
  if shape.required.all (· ∈ seen) then .ok record else .error .unfit

def RecordShape.decode (shape : RecordShape α) : Decoder α
  | .object deep members ending => do
    if deep then throw .malformed
    let (seen, record) ← shape.fillMembers [] shape.blank members
    endingWith ending ()
    shape.complete seen record
  | .array deep items ending => do
    if deep then throw .malformed
    let (seen, record) ← shape.fillItems shape.names [] shape.blank items
    endingWith ending ()
    shape.complete seen record
  | node => .error node.mismatch

/-- Decodes a whole text; nothing but blanks may follow the value. -/
def decodeText (decoder : Decoder α) (source : String) : Except Fault α := do
  let document := read source
  let value ← decoder document.root
  endingWith document.trailing value

/-- Decodes a value that is already known; all that can be wrong with it is its shape. -/
def Value.decode (decoder : Decoder α) (value : Value) : Except Fault α :=
  (decoder value.node).mapError fun _ => .unfit

end BuildRules.Json

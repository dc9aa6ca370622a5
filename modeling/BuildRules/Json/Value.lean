import BuildRules.Decimal.Shortest
import BuildRules.NameMap

/-!
# JSON values and their compact text

A number is an integer of 64 bits, signed or unsigned, or a binary64 number. The
members of an object stand in ascending order of their names and no name occurs
twice; `Value.record` builds such an object from any list of members. `render`
writes a value without any blank.
-/

set_option autoImplicit false

namespace BuildRules.Json

/-- A JSON number. -/
inductive Number where
  | whole (value : Int)
  | real (value : Float)

/-- A JSON value. -/
inductive Value where
  | null
  | bool (value : Bool)
  | number (value : Number)
  | string (value : String)
  | array (items : List Value)
  | object (members : List (String × Value))

namespace Value

/-- The object of the given members; of two members of one name the later one stays. -/
def record (members : List (String × Value)) : Value :=
  .object (members.foldl (fun sorted member => NameMap.insertEntry member.1 member.2 sorted) [])

end Value

/-- The text of a decimal number in JSON. -/
structure RealFormat where
  /-- The least exponent of the leading digit that is written without an exponent. -/
  leastPositional : Int
  /-- The greatest exponent of the leading digit that is written without an exponent. -/
  greatestPositional : Int

/-- Reals from 1e-5 up to 1e16 are written positionally, with `.0` after a whole number. A written
exponent always has its sign. -/
def realFormat : RealFormat := ⟨-5, 15⟩

def digitsOf (n : Nat) : String := String.ofList (Nat.toDigits 10 n)

def RealFormat.render (format : RealFormat) (decimal : Decimal.Scientific) : String :=
  let digits := Nat.toDigits 10 decimal.digits
  let leading := decimal.exponent + digits.length - 1
  if format.leastPositional ≤ leading ∧ leading ≤ format.greatestPositional then
    if 0 ≤ decimal.exponent then
      String.ofList (digits ++ List.replicate decimal.exponent.toNat '0') ++ ".0"
    else if 0 ≤ leading then
      let (whole, fraction) := digits.splitAt (leading + 1).toNat
      String.ofList whole ++ "." ++ String.ofList fraction
    else "0." ++ String.ofList (List.replicate (-leading - 1).toNat '0' ++ digits)
  else
    let mark := if leading < 0 then "e-" else "e+"
    let mantissa :=
      match digits with
      | first :: second :: rest => String.ofList (first :: '.' :: second :: rest)
      | _ => String.ofList digits
    mantissa ++ mark ++ digitsOf leading.natAbs

def Number.render : Number → String
  | .whole value => if value < 0 then "-" ++ digitsOf value.natAbs else digitsOf value.natAbs
  | .real value =>
    let bits := value.toBits
    let (mantissa, exponent) := Decimal.binaryParts bits
    let magnitude :=
      if mantissa = 0 then "0.0" else realFormat.render (Decimal.shortest mantissa exponent)
    if bits >>> 63 = 1 then "-" ++ magnitude else magnitude

def hexDigit (n : Nat) : Char := Nat.digitChar (n % 16)

/-- One character of a string as it is written between the quotes. -/
def escapedChar (c : Char) : List Char :=
  if c = '"' then ['\\', '"']
  else if c = '\\' then ['\\', '\\']
  else if c = '\n' then ['\\', 'n']
  else if c = '\r' then ['\\', 'r']
  else if c = '\t' then ['\\', 't']
  else if c.toNat = 8 then ['\\', 'b']
  else if c.toNat = 12 then ['\\', 'f']
  else if c.toNat < 32 then ['\\', 'u', '0', '0', hexDigit (c.toNat / 16), hexDigit c.toNat]
  else [c]

def quoted (text : String) : String :=
  String.ofList ('"' :: text.toList.flatMap escapedChar ++ ['"'])

mutual

def Value.render : Value → String
  | .null => "null"
  | .bool true => "true"
  | .bool false => "false"
  | .number value => value.render
  | .string value => quoted value
  | .array items => "[" ++ String.intercalate "," (renderItems items) ++ "]"
  | .object members => "\x7b" ++ String.intercalate "," (renderMembers members) ++ "\x7d"

def renderItems : List Value → List String
  | [] => []
  | item :: rest => item.render :: renderItems rest

/-- The compact texts of the members of an object. -/
def renderMembers : List (String × Value) → List String
  | [] => []
  | (name, value) :: rest => (quoted name ++ ":" ++ value.render) :: renderMembers rest

end

end BuildRules.Json

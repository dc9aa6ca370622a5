import BuildRules.Json.Fault
import BuildRules.Json.Value

/-!
# Numerals

A numeral is a number as it is written: digits, and perhaps a fraction and an
exponent. A numeral without fraction and exponent is an integer as long as it fits
64 bits; every other one is a binary64 number, computed from a significand of 64
bits scaled by a power of ten. Digits that no longer fit the significand only scale
it, and a numeral too large for binary64 is malformed.
-/

set_option autoImplicit false

namespace BuildRules.Json

/-- A number as it is written. The digits stand in reading order. -/
structure Numeral where
  negative : Bool := false
  whole : List Nat := []
  fraction : List Nat := []
  /-- Is there a fraction or an exponent? -/
  scaled : Bool := false
  exponentNegative : Bool := false
  exponent : List Nat := []

/-- Appends digits to a significand while the result stays within `limit`; what is left begins
with the first digit that did not fit. -/
def appendDigits (limit : Nat) : Nat → List Nat → Nat × List Nat
  | significand, [] => (significand, [])
  | significand, digit :: rest =>
    if significand * 10 + digit ≤ limit then appendDigits limit (significand * 10 + digit) rest
    else (significand, digit :: rest)

def greatestWord : Nat := 0xffffffffffffffff

/-- The greatest signed integer of 32 bits, which bounds written exponents. -/
def greatestExponent : Nat := 0x7fffffff

/-- Divides by `10 ^ 308` a number of times; zero stays zero. -/
def scaleDown (value : Float) : Nat → Float
  | 0 => value
  | times + 1 =>
    if value == 0.0 then value else scaleDown (value / Float.ofScientific 1 false 308) times

/-- The binary64 number `significand · 10 ^ exponent`, rounded after each scaling step; none when
it is too large. -/
def scaledReal (significand : Nat) (exponent : Int) : Option Float :=
  let value := significand.toUInt64.toFloat
  let power := exponent.natAbs
  if 0 ≤ exponent then
    if power ≤ 308 then
      let scaled := value * Float.ofScientific 1 false power
      if scaled.isInf then none else some scaled
    else if significand = 0 then some value
    else none
  else
    let steps := (power - 1) / 308
    some (scaleDown value steps / Float.ofScientific 1 false (power - steps * 308))

def Numeral.value (numeral : Numeral) : Except Fault Number :=
  let (wholePart, excess) := appendDigits greatestWord 0 numeral.whole
  let real (magnitude : Float) : Number := .real (if numeral.negative then -magnitude else magnitude)
  if numeral.scaled = false ∧ excess.isEmpty then
    if numeral.negative then
      if wholePart = 0 ∨ 0x8000000000000000 < wholePart then .ok (real wholePart.toUInt64.toFloat)
      else .ok (.whole (-(wholePart : Int)))
    else .ok (.whole wholePart)
  else
    let (significand, dropped) := appendDigits greatestWord wholePart numeral.fraction
    let kept : Nat := numeral.fraction.length - dropped.length
    let written := appendDigits greatestExponent 0 numeral.exponent
    let places : Int := (excess.length : Int) - (kept : Int)
    if written.2.isEmpty then
      let exponent := if numeral.exponentNegative then places - written.1 else places + written.1
      match scaledReal significand exponent with
      | some magnitude => .ok (real magnitude)
      | none => .error .malformed
    else if significand ≠ 0 ∧ numeral.exponentNegative = false then .error .malformed
    else .ok (real 0.0)

end BuildRules.Json

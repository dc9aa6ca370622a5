/-!
# The shortest decimal that reads back

A positive binary64 number is `mantissa · 2 ^ exponent`. All real numbers between
the midpoints to its two neighbours round to it, the midpoints themselves exactly
when the mantissa is even. `shortest` gives the decimal with the fewest digits in
that interval, and of those the one nearest to the number; an exact tie goes to
the even last digit. Everything is computed in natural numbers.
-/

set_option autoImplicit false

namespace BuildRules.Decimal

/-- A nonnegative decimal `digits · 10 ^ exponent`. -/
structure Scientific where
  digits : Nat
  exponent : Int
  deriving DecidableEq, Repr

/-- The numbers that round to one binary64 number, as fractions over `4 ^ …`: the number
itself and the two ends of its interval share the denominator. -/
structure Interval where
  low : Nat
  value : Nat
  high : Nat
  denominator : Nat
  closed : Bool

/-- The interval of `mantissa · 2 ^ exponent`; the gap below a power of two is half as wide,
except below the smallest normal number. -/
def Interval.around (mantissa : Nat) (exponent : Int) : Interval :=
  let gapBelow := if mantissa = Nat.pow 2 52 ∧ exponent ≠ -1074 then 1 else 2
  let scale := Nat.pow 2 (exponent - 2).toNat
  { low := (4 * mantissa - gapBelow) * scale
    value := 4 * mantissa * scale
    high := (4 * mantissa + 2) * scale
    denominator := Nat.pow 2 (2 - exponent).toNat
    closed := mantissa % 2 = 0 }

/-- Does `digits · 10 ^ exponent` lie in the interval? -/
def Interval.admits (interval : Interval) (decimal : Scientific) : Bool :=
  let point := decimal.digits * Nat.pow 10 decimal.exponent.toNat * interval.denominator
  let unit := Nat.pow 10 (-decimal.exponent).toNat
  if interval.closed then interval.low * unit ≤ point && point ≤ interval.high * unit
  else interval.low * unit < point && point < interval.high * unit

/-- The neighbours of the number on the grid of multiples of `10 ^ exponent`, the nearer first;
of two equally near ones the even one is first. -/
def Interval.neighbours (interval : Interval) (exponent : Int) : List Scientific :=
  let numerator := interval.value * Nat.pow 10 (-exponent).toNat
  let denominator := interval.denominator * Nat.pow 10 exponent.toNat
  let below : Scientific := ⟨numerator / denominator, exponent⟩
  let above : Scientific := ⟨numerator / denominator + 1, exponent⟩
  let twice := 2 * (numerator % denominator)
  if twice < denominator ∨ twice = denominator ∧ below.digits % 2 = 0 then [below, above]
  else [above, below]

/-- How many digits the number has before the decimal point; zero or negative when it starts
with zeros after the point. -/
def Interval.magnitude (interval : Interval) : Int :=
  let whole := interval.value / interval.denominator
  if whole = 0 then
    let reaches (k : Nat) : Bool := interval.denominator ≤ interval.value * Nat.pow 10 (k + 1)
    .neg (((List.range 400).find? reaches).getD 0 : Nat)
  else ((Nat.toDigits 10 whole).length : Nat)

/-- A decimal without trailing zeros among its digits, at most `fuel` of which are removed. -/
def Scientific.trimmed : Nat → Scientific → Scientific
  | 0, decimal => decimal
  | fuel + 1, decimal =>
    if decimal.digits ≠ 0 ∧ decimal.digits % 10 = 0 then
      Scientific.trimmed fuel ⟨decimal.digits / 10, decimal.exponent + 1⟩
    else decimal

/-- The decimal of fewest digits that rounds to the positive number `mantissa · 2 ^ exponent`. -/
def shortest (mantissa : Nat) (exponent : Int) : Scientific :=
  let interval := Interval.around mantissa exponent
  let magnitude := interval.magnitude
  let candidate := (List.range 17).findSome? fun (n : Nat) =>
    (interval.neighbours (magnitude - 1 - (n : Int))).find? interval.admits
  (candidate.getD ⟨mantissa, exponent⟩).trimmed 20

/-- The mantissa and the exponent of a finite binary64 number given by its bits, sign apart. -/
def binaryParts (bits : UInt64) : Nat × Int :=
  let fraction : Nat := bits.toNat % Nat.pow 2 52
  let biased : Nat := bits.toNat / Nat.pow 2 52 % Nat.pow 2 11
  if biased = 0 then (fraction, -1074) else (Nat.pow 2 52 + fraction, (biased : Int) - 1075)

end BuildRules.Decimal

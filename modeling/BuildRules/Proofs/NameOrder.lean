import BuildRules.Configuration
import Mathlib.Algebra.Group.Nat.Defs
import Mathlib.Data.List.Basic

/-!
# The order of names is the order of their bytes

Names are compared character by character, by code point. UTF-8 was made so that this is
the order of the bytes as well: of two code points the smaller one has the smaller first
byte, or else both have as many bytes, and then these are digits of the two numbers with
the leading digit first.
-/

set_option autoImplicit false

namespace BuildRules.Utf8

open BuildRules.Configuration (bytesOf)

/-- The continuation bytes of a code point, with six bits each: the last `count` of them. -/
def continuation (code : Nat) : Nat → List UInt8
  | 0 => []
  | count + 1 => UInt8.ofNat (code / 64 ^ count % 64 + 128) :: continuation code count

/-- The number of continuation bytes of a code point. -/
def continuationCount (code : Nat) : Nat :=
  if code ≤ 127 then 0 else if code ≤ 2047 then 1 else if code ≤ 65535 then 2 else 3

/-- The first byte of a code point. -/
def leadByte (code : Nat) : Nat :=
  if code ≤ 127 then code
  else if code ≤ 2047 then code / 64 + 192
  else if code ≤ 65535 then code / 4096 + 224
  else code / 262144 + 240

/-- The number of a character is within the range of code points. -/
theorem toNat_val_lt (c : Char) : c.val.toNat < 1114112 := by
  have valid := c.valid
  unfold UInt32.isValidChar Nat.isValidChar at valid
  omega

/-- The bytes of a character are its first byte and its continuation. -/
theorem utf8EncodeChar_eq (c : Char) :
    String.utf8EncodeChar c =
      UInt8.ofNat (leadByte c.val.toNat) ::
        continuation c.val.toNat (continuationCount c.val.toNat) := by
  have bound := toNat_val_lt c
  unfold String.utf8EncodeChar leadByte continuationCount
  dsimp only
  generalize c.val.toNat = code at bound
  repeat' split
  · rfl
  · rw [Nat.mod_eq_of_lt (by omega : code / 64 < 32)]
    simp [continuation]
  · rw [Nat.mod_eq_of_lt (by omega : code / 4096 < 16)]
    simp [continuation]
  · rw [Nat.mod_eq_of_lt (by omega : code / 262144 < 8)]
    simp [continuation]

/-- A smaller code point has a smaller first byte, or the two share the first byte, the number of
bytes and all leading digits. -/
theorem leadByte_lt_or {first second : Nat} (less : first < second) (bound : second < 1114112) :
    leadByte first < leadByte second ∨
      leadByte first = leadByte second ∧
        continuationCount first = continuationCount second ∧
          first / 64 ^ continuationCount first = second / 64 ^ continuationCount first := by
  unfold leadByte continuationCount
  -- The code points of one length lie below those of the next, and so do their first bytes.
  repeat' split
  all_goals omega

/-- What begins the encoding of a character fits into a byte. -/
theorem leadByte_lt_256 {code : Nat} (bound : code < 1114112) : leadByte code < 256 := by
  unfold leadByte
  repeat' split
  all_goals omega

/-- Numbers that fit into a byte are in the order of their bytes. -/
theorem ofNat_lt_ofNat {a b : Nat} (less : a < b) (bound : b < 256) :
    UInt8.ofNat a < UInt8.ofNat b := by
  rw [UInt8.lt_iff_toNat_lt, UInt8.toNat_ofNat', UInt8.toNat_ofNat', Nat.mod_eq_of_lt bound,
    Nat.mod_eq_of_lt (Nat.lt_trans less bound)]
  exact less

/-- Numbers with the same leading digits are ordered as the digits that are left, whatever comes
after these. -/
theorem continuation_append_lt {first second : Nat} (less : first < second) {count : Nat}
    (same : first / 64 ^ count = second / 64 ^ count) (after other : List UInt8) :
    continuation first count ++ after < continuation second count ++ other := by
  induction count with
  | zero => omega
  | succ count ih =>
    unfold continuation
    rw [List.cons_append, List.cons_append, List.cons_lt_cons_iff]
    rw [Nat.pow_succ, ← Nat.div_div_eq_div_mul, ← Nat.div_div_eq_div_mul] at same
    -- The next digit is shared as well, or it is the first one that differs.
    by_cases equal : first / 64 ^ count = second / 64 ^ count
    · exact .inr ⟨by rw [equal], ih equal⟩
    · have ordered : first / 64 ^ count ≤ second / 64 ^ count :=
        Nat.div_le_div_right (Nat.le_of_lt less)
      exact .inl (ofNat_lt_ofNat (by omega) (by omega))

/-- The bytes of a smaller character come first: they differ from those of the other one before
either of them ends. -/
theorem utf8EncodeChar_append_lt {c d : Char} (before : c < d) (after other : List UInt8) :
    String.utf8EncodeChar c ++ after < String.utf8EncodeChar d ++ other := by
  have less : c.val.toNat < d.val.toNat := before
  have bound := toNat_val_lt d
  rw [utf8EncodeChar_eq, utf8EncodeChar_eq, List.cons_append, List.cons_append,
    List.cons_lt_cons_iff]
  rcases leadByte_lt_or less bound with smaller | ⟨sameLead, sameCount, sameDigits⟩
  · exact .inl (ofNat_lt_ofNat smaller (leadByte_lt_256 bound))
  · rw [sameLead, ← sameCount]
    exact .inr ⟨rfl, continuation_append_lt less sameDigits after other⟩

/-- The encoding keeps the order of texts. -/
theorem flatMap_utf8EncodeChar_lt {first second : List Char} (before : first < second) :
    first.flatMap String.utf8EncodeChar < second.flatMap String.utf8EncodeChar := by
  induction before with
  | nil =>
    rw [List.flatMap_cons, utf8EncodeChar_eq]
    exact List.nil_lt_cons _ _
  | rel less => exact utf8EncodeChar_append_lt less _ _
  | cons _ ih => exact List.append_left_lt ih

/-- The bytes of a text are the encodings of its characters, one after the other. -/
theorem bytesOf_eq_flatMap (text : String) :
    bytesOf text = text.toList.flatMap String.utf8EncodeChar := by
  unfold bytesOf
  conv => lhs; rw [← String.ofList_toList (s := text)]
  rw [String.toUTF8_eq_toByteArray, String.toByteArray_ofList]
  simp [List.utf8Encode]

/-- A text comes before another one exactly when its bytes do. -/
theorem bytesOf_lt_bytesOf_iff {first second : String} :
    bytesOf first < bytesOf second ↔ first < second := by
  have ascending : ∀ {first second : String}, first < second → bytesOf first < bytesOf second := by
    intro first second before
    rw [bytesOf_eq_flatMap, bytesOf_eq_flatMap]
    exact flatMap_utf8EncodeChar_lt before
  refine ⟨fun less => ?_, ascending⟩
  by_contra notBefore
  rcases eq_or_ne first second with rfl | different
  · exact List.lt_irrefl _ less
  · have after : second < first := by
      by_contra notAfter
      exact different (String.le_antisymm (String.not_lt.mp notAfter) (String.not_lt.mp notBefore))
    exact List.lt_asymm less (ascending after)

end BuildRules.Utf8

import BuildRules.Proofs.WordReadings
import Mathlib.Algebra.Ring.Parity

/-!
# What is wrong with the end of a text

A word that breaks off has a cause: a backslash that has nothing to escape, or a quotation
that is not closed. The fault that is reported is not read off the break, but off the
parity of the backslashes at the end of the text.

At the end of what stands before a break the backslashes come in pairs, since each of them
escapes a character or is escaped, unless a character after it closes its comment or its
quotation. So the parity tells the cause outside of quotes and in double ones. It does not
in single quotes: there a backslash escapes nothing, and an odd number of them before the
end of the text is reported as an escape without a character.
-/

set_option autoImplicit false

namespace BuildRules.Words

/-- What makes a word break off: an escape without a character, or a quotation that is open with no
escape begun in it. -/
def Break.cause : Break → Fault
  | .backslash | .doubleBackslash _ => .trailingBackslash
  | .single _ _ | .double _ => .unterminatedQuotation

/-! ## Backslashes at the end -/

/-- The number of backslashes that the characters end in. -/
def endRun (chars : List Char) : ℕ := (chars.reverse.takeWhile (· = '\\')).length

section EndRun

variable {before after : List Char}

/-- One more backslash makes the run at the end longer, and any other character ends it. -/
theorem endRun_concat (chars : List Char) (c : Char) :
    endRun (chars ++ [c]) = if c = '\\' then endRun chars + 1 else 0 := by
  unfold endRun
  rw [List.reverse_append, List.reverse_singleton, List.singleton_append, List.takeWhile_cons]
  by_cases backslash : c = '\\' <;> simp [backslash]

/-- The backslashes at the end of what stands before count only if nothing else comes after. -/
theorem endRun_append (before after : List Char) :
    endRun (before ++ after) = endRun after ∨
      endRun (before ++ after) = endRun before + endRun after := by
  induction after using List.reverseRecOn with
  | nil => exact .inr (by rw [List.append_nil]; rfl)
  | append_singleton after c ih =>
    rw [← List.append_assoc, endRun_concat, endRun_concat]
    split
    · omega
    · exact .inl rfl

/-- A character that is no backslash cuts off what stands before. -/
theorem endRun_append_cons {c : Char} (other : c ≠ '\\') :
    endRun (before ++ c :: after) = endRun after := by
  induction after using List.reverseRecOn with
  | nil => rw [endRun_concat, if_neg other]; rfl
  | append_singleton after d ih =>
    rw [← List.cons_append, ← List.append_assoc, endRun_concat, endRun_concat, ih]

/-- Two texts that end in even runs make one that does. -/
theorem even_endRun_append (evenBefore : Even (endRun before)) (evenAfter : Even (endRun after)) :
    Even (endRun (before ++ after)) := by
  obtain same | sum := endRun_append before after
  · rwa [same]
  · rw [sum]
    exact evenBefore.add evenAfter

/-- Texts that all end in even runs make one that does. -/
theorem even_endRun_flatMap {α : Type} (parts : List α) {chars : α → List Char}
    (each : ∀ part, Even (endRun (chars part))) : Even (endRun (parts.flatMap chars)) := by
  induction parts with
  | nil => exact ⟨0, rfl⟩
  | cons part parts ih => exact even_endRun_append (each part) ih

end EndRun

/-! ## Backslashes come in pairs -/

/-- What ends in a character that is no backslash ends in no backslash at all. -/
theorem even_endRun_concat (chars : List Char) {c : Char} (other : c ≠ '\\') :
    Even (endRun (chars ++ [c])) := by
  rw [endRun_append_cons other]
  exact ⟨0, rfl⟩

/-- One more backslash after pairs of them is one too many. -/
theorem odd_endRun_concat {chars : List Char} (even : Even (endRun chars)) :
    Odd (endRun (chars ++ ['\\'])) := by
  rw [endRun_concat, if_pos rfl]
  exact even.add_one

/-- An escape ends in two backslashes or in none. -/
theorem even_endRun_escape (c : Char) : Even (endRun ['\\', c]) := by
  by_cases backslash : c = '\\'
  · subst backslash
    exact ⟨1, rfl⟩
  · exact even_endRun_concat ['\\'] backslash

/-- A part of a double quotation ends in an even run. -/
theorem QuotedPart.even_endRun (part : QuotedPart) : Even (endRun part.chars) := by
  cases part with
  | plain c _ notBackslash => exact even_endRun_concat [] notBackslash
  | escaped c => exact even_endRun_escape c

/-- The parts of a double quotation end in an even run. -/
theorem even_endRun_parts (parts : List QuotedPart) :
    Even (endRun (parts.flatMap QuotedPart.chars)) :=
  even_endRun_flatMap parts QuotedPart.even_endRun

/-- A piece of a word ends in an even run. -/
theorem Piece.even_endRun (piece : Piece) : Even (endRun piece.chars) := by
  cases piece with
  | plain c ordinary => exact even_endRun_concat [] ordinary.notBackslash
  | escaped c => exact even_endRun_escape c
  | single inside closed => exact even_endRun_concat ('\'' :: inside) (by decide)
  | double parts => exact even_endRun_concat ('"' :: parts.flatMap QuotedPart.chars) (by decide)

/-- A word ends in an even run. -/
theorem Word.even_endRun (word : Word) : Even (endRun word.chars) := by
  induction word with
  | one piece noComment => exact piece.even_endRun
  | push word piece ih => exact even_endRun_append ih piece.even_endRun

/-- No blank is a backslash. -/
theorem ne_backslash_of_isBlank {c : Char} (blank : isBlank c = true) : c ≠ '\\' := by
  rintro rfl
  exact absurd blank (by decide)

/-- A complete part of a text ends in an even run. -/
theorem Span.even_endRun (span : Span) : Even (endRun span.chars) := by
  cases span with
  | blank c blank => exact even_endRun_concat [] (ne_backslash_of_isBlank blank)
  | comment text oneLine => exact even_endRun_concat ('#' :: text) (by decide)
  | word found after blank => exact even_endRun_concat found.chars (ne_backslash_of_isBlank blank)

/-- What stands before a break: spans, and complete pieces of the word that breaks off. -/
theorem even_endRun_before (spans : List Span) (begun : Option Word) :
    Even (endRun (spans.flatMap Span.chars ++ begunChars begun)) := by
  have ofSpans : Even (endRun (spans.flatMap Span.chars)) :=
    even_endRun_flatMap spans Span.even_endRun
  have ofBegun : Even (endRun (begunChars begun)) := by
    cases begun with
    | none => exact ⟨0, rfl⟩
    | some word => exact word.even_endRun
  exact even_endRun_append ofSpans ofBegun

/-! ## The fault that is reported -/

/-- A single quotation ends in an odd number of backslashes, none of which begins an escape. -/
def Break.EndsInOddLiteral : Break → Prop
  | .single inside _ => Odd (endRun inside)
  | .backslash | .double _ | .doubleBackslash _ => False

/-- The backslashes at the end are odd in number where an escape is pending, and where an odd
number of them is kept by single quotes. -/
theorem Break.odd_endRun_iff (how : Break) {before : List Char} (even : Even (endRun before)) :
    Odd (endRun (before ++ how.chars)) ↔
      how.cause = .trailingBackslash ∨ how.EndsInOddLiteral := by
  cases how with
  | backslash => exact iff_of_true (odd_endRun_concat even) (.inl rfl)
  | single inside unclosed =>
    rw [Break.chars, endRun_append_cons (by decide)]
    constructor
    · exact .inr
    · rintro (other | literal)
      · cases other
      · exact literal
  | double parts =>
    rw [Break.chars, endRun_append_cons (by decide)]
    refine iff_of_false (Nat.not_odd_iff_even.mpr (even_endRun_parts parts)) ?_
    rintro (other | literal)
    · cases other
    · exact literal
  | doubleBackslash parts =>
    rw [Break.chars, endRun_append_cons (by decide)]
    exact iff_of_true (odd_endRun_concat (even_endRun_parts parts)) (.inl rfl)

/-- A trailing backslash is reported exactly for texts that end in an odd run. -/
theorem faultOf_eq_trailingBackslash_iff (text : String) :
    faultOf text = .trailingBackslash ↔ Odd (endRun text.toList) := by
  have count : trailingBackslashes text = endRun text.toList := rfl
  unfold faultOf
  rw [Nat.odd_iff, count]
  split <;> simp_all

section Broken

variable {reading : Reading} {how : Break}

/-- A reading that breaks off has the fault of its text. -/
theorem fault?_text_of_broken (broken : reading.ending.break? = some how) :
    fault? reading.text = some (faultOf reading.text) := by
  rw [fault?_text, broken, Option.isSome_some, if_pos rfl]

/-- A text that breaks off is reported with a trailing backslash exactly if that is the cause, or if
it ends in an odd number of literal ones. -/
theorem faultOf_text_eq_trailingBackslash_iff (broken : reading.ending.break? = some how) :
    faultOf reading.text = .trailingBackslash ↔
      how.cause = .trailingBackslash ∨ how.EndsInOddLiteral := by
  obtain ⟨spans, ending⟩ := reading
  obtain ⟨begun, rfl⟩ : ∃ begun, ending = .broken begun how := by
    cases ending with
    | broken begun other => exact ⟨begun, by rw [Option.some.inj broken]⟩
    | between | comment _ _ | word _ => exact nomatch broken
  have whole : (Reading.text ⟨spans, .broken begun how⟩).toList =
      spans.flatMap Span.chars ++ begunChars begun ++ how.chars := by
    rw [Reading.text, String.toList_ofList, List.append_assoc]
    rfl
  rw [faultOf_eq_trailingBackslash_iff, whole,
    how.odd_endRun_iff (even_endRun_before spans begun)]

/-- An odd number of literal backslashes at the end is reported as a trailing one. -/
theorem faultOf_text_of_oddLiteral (broken : reading.ending.break? = some how)
    (literal : how.EndsInOddLiteral) : faultOf reading.text = .trailingBackslash :=
  (faultOf_text_eq_trailingBackslash_iff broken).mpr (.inr literal)

/-- Any other text that breaks off is reported with its cause. -/
theorem faultOf_text_eq_cause (broken : reading.ending.break? = some how)
    (notLiteral : ¬ how.EndsInOddLiteral) : faultOf reading.text = how.cause := by
  have trailing := faultOf_text_eq_trailingBackslash_iff broken
  rw [or_iff_left notLiteral] at trailing
  cases cause : how.cause with
  | trailingBackslash => exact trailing.mpr cause
  | unterminatedQuotation =>
    cases reported : faultOf reading.text with
    | trailingBackslash => exact nomatch cause.symm.trans (trailing.mp reported)
    | unterminatedQuotation => rfl

end Broken

/-- A text has a fault if a reading of it breaks off, and the fault is the cause of the break unless
single quotes end in an odd number of backslashes: these are taken for an escape without a
character. -/
theorem appendTo_fault_iff_cause_or_oddLiteral (given : List String) (text : String)
    (fault : Fault) :
    (appendTo given text).2 = some fault ↔
      ∃ (reading : Reading) (how : Break), reading.text = text ∧
        reading.ending.break? = some how ∧
          (¬ how.EndsInOddLiteral ∧ fault = how.cause ∨
            how.EndsInOddLiteral ∧ fault = .trailingBackslash) := by
  constructor
  · intro found
    obtain ⟨reading, rfl⟩ := Reading.exists_text text
    rw [appendTo, fault?_text] at found
    obtain ⟨breaks, reported⟩ := Option.ite_none_right_eq_some.mp found
    obtain ⟨how, broken⟩ := Option.isSome_iff_exists.mp breaks
    refine ⟨reading, how, rfl, broken, ?_⟩
    rw [← Option.some.inj reported]
    by_cases literal : how.EndsInOddLiteral
    · exact .inr ⟨literal, faultOf_text_of_oddLiteral broken literal⟩
    · exact .inl ⟨literal, faultOf_text_eq_cause broken literal⟩
  · rintro ⟨reading, how, rfl, broken, reported⟩
    rw [appendTo, fault?_text_of_broken broken]
    obtain ⟨notLiteral, rfl⟩ | ⟨literal, rfl⟩ := reported
    · rw [faultOf_text_eq_cause broken notLiteral]
    · rw [faultOf_text_of_oddLiteral broken literal]

/-- In `'a\` the quotation is what is not closed, since its backslash escapes nothing, and yet
the text is said to end in a backslash. -/
theorem appendTo_misses_open_quotation :
    ¬ ((appendTo [] "'a\\").2 = some .unterminatedQuotation ↔
      ∃ (reading : Reading) (how : Break), reading.text = "'a\\" ∧
        reading.ending.break? = some how ∧ how.cause = .unterminatedQuotation) := by
  let quotation : Break := .single ['a', '\\'] (by decide)
  let reading : Reading := ⟨[], .broken none quotation⟩
  have literal : quotation.EndsInOddLiteral := ⟨0, rfl⟩
  have found : (appendTo [] reading.text).2 = some .trailingBackslash := by
    rw [appendTo, fault?_text_of_broken rfl, faultOf_text_of_oddLiteral rfl literal]
  intro claimed
  have closed : (appendTo [] reading.text).2 = some .unterminatedQuotation :=
    claimed.mpr ⟨reading, quotation, rfl, rfl, rfl⟩
  exact nomatch found.symm.trans closed

end BuildRules.Words

import BuildRules.Proofs.WordReadings

/-!
# Quoted words are read back

Any characters can be put into one word: between single quotes all of them are kept, and a
single quote is written by closing the quotation, escaping the quote and opening a quotation
again. Words that are written in this way, with blanks between them, are read back as they
were, the empty word and words of blanks among them, and the text has no fault.
-/

set_option autoImplicit false

namespace BuildRules.Words

/-! ## Quoted words -/

/-- A character between single quotes. The quote itself closes the quotation, stands escaped, and
opens the next one. -/
def quotedChar (c : Char) : List Char :=
  if c = '\'' then ['\'', '\\', '\'', '\''] else [c]

/-- The characters in single quotes. -/
def quoted (chars : List Char) : List Char := '\'' :: (chars.flatMap quotedChar ++ ['\''])

example : String.ofList (quoted "it's # $x".toList) = "'it'\\''s # $x'" := rfl

/-- What stands between two words: one blank or more. -/
structure Gap where
  first : Char
  others : List Char
  blank : ∀ c ∈ first :: others, c = ' ' ∨ c = '\t' ∨ c = '\n'

def Gap.chars (gap : Gap) : List Char := gap.first :: gap.others

/-- The words in single quotes, one after the other, with the gaps between them. -/
def quotedLine (gaps : ℕ → Gap) : List String → List Char
  | [] => []
  | [word] => quoted word.toList
  | word :: next :: words =>
    quoted word.toList ++ (gaps 0).chars ++ quotedLine (fun i => gaps (i + 1)) (next :: words)

/-! ## The automaton on quoted words -/

section Scan

variable {begun rest : List Char}

/-- A character between single quotes is added to the word, and the quotation is open after it. -/
theorem scan_quotedChar (c : Char) :
    scan .single begun (quotedChar c ++ rest) = scan .single (c :: begun) rest := by
  unfold quotedChar
  split
  next quote =>
    have closes : step .single begun '\'' = (.word, begun, false) := rfl
    have escapes : scan .word begun (['\\', '\''] ++ '\'' :: rest) =
        scan .word ('\'' :: begun) ('\'' :: rest) := scan_piece (.escaped '\'')
    have opens : step .word ('\'' :: begun) '\'' = (.single, '\'' :: begun, false) := rfl
    subst quote
    exact (scan_cons closes).trans (escapes.trans (scan_cons opens))
  next other => exact scan_cons (by simp [step, other])

/-- Between single quotes, quoted characters are read as themselves. -/
theorem scan_quotedChars (chars : List Char) :
    scan .single begun (chars.flatMap quotedChar ++ rest) =
      scan .single (chars.reverse ++ begun) rest := by
  induction chars generalizing begun with
  | nil => rfl
  | cons c chars ih =>
    rw [List.flatMap_cons, List.append_assoc, scan_quotedChar, ih, List.reverse_cons,
      List.append_assoc]
    rfl

/-- A quoted word begins a word of its characters, and it may go on after the quotation. -/
theorem scan_quoted (chars : List Char) :
    scan .between [] (quoted chars ++ rest) = scan .word chars.reverse rest := by
  have opens : step .between [] '\'' = (.single, [], false) := rfl
  have closes : step .single chars.reverse '\'' = (.word, chars.reverse, false) := rfl
  rw [quoted, List.cons_append, List.append_assoc, scan_cons opens, scan_quotedChars,
    List.append_nil, List.singleton_append, scan_cons closes]

/-- A gap is made of blanks. -/
theorem isBlank_of_mem_gap {gap : Gap} {c : Char} (within : c ∈ gap.chars) : isBlank c = true := by
  obtain rfl | rfl | rfl := gap.blank c within <;> rfl

/-- Blanks between words are passed over. -/
theorem scan_blanks {blanks : List Char} (blank : ∀ c ∈ blanks, isBlank c = true) :
    scan .between [] (blanks ++ rest) = scan .between [] rest := by
  induction blanks with
  | nil => rfl
  | cons c blanks ih =>
    have one : scan .between [] (c :: (blanks ++ rest)) = scan .between [] (blanks ++ rest) :=
      scan_span (.blank c (blank c List.mem_cons_self))
    exact one.trans (ih fun d within => blank d (List.mem_cons_of_mem c within))

/-- A gap finishes the word before it. -/
theorem scan_gap (gap : Gap) :
    scan .word begun (gap.chars ++ rest) =
      (String.ofList begun.reverse :: (scan .between [] rest).1, (scan .between [] rest).2) := by
  have firstBlank : isBlank gap.first = true := isBlank_of_mem_gap List.mem_cons_self
  have othersBlank : ∀ c ∈ gap.others, isBlank c = true := fun c within =>
    isBlank_of_mem_gap (List.mem_cons_of_mem gap.first within)
  have ends : step .word begun gap.first = (.between, begun, true) := by
    simp [step, firstBlank]
  rw [Gap.chars, List.cons_append, scan_cons_of_ends ends, scan_blanks othersBlank]

/-- The words of a line are finished one by one, and it ends outside of a quotation. -/
theorem scan_quotedLine (gaps : ℕ → Gap) (words : List String) :
    (scan .between [] (quotedLine gaps words)).1 = words ∧
      (scan .between [] (quotedLine gaps words)).2.isOpen = false := by
  induction words generalizing gaps with
  | nil => exact ⟨rfl, rfl⟩
  | cons word words ih =>
    cases words with
    | nil =>
      have only : scan .between [] (quoted word.toList ++ []) = ([word], .word) := by
        rw [scan_quoted, scan, List.reverse_reverse, String.ofList_toList]
      rw [List.append_nil] at only
      rw [quotedLine, only]
      exact ⟨rfl, rfl⟩
    | cons next words =>
      obtain ⟨sameWords, closed⟩ := ih fun i => gaps (i + 1)
      rw [quotedLine, List.append_assoc, scan_quoted, scan_gap, List.reverse_reverse,
        String.ofList_toList, sameWords]
      exact ⟨rfl, closed⟩

end Scan

/-- Words in single quotes are read back from a line, whatever characters they have and whatever
blanks stand between them. -/
theorem appendTo_quotedLine (gaps : ℕ → Gap) (words : List String) :
    (∀ given : List String,
      appendTo given (String.ofList (quotedLine gaps words)) = (given ++ words, none)) ∧
      split (String.ofList (quotedLine gaps words)) = .ok words := by
  obtain ⟨sameWords, closed⟩ := scan_quotedLine gaps words
  have finished : completed (String.ofList (quotedLine gaps words)) = words := by
    rw [completed, String.toList_ofList, sameWords]
  have noFault : fault? (String.ofList (quotedLine gaps words)) = none := by
    rw [fault?, ending, String.toList_ofList, closed]
    rfl
  refine ⟨fun given => ?_, ?_⟩
  · rw [appendTo, finished, noFault]
  · rw [split, noFault, finished]

end BuildRules.Words

import BuildRules.Words
import Mathlib.Data.List.Induction

/-!
# How a text is read as words

The words of a text are described without the automaton that finds them. A text consists
of spans, which are blanks, comments with their line break, and words with the blank after
them, and of an ending: nothing, a comment, a word, or a word that breaks off right after
a backslash or inside a quotation. A word is made of pieces, each of them a character that
stands for itself, a backslash with the character after it, or a quotation, and its first
piece is no `#`, since that begins a comment.

Every text has a reading of this kind. The words that the automaton finishes are those of
the reading, and the mode in which it ends tells the kind of the ending.
-/

set_option autoImplicit false

namespace BuildRules.Words

/-! ## Readings -/

/-- A part of what stands between double quotes: a character that stands for itself, or a backslash
with the character after it. -/
inductive QuotedPart where
  | plain (c : Char) (notQuote : c ≠ '"') (notBackslash : c ≠ '\\')
  | escaped (c : Char)

namespace QuotedPart

def chars : QuotedPart → List Char
  | .plain c _ _ => [c]
  | .escaped c => ['\\', c]

/-- What the part stands for: a backslash stays where it does not escape the character after it. -/
def value : QuotedPart → List Char
  | .plain c _ _ => [c]
  | .escaped c => if c = '\n' then [] else if isSpecial c then [c] else ['\\', c]

end QuotedPart

/-- Outside of quotes the character stands for itself in a word. -/
structure IsOrdinary (c : Char) : Prop where
  notBlank : isBlank c = false
  notDouble : c ≠ '"'
  notSingle : c ≠ '\''
  notBackslash : c ≠ '\\'

/-- A piece of a word: a character that stands for itself, a backslash with the character after it,
or a quotation in single or in double quotes. -/
inductive Piece where
  | plain (c : Char) (ordinary : IsOrdinary c)
  | escaped (c : Char)
  | single (inside : List Char) (closed : '\'' ∉ inside)
  | double (parts : List QuotedPart)

namespace Piece

def chars : Piece → List Char
  | .plain c _ => [c]
  | .escaped c => ['\\', c]
  | .single inside _ => '\'' :: (inside ++ ['\''])
  | .double parts => '"' :: (parts.flatMap QuotedPart.chars ++ ['"'])

/-- What the piece stands for: an escaped line break for nothing. -/
def value : Piece → List Char
  | .plain c _ => [c]
  | .escaped c => if c = '\n' then [] else [c]
  | .single inside _ => inside
  | .double parts => parts.flatMap QuotedPart.value

end Piece

/-- A word: pieces one after the other, the first of which does not begin a comment. -/
inductive Word where
  | one (piece : Piece) (noComment : piece.chars ≠ ['#'])
  | push (word : Word) (piece : Piece)

namespace Word

def chars : Word → List Char
  | .one piece _ => piece.chars
  | .push word piece => word.chars ++ piece.chars

def value : Word → List Char
  | .one piece _ => piece.value
  | .push word piece => word.value ++ piece.value

end Word

/-- How a word breaks off: after a backslash that has nothing to escape, outside of quotes or inside
of double ones, or inside a quotation. -/
inductive Break where
  | backslash
  | single (inside : List Char) (unclosed : '\'' ∉ inside)
  | double (parts : List QuotedPart)
  | doubleBackslash (parts : List QuotedPart)

def Break.chars : Break → List Char
  | .backslash => ['\\']
  | .single inside _ => '\'' :: inside
  | .double parts => '"' :: parts.flatMap QuotedPart.chars
  | .doubleBackslash parts => '"' :: (parts.flatMap QuotedPart.chars ++ ['\\'])

def Break.mode : Break → Mode
  | .backslash => .escaped
  | .single _ _ => .single
  | .double _ => .double
  | .doubleBackslash _ => .doubleEscaped

/-- A part of a text that is complete. -/
inductive Span where
  | blank (c : Char) (blank : isBlank c = true)
  | comment (text : List Char) (oneLine : '\n' ∉ text)
  | word (word : Word) (after : Char) (blank : isBlank after = true)

namespace Span

def chars : Span → List Char
  | .blank c _ => [c]
  | .comment text _ => '#' :: (text ++ ['\n'])
  | .word found after _ => found.chars ++ [after]

def word? : Span → Option String
  | .blank _ _ | .comment _ _ => none
  | .word found _ _ => some (String.ofList found.value)

end Span

/-- Where a text ends. A word that breaks off may have complete pieces before the break. -/
inductive Ending where
  | between
  | comment (text : List Char) (oneLine : '\n' ∉ text)
  | word (word : Word)
  | broken (begun : Option Word) (how : Break)

/-- The characters of the complete pieces of a word, if there are any. -/
def begunChars (begun : Option Word) : List Char := begun.elim [] Word.chars

namespace Ending

def chars : Ending → List Char
  | .between => []
  | .comment text _ => '#' :: text
  | .word found => found.chars
  | .broken begun how => begunChars begun ++ how.chars

def word? : Ending → Option String
  | .word found => some (String.ofList found.value)
  | .between | .comment _ _ | .broken _ _ => none

def break? : Ending → Option Break
  | .broken _ how => some how
  | .between | .comment _ _ | .word _ => none

def mode : Ending → Mode
  | .between => .between
  | .comment _ _ => .comment
  | .word _ => .word
  | .broken _ how => how.mode

end Ending

/-- A text as spans and an ending. -/
structure Reading where
  spans : List Span
  ending : Ending

namespace Reading

def chars (reading : Reading) : List Char :=
  reading.spans.flatMap Span.chars ++ reading.ending.chars

/-- The text that is read in this way. -/
def text (reading : Reading) : String := String.ofList reading.chars

/-- The words that are complete. -/
def words (reading : Reading) : List String :=
  reading.spans.filterMap Span.word? ++ reading.ending.word?.toList

end Reading

/-! ## The automaton on a reading -/

section Scan

variable {mode next : Mode} {begun word : List Char} {c : Char} {rest : List Char}

/-- A character that ends no word leads to the next mode. -/
theorem scan_cons (goes : step mode begun c = (next, word, false)) :
    scan mode begun (c :: rest) = scan next word rest := by
  simp [scan, goes]

/-- A character that ends a word leads to the next mode after it. -/
theorem scan_cons_of_ends (goes : step mode begun c = (next, word, true)) :
    scan mode begun (c :: rest) =
      (String.ofList word.reverse :: (scan next [] rest).1, (scan next [] rest).2) := by
  simp [scan, goes]

/-- A part of a quotation adds its value to the word. -/
theorem scan_part (part : QuotedPart) :
    scan .double begun (part.chars ++ rest) = scan .double (part.value.reverse ++ begun) rest := by
  cases part with
  | plain c notQuote notBackslash =>
    exact scan_cons (by simp [step, notQuote, notBackslash, QuotedPart.value])
  | escaped c =>
    have first : step .double begun '\\' = (.doubleEscaped, begun, false) := by simp [step]
    have second : step .doubleEscaped begun c =
        (.double, (QuotedPart.escaped c).value.reverse ++ begun, false) := by
      unfold step QuotedPart.value
      dsimp only
      split
      · rfl
      · split <;> rfl
    show scan .double begun ('\\' :: c :: rest) = _
    rw [scan_cons first, scan_cons second]

/-- The parts of a double quotation add their values to the word begun. -/
theorem scan_parts (parts : List QuotedPart) :
    scan .double begun (parts.flatMap QuotedPart.chars ++ rest) =
      scan .double ((parts.flatMap QuotedPart.value).reverse ++ begun) rest := by
  induction parts generalizing begun with
  | nil => rfl
  | cons part parts ih =>
    rw [List.flatMap_cons, List.append_assoc, scan_part, ih, List.flatMap_cons,
      List.reverse_append, List.append_assoc]

/-- Inside of single quotes every character is kept. -/
theorem scan_inside {inside : List Char} (closed : '\'' ∉ inside) :
    scan .single begun (inside ++ rest) = scan .single (inside.reverse ++ begun) rest := by
  induction inside generalizing begun with
  | nil => rfl
  | cons c inside ih =>
    rw [List.mem_cons, not_or] at closed
    obtain ⟨notQuote, closedRest⟩ := closed
    have goes : step .single begun c = (.single, c :: begun, false) := by
      simp [step, Ne.symm notQuote]
    rw [List.cons_append, scan_cons goes, ih closedRest, List.reverse_cons, List.append_assoc]
    rfl

/-- A piece adds its value to the word. -/
theorem scan_piece (piece : Piece) :
    scan .word begun (piece.chars ++ rest) = scan .word (piece.value.reverse ++ begun) rest := by
  cases piece with
  | plain c ordinary =>
    obtain ⟨notBlank, notDouble, notSingle, notBackslash⟩ := ordinary
    exact scan_cons (by
      simp [step, stepInWord, notBlank, notDouble, notSingle, notBackslash, Piece.value])
  | escaped c =>
    have first : step .word begun '\\' = (.escaped, begun, false) := rfl
    have second : step .escaped begun c =
        (.word, (Piece.escaped c).value.reverse ++ begun, false) := by
      unfold step Piece.value
      dsimp only
      split <;> rfl
    show scan .word begun ('\\' :: c :: rest) = _
    rw [scan_cons first, scan_cons second]
  | single inside closed =>
    have opens : step .word begun '\'' = (.single, begun, false) := rfl
    have closes : step .single (inside.reverse ++ begun) '\'' =
        (.word, inside.reverse ++ begun, false) := rfl
    show scan .word begun ('\'' :: (inside ++ ['\'']) ++ rest) = _
    rw [List.cons_append, List.append_assoc, scan_cons opens, scan_inside closed,
      List.singleton_append, scan_cons closes]
    rfl
  | double parts =>
    have opens : step .word begun '"' = (.double, begun, false) := rfl
    have closes : step .double ((parts.flatMap QuotedPart.value).reverse ++ begun) '"' =
        (.word, (parts.flatMap QuotedPart.value).reverse ++ begun, false) := rfl
    show scan .word begun ('"' :: (parts.flatMap QuotedPart.chars ++ ['"']) ++ rest) = _
    rw [List.cons_append, List.append_assoc, scan_cons opens, scan_parts,
      List.singleton_append, scan_cons closes]
    rfl

/-- What is no blank and no beginning of a comment begins a word. -/
theorem scan_between (notBlank : isBlank c = false) (noComment : c ≠ '#') :
    scan .between [] (c :: rest) = scan .word [] (c :: rest) := by
  simp [scan, step, notBlank, noComment]

/-- A piece that does not begin a comment begins with a character that begins a word. -/
theorem Piece.exists_chars_eq (piece : Piece) (noComment : piece.chars ≠ ['#']) :
    ∃ c others, piece.chars = c :: others ∧ isBlank c = false ∧ c ≠ '#' := by
  cases piece with
  | plain c ordinary => exact ⟨c, [], rfl, ordinary.notBlank, fun same => noComment (same ▸ rfl)⟩
  | escaped c => exact ⟨'\\', [c], rfl, rfl, by decide⟩
  | single inside closed => exact ⟨'\'', _, rfl, rfl, by decide⟩
  | double parts => exact ⟨'"', _, rfl, rfl, by decide⟩

/-- A word is read as its value. -/
theorem scan_word (word : Word) :
    scan .between [] (word.chars ++ rest) = scan .word word.value.reverse rest := by
  induction word generalizing rest with
  | one piece noComment =>
    obtain ⟨c, others, begins, notBlank, other⟩ := piece.exists_chars_eq noComment
    have asWord : scan .between [] (piece.chars ++ rest) = scan .word [] (piece.chars ++ rest) := by
      rw [begins]
      exact scan_between notBlank other
    rw [Word.chars, asWord, scan_piece, List.append_nil]
    rfl
  | push word piece ih =>
    rw [Word.chars, List.append_assoc, ih, scan_piece, Word.value, List.reverse_append]

/-- A break ends the text in its mode, and the word is not finished. -/
theorem scan_break (how : Break) : scan .word begun how.chars = ([], how.mode) := by
  cases how with
  | backslash => rfl
  | single inside unclosed =>
    have opens : step .word begun '\'' = (.single, begun, false) := rfl
    have whole : scan .single begun (inside ++ []) = _ := scan_inside unclosed
    rw [List.append_nil] at whole
    rw [Break.chars, scan_cons opens, whole]
    rfl
  | double parts =>
    have opens : step .word begun '"' = (.double, begun, false) := rfl
    rw [Break.chars, scan_cons opens, ← List.append_nil (parts.flatMap _), scan_parts]
    rfl
  | doubleBackslash parts =>
    have opens : step .word begun '"' = (.double, begun, false) := rfl
    rw [Break.chars, scan_cons opens, scan_parts]
    rfl

/-- A text that breaks off finishes no word and ends in the mode of its break. -/
theorem scan_broken (begun : Option Word) (how : Break) :
    scan .between [] (begunChars begun ++ how.chars) = ([], how.mode) := by
  cases begun with
  | some word => exact scan_word word ▸ scan_break how
  | none =>
    have asWord : scan .between [] how.chars = scan .word [] how.chars := by
      cases how <;> exact scan_between rfl (by decide)
    exact asWord.trans (scan_break how)

/-- A comment is passed over up to the end of its line. -/
theorem scan_comment {text : List Char} (oneLine : '\n' ∉ text) :
    scan .comment [] (text ++ rest) = scan .comment [] rest := by
  induction text with
  | nil => rfl
  | cons c text ih =>
    rw [List.mem_cons, not_or] at oneLine
    obtain ⟨notBreak, oneLineRest⟩ := oneLine
    have goes : step .comment [] c = (.comment, [], false) := by simp [step, Ne.symm notBreak]
    rw [List.cons_append, scan_cons goes, ih oneLineRest]

/-- A span finishes its word, if it has one. -/
theorem scan_span (span : Span) :
    scan .between [] (span.chars ++ rest) =
      (span.word?.toList ++ (scan .between [] rest).1, (scan .between [] rest).2) := by
  cases span with
  | blank c blank => exact scan_cons (by simp [step, blank])
  | comment text oneLine =>
    have opens : step .between [] '#' = (.comment, [], false) := rfl
    have closes : step .comment [] '\n' = (.between, [], false) := rfl
    show scan .between [] ('#' :: (text ++ ['\n']) ++ rest) = _
    rw [List.cons_append, List.append_assoc, scan_cons opens, scan_comment oneLine,
      List.singleton_append, scan_cons closes]
    rfl
  | word found after blank =>
    have ends : step .word found.value.reverse after =
        (.between, found.value.reverse, true) := by simp [step, blank]
    show scan .between [] (found.chars ++ [after] ++ rest) = _
    rw [List.append_assoc, scan_word, List.singleton_append, scan_cons_of_ends ends,
      List.reverse_reverse]
    rfl

/-- An ending finishes its word, if it has one, and ends in its mode. -/
theorem scan_ending (ending : Ending) :
    scan .between [] ending.chars = (ending.word?.toList, ending.mode) := by
  cases ending with
  | between => rfl
  | comment text oneLine =>
    have opens : step .between [] '#' = (.comment, [], false) := rfl
    have whole : scan .comment [] (text ++ []) = _ := scan_comment oneLine
    rw [List.append_nil] at whole
    rw [Ending.chars, scan_cons opens, whole]
    rfl
  | word found =>
    rw [Ending.chars, ← List.append_nil found.chars, scan_word, scan, List.reverse_reverse]
    rfl
  | broken begun how => exact scan_broken begun how

/-- A reading finishes its words and ends in the mode of its ending. -/
theorem scan_chars (reading : Reading) :
    scan .between [] reading.chars = (reading.words, reading.ending.mode) := by
  obtain ⟨spans, ending⟩ := reading
  unfold Reading.chars Reading.words
  dsimp only
  induction spans with
  | nil => exact scan_ending ending
  | cons span spans ih =>
    rw [List.flatMap_cons, List.append_assoc, scan_span, ih, List.filterMap_cons]
    cases span.word? <;> rfl

end Scan

/-- The words that are finished in a text are the complete words of its reading. -/
theorem completed_text (reading : Reading) : completed reading.text = reading.words := by
  unfold completed Reading.text
  rw [String.toList_ofList, scan_chars]

/-- The mode in which a text ends is that of the ending of its reading. -/
theorem ending_text (reading : Reading) : ending reading.text = reading.ending.mode := by
  unfold ending Reading.text
  rw [String.toList_ofList, scan_chars]

/-- An ending is open exactly if it breaks off. -/
theorem Ending.isOpen_mode (ending : Ending) : ending.mode.isOpen = ending.break?.isSome := by
  cases ending with
  | between | comment _ _ | word _ => rfl
  | broken begun how => cases how <;> rfl

/-- A text has a fault if its reading breaks off. -/
theorem fault?_text (reading : Reading) :
    fault? reading.text =
      if reading.ending.break?.isSome then some (faultOf reading.text) else none := by
  rw [fault?, ending_text, Ending.isOpen_mode]

/-! ## Every text has a reading -/

/-- Outside of quotes a further character goes on with a word or begins one. -/
theorem exists_ending_in_word (begun : Option Word) {c : Char} (notBlank : isBlank c = false)
    (noComment : begun = none → c ≠ '#') :
    ∃ next : Ending, next.chars = begunChars begun ++ [c] := by
  by_cases double : c = '"'
  · subst double
    exact ⟨.broken begun (.double []), rfl⟩
  by_cases single : c = '\''
  · subst single
    exact ⟨.broken begun (.single [] List.not_mem_nil), rfl⟩
  by_cases backslash : c = '\\'
  · subst backslash
    exact ⟨.broken begun .backslash, rfl⟩
  let piece : Piece := .plain c ⟨notBlank, double, single, backslash⟩
  cases begun with
  | none =>
    have begins : piece.chars ≠ ['#'] := fun same => noComment rfl (List.cons.inj same).1
    exact ⟨.word (.one piece begins), rfl⟩
  | some word => exact ⟨.word (.push word piece), rfl⟩

/-- A piece that is not a plain character makes a word, after complete pieces or without any. -/
theorem exists_word (begun : Option Word) (piece : Piece) (noComment : piece.chars ≠ ['#']) :
    ∃ word : Word, word.chars = begunChars begun ++ piece.chars := by
  cases begun with
  | none => exact ⟨.one piece noComment, rfl⟩
  | some word => exact ⟨.push word piece, rfl⟩

/-- A further character closes what is open or goes on with it. -/
theorem exists_ending_after_break (begun : Option Word) (how : Break) (c : Char) :
    ∃ next : Ending, next.chars = begunChars begun ++ (how.chars ++ [c]) := by
  cases how with
  | backslash =>
    obtain ⟨word, same⟩ := exists_word begun (.escaped c) (by simp [Piece.chars])
    exact ⟨.word word, same⟩
  | single inside unclosed =>
    by_cases closes : c = '\''
    · subst closes
      obtain ⟨word, same⟩ := exists_word begun (.single inside unclosed) (by simp [Piece.chars])
      exact ⟨.word word, same⟩
    · have still : '\'' ∉ inside ++ [c] := by simp [unclosed, Ne.symm closes]
      exact ⟨.broken begun (.single (inside ++ [c]) still), rfl⟩
  | double parts =>
    by_cases closes : c = '"'
    · subst closes
      obtain ⟨word, same⟩ := exists_word begun (.double parts) (by simp [Piece.chars])
      exact ⟨.word word, same⟩
    by_cases backslash : c = '\\'
    · subst backslash
      exact ⟨.broken begun (.doubleBackslash parts), rfl⟩
    · refine ⟨.broken begun (.double (parts ++ [.plain c closes backslash])), ?_⟩
      simp [Ending.chars, Break.chars, QuotedPart.chars]
  | doubleBackslash parts =>
    refine ⟨.broken begun (.double (parts ++ [.escaped c])), ?_⟩
    simp [Ending.chars, Break.chars, QuotedPart.chars]

/-- After a further character an ending is still one, or it is complete and another one begins. -/
theorem Ending.exists_snoc (ending : Ending) (c : Char) :
    ∃ (spans : List Span) (next : Ending),
      spans.flatMap Span.chars ++ next.chars = ending.chars ++ [c] := by
  cases ending with
  | between =>
    by_cases blank : isBlank c = true
    · exact ⟨[.blank c blank], .between, rfl⟩
    by_cases opens : c = '#'
    · subst opens
      exact ⟨[], .comment [] List.not_mem_nil, rfl⟩
    obtain ⟨next, same⟩ := exists_ending_in_word none (by simpa using blank) fun _ => opens
    exact ⟨[], next, same⟩
  | comment text oneLine =>
    by_cases closes : c = '\n'
    · refine ⟨[.comment text oneLine], .between, ?_⟩
      simp [Span.chars, Ending.chars, closes]
    · have still : '\n' ∉ text ++ [c] := by simp [oneLine, Ne.symm closes]
      exact ⟨[], .comment (text ++ [c]) still, rfl⟩
  | word found =>
    by_cases blank : isBlank c = true
    · refine ⟨[.word found c blank], .between, ?_⟩
      simp [Span.chars, Ending.chars]
    obtain ⟨next, same⟩ := exists_ending_in_word (some found) (by simpa using blank)
      fun absent => nomatch absent
    exact ⟨[], next, same⟩
  | broken begun how =>
    obtain ⟨next, same⟩ := exists_ending_after_break begun how c
    exact ⟨[], next, same.trans (List.append_assoc _ _ _).symm⟩

/-- Every text has a reading. -/
theorem Reading.exists_chars (whole : List Char) : ∃ reading : Reading, reading.chars = whole := by
  induction whole using List.reverseRecOn with
  | nil => exact ⟨⟨[], .between⟩, rfl⟩
  | append_singleton whole c ih =>
    obtain ⟨⟨spans, ending⟩, rfl⟩ := ih
    obtain ⟨more, next, same⟩ := ending.exists_snoc c
    refine ⟨⟨spans ++ more, next⟩, ?_⟩
    unfold chars
    rw [List.flatMap_append, List.append_assoc, same, List.append_assoc]

/-- Every text has a reading. -/
theorem Reading.exists_text (whole : String) : ∃ reading : Reading, reading.text = whole := by
  obtain ⟨reading, read⟩ := exists_chars whole.toList
  exact ⟨reading, by rw [text, read, String.ofList_toList]⟩

end BuildRules.Words

import BuildRules.FileType
import BuildRules.Proofs.CacheKeys
import BuildRules.Proofs.LabelGrammar
import Mathlib.Data.List.Infix

/-!
# Extensions mean endings

A file type that is a dot and characters without a meaning of their own in patterns admits
the files whose base name ends with it. Three things come together for this. The pattern
is read as a star and the characters as they are. A star in front of fixed bytes describes
the names that end with these bytes, since the row in front of fixed bytes allows exactly
one ending. And the bytes of a text that begins with a dot end a name only where the text
ends it, since a dot is never a part of another character.

A set of such file types always comes about, and it admits what one of the types admits:
for the base name `..`, which sets look at in a way of their own, the one extension that
ends it is looked up by the whole name.
-/

set_option autoImplicit false

namespace BuildRules

/-! ## Endings of UTF-8 -/

namespace Utf8

/-- A byte that continues a character is not one of the first 128. -/
theorem le_of_mem_continuation {code count : Nat} {byte : UInt8}
    (member : byte ∈ continuation code count) : 128 ≤ byte.toNat := by
  induction count with
  | zero => simp [continuation] at member
  | succ count ih =>
    unfold continuation at member
    rcases List.mem_cons.mp member with rfl | later
    · rw [UInt8.toNat_ofNat']
      omega
    · exact ih later

/-- No two lists of characters are encoded by the same bytes. -/
theorem flatMap_utf8EncodeChar_injective :
    Function.Injective (List.flatMap String.utf8EncodeChar) := by
  intro first second same
  have bytes : Configuration.bytesOf (String.ofList first) =
      Configuration.bytesOf (String.ofList second) := by
    rw [bytesOf_eq_flatMap, bytesOf_eq_flatMap, String.toList_ofList, String.toList_ofList, same]
  exact String.ofList_inj.mp (Configuration.bytesOf_injective bytes)

/-- One of the first 128 characters is encoded by its own number. -/
theorem utf8EncodeChar_ascii {c : Char} (ascii : c.val.toNat < 128) :
    String.utf8EncodeChar c = [UInt8.ofNat c.val.toNat] := by
  rw [utf8EncodeChar_eq]
  unfold leadByte continuationCount
  rw [if_pos (by omega), if_pos (by omega)]
  rfl

/-- An ending whose first entry does not stand in the front part lies behind this part. -/
theorem suffix_of_suffix_append {α : Type} {first : α} {ending front back : List α}
    (absent : first ∉ front) (ends : first :: ending <:+ front ++ back) :
    first :: ending <:+ back := by
  induction front with
  | nil => exact ends
  | cons head tail ih =>
    obtain ⟨notHead, notTail⟩ := not_or.mp (mt List.mem_cons.mpr absent)
    rcases List.suffix_cons_iff.mp ends with same | inner
    · exact absurd (List.cons.inj same).1 notHead
    · exact ih notTail inner

/-- The bytes of a text that begins with an ASCII character end the bytes of another text exactly
when the text ends the other one: the first byte is no continuation byte. -/
theorem flatMap_suffix_iff {c : Char} (ascii : c.val.toNat < 128) (ending text : List Char) :
    (c :: ending).flatMap String.utf8EncodeChar <:+ text.flatMap String.utf8EncodeChar ↔
      c :: ending <:+ text := by
  constructor
  · intro ends
    have bytes : (c :: ending).flatMap String.utf8EncodeChar =
        UInt8.ofNat c.val.toNat :: ending.flatMap String.utf8EncodeChar := by
      rw [List.flatMap_cons, utf8EncodeChar_ascii ascii]
      rfl
    induction text with
    | nil =>
      rw [bytes] at ends
      cases List.suffix_nil.mp ends
    | cons d rest ih =>
      have front : (d :: rest).flatMap String.utf8EncodeChar =
          UInt8.ofNat (leadByte d.val.toNat) ::
            (continuation d.val.toNat (continuationCount d.val.toNat) ++
              rest.flatMap String.utf8EncodeChar) := by
        rw [List.flatMap_cons, utf8EncodeChar_eq, List.cons_append]
      rcases List.suffix_cons_iff.mp (front ▸ ends) with same | inner
      · rw [flatMap_utf8EncodeChar_injective (same.trans front.symm)]
      · have absent : UInt8.ofNat c.val.toNat ∉
            continuation d.val.toNat (continuationCount d.val.toNat) := by
          intro member
          have large := le_of_mem_continuation member
          rw [UInt8.toNat_ofNat'] at large
          omega
        rw [bytes] at inner
        have inRest := ih (bytes ▸ suffix_of_suffix_append absent inner)
        exact inRest.trans (List.suffix_cons d rest)
  · rintro ⟨front, rfl⟩
    rw [List.flatMap_append]
    exact List.suffix_append _ _

end Utf8

/-! ## Rows of fixed bytes -/

namespace Glob

/-- The bytes that a literal stands for are those of its encoding. -/
theorem bytesOfChar_eq (c : Char) : bytesOfChar c = String.utf8EncodeChar c := by
  have bytes : bytesOfChar c = (String.singleton c).toList.flatMap String.utf8EncodeChar :=
    Utf8.bytesOf_eq_flatMap (String.singleton c)
  simpa using bytes

/-- The row at the end of a pattern allows the empty rest of the name only. -/
theorem rowAtEnd_eq (name : List UInt8) :
    rowAtEnd name = name.tails.map fun tail => decide (tail = []) := by
  induction name with
  | nil => rfl
  | cons byte rest ih =>
    unfold rowAtEnd
    rw [ih, List.tails_cons, List.map_cons]
    simp

/-- The head of the row for all rests of a name is the one for the whole name. -/
theorem headD_map_tails (allows : List UInt8 → Bool) (name : List UInt8) (fallback : Bool) :
    (name.tails.map allows).headD fallback = allows name := by
  cases name <;> rfl

/-- In front of one byte that ending is allowed which has the byte before the one that is allowed
behind it. -/
theorem beforeByte_eq (byte : UInt8) (ending name : List UInt8) :
    beforeByte (· = byte) name (name.tails.map fun tail => decide (tail = ending)) =
      name.tails.map fun tail => decide (tail = byte :: ending) := by
  induction name with
  | nil => rfl
  | cons first rest ih =>
    rw [List.tails_cons, List.map_cons, List.map_cons]
    unfold beforeByte
    rw [ih, headD_map_tails]
    simp

/-- Going back over bytes, the rests that are an ending become those that are the bytes and the
ending. -/
theorem foldr_beforeByte_eq (bytes ending name : List UInt8) :
    bytes.foldr (fun byte row => beforeByte (· = byte) name row)
        (name.tails.map fun tail => decide (tail = ending)) =
      name.tails.map fun tail => decide (tail = bytes ++ ending) := by
  induction bytes with
  | nil => rfl
  | cons byte rest ih => rw [List.foldr_cons, ih, beforeByte_eq, List.cons_append]

/-- In front of fixed characters only their bytes are allowed. -/
theorem beforeAll_literals (name : List UInt8) (text : List Char) :
    beforeAll name (text.map .literal) (rowAtEnd name) =
      name.tails.map fun tail => decide (tail = text.flatMap String.utf8EncodeChar) := by
  induction text with
  | nil => exact rowAtEnd_eq name
  | cons c rest ih =>
    rw [List.map_cons, List.flatMap_cons]
    unfold beforeAll before
    rw [ih, bytesOfChar_eq, foldr_beforeByte_eq]

/-- In front of a star every name is allowed that has an allowed ending. -/
theorem headD_beforeAny (allows : List UInt8 → Bool) (name : List UInt8) :
    (beforeAny (name.tails.map allows)).headD false = name.tails.any allows := by
  induction name with
  | nil => simp [beforeAny]
  | cons byte rest ih =>
    rw [List.tails_cons, List.map_cons, List.any_cons, ← ih]
    rfl

/-- A star and characters that stand for themselves. -/
def endingTokens (text : List Char) : List Token := .star :: text.map .literal

/-- The pattern of an ending describes exactly the names that end with its bytes. -/
theorem describes_endingTokens_iff (text : List Char) (name : List UInt8) :
    describes (endingTokens text) name = true ↔
      text.flatMap String.utf8EncodeChar <:+ name := by
  have whole : describes (endingTokens text) name =
      (beforeAny (beforeAll name (text.map .literal) (rowAtEnd name))).headD false := rfl
  rw [whole, beforeAll_literals, headD_beforeAny, List.any_eq_true]
  simp

/-! ## Patterns of plain characters -/

/-- The characters that do not stand for themselves in patterns, and the separator. -/
def specialChars : List Char := ['*', '?', '[', ']', '\x7b', '\x7d', '\\', '/']

/-- Outside groups a plain character stands for itself, a comma too. -/
theorem parseTokens_cons_plain {c : Char} (plain : c ∉ specialChars) (tokens : List Token)
    (previous : Option Char) (rest : List Char) :
    parseTokens ⟨tokens, []⟩ previous (c :: rest) =
      parseTokens ⟨.literal c :: tokens, []⟩ (some c) rest := by
  conv => lhs; unfold parseTokens
  split
  all_goals try (rename_i same; cases same)
  -- What is left are the special characters, the comma and every other character.
  all_goals first
    | exact absurd (by decide) plain
    | rfl

/-- Characters without a meaning of their own are read as themselves. -/
theorem parseTokens_plain (tokens : List Token) (previous : Option Char) {text : List Char}
    (plain : ∀ c ∈ text, c ∉ specialChars) :
    parseTokens ⟨tokens, []⟩ previous text =
      .ok ⟨(text.map .literal).reverse ++ tokens, []⟩ := by
  induction text generalizing tokens previous with
  | nil => rfl
  | cons c rest ih =>
    obtain ⟨plainChar, plainRest⟩ := List.forall_mem_cons.mp plain
    rw [parseTokens_cons_plain plainChar, ih _ _ plainRest, List.map_cons, List.reverse_cons,
      List.append_assoc]
    rfl

/-- A star and an extension are read as the pattern of the ending. -/
theorem parse_star_dot {text : List Char} (plain : ∀ c ∈ text, c ∉ specialChars) :
    parse (String.ofList ('*' :: '.' :: text)) = .ok (endingTokens ('.' :: text)) := by
  have star : parseTokens ⟨[], []⟩ none ('*' :: '.' :: text) =
      parseTokens ⟨[.star], []⟩ (some '*') ('.' :: text) := by
    conv => lhs; unfold parseTokens
    rfl
  have plainDot : '.' ∉ specialChars := by decide
  unfold parse
  rw [String.toList_ofList, star,
    parseTokens_plain _ _ (List.forall_mem_cons.mpr ⟨plainDot, plain⟩)]
  show Except.ok (((('.' :: text).map Token.literal).reverse ++ [Token.star]).reverse) = _
  rw [List.reverse_append, List.reverse_reverse]
  rfl

/-! ## How sets look up endings -/

/-- A pattern of literals fixes the whole text. -/
theorem fixedText?_literals (text : List Char) : fixedText? (text.map .literal) = some text := by
  unfold fixedText?
  induction text with
  | nil => rfl
  | cons c rest ih =>
    rw [List.map_cons, List.mapM_cons, ih]
    rfl

/-- A dot and plain characters are looked up as an extension when there is no other dot, and as the
ending of the whole name otherwise. -/
theorem lookup_endingTokens {rest : List Char} (inside : '/' ∉ rest) :
    Lookup.of (endingTokens ('.' :: rest)) = if '.' ∈ rest then .text else .extension := by
  have notFixed : fixedText? (endingTokens ('.' :: rest)) = none := rfl
  have extension : fixesExtension (endingTokens ('.' :: rest)) = decide ('.' ∉ rest) := by
    simp only [fixesExtension, endingTokens, afterLeading, List.map_cons, fixedText?_literals,
      inside]
    rfl
  have ending : fixesEnding (endingTokens ('.' :: rest)) = true := by
    simp only [fixesEnding, endingTokens, afterLeading, fixedText?_literals]
    rfl
  have component : fixesLastComponent (endingTokens ('.' :: rest)) = false := rfl
  unfold Lookup.of
  rw [notFixed, extension, ending, component, Bool.or_true]
  by_cases dotted : '.' ∈ rest
  · simp [dotted]
  · simp [dotted]

/-- Nothing is refused that is looked up by a part of the name. -/
theorem refusal?_eq_none {patterns : List (List Token)}
    (direct : ∀ tokens ∈ patterns,
      Lookup.of tokens ≠ .extensionAndMore ∧ Lookup.of tokens ≠ .expression) :
    refusal? patterns = none := by
  have noExtension : (patterns.find? fun tokens =>
      Lookup.of tokens = .extensionAndMore && tooDeep tokens) = none := by
    refine List.find?_eq_none.mpr fun tokens listed found => ?_
    exact (direct tokens listed).1 (of_decide_eq_true (Bool.and_eq_true_iff.mp found).1)
  have noExpression : (patterns.filter fun tokens => Lookup.of tokens = .expression) = [] := by
    refine List.filter_eq_nil_iff.mpr fun tokens listed found => ?_
    exact (direct tokens listed).2 (of_decide_eq_true found)
  unfold refusal?
  rw [noExtension, noExpression]
  rfl

/-- A dot and plain characters describe the names of which they are the ending. -/
theorem describes_dot_iff (text name : List Char) :
    describes (endingTokens ('.' :: text)) (name.flatMap String.utf8EncodeChar) = true ↔
      '.' :: text <:+ name := by
  rw [describes_endingTokens_iff]
  exact Utf8.flatMap_suffix_iff (by decide) text name

/-- The exception that sets make for the name of two dots leaves extensions alone: a pattern that is
looked up by its extension has one dot, followed by other characters, and does not describe
that name. -/
theorem lacksComponent_and_needsComponent_eq_false {text : List Char} {name : List UInt8}
    (inside : '/' ∉ text) (nonempty : text ≠ [])
    (described : describes (endingTokens ('.' :: text)) name = true) :
    (lacksComponent name && (Lookup.of (endingTokens ('.' :: text))).needsComponent) = false := by
  rw [lookup_endingTokens inside]
  split
  · exact Bool.and_false _
  · rename_i undotted
    refine Bool.and_eq_false_iff.mpr (.inl (decide_eq_false ?_))
    rintro rfl
    have ends : '.' :: text <:+ ['.', '.'] := (describes_dot_iff text ['.', '.']).mp described
    obtain ⟨c, rest, rfl⟩ := List.exists_cons_of_ne_nil nonempty
    have isDot : c = '.' := by
      simpa using ends.subset (List.mem_cons_of_mem _ List.mem_cons_self)
    exact undotted (isDot ▸ List.mem_cons_self)

/-- A set admits what one of its patterns describes when the exception takes nothing away. -/
theorem describedByOne_iff {patterns : List (List Token)} {name : List UInt8}
    (asked : ∀ tokens ∈ patterns, describes tokens name = true →
      (lacksComponent name && (Lookup.of tokens).needsComponent) = false) :
    describedByOne patterns name = true ↔ ∃ tokens ∈ patterns, describes tokens name = true := by
  unfold describedByOne
  rw [List.any_eq_true]
  refine exists_congr fun tokens => and_congr_right fun listed => ?_
  rw [Bool.and_eq_true_iff]
  refine ⟨And.right, fun described => ⟨?_, described⟩⟩
  rw [asked tokens listed described]
  rfl

end Glob

/-! ## Sets of extensions -/

namespace FileType

/-- The pattern is a dot and at least one more character, and none after the dot has a meaning of
its own. -/
def IsExtension (pattern : String) : Prop :=
  ∃ rest, pattern.toList = '.' :: rest ∧ rest ≠ [] ∧ ∀ c ∈ rest, c ∉ Glob.specialChars

/-- The file type of an extension. -/
def ofEnding (pattern : String) : FileType := ⟨pattern, Glob.endingTokens pattern.toList⟩

/-- A pattern for an extension is read as the type of its ending. -/
theorem parse_of_isExtension {pattern : String} (extension : IsExtension pattern) :
    parse pattern = .ok (ofEnding pattern) := by
  obtain ⟨rest, whole, -, plain⟩ := extension
  have text : globText pattern = String.ofList ('*' :: '.' :: rest) := by
    unfold globText
    rw [whole]
    show "*" ++ pattern = _
    rw [← String.toList_inj, String.toList_append, whole, String.toList_ofList,
      String.toList_ofList]
    rfl
  unfold parse ofEnding
  rw [text, Glob.parse_star_dot plain, whole]

/-- The type of an ending admits exactly the files of which the name ends with it. -/
theorem admits_ofEnding_iff {pattern : String} (extension : IsExtension pattern)
    (fileName : String) :
    (ofEnding pattern).admits fileName = true ↔
      pattern.toList <:+ (Text.baseName fileName).toList := by
  obtain ⟨rest, whole, -, -⟩ := extension
  have bytes : (Text.baseName fileName).toUTF8.data.toList =
      (Text.baseName fileName).toList.flatMap String.utf8EncodeChar :=
    Utf8.bytesOf_eq_flatMap (Text.baseName fileName)
  unfold admits ofEnding
  rw [bytes, whole]
  exact Glob.describes_dot_iff rest _

end FileType

namespace FileTypeSet

variable {patterns : List String}

/-- The types of extensions have patterns of endings, which begin with a dot and have no separator.
-/
theorem exists_eq_of_mem_tokens (extensions : ∀ pattern ∈ patterns, FileType.IsExtension pattern)
    {tokens : List Glob.Token}
    (listed : tokens ∈ (patterns.map FileType.ofEnding).map FileType.tokens) :
    ∃ rest, tokens = Glob.endingTokens ('.' :: rest) ∧ rest ≠ [] ∧ '/' ∉ rest := by
  obtain ⟨type, typeListed, rfl⟩ := List.mem_map.mp listed
  obtain ⟨pattern, patternListed, rfl⟩ := List.mem_map.mp typeListed
  obtain ⟨rest, whole, nonempty, plain⟩ := extensions pattern patternListed
  have inside : '/' ∉ rest := fun slash => plain '/' slash (by decide)
  exact ⟨rest, congrArg Glob.endingTokens whole, nonempty, inside⟩

/-- Patterns for extensions are all read as the types of their endings. -/
theorem mapM_parse_eq (extensions : ∀ pattern ∈ patterns, FileType.IsExtension pattern) :
    patterns.mapM FileType.parse = .ok (patterns.map FileType.ofEnding) := by
  refine mapM_of_forall₂ (List.forall₂_map_right_iff.mpr (List.forall₂_same.mpr ?_))
  exact fun pattern listed => FileType.parse_of_isExtension (extensions pattern listed)

/-- A set of patterns for extensions is read as the set of the types of their endings. -/
theorem parse_of_isExtension (nonempty : patterns ≠ [])
    (extensions : ∀ pattern ∈ patterns, FileType.IsExtension pattern) :
    parse patterns = .ok (.of (patterns.map FileType.ofEnding)) := by
  have accepted :
      Glob.refusal? ((patterns.map FileType.ofEnding).map FileType.tokens) = none := by
    refine Glob.refusal?_eq_none fun tokens listed => ?_
    obtain ⟨rest, rfl, -, inside⟩ := exists_eq_of_mem_tokens extensions listed
    rw [Glob.lookup_endingTokens inside]
    split <;> decide
  unfold parse
  rw [if_neg (by simpa using nonempty)]
  refine bind_eq_ok_iff.mpr ⟨_, mapM_parse_eq extensions, ?_⟩
  rw [accepted]
  rfl

/-- A set of endings admits a file exactly if one of its types does. -/
theorem admits_ofEndings_iff (extensions : ∀ pattern ∈ patterns, FileType.IsExtension pattern)
    (fileName : String) :
    (of (patterns.map FileType.ofEnding)).admits fileName = true ↔
      ∃ pattern ∈ patterns, (FileType.ofEnding pattern).admits fileName = true := by
  unfold admits
  rw [Glob.describedByOne_iff]
  · simp only [List.mem_map, exists_exists_and_eq_and]
    rfl
  -- The exception takes nothing away from extensions.
  · intro tokens listed described
    obtain ⟨rest, rfl, nonempty, inside⟩ := exists_eq_of_mem_tokens extensions listed
    exact Glob.lacksComponent_and_needsComponent_eq_false inside nonempty described

/-- A set of extensions comes about from every list of them that is not empty, and so does each of
its types alone. The set admits a file exactly when the text behind the last slash of its name ends
with one of the extensions, and that is when one of the types admits it alone. -/
theorem extensions_admit_endings (nonempty : patterns ≠ [])
    (extensions : ∀ pattern ∈ patterns, FileType.IsExtension pattern) :
    ∃ set types, parse patterns = .ok set ∧
      List.Forall₂ (fun pattern type => FileType.parse pattern = .ok type) patterns types ∧
      ∀ fileName, ∃ base, Label.IsLastComponent base fileName ∧
        (set.admits fileName = true ↔ ∃ pattern ∈ patterns, pattern.toList <:+ base.toList) ∧
        ((∃ pattern ∈ patterns, pattern.toList <:+ base.toList) ↔
          ∃ type ∈ types, type.admits fileName = true) := by
  refine ⟨_, patterns.map FileType.ofEnding, parse_of_isExtension nonempty extensions,
    forall₂_of_mapM (mapM_parse_eq extensions), fun fileName => ⟨Text.baseName fileName, ?_, ?_⟩⟩
  · exact Label.lastPiece_toList_eq_iff.mp String.toList_ofList.symm
  · have one : (∃ pattern ∈ patterns, (FileType.ofEnding pattern).admits fileName = true) ↔
        ∃ pattern ∈ patterns, pattern.toList <:+ (Text.baseName fileName).toList :=
      exists_congr fun pattern => and_congr_right fun listed =>
        FileType.admits_ofEnding_iff (extensions pattern listed) fileName
    refine ⟨(admits_ofEndings_iff extensions fileName).trans one, one.symm.trans ?_⟩
    simp only [List.mem_map, exists_exists_and_eq_and]

/-- A name that is an extension with nothing before it is admitted, two dots among them, and what a
directory is called does not count. -/
theorem extensions_admit_endings_archives : ∃ set,
    parse [".tar.gz", ".."] = .ok set ∧ set.admits "dir/.tar.gz" = true ∧
      set.admits "dir/.." = true ∧ set.admits "dir.tar.gz/a.gz" = false := by
  have extensions : ∀ pattern ∈ [".tar.gz", ".."], FileType.IsExtension pattern := by
    intro pattern listed
    rcases List.mem_pair.mp listed with rfl | rfl
    · exact ⟨['t', 'a', 'r', '.', 'g', 'z'], rfl, List.cons_ne_nil _ _, by simp [Glob.specialChars]⟩
    · exact ⟨['.'], rfl, List.cons_ne_nil _ _, by simp [Glob.specialChars]⟩
  obtain ⟨set, types, parsed, -, each⟩ :=
    extensions_admit_endings (List.cons_ne_nil _ _) extensions
  have admits (fileName : String) : set.admits fileName = true ↔
      ∃ pattern ∈ [".tar.gz", ".."], pattern.toList <:+ Text.lastPiece '/' fileName.toList := by
    obtain ⟨base, last, admitted, -⟩ := each fileName
    rw [Label.lastPiece_toList_eq_iff.mpr last]
    exact admitted
  refine ⟨set, parsed, (admits _).mpr ?_, (admits _).mpr ?_,
    Bool.eq_false_iff.mpr (mt (admits _).mp ?_)⟩
  · exact ⟨".tar.gz", List.mem_pair.mpr (.inl rfl), by decide⟩
  · exact ⟨"..", List.mem_pair.mpr (.inr rfl), by decide⟩
  · decide

end FileTypeSet

end BuildRules

import BuildRules.Proofs.PathComponents

/-!
# Where a text is cut

A text with a separator in it has one first separator, so what stands before it and what
stands after it are determined by the text. Cutting at the first separator finds these
two parts, cutting before an ending finds what the ending follows, and the components of
a path are the texts without a slash of which the path is made by slashes between them.
-/

set_option autoImplicit false

namespace BuildRules

namespace Text

/-- What stands before and after the first separator is determined. -/
theorem append_cons_inj {α : Type} {separator : α} {before other after rest : List α}
    (first : separator ∉ before) (firstOther : separator ∉ other) :
    before ++ separator :: after = other ++ separator :: rest ↔
      before = other ∧ after = rest := by
  refine ⟨fun same => ?_, fun ⟨sameBefore, sameAfter⟩ => by rw [sameBefore, sameAfter]⟩
  rcases List.append_eq_append_iff.mp same with
    ⟨between, longer, tail⟩ | ⟨between, longer, tail⟩
  all_goals
    cases between with
    | nil => simp_all
    | cons c between =>
      obtain ⟨rfl, -⟩ := List.cons.inj tail
      simp_all

variable {separator : Char} {text before after piece : List Char}

/-- A text is cut nowhere exactly if it has no separator. -/
theorem cutAtFirst_eq_none_iff : cutAtFirst separator text = none ↔ separator ∉ text := by
  induction text with
  | nil => simp [cutAtFirst]
  | cons c rest ih =>
    unfold cutAtFirst
    by_cases same : c = separator
    · simp [same]
    · rw [if_neg same, Option.map_eq_none_iff, ih, List.mem_cons, not_or]
      exact ⟨fun absent => ⟨Ne.symm same, absent⟩, And.right⟩

/-- A text is cut at the separator after a part that has none. -/
theorem cutAtFirst_append (first : separator ∉ before) :
    cutAtFirst separator (before ++ separator :: after) = some (before, after) := by
  induction before with
  | nil => simp [cutAtFirst]
  | cons c rest ih =>
    rw [List.mem_cons, not_or] at first
    rw [List.cons_append]
    unfold cutAtFirst
    rw [if_neg (Ne.symm first.1), ih first.2]
    rfl

/-- A text is cut into what stands before its first separator and what stands after it. -/
theorem cutAtFirst_eq_some_iff :
    cutAtFirst separator text = some (before, after) ↔
      text = before ++ separator :: after ∧ separator ∉ before := by
  constructor
  · intro cut
    have inside : separator ∈ text := by
      by_contra absent
      rw [cutAtFirst_eq_none_iff.mpr absent] at cut
      cases cut
    obtain ⟨front, back, rfl, first⟩ := List.eq_append_cons_of_mem inside
    rw [cutAtFirst_append first] at cut
    cases cut
    exact ⟨rfl, first⟩
  · rintro ⟨rfl, first⟩
    exact cutAtFirst_append first

/-- A text is cut before an ending exactly when it has that ending. -/
theorem withoutEnding?_eq_some_iff {ending : List Char} :
    withoutEnding? ending text = some before ↔ text = before ++ ending := by
  unfold withoutEnding?
  rw [Option.ite_none_right_eq_some, List.isSuffixOf_iff_suffix, Option.some.injEq]
  constructor
  · rintro ⟨⟨front, rfl⟩, rfl⟩
    simp
  · rintro rfl
    exact ⟨List.suffix_append before ending, by simp⟩

/-- A text with an ending is left without it. -/
theorem withoutEnding?_append (ending front : List Char) :
    withoutEnding? ending (front ++ ending) = some front :=
  withoutEnding?_eq_some_iff.mpr rfl

/-- A text has only one of two endings when neither of them ends with the other. -/
theorem withoutEnding?_append_of_not_suffix {ending other : List Char} (front : List Char)
    (apart : ¬ ending <:+ other) (apart' : ¬ other <:+ ending) :
    withoutEnding? ending (front ++ other) = none := by
  rw [Option.eq_none_iff_forall_ne_some]
  intro before cut
  have whole := withoutEnding?_eq_some_iff.mp cut
  have suffixes := List.suffix_or_suffix_of_suffix (whole ▸ List.suffix_append before ending)
    (List.suffix_append front other)
  exact suffixes.elim apart apart'

/-- The pieces of a text are those into which it is split at its separators. -/
theorem pieces_eq_splitOn (separator : Char) (text : List Char) :
    pieces separator text = text.splitOn separator := by
  induction text with
  | nil => rfl
  | cons c rest ih =>
    unfold pieces
    rw [List.splitOn_cons_eq_if_modifyHead, ← ih]
    by_cases same : c = separator
    · rw [if_pos same, if_pos (beq_iff_eq.mpr same)]
    · rw [if_neg same, if_neg (mt beq_iff_eq.mp same)]
      cases cut : pieces separator rest with
      | nil => exact absurd cut (pieces_ne_nil separator rest)
      | cons first others => rfl

/-- A text without separators is one piece. -/
theorem pieces_of_not_mem (absent : separator ∉ text) : pieces separator text = [text] := by
  rw [pieces_eq_splitOn, List.splitOn_eq_singleton absent]

/-- The last piece of a text without separators is the text. -/
theorem lastPiece_of_not_mem (absent : separator ∉ text) : lastPiece separator text = text := by
  unfold lastPiece
  simp only [pieces_of_not_mem absent, List.getLast_singleton]

/-- The last piece is the whole text or stands after a separator, and there is none in it. -/
theorem lastPiece_eq_iff :
    lastPiece separator text = piece ↔
      separator ∉ piece ∧ (text = piece ∨ ∃ before, text = before ++ separator :: piece) := by
  constructor
  · rintro rfl
    by_cases inside : separator ∈ text
    · obtain ⟨back, front, turned, last⟩ :=
        List.eq_append_cons_of_mem (List.mem_reverse.mpr inside)
      have whole : text = front.reverse ++ separator :: back.reverse := by
        simpa using congrArg List.reverse turned
      have free : separator ∉ back.reverse := by simpa using last
      rw [whole, lastPiece_append, lastPiece_of_not_mem free]
      exact ⟨free, .inr ⟨_, rfl⟩⟩
    · rw [lastPiece_of_not_mem inside]
      exact ⟨inside, .inl rfl⟩
  · rintro ⟨free, rfl | ⟨before, rfl⟩⟩
    · exact lastPiece_of_not_mem free
    · rw [lastPiece_append, lastPiece_of_not_mem free]

/-! ## Components -/

/-- A path is made again from its components. -/
theorem intercalate_components (path : String) : "/".intercalate (components path) = path := by
  apply String.toList_inj.mp
  rw [String.toList_intercalate]
  unfold components
  rw [List.map_map, show String.toList ∘ String.ofList = id from funext fun _ => by simp,
    List.map_id]
  exact intercalate_pieces '/' path.toList

/-- Texts without a slash are the components of the path that is made of them. -/
theorem components_intercalate {parts : List String} (nonempty : parts ≠ [])
    (free : ∀ part ∈ parts, '/' ∉ part.toList) : components ("/".intercalate parts) = parts := by
  unfold components
  have freeLists : ∀ part ∈ parts.map String.toList, '/' ∉ part := by
    intro part member
    obtain ⟨one, inside, rfl⟩ := List.mem_map.mp member
    exact free one inside
  rw [String.toList_intercalate, pieces_eq_splitOn]
  show (List.splitOn '/' (['/'].intercalate (parts.map String.toList))).map String.ofList = parts
  rw [List.splitOn_intercalate '/' freeLists (by simpa using nonempty), List.map_map,
    show String.ofList ∘ String.toList = id from funext fun _ => by simp, List.map_id]

/-- The components of a text begin with those of another one exactly when it is that text or goes on
with a slash after it. -/
theorem components_prefix_iff {path text : String} :
    components path <+: components text ↔ text = path ∨ ∃ rest, text = path ++ "/" ++ rest := by
  constructor
  · rintro ⟨others, joined⟩
    by_cases last : others = []
    · rw [last, List.append_nil] at joined
      exact .inl (components_injective joined.symm)
    · refine .inr ⟨"/".intercalate others, ?_⟩
      calc
        text = "/".intercalate (components path ++ others) := by
          rw [joined, intercalate_components]
        _ = "/".intercalate (components path) ++ "/" ++ "/".intercalate others :=
          String.intercalate_append_of_ne_nil (components_ne_nil path) last
        _ = path ++ "/" ++ "/".intercalate others := by rw [intercalate_components]
  · rintro (rfl | ⟨rest, rfl⟩)
    · exact List.prefix_rfl
    · rw [components_append]
      exact List.prefix_append _ _

end Text

/-! ## Paths -/

/-- The text is made of one or more parts of a kind with slashes between them. -/
def IsPathOf (isPart : String → Prop) (text : String) : Prop :=
  ∃ parts : List String, parts ≠ [] ∧ (∀ part ∈ parts, isPart part) ∧ text = "/".intercalate parts

variable {isPart : String → Prop} {text : String}

/-- A text is a path of parts without slashes exactly when all of its components are such parts. -/
theorem isPathOf_iff (free : ∀ part, isPart part → '/' ∉ part.toList) :
    IsPathOf isPart text ↔ ∀ component ∈ Text.components text, isPart component := by
  constructor
  · rintro ⟨parts, nonempty, all, rfl⟩
    rw [Text.components_intercalate nonempty fun part member => free part (all part member)]
    exact all
  · intro all
    exact ⟨Text.components text, Text.components_ne_nil text, all,
      (Text.intercalate_components text).symm⟩

/-- A character that is in no part is not in the path. -/
theorem IsPathOf.not_mem {c : Char} (path : IsPathOf isPart text) (other : c ≠ '/')
    (absent : ∀ part, isPart part → c ∉ part.toList) : c ∉ text.toList := by
  obtain ⟨parts, -, all, rfl⟩ := path
  induction parts with
  | nil => simp
  | cons first rest ih =>
    have absentFirst := absent first (all first List.mem_cons_self)
    have absentRest := ih fun part member => all part (List.mem_cons_of_mem _ member)
    cases rest with
    | nil => simpa using absentFirst
    | cons second others =>
      rw [String.intercalate_cons_cons, String.toList_append, String.toList_append]
      simp only [List.mem_append, not_or]
      exact ⟨⟨absentFirst, by simpa using other⟩, absentRest⟩

end BuildRules

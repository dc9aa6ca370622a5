import BuildRules.Proofs.Expansion

/-!
# Texts that are one reference

The value of a text that is one reference and nothing else is found without expanding the
text, by looking at its two ends. Both ways come to the same: where the text is one
complete reference, or breaks off inside its only one, the single value and the expansion
are the same value or the same error. For every other text there is no single value,
however many references it holds, and none of them is looked up.
-/

set_option autoImplicit false

namespace BuildRules.MakeVariable

/-- The text is one complete reference, in one of its two forms. -/
def IsReference (text : String) : Prop :=
  ∃ segment : Segment, segment.name? ≠ none ∧ text.toList = segment.chars

/-- The text breaks off after a dollar or inside parentheses, with nothing before them. -/
def IsTruncated (text : String) : Prop :=
  ∃ tail : BadTail, text.toList = tail.chars

variable {lookup : Lookup} {text : String}

/-- A text of one segment is expanded to the value of the segment. -/
theorem expand_of_segment {segment : Segment} (whole : text.toList = segment.chars) :
    expand lookup text = segment.value lookup := by
  have alone : text = String.ofList (segment.chars ++ []) := by
    rw [List.append_nil, ← whole, String.ofList_toList]
  have nothing : expand lookup (String.ofList []) = .ok "" := by
    unfold expand
    rw [String.toList_ofList, expandChars]
    rfl
  rw [alone, expand_append, nothing]
  cases segment.value lookup with
  | error error => rfl
  | ok value =>
    show Except.ok (value ++ "") = Except.ok value
    rw [String.append_empty]

/-- A text that is only a bad tail is expanded to the error of the tail. -/
theorem expand_of_tail {tail : BadTail} (whole : text.toList = tail.chars) :
    expand lookup text = .error tail.error := by
  unfold expand
  rw [whole, expandChars_tail]
  rfl

/-- A text that is one reference has the value of this reference. -/
theorem expandSingle_of_segment {segment : Segment} (isReference : segment.name? ≠ none)
    (whole : text.toList = segment.chars) :
    expandSingle lookup text = some <$> segment.value lookup := by
  unfold expandSingle
  rw [whole]
  cases segment with
  | plain c notDollar => exact absurd rfl isReference
  | dollar => exact absurd rfl isReference
  | enclosed name closed =>
    have cut : Text.cutAtFirst ')' (name.toList ++ [')']) = some (name.toList, []) :=
      Text.cutAtFirst_append closed
    simp only [Segment.chars, Segment.value, cut, String.ofList_toList]
  | short c notDollar notOpening =>
    simp only [Segment.chars, Segment.value]

/-- A text that is only a bad tail is refused with the error of the tail. -/
theorem expandSingle_of_tail {tail : BadTail} (whole : text.toList = tail.chars) :
    expandSingle lookup text = .error tail.error := by
  unfold expandSingle
  rw [whole]
  cases tail with
  | dollar => rfl
  | opened name unclosed =>
    simp only [BadTail.chars, BadTail.error, Text.cutAtFirst_eq_none_iff.mpr unclosed]

/-- A text that is no reference and breaks off in none has no single value, whatever is looked up.
-/
theorem expandSingle_of_other (notReference : ¬ IsReference text)
    (notTruncated : ¬ IsTruncated text) : expandSingle lookup text = .ok none := by
  unfold expandSingle
  split
  · rename_i dollar
    exact absurd ⟨.dollar, dollar⟩ notTruncated
  · rename_i rest opened
    split
    · rename_i uncut
      have unclosed : ')' ∉ (String.ofList rest).toList := by
        simpa using Text.cutAtFirst_eq_none_iff.mp uncut
      have broken : text.toList = (BadTail.opened (String.ofList rest) unclosed).chars := by
        simpa [BadTail.chars] using opened
      exact absurd ⟨_, broken⟩ notTruncated
    · rename_i name cut
      obtain ⟨rfl, first⟩ := Text.cutAtFirst_eq_some_iff.mp cut
      have closed : ')' ∉ (String.ofList name).toList := by simpa using first
      have whole : text.toList = (Segment.enclosed (String.ofList name) closed).chars := by
        simpa [Segment.chars] using opened
      exact absurd ⟨.enclosed _ closed, Option.some_ne_none _, whole⟩ notReference
    · rfl
  · rfl
  · rename_i c notOpening notDollar short
    exact absurd ⟨.short c notDollar notOpening, Option.some_ne_none _, short⟩ notReference
  · rfl

/-- Of a text that is a reference or breaks off in one the single value and the expansion are the
same. -/
theorem expandSingle_eq_expand (looksUp : IsReference text ∨ IsTruncated text) :
    expandSingle lookup text = some <$> expand lookup text := by
  rcases looksUp with ⟨segment, isReference, whole⟩ | ⟨tail, whole⟩
  · rw [expandSingle_of_segment isReference whole, expand_of_segment whole]
  · rw [expandSingle_of_tail whole, expand_of_tail whole]
    rfl

/-- Whatever the lookup is, a single value of a text is what the text is expanded to, and an error
that it gives is the one of the expansion. There is neither exactly when the text is no complete
reference and does not break off in one. -/
theorem expandSingle_agrees_with_expand (lookup : Lookup) (text : String) :
    (∀ value, expandSingle lookup text = .ok (some value) → expand lookup text = .ok value) ∧
    (∀ error, expandSingle lookup text = .error error → expand lookup text = .error error) ∧
    (expandSingle lookup text = .ok none ↔ ¬ (IsReference text ∨ IsTruncated text)) := by
  by_cases looksUp : IsReference text ∨ IsTruncated text
  · rw [expandSingle_eq_expand looksUp]
    cases expand lookup text with
    | error error =>
      refine ⟨fun value same => ?_, fun other same => ?_, iff_of_false ?_ (not_not.mpr looksUp)⟩
      · cases same
      · cases same
        rfl
      · rintro ⟨⟩
    | ok expanded =>
      refine ⟨fun value same => ?_, fun error same => ?_, iff_of_false ?_ (not_not.mpr looksUp)⟩
      · cases same
        rfl
      · cases same
      · rintro ⟨⟩
  · have nothing : expandSingle lookup text = .ok none :=
      expandSingle_of_other (not_or.mp looksUp).1 (not_or.mp looksUp).2
    rw [nothing]
    refine ⟨fun value same => ?_, fun error same => ?_, iff_of_true rfl looksUp⟩
    · cases same
    · cases same

/-- A name may hold an opening parenthesis, and what stands for it is not looked at again. -/
theorem expandSingle_agrees_with_expand_enclosed :
    (expandSingle (ofMap (.ofList [("(é", "$$")])) "$((é)" = .ok (some "$$") ∧
      expand (ofMap (.ofList [("(é", "$$")])) "$((é)" = .ok "$$") ∧
    expandSingle (ofMap (.ofList [("(é", "$$")])) "$é" = .error (.undefined "é") ∧
      expand (ofMap (.ofList [("(é", "$$")])) "$é" = .error (.undefined "é") := by
  have known : expandSingle (ofMap (.ofList [("(é", "$$")])) "$((é)" = .ok (some "$$") := by
    decide
  have unknown : expandSingle (ofMap (.ofList [("(é", "$$")])) "$é" = .error (.undefined "é") := by
    decide
  exact ⟨⟨known, (expandSingle_agrees_with_expand _ _).1 _ known⟩, unknown,
    (expandSingle_agrees_with_expand _ _).2.1 _ unknown⟩

end BuildRules.MakeVariable

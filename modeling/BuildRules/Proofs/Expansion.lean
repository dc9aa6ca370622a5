import BuildRules.MakeVariable
import BuildRules.Proofs.Outcomes
import BuildRules.Proofs.TextCuts

/-!
# What a text with references means

A text is read as a sequence of segments, each of them a character that stands for
itself, an escaped dollar or a reference, and there can be a tail where the text breaks
off inside a reference. No segment is the beginning of another one followed by
something, so every text has exactly one reading.

The meaning of a reading is said without the expansion. The names are looked up from
left to right, and the first one that fails gives the error. If all of them are known, a
tail is an error, and without a tail the result is made of the values of the segments,
just as they were looked up. Expanding a text gives the meaning of its reading.
-/

set_option autoImplicit false

namespace BuildRules.MakeVariable

/-! ## Readings -/

/-- One part of a text: a character that stands for itself, `$$`, or a reference in one of its two
forms. -/
inductive Segment where
  | plain (c : Char) (notDollar : c ≠ '$')
  | dollar
  | enclosed (name : String) (closed : ')' ∉ name.toList)
  | short (c : Char) (notDollar : c ≠ '$') (notOpening : c ≠ '(')

/-- How a text breaks off: after a dollar, or inside the parentheses of a reference. -/
inductive BadTail where
  | dollar
  | opened (name : String) (unclosed : ')' ∉ name.toList)

/-- A text as the segments of which it is made, and the tail if it breaks off. -/
structure Reading where
  segments : List Segment
  tail : Option BadTail

namespace Segment

def chars : Segment → List Char
  | .plain c _ => [c]
  | .dollar => ['$', '$']
  | .enclosed name _ => '$' :: '(' :: (name.toList ++ [')'])
  | .short c _ _ => ['$', c]

/-- The name that a reference looks up. -/
def name? : Segment → Option String
  | .plain _ _ | .dollar => none
  | .enclosed name _ => some name
  | .short c _ _ => some (String.singleton c)

/-- What a segment stands for. -/
def value (lookup : Lookup) : Segment → Except ExpansionError String
  | .plain c _ => .ok (String.singleton c)
  | .dollar => .ok "$"
  | .enclosed name _ => lookup name
  | .short c _ _ => lookup (String.singleton c)

/-- A segment is written with at least one character. -/
theorem chars_ne_nil (segment : Segment) : segment.chars ≠ [] := by
  cases segment <;> simp [chars]

/-- A segment says itself where it ends. -/
theorem chars_append_inj {first second : Segment} {rest others : List Char}
    (same : first.chars ++ rest = second.chars ++ others) : first = second ∧ rest = others := by
  cases first with
  | plain c notDollar => cases second <;> grind [chars]
  | dollar => cases second <;> grind [chars]
  | short c notDollar notOpening => cases second <;> grind [chars]
  | enclosed name closed =>
    cases second with
    | plain c notDollar => grind [chars]
    | dollar => grind [chars]
    | short c notDollar notOpening => grind [chars]
    | enclosed other closedOther =>
      -- The parentheses are closed where the first one of the rest stands, in both readings.
      have inside : name.toList ++ ')' :: rest = other.toList ++ ')' :: others := by
        simpa [chars] using same
      obtain ⟨names, after⟩ := (Text.append_cons_inj closed closedOther).mp inside
      cases String.toList_inj.mp names
      exact ⟨rfl, after⟩

/-- A segment has a value exactly if the variable that it names has one. -/
theorem exists_value_iff {lookup : Lookup} {segment : Segment} :
    (∃ value, segment.value lookup = .ok value) ↔
      ∀ name ∈ segment.name?, ∃ value, lookup name = .ok value := by
  cases segment <;> simp [Segment.value, name?]

/-- A segment without a value names a variable, and the error is that of the variable. -/
theorem exists_name_of_value {lookup : Lookup} {segment : Segment} {error : ExpansionError}
    (failed : segment.value lookup = .error error) :
    ∃ name, segment.name? = some name ∧ lookup name = .error error := by
  cases segment with
  | plain c notDollar => cases failed
  | dollar => cases failed
  | enclosed name closed => exact ⟨name, rfl, failed⟩
  | short c notDollar notOpening => exact ⟨String.singleton c, rfl, failed⟩

end Segment

namespace BadTail

def chars : BadTail → List Char
  | .dollar => ['$']
  | .opened name _ => '$' :: '(' :: name.toList

def error : BadTail → ExpansionError
  | .dollar => .trailingDollar
  | .opened _ _ => .unterminatedReference

/-- A tail is not the beginning of a segment and of nothing else. -/
theorem chars_ne_append (tail : BadTail) (segment : Segment) (rest : List Char) :
    tail.chars ≠ segment.chars ++ rest := by
  intro same
  cases tail with
  | dollar => cases segment <;> grind [chars, Segment.chars]
  | opened name unclosed =>
    cases segment with
    | plain c notDollar => grind [chars, Segment.chars]
    | dollar => grind [chars, Segment.chars]
    | short c notDollar notOpening => grind [chars, Segment.chars]
    | enclosed other closed =>
      have inside : name.toList = other.toList ++ ')' :: rest := by
        simpa [chars, Segment.chars] using same
      exact unclosed (inside ▸ by simp)

/-- A bad tail is written with at least one character. -/
theorem chars_ne_nil (tail : BadTail) : tail.chars ≠ [] := by
  cases tail <;> simp [chars]

/-- Two bad tails that are written alike are the same. -/
theorem chars_injective : Function.Injective chars := by
  intro first second same
  cases first <;> cases second <;> simp_all [chars, String.toList_inj]

end BadTail

namespace Reading

def chars (reading : Reading) : List Char :=
  reading.segments.flatMap Segment.chars ++ (reading.tail.map BadTail.chars).getD []

/-- The text that is read in this way. -/
def text (reading : Reading) : String := String.ofList reading.chars

/-- The names that are looked up, in order. -/
def names (reading : Reading) : List String := reading.segments.filterMap Segment.name?

/-- A reading is written as its first segment and then the rest. -/
theorem chars_cons (segment : Segment) (segments : List Segment) (tail : Option BadTail) :
    chars ⟨segment :: segments, tail⟩ = segment.chars ++ chars ⟨segments, tail⟩ := by
  simp [chars]

/-- A reading names the variable of its first segment and then those of the rest. -/
theorem names_cons (segment : Segment) (segments : List Segment) (tail : Option BadTail) :
    names ⟨segment :: segments, tail⟩ = segment.name?.toList ++ names ⟨segments, tail⟩ := by
  unfold names
  rw [List.filterMap_cons]
  cases segment.name? <;> rfl

/-- A text without any segment consists of the tail. -/
theorem chars_nil_ne_append (tail : Option BadTail) (segment : Segment) (rest : List Char) :
    chars ⟨[], tail⟩ ≠ segment.chars ++ rest := by
  cases tail with
  | none =>
    intro same
    have empty : segment.chars = [] := (List.append_eq_nil_iff.mp same.symm).1
    exact segment.chars_ne_nil empty
  | some tail => exact tail.chars_ne_append segment rest

/-- No two readings are of one text. -/
theorem chars_injective : Function.Injective chars := by
  rintro ⟨segments, tail⟩ ⟨others, otherTail⟩ same
  induction segments generalizing others with
  | nil =>
    cases others with
    | nil =>
      have tails : tail = otherTail := by
        cases tail <;> cases otherTail <;>
          simp_all [chars, BadTail.chars_ne_nil, BadTail.chars_injective.eq_iff]
      rw [tails]
    | cons other others =>
      rw [chars_cons] at same
      exact absurd same (chars_nil_ne_append _ _ _)
  | cons segment segments ih =>
    cases others with
    | nil =>
      rw [chars_cons] at same
      exact absurd same.symm (chars_nil_ne_append _ _ _)
    | cons other others =>
      rw [chars_cons, chars_cons] at same
      obtain ⟨rfl, rest⟩ := Segment.chars_append_inj same
      cases ih others rest
      rfl

/-- A text that is a segment before a text with a reading has a reading. -/
theorem exists_chars_append (segment : Segment) {rest : List Char}
    (later : ∃ reading : Reading, reading.chars = rest) :
    ∃ reading : Reading, reading.chars = segment.chars ++ rest := by
  obtain ⟨⟨segments, tail⟩, rfl⟩ := later
  exact ⟨⟨segment :: segments, tail⟩, chars_cons segment segments tail⟩

/-- Every text has a reading. The induction goes along the cases of the expansion, which looks at
the front of a text to find the first segment. -/
theorem exists_chars (whole : List Char) : ∃ reading : Reading, reading.chars = whole := by
  induction whole using expandChars.induct with
  | case1 => exact ⟨⟨[], none⟩, rfl⟩
  | case2 => exact ⟨⟨[], some .dollar⟩, rfl⟩
  | case3 rest later => exact exists_chars_append .dollar later
  | case4 rest uncut =>
    have unclosed : ')' ∉ (String.ofList rest).toList := by
      simpa using Text.cutAtFirst_eq_none_iff.mp uncut
    exact ⟨⟨[], some (.opened (String.ofList rest) unclosed)⟩, by simp [chars, BadTail.chars]⟩
  | case5 rest name after cut later =>
    obtain ⟨rfl, first⟩ := Text.cutAtFirst_eq_some_iff.mp cut
    have closed : ')' ∉ (String.ofList name).toList := by simpa using first
    simpa [Segment.chars] using exists_chars_append (.enclosed (String.ofList name) closed) later
  | case6 c rest notDollar notOpening later =>
    exact exists_chars_append (.short c notDollar notOpening) later
  | case7 c rest notLast notEscaped notOpened notShort later =>
    have notDollar : c ≠ '$' := by
      intro dollar
      cases rest with
      | nil => exact notLast dollar rfl
      | cons next others => exact notShort next others dollar rfl
    exact exists_chars_append (.plain c notDollar) later

/-- A text has one reading only. -/
theorem text_injective : Function.Injective text :=
  fun _ _ same => chars_injective (String.ofList_inj.mp same)

/-- Every text has a reading. -/
theorem exists_text (whole : String) : ∃ reading : Reading, reading.text = whole := by
  obtain ⟨reading, read⟩ := exists_chars whole.toList
  exact ⟨reading, by rw [text, read, String.ofList_toList]⟩

end Reading

/-! ## Meanings -/

/-- What a reading means with a lookup of names: the error of the first name that fails, or else
that of the tail, or else the values of the segments one after the other. -/
inductive Reading.Means (lookup : Lookup) (reading : Reading) :
    Except ExpansionError String → Prop
  | undefined {before after : List String} {name : String} {error : ExpansionError}
      (names : reading.names = before ++ name :: after)
      (known : ∀ other ∈ before, ∃ value, lookup other = .ok value)
      (failed : lookup name = .error error) : Means lookup reading (.error error)
  | brokenOff {tail : BadTail}
      (known : ∀ name ∈ reading.names, ∃ value, lookup name = .ok value)
      (breaks : reading.tail = some tail) : Means lookup reading (.error tail.error)
  | expanded {values : List String} (whole : reading.tail = none)
      (valued : List.Forall₂ (fun segment value => segment.value lookup = .ok value)
        reading.segments values) : Means lookup reading (.ok (String.join values))

section Meanings

variable {lookup : Lookup}

/-- The expansion of a segment and a text is that of the segment before that of the text. -/
theorem expandChars_append (segment : Segment) (rest : List Char) :
    expandChars lookup (segment.chars ++ rest) =
      (do
        let value ← segment.value lookup
        let expanded ← expandChars lookup rest
        return value.toList ++ expanded) := by
  cases segment with
  | plain c notDollar =>
    have other : ∀ {condition : Prop}, c = '$' → condition := fun dollar => absurd dollar notDollar
    show expandChars lookup (c :: rest) = (do
      let expanded ← expandChars lookup rest
      return (String.singleton c).toList ++ expanded)
    rw [expandChars, String.toList_singleton]
    · rfl
    · exact other
    · exact fun _ => other
    · exact fun _ => other
    · exact fun _ _ => other
  | dollar =>
    show expandChars lookup ('$' :: '$' :: rest) = _
    rw [expandChars]
    rfl
  | enclosed name closed =>
    have cut : Text.cutAtFirst ')' (name.toList ++ ')' :: rest) = some (name.toList, rest) :=
      Text.cutAtFirst_append closed
    have whole : (Segment.enclosed name closed).chars ++ rest =
        '$' :: '(' :: (name.toList ++ ')' :: rest) := by simp [Segment.chars]
    rw [whole, expandChars]
    split
    · rename_i uncut
      cases cut.symm.trans uncut
    · rename_i found after cutOther
      cases cut.symm.trans cutOther
      rw [String.ofList_toList]
      rfl
  | short c notDollar notOpening =>
    show expandChars lookup ('$' :: c :: rest) = _
    rw [expandChars]
    · rfl
    · exact notDollar
    · exact notOpening

/-- The expansion of a bad tail fails with the error of the tail. -/
theorem expandChars_tail (tail : BadTail) :
    expandChars lookup tail.chars = .error tail.error := by
  cases tail with
  | dollar =>
    show expandChars lookup ['$'] = _
    rw [expandChars]
    rfl
  | opened name unclosed =>
    show expandChars lookup ('$' :: '(' :: name.toList) = _
    rw [expandChars]
    split
    · rfl
    · rename_i found after cut
      cases (Text.cutAtFirst_eq_none_iff.mpr unclosed).symm.trans cut

/-- A segment and what follows it are expanded one after the other, and the first error counts. -/
theorem expand_append (segment : Segment) (rest : List Char) :
    expand lookup (String.ofList (segment.chars ++ rest)) =
      (do
        let value ← segment.value lookup
        let expanded ← expand lookup (String.ofList rest)
        return value ++ expanded) := by
  unfold expand
  rw [String.toList_ofList, String.toList_ofList, expandChars_append]
  cases segment.value lookup with
  | error error => rfl
  | ok value =>
    cases expandChars lookup rest with
    | error error => rfl
    | ok expanded =>
      show Except.ok (String.ofList (value.toList ++ expanded)) =
        Except.ok (value ++ String.ofList expanded)
      rw [String.ofList_append, String.ofList_toList]

namespace Reading

/-- A segment that has a value puts this value in front of what the rest means. -/
theorem Means.cons {segment : Segment} {segments : List Segment} {tail : Option BadTail}
    {value : String} {outcome : Except ExpansionError String}
    (valued : segment.value lookup = .ok value) (rest : Means lookup ⟨segments, tail⟩ outcome) :
    Means lookup ⟨segment :: segments, tail⟩
      (do
        let expanded ← outcome
        return value ++ expanded) := by
  have known := Segment.exists_value_iff.mp ⟨value, valued⟩
  cases rest with
  | @undefined before after name error named knownBefore failed =>
    have front : names ⟨segment :: segments, tail⟩ =
        (segment.name?.toList ++ before) ++ name :: after := by
      rw [names_cons, named, List.append_assoc]
    refine .undefined front ?_ failed
    intro other member
    rcases List.mem_append.mp member with first | later
    · exact known other (Option.mem_toList.mp first)
    · exact knownBefore other later
  | brokenOff knownAll breaks =>
    refine .brokenOff ?_ breaks
    intro name member
    rw [names_cons] at member
    rcases List.mem_append.mp member with first | later
    · exact known name (Option.mem_toList.mp first)
    · exact knownAll name later
  | @expanded values whole valuedAll =>
    have joined : Means lookup ⟨segment :: segments, tail⟩ (.ok (String.join (value :: values))) :=
      .expanded whole (.cons valued valuedAll)
    rwa [String.join_cons] at joined

/-- A segment that has no value is a reference to a name that fails before all others. -/
theorem means_of_failed {segment : Segment} {segments : List Segment} {tail : Option BadTail}
    {error : ExpansionError} (failed : segment.value lookup = .error error) :
    Means lookup ⟨segment :: segments, tail⟩ (.error error) := by
  obtain ⟨name, named, unknown⟩ := Segment.exists_name_of_value failed
  have front : names ⟨segment :: segments, tail⟩ = [] ++ name :: names ⟨segments, tail⟩ := by
    rw [names_cons, named]
    rfl
  exact .undefined front (by simp) unknown

/-- A reading that is only a bad tail fails with the error of the tail. -/
theorem expand_text_tail (tail : BadTail) :
    expand lookup (text ⟨[], some tail⟩) = .error tail.error := by
  unfold expand text
  rw [String.toList_ofList, show chars ⟨[], some tail⟩ = tail.chars from rfl, expandChars_tail]
  rfl

/-- What a reading means is what the expansion of its text gives. -/
theorem means_expand (reading : Reading) : reading.Means lookup (expand lookup reading.text) := by
  obtain ⟨segments, tail⟩ := reading
  induction segments with
  | nil =>
    cases tail with
    | none =>
      have empty : expand lookup (text ⟨[], none⟩) = .ok (String.join []) := by
        show (expandChars lookup []).map String.ofList = _
        rw [expandChars]
        rfl
      exact empty ▸ .expanded rfl .nil
    | some tail => exact expand_text_tail tail ▸ .brokenOff (by simp [names]) rfl
  | cons segment segments ih =>
    unfold text
    rw [chars_cons, expand_append]
    cases valued : segment.value lookup with
    | error error => exact means_of_failed valued
    | ok value => exact ih.cons valued

/-- If every segment has a value, every variable that is named has one. -/
theorem exists_value_of_forall₂ {segments : List Segment} {values : List String}
    {tail : Option BadTail}
    (valued : List.Forall₂ (fun segment value => segment.value lookup = .ok value) segments values) :
    ∀ name ∈ names ⟨segments, tail⟩, ∃ value, lookup name = .ok value := by
  intro name member
  obtain ⟨segment, inside, named⟩ := List.mem_filterMap.mp member
  obtain ⟨value, -, found⟩ := exists_right_of_forall₂ valued inside
  exact Segment.exists_value_iff.mp ⟨value, found⟩ name named

/-- Of two names that fail, each of them after names that do not, the second one stands where the
first one does. -/
theorem eq_of_first_failed {before after others rest : List String} {name other : String}
    {error failure : ExpansionError} (same : before ++ name :: after = others ++ other :: rest)
    (known : ∀ one ∈ before, ∃ value, lookup one = .ok value)
    (knownOthers : ∀ one ∈ others, ∃ value, lookup one = .ok value)
    (failed : lookup name = .error error) (failedOther : lookup other = .error failure) :
    name = other := by
  rcases List.append_eq_append_iff.mp same with
    ⟨between, longer, tail⟩ | ⟨between, longer, tail⟩
  · cases between with
    | nil => exact (List.cons.inj tail).1
    | cons first between =>
      obtain ⟨rfl, -⟩ := List.cons.inj tail
      obtain ⟨value, found⟩ := knownOthers name (longer ▸ by simp)
      cases failed.symm.trans found
  · cases between with
    | nil => exact (List.cons.inj tail).1.symm
    | cons first between =>
      obtain ⟨rfl, -⟩ := List.cons.inj tail
      obtain ⟨value, found⟩ := known other (longer ▸ by simp)
      cases failedOther.symm.trans found

/-- A reading means one thing only. -/
theorem Means.eq {reading : Reading} {outcome other : Except ExpansionError String}
    (means : reading.Means lookup outcome) (meansOther : reading.Means lookup other) :
    outcome = other := by
  have notAll : ∀ {before after : List String} {name : String} {error : ExpansionError},
      reading.names = before ++ name :: after → lookup name = .error error →
        ¬ ∀ one ∈ reading.names, ∃ value, lookup one = .ok value := by
    intro before after name error names failed all
    obtain ⟨value, found⟩ := all name (names ▸ by simp)
    cases failed.symm.trans found
  cases means with
  | undefined names known failed =>
    cases meansOther with
    | undefined namesOther knownOther failedOther =>
      cases eq_of_first_failed (names.symm.trans namesOther) known knownOther failed failedOther
      rw [← failed, failedOther]
    | brokenOff knownAll _ => exact absurd knownAll (notAll names failed)
    | expanded _ valued => exact absurd (exists_value_of_forall₂ valued) (notAll names failed)
  | brokenOff knownAll breaks =>
    cases meansOther with
    | undefined names _ failed => exact absurd knownAll (notAll names failed)
    | brokenOff _ breaksOther => cases breaks.symm.trans breaksOther; rfl
    | expanded whole _ => cases whole.symm.trans breaks
  | expanded whole valued =>
    cases meansOther with
    | undefined names _ failed => exact absurd (exists_value_of_forall₂ valued) (notAll names failed)
    | brokenOff _ breaks => cases whole.symm.trans breaks
    | expanded _ valuedOther =>
      have rightUnique : Relator.RightUnique fun (segment : Segment) (value : String) =>
          segment.value lookup = .ok value :=
        fun _ _ _ found foundOther => Except.ok.inj (found.symm.trans foundOther)
      rw [List.right_unique_forall₂' rightUnique valued valuedOther]

end Reading

end Meanings

/-- Every text has exactly one reading, and the expansion of a text is what its reading means. -/
theorem expand_eq_iff_means :
    (∀ text : String, ∃! reading : Reading, reading.text = text) ∧
      ∀ (reading : Reading) (lookup : Lookup) (outcome : Except ExpansionError String),
        expand lookup reading.text = outcome ↔ reading.Means lookup outcome := by
  refine ⟨fun text => ?_, fun reading lookup outcome => ⟨?_, ?_⟩⟩
  · obtain ⟨reading, rfl⟩ := Reading.exists_text text
    exact ⟨reading, rfl, fun other same => Reading.text_injective same⟩
  · rintro rfl
    exact reading.means_expand
  · exact reading.means_expand.eq

end BuildRules.MakeVariable

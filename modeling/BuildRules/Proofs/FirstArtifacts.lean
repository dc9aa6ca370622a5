import BuildRules.FileType
import Mathlib.Data.List.Infix

/-!
# First artifacts

Artifacts that lie at one place count as one file whoever owns them, and of a list of
artifacts each place is kept once, with the artifact that is met there first. What is kept
can be said without the places that were met so far: an artifact stays exactly if none
before it lies where it does. To leave out the files that are not of some types, before or
after the repeats are left out, comes to the same, since whether a file is of a type
depends on its place alone.
-/

set_option autoImplicit false

namespace BuildRules

namespace Artifact

variable {artifact : Artifact} {artifacts : List Artifact}

/-! ## The artifacts that are kept -/

/-- Nothing before the artifact lies where it does. -/
def IsFirst (artifact : Artifact) (artifacts : List Artifact) : Prop :=
  ∃ before after, artifacts = before ++ artifact :: after ∧
    ∀ earlier ∈ before, earlier.identity ≠ artifact.identity

/-- An artifact that is met first is one of the artifacts. -/
theorem IsFirst.mem (first : artifact.IsFirst artifacts) : artifact ∈ artifacts := by
  obtain ⟨before, after, rfl, -⟩ := first
  exact List.mem_append_cons_self

/-- An artifact is met first at the head of a list, or elsewhere if the head does not lie at its
place. -/
theorem isFirst_cons_iff (head : Artifact) (rest : List Artifact) :
    artifact.IsFirst (head :: rest) ↔
      artifact = head ∨ head.identity ≠ artifact.identity ∧ artifact.IsFirst rest := by
  constructor
  · rintro ⟨before, after, split, apart⟩
    cases before with
    | nil => exact .inl (List.cons.inj split).1.symm
    | cons earlier before =>
      obtain ⟨rfl, rfl⟩ := List.cons.inj split
      obtain ⟨apartHead, apartRest⟩ := List.forall_mem_cons.mp apart
      exact .inr ⟨apartHead, before, after, rfl, apartRest⟩
  · rintro (rfl | ⟨apartHead, before, after, rfl, apartRest⟩)
    · exact ⟨[], rest, rfl, fun _ inside => nomatch inside⟩
    · exact ⟨head :: before, after, rfl, List.forall_mem_cons.mpr ⟨apartHead, apartRest⟩⟩

/-- At the place of every artifact lies a first one. -/
theorem exists_isFirst (member : artifact ∈ artifacts) :
    ∃ first : Artifact, first.IsFirst artifacts ∧ first.identity = artifact.identity := by
  induction artifacts with
  | nil => cases member
  | cons head rest ih =>
    by_cases same : head.identity = artifact.identity
    · exact ⟨head, (isFirst_cons_iff head rest).mpr (.inl rfl), same⟩
    · have later : artifact ∈ rest := by
        rcases List.mem_cons.mp member with rfl | later
        · exact absurd rfl same
        · exact later
      obtain ⟨first, isFirst, together⟩ := ih later
      exact ⟨first, (isFirst_cons_iff head rest).mpr (.inr ⟨together ▸ same, isFirst⟩), together⟩

/-- What is kept after some places were met is what is met first and lies at none of them. -/
theorem mem_distinctAfter_iff (met : List (Root × String)) :
    artifact ∈ distinctAfter met artifacts ↔
      artifact.identity ∉ met ∧ artifact.IsFirst artifacts := by
  induction artifacts generalizing met with
  | nil =>
    have nothing : ¬ artifact.IsFirst [] := fun first => nomatch first.mem
    simp [distinctAfter, nothing]
  | cons head rest ih =>
    unfold distinctAfter
    rw [isFirst_cons_iff]
    split
    · rename_i old
      rw [ih]
      -- Neither the head nor what lies at its place is kept: the place was met before.
      refine and_congr_right fun fresh => ?_
      have apart : head.identity ≠ artifact.identity := fun same => fresh (same ▸ old)
      have other : artifact ≠ head := fun same => apart (same ▸ rfl)
      simp [apart, other]
    · rename_i fresh
      rw [List.mem_cons, ih, List.mem_cons, not_or]
      constructor
      · rintro (rfl | ⟨⟨apart, unmet⟩, first⟩)
        · exact ⟨fresh, .inl rfl⟩
        · exact ⟨unmet, .inr ⟨Ne.symm apart, first⟩⟩
      · rintro ⟨unmet, rfl | ⟨apart, first⟩⟩
        · exact .inl rfl
        · exact .inr ⟨⟨Ne.symm apart, unmet⟩, first⟩

/-- The distinct artifacts of a list are those that are met first at their place. -/
theorem mem_distinct_iff : artifact ∈ distinct artifacts ↔ artifact.IsFirst artifacts := by
  unfold distinct
  rw [mem_distinctAfter_iff]
  simp

/-! ## Lists without repeats -/

/-- The artifacts that lie where none before them does. -/
def withoutRepeats (artifacts : List Artifact) : List Artifact :=
  ((artifacts.zip artifacts.inits).filter fun entry =>
    entry.2.all fun earlier => earlier.identity ≠ entry.1.identity).map Prod.fst

/-- An artifact is kept exactly if its place was not met and none before it lies there. -/
theorem distinctAfter_eq (met : List (Root × String)) (artifacts : List Artifact) :
    distinctAfter met artifacts =
      ((artifacts.zip artifacts.inits).filter fun entry =>
        entry.1.identity ∉ met ++ entry.2.map identity).map Prod.fst := by
  induction artifacts generalizing met with
  | nil => rfl
  | cons first rest ih =>
    have behind : (first :: rest).zip (first :: rest).inits =
        (first, []) :: (rest.zip rest.inits).map (Prod.map id (first :: ·)) := by
      rw [List.inits_cons, List.zip_cons_cons, List.zip_map_right]
    unfold distinctAfter
    rw [behind, List.filter_cons, List.filter_map]
    -- The place of the first artifact counts as met for all the others.
    split
    · rename_i old
      rw [if_neg (by simpa using old), List.map_map, ih]
      refine congrArg (List.map Prod.fst) (List.filter_congr ?_)
      rintro ⟨artifact, before⟩ -
      have unchanged : artifact.identity ∈ met ++ before.map identity ↔
          artifact.identity ∈ met ++ first.identity :: before.map identity := by
        rw [List.mem_append, List.mem_append, List.mem_cons]
        constructor
        · exact .imp_right .inr
        · rintro (before | same | between)
          · exact .inl before
          · exact .inl (same ▸ old)
          · exact .inr between
      exact decide_eq_decide.mpr (not_congr unchanged)
    · rename_i fresh
      rw [if_pos (by simpa using fresh), List.map_cons, List.map_map, ih]
      refine congrArg (first :: List.map Prod.fst ·) (List.filter_congr ?_)
      rintro ⟨artifact, before⟩ -
      have moved : artifact.identity ∈ (first.identity :: met) ++ before.map identity ↔
          artifact.identity ∈ met ++ first.identity :: before.map identity :=
        List.perm_middle.symm.mem_iff
      exact decide_eq_decide.mpr (not_congr moved)

/-- What is kept while the places that were met are remembered is what has no repeat before it. -/
theorem distinct_eq_withoutRepeats (artifacts : List Artifact) :
    distinct artifacts = withoutRepeats artifacts := by
  unfold distinct withoutRepeats
  rw [distinctAfter_eq]
  refine congrArg (List.map Prod.fst) (List.filter_congr ?_)
  rintro ⟨artifact, before⟩ -
  rw [List.nil_append, Bool.eq_iff_iff, decide_eq_true_eq, List.all_eq_true]
  simp only [decide_eq_true_eq, List.mem_map, not_exists, not_and]

/-- Only the places of the artifacts themselves matter among those that were met. -/
theorem distinctAfter_congr {met other : List (Root × String)}
    (same : ∀ artifact ∈ artifacts, artifact.identity ∈ met ↔ artifact.identity ∈ other) :
    distinctAfter met artifacts = distinctAfter other artifacts := by
  induction artifacts generalizing met other with
  | nil => rfl
  | cons first rest ih =>
    rw [List.forall_mem_cons] at same
    have grown : ∀ artifact ∈ rest,
        artifact.identity ∈ first.identity :: met ↔ artifact.identity ∈ first.identity :: other := by
      intro artifact member
      rw [List.mem_cons, List.mem_cons, same.2 artifact member]
    unfold distinctAfter
    rw [ih same.2, ih grown]
    simp only [same.1]

/-- To leave some artifacts out, whole places at a time, does not change which of the others are met
first. -/
theorem distinctAfter_filter {admits : Artifact → Bool}
    (placed : ∀ first second : Artifact, first.identity = second.identity →
      admits first = admits second) (met : List (Root × String)) (artifacts : List Artifact) :
    distinctAfter met (artifacts.filter admits) = (distinctAfter met artifacts).filter admits := by
  induction artifacts generalizing met with
  | nil => rfl
  | cons first rest ih =>
    cases admitted : admits first with
    | true =>
      rw [List.filter_cons_of_pos admitted]
      unfold distinctAfter
      split
      · exact ih met
      · rw [List.filter_cons_of_pos admitted, ih]
    | false =>
      rw [List.filter_cons_of_neg (by simp [admitted]), ih]
      conv => rhs; unfold distinctAfter
      split
      · rfl
      · rename_i fresh
        -- Nothing that is admitted lies at the place of the first artifact.
        have elsewhere : ∀ artifact ∈ rest.filter admits, artifact.identity ≠ first.identity := by
          intro artifact member same
          rw [List.mem_filter, placed artifact first same, admitted] at member
          exact Bool.false_ne_true member.2
        rw [List.filter_cons_of_neg (by simp [admitted]), ← ih, ← ih]
        apply distinctAfter_congr
        intro artifact member
        rw [List.mem_cons, or_iff_right (elsewhere artifact member)]

end Artifact

/-- Whether a file is of one of the types depends on its place alone. -/
theorem FileTypeSet.filter_distinct (types : FileTypeSet) (artifacts : List Artifact) :
    types.filter (Artifact.distinct artifacts) = Artifact.distinct (types.filter artifacts) := by
  have placed : ∀ first second : Artifact, first.identity = second.identity →
      types.admits first.fileName = types.admits second.fileName := by
    intro first second same
    rw [Artifact.fileName, Artifact.fileName, (Prod.mk.inj same).2]
  exact (Artifact.distinctAfter_filter placed [] artifacts).symm

end BuildRules

import Mathlib.Data.List.Forall2

/-!
# Steps that can fail

A sequence of steps succeeds exactly when each of them does, and every result of a list
of steps belongs to one of them.
-/

set_option autoImplicit false

namespace BuildRules

variable {α β ε : Type}

/-- Two steps succeed exactly when the first one does and the second one does with its result. -/
theorem bind_eq_ok_iff {first : Except ε α} {next : α → Except ε β} {result : β} :
    (first >>= next) = .ok result ↔ ∃ value, first = .ok value ∧ next value = .ok result := by
  cases first with
  | error cause => simp [bind, Except.bind]
  | ok value => simp [bind, Except.bind]

/-- A changed outcome succeeds exactly with the changed value of a success. -/
theorem map_eq_ok_iff {change : α → β} {outcome : Except ε α} {result : β} :
    change <$> outcome = .ok result ↔ ∃ value, outcome = .ok value ∧ change value = result := by
  cases outcome with
  | error cause => simp [Functor.map, Except.map]
  | ok value => simp [Functor.map, Except.map]

/-- A failure is no success. -/
theorem throw_ne_ok {cause : ε} {result : α} : (throw cause : Except ε α) ≠ .ok result := by
  simp [throw, throwThe, MonadExceptOf.throw]

/-- Another form of the failures leaves the successes as they are. -/
theorem mapError_eq_ok_iff {δ : Type} {change : ε → δ} {outcome : Except ε α} {result : α} :
    outcome.mapError change = .ok result ↔ outcome = .ok result := by
  cases outcome with
  | error cause => simp [Except.mapError]
  | ok value => simp [Except.mapError]

/-- What is left of an outcome without its failure is its success. -/
theorem toOption_eq_some_iff {outcome : Except ε α} {result : α} :
    outcome.toOption = some result ↔ outcome = .ok result := by
  cases outcome with
  | error cause => simp [Except.toOption]
  | ok value => simp [Except.toOption]

/-- If a step succeeds on a whole list, it gives each item its result. -/
theorem forall₂_of_mapM {step : α → Except ε β} {sources : List α} {results : List β}
    (ok : sources.mapM step = .ok results) :
    List.Forall₂ (fun source result => step source = .ok result) sources results := by
  induction sources generalizing results with
  | nil =>
    rw [List.mapM_nil] at ok
    cases ok
    exact .nil
  | cons first rest ih =>
    rw [List.mapM_cons] at ok
    obtain ⟨head, stepped, others⟩ := bind_eq_ok_iff.mp ok
    obtain ⟨tail, mapped, ended⟩ := bind_eq_ok_iff.mp others
    cases ended
    exact .cons stepped (ih mapped)

/-- If a step gives each item its result, it succeeds on the whole list. -/
theorem mapM_of_forall₂ {step : α → Except ε β} {sources : List α} {results : List β}
    (each : List.Forall₂ (fun source result => step source = .ok result) sources results) :
    sources.mapM step = .ok results := by
  induction each with
  | nil =>
    rw [List.mapM_nil]
    rfl
  | cons head _ ih =>
    rw [List.mapM_cons]
    exact bind_eq_ok_iff.mpr ⟨_, head, bind_eq_ok_iff.mpr ⟨_, ih, rfl⟩⟩

/-- In related lists every result comes from a source. -/
theorem exists_left_of_forall₂ {relation : α → β → Prop} {sources : List α}
    {results : List β} (related : List.Forall₂ relation sources results) {result : β}
    (member : result ∈ results) : ∃ source ∈ sources, relation source result := by
  induction related with
  | nil => cases member
  | cons head _ ih =>
    rcases List.mem_cons.mp member with rfl | later
    · exact ⟨_, List.mem_cons_self, head⟩
    · obtain ⟨source, inside, holds⟩ := ih later
      exact ⟨source, List.mem_cons_of_mem _ inside, holds⟩

/-- Lists stay related under a relation that follows for their members. -/
theorem forall₂_imp_of_mem {relation other : α → β → Prop} {sources : List α} {results : List β}
    (related : List.Forall₂ relation sources results)
    (each : ∀ source ∈ sources, ∀ result, relation source result → other source result) :
    List.Forall₂ other sources results :=
  ((List.forall₂_and_left _ _).mpr ⟨each, related⟩).imp fun _ _ both => both.1 _ both.2

/-- In related lists every source comes to a result. -/
theorem exists_right_of_forall₂ {relation : α → β → Prop} {sources : List α}
    {results : List β} (related : List.Forall₂ relation sources results) {source : α}
    (member : source ∈ sources) : ∃ result ∈ results, relation source result :=
  exists_left_of_forall₂ related.flip member

end BuildRules

import BuildRules.Analysis.Record

/-!
# How an analysis ends

An analysis that only resolves and reports ends in the same way whatever was recorded
before it: it yields a value and adds certain diagnostics at the end of the record
(`Yields`), or it aborts (`AbortsWith`). Both are stated for all records, so they can
be put together along the steps of an analysis, and an analysis that yields one value
cannot have ended in another way on any record.
-/

set_option autoImplicit false

namespace BuildRules

/-- The record with further diagnostics at its end. -/
def Record.withReports (record : Record) (reported : List Diagnostic) : Record :=
  { record with diagnostics := record.diagnostics ++ reported }

/-- A record without further reports is the same record. -/
@[simp]
theorem Record.withReports_nil (record : Record) : record.withReports [] = record := by
  simp [withReports]

/-- Reports after reports are reports of both. -/
@[simp]
theorem Record.withReports_withReports (record : Record) (first second : List Diagnostic) :
    (record.withReports first).withReports second = record.withReports (first ++ second) := by
  simp [withReports]

namespace Analysis

variable {α β : Type}

/-- A sequence of two analyses starts the second one from the record of the first, unless the
first one aborts. -/
theorem start_bind (analysis : Analysis α) (next : α → Analysis β) (record : Record) :
    (analysis >>= next).start record =
      match analysis.start record with
      | (.ok value, after) => (next value).start after
      | (.error abort, after) => (.error abort, after) := by
  unfold start
  rw [ExceptT.run_bind, StateT.run_bind]
  rcases StateT.run (ExceptT.run analysis) record with ⟨_ | _, _⟩ <;> rfl

/-- The analysis yields a value and reports the given diagnostics. -/
def Yields (analysis : Analysis α) (value : α) (reported : List Diagnostic) : Prop :=
  ∀ record, analysis.start record = (.ok value, record.withReports reported)

/-- The analysis aborts, after some reports. -/
def AbortsWith (analysis : Analysis α) (abort : Abort) : Prop :=
  ∀ record, ∃ reported, analysis.start record = (.error abort, record.withReports reported)

/-- A value is yielded without a report. -/
theorem yields_pure (value : α) : Yields (pure value) value [] := by
  intro record
  rw [Record.withReports_nil]
  rfl

/-- A computation that succeeds yields its value without a report. -/
theorem yields_liftM {computed : Except Abort α} {value : α} (ok : computed = .ok value) :
    Yields (liftM computed) value [] := by
  intro record
  rw [Record.withReports_nil, ok]
  rfl

/-- A computation that fails aborts the analysis. -/
theorem abortsWith_liftM {computed : Except Abort α} {abort : Abort}
    (error : computed = .error abort) : AbortsWith (liftM computed : Analysis α) abort := by
  intro record
  refine ⟨[], ?_⟩
  rw [Record.withReports_nil, error]
  rfl

/-- An analysis that goes on after it yielded a value reports what both parts report. -/
theorem Yields.bind {analysis : Analysis α} {next : α → Analysis β} {value : α} {result : β}
    {reported others : List Diagnostic} (first : analysis.Yields value reported)
    (rest : (next value).Yields result others) :
    (analysis >>= next).Yields result (reported ++ others) := by
  intro record
  rw [start_bind, first record]
  show (next value).start (record.withReports reported) = _
  rw [rest, Record.withReports_withReports]

/-- What only computes with the value of an analysis reports nothing further. -/
theorem Yields.bind_silent {analysis : Analysis α} {next : α → Analysis β} {value : α}
    {result : β} {reported : List Diagnostic} (first : analysis.Yields value reported)
    (rest : (next value).Yields result []) : (analysis >>= next).Yields result reported := by
  have both := first.bind rest
  rwa [List.append_nil] at both

/-- A report yields nothing and reports its diagnostic. -/
theorem yields_report (diagnostic : Diagnostic) : Yields (report diagnostic) () [diagnostic] :=
  fun _ => rfl

/-- Diagnostics that are reported in order are added in order. -/
theorem yields_reportAll (diagnostics : List Diagnostic) :
    Yields (reportAll diagnostics) () diagnostics := by
  induction diagnostics with
  | nil => exact yields_pure ()
  | cons first rest ih => exact (yields_report first).bind ih

/-- An analysis aborts if it aborts after something was yielded. -/
theorem Yields.bind_abortsWith {analysis : Analysis α} {next : α → Analysis β} {value : α}
    {reported : List Diagnostic} {abort : Abort} (first : analysis.Yields value reported)
    (rest : (next value).AbortsWith abort) : (analysis >>= next).AbortsWith abort := by
  intro record
  obtain ⟨others, ended⟩ := rest (record.withReports reported)
  refine ⟨reported ++ others, ?_⟩
  rw [start_bind, first record]
  show (next value).start (record.withReports reported) = _
  rw [ended, Record.withReports_withReports]

/-- An analysis that aborts does so whatever comes next. -/
theorem AbortsWith.bind {analysis : Analysis α} {abort : Abort}
    (first : analysis.AbortsWith abort) (next : α → Analysis β) :
    (analysis >>= next).AbortsWith abort := by
  intro record
  obtain ⟨reported, ended⟩ := first record
  refine ⟨reported, ?_⟩
  rw [start_bind, ended]

/-- What an analysis yields is what any of its runs ends with. -/
theorem Yields.eq_of_start {analysis : Analysis α} {value other : α}
    {reported : List Diagnostic} {record after : Record} (yields : analysis.Yields value reported)
    (ended : analysis.start record = (.ok other, after)) :
    other = value ∧ after = record.withReports reported := by
  rw [yields record] at ended
  cases ended
  exact ⟨rfl, rfl⟩

/-- An analysis that aborts gives no value on any record. -/
theorem AbortsWith.not_start_ok {analysis : Analysis α} {abort : Abort} {value : α}
    {record after : Record} (aborts : analysis.AbortsWith abort) :
    analysis.start record ≠ (.ok value, after) := by
  intro ended
  obtain ⟨reported, aborted⟩ := aborts record
  rw [aborted] at ended
  cases ended

end Analysis

end BuildRules

import BuildRules.Proofs.Runs

/-!
# Records of one owner

A record hands out the artifact of an earlier request where its index finds one at the
same place, and only there it could let an analysis see what was recorded before. But the
index stays in step with the list of artifacts, and all requests of an analysis are made
under one owner. So the artifact of the earlier request is the very one that is asked for.

An analysis that looks at the record in no other way is determined: on every record of
the owner it ends in the same way, and it makes the same entries in the same order.
-/

set_option autoImplicit false

namespace BuildRules

/-! ## The list of artifacts and its index -/

/-- At every place the index finds what the list finds, and no two artifacts of the list lie at one
place. -/
structure DerivedArtifacts.InStep (derived : DerivedArtifacts) : Prop where
  found : ∀ place, derived.index.find? place = derived.ordered.find? (·.identity = place)
  apart : derived.ordered.Pairwise fun a b => a.identity ≠ b.identity

namespace DerivedArtifacts.InStep

/-- Where nothing was asked for yet, there is nothing to find. -/
theorem empty : ({} : DerivedArtifacts).InStep := ⟨fun _ => rfl, .nil⟩

variable {derived : DerivedArtifacts}

/-- The index does not find a place exactly if it is the place of no artifact in the list. -/
theorem find?_eq_none_iff (inStep : derived.InStep) (place : Root × String) :
    derived.index.find? place = none ↔ place ∉ derived.ordered.map Artifact.identity := by
  rw [inStep.found, List.find?_eq_none]
  simp

/-- An artifact that is entered at the end of the list and into the index keeps them in step: it is
found at its place, where the list had none before, and at the other places both find what
they found. -/
theorem enter (inStep : derived.InStep) {artifact : Artifact}
    (missed : derived.index.find? artifact.identity = none) :
    (⟨derived.ordered ++ [artifact], derived.index.insert artifact⟩ : DerivedArtifacts).InStep where
  found place := by
    rw [ArtifactSet.find?_insert missed, inStep.found, List.find?_append, List.find?_singleton]
    by_cases same : artifact.identity = place
    -- The list had nothing at the place of the artifact, so it finds the artifact at its end.
    · have fresh : derived.ordered.find? (·.identity = place) = none := by
        rw [← inStep.found, ← same]
        exact missed
      simp [same, fresh]
    · simp [same]
  apart := by
    refine List.pairwise_append.mpr ⟨inStep.apart, List.pairwise_singleton _ _, ?_⟩
    have fresh := (inStep.find?_eq_none_iff _).mp missed
    intro earlier member last isLast same
    rw [List.mem_singleton.mp isLast] at same
    exact fresh (List.mem_map.mpr ⟨earlier, member, same⟩)

/-- Every request keeps the list and the index in step. -/
theorem intern (inStep : derived.InStep) (artifact : Artifact) :
    (derived.intern artifact).2.InStep := by
  unfold DerivedArtifacts.intern
  split
  · exact inStep
  · rename_i missed
    exact inStep.enter missed

/-- What is handed out for a request is the artifact of the request or one of the list that lies at
the same place. -/
theorem intern_fst (inStep : derived.InStep) (artifact : Artifact) :
    (derived.intern artifact).1 = artifact ∨
      (derived.intern artifact).1 ∈ derived.ordered ∧
        (derived.intern artifact).1.identity = artifact.identity := by
  unfold DerivedArtifacts.intern
  split
  · rename_i known found
    rw [inStep.found] at found
    exact .inr ⟨List.mem_of_find?_eq_some found, by simpa using List.find?_some found⟩
  · exact .inl rfl

end DerivedArtifacts.InStep

/-! ## Records -/

/-- The records that an analysis with a given owner can come to: derived artifacts were asked for,
diagnostics were reported and actions were registered, in any order. -/
inductive Record.Reached (owner : Label) : Record → Prop
  | fresh : Reached owner {}
  | derived {record : Record} (root : Root) (path : String) (before : Reached owner record) :
      Reached owner (record.intern ⟨root, path, owner⟩).2
  | reported {record : Record} (diagnostic : Diagnostic) (before : Reached owner record) :
      Reached owner (record.report diagnostic)
  | registered {record : Record} (action : Action) (before : Reached owner record) :
      Reached owner (record.register action)

namespace Record

/-- A request that the index answers leaves the artifacts as they are, and any other adds the
artifact that it asks for at their end. -/
theorem artifacts_intern (record : Record) (artifact : Artifact) :
    (record.intern artifact).2.artifacts =
      if record.derived.index.find? artifact.identity = none then record.artifacts ++ [artifact]
      else record.artifacts := by
  unfold intern DerivedArtifacts.intern artifacts
  cases record.derived.index.find? artifact.identity <;> rfl

/-- All artifacts in the record have the one owner. -/
theorem Reached.owner_eq {owner : Label} {record : Record} (reached : record.Reached owner) :
    ∀ artifact ∈ record.artifacts, artifact.owner = owner := by
  induction reached with
  | fresh => simp [artifacts]
  | derived root path _ ih =>
    intro artifact member
    rw [artifacts_intern] at member
    split at member
    · rcases List.mem_append.mp member with earlier | last
      · exact ih artifact earlier
      · rw [List.mem_singleton.mp last]
    · exact ih artifact member
  | reported _ _ ih => exact ih
  | registered _ _ ih => exact ih

/-- The list of artifacts and the index are in step after every entry. -/
theorem Reached.inStep {owner : Label} {record : Record} (reached : record.Reached owner) :
    record.derived.InStep := by
  induction reached with
  | fresh => exact .empty
  | derived root path _ ih => exact ih.intern ⟨root, path, owner⟩
  | reported _ _ ih => exact ih
  | registered _ _ ih => exact ih

/-- What is handed out is what was asked for: an artifact that the index finds is in the list, so it
has the one owner. -/
theorem Reached.intern_eq {owner : Label} {record : Record} (reached : record.Reached owner)
    (root : Root) (path : String) :
    (record.intern ⟨root, path, owner⟩).1 = ⟨root, path, owner⟩ := by
  obtain new | ⟨listed, place⟩ := reached.inStep.intern_fst ⟨root, path, owner⟩
  · exact new
  · obtain ⟨sameRoot, samePath⟩ := Prod.mk.inj place
    exact Artifact.ext sameRoot samePath (reached.owner_eq _ listed)

end Record

/-! ## Entries -/

/-- One thing that an analysis puts into the record. -/
inductive Entry where
  | report (diagnostic : Diagnostic)
  | derive (root : Root) (path : String)
  | register (action : Action)

def Entry.diagnostic? : Entry → Option Diagnostic
  | .report diagnostic => some diagnostic
  | .derive _ _ | .register _ => none

namespace Record

/-- The record after an entry under the given owner. -/
def enter (owner : Label) (record : Record) : Entry → Record
  | .report diagnostic => record.report diagnostic
  | .derive root path => (record.intern ⟨root, path, owner⟩).2
  | .register action => record.register action

def enterAll (owner : Label) (record : Record) (entries : List Entry) : Record :=
  entries.foldl (enter owner) record

/-- Asking for an artifact reports nothing. -/
theorem diagnostics_intern (record : Record) (artifact : Artifact) :
    (record.intern artifact).2.diagnostics = record.diagnostics := rfl

/-- An entry adds its diagnostic, if it is a report. -/
theorem diagnostics_enter (owner : Label) (record : Record) (entry : Entry) :
    (record.enter owner entry).diagnostics = record.diagnostics ++ entry.diagnostic?.toList := by
  cases entry with
  | report diagnostic => rfl
  | derive root path => exact (diagnostics_intern _ _).trans (List.append_nil _).symm
  | register action => exact (List.append_nil _).symm

/-- Entries add the diagnostics among them, in order. -/
theorem diagnostics_enterAll (owner : Label) (record : Record) (entries : List Entry) :
    (record.enterAll owner entries).diagnostics =
      record.diagnostics ++ entries.filterMap Entry.diagnostic? := by
  induction entries generalizing record with
  | nil => exact (List.append_nil _).symm
  | cons entry rest ih =>
    show ((record.enter owner entry).enterAll owner rest).diagnostics = _
    rw [ih, diagnostics_enter, List.append_assoc, List.filterMap_cons]
    cases entry.diagnostic? <;> rfl

variable {owner : Label} {record : Record}

/-- An entry leads from a record of the owner to one of the owner. -/
theorem Reached.enter (reached : record.Reached owner) (entry : Entry) :
    (record.enter owner entry).Reached owner := by
  cases entry with
  | report diagnostic => exact reached.reported diagnostic
  | derive root path => exact reached.derived root path
  | register action => exact reached.registered action

/-- Entries lead from a record of the owner to one of the owner. -/
theorem Reached.enterAll (reached : record.Reached owner) (entries : List Entry) :
    (record.enterAll owner entries).Reached owner := by
  induction entries generalizing record with
  | nil => exact reached
  | cons entry rest ih => exact ih (reached.enter entry)

/-- Reports lead from a record of the owner to one of the owner. -/
theorem Reached.withReports (reached : record.Reached owner) (reported : List Diagnostic) :
    (record.withReports reported).Reached owner := by
  induction reported generalizing record with
  | nil => exact (withReports_nil record).symm ▸ reached
  | cons first rest ih =>
    have later := ih (reached.reported first)
    rwa [show record.report first = record.withReports [first] from rfl,
      withReports_withReports] at later

end Record

/-! ## Determined analyses -/

namespace Analysis

variable {α β : Type} {owner : Label}

/-- On every record of the owner the analysis ends in the same way, with the same entries. -/
def Determined (owner : Label) (analysis : Analysis α) : Prop :=
  ∃ outcome entries, ∀ record : Record, record.Reached owner →
    analysis.start record = (outcome, record.enterAll owner entries)

/-- A value makes no entries. -/
theorem determined_pure (value : α) : (pure value : Analysis α).Determined owner :=
  ⟨.ok value, [], fun _ _ => rfl⟩

/-- An abort makes no entries. -/
theorem determined_throw (abort : Abort) : (throw abort : Analysis α).Determined owner :=
  ⟨.error abort, [], fun _ _ => rfl⟩

/-- Nothing that would come after an abort matters. -/
theorem determined_throw_bind (abort : Abort) (next : α → Analysis β) :
    (throw abort >>= next).Determined owner :=
  ⟨.error abort, [], fun _ _ => rfl⟩

/-- A computation that does not look at the record makes no entries, whether it aborts or not. -/
theorem determined_liftM (computed : Except Abort α) :
    (liftM computed : Analysis α).Determined owner := by
  cases computed with
  | ok value => exact determined_pure value
  | error abort => exact determined_throw abort

/-- A report makes the one entry that it is. -/
theorem determined_report (diagnostic : Diagnostic) : (report diagnostic).Determined owner :=
  ⟨.ok (), [.report diagnostic], fun _ _ => rfl⟩

/-- A registration makes the one entry that it is. -/
theorem determined_register (action : Action) : (register action).Determined owner :=
  ⟨.ok (), [.register action], fun _ _ => rfl⟩

/-- The one step that looks at the record finds what it would have entered itself. -/
theorem determined_intern (root : Root) (path : String) :
    (intern ⟨root, path, owner⟩).Determined owner := by
  refine ⟨.ok ⟨root, path, owner⟩, [.derive root path], ?_⟩
  intro record reached
  have handed := reached.intern_eq root path
  exact congrArg (fun artifact => (Except.ok artifact, _)) handed

/-- The second of two determined analyses starts from a record of the owner, since the first one has
only made entries. -/
theorem Determined.bind {analysis : Analysis α} {next : α → Analysis β}
    (first : analysis.Determined owner) (rest : ∀ value, (next value).Determined owner) :
    (analysis >>= next).Determined owner := by
  obtain ⟨outcome, entries, ends⟩ := first
  cases outcome with
  | error abort =>
    refine ⟨.error abort, entries, ?_⟩
    intro record reached
    rw [start_bind, ends record reached]
  | ok value =>
    obtain ⟨last, others, endsLater⟩ := rest value
    refine ⟨last, entries ++ others, ?_⟩
    intro record reached
    rw [start_bind, ends record reached]
    show (next value).start (record.enterAll owner entries) = _
    rw [endsLater _ (reached.enterAll entries)]
    unfold Record.enterAll
    rw [List.foldl_append]

/-- A value that is put into another form at the end is determined as before. -/
theorem Determined.form {analysis : Analysis α} (determined : analysis.Determined owner)
    (form : α → β) : (do return form (← analysis)).Determined owner :=
  determined.bind fun value => determined_pure (form value)

/-- Several reports make an entry each. -/
theorem determined_reportAll (diagnostics : List Diagnostic) :
    (reportAll diagnostics).Determined owner := by
  induction diagnostics with
  | nil => exact determined_pure ()
  | cons first rest ih => exact (determined_report first).bind fun _ => ih

end Analysis

end BuildRules

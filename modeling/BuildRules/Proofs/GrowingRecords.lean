import BuildRules.Proofs.Histories
import Mathlib.Data.List.Induction

/-!
# Records only grow

What an operation of a context does to the record is to make entries at its end, also when
it aborts. So the diagnostics, the artifacts and the actions that were there before an
operation begin those that are there after it. The artifacts are those of the places that
were asked for, in the order in which they were first asked for: a place that is asked for
again adds nothing. It is the index that is asked whether a place is there, and the list
that has the order, so this rests on the two being in step.

Which places an operation asks for is said by `requests`. Most operations ask for none, and
this needs no look at each of them: an artifact is derived under the owner of the context,
so an operation that does not depend on the owner derives none.
-/

set_option autoImplicit false

namespace BuildRules

/-! ## Places without repeats -/

/-- One more item adds itself to a list without repeats, unless it was there. -/
theorem eraseDups_concat {α : Type} [BEq α] [LawfulBEq α] (items : List α) (item : α) :
    (items ++ [item]).eraseDups =
      if item ∈ items then items.eraseDups else items.eraseDups ++ [item] := by
  rw [List.eraseDups_append]
  by_cases met : item ∈ items
  · have removed : [item].removeAll items = [] := by simp [List.removeAll, met]
    rw [removed, if_pos met, List.eraseDups_nil, List.append_nil]
  · have kept : [item].removeAll items = [item] := by simp [List.removeAll, met]
    rw [kept, if_neg met, List.eraseDups_cons]
    simp

/-- A list from which repeats are taken out has none. -/
theorem nodup_eraseDups {α : Type} [BEq α] [LawfulBEq α] (items : List α) :
    items.eraseDups.Nodup := by
  induction items using List.reverseRecOn with
  | nil => simp
  | append_singleton items item ih =>
    rw [eraseDups_concat]
    split
    · exact ih
    · rename_i fresh
      have unmet : item ∉ items.eraseDups := by simpa using fresh
      simpa using List.nodup_append.mpr ⟨ih, List.nodup_singleton item, by grind⟩

/-! ## Entries at the end of a record -/

/-- The place of the artifact that an entry asks for. -/
def Entry.place? : Entry → Option (Root × String)
  | .derive root path => some (root, path)
  | .report _ | .register _ => none

/-- The artifacts of an owner at the given places, each place once, where it is named first. -/
def Artifact.firstAt (owner : Label) (places : List (Root × String)) : List Artifact :=
  places.eraseDups.map fun place => ⟨place.1, place.2, owner⟩

namespace Record

/-- The later record goes on where the earlier one ends. -/
structure GrowsTo (earlier later : Record) : Prop where
  diagnostics : earlier.diagnostics <+: later.diagnostics
  artifacts : earlier.artifacts <+: later.artifacts
  actions : earlier.actions <+: later.actions

/-- A record goes on where it ends itself. -/
theorem GrowsTo.refl (record : Record) : record.GrowsTo record :=
  ⟨List.prefix_rfl, List.prefix_rfl, List.prefix_rfl⟩

/-- What goes on after a record that goes on after another goes on after that one. -/
theorem GrowsTo.trans {first second third : Record} (before : first.GrowsTo second)
    (after : second.GrowsTo third) : first.GrowsTo third where
  diagnostics := before.diagnostics.trans after.diagnostics
  artifacts := before.artifacts.trans after.artifacts
  actions := before.actions.trans after.actions

/-- An error that was reported stays. -/
theorem GrowsTo.hasErrors {earlier later : Record} (grows : earlier.GrowsTo later)
    (reported : earlier.hasErrors = true) : later.hasErrors = true := by
  obtain ⟨added, whole⟩ := grows.diagnostics
  unfold Record.hasErrors BuildRules.hasErrors at reported ⊢
  rw [← whole, List.any_append, reported, Bool.true_or]

variable (owner : Label) (record : Record)

/-- A request adds at most one artifact, at the end. -/
theorem growsTo_intern (artifact : Artifact) : record.GrowsTo (record.intern artifact).2 := by
  refine ⟨List.prefix_rfl, ?_, List.prefix_rfl⟩
  rw [artifacts_intern]
  split
  · exact List.prefix_append _ _
  · exact List.prefix_rfl

/-- An entry is made at the end of a record. -/
theorem growsTo_enter (entry : Entry) : record.GrowsTo (record.enter owner entry) := by
  cases entry with
  | report diagnostic => exact ⟨List.prefix_append _ _, List.prefix_rfl, List.prefix_rfl⟩
  | derive root path => exact record.growsTo_intern _
  | register action => exact ⟨List.prefix_rfl, List.prefix_rfl, List.prefix_append _ _⟩

/-- Entries are made at the end of a record. -/
theorem growsTo_enterAll (entries : List Entry) :
    record.GrowsTo (record.enterAll owner entries) := by
  induction entries generalizing record with
  | nil => exact .refl record
  | cons entry rest ih => exact (record.growsTo_enter owner entry).trans (ih _)

/-- Entries are made one part after the other. -/
theorem enterAll_append (entries others : List Entry) :
    record.enterAll owner (entries ++ others) =
      (record.enterAll owner entries).enterAll owner others := by
  unfold enterAll
  rw [List.foldl_append]

/-- Reports are entries that ask for no artifact. -/
theorem withReports_eq_enterAll (reported : List Diagnostic) :
    record.withReports reported = record.enterAll owner (reported.map .report) := by
  induction reported generalizing record with
  | nil => simp [enterAll]
  | cons first rest ih =>
    have one : record.withReports (first :: rest) = (record.report first).withReports rest := by
      simp [withReports, report]
    rw [one, ih]
    rfl

variable {owner record}

/-- One more entry adds the artifact of its place, unless the place was asked for before. -/
theorem artifacts_enter (reached : record.Reached owner) {asked : List (Root × String)}
    (known : record.artifacts = Artifact.firstAt owner asked) (entry : Entry) :
    (record.enter owner entry).artifacts =
      Artifact.firstAt owner (asked ++ entry.place?.toList) := by
  cases entry with
  | report diagnostic =>
    simp only [Entry.place?, Option.toList_none, List.append_nil]
    exact known
  | register action =>
    simp only [Entry.place?, Option.toList_none, List.append_nil]
    exact known
  | derive root path =>
    have added : (record.enter owner (.derive root path)).artifacts =
        (record.intern ⟨root, path, owner⟩).2.artifacts := rfl
    have places : record.derived.ordered.map Artifact.identity = asked.eraseDups := by
      have listed : record.derived.ordered = Artifact.firstAt owner asked := known
      rw [listed]
      simp [Artifact.firstAt, Artifact.identity, Function.comp_def]
    have asks : (Entry.derive root path).place?.toList = [(root, path)] := rfl
    have place : (⟨root, path, owner⟩ : Artifact).identity = (root, path) := rfl
    -- The index answers the request exactly if the place was asked for before.
    rw [added, artifacts_intern, asks, Artifact.firstAt, eraseDups_concat]
    simp only [place, reached.inStep.find?_eq_none_iff, places, List.mem_eraseDups]
    by_cases met : (root, path) ∈ asked
    · rw [if_neg (not_not_intro met), if_pos met]
      exact known
    · rw [if_pos met, if_neg met, List.map_append, known]
      rfl

/-- The artifacts in a record are those of the places that its entries ask for. -/
theorem artifacts_enterAll (reached : record.Reached owner) {asked : List (Root × String)}
    (known : record.artifacts = Artifact.firstAt owner asked) (entries : List Entry) :
    (record.enterAll owner entries).artifacts =
      Artifact.firstAt owner (asked ++ entries.filterMap Entry.place?) := by
  induction entries generalizing record asked with
  | nil => simpa [enterAll] using known
  | cons entry rest ih =>
    have later := ih (reached.enter entry) (artifacts_enter reached known entry)
    have joined : asked ++ (entry :: rest).filterMap Entry.place? =
        asked ++ entry.place?.toList ++ rest.filterMap Entry.place? := by
      cases place : entry.place? <;> simp [place]
    rw [joined, ← later]
    rfl

end Record

/-! ## Analyses that do not depend on the owner -/

/-- There is another label besides any given one. -/
theorem Label.exists_ne (label : Label) : ∃ other : Label, other ≠ label := by
  by_cases same : label = ⟨"", "a", by decide⟩
  · exact ⟨⟨"", "b", by decide⟩, by simp [same]⟩
  · exact ⟨⟨"", "a", by decide⟩, Ne.symm same⟩

/-- An analysis that is determined under two owners makes no entry that asks for an artifact: on the
fresh record this artifact would belong to both of them. -/
theorem Analysis.Determined.exists_entries {α : Type} {analysis : Analysis α} {owner other : Label}
    (different : other ≠ owner) (determined : analysis.Determined owner)
    (determinedOther : analysis.Determined other) :
    ∃ outcome entries, entries.filterMap Entry.place? = [] ∧
      ∀ record : Record, record.Reached owner →
        analysis.start record = (outcome, record.enterAll owner entries) := by
  obtain ⟨outcome, entries, ends⟩ := determined
  obtain ⟨outcomeOther, entriesOther, endsOther⟩ := determinedOther
  refine ⟨outcome, entries, ?_, ends⟩
  have same : ({} : Record).enterAll owner entries = ({} : Record).enterAll other entriesOther := by
    have both := (ends {} .fresh).symm.trans (endsOther {} .fresh)
    exact congrArg Prod.snd both
  have known : ({} : Record).artifacts = Artifact.firstAt owner [] := rfl
  have derived := Record.artifacts_enterAll .fresh known entries
  by_contra asked
  obtain ⟨place, inside⟩ := List.exists_mem_of_ne_nil _ asked
  have member : (⟨place.1, place.2, owner⟩ : Artifact) ∈
      (({} : Record).enterAll owner entries).artifacts := by
    rw [derived, Artifact.firstAt]
    exact List.mem_map.mpr ⟨place, by simpa using inside, rfl⟩
  rw [same] at member
  have reached : (({} : Record).enterAll other entriesOther).Reached other :=
    Record.Reached.fresh.enterAll entriesOther
  exact different (reached.owner_eq _ member).symm

namespace RuleContext

variable (context : RuleContext)

/-! ## What operations ask for -/

/-- The places of the artifacts that an operation asks for, in order. -/
def requests : Operation → List (Root × String)
  | .outputArtifactOfRule => [(context.outputRoot, context.rule.label.path)]
  | .outputArtifacts | .singleOutput =>
    context.rule.outputs.map fun output => (context.outputRoot, output.path)
  | .artifactOf output => [(context.outputRoot, output.path)]
  | .implicitOutput paths =>
    match paths context.rule with
    | [path] =>
      let package := context.rule.package
      [(context.outputRoot, if package.isEmpty then path else package ++ "/" ++ path)]
    | _ => []
  | .relatedArtifact path extension =>
    [(context.configuration.binRoot, replaceExtension path extension)]
  | .derivedArtifact path root => [(root, path)]
  | _ => []

/-- The context of the same rule in an environment of another owner. -/
def ownedBy (owner : Label) : RuleContext := { context with owner := owner }

/-- The owner plays no part in the expansion of texts. -/
theorem expandAll_ownedBy (owner : Label) (name : String) (texts : List String) :
    (context.ownedBy owner).expandAll name texts = context.expandAll name texts := by
  induction texts with
  | nil => rfl
  | cons text rest ih =>
    unfold expandAll
    rw [ih]
    rfl

/-- The owner plays no part in the words of texts. -/
theorem wordsOfAll_ownedBy (owner : Label) (name : String) (words texts : List String) :
    (context.ownedBy owner).wordsOfAll name words texts = context.wordsOfAll name words texts := by
  induction texts generalizing words with
  | nil => rfl
  | cons text rest ih =>
    unfold wordsOfAll
    simp only [ih]
    rfl

/-- Asking for the artifacts of labels enters a request for each of them, in order. -/
theorem start_artifactsOf_record (labels : List Label) (record : Record) :
    ∃ artifacts, (context.artifactsOf labels).start record =
      (.ok artifacts, record.enterAll context.owner
        (labels.map fun label => .derive context.outputRoot label.path)) := by
  induction labels generalizing record with
  | nil => exact ⟨[], rfl⟩
  | cons label rest ih =>
    let artifact : Artifact := ⟨context.outputRoot, label.path, context.owner⟩
    have asked : (context.artifactOf label).start record =
        (.ok (record.intern artifact).1, (record.intern artifact).2) := rfl
    obtain ⟨others, askedLater⟩ := ih (record.intern artifact).2
    refine ⟨(record.intern artifact).1 :: others, ?_⟩
    unfold artifactsOf
    rw [Analysis.start_bind, asked]
    dsimp only
    rw [Analysis.start_bind, askedLater]
    rfl

/-- An operation that is the same for every owner makes entries that ask for no artifact. -/
theorem exists_entries_of_ownedBy {operation : Operation} (blind : operation.readsRecord = false)
    (same : ∀ owner, (context.ownedBy owner).perform operation = context.perform operation)
    {record : Record} (reached : record.Reached context.owner) :
    ∃ entries,
      ((context.perform operation).start record).2 = record.enterAll context.owner entries ∧
        entries.filterMap Entry.place? = [] := by
  obtain ⟨other, different⟩ := context.owner.exists_ne
  have determined := context.determined_perform blind
  have determinedOther := (context.ownedBy other).determined_perform blind
  rw [same other] at determinedOther
  obtain ⟨outcome, entries, asksNothing, ends⟩ :=
    determined.exists_entries different determinedOther
  refine ⟨entries, ?_, asksNothing⟩
  rw [ends record reached]

/-- The outputs of the rule are asked for below the output root of the context. -/
theorem places_outputs :
    (context.rule.outputs.map fun output =>
      Entry.derive context.outputRoot output.path).filterMap Entry.place? =
        context.rule.outputs.map fun output => (context.outputRoot, output.path) := by
  rw [List.filterMap_map]
  exact congrFun List.filterMap_eq_map _

/-- Asking for the single output asks for all outputs of the rule, also if it fails. -/
theorem exists_entries_singleOutput (record : Record) :
    ∃ entries, (context.singleOutput.start record).2 = record.enterAll context.owner entries ∧
      entries.filterMap Entry.place? =
        context.rule.outputs.map fun output => (context.outputRoot, output.path) := by
  obtain ⟨artifacts, asked⟩ := context.start_artifactsOf_record context.rule.outputs record
  unfold singleOutput outputArtifacts
  rw [Analysis.start_bind, asked]
  dsimp only
  split
  · have reported : ∀ found : Record, ((do
        context.reportAttribute .error "out" "exactly one output file required"
        pure artifacts.head? : Analysis (Option Artifact)).start found).2 =
          found.enterAll context.owner [.report (context.rule.attributeDiagnostic .error "out"
            "exactly one output file required")] := fun _ => rfl
    refine ⟨_ ++ [_], (reported _).trans (Record.enterAll_append _ _ _ _).symm, ?_⟩
    rw [List.filterMap_append, places_outputs]
    exact List.append_nil _
  · exact ⟨_, rfl, context.places_outputs⟩

/-- Asking for an implicit output asks for it if there is exactly one, and else for nothing. -/
theorem exists_entries_implicitOutput (paths : Rule → List String) (record : Record) :
    ∃ entries,
      ((context.implicitOutput paths).start record).2 = record.enterAll context.owner entries ∧
        entries.filterMap Entry.place? = context.requests (.implicitOutput paths) := by
  unfold implicitOutput requests
  dsimp only
  cases paths context.rule with
  | nil => exact ⟨[], rfl, rfl⟩
  | cons path others =>
    cases others with
    | nil => exact ⟨[.derive _ _], rfl, rfl⟩
    | cons second rest => exact ⟨[], rfl, rfl⟩

/-- The record after an operation is the one after the analysis that gives its answer. -/
theorem start_form {α β : Type} (analysis : Analysis α) (form : α → β) (record : Record) :
    ((do return form (← analysis) : Analysis β).start record).2 = (analysis.start record).2 := by
  rw [Analysis.start_bind]
  rcases analysis.start record with ⟨_ | _, _⟩ <;> rfl

/-- An operation only makes entries, and these ask for the artifacts at the places that it requests,
in order. -/
theorem exists_entries_perform (operation : Operation) {record : Record}
    (reached : record.Reached context.owner) :
    ∃ entries,
      ((context.perform operation).start record).2 = record.enterAll context.owner entries ∧
        entries.filterMap Entry.place? = context.requests operation := by
  cases operation with
  | counts => exact ⟨[], rfl, rfl⟩
  | outputArtifactOfRule =>
    exact ⟨[.derive context.outputRoot context.rule.label.path], rfl, rfl⟩
  | artifactOf output => exact ⟨[.derive context.outputRoot output.path], rfl, rfl⟩
  | relatedArtifact path extension =>
    exact ⟨[.derive context.configuration.binRoot (replaceExtension path extension)], rfl, rfl⟩
  | derivedArtifact path root => exact ⟨[.derive root path], rfl, rfl⟩
  | outputArtifacts =>
    obtain ⟨artifacts, asked⟩ := context.start_artifactsOf_record context.rule.outputs record
    exact ⟨_, (start_form _ _ record).trans (congrArg Prod.snd asked), context.places_outputs⟩
  | singleOutput =>
    obtain ⟨entries, entered, places⟩ := context.exists_entries_singleOutput record
    exact ⟨entries, (start_form _ _ record).trans entered, places⟩
  | implicitOutput paths =>
    obtain ⟨entries, entered, places⟩ := context.exists_entries_implicitOutput paths record
    exact ⟨entries, (start_form _ _ record).trans entered, places⟩
  | expandedStrings name =>
    refine context.exists_entries_of_ownedBy rfl (fun owner => ?_) reached
    have same := context.expandAll_ownedBy owner name (context.rule.stringListValue name)
    exact congrArg (fun expanded => do return Answer.texts (← expanded)) same
  | attributeWords name =>
    refine context.exists_entries_of_ownedBy rfl (fun owner => ?_) reached
    have same : (context.ownedBy owner).attributeWords name = context.attributeWords name := by
      unfold attributeWords
      rw [wordsOfAll_ownedBy]
      rfl
    exact congrArg (fun words => do return Answer.texts (← words)) same
  | _ => exact context.exists_entries_of_ownedBy rfl (fun _ => rfl) reached

/-- Several operations make the entries of each of them, one after the other. -/
theorem exists_entries_performAll (operations : List Operation) {record : Record}
    (reached : record.Reached context.owner) :
    ∃ entries, (context.performAll operations record).2 = record.enterAll context.owner entries ∧
      entries.filterMap Entry.place? = operations.flatMap context.requests := by
  induction operations generalizing record with
  | nil => exact ⟨[], rfl, rfl⟩
  | cons operation rest ih =>
    obtain ⟨entries, entered, places⟩ := context.exists_entries_perform operation reached
    obtain ⟨others, enteredLater, placesLater⟩ := ih (context.reached_perform operation reached)
    refine ⟨entries ++ others, ?_, ?_⟩
    · have last : (context.performAll (operation :: rest) record).2 =
          (context.performAll rest ((context.perform operation).start record).2).2 := rfl
      rw [last, enteredLater, entered, Record.enterAll_append]
    · rw [List.filterMap_append, places, placesLater, List.flatMap_cons]

variable {context}

/-- Building a context only reports. -/
theorem exists_entries_of_build {request : ContextRequest} {before built : Record}
    (made : (build request).start before = (.ok context, built)) :
    context.owner = request.owner ∧ ∃ entries, built = before.enterAll request.owner entries ∧
      entries.filterMap Entry.place? = [] := by
  obtain ⟨resolver, kept, found, -, rfl, rfl⟩ := exists_resolved_of_build made
  refine ⟨rfl, _, before.withReports_eq_enterAll request.owner _, ?_⟩
  rw [List.filterMap_map]
  exact List.filterMap_eq_nil_iff.mpr fun _ _ => rfl

/-- After any operations of a context the record holds the artifacts of the owner at the places that
were asked for since the record was fresh. -/
theorem artifacts_performAll {request : ContextRequest} {earlier : List Entry} {built : Record}
    (made : (build request).start (({} : Record).enterAll request.owner earlier) =
      (.ok context, built)) (history : List Operation) :
    (context.performAll history built).2.artifacts =
      Artifact.firstAt request.owner
        (earlier.filterMap Entry.place? ++ history.flatMap context.requests) := by
  have reached := reached_of_build made (Record.Reached.fresh.enterAll earlier)
  obtain ⟨sameOwner, reports, rfl, silent⟩ := exists_entries_of_build made
  obtain ⟨entries, entered, places⟩ := context.exists_entries_performAll history reached
  have fresh : ({} : Record).artifacts = Artifact.firstAt request.owner [] := rfl
  rw [sameOwner] at entered
  rw [entered, ← Record.enterAll_append, ← Record.enterAll_append,
    Record.artifacts_enterAll .fresh fresh, List.filterMap_append, List.filterMap_append, silent,
    places, List.nil_append, List.nil_append]

/-- After any operations of a context, also after some that abort, a further operation only adds to
the record, and the dependencies and filesets stay what they are. The artifacts in the record are
those of the owner at the places that were asked for, in the order in which they were first asked
for, and the index of the artifacts is in step with them. What is left when the analysis is over is
what the record holds. -/
theorem record_only_grows {request : ContextRequest} {earlier : List Entry} {built : Record}
    (made : (build request).start (({} : Record).enterAll request.owner earlier) =
      (.ok context, built)) (history : List Operation) (operation : Operation) :
    let record := (context.performAll history built).2
    let ended := (context.perform operation).start record
    let asked := earlier.filterMap Entry.place? ++ history.flatMap context.requests
    (record.GrowsTo ended.2 ∧ (record.hasErrors = true → ended.2.hasErrors = true)) ∧
    ((context.perform .dependencyMap).start ended.2 =
        (.ok (.dependencies context.dependencies), ended.2) ∧
      (context.perform .filesetMap).start ended.2 =
        (.ok (.filesets context.filesets), ended.2)) ∧
    (record.artifacts = asked.eraseDups.map (fun place => ⟨place.1, place.2, request.owner⟩) ∧
      asked.eraseDups.Nodup ∧ record.derived.InStep ∧ ended.2.derived.InStep) ∧
    record.output = ⟨record.diagnostics, record.artifacts, record.actions⟩ ∧
    (context.perform .counts).start record =
      (.ok (.counts record.output.hasErrors (record.count .error) (record.count .warning)),
        record) ∧
    (record.output.hasErrors = true ↔ 0 < record.count .error) := by
  intro record ended asked
  have reached : record.Reached context.owner :=
    context.reached_performAll history
      (reached_of_build made (Record.Reached.fresh.enterAll earlier))
  obtain ⟨entries, entered, -⟩ := context.exists_entries_perform operation reached
  have grows : record.GrowsTo ended.2 := entered ▸ record.growsTo_enterAll context.owner entries
  have endedInStep : ended.2.derived.InStep := (context.reached_perform operation reached).inStep
  have counted : record.output.hasErrors = true ↔ 0 < record.count .error := by
    unfold Record.count AnalysisOutput.hasErrors BuildRules.hasErrors
    rw [List.countP_pos_iff, List.any_eq_true]
    rfl
  exact ⟨⟨grows, grows.hasErrors⟩, ⟨rfl, rfl⟩,
    ⟨artifacts_performAll made history, nodup_eraseDups asked, reached.inStep, endedInStep⟩,
    rfl, rfl, counted⟩

end RuleContext

/-- Requests for the headers of a library and for another file, some of them repeated, between
which one operation aborts and one reports an error. -/
def Sample.repeatedRequests : List Operation :=
  [.derivedArtifact "p/c.h" (configuration "target").binRoot, .prerequisites "tools" .target,
    .singleOutput, .derivedArtifact "p/c.h" (configuration "target").binRoot, .outputArtifacts]

/-- The second header, for which the record was asked before the context was built, stays the first
artifact, and every header is there once. -/
theorem RuleContext.record_only_grows_headers :
    ∃ context built,
      (build Sample.generating).start
        (({} : Record).enterAll Sample.library.label
          [.derive (Sample.configuration "target").binRoot "p/b.h"]) = (.ok context, built) ∧
      let record := (context.performAll Sample.repeatedRequests built).2
      let ended := (context.perform .singleOutput).start record
      record.GrowsTo ended.2 ∧ record.output.hasErrors = true ∧ ended.2.hasErrors = true ∧
      record.artifacts.map Artifact.path = ["p/b.h", "p/c.h", "p/a.h"] := by
  have made : (build Sample.generating).start
      (({} : Record).enterAll Sample.generating.owner
        [.derive (Sample.configuration "target").binRoot "p/b.h"]) = (.ok _, _) := rfl
  obtain ⟨⟨grows, stays⟩, -, ⟨artifacts, -, -⟩, -⟩ :=
    record_only_grows made Sample.repeatedRequests .singleOutput
  refine ⟨_, _, made, grows, rfl, stays rfl, ?_⟩
  rw [artifacts]
  rfl

end BuildRules

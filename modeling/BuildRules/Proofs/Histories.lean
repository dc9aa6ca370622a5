import BuildRules.Analysis.Operation
import BuildRules.Proofs.ContextConfigurations
import BuildRules.Proofs.OwnedRecords

/-!
# Operations do not see what came before them

The operations of a context share one record, and each of them may be preceded by any
others, also by some that abort. All of them but the one that counts are determined: the
answer, the abort and the reports of an operation are those of the context alone. The
statements follow the operations of a context from the smallest to `perform`, one lemma
for each that does more than to look something up.
-/

set_option autoImplicit false

namespace BuildRules

namespace RuleContext

open Analysis

variable (context : RuleContext)

/-! ## Reports and expansions -/

/-- A report about the rule is determined. -/
theorem determined_reportRule (severity : Severity) (text : String) :
    (context.reportRule severity text).Determined context.owner :=
  determined_report _

/-- A report about an attribute is determined. -/
theorem determined_reportAttribute (severity : Severity) (name text : String) :
    (context.reportAttribute severity name text).Determined context.owner :=
  determined_report _

/-- The expansion of a text is determined. -/
theorem determined_expandWith (name text : String) (lookup : MakeVariable.Lookup) :
    (context.expandWith name text lookup).Determined context.owner := by
  unfold expandWith
  cases MakeVariable.expand lookup text with
  | ok expanded => exact determined_pure expanded
  | error error =>
    exact (context.determined_reportAttribute _ _ _).bind fun _ => determined_pure text

/-- The expansion of a single reference is determined. -/
theorem determined_expandSingle (name text : String) :
    (context.expandSingle name text).Determined context.owner := by
  unfold expandSingle
  cases MakeVariable.expandSingle context.makeVariables text with
  | ok value => exact determined_pure value
  | error error =>
    exact (context.determined_reportAttribute _ _ _).bind fun _ => determined_pure (some text)

/-- The expansion of several texts is determined. -/
theorem determined_expandAll (name : String) (texts : List String) :
    (context.expandAll name texts).Determined context.owner := by
  induction texts with
  | nil => exact determined_pure []
  | cons text rest ih =>
    unfold expandAll
    exact (context.determined_expandWith name text _).bind fun expanded =>
      ih.form fun others => expanded :: others

/-- The words of a text are determined. -/
theorem determined_wordsOf (name : String) (words : List String) (text : String) :
    (context.wordsOf name words text).Determined context.owner := by
  unfold wordsOf
  refine (context.determined_expandWith name text _).bind fun expanded => ?_
  obtain ⟨appended, fault?⟩ := Words.appendTo words expanded
  cases fault? with
  | none => exact determined_pure appended
  | some fault =>
    exact (context.determined_reportAttribute _ _ _).bind fun _ => determined_pure _

/-- The words of several texts are determined, since each of them is. -/
theorem determined_wordsOfAll (name : String) (words texts : List String) :
    (context.wordsOfAll name words texts).Determined context.owner := by
  induction texts generalizing words with
  | nil => exact determined_pure words
  | cons text rest ih =>
    unfold wordsOfAll
    exact (context.determined_wordsOf name words text).bind ih

/-- The words of an attribute are determined. -/
theorem determined_attributeWords (name : String) :
    (context.attributeWords name).Determined context.owner := by
  unfold attributeWords
  split
  · exact context.determined_wordsOfAll name [] _
  · exact determined_pure []

/-! ## Outputs -/

/-- A derived artifact is determined, since it is asked for under the owner of the context. -/
theorem determined_derivedArtifact (path : String) (root : Root) :
    (context.derivedArtifact path root).Determined context.owner :=
  determined_intern root path

/-- The artifacts of labels are determined. -/
theorem determined_artifactsOf (labels : List Label) :
    (context.artifactsOf labels).Determined context.owner := by
  induction labels with
  | nil => exact determined_pure []
  | cons label rest ih =>
    unfold artifactsOf
    exact (context.determined_derivedArtifact label.path _).bind fun artifact =>
      ih.form fun others => artifact :: others

/-- The single output of a rule is determined. -/
theorem determined_singleOutput : context.singleOutput.Determined context.owner := by
  unfold singleOutput
  refine (context.determined_artifactsOf _).bind fun outputs => ?_
  dsimp only
  split
  · exact (context.determined_reportAttribute _ _ _).bind fun _ => determined_pure _
  · exact determined_pure _

/-- An implicit output of a rule is determined. -/
theorem determined_implicitOutput (paths : Rule → List String) :
    (context.implicitOutput paths).Determined context.owner := by
  unfold implicitOutput
  dsimp only
  split
  · exact context.determined_derivedArtifact _ _
  · exact determined_throw _

/-! ## Prerequisites -/

/-- The executable of an attribute is determined. -/
theorem determined_executable (name : String) (mode : Mode) :
    (context.executable name mode).Determined context.owner := by
  unfold executable
  refine (determined_liftM _).bind fun attr => ?_
  split
  · exact determined_throw_bind _ _
  · refine (determined_liftM _).bind fun prerequisite => ?_
    split
    · exact determined_pure none
    · split
      · exact determined_pure _
      · exact (context.determined_reportAttribute _ _ _).bind fun _ => determined_pure none

/-- The single artifact of an attribute is determined. -/
theorem determined_artifact (name : String) (mode : Mode) :
    (context.artifact name mode).Determined context.owner := by
  unfold artifact
  refine (determined_liftM _).bind fun prerequisite => ?_
  split
  · exact determined_pure none
  · split
    · exact determined_pure _
    · exact (context.determined_reportAttribute _ _ _).bind fun _ => determined_pure none

/-- The single source of a rule is determined. -/
theorem determined_singleSource (kind : Option String) :
    (context.singleSource kind).Determined context.owner := by
  unfold singleSource
  refine (determined_liftM _).bind fun sources => ?_
  split
  · exact (context.determined_reportAttribute _ _ _).bind fun _ => determined_pure _
  · exact determined_pure _

/-- The check of the packages of sources is determined. -/
theorem determined_checkSourcePackages (onlyWarns : Bool) :
    (context.checkSourcePackages onlyWarns).Determined context.owner := by
  unfold checkSourcePackages
  exact (determined_liftM _).bind fun sources => determined_reportAll _

/-- The label of an attribute without a dependency is determined. -/
theorem determined_nodepLabel (name : String) :
    (context.nodepLabel name).Determined context.owner := by
  unfold nodepLabel
  dsimp only
  split
  · exact determined_throw_bind _ _
  · split
    · exact determined_pure none
    · split
      · exact (context.determined_reportAttribute _ _ _).bind fun _ => determined_pure _
      · exact determined_pure _

/-- The compiler of a rule is determined. -/
theorem determined_compiler (warnUnlessDefault : Bool) :
    (context.compiler warnUnlessDefault).Determined context.owner := by
  have found := context.determined_executable "compiler" .host
  unfold compiler
  split
  · split
    · exact (context.determined_reportAttribute _ _ _).bind fun _ => found
    · exact found
  · exact found

/-! ## Operations -/

/-- Every operation that does not look at the record is determined. -/
theorem determined_perform {operation : Operation} (blind : operation.readsRecord = false) :
    (context.perform operation).Determined context.owner := by
  cases operation with
  | prerequisites name mode => exact (determined_liftM _).form _
  | prerequisite name mode => exact (determined_liftM _).form _
  | provider name mode kind => exact (determined_liftM _).form _
  | providers name mode kind => exact (determined_liftM _).form _
  | executable name mode => exact (context.determined_executable name mode).form _
  | artifacts name mode => exact (determined_liftM _).form _
  | artifactsOfType name mode types => exact (determined_liftM _).form _
  | artifact name mode => exact (context.determined_artifact name mode).form _
  | singleSource kind => exact (context.determined_singleSource kind).form _
  | checkSourcePackages onlyWarns =>
    exact (context.determined_checkSourcePackages onlyWarns).form _
  | nodepLabel name => exact (context.determined_nodepLabel name).form _
  | compiler warnUnlessDefault => exact (context.determined_compiler warnUnlessDefault).form _
  | isVisible name mode index => exact (determined_liftM _).form _
  | expand name text => exact (context.determined_expandWith name text _).form _
  | expandSingle name text => exact (context.determined_expandSingle name text).form _
  | expandWith name text lookup => exact (context.determined_expandWith name text lookup).form _
  | expandedStrings name => exact (context.determined_expandAll name _).form _
  | attributeWords name => exact (context.determined_attributeWords name).form _
  | words given name text => exact (context.determined_wordsOf name given text).form _
  | outputArtifactOfRule => exact (context.determined_derivedArtifact _ _).form _
  | outputArtifacts => exact (context.determined_artifactsOf _).form _
  | singleOutput => exact context.determined_singleOutput.form _
  | artifactOf output => exact (context.determined_derivedArtifact _ _).form _
  | implicitOutput paths => exact (context.determined_implicitOutput paths).form _
  | relatedArtifact path extension => exact (context.determined_derivedArtifact _ _).form _
  | derivedArtifact path root => exact (context.determined_derivedArtifact path root).form _
  | register mnemonic inputs outputs arguments => exact (determined_register _).form _
  | registerAction action => exact (determined_register action).form _
  | reportRule severity text => exact (context.determined_reportRule severity text).form _
  | reportAttribute severity name text =>
    exact (context.determined_reportAttribute severity name text).form _
  | report diagnostic => exact (determined_report diagnostic).form _
  | counts => cases blind
  | sees | dependencyMap | dependenciesOf | filesetMap | filesetOf | outputRoot | uniqueDirectory
  | wantsRunfilesLinks | filesToRun | actionOwner => exact determined_pure _

/-- Every operation leaves a record of the owner, also one that aborts and one that counts. -/
theorem reached_perform (operation : Operation) {record : Record}
    (reached : record.Reached context.owner) :
    ((context.perform operation).start record).2.Reached context.owner := by
  cases reads : operation.readsRecord with
  | false =>
    obtain ⟨outcome, entries, ends⟩ := context.determined_perform reads
    rw [ends record reached]
    exact reached.enterAll entries
  | true =>
    cases operation with
    | counts => exact reached
    | _ => cases reads

/-- Operations lead from a record of the owner to one of the owner. -/
theorem reached_performAll (operations : List Operation) {record : Record}
    (reached : record.Reached context.owner) :
    (context.performAll operations record).2.Reached context.owner := by
  induction operations generalizing record with
  | nil => exact reached
  | cons operation rest ih => exact ih (context.reached_perform operation reached)

variable {context}

/-- Building a context leads from a record of the owner to one of the owner. -/
theorem reached_of_build {request : ContextRequest} {before built : Record}
    (made : (build request).start before = (.ok context, built))
    (reached : before.Reached request.owner) : built.Reached context.owner := by
  obtain ⟨resolver, kept, found, -, rfl, rfl⟩ := exists_resolved_of_build made
  exact reached.withReports _

/-- An operation of a context that does not look at the record answers, aborts and reports in one
way, whatever operations came before it. -/
theorem perform_after_any_history {request : ContextRequest} {before built : Record}
    (reached : before.Reached request.owner)
    (made : (build request).start before = (.ok context, built)) {operation : Operation}
    (blind : operation.readsRecord = false) :
    ∃ outcome reported, ∀ history : List Operation,
      let record := (context.performAll history built).2
      let ended := (context.perform operation).start record
      ended.1 = outcome ∧ ended.2.diagnostics = record.diagnostics ++ reported := by
  obtain ⟨outcome, entries, ends⟩ := context.determined_perform blind
  refine ⟨outcome, entries.filterMap Entry.diagnostic?, ?_⟩
  intro history record ended
  have same : ended = (outcome, record.enterAll context.owner entries) :=
    ends record (context.reached_performAll history (reached_of_build made reached))
  rw [same]
  exact ⟨rfl, record.diagnostics_enterAll context.owner entries⟩

end RuleContext

/-- A library that generates two headers. -/
def Sample.generating : ContextRequest :=
  { request with
    rule := { library with outputs := [⟨"p", "a.h", by decide⟩, ⟨"p", "b.h", by decide⟩] } }

/-- A request for the second header, and one that aborts since tools are built for the host. -/
def Sample.earlier : List Operation :=
  [.derivedArtifact "p/b.h" (configuration "target").binRoot, .prerequisites "tools" .target]

/-- The first header is handed out with an error about the second one, also after the second one was
asked for before and after an operation that aborts. -/
theorem RuleContext.perform_after_any_history_headers :
    ∃ context built outcome reported, (build Sample.generating).start {} = (.ok context, built) ∧
      (∃ first abort, (context.performAll Sample.earlier built).1 = [.ok first, .error abort]) ∧
      (∀ history : List Operation,
        let record := (context.performAll history built).2
        let ended := (context.perform .singleOutput).start record
        ended.1 = outcome ∧ ended.2.diagnostics = record.diagnostics ++ reported) ∧
      outcome = .ok (.artifact (some
        ⟨(Sample.configuration "target").binRoot, "p/a.h", Sample.library.label⟩)) ∧
      reported =
        [Sample.library.attributeDiagnostic .error "out" "exactly one output file required"] := by
  have made : (build Sample.generating).start {} = (.ok _, _) := rfl
  obtain ⟨outcome, reported, same⟩ := perform_after_any_history .fresh made
    (show Operation.singleOutput.readsRecord = false from rfl)
  -- Without any history the operation starts from the record that the building left.
  obtain ⟨first, added⟩ := same []
  refine ⟨_, _, outcome, reported, made, ⟨_, _, rfl⟩, same, ?_, ?_⟩
  · exact first.symm.trans rfl
  · exact List.append_cancel_left (added.symm.trans rfl)

end BuildRules

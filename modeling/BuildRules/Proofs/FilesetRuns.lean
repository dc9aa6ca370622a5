import BuildRules.Proofs.DependencyRuns

/-!
# How the resolution of filesets ends

The entries of a fileset attribute are resolved in order: the files that an entry lists,
or else the one label whose tree it takes. All of them resolve, or one label ends the
resolution. What is kept of an entry and what is reported about it is a function of the
prerequisites to which its labels resolve.
-/

set_option autoImplicit false

namespace BuildRules

/-- The labels that an entry of a fileset names: its files, or else the tree it takes. -/
def FilesetEntry.namedLabels (entry : FilesetEntry) : List Label :=
  entry.files.getD [entry.source]

/-- An entry of a fileset with the prerequisites to which its labels resolve. -/
structure EntrySources where
  entry : FilesetEntry
  sources : List Prerequisite

namespace EntrySources

/-- What is reported about an entry: something only if it takes a tree. -/
def diagnostics (rule : Rule) (attr : Attribute) (found : EntrySources) : List Diagnostic :=
  match found.entry.files with
  | some _ => []
  | none => found.sources.flatMap fun source => (rule.checkSubtree attr found.entry source).2

/-- What is kept of an entry: everything but a tree that is no fileset. -/
def kept? (rule : Rule) (attr : Attribute) (found : EntrySources) : Option ResolvedFilesetEntry :=
  match found.entry.files, found.sources with
  | some _, sources => some (.files found.entry (sources.map Prerequisite.configured))
  | none, source :: _ =>
    if (rule.checkSubtree attr found.entry source).1 then
      some (.subtree found.entry source.configured)
    else none
  | none, [] => none

end EntrySources

namespace Resolver

variable (resolver : Resolver)

/-- An entry of a fileset with what its labels resolve to. -/
def ResolvesSources (attr : Attribute) (entry : FilesetEntry) (found : EntrySources) : Prop :=
  found.entry = entry ∧ List.Forall₂ (resolver.Resolves attr) entry.namedLabels found.sources

/-- The listed files resolve to their analyses, or one of them does not resolve. -/
theorem listedFiles_ok_or_error (attr : Attribute) (labels : List Label) :
    (∃ resolved, List.Forall₂ (resolver.Resolves attr) labels resolved ∧
      resolver.listedFiles attr labels = .ok (resolved.map Prerequisite.configured)) ∨
    ∃ label ∈ labels, ∃ abort, resolver.resolve attr label = .error abort ∧
      resolver.listedFiles attr labels = .error abort := by
  induction labels with
  | nil => exact .inl ⟨[], .nil, rfl⟩
  | cons label rest ih =>
    unfold listedFiles
    cases first : resolver.resolve attr label with
    | error abort => exact .inr ⟨label, List.mem_cons_self, abort, first, rfl⟩
    | ok prerequisite =>
      rcases ih with ⟨resolved, related, ok⟩ | ⟨other, member, abort, failed, error⟩
      · refine .inl ⟨prerequisite :: resolved, .cons first related, ?_⟩
        rw [ok]
        rfl
      · refine .inr ⟨other, List.mem_cons_of_mem _ member, abort, failed, ?_⟩
        rw [error]
        rfl

/-- An entry that lists files yields their analyses, and nothing is reported. -/
theorem filesetEntry_of_files {attr : Attribute} {entry : FilesetEntry} {labels : List Label}
    (listed : entry.files = some labels) :
    (∃ found, resolver.ResolvesSources attr entry found ∧
      (resolver.filesetEntry attr entry).Yields (found.kept? resolver.rule attr)
        (found.diagnostics resolver.rule attr)) ∨
    ∃ label ∈ entry.namedLabels, ∃ abort, resolver.resolve attr label = .error abort ∧
      (resolver.filesetEntry attr entry).AbortsWith abort := by
  have named : entry.namedLabels = labels := by
    unfold FilesetEntry.namedLabels
    rw [listed, Option.getD_some]
  have steps : resolver.filesetEntry attr entry =
      (do
        let files ← liftM (resolver.listedFiles attr labels)
        return some (.files entry files) : Analysis (Option ResolvedFilesetEntry)) := by
    unfold filesetEntry
    rw [listed]
  rw [steps, named]
  rcases resolver.listedFiles_ok_or_error attr labels with
    ⟨resolved, related, ok⟩ | ⟨label, member, abort, failed, error⟩
  · refine .inl ⟨⟨entry, resolved⟩, ⟨rfl, named ▸ related⟩, ?_⟩
    simp only [EntrySources.kept?, EntrySources.diagnostics, listed]
    exact (Analysis.yields_liftM ok).bind (Analysis.yields_pure _)
  · exact .inr ⟨label, member, abort, failed, (Analysis.abortsWith_liftM error).bind _⟩

/-- An entry that takes a tree yields the analysis of its label, unless that is a rule and no
fileset, and what is wrong with the tree is reported. -/
theorem filesetEntry_of_tree {attr : Attribute} {entry : FilesetEntry}
    (listed : entry.files = none) :
    (∃ found, resolver.ResolvesSources attr entry found ∧
      (resolver.filesetEntry attr entry).Yields (found.kept? resolver.rule attr)
        (found.diagnostics resolver.rule attr)) ∨
    ∃ label ∈ entry.namedLabels, ∃ abort, resolver.resolve attr label = .error abort ∧
      (resolver.filesetEntry attr entry).AbortsWith abort := by
  have named : entry.namedLabels = [entry.source] := by
    unfold FilesetEntry.namedLabels
    rw [listed, Option.getD_none]
  have steps : resolver.filesetEntry attr entry =
      (do
        let source ← liftM (resolver.resolve attr entry.source)
        Analysis.reportAll (resolver.rule.checkSubtree attr entry source).2
        return if (resolver.rule.checkSubtree attr entry source).1 then
            some (.subtree entry source.configured)
          else none : Analysis (Option ResolvedFilesetEntry)) := by
    unfold filesetEntry
    rw [listed]
  rw [steps, named]
  cases resolved : resolver.resolve attr entry.source with
  | error abort =>
    refine .inr ⟨entry.source, List.mem_singleton_self _, abort, resolved, ?_⟩
    exact (Analysis.abortsWith_liftM rfl).bind _
  | ok source =>
    refine .inl ⟨⟨entry, [source]⟩, ⟨rfl, named ▸ List.Forall₂.cons resolved .nil⟩, ?_⟩
    have reported : (EntrySources.mk entry [source]).diagnostics resolver.rule attr =
        [] ++ (resolver.rule.checkSubtree attr entry source).2 := by
      simp only [EntrySources.diagnostics, listed, List.flatMap_singleton, List.nil_append]
    rw [reported]
    simp only [EntrySources.kept?, listed]
    exact (Analysis.yields_liftM rfl).bind
      ((Analysis.yields_reportAll _).bind_silent (Analysis.yields_pure _))

/-- An entry yields what is kept of it, or one of its labels ends the analysis. -/
theorem filesetEntry_yields_or_abortsWith (attr : Attribute) (entry : FilesetEntry) :
    (∃ found, resolver.ResolvesSources attr entry found ∧
      (resolver.filesetEntry attr entry).Yields (found.kept? resolver.rule attr)
        (found.diagnostics resolver.rule attr)) ∨
    ∃ label ∈ entry.namedLabels, ∃ abort, resolver.resolve attr label = .error abort ∧
      (resolver.filesetEntry attr entry).AbortsWith abort := by
  cases listed : entry.files with
  | some labels => exact resolver.filesetEntry_of_files listed
  | none => exact resolver.filesetEntry_of_tree listed

/-- All entries of a fileset attribute resolve, or one of their labels does not. -/
theorem filesetEntries_yields_or_abortsWith (attr : Attribute) (entries : List FilesetEntry) :
    (∃ found, List.Forall₂ (resolver.ResolvesSources attr) entries found ∧
      (resolver.filesetEntries attr entries).Yields
        (found.filterMap (EntrySources.kept? resolver.rule attr))
        (found.flatMap (EntrySources.diagnostics resolver.rule attr))) ∨
    ∃ entry ∈ entries, ∃ label ∈ entry.namedLabels, ∃ abort,
      resolver.resolve attr label = .error abort ∧
        (resolver.filesetEntries attr entries).AbortsWith abort := by
  induction entries with
  | nil => exact .inl ⟨[], .nil, Analysis.yields_pure []⟩
  | cons entry rest ih =>
    rcases resolver.filesetEntry_yields_or_abortsWith attr entry with
      ⟨first, resolved, head⟩ | ⟨label, named, abort, failed, aborts⟩
    · rcases ih with ⟨found, related, tail⟩ | ⟨other, member, label, named, abort, failed, aborts⟩
      · refine .inl ⟨first :: found, .cons resolved related, ?_⟩
        have kept : (first :: found).filterMap (EntrySources.kept? resolver.rule attr) =
            (first.kept? resolver.rule attr).toList ++
              found.filterMap (EntrySources.kept? resolver.rule attr) := by
          rw [List.filterMap_cons]
          cases first.kept? resolver.rule attr <;> rfl
        rw [kept, List.flatMap_cons]
        apply head.bind
        exact tail.bind_silent (Analysis.yields_pure _)
      · refine .inr ⟨other, List.mem_cons_of_mem _ member, label, named, abort, failed, ?_⟩
        exact head.bind_abortsWith (aborts.bind _)
    · exact .inr ⟨entry, List.mem_cons_self, label, named, abort, failed, aborts.bind _⟩

/-- The labels of an entry resolve to one list of prerequisites only. -/
theorem rightUnique_resolvesSources (attr : Attribute) :
    Relator.RightUnique (resolver.ResolvesSources attr) := by
  rintro entry ⟨firstEntry, firstSources⟩ ⟨secondEntry, secondSources⟩ first second
  obtain ⟨rfl, firstResolved⟩ := first
  obtain ⟨rfl, secondResolved⟩ := second
  have same : firstSources = secondSources :=
    List.right_unique_forall₂' (resolver.rightUnique_resolves attr) firstResolved secondResolved
  rw [same]

/-! ## Fileset attributes -/

/-- A fileset attribute with what the labels of its entries resolve to. -/
def ResolvesFileset (attr : Attribute) (found : Attribute × List EntrySources) : Prop :=
  found.1 = attr ∧
    List.Forall₂ (resolver.ResolvesSources attr) (resolver.rule.filesetEntries attr.name) found.2

/-- What is kept of the fileset attributes: those of which something is left. -/
def filesetBindings (found : List (Attribute × List EntrySources)) :
    List (String × List ResolvedFilesetEntry) :=
  found.filterMap fun (attr, entries) =>
    let kept := entries.filterMap (EntrySources.kept? resolver.rule attr)
    if kept.isEmpty then none else some (attr.name, kept)

/-- What is reported about the fileset attributes. -/
def filesetDiagnostics (found : List (Attribute × List EntrySources)) : List Diagnostic :=
  found.flatMap fun (attr, entries) => entries.flatMap (EntrySources.diagnostics resolver.rule attr)

/-- The attributes among the given ones that hold filesets. -/
def filesetsAmong (attributes : List Attribute) : List Attribute :=
  attributes.filter (·.type = .filesetEntryList)

/-- A fileset attribute among the given ones has a label that ends the analysis. -/
def FailsFileset (attributes : List Attribute) (abort : Abort) : Prop :=
  ∃ attr ∈ filesetsAmong attributes, ∃ entry ∈ resolver.rule.filesetEntries attr.name,
    ∃ label ∈ entry.namedLabels, resolver.resolve attr label = .error abort

/-- The labels of a fileset attribute resolve in one way only. -/
theorem rightUnique_resolvesFileset : Relator.RightUnique resolver.ResolvesFileset := by
  rintro attr first second ⟨sameFirst, firstResolved⟩ ⟨sameSecond, secondResolved⟩
  apply Prod.ext (sameFirst.trans sameSecond.symm)
  exact List.right_unique_forall₂' (resolver.rightUnique_resolvesSources attr) firstResolved
    secondResolved

/-- A fileset attribute is bound in front of the others, unless nothing is kept of it. -/
theorem filesetBindings_cons (attr : Attribute) (entries : List EntrySources)
    (found : List (Attribute × List EntrySources)) :
    resolver.filesetBindings ((attr, entries) :: found) =
      if (entries.filterMap (EntrySources.kept? resolver.rule attr)).isEmpty then
        resolver.filesetBindings found
      else (attr.name, entries.filterMap (EntrySources.kept? resolver.rule attr)) ::
        resolver.filesetBindings found := by
  unfold filesetBindings
  rw [List.filterMap_cons]
  dsimp only
  cases (entries.filterMap (EntrySources.kept? resolver.rule attr)).isEmpty <;> rfl

/-- All fileset attributes resolve, or one of their labels does not. -/
theorem filesetAttributes_yields_or_abortsWith (attributes : List Attribute) :
    (∃ found, List.Forall₂ resolver.ResolvesFileset (filesetsAmong attributes) found ∧
      (resolver.filesetAttributes attributes).Yields (resolver.filesetBindings found)
        (resolver.filesetDiagnostics found)) ∨
    ∃ abort, resolver.FailsFileset attributes abort ∧
      (resolver.filesetAttributes attributes).AbortsWith abort := by
  induction attributes with
  | nil => exact .inl ⟨[], .nil, Analysis.yields_pure []⟩
  | cons attr rest ih =>
    unfold filesetAttributes
    by_cases fileset : attr.type = .filesetEntryList
    · have among : filesetsAmong (attr :: rest) = attr :: filesetsAmong rest := by
        unfold filesetsAmong
        rw [List.filter_cons_of_pos (by simpa using fileset)]
      unfold FailsFileset
      rw [if_pos fileset, among]
      rcases resolver.filesetEntries_yields_or_abortsWith attr
          (resolver.rule.filesetEntries attr.name) with
        ⟨entries, resolved, head⟩ | ⟨entry, member, label, named, abort, failed, aborts⟩
      · rcases ih with ⟨found, related, tail⟩ | ⟨abort, failed, aborts⟩
        · refine .inl ⟨(attr, entries) :: found, .cons ⟨rfl, resolved⟩ related, ?_⟩
          rw [filesetBindings_cons]
          apply head.bind
          exact tail.bind_silent (Analysis.yields_pure _)
        · obtain ⟨other, inside, fails⟩ := failed
          refine .inr ⟨abort, ⟨other, List.mem_cons_of_mem _ inside, fails⟩, ?_⟩
          exact head.bind_abortsWith (aborts.bind _)
      · exact .inr ⟨abort, ⟨attr, List.mem_cons_self, entry, member, label, named, failed⟩,
          aborts.bind _⟩
    · have among : filesetsAmong (attr :: rest) = filesetsAmong rest := by
        unfold filesetsAmong
        rw [List.filter_cons_of_neg (by simpa using fileset)]
      unfold FailsFileset
      rw [if_neg fileset, among]
      exact ih

/-- The filesets of a rule resolve, or one of their labels ends the analysis. -/
theorem filesetMap_yields_or_abortsWith :
    (∃ found, List.Forall₂ resolver.ResolvesFileset
        (filesetsAmong resolver.rule.ruleClass.attributes) found ∧
      resolver.filesetMap.Yields (.ofList (resolver.filesetBindings found))
        (resolver.filesetDiagnostics found)) ∨
    ∃ abort, resolver.FailsFileset resolver.rule.ruleClass.attributes abort ∧
      resolver.filesetMap.AbortsWith abort := by
  rcases resolver.filesetAttributes_yields_or_abortsWith resolver.rule.ruleClass.attributes with
    ⟨found, related, yields⟩ | ⟨abort, failed, aborts⟩
  · refine .inl ⟨found, related, ?_⟩
    exact yields.bind_silent (Analysis.yields_pure _)
  · exact .inr ⟨abort, failed, aborts.bind _⟩

end Resolver

end BuildRules

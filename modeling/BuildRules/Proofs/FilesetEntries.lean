import BuildRules.Proofs.ContextReports

/-!
# What becomes of the entries of filesets

An entry of a fileset attribute either lists files or takes the tree of its source. The
rules of `EntryOutcome` say for each kind of entry what the fileset map keeps of it and
what is reported about it. Listed files are looked up one by one and nothing is asked
about the source. A tree is dropped, with an error, if it is that of a rule that is no
fileset and not that of a build file; the tree of a generated file is kept with a warning,
and any other one without a word.

The fileset map of a context that was built has what is kept of each entry, in the order
in which they are declared. It has no key for an attribute of which nothing is kept, and
apart from the reports about entries only the dependencies and the exclusive attributes
are reported about. The sources of entries that list files play no part in this: other
targets and analyses lead to the same context and the same record, if they agree on the
labels of the dependencies, the listed files and the trees.
-/

set_option autoImplicit false

namespace BuildRules

/-! ## The rules -/

/-- What is kept of one entry of a fileset attribute, if anything, and what is reported about it. -/
inductive EntryOutcome (request : ContextRequest) (attr : Attribute) (entry : FilesetEntry) :
    Option ResolvedFilesetEntry × List Diagnostic → Prop
  | listed {labels : List Label} {files : List Prerequisite} (listed : entry.files = some labels)
      (found : List.Forall₂ (request.Finds attr) labels files) :
      EntryOutcome request attr entry
        (some (.files entry (files.map Prerequisite.configured)), [])
  | dropped {source : Prerequisite} {dependency : Rule} (notListed : entry.files = none)
      (found : request.Finds attr entry.source source) (isRule : source.target = .rule dependency)
      (notProvided : source.providers.fileset = none) (other : entry.source.name ≠ "BUILD") :
      EntryOutcome request attr entry (none, [request.rule.noFileset attr entry.source])
  | generated {source : Prerequisite} {file : OutputFile} (notListed : entry.files = none)
      (found : request.Finds attr entry.source source) (isFile : source.target = .outputFile file)
      (notProvided : source.providers.fileset = none) (other : entry.source.name ≠ "BUILD") :
      EntryOutcome request attr entry
        (some (.subtree entry source.configured), [request.rule.generatedTree attr entry.source])
  | taken {source : Prerequisite} (notListed : entry.files = none)
      (found : request.Finds attr entry.source source)
      (fits : source.providers.fileset.isSome = true ∨ entry.source.name = "BUILD" ∨
        source.target.isInputFile = true) :
      EntryOutcome request attr entry (some (.subtree entry source.configured), [])

namespace ContextRequest

/-- What is reported about the dependencies and the exclusive attributes of a rule. -/
def DependencyReports (request : ContextRequest) (reported : List Diagnostic) : Prop :=
  ∃ listing edges exclusions, request.labels.Lists listing ∧
    ReportsInOrder (AttributeReports request) listing edges ∧
    ReportsInOrder (PairReports request.rule) request.rule.ruleClass.exclusive exclusions ∧
    reported = edges ++ exclusions

/-- Targets and analyses that answer like those of the request for all labels that it names. -/
def AnswersAlike (request : ContextRequest) (targets : TargetLookup)
    (analyzed : PrerequisiteMap) : Prop :=
  ∀ label, request.Names label → targets label = request.targets label ∧
    ∃ known, request.prerequisites = some known ∧
      ∀ configuration, analyzed.find? label configuration = known.find? label configuration

end ContextRequest

/-! ## The outcome of an entry -/

/-- What is kept of an entry with resolved labels and what is reported about it. -/
def EntrySources.outcome (rule : Rule) (attr : Attribute) (found : EntrySources) :
    Option ResolvedFilesetEntry × List Diagnostic :=
  (found.kept? rule attr, found.diagnostics rule attr)

namespace EntrySources

variable {rule : Rule} {attr : Attribute} {entry : FilesetEntry}

/-- An entry that lists files keeps them without a report. -/
theorem outcome_of_listed {labels : List Label} {files : List Prerequisite}
    (listed : entry.files = some labels) :
    outcome rule attr ⟨entry, files⟩ =
      (some (.files entry (files.map Prerequisite.configured)), []) := by
  unfold outcome kept? diagnostics
  rw [listed]

/-- The check of a tree decides whether the entry is kept, and says what is reported about it. -/
theorem outcome_of_tree {source : Prerequisite} (notListed : entry.files = none) :
    outcome rule attr ⟨entry, [source]⟩ =
      (if (rule.checkSubtree attr entry source).1 then some (.subtree entry source.configured)
        else none,
        (rule.checkSubtree attr entry source).2) := by
  unfold outcome kept? diagnostics
  rw [notListed]
  dsimp only
  rw [List.flatMap_singleton]

end EntrySources

namespace RuleContext

variable {request : ContextRequest} {resolver : Resolver}

/-- The labels of a request find the prerequisites to which they resolve and no others. -/
theorem forall₂_finds_iff (ready : request.resolver? = some resolver) {attr : Attribute}
    {labels : List Label} {files others : List Prerequisite}
    (resolved : List.Forall₂ (resolver.Resolves attr) labels files) :
    List.Forall₂ (request.Finds attr) labels others ↔ others = files := by
  induction resolved generalizing others with
  | nil => rw [List.forall₂_nil_left_iff]
  | cons head _ ih =>
    rw [List.forall₂_cons_left_iff]
    constructor
    · rintro ⟨first, rest, finds, findsRest, rfl⟩
      rw [(finds_iff_of_resolves ready head).mp finds, ih.mp findsRest]
    · rintro rfl
      exact ⟨_, _, (finds_iff_of_resolves ready head).mpr rfl, ih.mpr rfl, rfl⟩

/-- The rules give an entry that lists files its files, and nothing is reported. -/
theorem entryOutcome_iff_of_listed (ready : request.resolver? = some resolver) {attr : Attribute}
    {entry : FilesetEntry} {labels : List Label} {files : List Prerequisite}
    (listed : entry.files = some labels)
    (resolved : List.Forall₂ (resolver.Resolves attr) labels files)
    (outcome : Option ResolvedFilesetEntry × List Diagnostic) :
    EntryOutcome request attr entry outcome ↔
      outcome = (some (.files entry (files.map Prerequisite.configured)), []) := by
  constructor
  · intro said
    cases said with
    | listed listedAgain found =>
      cases listed.symm.trans listedAgain
      rw [(forall₂_finds_iff ready resolved).mp found]
    | dropped notListed => cases listed.symm.trans notListed
    | generated notListed => cases listed.symm.trans notListed
    | taken notListed => cases listed.symm.trans notListed
  · rintro rfl
    exact .listed listed ((forall₂_finds_iff ready resolved).mpr rfl)

/-- The outcome of an entry that takes a tree is what the check of the tree leaves of it. -/
theorem eq_of_entryOutcome_of_tree (ready : request.resolver? = some resolver) {attr : Attribute}
    {entry : FilesetEntry} {source : Prerequisite} (notListed : entry.files = none)
    (resolved : resolver.Resolves attr entry.source source)
    {outcome : Option ResolvedFilesetEntry × List Diagnostic}
    (said : EntryOutcome request attr entry outcome) :
    outcome = EntrySources.outcome request.rule attr ⟨entry, [source]⟩ := by
  rw [EntrySources.outcome_of_tree notListed]
  cases said with
  | listed listed => cases notListed.symm.trans listed
  | dropped _ found isRule notProvided other =>
    cases (finds_iff_of_resolves ready resolved).mp found
    rw [Rule.checkSubtree_of_rule isRule notProvided other, resolved.label_eq]
    rfl
  | generated _ found isFile notProvided other =>
    cases (finds_iff_of_resolves ready resolved).mp found
    rw [Rule.checkSubtree_of_generated isFile notProvided other, resolved.label_eq]
    rfl
  | taken _ found fits =>
    cases (finds_iff_of_resolves ready resolved).mp found
    rw [Rule.checkSubtree_of_fits fits]
    rfl

/-- The rules give every entry that takes a tree an outcome, if its source is found. -/
theorem exists_entryOutcome_of_tree {attr : Attribute} {entry : FilesetEntry}
    {source : Prerequisite} (notListed : entry.files = none)
    (found : request.Finds attr entry.source source) :
    ∃ outcome, EntryOutcome request attr entry outcome := by
  by_cases fits : source.providers.fileset.isSome = true ∨ entry.source.name = "BUILD"
  · exact ⟨_, .taken notListed found (fits.imp_right .inl)⟩
  · obtain ⟨notProvided, other⟩ := not_or.mp fits
    rw [Option.not_isSome_iff_eq_none] at notProvided
    cases kind : source.target with
    | rule dependency => exact ⟨_, .dropped notListed found kind notProvided other⟩
    | outputFile file => exact ⟨_, .generated notListed found kind notProvided other⟩
    | inputFile file => exact ⟨_, .taken notListed found (.inr (.inr (kind ▸ rfl)))⟩

/-- The rules give an entry one outcome, and it is made of the prerequisites to which the labels of
the entry resolve. -/
theorem entryOutcome_iff (ready : request.resolver? = some resolver) {attr : Attribute}
    {entry : FilesetEntry} {found : EntrySources}
    (resolves : resolver.ResolvesSources attr entry found)
    (outcome : Option ResolvedFilesetEntry × List Diagnostic) :
    EntryOutcome request attr entry outcome ↔ outcome = found.outcome request.rule attr := by
  obtain ⟨entry, sources⟩ := found
  obtain ⟨rfl, resolved⟩ := resolves
  unfold FilesetEntry.namedLabels at resolved
  cases listed : entry.files with
  | some labels =>
    rw [listed, Option.getD_some] at resolved
    rw [EntrySources.outcome_of_listed listed]
    exact entryOutcome_iff_of_listed ready listed resolved outcome
  | none =>
    rw [listed, Option.getD_none] at resolved
    obtain ⟨source, rest, resolvesSource, noRest, rfl⟩ := List.forall₂_cons_left_iff.mp resolved
    rw [List.forall₂_nil_left_iff] at noRest
    subst noRest
    constructor
    · exact eq_of_entryOutcome_of_tree ready listed resolvesSource
    · rintro rfl
      obtain ⟨other, said⟩ := exists_entryOutcome_of_tree listed
        ((finds_iff_of_resolves ready resolvesSource).mpr rfl)
      exact eq_of_entryOutcome_of_tree ready listed resolvesSource said ▸ said

/-! ## The fileset map of a context -/

/-- What is kept of the entries of which the outcomes are given, in order. -/
def keptOf (outcomes : List (Option ResolvedFilesetEntry × List Diagnostic)) :
    List ResolvedFilesetEntry :=
  outcomes.filterMap Prod.fst

/-- What is reported about the entries of which the outcomes are given, in order. -/
def reportsAbout (outcomes : List (Option ResolvedFilesetEntry × List Diagnostic)) :
    List Diagnostic :=
  outcomes.flatMap Prod.snd

/-- What the outcomes of entries keep is what is kept of each entry. -/
theorem keptOf_map_outcome (rule : Rule) (attr : Attribute) (sources : List EntrySources) :
    keptOf (sources.map (EntrySources.outcome rule attr)) =
      sources.filterMap (EntrySources.kept? rule attr) := by
  unfold keptOf
  rw [List.filterMap_map]
  rfl

/-- What the outcomes of entries report is what is reported about each entry. -/
theorem reportsAbout_map_outcome (rule : Rule) (attr : Attribute) (sources : List EntrySources) :
    reportsAbout (sources.map (EntrySources.outcome rule attr)) =
      sources.flatMap (EntrySources.diagnostics rule attr) := by
  unfold reportsAbout
  rw [List.flatMap_map]
  rfl

/-- The labels of the entries of all fileset attributes resolve to the given sources. -/
def ResolvesAll (request : ContextRequest) (resolver : Resolver)
    (sources : Attribute → List EntrySources) : Prop :=
  ∀ attr ∈ request.filesetAttributes, List.Forall₂ (resolver.ResolvesSources attr)
    (request.rule.filesetEntries attr.name) (sources attr)

/-- What is found for the fileset attributes is a list of sources for each of them. -/
theorem Resolved.exists_sources {kept : List (String × List Prerequisite)}
    {found : List (Attribute × List EntrySources)}
    (resolved : Resolved request resolver kept found) :
    ∃ sources : Attribute → List EntrySources, ResolvesAll request resolver sources ∧
      found = request.filesetAttributes.map fun attr => (attr, sources attr) := by
  have sameRule : resolver.rule = request.rule := (resolver?_eq_some resolved.ready).1
  have each : ∀ attr, ∃ sources, attr ∈ request.filesetAttributes →
      resolver.ResolvesFileset attr (attr, sources) := by
    intro attr
    by_cases among : attr ∈ request.filesetAttributes
    · obtain ⟨⟨other, sources⟩, -, rfl, resolves⟩ :=
        exists_right_of_forall₂ resolved.filesets among
      exact ⟨sources, fun _ => ⟨rfl, resolves⟩⟩
    · exact ⟨[], fun inside => absurd inside among⟩
  choose sources resolves using each
  refine ⟨sources, fun attr among => sameRule ▸ (resolves attr among).2, ?_⟩
  -- The attributes resolve in one way only, so what was found is what was chosen.
  have chosen : List.Forall₂ resolver.ResolvesFileset request.filesetAttributes
      (request.filesetAttributes.map fun attr => (attr, sources attr)) := by
    rw [List.forall₂_map_right_iff, List.forall₂_same]
    exact resolves
  exact List.right_unique_forall₂' resolver.rightUnique_resolvesFileset resolved.filesets chosen

/-- No two fileset attributes have one name. -/
theorem nodup_names_filesetAttributes (request : ContextRequest) :
    (request.filesetAttributes.map Attribute.name).Nodup :=
  request.rule.ruleClass.nodup_names.sublist (List.filter_sublist.map _)

/-- The fileset map of a context binds the names of the attributes of which something is kept. -/
theorem filesets_ofResolved (sameRule : resolver.rule = request.rule)
    (kept : List (String × List Prerequisite)) (sources : Attribute → List EntrySources) :
    (ofResolved request resolver kept
        (request.filesetAttributes.map fun attr => (attr, sources attr))).filesets =
      .ofList (NameMap.nonemptyBindings request.filesetAttributes Attribute.name fun attr =>
        keptOf ((sources attr).map (EntrySources.outcome request.rule attr))) := by
  unfold ofResolved Resolver.filesetBindings NameMap.nonemptyBindings
  simp only [List.filterMap_map, sameRule, keptOf_map_outcome]
  rfl

/-- The reports about the fileset attributes are those about the outcomes of their entries. -/
theorem filesetDiagnostics_map (sameRule : resolver.rule = request.rule)
    (sources : Attribute → List EntrySources) :
    resolver.filesetDiagnostics (request.filesetAttributes.map fun attr => (attr, sources attr)) =
      request.filesetAttributes.flatMap fun attr =>
        reportsAbout ((sources attr).map (EntrySources.outcome request.rule attr)) := by
  unfold Resolver.filesetDiagnostics
  simp only [List.flatMap_map, sameRule, reportsAbout_map_outcome]

/-- What is reported before the filesets is what the rules say about the dependencies and the
exclusive attributes. -/
theorem Resolved.dependencyReports {kept : List (String × List Prerequisite)}
    {found : List (Attribute × List EntrySources)}
    (resolved : Resolved request resolver kept found) :
    request.DependencyReports
      (resolver.entryDiagnostics request.policy kept ++ request.rule.exclusionDiagnostics) :=
  ⟨_, _, _, LabelMap.lists_iff.mpr rfl,
    (reportsOnly_attributes resolved.ready resolved.dependencies _).mpr rfl,
    (reportsOnly_exclusions request.rule _).mpr rfl, rfl⟩

/-! ## Labels that are not asked for -/

/-- A label resolves in the same way where it is answered for in the same way. -/
theorem resolves_of_answersAlike (ready : request.resolver? = some resolver)
    {targets : TargetLookup} {prerequisites : PrerequisiteMap}
    (alike : request.AnswersAlike targets prerequisites) (attr : Attribute) (label : Label)
    (prerequisite : Prerequisite) (named : request.Names label)
    (resolves : resolver.Resolves attr label prerequisite) :
    { resolver with targets, prerequisites }.Resolves attr label prerequisite := by
  obtain ⟨-, -, sameTargets, -, known⟩ := resolver?_eq_some ready
  obtain ⟨sameTarget, analyses, given, sameAnalyses⟩ := alike label named
  cases known.symm.trans given
  obtain ⟨loaded, configuration, selected, analyzed⟩ := Resolver.resolves_iff.mp resolves
  rw [sameTargets, ← sameTarget] at loaded
  rw [← sameAnalyses] at analyzed
  exact Resolver.resolves_iff.mpr ⟨loaded, configuration, selected, analyzed⟩

/-- The entries of every fileset attribute have one outcome each, and a context that was built keeps
of the attribute what the outcomes keep, in order. It has a key for the attributes of which
something is kept, and what is reported about them follows what is reported about the dependencies.
None of this depends on labels that the request does not name. -/
theorem filesets_mirror_entries (request : ContextRequest) {context : RuleContext}
    {record after : Record} (built : (build request).start record = (.ok context, after)) :
    ∃ outcomes : Attribute → List (Option ResolvedFilesetEntry × List Diagnostic),
      (∀ attr ∈ request.filesetAttributes,
        List.Forall₂ (fun entry outcome =>
            ∀ other, EntryOutcome request attr entry other ↔ other = outcome)
          (request.rule.filesetEntries attr.name) (outcomes attr) ∧
        context.filesets.of attr.name = keptOf (outcomes attr)) ∧
      (∀ name, context.filesets.contains name = true ↔
        ∃ attr ∈ request.filesetAttributes, attr.name = name ∧ keptOf (outcomes attr) ≠ []) ∧
      (∃ others, request.DependencyReports others ∧
        after = record.withReports (others ++
          request.filesetAttributes.flatMap fun attr => reportsAbout (outcomes attr))) ∧
      ∀ targets analyzed, request.AnswersAlike targets analyzed →
        (build { request with targets, prerequisites := some analyzed }).start record =
          (.ok context, after) := by
  obtain ⟨resolver, kept, found, resolved, rfl, rfl⟩ := exists_resolved_of_build built
  obtain ⟨sources, resolves, rfl⟩ := resolved.exists_sources
  have sameRule : resolver.rule = request.rule := (resolver?_eq_some resolved.ready).1
  have distinct := nodup_names_filesetAttributes request
  have filesets := filesets_ofResolved sameRule kept sources
  refine ⟨fun attr => (sources attr).map (EntrySources.outcome request.rule attr), ?_, ?_, ?_, ?_⟩
  · intro attr among
    constructor
    · rw [List.forall₂_map_right_iff]
      exact (resolves attr among).imp fun _ _ => entryOutcome_iff resolved.ready
    · unfold FilesetMap.of
      rw [filesets, NameMap.getD_find?_ofList_nonemptyBindings distinct among]
  · intro name
    unfold NameMap.contains
    rw [filesets, Option.isSome_iff_exists]
    simp only [NameMap.find?_ofList_nonemptyBindings_eq_some_iff distinct]
    constructor
    · rintro ⟨list, nonempty, attr, among, named, rfl⟩
      exact ⟨attr, among, named, nonempty⟩
    · rintro ⟨attr, among, named, nonempty⟩
      exact ⟨_, nonempty, attr, among, named, rfl⟩
  · refine ⟨_, resolved.dependencyReports, ?_⟩
    rw [← filesetDiagnostics_map sameRule]
    rfl
  · intro targets analyzed alike
    exact build_of_more resolved.ready (resolves_of_answersAlike resolved.ready alike) built

end RuleContext

namespace Sample

def trees : Attribute where
  name := "trees"
  type := .filesetEntryList

def spare : Attribute where
  name := "spare"
  type := .filesetEntryList

/-- A class whose rules hold filesets in two attributes. -/
def depotClass : RuleClass where
  name := "depot"
  attributes := [trees, spare]
  index := .ofList [("trees", 0), ("spare", 1)]
  checked := rfl

def tree : Label := ⟨"q", "tree", by decide⟩

def header : Label := ⟨"q", "a.h", by decide⟩

/-- A rule with two entries that list files, of which one lists none, and with entries that take the
trees of a fileset, of a generated file and of a rule that is no fileset. The files are listed
beside a source that is not loaded. -/
def depot : Rule where
  label := ⟨"p", "depot", by decide⟩
  ruleClass := depotClass
  location := ⟨"p/BUILD", 9, 0⟩
  values := .ofList
    [("trees", .filesetEntries
      [{ source := generator }, { source := missing, files := some [source, source] },
        { source := tree }, { source := missing, files := some [] }, { source := header }]),
      ("spare", .filesetEntries [{ source := generator }])]

def depotTargets : TargetLookup := fun label =>
  if label = tree then
    .ok (.rule { label := tree, ruleClass := depotClass, location := ⟨"q/BUILD", 4, 0⟩ })
  else if label = header then .ok (.outputFile ⟨header, generator, ⟨"q/BUILD", 2, 0⟩⟩)
  else targets label

/-- The targets of the depot, and besides a source file under every other label. -/
def moreTargets : TargetLookup := fun label =>
  match depotTargets label with
  | .ok target => .ok target
  | .error _ => .ok (.inputFile ⟨label, ⟨"p/BUILD", 0, 0⟩, true, []⟩)

def depotAnalyzed : PrerequisiteMap :=
  .ofList
    [⟨source, none, {}⟩, ⟨generator, some (configuration "target"), {}⟩,
      ⟨header, some (configuration "target"), {}⟩,
      ⟨tree, some (configuration "target"), { fileset := some (.source tree) }⟩]

def depotRequest : ContextRequest where
  rule := depot
  configuration := configuration "target"
  owner := depot.label
  targets := depotTargets
  transition := some (StandardTransitions.configure ⟨configuration "host", none⟩)
  prerequisites := some depotAnalyzed

/-- All labels that the depot names are loaded already. -/
theorem answersAlike_moreTargets : depotRequest.AnswersAlike moreTargets depotAnalyzed := by
  have noDependencies : depotRequest.labels = ∅ := rfl
  have loaded : ∀ attr ∈ depotRequest.filesetAttributes,
      ∀ entry ∈ depot.filesetEntries attr.name, ∀ label ∈ entry.namedLabels,
        (depotTargets label).isOk = true := by decide
  intro label named
  refine ⟨?_, depotAnalyzed, rfl, fun _ => rfl⟩
  rcases named with ⟨name, labels, bound, -⟩ | ⟨attr, among, entry, listed, inside⟩
  · rw [noDependencies] at bound
    cases bound
  · have known := loaded attr among entry listed label inside
    unfold moreTargets
    show _ = depotTargets label
    cases found : depotTargets label with
    | ok target => rfl
    | error cause =>
      rw [found] at known
      cases known

end Sample

/-- Of the five trees of the depot four are kept, one of them with a warning; of the spare ones none
is left. It does not matter whether the source is loaded beside which the files are listed. -/
theorem RuleContext.filesets_mirror_entries_depot :
    ∃ context after, (build Sample.depotRequest).start {} = (.ok context, after) ∧
      context.filesets.names = ["trees"] ∧
      (context.filesets.of "trees").map ResolvedFilesetEntry.entry =
        [{ source := Sample.missing, files := some [Sample.source, Sample.source] },
          { source := Sample.tree }, { source := Sample.missing, files := some [] },
          { source := Sample.header }] ∧
      after.diagnostics =
        [Sample.depot.noFileset Sample.trees Sample.generator,
          Sample.depot.generatedTree Sample.trees Sample.header,
          Sample.depot.noFileset Sample.spare Sample.generator] ∧
      (∃ outcomes, List.Forall₂ (fun entry outcome => ∀ other,
          EntryOutcome Sample.depotRequest Sample.trees entry other ↔ other = outcome)
        (Sample.depot.filesetEntries "trees") outcomes ∧
          context.filesets.of "trees" = keptOf outcomes) ∧
      (build { Sample.depotRequest with
          targets := Sample.moreTargets, prerequisites := some Sample.depotAnalyzed }).start {} =
        (.ok context, after) := by
  have built : (build Sample.depotRequest).start {} = (.ok _, _) := rfl
  obtain ⟨outcomes, each, -, -, alike⟩ := filesets_mirror_entries Sample.depotRequest built
  have among : Sample.trees ∈ Sample.depotRequest.filesetAttributes := List.mem_cons_self
  exact ⟨_, _, built, by decide, by decide, by decide, ⟨_, each Sample.trees among⟩,
    alike _ _ Sample.answersAlike_moreTargets⟩

end BuildRules

import BuildRules.Proofs.ContextLabels
import BuildRules.Proofs.DependencyReports
import BuildRules.Proofs.NameOrder

/-!
# What is reported while a context is built

The reports about a rule come in an order: first those about its dependencies, attribute
by attribute in the order of the bytes of the names and label by label as they are
listed, then one for each pair of attributes that exclude each other, in the order in
which the class declares the pairs, and last those about filesets, in the order in which
the class declares their attributes. A label that a silent filter drops is not checked.

`ContextReports` says this by rules that mention nothing of how a context is built: each
label is looked up on its own, among the targets and the analyses of the request. The
rules allow one list only, and it is what the building of a context adds to the record.
-/

set_option autoImplicit false

namespace BuildRules

open BuildRules.Configuration (bytesOf)

/-! ## The rules -/

/-- The reports about several things, one after the other. -/
inductive ReportsInOrder {α : Type} (reports : α → List Diagnostic → Prop) :
    List α → List Diagnostic → Prop
  | nil : ReportsInOrder reports [] []
  | cons {first : α} {rest : List α} {reported others : List Diagnostic}
      (head : reports first reported) (tail : ReportsInOrder reports rest others) :
      ReportsInOrder reports (first :: rest) (reported ++ others)

/-- The loaded target of a label, and the analysis of it in the configuration to which the
transition of a request leads. -/
def ContextRequest.Finds (request : ContextRequest) (attr : Attribute) (label : Label)
    (prerequisite : Prerequisite) : Prop :=
  request.targets label = .ok prerequisite.target ∧
    ∃ transition analyzed, request.transition = some transition ∧
      request.prerequisites = some analyzed ∧
        analyzed.find? label
            (transition request.rule request.configuration attr prerequisite.target) =
          some prerequisite.configured

/-- What is reported about one label of an attribute. -/
inductive LabelReports (request : ContextRequest) (attr : Attribute) (label : Label) :
    List Diagnostic → Prop
  | dropped (filtered : attr.keepsLabel request.targets label = false) :
      LabelReports request attr label []
  | checked {prerequisite : Prerequisite} {reported : List Diagnostic}
      (kept : attr.keepsLabel request.targets label = true)
      (found : request.Finds attr label prerequisite)
      (said : EdgeReports request.policy request.rule request.configuration attr prerequisite
        reported) :
      LabelReports request attr label reported

/-- What is reported about the labels of one attribute of a label map. -/
inductive AttributeReports (request : ContextRequest) :
    String × List Label → List Diagnostic → Prop
  | intro {name : String} {labels : List Label} {attr : Attribute} {reported : List Diagnostic}
      (declared : request.rule.ruleClass.attribute? name = some attr)
      (said : ReportsInOrder (LabelReports request attr) labels reported) :
      AttributeReports request (name, labels) reported

/-- What is reported about two attributes that exclude each other. -/
inductive PairReports (rule : Rule) : String × String → List Diagnostic → Prop
  | bothSet {first second : String} (firstSet : rule.isExplicit first = true)
      (secondSet : rule.isExplicit second = true) :
      PairReports rule (first, second)
        [rule.attributeDiagnostic .error second
          ("Only one of " ++ second ++ " and " ++ first ++ " should be provided")]
  | notBothSet {first second : String}
      (apart : ¬ (rule.isExplicit first = true ∧ rule.isExplicit second = true)) :
      PairReports rule (first, second) []

/-- What is reported about one entry of a fileset: something only if it takes a tree. -/
inductive EntryReports (request : ContextRequest) (attr : Attribute) (entry : FilesetEntry) :
    List Diagnostic → Prop
  | listed {files : List Label} (listed : entry.files = some files) :
      EntryReports request attr entry []
  | tree {source : Prerequisite} {report : Option Diagnostic} (notListed : entry.files = none)
      (found : request.Finds attr entry.source source)
      (said : TreeReport request.rule attr entry source report) :
      EntryReports request attr entry report.toList

/-- What is reported about the entries of one fileset attribute. -/
def FilesetReports (request : ContextRequest) (attr : Attribute) : List Diagnostic → Prop :=
  ReportsInOrder (EntryReports request attr) (request.rule.filesetEntries attr.name)

/-- The bindings of a label map, in the order of the bytes of the names. -/
structure LabelMap.Lists (labels : LabelMap) (listing : List (String × List Label)) : Prop where
  mem_iff : ∀ name values, (name, values) ∈ listing ↔ labels.find? name = some values
  ascending : listing.Pairwise fun a b => bytesOf a.1 < bytesOf b.1

/-- What is reported while a context is built. -/
inductive ContextReports (request : ContextRequest) : List Diagnostic → Prop
  | intro {listing : List (String × List Label)} {edges exclusions filesets : List Diagnostic}
      (listed : request.labels.Lists listing)
      (dependencies : ReportsInOrder (AttributeReports request) listing edges)
      (exclusive : ReportsInOrder (PairReports request.rule) request.rule.ruleClass.exclusive
        exclusions)
      (trees : ReportsInOrder (FilesetReports request)
        (request.rule.ruleClass.attributes.filter (·.type = .filesetEntryList)) filesets) :
      ContextReports request (edges ++ exclusions ++ filesets)

/-! ## The rules allow one list only -/

/-- There is one list that the rules allow. -/
def ReportsOnly (reports : List Diagnostic → Prop) (reported : List Diagnostic) : Prop :=
  ∀ other, reports other ↔ other = reported

/-- Where each of several things has one list of reports, all of them together have one. -/
theorem reportsOnly_inOrder {α β : Type} {relation : α → β → Prop}
    {reports : α → List Diagnostic → Prop} {diagnose : β → List Diagnostic} {sources : List α}
    {results : List β} (related : List.Forall₂ relation sources results)
    (each : ∀ source result, relation source result →
      ReportsOnly (reports source) (diagnose result)) :
    ReportsOnly (ReportsInOrder reports sources) (results.flatMap diagnose) := by
  induction related with
  | nil =>
    intro other
    constructor
    · rintro ⟨⟩
      rfl
    · rintro rfl
      exact .nil
  | cons first _ ih =>
    intro other
    rw [List.flatMap_cons]
    constructor
    · rintro (_ | ⟨head, tail⟩)
      rw [(each _ _ first _).mp head, (ih _).mp tail]
    · rintro rfl
      exact .cons ((each _ _ first _).mpr rfl) ((ih _).mpr rfl)

/-- The one listing of a label map is that of its entries. -/
theorem LabelMap.lists_iff {labels : LabelMap} {listing : List (String × List Label)} :
    labels.Lists listing ↔ listing = labels.entries := by
  constructor
  · intro lists
    have ascending : listing.Pairwise fun a b => a.1 < b.1 :=
      lists.ascending.imp fun before => Utf8.bytesOf_lt_bytesOf_iff.mp before
    apply NameMap.eq_of_mem_iff ascending labels.ascending
    rintro ⟨name, values⟩
    rw [lists.mem_iff, NameMap.mem_entries_iff_find?]
  · rintro rfl
    exact ⟨fun _ _ => NameMap.mem_entries_iff_find?,
      labels.ascending.imp fun before => Utf8.bytesOf_lt_bytesOf_iff.mpr before⟩

/-- Only the exclusive attributes that are both set are reported, pair by pair. -/
theorem reportsOnly_exclusions (rule : Rule) :
    ReportsOnly (ReportsInOrder (PairReports rule) rule.ruleClass.exclusive)
      rule.exclusionDiagnostics := by
  unfold Rule.exclusionDiagnostics
  rw [List.filterMap_eq_flatMap_toList]
  have itself : List.Forall₂ Eq rule.ruleClass.exclusive rule.ruleClass.exclusive :=
    List.forall₂_refl _
  refine reportsOnly_inOrder itself ?_
  rintro ⟨first, second⟩ _ rfl other
  dsimp only
  constructor
  · intro said
    cases said with
    | bothSet firstSet secondSet =>
      rw [if_pos (by simp [firstSet, secondSet])]
      rfl
    | notBothSet apart =>
      rw [if_neg (by simpa using apart)]
      rfl
  · rintro rfl
    by_cases both : rule.isExplicit first = true ∧ rule.isExplicit second = true
    · rw [if_pos (by simp [both])]
      exact .bothSet both.1 both.2
    · rw [if_neg (by simpa using both)]
      exact .notBothSet both

namespace RuleContext

variable {request : ContextRequest} {resolver : Resolver}

/-- What a label resolves to is what is found for it. -/
theorem finds_iff_of_resolves (ready : request.resolver? = some resolver) {attr : Attribute}
    {label : Label} {prerequisite other : Prerequisite}
    (resolves : resolver.Resolves attr label prerequisite) :
    request.Finds attr label other ↔ other = prerequisite := by
  obtain ⟨sameRule, sameConfiguration, sameTargets, given, known⟩ := resolver?_eq_some ready
  obtain ⟨loaded, configuration, selected, analyzed⟩ := Resolver.resolves_iff.mp resolves
  have transition : configuration =
      resolver.transition resolver.rule resolver.configuration attr prerequisite.target := by
    unfold Resolver.configurationOf at selected
    dsimp only at selected
    split at selected
    · cases selected
    · cases selected
      rfl
  rw [transition, sameRule, sameConfiguration] at analyzed
  rw [sameTargets] at loaded
  constructor
  · rintro ⟨loadedOther, step, map, givenStep, knownMap, found⟩
    rw [loaded] at loadedOther
    rw [given] at givenStep
    rw [known] at knownMap
    cases givenStep
    cases knownMap
    obtain ⟨target, configured⟩ := other
    cases loadedOther
    rw [analyzed] at found
    cases found
    rfl
  · rintro rfl
    exact ⟨loaded, _, _, given, known, analyzed⟩

/-- What is reported about the labels of an attribute is what is reported about the prerequisites
that are kept of those to which they resolve. -/
theorem reportsOnly_labels (ready : request.resolver? = some resolver) {attr : Attribute}
    {labels : List Label} {prerequisites : List Prerequisite}
    (related : List.Forall₂ (resolver.Resolves attr) labels prerequisites) :
    ReportsOnly (ReportsInOrder (LabelReports request attr) labels)
      (resolver.edgeDiagnostics request.policy attr (attr.kept prerequisites)) := by
  obtain ⟨sameRule, sameConfiguration, sameTargets, -⟩ := resolver?_eq_some ready
  -- The reports about the kept prerequisites are divided among all labels, dropped ones included.
  have perLabel : resolver.edgeDiagnostics request.policy attr (attr.kept prerequisites) =
      prerequisites.flatMap fun prerequisite =>
        if attr.drops prerequisite.target then []
        else Validation.validate request.policy request.rule request.configuration attr
          prerequisite := by
    rw [← sameRule, ← sameConfiguration]
    clear related
    induction prerequisites with
    | nil => rfl
    | cons first rest ih =>
      rw [Attribute.kept_cons, Resolver.edgeDiagnostics_append, ih, List.flatMap_cons]
      cases attr.drops first.target with
      | true => rfl
      | false => exact congrArg (· ++ _) (List.append_nil _)
  rw [perLabel]
  refine reportsOnly_inOrder related ?_
  intro label prerequisite resolves reported
  have agree : attr.keepsLabel request.targets label = !attr.drops prerequisite.target :=
    sameTargets ▸ resolves.keepsLabel_eq
  cases dropped : attr.drops prerequisite.target with
  | true =>
    rw [dropped] at agree
    rw [if_pos rfl]
    constructor
    · intro said
      cases said with
      | dropped _ => rfl
      | checked kept _ _ => exact absurd (kept.symm.trans agree) (by decide)
    · rintro rfl
      exact .dropped agree
  | false =>
    rw [dropped] at agree
    rw [if_neg Bool.false_ne_true, ← edgeReports_iff]
    constructor
    · intro said
      cases said with
      | dropped filtered => exact absurd (filtered.symm.trans agree) (by decide)
      | checked _ found said =>
        rw [(finds_iff_of_resolves ready resolves).mp found] at said
        exact said
    · intro said
      exact .checked agree ((finds_iff_of_resolves ready resolves).mpr rfl) said

/-- What is reported about a label map is what is reported about the dependency map to which it
leads. -/
theorem reportsOnly_attributes (ready : request.resolver? = some resolver)
    {entries : List (String × List Label)} {kept : List (String × List Prerequisite)}
    (related : List.Forall₂ resolver.ResolvesEntry entries kept) :
    ReportsOnly (ReportsInOrder (AttributeReports request) entries)
      (resolver.entryDiagnostics request.policy kept) := by
  have sameRule : resolver.rule = request.rule := (resolver?_eq_some ready).1
  refine reportsOnly_inOrder related ?_
  rintro ⟨name, labels⟩ ⟨_, _⟩ ⟨rfl, attr, prerequisites, declared, resolves, rfl⟩ reported
  have only := reportsOnly_labels ready resolves
  dsimp only at declared ⊢
  rw [declared, Option.elim_some, ← only reported]
  rw [sameRule] at declared
  constructor
  · rintro ⟨declaredAgain, said⟩
    rw [declared] at declaredAgain
    cases declaredAgain
    exact said
  · intro said
    exact .intro declared said

/-- What is reported about an entry of a fileset is what its rules say, and nothing else. -/
theorem reportsOnly_entry (ready : request.resolver? = some resolver) {attr : Attribute}
    {entry : FilesetEntry} {found : EntrySources}
    (resolves : resolver.ResolvesSources attr entry found) :
    ReportsOnly (EntryReports request attr entry) (found.diagnostics resolver.rule attr) := by
  have sameRule : resolver.rule = request.rule := (resolver?_eq_some ready).1
  obtain ⟨rfl, sources⟩ := resolves
  intro reported
  unfold EntrySources.diagnostics
  unfold FilesetEntry.namedLabels at sources
  cases listed : found.entry.files with
  | some labels =>
    constructor
    · intro said
      cases said with
      | listed _ => rfl
      | tree notListed _ _ => exact absurd (listed.symm.trans notListed) (by simp)
    · rintro rfl
      exact .listed listed
  | none =>
    rw [listed, Option.getD_none] at sources
    obtain ⟨source, rest, resolves, noRest, same⟩ := List.forall₂_cons_left_iff.mp sources
    rw [List.forall₂_nil_left_iff] at noRest
    rw [same, noRest, sameRule, List.flatMap_singleton, ← treeReports_iff]
    constructor
    · intro said
      cases said with
      | listed isListed => exact absurd (listed.symm.trans isListed) (by simp)
      | tree _ found said =>
        rw [(finds_iff_of_resolves ready resolves).mp found] at said
        exact ⟨_, said, rfl⟩
    · rintro ⟨report, said, rfl⟩
      exact .tree listed ((finds_iff_of_resolves ready resolves).mpr rfl) said

/-- What is reported about the fileset attributes is what the rules say about their entries, in
order. -/
theorem reportsOnly_filesets (ready : request.resolver? = some resolver)
    {attributes : List Attribute} {found : List (Attribute × List EntrySources)}
    (related : List.Forall₂ resolver.ResolvesFileset attributes found) :
    ReportsOnly (ReportsInOrder (FilesetReports request) attributes)
      (resolver.filesetDiagnostics found) := by
  have sameRule : resolver.rule = request.rule := (resolver?_eq_some ready).1
  refine reportsOnly_inOrder related ?_
  rintro attr ⟨_, entries⟩ ⟨rfl, resolves⟩
  rw [sameRule] at resolves
  exact reportsOnly_inOrder resolves fun _ _ => reportsOnly_entry ready

/-- What is reported about a resolved rule is what the rules say, and nothing else. -/
theorem Resolved.reportsOnly {kept : List (String × List Prerequisite)}
    {found : List (Attribute × List EntrySources)}
    (resolved : Resolved request resolver kept found) :
    ReportsOnly (ContextReports request) (reportsOf request resolver kept found) := by
  have dependencies := reportsOnly_attributes resolved.ready resolved.dependencies
  have exclusions := reportsOnly_exclusions request.rule
  have filesets := reportsOnly_filesets resolved.ready resolved.filesets
  intro reported
  unfold reportsOf
  constructor
  · rintro ⟨listed, edges, exclusive, trees⟩
    rw [LabelMap.lists_iff] at listed
    rw [listed] at edges
    rw [(dependencies _).mp edges, (exclusions _).mp exclusive, (filesets _).mp trees]
  · rintro rfl
    exact .intro (LabelMap.lists_iff.mpr rfl) ((dependencies _).mpr rfl)
      ((exclusions _).mpr rfl) ((filesets _).mpr rfl)

/-- When a context is built, the record keeps what it has and gets the one list of diagnostics that
the rules allow. -/
theorem build_reports_only (request : ContextRequest) {context : RuleContext}
    {record after : Record} (built : (build request).start record = (.ok context, after)) :
    ∃ reported, after = { record with diagnostics := record.diagnostics ++ reported } ∧
      ∀ other, ContextReports request other ↔ other = reported := by
  obtain ⟨resolver, kept, found, resolved, -, rfl⟩ := exists_resolved_of_build built
  exact ⟨reportsOf request resolver kept found, rfl, resolved.reportsOnly⟩

end RuleContext

namespace Sample

/-- A class whose rules have either some dependencies or one tool, and file trees. -/
def bundleClass : RuleClass where
  name := "bundle"
  attributes :=
    [{ name := "trees", type := .filesetEntryList },
      { name := "tool", type := .label, strict := true, singleArtifact := true
        allowedClasses := .empty, warnedClasses := .only ["library"] },
      { name := "deps", type := .labelList, strict := true, allowedFiles := .nothing }]
  exclusive := [("deps", "tool")]
  index := .ofList [("trees", 0), ("tool", 1), ("deps", 2)]
  checked := rfl

def missing : Label := ⟨"p", "missing", by decide⟩

/-- A rule that has dependencies and a tool. The dependency does not exist, the tool builds no file,
and it is no fileset of which a tree could be taken. -/
def bundle : Rule where
  label := ⟨"p", "all", by decide⟩
  ruleClass := bundleClass
  location := ⟨"p/BUILD", 7, 0⟩
  values := .ofList
    [("deps", .labelList [missing]), ("tool", .label (some generator)),
      ("trees", .filesetEntries [{ source := generator }])]

def bundleRequest : ContextRequest where
  rule := bundle
  configuration := configuration "target"
  owner := bundle.label
  targets := fun label =>
    if label = missing then .ok (.inputFile ⟨missing, ⟨"p/BUILD", 0, 0⟩, false, []⟩)
    else targets label
  policy := .visibility .warn
  transition := some (StandardTransitions.configure ⟨configuration "host", none⟩)
  prerequisites := some (.ofList
    [⟨missing, none, {}⟩, ⟨generator, some (configuration "target"), { files := some [] }⟩])

end Sample

/-- The reports about a bundle: one about its dependency, three about its tool, one about having
both, and one about its file tree. -/
theorem RuleContext.build_reports_only_bundle :
    ∃ context after, (build Sample.bundleRequest).start {} = (.ok context, after) ∧
      after.diagnostics.map (fun diagnostic => (diagnostic.severity, diagnostic.message)) =
        [(.error, "in deps attribute of bundle rule //p:all: rule '//p:missing' does not exist"),
          (.warning, "in tool attribute of bundle rule //p:all: library rule '//q:gen' is " ++
            "unexpected here (expected no rule); continuing anyway"),
          (.error, "in tool attribute of bundle rule //p:all: '//q:gen' must produce a single " ++
            "file"),
          (.warning, "in tool attribute of bundle rule //p:all: target '//q:gen' violates " ++
            "visibility of target '//p:all'; continuing anyway"),
          (.error, "in tool attribute of bundle rule //p:all: Only one of tool and deps should " ++
            "be provided"),
          (.error, "in trees attribute of bundle rule //p:all: invalid 'srcdir' target " ++
            "'//q:gen'. Must be another fileset or package")] ∧
      ∀ other, ContextReports Sample.bundleRequest other ↔ other = after.diagnostics := by
  have built : (build Sample.bundleRequest).start {} = (.ok _, _) := rfl
  obtain ⟨reported, recorded, only⟩ := build_reports_only Sample.bundleRequest built
  refine ⟨_, _, built, by decide, ?_⟩
  intro other
  rw [only, congrArg Record.diagnostics recorded]
  rfl

end BuildRules

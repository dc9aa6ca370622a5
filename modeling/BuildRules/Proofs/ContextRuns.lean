import BuildRules.Analysis.Context
import BuildRules.Proofs.Bindings
import BuildRules.Proofs.FilesetRuns

/-!
# How the building of a context ends

A context is built from the prerequisites to which the labels of its request resolve, on
any record and with reports that depend on the prerequisites alone; or the building ends
with the abort of one label or undeclared attribute. So a context that was built can be
taken apart into prerequisites, and what its dependency map answers can be said in terms
of the label map.
-/

set_option autoImplicit false

namespace BuildRules

/-- The resolver of a request that has what it takes to resolve labels. -/
def ContextRequest.resolver? (request : ContextRequest) : Option Resolver :=
  match request.transition, request.prerequisites with
  | some transition, some prerequisites =>
    some ⟨request.rule, request.configuration, request.targets, transition, prerequisites⟩
  | _, _ => none

/-- The label map of a request: its own one, or else that of the rule. -/
def ContextRequest.labels (request : ContextRequest) : LabelMap :=
  request.labelMap.getD request.rule.labelMap

/-- The attributes of the rule that hold filesets, in the order in which its class declares them. -/
def ContextRequest.filesetAttributes (request : ContextRequest) : List Attribute :=
  Resolver.filesetsAmong request.rule.ruleClass.attributes

/-- The label is that of a dependency, of a file that a fileset entry lists, or of the tree that an
entry takes which lists none. -/
def ContextRequest.Names (request : ContextRequest) (label : Label) : Prop :=
  (∃ name labels, request.labels.find? name = some labels ∧ label ∈ labels) ∨
  ∃ attr ∈ request.filesetAttributes, ∃ entry ∈ request.rule.filesetEntries attr.name,
    label ∈ entry.namedLabels

namespace RuleContext

/-- The context of a request whose labels resolve to the given prerequisites. -/
def ofResolved (request : ContextRequest) (resolver : Resolver)
    (kept : List (String × List Prerequisite)) (found : List (Attribute × List EntrySources)) :
    RuleContext :=
  ⟨request.rule, request.configuration, request.owner, .ofList kept,
    .ofList (resolver.filesetBindings found)⟩

/-- What is reported while the context of a request is built. -/
def reportsOf (request : ContextRequest) (resolver : Resolver)
    (kept : List (String × List Prerequisite)) (found : List (Attribute × List EntrySources)) :
    List Diagnostic :=
  resolver.entryDiagnostics request.policy kept ++ request.rule.exclusionDiagnostics ++
    resolver.filesetDiagnostics found

/-- The labels of a request resolve to the given prerequisites. -/
structure Resolved (request : ContextRequest) (resolver : Resolver)
    (kept : List (String × List Prerequisite)) (found : List (Attribute × List EntrySources)) :
    Prop where
  ready : request.resolver? = some resolver
  dependencies : List.Forall₂ resolver.ResolvesEntry request.labels.entries kept
  filesets : List.Forall₂ resolver.ResolvesFileset
    (Resolver.filesetsAmong request.rule.ruleClass.attributes) found

/-- A resolver is made of the parts of its request. -/
theorem resolver?_eq_some {request : ContextRequest} {resolver : Resolver}
    (ready : request.resolver? = some resolver) :
    resolver.rule = request.rule ∧ resolver.configuration = request.configuration ∧
      resolver.targets = request.targets ∧ request.transition = some resolver.transition ∧
      request.prerequisites = some resolver.prerequisites := by
  unfold ContextRequest.resolver? at ready
  split at ready
  · rename_i transition prerequisites given known
    cases ready
    exact ⟨rfl, rfl, rfl, given, known⟩
  · cases ready

/-- A request with a resolver is built of its dependencies and then its filesets. -/
theorem build_of_ready {request : ContextRequest} {resolver : Resolver}
    (ready : request.resolver? = some resolver) :
    build request =
      (do
        let dependencies ← resolver.dependencyMap request.policy request.labels
        let filesets ← resolver.filesetMap
        return ⟨request.rule, request.configuration, request.owner, dependencies, filesets⟩) := by
  unfold ContextRequest.resolver? at ready
  split at ready
  · rename_i transition prerequisites given known
    cases ready
    unfold build ContextRequest.labels
    rw [given, known]
  · cases ready

/-- A context is built from the prerequisites to which the labels of its request resolve, or one
label or undeclared attribute ends the building. -/
theorem build_yields_or_abortsWith {request : ContextRequest} {resolver : Resolver}
    (ready : request.resolver? = some resolver) :
    (∃ kept found, Resolved request resolver kept found ∧
      (build request).Yields (ofResolved request resolver kept found)
        (reportsOf request resolver kept found)) ∨
    ∃ abort, ((∃ entry ∈ request.labels.entries, resolver.FailsEntry entry abort) ∨
        resolver.FailsFileset request.rule.ruleClass.attributes abort) ∧
      (build request).AbortsWith abort := by
  have sameRule : resolver.rule = request.rule := (resolver?_eq_some ready).1
  rw [build_of_ready ready]
  rcases resolver.dependencyMap_yields_or_abortsWith request.policy request.labels with
    ⟨kept, dependencies, head⟩ | ⟨entry, member, abort, failed, aborts⟩
  · rcases resolver.filesetMap_yields_or_abortsWith with
      ⟨found, filesets, tail⟩ | ⟨abort, failed, aborts⟩
    · refine .inl ⟨kept, found, ⟨ready, dependencies, sameRule ▸ filesets⟩, ?_⟩
      unfold reportsOf ofResolved
      rw [← sameRule]
      exact head.bind (tail.bind_silent (Analysis.yields_pure _))
    · exact .inr ⟨abort, .inr (sameRule ▸ failed), head.bind_abortsWith (aborts.bind _)⟩
  · exact .inr ⟨abort, .inl ⟨entry, member, failed⟩, aborts.bind _⟩

/-- A request without transitions or without prerequisites is not ready, and nothing is built. -/
theorem build_of_not_ready {request : ContextRequest} (notReady : request.resolver? = none) :
    ∃ abort, (build request).AbortsWith abort := by
  unfold build
  cases given : request.transition with
  | none =>
    exact ⟨_, Analysis.abortsWith_liftM (show (.error _ : Except Abort RuleContext) = _ from rfl)⟩
  | some transition =>
    cases known : request.prerequisites with
    | none =>
      exact ⟨_, Analysis.abortsWith_liftM (show (.error _ : Except Abort RuleContext) = _ from rfl)⟩
    | some prerequisites =>
      unfold ContextRequest.resolver? at notReady
      rw [given, known] at notReady
      cases notReady

/-- A context that was built holds the prerequisites to which the labels of its request resolve,
and exactly the reports about them were added to the record. -/
theorem exists_resolved_of_build {request : ContextRequest} {context : RuleContext}
    {record after : Record} (built : (build request).start record = (.ok context, after)) :
    ∃ resolver kept found, Resolved request resolver kept found ∧
      context = ofResolved request resolver kept found ∧
        after = record.withReports (reportsOf request resolver kept found) := by
  cases ready : request.resolver? with
  | none =>
    obtain ⟨abort, aborts⟩ := build_of_not_ready ready
    exact absurd built aborts.not_start_ok
  | some resolver =>
    rcases build_yields_or_abortsWith ready with ⟨kept, found, resolved, yields⟩ | ⟨_, _, aborts⟩
    · obtain ⟨sameContext, sameRecord⟩ := yields.eq_of_start built
      exact ⟨resolver, kept, found, resolved, sameContext, sameRecord⟩
    · exact absurd built aborts.not_start_ok

/-- A request whose labels resolve is built, on any record. -/
theorem build_of_resolved {request : ContextRequest} {resolver : Resolver}
    {kept : List (String × List Prerequisite)} {found : List (Attribute × List EntrySources)}
    (resolved : Resolved request resolver kept found) :
    (build request).Yields (ofResolved request resolver kept found)
      (reportsOf request resolver kept found) := by
  rcases build_yields_or_abortsWith resolved.ready with
    ⟨otherKept, otherFound, other, yields⟩ | ⟨abort, failed, -⟩
  · -- The labels were resolved when the context was built, and they resolve in one way only.
    have sameKept : otherKept = kept :=
      List.right_unique_forall₂' resolver.rightUnique_resolvesEntry other.dependencies
        resolved.dependencies
    have sameFound : otherFound = found :=
      List.right_unique_forall₂' resolver.rightUnique_resolvesFileset other.filesets
        resolved.filesets
    rw [sameKept, sameFound] at yields
    exact yields
  · -- A label that ends the building would both resolve and not resolve.
    exfalso
    rcases failed with ⟨entry, member, fails⟩ | ⟨attr, among, entry, member, label, named, fails⟩
    · obtain ⟨result, -, resolves⟩ := exists_right_of_forall₂ resolved.dependencies member
      exact resolves.not_failsEntry fails
    · obtain ⟨result, -, sameAttr, sources⟩ := exists_right_of_forall₂ resolved.filesets among
      have sameRule := (resolver?_eq_some resolved.ready).1
      obtain ⟨found, -, sameEntry, resolves⟩ := exists_right_of_forall₂ sources member
      obtain ⟨prerequisite, -, hit⟩ := exists_right_of_forall₂ resolves named
      unfold Resolver.Resolves at hit
      rw [fails] at hit
      cases hit

namespace Resolved

variable {request : ContextRequest} {resolver : Resolver}
  {kept : List (String × List Prerequisite)} {found : List (Attribute × List EntrySources)}

/-- What is kept has one entry for each name of the label map. -/
theorem names_eq (resolved : Resolved request resolver kept found) :
    kept.map Prod.fst = request.labels.names := by
  have related := resolved.dependencies
  unfold NameMap.names
  clear resolved
  generalize request.labels.entries = entries at related
  induction related with
  | nil => rfl
  | cons head _ ih => rw [List.map_cons, List.map_cons, head.1, ih]

/-- What is kept has no name twice. -/
theorem nodup_names (resolved : Resolved request resolver kept found) :
    (kept.map Prod.fst).Nodup :=
  resolved.names_eq ▸ request.labels.nodup_names

/-- The dependencies of an attribute of the label map are the prerequisites of its labels that the
filter of the attribute keeps. -/
theorem dependencies_of_bound (resolved : Resolved request resolver kept found) {name : String}
    {labels : List Label} (bound : request.labels.find? name = some labels) :
    ∃ attr prerequisites, request.rule.ruleClass.attribute? name = some attr ∧
      List.Forall₂ (resolver.Resolves attr) labels prerequisites ∧
        (ofResolved request resolver kept found).dependencies.of name = attr.kept prerequisites := by
  have member := NameMap.mem_entries_iff_find?.mpr bound
  obtain ⟨⟨keptName, keptList⟩, inside, sameName, attr, prerequisites, declared, related, same⟩ :=
    exists_right_of_forall₂ resolved.dependencies member
  dsimp only at sameName same declared related
  rw [(resolver?_eq_some resolved.ready).1] at declared
  refine ⟨attr, prerequisites, declared, related, ?_⟩
  rw [sameName] at inside
  show ((NameMap.ofList kept).find? name).getD [] = _
  rw [(NameMap.find?_ofList_eq_some_iff resolved.nodup_names).mpr inside, Option.getD_some, same]

/-- A name outside of the label map has no dependencies in the context. -/
theorem dependencies_of_unbound (resolved : Resolved request resolver kept found) {name : String}
    (unbound : request.labels.find? name = none) :
    (ofResolved request resolver kept found).dependencies.of name = [] := by
  show ((NameMap.ofList kept).find? name).getD [] = []
  cases bound : (NameMap.ofList kept).find? name with
  | none => rfl
  | some prerequisites =>
    have member := (NameMap.find?_ofList_eq_some_iff resolved.nodup_names).mp bound
    obtain ⟨⟨entryName, labels⟩, inside, sameName, -⟩ :=
      exists_left_of_forall₂ resolved.dependencies member
    dsimp only at sameName
    rw [← sameName] at inside
    rw [NameMap.mem_entries_iff_find?.mp inside] at unbound
    cases unbound

/-- Every dependency of an attribute is what one of its labels resolves to. -/
theorem exists_resolves_of_mem (resolved : Resolved request resolver kept found) {name : String}
    {prerequisite : Prerequisite}
    (member : prerequisite ∈ (ofResolved request resolver kept found).dependencies.of name) :
    ∃ attr label, request.rule.ruleClass.attribute? name = some attr ∧
      resolver.Resolves attr label prerequisite := by
  cases bound : request.labels.find? name with
  | none =>
    rw [resolved.dependencies_of_unbound bound] at member
    cases member
  | some labels =>
    obtain ⟨attr, prerequisites, declared, related, same⟩ := resolved.dependencies_of_bound bound
    rw [same] at member
    obtain ⟨label, -, resolves⟩ := exists_left_of_forall₂ related (List.mem_of_mem_filter member)
    exact ⟨attr, label, declared, resolves⟩

/-- A prerequisite of an entry of the dependency map is what a label of the entry resolves to, and
it is not dropped. -/
theorem exists_label_of_mem (resolved : Resolved request resolver kept found) {name : String}
    {list : List Prerequisite} (inside : (name, list) ∈ kept) {prerequisite : Prerequisite}
    (member : prerequisite ∈ list) :
    ∃ attr labels label, request.rule.ruleClass.attribute? name = some attr ∧
      request.labels.find? name = some labels ∧ label ∈ labels ∧
        resolver.Resolves attr label prerequisite ∧ attr.drops prerequisite.target = false := by
  obtain ⟨⟨entryName, labels⟩, entry, rfl, attr, prerequisites, known, related, rfl⟩ :=
    exists_left_of_forall₂ resolved.dependencies inside
  dsimp only at known related
  rw [(resolver?_eq_some resolved.ready).1] at known
  obtain ⟨among, notDropped⟩ := List.mem_filter.mp member
  obtain ⟨label, written, resolves⟩ := exists_left_of_forall₂ related among
  exact ⟨attr, labels, label, known, NameMap.mem_entries_iff_find?.mp entry, written, resolves,
    by simpa using notDropped⟩

/-- A label of the label map resolves to a prerequisite that stands in the dependency map, unless it
is dropped. -/
theorem exists_mem_of_label (resolved : Resolved request resolver kept found) {name : String}
    {attr : Attribute} {labels : List Label} {label : Label}
    (known : request.rule.ruleClass.attribute? name = some attr)
    (bound : request.labels.find? name = some labels) (written : label ∈ labels) :
    ∃ list prerequisite, (name, list) ∈ kept ∧ resolver.Resolves attr label prerequisite ∧
      (attr.drops prerequisite.target = false → prerequisite ∈ list) := by
  have entry : (name, labels) ∈ request.labels.entries := NameMap.mem_entries_iff_find?.mpr bound
  obtain ⟨⟨keptName, list⟩, inside, sameName, other, prerequisites, named, related, same⟩ :=
    exists_right_of_forall₂ resolved.dependencies entry
  dsimp only at sameName same named related
  rw [(resolver?_eq_some resolved.ready).1, known] at named
  cases named
  subst sameName same
  obtain ⟨prerequisite, among, resolves⟩ := exists_right_of_forall₂ related written
  refine ⟨_, prerequisite, inside, resolves, ?_⟩
  intro notDropped
  exact List.mem_filter.mpr ⟨among, by simpa using notDropped⟩

end Resolved

/-! ## Other targets and analyses -/

section OtherTargets

variable {request : ContextRequest} {resolver : Resolver} {targets : TargetLookup}
  {prerequisites : PrerequisiteMap}

/-- With other targets and analyses a request that is ready has the resolver with these. -/
theorem resolver?_with (ready : request.resolver? = some resolver) (targets : TargetLookup)
    (prerequisites : PrerequisiteMap) :
    { request with targets, prerequisites := some prerequisites }.resolver? =
      some { resolver with targets, prerequisites } := by
  obtain ⟨sameRule, sameConfiguration, -, given, -⟩ := resolver?_eq_some ready
  unfold ContextRequest.resolver?
  dsimp only
  rw [given, ← sameRule, ← sameConfiguration]

/-- What the labels of a request resolve to is the same where every label that it names and that
resolved still resolves to the same prerequisite. -/
theorem Resolved.of_more {kept : List (String × List Prerequisite)}
    {found : List (Attribute × List EntrySources)}
    (resolved : Resolved request resolver kept found)
    (more : ∀ attr label prerequisite, request.Names label →
      resolver.Resolves attr label prerequisite →
        { resolver with targets, prerequisites }.Resolves attr label prerequisite) :
    Resolved { request with targets, prerequisites := some prerequisites }
      { resolver with targets, prerequisites } kept found := by
  refine ⟨resolver?_with resolved.ready targets prerequisites,
    forall₂_imp_of_mem resolved.dependencies ?_, forall₂_imp_of_mem resolved.filesets ?_⟩
  · rintro ⟨name, labels⟩ bound result ⟨sameName, attr, list, declared, related, same⟩
    refine ⟨sameName, attr, list, declared, forall₂_imp_of_mem related ?_, same⟩
    intro label written prerequisite
    exact more attr label prerequisite
      (.inl ⟨name, labels, NameMap.mem_entries_iff_find?.mp bound, written⟩)
  · rintro attr among found ⟨sameAttr, entries⟩
    refine ⟨sameAttr, forall₂_imp_of_mem entries ?_⟩
    rintro entry listed sources ⟨sameEntry, related⟩
    refine ⟨sameEntry, forall₂_imp_of_mem related ?_⟩
    intro label named prerequisite
    rw [(resolver?_eq_some resolved.ready).1] at listed
    exact more attr label prerequisite (.inr ⟨attr, among, entry, listed, named⟩)

/-- A context that was built is built all the same where every label that its request names and that
resolved still resolves to the same prerequisite. -/
theorem build_of_more (ready : request.resolver? = some resolver)
    (more : ∀ attr label prerequisite, request.Names label →
      resolver.Resolves attr label prerequisite →
        { resolver with targets, prerequisites }.Resolves attr label prerequisite)
    {context : RuleContext} {record after : Record}
    (built : (build request).start record = (.ok context, after)) :
    (build { request with targets, prerequisites := some prerequisites }).start record =
      (.ok context, after) := by
  obtain ⟨other, kept, found, resolved, rfl, rfl⟩ := exists_resolved_of_build built
  cases ready.symm.trans resolved.ready
  exact build_of_resolved (resolved.of_more more) record

end OtherTargets

end RuleContext

end BuildRules

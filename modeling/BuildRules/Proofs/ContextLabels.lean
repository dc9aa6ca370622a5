import BuildRules.Proofs.ContextConfigurations
import BuildRules.Proofs.Declarations

/-!
# The labels of a dependency map

The dependency map of a context shows the labels that its rule was written with: for
every dependency attribute the labels of the value that was set, or else of the default,
in order and as often as they are written, without those that the silent filter of the
attribute drops. The dropped labels leave no trace. A label map from which they were
removed before gives the same dependencies and the same record, whether an attribute of
which no label is left stays in the map or not.
-/

set_option autoImplicit false

namespace BuildRules

/-- The labels that are written for an attribute: those of the value that was set, or else those of
the default. -/
def Rule.writtenLabels (rule : Rule) (attr : Attribute) : List Label :=
  match rule.values.find? attr.name, attr.defaultValue with
  | some value, _ => value.dependencyLabels
  | none, some value => value.dependencyLabels
  | none, none => []

/-- Is the loaded target of a label a rule of a class that the attribute admits? -/
def Attribute.admitsRule (attr : Attribute) (targets : TargetLookup) (label : Label) : Bool :=
  match targets label with
  | .ok (.rule dependency) => attr.allowedClasses.contains dependency.ruleClass.name
  | _ => false

/-- Only a silent filter drops labels, and it keeps the rules that the attribute admits. -/
def Attribute.keepsLabel (attr : Attribute) (targets : TargetLookup) (label : Label) : Bool :=
  !attr.silentClassFilter || attr.admitsRule targets label

/-- The labels of a declared dependency attribute are those that are written for it. -/
theorem Rule.dependencyLabels_eq_writtenLabels {rule : Rule} {attr : Attribute}
    (declared : attr ∈ rule.ruleClass.attributes) (dependency : attr.type.isDependency = true) :
    rule.dependencyLabels attr = rule.writtenLabels attr := by
  have found : rule.ruleClass.attribute? attr.name = some attr :=
    RuleClass.attribute?_eq_some_iff.mpr ⟨declared, rfl⟩
  unfold dependencyLabels writtenLabels value?
  rw [if_pos dependency, found]
  cases rule.values.find? attr.name with
  | some value => rfl
  | none =>
    rw [Option.none_or, Option.bind_some]
    cases attr.defaultValue <;> rfl

/-- Related lists stay related when filters that agree on related items take items out. -/
theorem forall₂_filter {α β : Type} {relation : α → β → Prop} {keepSource : α → Bool}
    {keepResult : β → Bool} {sources : List α} {results : List β}
    (related : List.Forall₂ relation sources results)
    (agree : ∀ source result, relation source result → keepSource source = keepResult result) :
    List.Forall₂ relation (sources.filter keepSource) (results.filter keepResult) := by
  induction related with
  | nil => exact .nil
  | @cons source result _ _ head _ ih =>
    rw [List.filter_cons, List.filter_cons, agree source result head]
    cases keepResult result with
    | true => exact .cons head ih
    | false => exact ih

/-- If each item has a result, a list of them has a list of results. -/
theorem exists_forall₂ {α β : Type} {relation : α → β → Prop} {sources : List α}
    (each : ∀ source ∈ sources, ∃ result, relation source result) :
    ∃ results, List.Forall₂ relation sources results := by
  induction sources with
  | nil => exact ⟨[], .nil⟩
  | cons first rest ih =>
    obtain ⟨result, head⟩ := each first List.mem_cons_self
    obtain ⟨results, tail⟩ := ih fun source member => each source (List.mem_cons_of_mem _ member)
    exact ⟨result :: results, .cons head tail⟩

namespace Resolver

variable {resolver : Resolver} {attr : Attribute}

/-- A label is kept exactly if its attribute does not drop the target. -/
theorem Resolves.keepsLabel_eq {label : Label} {prerequisite : Prerequisite}
    (resolved : resolver.Resolves attr label prerequisite) :
    attr.keepsLabel resolver.targets label = !attr.drops prerequisite.target := by
  obtain ⟨loaded, -⟩ := resolves_iff.mp resolved
  unfold Attribute.keepsLabel Attribute.admitsRule Attribute.drops
  rw [loaded]
  cases attr.silentClassFilter with
  | false => rfl
  | true => cases prerequisite.target <;> simp [Target.rule?]

/-- The labels that are kept resolve to the prerequisites that are kept. -/
theorem forall₂_resolves_kept {labels : List Label} {prerequisites : List Prerequisite}
    (related : List.Forall₂ (resolver.Resolves attr) labels prerequisites) :
    List.Forall₂ (resolver.Resolves attr) (labels.filter (attr.keepsLabel resolver.targets))
      (attr.kept prerequisites) :=
  forall₂_filter related fun _ _ resolved => resolved.keepsLabel_eq

/-- The prerequisites that are kept have the labels that are kept, in their order. -/
theorem map_label_kept {labels : List Label} {prerequisites : List Prerequisite}
    (related : List.Forall₂ (resolver.Resolves attr) labels prerequisites) :
    (attr.kept prerequisites).map Prerequisite.label =
      labels.filter (attr.keepsLabel resolver.targets) := by
  have keptRelated := forall₂_resolves_kept related
  generalize labels.filter _ = keptLabels at keptRelated
  generalize attr.kept prerequisites = keptPrerequisites at keptRelated
  induction keptRelated with
  | nil => rfl
  | cons head _ ih => rw [List.map_cons, head.label_eq, ih]

/-- Nothing more is dropped from what was kept. -/
theorem kept_kept (attr : Attribute) (prerequisites : List Prerequisite) :
    attr.kept (attr.kept prerequisites) = attr.kept prerequisites := by
  unfold Attribute.kept
  simp only [List.filter_filter, Bool.and_self]

/-- What is reported about a dependency map depends on what it answers, not on the attributes that
it lists without dependencies. -/
theorem entryDiagnostics_congr (policy : Policy) {first second : List (String × List Prerequisite)}
    (ascendingFirst : first.Pairwise fun a b => a.1 < b.1)
    (ascendingSecond : second.Pairwise fun a b => a.1 < b.1)
    (same : ∀ name prerequisites, prerequisites ≠ [] →
      ((name, prerequisites) ∈ first ↔ (name, prerequisites) ∈ second)) :
    resolver.entryDiagnostics policy first = resolver.entryDiagnostics policy second := by
  have skip : ∀ kept : List (String × List Prerequisite),
      resolver.entryDiagnostics policy kept =
        resolver.entryDiagnostics policy (kept.filter fun entry => !entry.2.isEmpty) := by
    intro kept
    induction kept with
    | nil => rfl
    | cons entry rest ih =>
      obtain ⟨name, prerequisites⟩ := entry
      unfold entryDiagnostics at ih ⊢
      rw [List.flatMap_cons, ih]
      cases prerequisites with
      | nil =>
        rw [List.filter_cons_of_neg (by simp)]
        cases resolver.rule.ruleClass.attribute? name <;> rfl
      | cons prerequisite others => rw [List.filter_cons_of_pos (by simp), List.flatMap_cons]
  -- Without the entries that hold nothing the two maps are the same list.
  rw [skip first, skip second]
  congr 1
  apply NameMap.eq_of_mem_iff (ascendingFirst.filter _) (ascendingSecond.filter _)
  rintro ⟨name, prerequisites⟩
  rw [List.mem_filter, List.mem_filter]
  cases prerequisites with
  | nil => simp
  | cons prerequisite others => simpa using same name (prerequisite :: others) (by simp)

end Resolver

namespace RuleContext

variable {request : ContextRequest} {resolver : Resolver}
  {kept : List (String × List Prerequisite)} {found : List (Attribute × List EntrySources)}

/-- The attributes of what is resolved stand in the order of their names. -/
theorem Resolved.ascending (resolved : Resolved request resolver kept found) :
    kept.Pairwise fun a b => a.1 < b.1 := by
  have ordered := request.labels.ascending
  rw [← List.pairwise_map (f := Prod.fst)] at ordered ⊢
  rw [resolved.names_eq]
  exact ordered

/-- What the dependency map binds is what it answers, where that is not empty. -/
theorem Resolved.mem_iff_dependencies_of (resolved : Resolved request resolver kept found)
    {name : String} {prerequisites : List Prerequisite} (nonempty : prerequisites ≠ []) :
    (name, prerequisites) ∈ kept ↔
      (ofResolved request resolver kept found).dependencies.of name = prerequisites := by
  rw [← NameMap.find?_ofList_eq_some_iff resolved.nodup_names]
  show _ ↔ ((NameMap.ofList kept).find? name).getD [] = prerequisites
  cases (NameMap.ofList kept).find? name with
  | none => simpa using nonempty.symm
  | some bound => simp

/-- A label map is another one without the labels that the silent filters drop; an attribute of
which no label is left may have been left out. -/
structure Thins (request : ContextRequest) (thinned : LabelMap) : Prop where
  names : ∀ name, thinned.contains name = true → request.labels.contains name = true
  labels : ∀ name attr, request.rule.ruleClass.attribute? name = some attr →
    (thinned.find? name).getD [] =
      ((request.labels.find? name).getD []).filter (attr.keepsLabel request.targets)

/-- A label map without dropped labels resolves to what is kept of the whole one. -/
theorem Resolved.of_thins (resolved : Resolved request resolver kept found) {thinned : LabelMap}
    (thins : Thins request thinned) :
    ∃ keptThinned, Resolved { request with labelMap := some thinned } resolver keptThinned found ∧
      ∀ name, (ofResolved { request with labelMap := some thinned } resolver keptThinned
          found).dependencies.of name =
        (ofResolved request resolver kept found).dependencies.of name := by
  obtain ⟨sameRule, -, sameTargets, -⟩ := resolver?_eq_some resolved.ready
  -- Every entry of the thinned map stands for an entry of the whole one.
  have whole : ∀ name labels, thinned.find? name = some labels →
      ∃ attr prerequisites, request.rule.ruleClass.attribute? name = some attr ∧
        List.Forall₂ (resolver.Resolves attr) labels (attr.kept prerequisites) ∧
          (ofResolved request resolver kept found).dependencies.of name =
            attr.kept prerequisites := by
    intro name labels bound
    have listed := thins.names name (by unfold NameMap.contains; rw [bound]; rfl)
    obtain ⟨wholeLabels, wholeBound⟩ := Option.isSome_iff_exists.mp listed
    obtain ⟨attr, prerequisites, declared, related, same⟩ :=
      resolved.dependencies_of_bound wholeBound
    have left := thins.labels name attr declared
    rw [bound, wholeBound, Option.getD_some, Option.getD_some, ← sameTargets] at left
    exact ⟨attr, prerequisites, declared, left ▸ Resolver.forall₂_resolves_kept related, same⟩
  have each : ∀ entry ∈ thinned.entries, ∃ result, resolver.ResolvesEntry entry result := by
    rintro ⟨name, labels⟩ member
    obtain ⟨attr, prerequisites, declared, related, -⟩ :=
      whole name labels (NameMap.mem_entries_iff_find?.mp member)
    rw [← sameRule] at declared
    exact ⟨(name, attr.kept (attr.kept prerequisites)), rfl, attr, attr.kept prerequisites,
      declared, related, rfl⟩
  obtain ⟨keptThinned, related⟩ := exists_forall₂ each
  have thinnedResolved :
      Resolved { request with labelMap := some thinned } resolver keptThinned found :=
    ⟨resolved.ready, related, resolved.filesets⟩
  refine ⟨keptThinned, thinnedResolved, ?_⟩
  intro name
  cases bound : thinned.find? name with
  | some labels =>
    obtain ⟨attr, prerequisites, declared, wholeRelated, same⟩ := whole name labels bound
    obtain ⟨other, others, declaredOther, otherRelated, sameThinned⟩ :=
      thinnedResolved.dependencies_of_bound bound
    have sameAttr : attr = other := Option.some.inj (declared.symm.trans declaredOther)
    subst sameAttr
    have sameOthers : others = attr.kept prerequisites :=
      List.right_unique_forall₂' (resolver.rightUnique_resolves attr) otherRelated wholeRelated
    rw [sameThinned, same, sameOthers, Resolver.kept_kept]
  | none =>
    rw [thinnedResolved.dependencies_of_unbound bound]
    cases wholeBound : request.labels.find? name with
    | none => rw [resolved.dependencies_of_unbound wholeBound]
    | some labels =>
      obtain ⟨attr, prerequisites, declared, related, same⟩ :=
        resolved.dependencies_of_bound wholeBound
      have left := thins.labels name attr declared
      rw [bound, wholeBound, Option.getD_none, Option.getD_some, ← sameTargets] at left
      have nothing := Resolver.forall₂_resolves_kept related
      rw [← left, List.forall₂_nil_left_iff] at nothing
      rw [same, nothing]

/-- The label map of a request without the labels that the silent filters drop. -/
def thinnedLabels (request : ContextRequest) : LabelMap :=
  request.labels.mapValues fun name labels =>
    (request.rule.ruleClass.attribute? name).elim labels fun attr =>
      labels.filter (attr.keepsLabel request.targets)

/-- The label map without the labels that are dropped is a thinned one. -/
theorem thins_thinnedLabels (request : ContextRequest) :
    Thins request (thinnedLabels request) where
  names := by
    intro name listed
    unfold NameMap.contains thinnedLabels at listed
    rw [NameMap.find?_mapValues, Option.isSome_map] at listed
    exact listed
  labels := by
    intro name attr declared
    unfold thinnedLabels
    rw [NameMap.find?_mapValues, declared]
    cases request.labels.find? name <;> rfl

/-- The dependencies of a context that was built from the label map of its rule show the written
labels without the dropped ones, and attributes that are no dependencies have none. Without the
dropped labels in the label map the same is built, with the same reports. -/
theorem dependencies_mirror_written_labels (request : ContextRequest)
    (default : request.labelMap = none) {context : RuleContext} {record after : Record}
    (built : (build request).start record = (.ok context, after)) :
    (∀ attr ∈ request.rule.ruleClass.attributes,
      attr.type = .label ∨ attr.type = .labelList →
        (context.dependencies.of attr.name).map Prerequisite.label =
          (request.rule.writtenLabels attr).filter (attr.keepsLabel request.targets)) ∧
    (∀ name, (∀ attr ∈ request.rule.ruleClass.attributes, attr.name = name →
        attr.type ≠ .label ∧ attr.type ≠ .labelList) →
      context.dependencies.of name = []) ∧
    (∃ thinned, Thins request thinned) ∧
    ∀ thinned, Thins request thinned →
      ∃ other, (build { request with labelMap := some thinned }).start record =
          (.ok other, after) ∧
        ∀ name, other.dependencies.of name = context.dependencies.of name := by
  obtain ⟨resolver, kept, found, resolved, rfl, rfl⟩ := exists_resolved_of_build built
  obtain ⟨sameRule, -, sameTargets, -⟩ := resolver?_eq_some resolved.ready
  have ownLabels : request.labels = request.rule.labelMap := by
    unfold ContextRequest.labels
    rw [default, Option.getD_none]
  refine ⟨?_, ?_, ⟨_, thins_thinnedLabels request⟩, ?_⟩
  · intro attr declared dependencyType
    have dependency : attr.type.isDependency = true := by
      simpa [AttributeType.isDependency] using dependencyType
    have written := request.rule.getD_find?_labelMap declared
    rw [Rule.dependencyLabels_eq_writtenLabels declared dependency, ← ownLabels] at written
    rw [← written]
    cases bound : request.labels.find? attr.name with
    | none =>
      rw [resolved.dependencies_of_unbound bound]
      rfl
    | some labels =>
      obtain ⟨other, prerequisites, declaredOther, related, same⟩ :=
        resolved.dependencies_of_bound bound
      have sameAttr : attr = other := Option.some.inj
        ((RuleClass.attribute?_eq_some_iff.mpr ⟨declared, rfl⟩).symm.trans declaredOther)
      rw [same, ← sameAttr, Option.getD_some, ← sameTargets]
      exact Resolver.map_label_kept (sameAttr ▸ related)
  · intro name noDependency
    apply resolved.dependencies_of_unbound
    by_contra bound
    obtain ⟨labels, bound⟩ := Option.ne_none_iff_exists'.mp bound
    rw [ownLabels] at bound
    obtain ⟨attr, declared, dependency, -⟩ := Rule.exists_attribute_of_find?_labelMap bound
    obtain ⟨member, sameName⟩ := RuleClass.attribute?_eq_some_iff.mp declared
    have excluded := noDependency attr member sameName
    simp [AttributeType.isDependency, excluded] at dependency
  · intro thinned thins
    obtain ⟨keptThinned, thinnedResolved, sameDependencies⟩ := resolved.of_thins thins
    refine ⟨_, ?_, sameDependencies⟩
    have sameReports : resolver.entryDiagnostics request.policy keptThinned =
        resolver.entryDiagnostics request.policy kept := by
      refine Resolver.entryDiagnostics_congr request.policy thinnedResolved.ascending
        resolved.ascending ?_
      intro name prerequisites nonempty
      rw [thinnedResolved.mem_iff_dependencies_of nonempty,
        resolved.mem_iff_dependencies_of nonempty, sameDependencies]
    rw [build_of_resolved thinnedResolved record]
    unfold reportsOf
    rw [sameReports]

/-- The source among the libraries of the library is dropped, and nothing changes when it was not
in the label map at all. -/
theorem dependencies_mirror_written_labels_library :
    ∃ context after, (build Sample.request).start {} = (.ok context, after) ∧
      (context.dependencies.of "deps").map Prerequisite.label =
        [Sample.generator, Sample.generator] ∧
      context.dependencies.of "name" = [] ∧
      ∃ other, (build { Sample.request with
          labelMap := some (thinnedLabels Sample.request) }).start {} = (.ok other, after) ∧
        ∀ name, other.dependencies.of name = context.dependencies.of name := by
  have mirrored := dependencies_mirror_written_labels Sample.request rfl
    (show (build Sample.request).start {} = (.ok _, _) from rfl)
  obtain ⟨shown, others, -, thinnedBuilt⟩ := mirrored
  refine ⟨_, _, rfl, ?_, ?_, thinnedBuilt _ (thins_thinnedLabels Sample.request)⟩
  · exact shown Sample.libraryDeps (by simp [Sample.request, Sample.library, Sample.libraryClass])
      (.inr rfl)
  · apply others "name"
    intro attr member sameName
    simp only [Sample.request, Sample.library, Sample.libraryClass, List.mem_cons,
      List.not_mem_nil, or_false] at member
    rcases member with rfl | rfl | rfl
    · exact absurd sameName (by decide)
    · exact absurd sameName (by decide)
    · exact absurd sameName (by decide)

end RuleContext

end BuildRules

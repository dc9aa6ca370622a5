import BuildRules.Proofs.Outcomes
import BuildRules.Proofs.Resolution
import BuildRules.Workspace.Loading
import Mathlib.Data.List.Nodup

/-!
# What a loaded workspace holds

A manifest is loaded target by target: a rule declares the files it generates and then
itself, a source file declares itself. `LoadedFrom` says what a workspace holds in terms
of the list of all that was declared. The targets and the rules are those of the list in
its order, the labels in it are distinct, and the prerequisites are the analyses of its
members in every configuration. Labels and configurations are never used twice, so none
of these analyses replaces another one.
-/

set_option autoImplicit false

namespace BuildRules

/-- A target as it was declared: a rule with its capabilities, a source file, or a generated file
with the rule that generates it. -/
inductive DeclaredTarget where
  | rule (rule : Rule) (provides : Manifest.Capabilities)
  | inputFile (file : InputFile)
  | outputFile (file : OutputFile) (generator : Rule)

namespace DeclaredTarget

def target : DeclaredTarget → Target
  | .rule declared _ => .rule declared
  | .inputFile file => .inputFile file
  | .outputFile file _ => .outputFile file

def label (declared : DeclaredTarget) : Label := declared.target.label

def rule? (declared : DeclaredTarget) : Option Rule := declared.target.rule?

/-- What the analysis of a declared target provides in a configuration. -/
def analysis : DeclaredTarget → Configuration → ConfiguredTarget
  | .rule declared provides, configuration => declared.analysis provides configuration
  | .inputFile file, _ => file.analysis
  | .outputFile file generator, configuration => generator.outputAnalysis file.label configuration

/-- The analyses that are noted for a declared target. -/
def analyses (configurations : List Configuration) (declared : DeclaredTarget) :
    List ConfiguredTarget :=
  match declared with
  | .inputFile file => [file.analysis]
  | other => configurations.map other.analysis

/-- The analysis of a target is that of its label, and a source file is analyzed in no
configuration. -/
theorem isFor_analysis (declared : DeclaredTarget) (configuration : Configuration) :
    (declared.analysis configuration).label = declared.label ∧
      (declared.analysis configuration).configuration =
        if declared.target.isInputFile then none else some configuration := by
  cases declared <;> exact ⟨rfl, rfl⟩

/-- The analysis in a configuration of the workspace is among those that are noted. -/
theorem analysis_mem_analyses (declared : DeclaredTarget) {configurations : List Configuration}
    {configuration : Configuration} (member : configuration ∈ configurations) :
    declared.analysis configuration ∈ declared.analyses configurations := by
  cases declared with
  | inputFile file => exact List.mem_singleton_self _
  | rule => exact List.mem_map_of_mem member
  | outputFile => exact List.mem_map_of_mem member

/-- All analyses that are noted for a target have its label. -/
theorem label_of_mem_analyses {declared : DeclaredTarget} {configurations : List Configuration}
    {analysis : ConfiguredTarget} (member : analysis ∈ declared.analyses configurations) :
    analysis.label = declared.label := by
  cases declared with
  | inputFile file =>
    rw [List.mem_singleton.mp member]
    rfl
  | rule =>
    obtain ⟨configuration, -, rfl⟩ := List.mem_map.mp member
    rfl
  | outputFile =>
    obtain ⟨configuration, -, rfl⟩ := List.mem_map.mp member
    rfl

/-- A declared target has one analysis for a configuration. -/
theorem eq_of_mem_analyses {declared : DeclaredTarget} {configurations : List Configuration}
    {first second : ConfiguredTarget} (memberFirst : first ∈ declared.analyses configurations)
    (memberSecond : second ∈ declared.analyses configurations)
    (same : first.configuration = second.configuration) : first = second := by
  cases declared with
  | inputFile file => rw [List.mem_singleton.mp memberFirst, List.mem_singleton.mp memberSecond]
  | rule =>
    obtain ⟨configuration, -, rfl⟩ := List.mem_map.mp memberFirst
    obtain ⟨other, -, rfl⟩ := List.mem_map.mp memberSecond
    cases same
    rfl
  | outputFile =>
    obtain ⟨configuration, -, rfl⟩ := List.mem_map.mp memberFirst
    obtain ⟨other, -, rfl⟩ := List.mem_map.mp memberSecond
    cases same
    rfl

end DeclaredTarget

/-- What one target of a manifest declares. -/
def Manifest.WrittenTarget.declare (classes : RuleClasses) :
    WrittenTarget → Except LoadError (List DeclaredTarget)
  | .inputFile written => do
    let file ← written.load
    return [.inputFile file]
  | .rule written => do
    let rule ← written.load classes
    return rule.outputFiles.map (.outputFile · rule) ++ [.rule rule written.provides]

/-! ## Loading one declared target after the other -/

namespace LoadedTargets

def labels (loaded : LoadedTargets) : List Label := loaded.targets.map Target.label

/-- What is loaded after one more declared target. -/
def plus (configurations : List Configuration) (loaded : LoadedTargets)
    (declared : DeclaredTarget) : LoadedTargets where
  targets := declared.target :: loaded.targets
  rules := declared.rule?.toList ++ loaded.rules
  prerequisites := (declared.analyses configurations).foldl .insert loaded.prerequisites

/-- Noting analyses inserts them one by one and changes nothing else. -/
theorem noteAll_eq (loaded : LoadedTargets) (analyses : List ConfiguredTarget) :
    loaded.noteAll analyses =
      { loaded with prerequisites := analyses.foldl .insert loaded.prerequisites } := by
  induction analyses generalizing loaded with
  | nil => rfl
  | cons first rest ih =>
    show (loaded.note first).noteAll rest = _
    rw [ih]
    rfl

/-- A target that is added has a new label and is put before the others. -/
theorem add_eq_ok {loaded after : LoadedTargets} {target : Target}
    (added : loaded.add target = .ok after) :
    target.label ∉ loaded.labels ∧ after = { loaded with targets := target :: loaded.targets } := by
  unfold add at added
  split at added
  · cases added
  · rename_i absent
    cases added
    refine ⟨?_, rfl⟩
    intro member
    obtain ⟨other, inside, same⟩ := List.mem_map.mp member
    apply absent
    unfold find?
    rw [List.find?_isSome]
    exact ⟨other, inside, by simpa using same⟩

/-- A declared target with a new label keeps the labels apart. -/
theorem nodup_labels_plus {loaded : LoadedTargets} (configurations : List Configuration)
    (declared : DeclaredTarget) (distinct : loaded.labels.Nodup)
    (fresh : declared.label ∉ loaded.labels) :
    (loaded.plus configurations declared).labels.Nodup :=
  List.nodup_cons.mpr ⟨fresh, distinct⟩

/-- Outputs that are added are put in one after the other, and the labels stay apart. -/
theorem addOutputs_eq_ok {configurations : List Configuration} {rule : Rule}
    {files : List OutputFile} {loaded after : LoadedTargets}
    (added : addOutputs configurations rule loaded files = .ok after)
    (distinct : loaded.labels.Nodup) :
    after = (files.map (DeclaredTarget.outputFile · rule)).foldl (plus configurations) loaded ∧
      after.labels.Nodup := by
  induction files generalizing loaded with
  | nil =>
    cases added
    exact ⟨rfl, distinct⟩
  | cons file rest ih =>
    unfold addOutputs at added
    obtain ⟨next, first, others⟩ := bind_eq_ok_iff.mp added
    rw [noteAll_eq] at first
    -- The file is new among the labels so far, so these stay distinct for the rest.
    obtain ⟨fresh, rfl⟩ := add_eq_ok first
    exact ih others (nodup_labels_plus configurations (.outputFile file rule) distinct fresh)

/-- To load one target of a manifest is to load what it declares. -/
theorem addWritten_eq_ok {classes : Manifest.RuleClasses} {configurations : List Configuration}
    {loaded after : LoadedTargets} {written : Manifest.WrittenTarget}
    (added : loaded.addWritten classes configurations written = .ok after)
    (distinct : loaded.labels.Nodup) :
    ∃ declared, written.declare classes = .ok declared ∧
      after = declared.foldl (plus configurations) loaded ∧ after.labels.Nodup := by
  cases written with
  | inputFile written =>
    unfold addWritten at added
    obtain ⟨file, read, rest⟩ := bind_eq_ok_iff.mp added
    obtain ⟨fresh, rfl⟩ := add_eq_ok rest
    refine ⟨[.inputFile file], ?_, rfl, ?_⟩
    · simp only [Manifest.WrittenTarget.declare, read]
      rfl
    · exact nodup_labels_plus configurations (.inputFile file) distinct fresh
  | rule written =>
    unfold addWritten at added
    obtain ⟨rule, read, rest⟩ := bind_eq_ok_iff.mp added
    obtain ⟨middle, outputs, last⟩ := bind_eq_ok_iff.mp rest
    obtain ⟨final, itself, ended⟩ := bind_eq_ok_iff.mp last
    cases ended
    obtain ⟨rfl, distinctOutputs⟩ := addOutputs_eq_ok outputs distinct
    rw [noteAll_eq] at itself
    obtain ⟨fresh, rfl⟩ := add_eq_ok itself
    refine ⟨rule.outputFiles.map (.outputFile · rule) ++ [.rule rule written.provides], ?_, ?_, ?_⟩
    · simp only [Manifest.WrittenTarget.declare, read]
      rfl
    · rw [List.foldl_append]
      rfl
    · exact nodup_labels_plus configurations (.rule rule written.provides) distinctOutputs
        fresh

/-- To load a manifest is to load what its targets declare in order. -/
theorem addAll_eq_ok {classes : Manifest.RuleClasses} {configurations : List Configuration}
    {loaded after : LoadedTargets} {written : List Manifest.WrittenTarget}
    (added : addAll classes configurations loaded written = .ok after)
    (distinct : loaded.labels.Nodup) :
    ∃ declared, List.Forall₂ (fun target list => target.declare classes = .ok list) written
        declared ∧
      after = declared.flatten.foldl (plus configurations) loaded ∧ after.labels.Nodup := by
  induction written generalizing loaded with
  | nil =>
    cases added
    exact ⟨[], .nil, rfl, distinct⟩
  | cons first rest ih =>
    unfold addAll at added
    obtain ⟨next, head, tail⟩ := bind_eq_ok_iff.mp added
    obtain ⟨list, declared, rfl, distinctNext⟩ := addWritten_eq_ok head distinct
    obtain ⟨lists, others, same, distinctAfter⟩ := ih tail distinctNext
    refine ⟨list :: lists, .cons declared others, ?_, distinctAfter⟩
    rw [same, List.flatten_cons, List.foldl_append]

/-- What is loaded after a list of declared targets, the latest first. -/
theorem foldl_plus (configurations : List Configuration) (declared : List DeclaredTarget)
    (loaded : LoadedTargets) :
    declared.foldl (plus configurations) loaded =
      { targets := (declared.map DeclaredTarget.target).reverse ++ loaded.targets
        rules := (declared.filterMap DeclaredTarget.rule?).reverse ++ loaded.rules
        prerequisites := (declared.flatMap (·.analyses configurations)).foldl .insert
          loaded.prerequisites } := by
  induction declared generalizing loaded with
  | nil => rfl
  | cons first rest ih =>
    rw [List.foldl_cons, ih]
    unfold plus
    cases found : first.rule? <;> simp [found]

end LoadedTargets

/-! ## Loaded workspaces -/

namespace Manifest.Configurations

/-- The configurations of a workspace are the target one, the host one and, if there is one, that of
data. -/
theorem mem_all_iff {configurations : Configurations} {configuration : Configuration} :
    configuration ∈ configurations.all ↔ configuration = configurations.target ∨
      configuration = configurations.host ∨ configurations.data = some configuration := by
  unfold all
  dsimp only
  cases configurations.data with
  | none => simp
  | some data =>
    dsimp only
    split
    · rename_i among
      constructor
      · intro member
        rcases List.mem_pair.mp member with same | same
        · exact .inl same
        · exact .inr (.inl same)
      · rintro (rfl | rfl | same)
        · exact List.mem_cons_self
        · exact List.mem_cons_of_mem _ List.mem_cons_self
        · exact Option.some.inj same ▸ among
    · rw [List.mem_append, List.mem_pair, List.mem_singleton, or_assoc, Option.some.injEq,
        eq_comm (a := data)]

/-- Every configuration to which the standard transitions lead from the target configuration is one
of those in which targets are analyzed. -/
theorem next_mem_all (configurations : Configurations) (transition : Transition) :
    configurations.transitions.next configurations.target transition ∈ configurations.all := by
  rw [mem_all_iff]
  unfold StandardTransitions.next transitions
  split
  · exact .inl rfl
  · cases transition with
    | none => exact .inl rfl
    | host => exact .inr (.inl rfl)
    | data =>
      dsimp only
      cases configurations.data with
      | none => exact .inl rfl
      | some data => exact .inr (.inr rfl)

end Manifest.Configurations

namespace Workspace

/-- The workspace holds what the targets of a manifest declare. -/
structure LoadedFrom (workspace : Workspace) (manifest : Manifest)
    (declared : List DeclaredTarget) : Prop where
  written : ∃ classes lists, Manifest.buildClasses ∅ manifest.ruleClasses = .ok classes ∧
    List.Forall₂ (fun target list => target.declare classes = .ok list) manifest.targets lists ∧
      declared = lists.flatten
  targets : workspace.targets = declared.map DeclaredTarget.target
  rules : workspace.rules = declared.filterMap DeclaredTarget.rule?
  prerequisites : workspace.prerequisites =
    .ofList (declared.flatMap (·.analyses manifest.configurations.all))
  distinct : (declared.map DeclaredTarget.label).Nodup
  configuration : workspace.configuration = manifest.configurations.target
  transitions : workspace.transitions = manifest.configurations.transitions
  options : workspace.options = manifest.options

/-- A manifest that loads gives a workspace of all that its targets declare. -/
theorem exists_loadedFrom {manifest : Manifest} {workspace : Workspace}
    (loaded : load manifest = .ok workspace) :
    ∃ declared, workspace.LoadedFrom manifest declared := by
  unfold load at loaded
  obtain ⟨classes, built, rest⟩ := bind_eq_ok_iff.mp loaded
  obtain ⟨after, added, ended⟩ := bind_eq_ok_iff.mp rest
  cases ended
  obtain ⟨lists, related, rfl, distinct⟩ := LoadedTargets.addAll_eq_ok added List.nodup_nil
  rw [LoadedTargets.foldl_plus] at distinct ⊢
  refine ⟨lists.flatten, ⟨classes, lists, built, related, rfl⟩, ?_, ?_, rfl, ?_, rfl, rfl, rfl⟩
  · simp
  · simp
  · unfold LoadedTargets.labels at distinct
    rw [List.append_nil, List.map_reverse, List.nodup_reverse, List.map_map] at distinct
    exact distinct

/-- What a label is looked up as is a target of the workspace with this label. -/
theorem target_eq_ok {workspace : Workspace} {label : Label} {target : Target}
    (found : workspace.target label = .ok target) :
    target ∈ workspace.targets ∧ target.label = label := by
  unfold Workspace.target at found
  split at found
  · rename_i hit
    cases found
    exact ⟨List.mem_of_find?_eq_some hit, by simpa using List.find?_some hit⟩
  · cases found

/-- A label that no target has is not found. -/
theorem target_of_not_loaded {workspace : Workspace} {label : Label}
    (missing : ∀ target ∈ workspace.targets, target.label ≠ label) :
    workspace.target label = .error (.noSuchTarget label.display) := by
  unfold Workspace.target
  have absent : workspace.targets.find? (·.label = label) = none := by
    rw [List.find?_eq_none]
    intro target member
    simpa using missing target member
  rw [absent]

namespace LoadedFrom

variable {workspace : Workspace} {manifest : Manifest} {declared : List DeclaredTarget}

/-- The labels of declared targets tell them apart. -/
theorem eq_of_label_eq (loaded : workspace.LoadedFrom manifest declared)
    {first second : DeclaredTarget} (memberFirst : first ∈ declared)
    (memberSecond : second ∈ declared) (same : first.label = second.label) : first = second :=
  List.inj_on_of_nodup_map loaded.distinct memberFirst memberSecond same

/-- The label of a declared target is looked up as this target. -/
theorem target_of_mem (loaded : workspace.LoadedFrom manifest declared) {one : DeclaredTarget}
    (member : one ∈ declared) : workspace.target one.label = .ok one.target := by
  cases found : workspace.target one.label with
  | ok target =>
    obtain ⟨inside, same⟩ := target_eq_ok found
    rw [loaded.targets] at inside
    obtain ⟨other, memberOther, rfl⟩ := List.mem_map.mp inside
    rw [loaded.eq_of_label_eq memberOther member same]
  | error cause =>
    unfold Workspace.target at found
    split at found
    · cases found
    · rename_i absent
      rw [loaded.targets, List.find?_eq_none] at absent
      exact absurd (by simp [DeclaredTarget.label])
        (absent one.target (List.mem_map_of_mem member))

/-- What a label is looked up as is declared. -/
theorem exists_of_target (loaded : workspace.LoadedFrom manifest declared) {label : Label}
    {target : Target} (found : workspace.target label = .ok target) :
    ∃ one ∈ declared, one.label = label ∧ one.target = target := by
  obtain ⟨inside, same⟩ := target_eq_ok found
  rw [loaded.targets] at inside
  obtain ⟨one, member, rfl⟩ := List.mem_map.mp inside
  exact ⟨one, member, same, rfl⟩

/-- The map of prerequisites has the analysis of every declared target in every configuration. -/
theorem find?_prerequisites (loaded : workspace.LoadedFrom manifest declared)
    {one : DeclaredTarget} (member : one ∈ declared) {configuration : Configuration}
    (known : configuration ∈ manifest.configurations.all) :
    workspace.prerequisites.find? one.label
        (if one.target.isInputFile then none else some configuration) =
      some (one.analysis configuration) := by
  obtain ⟨sameLabel, sameConfiguration⟩ := one.isFor_analysis configuration
  rw [loaded.prerequisites, ← sameLabel, ← sameConfiguration]
  have noted := one.analysis_mem_analyses known
  refine PrerequisiteMap.find?_ofList_of_unique (List.mem_flatMap.mpr ⟨one, member, noted⟩) ?_
  intro analysis inside equalLabel equalConfiguration
  -- Another analysis under this label belongs to the same target, which has one a configuration.
  obtain ⟨other, memberOther, notedOther⟩ := List.mem_flatMap.mp inside
  have same : other = one := by
    apply loaded.eq_of_label_eq memberOther member
    rw [← DeclaredTarget.label_of_mem_analyses notedOther, equalLabel, sameLabel]
  rw [same] at notedOther
  exact DeclaredTarget.eq_of_mem_analyses notedOther noted equalConfiguration

end LoadedFrom

/-- The resolver of the labels of a rule of the workspace. -/
def resolver (workspace : Workspace) (rule : Rule) : Resolver :=
  ⟨rule, workspace.configuration, workspace.target, workspace.transitions.configure,
    workspace.prerequisites⟩

/-- A declared target resolves, under any attribute, to itself and its analysis in the configuration
to which the attribute leads. -/
theorem LoadedFrom.resolves {workspace : Workspace} {manifest : Manifest}
    {declared : List DeclaredTarget} (loaded : workspace.LoadedFrom manifest declared)
    (rule : Rule) (attr : Attribute) {one : DeclaredTarget} (member : one ∈ declared) :
    (workspace.resolver rule).Resolves attr one.label
      ⟨one.target, one.analysis
        (workspace.transitions.next workspace.configuration attr.transition)⟩ := by
  rw [Resolver.resolves_iff]
  refine ⟨loaded.target_of_mem member, _, Resolver.configurationOf_standard rfl _, ?_⟩
  refine loaded.find?_prerequisites member ?_
  dsimp only [resolver]
  rw [loaded.transitions, loaded.configuration]
  exact manifest.configurations.next_mem_all attr.transition

end Workspace

end BuildRules

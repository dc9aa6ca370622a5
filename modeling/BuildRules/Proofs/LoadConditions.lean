import BuildRules.Proofs.LoadedTargets
import Mathlib.Data.List.Perm.Basic

/-!
# When a manifest loads

A manifest loads exactly when its rule classes can be built, each of its targets can be
read on its own, and no two of the targets that they declare have one label. None of the
three depends on the order in which the targets are written, so neither does whether a
manifest loads.
-/

set_option autoImplicit false

namespace BuildRules

namespace LoadedTargets

variable {configurations : List Configuration}

/-- A target of which the label is not loaded yet is added. -/
theorem add_of_fresh {loaded : LoadedTargets} {target : Target}
    (fresh : target.label ∉ loaded.labels) :
    loaded.add target = .ok { loaded with targets := target :: loaded.targets } := by
  have absent : ¬ (loaded.find? target.label).isSome := by
    unfold find?
    rw [List.find?_isSome]
    rintro ⟨other, member, same⟩
    exact fresh (List.mem_map.mpr ⟨other, member, by simpa using same⟩)
  unfold add
  rw [if_neg absent]

/-- Declared targets add their labels, the last one first. -/
theorem labels_foldl_plus (declared : List DeclaredTarget) (loaded : LoadedTargets) :
    (declared.foldl (plus configurations) loaded).labels =
      (declared.map DeclaredTarget.label).reverse ++ loaded.labels := by
  rw [foldl_plus]
  unfold labels
  rw [List.map_append, List.map_reverse, List.map_map]
  rfl

/-- Among targets with distinct labels each is new when it is loaded. -/
theorem fresh_of_nodup {declared : DeclaredTarget} {rest : List DeclaredTarget}
    {loaded : LoadedTargets}
    (distinct : ((declared :: rest).foldl (plus configurations) loaded).labels.Nodup) :
    declared.label ∉ loaded.labels := by
  rw [List.foldl_cons, labels_foldl_plus] at distinct
  have tail : (loaded.plus configurations declared).labels.Nodup := distinct.of_append_right
  exact (List.nodup_cons.mp tail).1

/-- The outputs of a rule are added, if no label is there twice. -/
theorem addOutputs_of_nodup {rule : Rule} {files : List OutputFile} {loaded : LoadedTargets}
    (distinct : ((files.map (DeclaredTarget.outputFile · rule)).foldl (plus configurations)
      loaded).labels.Nodup) :
    addOutputs configurations rule loaded files =
      .ok ((files.map (DeclaredTarget.outputFile · rule)).foldl (plus configurations) loaded) := by
  induction files generalizing loaded with
  | nil => rfl
  | cons file rest ih =>
    have fresh : (Target.outputFile file).label ∉ loaded.labels := fresh_of_nodup distinct
    unfold addOutputs
    rw [noteAll_eq]
    refine bind_eq_ok_iff.mpr ⟨_, add_of_fresh fresh, ?_⟩
    exact ih distinct

/-- A target that can be read is loaded if all that it declares is new. -/
theorem addWritten_of_nodup {classes : Manifest.RuleClasses} {loaded : LoadedTargets}
    {written : Manifest.WrittenTarget} {declared : List DeclaredTarget}
    (declares : written.declare classes = .ok declared)
    (distinct : (declared.foldl (plus configurations) loaded).labels.Nodup) :
    loaded.addWritten classes configurations written =
      .ok (declared.foldl (plus configurations) loaded) := by
  cases written with
  | inputFile written =>
    obtain ⟨file, read, ended⟩ := bind_eq_ok_iff.mp declares
    cases ended
    have fresh : (Target.inputFile file).label ∉ loaded.labels := fresh_of_nodup distinct
    exact bind_eq_ok_iff.mpr ⟨file, read, add_of_fresh fresh⟩
  | rule written =>
    obtain ⟨rule, read, ended⟩ := bind_eq_ok_iff.mp declares
    cases ended
    rw [List.foldl_append] at distinct ⊢
    -- The outputs of the rule come first, and then the rule is new among them.
    have fresh := fresh_of_nodup distinct
    have outputs := addOutputs_of_nodup (List.nodup_cons.mp distinct).2
    refine bind_eq_ok_iff.mpr ⟨rule, read, bind_eq_ok_iff.mpr ⟨_, outputs, ?_⟩⟩
    rw [noteAll_eq]
    exact bind_eq_ok_iff.mpr ⟨_, add_of_fresh fresh, rfl⟩

/-- Targets that can be read are loaded if all that they declare have distinct labels. -/
theorem addAll_of_nodup {classes : Manifest.RuleClasses} {loaded : LoadedTargets}
    {written : List Manifest.WrittenTarget} {declared : List (List DeclaredTarget)}
    (declares : List.Forall₂ (fun target list => target.declare classes = .ok list) written
      declared)
    (distinct : (declared.flatten.foldl (plus configurations) loaded).labels.Nodup) :
    addAll classes configurations loaded written =
      .ok (declared.flatten.foldl (plus configurations) loaded) := by
  induction declares generalizing loaded with
  | nil => rfl
  | @cons target list _ lists head _ ih =>
    rw [List.flatten_cons, List.foldl_append] at distinct ⊢
    have distinctFirst : (list.foldl (plus configurations) loaded).labels.Nodup := by
      rw [labels_foldl_plus] at distinct
      exact distinct.of_append_right
    exact bind_eq_ok_iff.mpr ⟨_, addWritten_of_nodup head distinctFirst, ih distinct⟩

end LoadedTargets

namespace Workspace

/-- A manifest loads exactly when its classes can be built, its targets can be read, and all that
the targets declare have distinct labels. -/
theorem exists_load_iff {manifest : Manifest} :
    (∃ workspace, load manifest = .ok workspace) ↔
      ∃ classes lists, Manifest.buildClasses ∅ manifest.ruleClasses = .ok classes ∧
        List.Forall₂ (fun target list => target.declare classes = .ok list) manifest.targets
          lists ∧
          (lists.flatten.map DeclaredTarget.label).Nodup := by
  constructor
  · rintro ⟨workspace, loaded⟩
    obtain ⟨declared, holds⟩ := exists_loadedFrom loaded
    obtain ⟨classes, lists, built, declares, rfl⟩ := holds.written
    exact ⟨classes, lists, built, declares, holds.distinct⟩
  · rintro ⟨classes, lists, built, declares, distinct⟩
    have distinctLoaded : (lists.flatten.foldl
        (LoadedTargets.plus manifest.configurations.all) {}).labels.Nodup := by
      rw [LoadedTargets.labels_foldl_plus]
      exact (List.append_nil _).symm ▸ List.nodup_reverse.mpr distinct
    have added := LoadedTargets.addAll_of_nodup declares distinctLoaded
    exact ⟨_, bind_eq_ok_iff.mpr ⟨classes, built, bind_eq_ok_iff.mpr ⟨_, added, rfl⟩⟩⟩

/-- A manifest that loads also loads with its targets in another order. -/
theorem exists_load_of_perm {manifest : Manifest} {targets : List Manifest.WrittenTarget}
    (reordered : targets.Perm manifest.targets)
    (loads : ∃ workspace, load manifest = .ok workspace) :
    ∃ workspace, load { manifest with targets := targets } = .ok workspace := by
  obtain ⟨classes, lists, built, declares, distinct⟩ := exists_load_iff.mp loads
  obtain ⟨others, declaresOthers, sameLists⟩ := List.perm_comp_forall₂ reordered declares
  refine exists_load_iff.mpr ⟨classes, others, built, declaresOthers, ?_⟩
  exact (sameLists.flatten.map _).nodup_iff.mpr distinct

/-- Whether a manifest loads does not depend on the order of its targets. -/
theorem exists_load_iff_of_perm {manifest : Manifest} {targets : List Manifest.WrittenTarget}
    (reordered : targets.Perm manifest.targets) :
    (∃ workspace, load { manifest with targets := targets } = .ok workspace) ↔
      ∃ workspace, load manifest = .ok workspace := by
  constructor
  · intro loads
    have back : ∃ workspace,
        load { { manifest with targets := targets } with targets := manifest.targets } =
          .ok workspace :=
      exists_load_of_perm reordered.symm loads
    exact back
  · exact exists_load_of_perm reordered

end Workspace

end BuildRules

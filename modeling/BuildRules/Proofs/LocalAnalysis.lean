import BuildRules.Proofs.CleanChecks
import BuildRules.Proofs.ContextRuns
import BuildRules.Proofs.LoadConditions
import BuildRules.Proofs.LoadedRules

/-!
# The analysis of a rule is local

The analysis of a rule looks at the targets that the rule names and at nothing else of a
workspace. So it ends in the same way when further targets are written to the manifest,
or when they are written in another order: the context and all that was recorded are the
same. The one thing that more targets can change is that a label resolves which did not
resolve before, and an analysis in which this happens was aborted.
-/

set_option autoImplicit false

namespace BuildRules

/-! ## Workspaces with more targets -/

namespace Workspace

variable {manifest : Manifest} {targets : List Manifest.WrittenTarget}
  {workspace larger : Workspace} {declared all : List DeclaredTarget}

/-- What a target declares does not depend on the targets that are written beside it. -/
theorem LoadedFrom.mem_of_more (loaded : workspace.LoadedFrom manifest declared)
    (loadedMore : larger.LoadedFrom { manifest with targets } all)
    (more : ∀ target ∈ manifest.targets, target ∈ targets) {one : DeclaredTarget}
    (member : one ∈ declared) : one ∈ all := by
  obtain ⟨classes, target, list, built, declares, written, inside, -⟩ :=
    loaded.exists_declare member
  obtain ⟨others, lists, builtMore, related, rfl⟩ := loadedMore.written
  rw [built] at builtMore
  cases builtMore
  obtain ⟨listMore, among, declaresMore⟩ := exists_right_of_forall₂ related (more target written)
  rw [declares] at declaresMore
  cases declaresMore
  exact List.mem_flatten.mpr ⟨list, among, inside⟩

/-- A label that resolves in a workspace resolves alike in one with more targets. -/
theorem LoadedFrom.resolves_of_more (loaded : workspace.LoadedFrom manifest declared)
    (loadedMore : larger.LoadedFrom { manifest with targets } all)
    (more : ∀ target ∈ manifest.targets, target ∈ targets) {rule : Rule} {attr : Attribute}
    {label : Label} {prerequisite : Prerequisite}
    (resolves : (workspace.resolver rule).Resolves attr label prerequisite) :
    (larger.resolver rule).Resolves attr label prerequisite := by
  obtain ⟨found, -⟩ := Resolver.resolves_iff.mp resolves
  obtain ⟨one, member, rfl, -⟩ := loaded.exists_of_target found
  -- The target is declared in both workspaces, and its label resolves to it in both.
  have here := loaded.resolves rule attr member
  have there := loadedMore.resolves rule attr (loaded.mem_of_more loadedMore more member)
  rw [loadedMore.transitions, loadedMore.configuration] at there
  rw [loaded.transitions, loaded.configuration] at here
  rw [Resolver.rightUnique_resolves _ attr resolves here]
  exact there

/-- The rules of a workspace are rules of the larger one, under the same labels. -/
theorem LoadedFrom.rule?_of_more (loaded : workspace.LoadedFrom manifest declared)
    (loadedMore : larger.LoadedFrom { manifest with targets } all)
    (more : ∀ target ∈ manifest.targets, target ∈ targets) {rule : Rule}
    (member : rule ∈ workspace.rules) : larger.rule? rule.label = some rule := by
  obtain ⟨provides, inside⟩ := loaded.mem_rules_iff.mp member
  apply loadedMore.rule?_of_mem
  exact loadedMore.mem_rules_iff.mpr ⟨provides, loaded.mem_of_more loadedMore more inside⟩

/-- An analysis that ended with a context ends in the same way in the larger workspace. -/
theorem LoadedFrom.analyze_of_more (loaded : workspace.LoadedFrom manifest declared)
    (loadedMore : larger.LoadedFrom { manifest with targets } all)
    (more : ∀ target ∈ manifest.targets, target ∈ targets) {rule : Rule} {context : RuleContext}
    {record after : Record}
    (ended : (workspace.analyze rule).start record = (.ok context, after)) :
    (larger.analyze rule).start record = (.ok context, after) := by
  have sameRequest : larger.request rule =
      { workspace.request rule with
        targets := larger.target, prerequisites := some larger.prerequisites } := by
    unfold request
    rw [loaded.configuration, loaded.transitions, loaded.options, loadedMore.configuration,
      loadedMore.transitions, loadedMore.options]
  have sameResolver : larger.resolver rule =
      { workspace.resolver rule with
        targets := larger.target, prerequisites := larger.prerequisites } := by
    unfold resolver
    rw [loaded.configuration, loaded.transitions, loadedMore.configuration,
      loadedMore.transitions]
  have ready : (workspace.request rule).resolver? = some (workspace.resolver rule) := rfl
  have sameOptions : larger.options = workspace.options :=
    loadedMore.options.trans loaded.options.symm
  unfold analyze at ended ⊢
  rw [Analysis.start_bind] at ended ⊢
  rw [sameRequest, sameOptions]
  cases built : (RuleContext.build (workspace.request rule)).start record with
  | mk outcome middle =>
    rw [built] at ended
    cases outcome with
    | error abort => cases ended
    | ok first =>
      have builtMore := RuleContext.build_of_more ready
        (fun _ _ _ _ resolves => sameResolver ▸ loaded.resolves_of_more loadedMore more resolves)
        built
      rw [builtMore]
      exact ended

/-- A manifest may be written in any order and next to further targets: it still loads, if the
labels of the further targets allow it, with all of its rules, and every analysis that ended with
a context ends with the same one and the same record. -/
theorem analyze_local (manifest : Manifest) (targets : List Manifest.WrittenTarget) :
    (targets.Perm manifest.targets →
      ((∃ workspace, load { manifest with targets } = .ok workspace) ↔
        ∃ workspace, load manifest = .ok workspace)) ∧
    ∀ further, targets.Perm (manifest.targets ++ further) → ∀ workspace larger,
      load manifest = .ok workspace → load { manifest with targets } = .ok larger →
        ∀ rule ∈ workspace.rules, larger.rule? rule.label = some rule ∧
          ∀ record context after,
            (workspace.analyze rule).start record = (.ok context, after) →
              (larger.analyze rule).start record = (.ok context, after) := by
  constructor
  · exact exists_load_iff_of_perm
  · intro further extended workspace larger loaded loadedMore rule member
    obtain ⟨declared, holds⟩ := exists_loadedFrom loaded
    obtain ⟨all, holdsMore⟩ := exists_loadedFrom loadedMore
    have more : ∀ target ∈ manifest.targets, target ∈ targets := by
      intro target written
      exact extended.mem_iff.mpr (List.mem_append_left _ written)
    refine ⟨holds.rule?_of_more holdsMore more member, ?_⟩
    intro record context after ended
    exact holds.analyze_of_more holdsMore more ended

end Workspace

/-- The manifest of a library and its tool in reverse order, after one more source. -/
def Sample.reversed : Manifest :=
  { withTool with
    targets := .inputFile { label := "//p:b.cc" } :: withTool.targets.reverse }

/-- The library and its tool load in reverse order as well, and after one more source the library is
still analyzed in the same way. -/
theorem Workspace.analyze_local_reversed :
    (∃ workspace, load { Sample.withTool with targets := Sample.withTool.targets.reverse } =
      .ok workspace) ∧
    ∃ workspace larger rule context after, load Sample.withTool = .ok workspace ∧
      load Sample.reversed = .ok larger ∧ larger.rule? rule.label = some rule ∧
        context.dependencies.size = 2 ∧
          (workspace.analyze rule).start {} = (.ok context, after) ∧
            (larger.analyze rule).start {} = (.ok context, after) := by
  have loaded : load Sample.withTool = .ok _ := rfl
  have loadedMore : load Sample.reversed = .ok _ := rfl
  constructor
  · exact ((analyze_local Sample.withTool _).1 (List.reverse_perm _)).mpr ⟨_, loaded⟩
  · have extended : Sample.reversed.targets.Perm
        (Sample.withTool.targets ++ [.inputFile { label := "//p:b.cc" }]) :=
      ((List.reverse_perm _).cons _).trans (List.perm_append_singleton _ _).symm
    obtain ⟨found, same⟩ := (analyze_local Sample.withTool _).2 _ extended _ _ loaded loadedMore _
      List.mem_cons_self
    exact ⟨_, _, _, _, _, loaded, loadedMore, found, rfl, rfl, same {} _ _ rfl⟩

end BuildRules

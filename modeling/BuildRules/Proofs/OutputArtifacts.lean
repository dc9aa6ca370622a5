import BuildRules.Proofs.ContextConfigurations
import BuildRules.Proofs.LoadedRules
import BuildRules.Proofs.OwnedRecords

/-!
# The artifacts of outputs

Three places say which artifacts a rule generates: the analysis of the rule that a
loaded workspace holds, the analyses of its outputs, and the context of the rule, which
asks the record for them. The three agree, in the order of the outputs. The record hands
out an artifact of an earlier request where one lies at the same place; but all requests
are made under one owner, so that artifact is the very one that is asked for.
-/

set_option autoImplicit false

namespace BuildRules

namespace RuleContext

variable {context : RuleContext}

/-- A context gets exactly the artifacts of the labels for which it asks a record of its owner, and
leaves such a record. -/
theorem start_artifactsOf (labels : List Label) {record : Record}
    (reached : record.Reached context.owner) :
    ∃ after : Record, after.Reached context.owner ∧
      (context.artifactsOf labels).start record =
        (.ok (labels.map fun label => ⟨context.outputRoot, label.path, context.owner⟩), after) := by
  induction labels generalizing record with
  | nil => exact ⟨record, reached, rfl⟩
  | cons label rest ih =>
    -- The first request leaves a record of the owner, so the rest is asked of such a record again.
    have asked : (context.artifactOf label).start record =
        (.ok ⟨context.outputRoot, label.path, context.owner⟩,
          (record.intern ⟨context.outputRoot, label.path, context.owner⟩).2) := by
      have handed := reached.intern_eq context.outputRoot label.path
      exact congrArg (fun artifact => (Except.ok artifact, _)) handed
    obtain ⟨after, reachedAfter, others⟩ := ih (reached.derived context.outputRoot label.path)
    refine ⟨after, reachedAfter, ?_⟩
    unfold artifactsOf
    rw [Analysis.start_bind, asked]
    dsimp only
    rw [Analysis.start_bind, others]
    rfl

end RuleContext

/-! ## The three places agree -/

namespace Workspace

/-- The files that a label builds in a configuration, as the workspace holds them. -/
def filesBuilt (workspace : Workspace) (label : Label) (configuration : Configuration) :
    Option (List Artifact) :=
  (workspace.prerequisites.find? label (some configuration)).bind (·.providers.files)

namespace LoadedFrom

variable {workspace : Workspace} {manifest : Manifest} {declared : List DeclaredTarget}
  {configuration : Configuration}

/-- A loaded rule builds the artifacts of its outputs, in their order. -/
theorem filesBuilt_rule (loaded : workspace.LoadedFrom manifest declared) {rule : Rule}
    {provides : Manifest.Capabilities} (member : .rule rule provides ∈ declared)
    (known : configuration ∈ manifest.configurations.all) :
    workspace.filesBuilt rule.label configuration =
      some (rule.outputs.map (rule.outputArtifact configuration)) := by
  have found := loaded.find?_prerequisites member known
  unfold filesBuilt
  rw [show workspace.prerequisites.find? rule.label (some configuration) = _ from found]
  obtain ⟨executable, fileset⟩ := provides
  cases executable <;> cases fileset <;> rfl

/-- A loaded output file builds the one artifact that its rule has for it. -/
theorem filesBuilt_outputFile (loaded : workspace.LoadedFrom manifest declared)
    {file : OutputFile} {generator : Rule} (member : .outputFile file generator ∈ declared)
    (known : configuration ∈ manifest.configurations.all) :
    workspace.filesBuilt file.label configuration =
      some [generator.outputArtifact configuration file.label] := by
  have found := loaded.find?_prerequisites member known
  unfold filesBuilt
  rw [show workspace.prerequisites.find? file.label (some configuration) = _ from found]
  rfl

/-- A rule is declared together with all of its outputs. -/
theorem outputFile_mem_of_rule_mem (loaded : workspace.LoadedFrom manifest declared) {rule : Rule}
    {provides : Manifest.Capabilities} (member : .rule rule provides ∈ declared)
    {file : OutputFile} (generated : file ∈ rule.outputFiles) :
    .outputFile file rule ∈ declared := by
  obtain ⟨classes, target, list, -, declares, -, inside, others⟩ := loaded.exists_declare member
  obtain ⟨written, rfl, read, -⟩ := Manifest.WrittenTarget.exists_load_of_rule_mem declares inside
  obtain ⟨found, readAgain, ended⟩ := bind_eq_ok_iff.mp declares
  rw [read] at readAgain
  cases readAgain
  cases ended
  exact others _ (List.mem_append_left _ (List.mem_map_of_mem generated))

/-- Every output of a rule builds its own artifact. -/
theorem filesBuilt_outputs (loaded : workspace.LoadedFrom manifest declared) {rule : Rule}
    {provides : Manifest.Capabilities} (member : .rule rule provides ∈ declared)
    (known : configuration ∈ manifest.configurations.all) :
    List.Forall₂ (fun output files => workspace.filesBuilt output configuration = some files)
      rule.outputs (rule.outputs.map fun output => [rule.outputArtifact configuration output]) := by
  rw [List.forall₂_map_right_iff, List.forall₂_same]
  intro output written
  have generated : ⟨output, rule.label, rule.location⟩ ∈ rule.outputFiles :=
    List.mem_map_of_mem written
  exact loaded.filesBuilt_outputFile (loaded.outputFile_mem_of_rule_mem member generated) known

end LoadedFrom

/-- In a loaded workspace the files of a rule in a configuration are the files of its outputs one
after the other, and they are the output artifacts of every context that was built for the rule in
this configuration, on any record that was used under the label of the rule. -/
theorem outputArtifacts_agree {manifest : Manifest} {workspace : Workspace}
    (loaded : load manifest = .ok workspace) {rule : Rule} (member : rule ∈ workspace.rules)
    {configuration : Configuration} (known : configuration ∈ manifest.configurations.all) :
    ∃ files, workspace.filesBuilt rule.label configuration = some files ∧
      (∃ lists, List.Forall₂
          (fun output list => workspace.filesBuilt output configuration = some list)
          rule.outputs lists ∧
        lists.flatten = files) ∧
      ∀ request : ContextRequest, request.rule = rule → request.configuration = configuration →
        request.owner = rule.label → ∀ context before after,
          (RuleContext.build request).start before = (.ok context, after) →
            ∀ record : Record, record.Reached rule.label →
              (context.outputArtifacts.start record).1 = .ok files := by
  obtain ⟨declared, holds⟩ := exists_loadedFrom loaded
  obtain ⟨provides, inside⟩ := holds.mem_rules_iff.mp member
  refine ⟨_, holds.filesBuilt_rule inside known, ?_, ?_⟩
  · refine ⟨_, holds.filesBuilt_outputs inside known, ?_⟩
    rw [← List.flatMap_def]
    exact List.map_eq_flatMap.symm
  · rintro request rfl rfl sameOwner context before after built record reached
    obtain ⟨resolver, kept, found, resolved, rfl, -⟩ := RuleContext.exists_resolved_of_build built
    have reachedHere :
        record.Reached (RuleContext.ofResolved request resolver kept found).owner := by
      show record.Reached request.owner
      rw [sameOwner]
      exact reached
    obtain ⟨later, -, asked⟩ := RuleContext.start_artifactsOf request.rule.outputs reachedHere
    have sameArtifact : ∀ output, request.rule.outputArtifact request.configuration output =
        ⟨request.rule.outputRoot request.configuration, output.path, request.owner⟩ := by
      intro output
      rw [sameOwner]
      rfl
    rw [funext sameArtifact]
    exact congrArg Prod.fst asked

end Workspace

/-- The manifest of a rule in the package at the root of a workspace. It generates two headers, one
of them in a directory. -/
def Sample.headers : Manifest where
  configurations := ⟨configuration "target", configuration "host", none⟩
  ruleClasses := [{ name := "headers", binaryOutput := false }]
  targets := [.rule { label := "//:all", className := "headers", outputs := ["a/b.h", "c.h"] }]

/-- A record of one owner in which the path of the second header was asked for before, under both
roots. -/
def Sample.askedBefore (owner : Label) : Record :=
  ((({} : Record).intern ⟨(configuration "target").genfilesRoot, "c.h", owner⟩).2.intern
    ⟨(configuration "target").binRoot, "c.h", owner⟩).2

/-- The context of the rule gets the headers that the workspace holds for the rule. -/
theorem Workspace.outputArtifacts_agree_headers :
    ∃ workspace rule files context after, load Sample.headers = .ok workspace ∧
      rule ∈ workspace.rules ∧
      workspace.filesBuilt rule.label (Sample.configuration "target") = some files ∧
      files.map Artifact.path = ["a/b.h", "c.h"] ∧
      (RuleContext.build (workspace.request rule)).start {} = (.ok context, after) ∧
      (context.outputArtifacts.start (Sample.askedBefore rule.label)).1 = .ok files := by
  obtain ⟨workspace, rule, loaded, rules, current, attributes, paths⟩ : ∃ workspace rule,
      load Sample.headers = .ok workspace ∧ workspace.rules = [rule] ∧
        workspace.configuration = Sample.configuration "target" ∧
        rule.ruleClass.attributes = [] ∧
          (workspace.filesBuilt rule.label (Sample.configuration "target")).map
            (·.map Artifact.path) = some ["a/b.h", "c.h"] :=
    ⟨_, _, rfl, rfl, rfl, rfl, rfl⟩
  have member : rule ∈ workspace.rules := rules ▸ List.mem_cons_self
  obtain ⟨files, held, -, agree⟩ := outputArtifacts_agree loaded member
    (show Sample.configuration "target" ∈ Sample.headers.configurations.all from
      List.mem_cons_self)
  -- Nothing has to be resolved for a rule without attributes.
  have resolved :
      RuleContext.Resolved (workspace.request rule) (workspace.resolver rule) [] [] := by
    refine ⟨rfl, ?_, ?_⟩
    · have noLabels : rule.labelMap.entries = [] := by
        unfold Rule.labelMap
        rw [attributes]
        rfl
      show List.Forall₂ _ rule.labelMap.entries _
      rw [noLabels]
      exact .nil
    · show List.Forall₂ _ (Resolver.filesetsAmong rule.ruleClass.attributes) _
      rw [attributes]
      exact .nil
  have built := RuleContext.build_of_resolved resolved {}
  refine ⟨workspace, rule, files, _, _, loaded, member, held, ?_, built, ?_⟩
  · rw [held] at paths
    exact Option.some.inj paths
  · exact agree _ rfl current rfl _ {} _ built _ (.derived _ _ (.derived _ _ .fresh))

end BuildRules

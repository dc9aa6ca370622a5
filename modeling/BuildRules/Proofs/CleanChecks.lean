import BuildRules.Proofs.DependencyErrors
import BuildRules.Proofs.LoadCoverage
import BuildRules.Proofs.LoadedRules
import BuildRules.Proofs.PathComponents
import BuildRules.Workspace.Check

/-!
# When the check of a workspace is clean

`SoundRule` says of a rule what its workspace has to offer it, in terms of the loaded
targets and of what the manifest declares, without any analysis. In the strict mode of
visibility the report of a check is clean exactly when all rules are sound. The one half
says that nothing bad passes, the other that no good workspace is refused.

The proof follows the report down. A report is clean when every analysis ends without an
error, an analysis reports what its prerequisites call for, and a prerequisite is a
declared target whose providers are known.
-/

set_option autoImplicit false

namespace BuildRules

/-- The base names of the files that a target builds: the outputs of a rule, and a file itself. -/
def Target.builtNames : Target → List String
  | .rule declared => declared.outputs.map Label.fileName
  | .inputFile file => [file.label.fileName]
  | .outputFile file => [file.label.fileName]

namespace Workspace

/-- The visibility of a target; that of a generated file is the visibility of its rule. -/
def visibilityOf (workspace : Workspace) : Target → List PackageSpecification
  | .rule declared => declared.visibility
  | .inputFile file => file.visibility
  | .outputFile file => ((workspace.rule? file.generatingRule).map Rule.visibility).getD []

/-- A rule may depend on a target through an attribute: the attribute admits it if it is strict,
accepts the files that it builds if it asks for any, and the rule may see it. -/
structure SoundDependency (workspace : Workspace) (rule : Rule) (attr : Attribute)
    (target : Target) : Prop where
  admitted : attr.strict = true → attr.Admits target
  built : attr.AsksFiles → attr.AcceptsFiles target.builtNames
  visible : target.label.package = rule.package ∨
    ∃ specification ∈ workspace.visibilityOf target, specification.admits rule.package = true

/-- A rule has what it needs: all that it names is loaded, it may depend on every dependency that
is not silently dropped, it sets no two attributes that exclude each other, and the trees of its
filesets are those of filesets, of build files or of files. -/
structure SoundRule (workspace : Workspace) (manifest : Manifest) (rule : Rule) : Prop where
  loaded : ∀ label, rule.Names label → workspace.IsLoaded label
  dependencies : ∀ name labels attr, rule.labelMap.find? name = some labels →
    rule.ruleClass.attribute? name = some attr → ∀ label ∈ labels, ∀ target,
      workspace.target label = .ok target → attr.drops target = false →
        workspace.SoundDependency rule attr target
  exclusive : ∀ pair ∈ rule.ruleClass.exclusive,
    ¬ (rule.isExplicit pair.1 = true ∧ rule.isExplicit pair.2 = true)
  filesets : ∀ attr ∈ rule.ruleClass.attributes, attr.type = .filesetEntryList →
    ∀ entry ∈ rule.filesetEntries attr.name, entry.files = none → ∀ target,
      workspace.target entry.source = .ok target → target.isFile = false →
        manifest.ProvidesFileset entry.source ∨ entry.source.name = "BUILD"

end Workspace

/-! ## The providers of declared targets -/

namespace DeclaredTarget

/-- Every declared target provides files, and their base names are those that it builds. -/
theorem exists_files_analysis (declared : DeclaredTarget) (configuration : Configuration) :
    ∃ artifacts, (declared.analysis configuration).providers.files = some artifacts ∧
      artifacts.map Artifact.fileName = declared.target.builtNames := by
  have baseName (label : Label) : Text.baseName label.path = label.fileName := label.baseName_path
  cases declared with
  | rule rule provides =>
    refine ⟨rule.outputs.map (rule.outputArtifact configuration), ?_, ?_⟩
    · obtain ⟨executable, fileset⟩ := provides
      cases executable <;> cases fileset <;> rfl
    · rw [List.map_map]
      exact List.map_congr_left fun output _ => baseName output
  | inputFile file => exact ⟨_, rfl, congrArg (fun name => [name]) (baseName file.label)⟩
  | outputFile file generator =>
    exact ⟨_, rfl, congrArg (fun name => [name]) (baseName file.label)⟩

/-- Among the declared targets, only rules that are declared to do so provide a fileset. -/
theorem isSome_fileset_analysis (declared : DeclaredTarget) (configuration : Configuration) :
    (declared.analysis configuration).providers.fileset.isSome =
      match declared with
      | .rule _ provides => provides.fileset
      | _ => false := by
  cases declared with
  | rule rule provides =>
    obtain ⟨executable, fileset⟩ := provides
    cases executable <;> cases fileset <;> rfl
  | inputFile file => rfl
  | outputFile file generator => rfl

end DeclaredTarget

namespace Workspace.LoadedFrom

variable {workspace : Workspace} {manifest : Manifest} {declared : List DeclaredTarget}

/-- The analysis of a declared target provides the visibility that the workspace gives it. -/
theorem visibility_analysis (loaded : workspace.LoadedFrom manifest declared)
    {one : DeclaredTarget} (member : one ∈ declared) (configuration : Configuration) :
    (one.analysis configuration).providers.visibility =
      some (workspace.visibilityOf one.target) := by
  cases one with
  | rule rule provides =>
    obtain ⟨executable, fileset⟩ := provides
    cases executable <;> cases fileset <;> rfl
  | inputFile file => rfl
  | outputFile file generator =>
    show some generator.visibility =
      some (((workspace.rule? file.generatingRule).map Rule.visibility).getD [])
    rw [loaded.rule?_generatingRule member]
    rfl

/-- What a label resolves to is a declared target with its analysis. -/
theorem exists_eq_of_resolves (loaded : workspace.LoadedFrom manifest declared) {rule : Rule}
    {attr : Attribute} {label : Label} {prerequisite : Prerequisite}
    (resolves : (workspace.resolver rule).Resolves attr label prerequisite) :
    ∃ one ∈ declared, one.label = label ∧ ∃ configuration,
      prerequisite = ⟨one.target, one.analysis configuration⟩ := by
  obtain ⟨found, -⟩ := Resolver.resolves_iff.mp resolves
  obtain ⟨one, member, rfl, -⟩ := loaded.exists_of_target found
  have resolved := loaded.resolves rule attr member
  exact ⟨one, member, rfl, _, (workspace.resolver rule).rightUnique_resolves attr resolves resolved⟩

/-- Nothing that is reported about a dependency on a declared target is an error exactly when the
rule may depend on it. -/
theorem hasErrors_validate_eq_false (loaded : workspace.LoadedFrom manifest declared)
    {rule : Rule} (member : rule ∈ workspace.rules) {attr : Attribute}
    (among : attr ∈ rule.ruleClass.attributes) {one : DeclaredTarget} (inside : one ∈ declared)
    (current configuration : Configuration) :
    hasErrors (Validation.validate (.visibility .error) rule current attr
      ⟨one.target, one.analysis configuration⟩) = false ↔
        workspace.SoundDependency rule attr one.target := by
  obtain ⟨artifacts, files, names⟩ := one.exists_files_analysis configuration
  have label : (one.analysis configuration).label = one.target.label :=
    (one.isFor_analysis configuration).1
  have built : (Prerequisite.mk one.target (one.analysis configuration)).providers.files =
      some artifacts := files
  rw [Validation.hasErrors_validate_eq_false (loaded.validity_eq_none member among) built, names]
  unfold Prerequisite.label Prerequisite.providers
  dsimp only
  rw [label, loaded.visibility_analysis inside, Option.getD_some]
  constructor
  · rintro ⟨admitted, built, visible⟩
    exact ⟨admitted, built, visible⟩
  · intro sound
    exact ⟨sound.admitted, sound.built, sound.visible⟩

/-- Nothing that is reported about the tree of a declared target is an error exactly when the target
is no rule, provides a fileset by the manifest, or stands for a build file. -/
theorem hasErrors_checkSubtree_eq_false (loaded : workspace.LoadedFrom manifest declared)
    (rule : Rule) (attr : Attribute) {entry : FilesetEntry} {one : DeclaredTarget}
    (inside : one ∈ declared) (named : one.label = entry.source) (configuration : Configuration) :
    hasErrors (rule.checkSubtree attr entry
      ⟨one.target, one.analysis configuration⟩).2 = false ↔
        (one.target.isFile = false →
          manifest.ProvidesFileset entry.source ∨ entry.source.name = "BUILD") := by
  rw [Rule.hasErrors_checkSubtree_eq_false]
  unfold Prerequisite.providers
  dsimp only
  rw [one.isSome_fileset_analysis, ← named]
  cases one with
  | rule dependency provides =>
    dsimp only
    rw [loaded.providesFileset_iff inside]
    rfl
  | inputFile file => exact iff_of_true (fun isRule => nomatch isRule) fun isRule => nomatch isRule
  | outputFile file generator =>
    exact iff_of_true (fun isRule => nomatch isRule) fun isRule => nomatch isRule

/-! ## The reports about a rule -/

variable {rule : Rule} {kept : List (String × List Prerequisite)}
  {found : List (Attribute × List EntrySources)}

/-- The prerequisites of a rule are reported without errors exactly when the rule may depend on all
of its dependencies that are not dropped. -/
theorem hasErrors_entryDiagnostics_eq_false (loaded : workspace.LoadedFrom manifest declared)
    (member : rule ∈ workspace.rules)
    (resolved : RuleContext.Resolved (workspace.request rule) (workspace.resolver rule) kept found) :
    hasErrors ((workspace.resolver rule).entryDiagnostics (.visibility .error) kept) = false ↔
      ∀ name labels attr, rule.labelMap.find? name = some labels →
        rule.ruleClass.attribute? name = some attr → ∀ label ∈ labels, ∀ target,
          workspace.target label = .ok target → attr.drops target = false →
            workspace.SoundDependency rule attr target := by
  unfold Resolver.entryDiagnostics
  rw [hasErrors_flatMap_eq_false]
  constructor
  · intro clean name labels attr bound known label written target answered stays
    obtain ⟨list, prerequisite, inside, resolves, mem_list⟩ :=
      resolved.exists_mem_of_label known bound written
    obtain ⟨one, declares, rfl, configuration, rfl⟩ := loaded.exists_eq_of_resolves resolves
    have sameTarget : one.target = target :=
      Except.ok.inj ((loaded.target_of_mem declares).symm.trans answered)
    subst sameTarget
    have reported := clean _ inside
    have sameAttr : (workspace.resolver rule).rule.ruleClass.attribute? name = some attr := known
    dsimp only at reported
    rw [sameAttr, Option.elim_some] at reported
    have edge := hasErrors_flatMap_eq_false.mp reported _ (mem_list stays)
    have among := (RuleClass.attribute?_eq_some_iff.mp known).1
    exact (loaded.hasErrors_validate_eq_false member among declares _ _).mp edge
  · rintro sound ⟨name, list⟩ inside
    dsimp only
    cases known : (workspace.resolver rule).rule.ruleClass.attribute? name with
    | none => rfl
    | some attr =>
      rw [Option.elim_some]
      unfold Resolver.edgeDiagnostics
      rw [hasErrors_flatMap_eq_false]
      intro prerequisite stays
      obtain ⟨other, labels, label, named, bound, written, resolves, notDropped⟩ :=
        resolved.exists_label_of_mem inside stays
      cases Option.some.inj (known.symm.trans named)
      obtain ⟨one, declares, rfl, configuration, rfl⟩ := loaded.exists_eq_of_resolves resolves
      have among := (RuleClass.attribute?_eq_some_iff.mp known).1
      apply (loaded.hasErrors_validate_eq_false member among declares _ _).mpr
      exact sound name labels attr bound known one.label written one.target
        (loaded.target_of_mem declares) notDropped

/-- An entry of a fileset is reported without errors exactly when it lists files, or the tree that
it takes is no rule's, is a fileset or is that of a build file. -/
theorem hasErrors_entrySources_eq_false (loaded : workspace.LoadedFrom manifest declared)
    {attr : Attribute} {entry : FilesetEntry} {sources : EntrySources}
    (resolves : (workspace.resolver rule).ResolvesSources attr entry sources) :
    hasErrors (sources.diagnostics rule attr) = false ↔
      (entry.files = none → ∀ target, workspace.target entry.source = .ok target →
        target.isFile = false →
          manifest.ProvidesFileset entry.source ∨ entry.source.name = "BUILD") := by
  obtain ⟨rfl, related⟩ := resolves
  unfold EntrySources.diagnostics
  cases listed : sources.entry.files with
  | some files => exact iff_of_true rfl fun none => nomatch none
  | none =>
    unfold FilesetEntry.namedLabels at related
    rw [listed, Option.getD_none] at related
    obtain ⟨source, others, hit, rest, same⟩ := List.forall₂_cons_left_iff.mp related
    cases List.forall₂_nil_left_iff.mp rest
    obtain ⟨one, declares, named, configuration, rfl⟩ := loaded.exists_eq_of_resolves hit
    dsimp only
    rw [same, List.flatMap_singleton,
      loaded.hasErrors_checkSubtree_eq_false rule attr declares named, forall_prop_of_true rfl]
    have answered : workspace.target sources.entry.source = .ok one.target :=
      named ▸ loaded.target_of_mem declares
    constructor
    · intro fit target found
      rw [answered] at found
      cases found
      exact fit
    · intro fit
      exact fit one.target answered

/-- The filesets of a rule are reported without errors exactly when the trees that they take are fit
for them. -/
theorem hasErrors_filesetDiagnostics_eq_false (loaded : workspace.LoadedFrom manifest declared)
    (resolved : RuleContext.Resolved (workspace.request rule) (workspace.resolver rule) kept found) :
    hasErrors ((workspace.resolver rule).filesetDiagnostics found) = false ↔
      ∀ attr ∈ rule.ruleClass.attributes, attr.type = .filesetEntryList →
        ∀ entry ∈ rule.filesetEntries attr.name, entry.files = none → ∀ target,
          workspace.target entry.source = .ok target → target.isFile = false →
            manifest.ProvidesFileset entry.source ∨ entry.source.name = "BUILD" := by
  unfold Resolver.filesetDiagnostics
  rw [hasErrors_flatMap_eq_false]
  constructor
  · intro clean attr declares fileset entry listed
    have among : attr ∈ Resolver.filesetsAmong rule.ruleClass.attributes :=
      List.mem_filter.mpr ⟨declares, by simpa using fileset⟩
    obtain ⟨⟨other, entries⟩, inside, rfl, related⟩ :=
      exists_right_of_forall₂ resolved.filesets among
    obtain ⟨sources, member, resolves⟩ := exists_right_of_forall₂ related listed
    have reported := hasErrors_flatMap_eq_false.mp (clean _ inside) sources member
    exact (loaded.hasErrors_entrySources_eq_false resolves).mp reported
  · rintro fit ⟨attr, entries⟩ inside
    obtain ⟨other, among, rfl, related⟩ := exists_left_of_forall₂ resolved.filesets inside
    obtain ⟨declares, fileset⟩ := List.mem_filter.mp among
    dsimp only at related ⊢
    rw [hasErrors_flatMap_eq_false]
    intro sources member
    obtain ⟨entry, listed, resolves⟩ := exists_left_of_forall₂ related member
    apply (loaded.hasErrors_entrySources_eq_false resolves).mpr
    exact fit _ declares (by simpa using fileset) entry listed

end Workspace.LoadedFrom

/-! ## The report of a check -/

namespace Workspace

/-- The analysis of a rule from an empty record ends, and without an error. -/
def EndsClean (workspace : Workspace) (rule : Rule) : Prop :=
  ∃ context after, workspace.analyzeAlone rule = (.ok context, after) ∧
    hasErrors after.diagnostics = false

/-- A check stays clean with one more rule exactly if the rule ends clean. -/
theorem isClean_checkRule (workspace : Workspace) (report : CheckReport) (rule : Rule) :
    (workspace.checkRule report rule).isClean = true ↔
      report.isClean = true ∧ workspace.EndsClean rule := by
  unfold checkRule EndsClean CheckReport.isClean
  rcases workspace.analyzeAlone rule with ⟨abort | context, after⟩
  · apply iff_of_false
    · simp
    · rintro ⟨-, context, record, ended, -⟩
      cases ended
  · dsimp only
    rw [Bool.and_eq_true, Bool.and_eq_true, Bool.not_eq_true', Bool.not_eq_true',
      hasErrors_append_eq_false, and_assoc]
    refine and_congr_right fun _ => and_congr_right fun _ => ?_
    constructor
    · intro clean
      exact ⟨context, after, rfl, clean⟩
    · rintro ⟨other, record, ended, clean⟩
      cases ended
      exact clean

/-- The report of a check stays clean exactly as long as all analyses end without an error. -/
theorem isClean_foldl_checkRule (workspace : Workspace) (rules : List Rule)
    (report : CheckReport) :
    (rules.foldl workspace.checkRule report).isClean = true ↔
      report.isClean = true ∧ ∀ rule ∈ rules, workspace.EndsClean rule := by
  induction rules generalizing report with
  | nil => simp
  | cons first rest ih =>
    rw [List.foldl_cons, ih, isClean_checkRule, List.forall_mem_cons, and_assoc]

/-- A check is clean exactly if every rule of the workspace ends clean. -/
theorem isClean_check_iff (workspace : Workspace) :
    workspace.check.isClean = true ↔ ∀ rule ∈ workspace.rules, workspace.EndsClean rule := by
  unfold check
  rw [isClean_foldl_checkRule]
  exact and_iff_right rfl

/-- An analysis that yields a context ends without an error exactly when it reports none. -/
theorem endsClean_iff_of_yields {workspace : Workspace} {rule : Rule} {context : RuleContext}
    {reported : List Diagnostic} (yields : (workspace.analyze rule).Yields context reported) :
    workspace.EndsClean rule ↔ hasErrors reported = false := by
  have ended : workspace.analyzeAlone rule = (.ok context, { diagnostics := reported }) := yields {}
  unfold EndsClean
  rw [ended]
  constructor
  · rintro ⟨other, after, same, clean⟩
    cases same
    exact clean
  · intro clean
    exact ⟨_, _, rfl, clean⟩

/-- A rule of which the analysis aborts does not end clean. -/
theorem not_endsClean_of_abortsWith {workspace : Workspace} {rule : Rule} {abort : Abort}
    (aborts : (workspace.analyze rule).AbortsWith abort) : ¬ workspace.EndsClean rule := by
  rintro ⟨context, after, ended, -⟩
  exact aborts.not_start_ok ended

/-- Without a check of the source packages an analysis only builds the context of the rule. -/
theorem analyze_eq_build {workspace : Workspace} (unchecked : workspace.options.sourcePackages = none)
    (rule : Rule) : workspace.analyze rule = RuleContext.build (workspace.request rule) := by
  unfold analyze
  rw [unchecked]
  exact bind_pure _

/-- In the strict mode of visibility the analysis of a rule ends without an error exactly when the
rule is sound. -/
theorem LoadedFrom.endsClean_iff {workspace : Workspace} {manifest : Manifest}
    {declared : List DeclaredTarget} (loaded : workspace.LoadedFrom manifest declared)
    (strict : manifest.options.visibility = .error)
    (unchecked : manifest.options.sourcePackages = none) {rule : Rule}
    (member : rule ∈ workspace.rules) :
    workspace.EndsClean rule ↔ workspace.SoundRule manifest rule := by
  have ready : (workspace.request rule).resolver? = some (workspace.resolver rule) := rfl
  have policy : (workspace.request rule).policy = .visibility .error := by
    unfold request AnalysisOptions.policy
    rw [loaded.options, strict]
  have steps : workspace.analyze rule = RuleContext.build (workspace.request rule) :=
    analyze_eq_build (loaded.options ▸ unchecked) rule
  rcases RuleContext.build_yields_or_abortsWith ready with
    ⟨kept, found, resolved, yields⟩ | ⟨abort, failed, aborts⟩
  · -- All labels resolve, and what remains to be asked is asked of the reports.
    rw [endsClean_iff_of_yields (steps ▸ yields)]
    unfold RuleContext.reportsOf
    rw [hasErrors_append_eq_false, hasErrors_append_eq_false, policy,
      loaded.hasErrors_entryDiagnostics_eq_false member resolved,
      loaded.hasErrors_filesetDiagnostics_eq_false resolved,
      Rule.hasErrors_exclusionDiagnostics_eq_false]
    constructor
    · rintro ⟨⟨dependencies, exclusive⟩, filesets⟩
      refine ⟨?_, dependencies, exclusive, filesets⟩
      intro label named
      obtain ⟨attr, prerequisite, resolves⟩ := resolved.exists_resolves_of_names rfl named
      exact isLoaded_of_resolves resolves
    · intro sound
      exact ⟨⟨sound.dependencies, sound.exclusive⟩, sound.filesets⟩
  · -- A label does not resolve, so it is not loaded, and the rule is not sound either.
    apply iff_of_false (not_endsClean_of_abortsWith (steps ▸ aborts))
    intro sound
    obtain ⟨attr, label, named, error⟩ := RuleContext.exists_names_of_fails ready rfl failed
    exact (loaded.not_loaded_of_error error).1 (sound.loaded label named)

/-- The check of a workspace that was loaded with the strict mode of visibility, and without a check
of the source packages, is clean exactly when all of its rules are sound. -/
theorem isClean_check_iff_sound {manifest : Manifest} {workspace : Workspace}
    (loaded : load manifest = .ok workspace) (strict : manifest.options.visibility = .error)
    (unchecked : manifest.options.sourcePackages = none) :
    workspace.check.isClean = true ↔
      ∀ rule ∈ workspace.rules, workspace.SoundRule manifest rule := by
  obtain ⟨declared, holds⟩ := exists_loadedFrom loaded
  rw [isClean_check_iff]
  refine forall_congr' fun rule => ?_
  refine forall_congr' fun member => ?_
  exact holds.endsClean_iff strict unchecked member

end Workspace

/-- The manifest of a library together with its tool, which the package of the library may see. -/
def Sample.withTool : Manifest :=
  { withoutTool with
    options := {}
    targets := withoutTool.targets ++
      [.rule
        { label := "//q:gen", className := "library", outputs := ["gen.sh"]
          visibility := [.package "p"] }] }

/-- A library and its tool are sound. -/
theorem Workspace.soundRule_of_withTool :
    ∃ workspace, load Sample.withTool = .ok workspace ∧ workspace.rules.length = 2 ∧
      ∀ rule ∈ workspace.rules, workspace.SoundRule Sample.withTool rule := by
  have loaded : load Sample.withTool = .ok _ := rfl
  refine ⟨_, loaded, rfl, ?_⟩
  exact (isClean_check_iff_sound loaded rfl rfl).mp rfl

end BuildRules

import BuildRules.Proofs.ContextLabels
import BuildRules.Proofs.ForeignSources
import BuildRules.Proofs.LoadCoverage

/-!
# What the options of an analysis can change

The options say how bad it is to depend on a target that is not visible, and to have source
files of other packages. They have no say in what is resolved or looked at. So an analysis
finds the same things under all options, in the same order, and the options decide one by
one what becomes of each finding: whether it is reported, and as an error or as a warning.
Where all checks are on, two analyses of a rule give diagnostics that can be put side by
side, at the same locations, and a check that is turned off only leaves its own ones out.
-/

set_option autoImplicit false

namespace BuildRules

/-- What a diagnostic comes from: a check that no option changes, the check of the visibility of
dependencies, or the check of the packages of sources. -/
inductive Check where
  | structural
  | visibility
  | sources
  deriving DecidableEq, Repr

/-- A diagnostic with the check from which it comes. -/
structure Marked where
  check : Check
  diagnostic : Diagnostic

/-- The two diagnostics come from the same check and stand at the same location. If no option
changes the check, they are equal. -/
structure Marked.Matches (first second : Marked) : Prop where
  check : first.check = second.check
  location : first.diagnostic.location = second.diagnostic.location
  structural : first.check = .structural → first.diagnostic = second.diagnostic

/-- Both checks that options change are on, and each of them reports errors or warnings. -/
structure AnalysisOptions.ChecksAll (options : AnalysisOptions) : Prop where
  visibility : options.visibility = .error ∨ options.visibility = .warn
  sources : options.sourcePackages = some .error ∨ options.sourcePackages = some .warn

/-- What is said about a dependency that the rule may not see. -/
def Rule.hiddenDependency (rule : Rule) (attr : Attribute) (dependency : Label) :
    VisibilityMode → Option Diagnostic
  | .error => some (rule.attributeDiagnostic .error attr.name
      ("target '" ++ dependency.display ++ "' is not visible from target '" ++
        rule.label.display ++ "'. Check the visibility " ++
          "declaration of the former target if you think the dependency is legitimate"))
  | .warn => some (rule.attributeDiagnostic .warning attr.name
      ("target '" ++ dependency.display ++ "' violates visibility of target '" ++
        rule.label.display ++ "'; continuing anyway"))
  | .off => none

/-- What an analysis finds, whatever the options make of it. -/
inductive Finding where
  | structural (diagnostic : Diagnostic)
  /-- A dependency that the rule may not see. -/
  | hidden (attr : Attribute) (dependency : Label)
  /-- A source file of another package. -/
  | foreign (owner : Label)

namespace Finding

def check : Finding → Check
  | structural _ => .structural
  | hidden _ _ => .visibility
  | foreign _ => .sources

/-- What becomes of a finding under the options. -/
def report? (rule : Rule) (options : AnalysisOptions) : Finding → Option Marked
  | structural diagnostic => some ⟨.structural, diagnostic⟩
  | hidden attr dependency =>
    (rule.hiddenDependency attr dependency options.visibility).map (⟨.visibility, ·⟩)
  | foreign owner =>
    options.sourcePackages.map fun check => ⟨.sources, rule.foreignSource check.onlyWarns owner⟩

/-- What is reported of the findings under the options. -/
def reports (rule : Rule) (options : AnalysisOptions) (findings : List Finding) : List Marked :=
  findings.filterMap (report? rule options)

/-- The diagnostics that the findings give under the options. -/
def diagnostics (rule : Rule) (options : AnalysisOptions) (findings : List Finding) :
    List Diagnostic :=
  (reports rule options findings).map Marked.diagnostic

section Reports

variable {rule : Rule} {options : AnalysisOptions}

/-- Two lists of findings have the diagnostics of both. -/
theorem diagnostics_append (first second : List Finding) :
    diagnostics rule options (first ++ second) =
      diagnostics rule options first ++ diagnostics rule options second := by
  unfold diagnostics reports
  rw [List.filterMap_append, List.map_append]

/-- The findings about several items have the diagnostics about each of them. -/
theorem diagnostics_flatMap {α : Type} (items : List α) (findings : α → List Finding) :
    diagnostics rule options (items.flatMap findings) =
      items.flatMap fun item => diagnostics rule options (findings item) := by
  unfold diagnostics reports
  rw [List.filterMap_flatMap, List.map_flatMap]

/-- Structural findings are reported under any options. -/
theorem diagnostics_structural (reported : List Diagnostic) :
    diagnostics rule options (reported.map structural) = reported := by
  unfold diagnostics reports
  rw [List.filterMap_map, List.map_filterMap]
  exact List.filterMap_some

/-- Findings of foreign artifacts are reported as the check of packages asks, or not at all. -/
theorem diagnostics_foreign (artifacts : List Artifact) :
    diagnostics rule options (artifacts.map fun artifact => foreign artifact.owner) =
      options.sourcePackages.elim [] fun check =>
        artifacts.map fun artifact => rule.foreignSource check.onlyWarns artifact.owner := by
  unfold diagnostics reports
  rw [List.filterMap_map, List.map_filterMap]
  cases asked : options.sourcePackages with
  | none => simp [report?, asked]
  | some check => simp [report?, asked]

end Reports

/-- A report of a finding is marked with the check of the finding. -/
theorem check_of_report? {rule : Rule} {options : AnalysisOptions} {finding : Finding}
    {marked : Marked} (reported : finding.report? rule options = some marked) :
    marked.check = finding.check := by
  cases finding with
  | structural diagnostic =>
    cases reported
    rfl
  | hidden attr dependency =>
    obtain ⟨diagnostic, -, rfl⟩ := Option.map_eq_some_iff.mp reported
    rfl
  | foreign owner =>
    obtain ⟨check, -, rfl⟩ := Option.map_eq_some_iff.mp reported
    rfl

/-- The reports of one check are what is reported of its findings. -/
theorem filter_reports (rule : Rule) (options : AnalysisOptions) (check : Check)
    (findings : List Finding) :
    (reports rule options findings).filter (·.check = check) =
      reports rule options (findings.filter (·.check = check)) := by
  unfold reports
  rw [List.filter_filterMap, List.filterMap_filter]
  apply List.filterMap_congr
  intro finding _
  cases reported : finding.report? rule options with
  | none => simp
  | some marked => simp [check_of_report? reported, Option.filter_some]

/-- Where all checks are on, a finding is reported in any case, at a location of its own. -/
theorem report?_matches {first second : AnalysisOptions} (checksFirst : first.ChecksAll)
    (checksSecond : second.ChecksAll) (rule : Rule) (finding : Finding) :
    Option.Rel Marked.Matches (finding.report? rule first) (finding.report? rule second) := by
  cases finding with
  | structural diagnostic => exact .some ⟨rfl, rfl, fun _ => rfl⟩
  | hidden attr dependency =>
    have notStructural : Check.visibility ≠ .structural := by decide
    unfold report?
    rcases checksFirst.visibility with modeFirst | modeFirst <;>
      rcases checksSecond.visibility with modeSecond | modeSecond <;>
        rw [modeFirst, modeSecond] <;>
          exact .some ⟨rfl, rfl, fun same => absurd same notStructural⟩
  | foreign owner =>
    have notStructural : Check.sources ≠ .structural := by decide
    unfold report?
    rcases checksFirst.sources with modeFirst | modeFirst <;>
      rcases checksSecond.sources with modeSecond | modeSecond <;>
        rw [modeFirst, modeSecond] <;>
          exact .some ⟨rfl, rfl, fun same => absurd same notStructural⟩

/-- Under options that check everything, findings are reported alike up to their severity and text.
-/
theorem reports_matches {first second : AnalysisOptions} (checksFirst : first.ChecksAll)
    (checksSecond : second.ChecksAll) (rule : Rule) (findings : List Finding) :
    List.Forall₂ Marked.Matches (reports rule first findings) (reports rule second findings) := by
  have each : ∀ finding other : Finding, finding = other →
      Option.Rel Marked.Matches (finding.report? rule first) (other.report? rule second) := by
    rintro finding _ rfl
    exact report?_matches checksFirst checksSecond rule finding
  exact List.rel_filterMap each (List.forall₂_same.mpr fun _ _ => rfl)

/-- Options that drop the reports of one check, finding by finding, drop them from the whole. -/
theorem reports_eq_filter {options less : AnalysisOptions} {rule : Rule} {off : Check}
    (each : ∀ finding : Finding,
      finding.report? rule less = (finding.report? rule options).filter (·.check ≠ off))
    (findings : List Finding) :
    reports rule less findings = (reports rule options findings).filter (·.check ≠ off) := by
  unfold reports
  rw [List.filter_filterMap]
  exact List.filterMap_congr fun finding _ => each finding

/-- Without the check of visibility its own reports are missing, and nothing else. -/
theorem reports_visibility_off (rule : Rule) (options : AnalysisOptions)
    (findings : List Finding) :
    reports rule { options with visibility := .off } findings =
      (reports rule options findings).filter (·.check ≠ .visibility) := by
  apply reports_eq_filter
  intro finding
  cases finding with
  | structural diagnostic => rfl
  | hidden attr dependency =>
    simp only [report?]
    cases rule.hiddenDependency attr dependency options.visibility <;> rfl
  | foreign owner =>
    simp only [report?]
    cases options.sourcePackages <;> rfl

/-- Without the check of the sources its own reports are missing, and nothing else. -/
theorem reports_sources_off (rule : Rule) (options : AnalysisOptions)
    (findings : List Finding) :
    reports rule { options with sourcePackages := none } findings =
      (reports rule options findings).filter (·.check ≠ .sources) := by
  apply reports_eq_filter
  intro finding
  cases finding with
  | structural diagnostic => rfl
  | hidden attr dependency =>
    simp only [report?]
    cases rule.hiddenDependency attr dependency options.visibility <;> rfl
  | foreign owner =>
    simp only [report?]
    cases options.sourcePackages <;> rfl

end Finding

/-! ## What an analysis finds -/

/-- What the check of the visibility of a dependency finds. -/
def Validation.hiddenFindings (rule : Rule) (attr : Attribute) (prerequisite : Prerequisite) :
    List Finding :=
  if prerequisite.label.package = rule.package || isVisible rule prerequisite.configured then []
  else [.hidden attr prerequisite.label]

/-- What all checks of a dependency find. -/
def Validation.findings (rule : Rule) (configuration : Configuration) (attr : Attribute)
    (prerequisite : Prerequisite) : List Finding :=
  (validate .allowAll rule configuration attr prerequisite).map .structural ++
    hiddenFindings rule attr prerequisite

/-- The policy of visibility reports the dependencies that are hidden from the rule. -/
theorem Policy.visibility_eq_hiddenDependency (mode : VisibilityMode) (rule : Rule)
    (configuration : Configuration) (prerequisite : Prerequisite) (attr : Attribute) :
    visibility mode rule configuration prerequisite attr =
      if prerequisite.label.package = rule.package ||
        Validation.isVisible rule prerequisite.configured then []
      else (rule.hiddenDependency attr prerequisite.label mode).toList := by
  unfold visibility
  cases mode <;> rfl

namespace Validation

variable (options : AnalysisOptions) (rule : Rule) (configuration : Configuration)
  (attr : Attribute) (prerequisite : Prerequisite)

/-- The hidden findings about a dependency are what the policy of the options reports. -/
theorem diagnostics_hiddenFindings :
    Finding.diagnostics rule options (hiddenFindings rule attr prerequisite) =
      options.policy rule configuration prerequisite attr := by
  unfold AnalysisOptions.policy hiddenFindings
  rw [Policy.visibility_eq_hiddenDependency]
  split
  · rfl
  · unfold Finding.diagnostics Finding.reports
    cases said : rule.hiddenDependency attr prerequisite.label options.visibility <;>
      simp [Finding.report?, said]

/-- The options decide what is said about a dependency, finding by finding. -/
theorem validate_eq_diagnostics :
    validate options.policy rule configuration attr prerequisite =
      Finding.diagnostics rule options (findings rule configuration attr prerequisite) := by
  have split : validate options.policy rule configuration attr prerequisite =
      validate .allowAll rule configuration attr prerequisite ++
        options.policy rule configuration prerequisite attr := by
    unfold validate Policy.allowAll
    rw [List.append_nil]
  unfold findings
  rw [Finding.diagnostics_append, Finding.diagnostics_structural,
    diagnostics_hiddenFindings options rule configuration, split]

/-- The findings of visibility about a dependency are the hidden ones. -/
theorem filter_findings_visibility :
    (findings rule configuration attr prerequisite).filter (·.check = .visibility) =
      hiddenFindings rule attr prerequisite := by
  unfold findings hiddenFindings
  rw [List.filter_append, List.filter_map]
  split <;> simp [Function.comp_def, Finding.check]

end Validation

/-- What the checks of the entries of a dependency map find. -/
def Resolver.findings (resolver : Resolver) (kept : List (String × List Prerequisite)) :
    List Finding :=
  kept.flatMap fun entry =>
    (resolver.rule.ruleClass.attribute? entry.1).elim [] fun attr =>
      entry.2.flatMap (Validation.findings resolver.rule resolver.configuration attr)

/-- What is reported about the prerequisites of a rule are the diagnostics of its findings. -/
theorem Resolver.entryDiagnostics_eq_diagnostics (resolver : Resolver) (options : AnalysisOptions)
    (kept : List (String × List Prerequisite)) :
    resolver.entryDiagnostics options.policy kept =
      Finding.diagnostics resolver.rule options (resolver.findings kept) := by
  unfold entryDiagnostics findings
  rw [Finding.diagnostics_flatMap]
  congr 1
  funext entry
  cases resolver.rule.ruleClass.attribute? entry.1 with
  | none => rfl
  | some attr =>
    rw [Option.elim_some, Option.elim_some, Finding.diagnostics_flatMap]
    unfold edgeDiagnostics
    congr 1
    funext prerequisite
    exact Validation.validate_eq_diagnostics options _ _ attr prerequisite

/-- The findings of visibility are what the policy reports about the prerequisites. -/
theorem Resolver.diagnostics_filter_findings (resolver : Resolver) (options : AnalysisOptions)
    (kept : List (String × List Prerequisite)) :
    Finding.diagnostics resolver.rule options
        ((resolver.findings kept).filter (·.check = .visibility)) =
      kept.flatMap fun entry =>
        (resolver.rule.ruleClass.attribute? entry.1).elim [] fun attr =>
          entry.2.flatMap fun prerequisite =>
            options.policy resolver.rule resolver.configuration prerequisite attr := by
  unfold findings
  rw [List.filter_flatMap, Finding.diagnostics_flatMap]
  congr 1
  funext entry
  cases resolver.rule.ruleClass.attribute? entry.1 with
  | none => rfl
  | some attr =>
    rw [Option.elim_some, Option.elim_some, List.filter_flatMap, Finding.diagnostics_flatMap]
    congr 1
    funext prerequisite
    rw [Validation.filter_findings_visibility]
    exact Validation.diagnostics_hiddenFindings options _ _ attr prerequisite

/-- The checks of the dependencies do not find what the check of the sources finds. -/
theorem Resolver.filter_findings_sources (resolver : Resolver)
    (kept : List (String × List Prerequisite)) :
    (resolver.findings kept).filter (·.check = .sources) = [] := by
  rw [List.filter_eq_nil_iff]
  intro finding member
  obtain ⟨entry, -, inside⟩ := List.mem_flatMap.mp member
  cases declared : resolver.rule.ruleClass.attribute? entry.1 with
  | none =>
    rw [declared] at inside
    cases inside
  | some attr =>
    rw [declared, Option.elim_some] at inside
    obtain ⟨prerequisite, -, among⟩ := List.mem_flatMap.mp inside
    rcases List.mem_append.mp among with structural | hidden
    · obtain ⟨diagnostic, -, rfl⟩ := List.mem_map.mp structural
      simp [Finding.check]
    · unfold Validation.hiddenFindings at hidden
      split at hidden
      · cases hidden
      · cases List.mem_singleton.mp hidden
        simp [Finding.check]

/-- What a policy says of the dependencies of a rule, in order. -/
def RuleContext.policyDiagnostics (context : RuleContext) (policy : Policy) : List Diagnostic :=
  context.dependencies.entries.flatMap fun entry =>
    (context.rule.ruleClass.attribute? entry.1).elim [] fun attr =>
      entry.2.flatMap fun prerequisite =>
        policy context.rule context.configuration prerequisite attr

/-- The sources of other packages that the check of the sources finds, if the class of the rule has
sources to check. -/
def RuleContext.sourceFindings (context : RuleContext) : List Finding :=
  if Workspace.hasCheckedSources context.rule then
    context.foreignFirsts.map fun artifact => .foreign artifact.owner
  else []

namespace Workspace

open RuleContext (Resolved ofResolved reportsOf)

variable {workspace : Workspace} {rule : Rule}

/-- All that the analysis of a rule finds whose labels resolve to the given prerequisites. -/
def findings (rule : Rule) (resolver : Resolver) (kept : List (String × List Prerequisite))
    (found : List (Attribute × List EntrySources)) (context : RuleContext) : List Finding :=
  resolver.findings kept ++
    (rule.exclusionDiagnostics ++ resolver.filesetDiagnostics found).map .structural ++
      context.sourceFindings

/-- The check of the sources reports what the options make of its findings. -/
theorem sourceCheck_yields (context : RuleContext) {options : AnalysisOptions}
    {check : SourcePackageCheck} (asked : options.sourcePackages = some check) :
    Analysis.Yields
      (if hasCheckedSources context.rule then context.checkSourcePackages check.onlyWarns
        else pure ())
      () (Finding.diagnostics context.rule options context.sourceFindings) := by
  unfold RuleContext.sourceFindings
  split
  · rename_i checked
    obtain ⟨attr, declared, sameMode⟩ := RuleContext.exists_sources_of_hasCheckedSources checked
    rw [Finding.diagnostics_foreign, asked, Option.elim_some]
    exact RuleContext.checkSourcePackages_yields_firsts declared sameMode check.onlyWarns
  · exact Analysis.yields_pure ()

/-- What follows the building of a context reports the same, and nothing if no check is asked
for. -/
theorem checkSources_yields (options : AnalysisOptions) (context : RuleContext) :
    Analysis.Yields
      (match options.sourcePackages with
        | none => return context
        | some check => do
          if hasCheckedSources context.rule then context.checkSourcePackages check.onlyWarns
          return context)
      context (Finding.diagnostics context.rule options context.sourceFindings) := by
  cases asked : options.sourcePackages with
  | none =>
    have unsaid : Finding.diagnostics context.rule options context.sourceFindings = [] := by
      unfold RuleContext.sourceFindings
      split
      · rw [Finding.diagnostics_foreign, asked, Option.elim_none]
      · rfl
    rw [unsaid]
    exact Analysis.yields_pure context
  | some check =>
    dsimp only
    split
    · rename_i checked
      have yields := sourceCheck_yields context asked
      rw [if_pos checked] at yields
      exact yields.bind_silent (Analysis.yields_pure context)
    · rename_i unchecked
      have nothing : context.sourceFindings = [] := if_neg unchecked
      rw [nothing]
      exact Analysis.yields_pure context

/-- Under all options the analysis of a rule whose labels resolve ends with the same context, and
reports what these options make of the same findings. -/
theorem analyze_yields_findings {resolver : Resolver} {kept : List (String × List Prerequisite)}
    {found : List (Attribute × List EntrySources)}
    (resolved : Resolved (workspace.request rule) resolver kept found)
    (options : AnalysisOptions) :
    ({ workspace with options }.analyze rule).Yields
      (ofResolved (workspace.request rule) resolver kept found)
      (Finding.diagnostics rule options (findings rule resolver kept found
        (ofResolved (workspace.request rule) resolver kept found))) := by
  -- The policy is no part of what is resolved.
  have transported : Resolved ({ workspace with options }.request rule) resolver kept found :=
    ⟨resolved.ready, resolved.dependencies, resolved.filesets⟩
  have sameRule : resolver.rule = rule := (RuleContext.resolver?_eq_some resolved.ready).1
  have built := RuleContext.build_of_resolved transported
  have reported : reportsOf ({ workspace with options }.request rule) resolver kept found =
      Finding.diagnostics rule options (resolver.findings kept ++
        (rule.exclusionDiagnostics ++ resolver.filesetDiagnostics found).map .structural) := by
    unfold reportsOf
    rw [Finding.diagnostics_append, Finding.diagnostics_structural, List.append_assoc]
    have entries := resolver.entryDiagnostics_eq_diagnostics options kept
    rw [sameRule] at entries
    exact congrArg (· ++ _) entries
  rw [reported] at built
  unfold findings
  rw [Finding.diagnostics_append]
  exact built.bind (checkSources_yields options _)

section Marks

variable {resolver : Resolver} {kept : List (String × List Prerequisite)}
  {found : List (Attribute × List EntrySources)}

/-- The reports that are marked with the check of visibility are those of its policy. -/
theorem reports_of_visibility (resolved : Resolved (workspace.request rule) resolver kept found)
    (options : AnalysisOptions) :
    ((Finding.reports rule options (findings rule resolver kept found
        (ofResolved (workspace.request rule) resolver kept found))).filter
          (·.check = .visibility)).map Marked.diagnostic =
      (ofResolved (workspace.request rule) resolver kept found).policyDiagnostics
        options.policy := by
  obtain ⟨sameRule, sameConfiguration, -⟩ := RuleContext.resolver?_eq_some resolved.ready
  have only : (findings rule resolver kept found
      (ofResolved (workspace.request rule) resolver kept found)).filter (·.check = .visibility) =
        (resolver.findings kept).filter (·.check = .visibility) := by
    unfold findings RuleContext.sourceFindings
    rw [List.filter_append, List.filter_append, List.filter_map]
    split <;> simp [Function.comp_def, Finding.check]
  have entries : (ofResolved (workspace.request rule) resolver kept found).dependencies.entries =
      kept := NameMap.entries_ofList resolved.ascending
  have said := resolver.diagnostics_filter_findings options kept
  rw [Finding.filter_reports, only]
  unfold RuleContext.policyDiagnostics
  rw [entries]
  rw [sameRule, sameConfiguration] at said
  exact said

/-- The reports that are marked with the check of the sources are those of that check. -/
theorem reports_of_sources (context : RuleContext) {options : AnalysisOptions}
    {check : SourcePackageCheck} (asked : options.sourcePackages = some check) :
    Analysis.Yields
      (if hasCheckedSources context.rule then context.checkSourcePackages check.onlyWarns
        else pure ())
      () (((Finding.reports context.rule options
        (findings context.rule resolver kept found context)).filter
          (·.check = .sources)).map Marked.diagnostic) := by
  have only : (findings context.rule resolver kept found context).filter (·.check = .sources) =
      context.sourceFindings := by
    unfold findings RuleContext.sourceFindings
    rw [List.filter_append, List.filter_append, Resolver.filter_findings_sources,
      List.filter_map]
    split <;> simp [Function.comp_def, Finding.check]
  rw [Finding.filter_reports, only]
  exact sourceCheck_yields context asked

end Marks

/-- With other options a manifest loads as before, but for the options. -/
theorem load_with_options {manifest : Manifest} (loaded : load manifest = .ok workspace)
    (options : AnalysisOptions) :
    load { manifest with options } = .ok { workspace with options } := by
  unfold load at loaded ⊢
  obtain ⟨classes, built, rest⟩ := bind_eq_ok_iff.mp loaded
  obtain ⟨targets, added, ended⟩ := bind_eq_ok_iff.mp rest
  cases ended
  exact bind_eq_ok_iff.mpr ⟨classes, built, bind_eq_ok_iff.mpr ⟨targets, added, rfl⟩⟩

/-- If the analysis of a rule ends with a context, it does so under all options, and what it finds
does not depend on them: they decide what is reported of each finding. The marks say where the
reports come from, those of the check of visibility are what its policy says of the dependencies,
and those of the check of the sources are what that check reports. Where all checks are on, the
reports of any two options stand at the same locations, and those of the checks that no option
changes are equal; and a check that is off leaves out its own reports and no others. -/
theorem analyze_strictness {manifest : Manifest} (loaded : load manifest = .ok workspace)
    {record after : Record} {context : RuleContext}
    (ended : (workspace.analyze rule).start record = (.ok context, after)) :
    ∃ findings : List Finding,
      (∀ options : AnalysisOptions,
        load { manifest with options } = .ok { workspace with options } ∧
          ({ workspace with options }.analyze rule).start record =
            (.ok context, record.withReports
              ((Finding.reports rule options findings).map Marked.diagnostic))) ∧
      (∀ options : AnalysisOptions,
        ((Finding.reports rule options findings).filter (·.check = .visibility)).map
            Marked.diagnostic = context.policyDiagnostics options.policy ∧
          ∀ check, options.sourcePackages = some check →
            Analysis.Yields
              (if hasCheckedSources rule then context.checkSourcePackages check.onlyWarns
                else pure ())
              () (((Finding.reports rule options findings).filter (·.check = .sources)).map
                Marked.diagnostic)) ∧
      (∀ first second : AnalysisOptions, first.ChecksAll → second.ChecksAll →
        List.Forall₂ Marked.Matches (Finding.reports rule first findings)
          (Finding.reports rule second findings)) ∧
      ∀ options : AnalysisOptions,
        Finding.reports rule { options with visibility := .off } findings =
          (Finding.reports rule options findings).filter (·.check ≠ .visibility) ∧
        Finding.reports rule { options with sourcePackages := none } findings =
          (Finding.reports rule options findings).filter (·.check ≠ .sources) := by
  obtain ⟨resolver, kept, found, resolved⟩ :
      ∃ resolver kept found, Resolved (workspace.request rule) resolver kept found := by
    unfold analyze at ended
    rw [Analysis.start_bind] at ended
    split at ended
    · rename_i built between happened
      obtain ⟨resolver, kept, found, resolved, -, -⟩ :=
        RuleContext.exists_resolved_of_build happened
      exact ⟨resolver, kept, found, resolved⟩
    · cases ended
  have own := (analyze_yields_findings resolved workspace.options).eq_of_start ended
  obtain ⟨rfl, -⟩ := own
  refine ⟨_, fun options => ⟨load_with_options loaded options,
    analyze_yields_findings resolved options record⟩, ?_, ?_, ?_⟩
  · intro options
    refine ⟨reports_of_visibility resolved options, ?_⟩
    intro check asked
    exact reports_of_sources (ofResolved (workspace.request rule) resolver kept found) asked
  · intro first second checksFirst checksSecond
    exact Finding.reports_matches checksFirst checksSecond rule _
  · intro options
    exact ⟨Finding.reports_visibility_off rule options _,
      Finding.reports_sources_off rule options _⟩

end Workspace

/-- The manifest of a library with a source of another package and with a tool that the library may
not see and that is not of the class of a tool. -/
def Sample.careless : Manifest :=
  { withoutTool with
    options := { visibility := .error, sourcePackages := some .error }
    ruleClasses :=
      [{ name := "library"
         attributes :=
          [{ name := "srcs", type := .labelList },
            { name := "tools", type := .labelList, transition := .host,
              allowedClasses := some ["script"] }] }]
    targets :=
      [.inputFile { label := "//q:b.cc" },
        .rule { label := "//q:gen", className := "library" },
        .rule
          { label := "//p:lib", className := "library"
            values := .ofList
              [("srcs", .array [.string "//q:b.cc"]), ("tools", .array [.string "//q:gen"])] }] }

/-- The three faults of a careless library are found under all options. -/
theorem Workspace.analyze_strictness_careless :
    ∃ workspace rule context after, load Sample.careless = .ok workspace ∧
      workspace.rules.getLast? = some rule ∧
      (workspace.analyze rule).start {} = (.ok context, after) ∧
      after.diagnostics.map Diagnostic.severity = [.error, .error, .error] ∧
      ∃ findings : List Finding, ∀ options : AnalysisOptions,
        ({ workspace with options }.analyze rule).start {} =
          (.ok context, Record.withReports {}
            ((Finding.reports rule options findings).map Marked.diagnostic)) := by
  have reported :
      ((load Sample.careless).toOption.bind fun workspace =>
        workspace.rules.getLast?.bind fun rule =>
          ((workspace.analyze rule).start {}).1.toOption.map fun _ =>
            ((workspace.analyze rule).start {}).2.diagnostics.map Diagnostic.severity) =
        some [.error, .error, .error] := by
    decide +kernel
  obtain ⟨workspace, loads, later⟩ := Option.bind_eq_some_iff.mp reported
  obtain ⟨rule, last, ends⟩ := Option.bind_eq_some_iff.mp later
  obtain ⟨context, yielded, severities⟩ := Option.map_eq_some_iff.mp ends
  have loaded : load Sample.careless = .ok workspace := toOption_eq_some_iff.mp loads
  have ended : (workspace.analyze rule).start {} =
      (.ok context, ((workspace.analyze rule).start {}).2) :=
    Prod.ext (toOption_eq_some_iff.mp yielded) rfl
  obtain ⟨findings, same, -⟩ := analyze_strictness loaded ended
  exact ⟨workspace, rule, context, _, loaded, last, ended, severities, findings,
    fun options => (same options).2⟩

end BuildRules

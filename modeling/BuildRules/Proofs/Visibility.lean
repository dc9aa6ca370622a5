import BuildRules.Analysis.Validation
import BuildRules.Proofs.Runs
import BuildRules.Proofs.TextCuts

/-!
# Who may depend on a target

A package is admitted by a specification for what it is, a list of components: a
specification of all packages at and below one admits those whose components begin with
the components of that one. The test compares texts instead, and asks for a slash after a
common beginning, so that `a` has nothing to do with `ab`. The two are the same for all
texts, also for those that are no packages.

What is reported about the visibility of a dependency follows from that. Nothing is said
about a dependency of the same package or about one that some specification opens to the
package of the rule. About any other there is one diagnostic, if the mode asks for one.
-/

set_option autoImplicit false

namespace BuildRules

/-! ## Packages at and below a package -/

/-- The components of a package; the package at the root has none. -/
def packageComponents (package : String) : List String :=
  if package.isEmpty then [] else Text.components package

/-- A package that is not the one at the root has the components of its path. -/
theorem packageComponents_of_ne_empty {package : String} (nonempty : package ≠ "") :
    packageComponents package = Text.components package := by
  unfold packageComponents
  rw [if_neg (mt String.isEmpty_iff.mp nonempty)]

namespace PackageSpecification

/-- The packages for which a specification stands: all, none, one, or those whose components begin
with the components of one. -/
def Admits : PackageSpecification → String → Prop
  | .everything, _ => True
  | .nothing, _ => False
  | .package path, asked => asked = path
  | .subpackages path, asked => packageComponents path <+: packageComponents asked

/-- The test for the packages below one looks at the texts only. -/
theorem admits_subpackages_iff {path asked : String} :
    (subpackages path).admits asked = true ↔
      path = "" ∨ asked = path ∨ ∃ rest, asked = path ++ "/" ++ rest := by
  have goesOn : (path.toList ++ ['/']).isPrefixOf asked.toList = true ↔
      ∃ rest, asked = path ++ "/" ++ rest := by
    rw [List.isPrefixOf_iff_prefix]
    constructor
    · rintro ⟨rest, whole⟩
      refine ⟨String.ofList rest, String.toList_inj.mp ?_⟩
      simp [← whole, String.toList_append]
    · rintro ⟨rest, rfl⟩
      refine ⟨rest.toList, ?_⟩
      rw [String.toList_append, String.toList_append]
      rfl
  unfold admits
  rw [Bool.or_eq_true, Bool.or_eq_true, goesOn, String.isEmpty_iff, decide_eq_true_iff, or_assoc]

/-- A specification lets in a package exactly if it means to. -/
theorem admits_iff (specification : PackageSpecification) (asked : String) :
    specification.admits asked = true ↔ specification.Admits asked := by
  cases specification with
  | everything => exact iff_of_true rfl trivial
  | nothing => exact iff_of_false Bool.false_ne_true id
  | package path =>
    unfold admits Admits
    rw [decide_eq_true_iff, eq_comm]
  | subpackages path =>
    show _ ↔ packageComponents path <+: packageComponents asked
    rw [admits_subpackages_iff]
    by_cases root : path = ""
    · exact iff_of_true (.inl root) (root ▸ List.nil_prefix)
    · rw [packageComponents_of_ne_empty root, or_iff_right root]
      by_cases atRoot : asked = ""
      · -- Nothing but the root package itself has the root package below it.
        subst atRoot
        refine iff_of_false ?_ ?_
        · rintro (same | ⟨rest, whole⟩)
          · exact root same.symm
          · simpa using congrArg String.toList whole
        · exact fun below => Text.components_ne_nil path (List.prefix_nil.mp below)
      · rw [packageComponents_of_ne_empty atRoot, Text.components_prefix_iff]

/-- A common beginning is not enough. -/
example : (subpackages "a").admits "a/b" = true ∧ (subpackages "a").admits "ab" = false := by
  decide

end PackageSpecification

/-! ## What is reported -/

/-- Some specification of the dependency stands for the package; without any that were provided
there is none. -/
def Prerequisite.IsOpenTo (prerequisite : Prerequisite) (package : String) : Prop :=
  ∃ specifications, prerequisite.providers.visibility = some specifications ∧
    ∃ specification ∈ specifications, specification.Admits package

/-- A dependency passes as visible exactly if it is open to the package of the rule. -/
theorem Validation.isVisible_iff {rule : Rule} {prerequisite : Prerequisite} :
    isVisible rule prerequisite.configured = true ↔ prerequisite.IsOpenTo rule.package := by
  unfold isVisible Prerequisite.IsOpenTo Prerequisite.providers
  rw [List.any_eq_true]
  cases prerequisite.configured.providers.visibility with
  | none => simp
  | some specifications => simp [PackageSpecification.admits_iff]

/-- What the visibility of a dependency calls for in each mode. -/
inductive VisibilityReport (rule : Rule) (attr : Attribute) (prerequisite : Prerequisite) :
    VisibilityMode → Option Diagnostic → Prop
  | samePackage {mode : VisibilityMode} (same : prerequisite.label.package = rule.package) :
      VisibilityReport rule attr prerequisite mode none
  | opened {mode : VisibilityMode} (opened : prerequisite.IsOpenTo rule.package) :
      VisibilityReport rule attr prerequisite mode none
  | refused (outside : prerequisite.label.package ≠ rule.package)
      (closed : ¬ prerequisite.IsOpenTo rule.package) :
      VisibilityReport rule attr prerequisite .error
        (some (rule.attributeDiagnostic .error attr.name
          ("target '" ++ prerequisite.label.display ++ "' is not visible from target '" ++
            rule.label.display ++ "'. Check the visibility " ++
              "declaration of the former target if you think the dependency is legitimate")))
  | warned (outside : prerequisite.label.package ≠ rule.package)
      (closed : ¬ prerequisite.IsOpenTo rule.package) :
      VisibilityReport rule attr prerequisite .warn
        (some (rule.attributeDiagnostic .warning attr.name
          ("target '" ++ prerequisite.label.display ++ "' violates visibility of target '" ++
            rule.label.display ++ "'; continuing anyway")))
  | unasked : VisibilityReport rule attr prerequisite .off none

variable {rule : Rule} {attr : Attribute} {prerequisite : Prerequisite}

/-- The rules about visibility say what the policy reports. -/
theorem VisibilityReport.toList_eq {mode : VisibilityMode} {report : Option Diagnostic}
    (said : VisibilityReport rule attr prerequisite mode report) (configuration : Configuration) :
    report.toList = Policy.visibility mode rule configuration prerequisite attr := by
  unfold Policy.visibility
  cases said with
  | samePackage same => simp [same]
  | opened opened => simp [Validation.isVisible_iff.mpr opened]
  | refused outside closed =>
    simp only [outside, Bool.eq_false_iff.mpr (mt Validation.isVisible_iff.mp closed)]
    rfl
  | warned outside closed =>
    simp only [outside, Bool.eq_false_iff.mpr (mt Validation.isVisible_iff.mp closed)]
    rfl
  | unasked => simp

/-- The rules about visibility say something about every prerequisite. -/
theorem exists_visibilityReport (rule : Rule) (attr : Attribute) (prerequisite : Prerequisite)
    (mode : VisibilityMode) : ∃ report, VisibilityReport rule attr prerequisite mode report := by
  by_cases near : prerequisite.label.package = rule.package
  · exact ⟨_, .samePackage near⟩
  by_cases opened : prerequisite.IsOpenTo rule.package
  · exact ⟨_, .opened opened⟩
  cases mode with
  | error => exact ⟨_, .refused near opened⟩
  | warn => exact ⟨_, .warned near opened⟩
  | off => exact ⟨_, .unasked⟩

/-- The test of a specification decides whether it stands for a package, and the check of the
visibility of a dependency reports what the rules call for: one error or warning about a dependency
of another package of which no specification stands for the package of the rule, and nothing about
any other dependency. -/
theorem Policy.visibility_reports (mode : VisibilityMode) (rule : Rule)
    (configuration : Configuration) (prerequisite : Prerequisite) (attr : Attribute) :
    (∀ (specification : PackageSpecification) (package : String),
      specification.admits package = true ↔ specification.Admits package) ∧
    ∃ report : Option Diagnostic,
      (Analysis.reportAll (visibility mode rule configuration prerequisite attr)).Yields ()
        report.toList ∧
      ∀ other, VisibilityReport rule attr prerequisite mode other ↔ other = report := by
  obtain ⟨report, said⟩ := exists_visibilityReport rule attr prerequisite mode
  have reported := said.toList_eq configuration
  refine ⟨PackageSpecification.admits_iff, report, reported ▸ Analysis.yields_reportAll _,
    fun other => ⟨?_, ?_⟩⟩
  · intro saidToo
    have same := (saidToo.toList_eq configuration).trans reported.symm
    simpa using congrArg List.head? same
  · rintro rfl
    exact said

end BuildRules

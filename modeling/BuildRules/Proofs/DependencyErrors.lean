import BuildRules.Analysis.Dependencies

/-!
# Which dependencies are errors

For each check of a dependency the condition is stated under which the check reports no
error. Warnings do not count: a rule of a class that is admitted with a warning passes,
and so does the tree of a generated file in a fileset. Two attributes that exclude each
other pass unless both of them are set.
-/

set_option autoImplicit false

namespace BuildRules

/-! ## Lists of diagnostics without errors -/

/-- Where nothing is reported, there is no error. -/
theorem hasErrors_nil : hasErrors [] = false := rfl

/-- A warning is no error. -/
theorem hasErrors_of_warning {diagnostic : Diagnostic} (warning : diagnostic.severity = .warning) :
    hasErrors [diagnostic] = false := by
  simp [hasErrors, warning]

/-- An error that is reported is one. -/
theorem hasErrors_of_error {diagnostic : Diagnostic} (error : diagnostic.severity = .error) :
    hasErrors [diagnostic] ≠ false := by
  simp [hasErrors, error]

/-- Two lists of reports are free of errors exactly if each of them is. -/
theorem hasErrors_append_eq_false {first second : List Diagnostic} :
    hasErrors (first ++ second) = false ↔ hasErrors first = false ∧ hasErrors second = false := by
  unfold hasErrors
  rw [List.any_append, Bool.or_eq_false_iff]

/-- The reports about several items are free of errors exactly if those about each item are. -/
theorem hasErrors_flatMap_eq_false {α : Type} {items : List α} {reports : α → List Diagnostic} :
    hasErrors (items.flatMap reports) = false ↔
      ∀ item ∈ items, hasErrors (reports item) = false := by
  induction items with
  | nil => simp [hasErrors]
  | cons first rest ih =>
    rw [List.flatMap_cons, hasErrors_append_eq_false, ih, List.forall_mem_cons]

/-- Items of which each is reported once at most are free of errors exactly if no report is one. -/
theorem hasErrors_filterMap_eq_false {α : Type} {items : List α} {report? : α → Option Diagnostic} :
    hasErrors (items.filterMap report?) = false ↔
      ∀ item ∈ items, ∀ diagnostic, report? item = some diagnostic →
        diagnostic.severity ≠ .error := by
  unfold hasErrors
  rw [List.any_eq_false]
  constructor
  · intro clean item member diagnostic reported
    simpa using clean diagnostic (List.mem_filterMap.mpr ⟨item, member, reported⟩)
  · intro each diagnostic inside
    obtain ⟨item, member, reported⟩ := List.mem_filterMap.mp inside
    simpa using each item member diagnostic reported

/-! ## The checks of one dependency -/

namespace Attribute

/-- What a strict attribute admits: rules of certain classes, some of them with a warning, and
files of certain types. -/
def Admits (attr : Attribute) : Target → Prop
  | .rule dependency =>
    attr.allowedClasses.contains dependency.ruleClass.name = true ∨
      attr.warnedClasses.contains dependency.ruleClass.name = true
  | .inputFile file => attr.allowedFiles.admits file.label.fileName = true
  | .outputFile file => attr.allowedFiles.admits file.label.fileName = true

/-- Does the attribute ask anything of the files that a dependency builds? -/
def AsksFiles (attr : Attribute) : Prop :=
  attr.skipFileTypeCheck = false ∧
    ¬ (attr.allowedFiles.isAny = true ∧ attr.singleArtifact = false ∧ attr.nonEmpty = false) ∧
      attr.allowedFiles.isNothing = false

/-- What an attribute asks of the base names of the built files: one of them is admitted, and it is
the only one if there may be one only. -/
def AcceptsFiles (attr : Attribute) (names : List String) : Prop :=
  (∃ name ∈ names, attr.allowedFiles.admits name = true) ∧
    (attr.singleArtifact = true → names.length = 1)

end Attribute

namespace Validation

variable {rule : Rule} {attr : Attribute}

/-- Without a condition nothing is reported about it. -/
theorem validity_of_none {target : Target} (unconditional : attr.validity = none) :
    validity rule attr target = [] := by
  unfold validity
  rw [unconditional]
  cases target.rule? <;> rfl

/-- No error is reported about the class of a rule exactly if the attribute admits the rule. -/
theorem hasErrors_ruleClass_eq_false {dependency : Rule} :
    hasErrors (ruleClass rule attr dependency) = false ↔ attr.Admits (.rule dependency) := by
  unfold ruleClass Attribute.Admits
  dsimp only
  split
  · rename_i allowed
    exact iff_of_true rfl (.inl allowed)
  · rename_i notAllowed
    split
    · rename_i warned
      exact iff_of_true (hasErrors_of_warning rfl) (.inr warned)
    · rename_i notWarned
      exact iff_of_false (hasErrors_of_error rfl) (not_or.mpr ⟨notAllowed, notWarned⟩)

/-- No error is reported about the name of a file exactly if the attribute admits the name. -/
theorem hasErrors_fileName_eq_false {label : Label} {present : Bool} :
    hasErrors (fileName rule attr label present) = false ↔
      attr.allowedFiles.admits label.fileName = true := by
  unfold fileName
  split
  · rename_i admitted
    exact iff_of_true rfl admitted
  · rename_i refused
    refine iff_of_false ?_ refused
    cases present <;> exact hasErrors_of_error rfl

/-- No error is reported about what a dependency is unless the attribute is strict and does not
admit it. -/
theorem hasErrors_admission_eq_false {target : Target} :
    hasErrors (admission rule attr target) = false ↔ (attr.strict = true → attr.Admits target) := by
  unfold admission
  cases attr.strict with
  | false => simp [hasErrors_nil]
  | true =>
    cases target with
    | rule dependency =>
      rw [if_pos rfl, forall_prop_of_true rfl]
      exact hasErrors_ruleClass_eq_false
    | inputFile file =>
      rw [if_pos rfl, forall_prop_of_true rfl]
      exact hasErrors_fileName_eq_false
    | outputFile file =>
      rw [if_pos rfl, forall_prop_of_true rfl]
      exact hasErrors_fileName_eq_false

/-- The check of built files is not skipped exactly if the attribute asks for files. -/
theorem asksNoFiles_eq_false : asksNoFiles attr = false ↔ attr.AsksFiles := by
  unfold asksNoFiles Attribute.AsksFiles
  cases attr.skipFileTypeCheck <;> cases attr.allowedFiles.isAny <;>
    cases attr.allowedFiles.isNothing <;> cases attr.nonEmpty <;> cases attr.singleArtifact <;>
      decide

/-- No error is reported about the files that a dependency builds unless the attribute asks
something of them and does not accept them. -/
theorem hasErrors_builtFiles_eq_false {prerequisite : Prerequisite} {artifacts : List Artifact}
    (built : prerequisite.providers.files = some artifacts) :
    hasErrors (builtFiles rule attr prerequisite) = false ↔
      (attr.AsksFiles → attr.AcceptsFiles (artifacts.map Artifact.fileName)) := by
  unfold builtFiles
  rw [built, ← asksNoFiles_eq_false]
  dsimp only
  cases asksNoFiles attr with
  | true => simp [hasErrors_nil]
  | false =>
    simp only [Bool.false_eq_true, if_false, forall_const]
    have admitted :
        (artifacts.any fun artifact => attr.allowedFiles.admits artifact.fileName) = true ↔
          ∃ name ∈ artifacts.map Artifact.fileName, attr.allowedFiles.admits name = true := by
      rw [List.any_eq_true]
      constructor
      · rintro ⟨artifact, member, fits⟩
        exact ⟨_, List.mem_map_of_mem member, fits⟩
      · rintro ⟨name, member, fits⟩
        obtain ⟨artifact, inside, rfl⟩ := List.mem_map.mp member
        exact ⟨artifact, inside, fits⟩
    unfold Attribute.AcceptsFiles
    rw [← admitted, List.length_map]
    by_cases several : attr.singleArtifact = true ∧ artifacts.length ≠ 1
    · rw [if_pos (by simpa using several)]
      exact iff_of_false (hasErrors_of_error rfl) fun accepted => several.2 (accepted.2 several.1)
    · have single : attr.singleArtifact = true → artifacts.length = 1 := by
        intro asked
        exact Decidable.of_not_not fun other => several ⟨asked, other⟩
      rw [if_neg (by simpa using single)]
      split
      · rename_i some
        exact iff_of_true rfl ⟨some, single⟩
      · rename_i none
        exact iff_of_false (hasErrors_of_error rfl) fun accepted => none accepted.1

end Validation

/-- In the strict mode no error is reported about the visibility of a dependency of the same package
or of one whose visibility admits the package. -/
theorem Policy.hasErrors_visibility_eq_false {rule : Rule} {configuration : Configuration}
    {prerequisite : Prerequisite} {attr : Attribute} :
    hasErrors (Policy.visibility .error rule configuration prerequisite attr) = false ↔
      prerequisite.label.package = rule.package ∨
        ∃ specification ∈ prerequisite.providers.visibility.getD [],
          specification.admits rule.package = true := by
  have visible : Validation.isVisible rule prerequisite.configured = true ↔
      ∃ specification ∈ prerequisite.providers.visibility.getD [],
        specification.admits rule.package = true := by
    unfold Validation.isVisible
    rw [List.any_eq_true]
    rfl
  unfold visibility
  rw [← visible]
  dsimp only
  split
  · rename_i admitted
    exact iff_of_true rfl (by simpa using admitted)
  · rename_i refused
    exact iff_of_false (hasErrors_of_error rfl) (by simpa using refused)

/-- Nothing that is reported about a dependency is an error if the attribute admits it, the files
that it builds are accepted, and the rule may see it. -/
theorem Validation.hasErrors_validate_eq_false {rule : Rule} {configuration : Configuration}
    {attr : Attribute} {prerequisite : Prerequisite} {artifacts : List Artifact}
    (unconditional : attr.validity = none) (built : prerequisite.providers.files = some artifacts) :
    hasErrors (validate (.visibility .error) rule configuration attr prerequisite) = false ↔
      (attr.strict = true → attr.Admits prerequisite.target) ∧
      (attr.AsksFiles → attr.AcceptsFiles (artifacts.map Artifact.fileName)) ∧
      (prerequisite.label.package = rule.package ∨
        ∃ specification ∈ prerequisite.providers.visibility.getD [],
          specification.admits rule.package = true) := by
  unfold validate
  rw [validity_of_none unconditional, List.nil_append, hasErrors_append_eq_false,
    hasErrors_append_eq_false, hasErrors_admission_eq_false, hasErrors_builtFiles_eq_false built,
    Policy.hasErrors_visibility_eq_false, and_assoc]

/-! ## The checks of a rule -/

namespace Rule

/-- No error is reported about attributes that exclude each other unless both are set. -/
theorem hasErrors_exclusionDiagnostics_eq_false {rule : Rule} :
    hasErrors rule.exclusionDiagnostics = false ↔
      ∀ pair ∈ rule.ruleClass.exclusive,
        ¬ (rule.isExplicit pair.1 = true ∧ rule.isExplicit pair.2 = true) := by
  unfold exclusionDiagnostics
  rw [hasErrors_filterMap_eq_false]
  constructor
  · intro clean pair member both
    exact clean pair member _ (if_pos (by simp [both])) rfl
  · intro apart pair member diagnostic reported
    have both : rule.isExplicit pair.1 = true ∧ rule.isExplicit pair.2 = true := by
      dsimp only at reported
      split at reported
      · rename_i set
        simpa using set
      · cases reported
    exact absurd both (apart pair member)

/-! ## The trees of fileset entries -/

/-- The error about a rule whose tree a fileset entry cannot take. -/
def noFileset (rule : Rule) (attr : Attribute) (label : Label) : Diagnostic :=
  rule.attributeDiagnostic .error attr.name
    ("invalid 'srcdir' target '" ++ label.display ++ "'. Must be another fileset or package")

/-- The warning about a generated file of which a fileset entry takes the tree. -/
def generatedTree (rule : Rule) (attr : Attribute) (label : Label) : Diagnostic :=
  rule.attributeDiagnostic .warning attr.name
    ("'srcdir' target '" ++ label.display ++
      "' is not an input file. This forces the fileset to be " ++ "executed unconditionally")

/-- A tree that is fit for a fileset is kept without a word. -/
theorem checkSubtree_of_fits {rule : Rule} {attr : Attribute} {entry : FilesetEntry}
    {source : Prerequisite}
    (fits : source.providers.fileset.isSome = true ∨ entry.source.name = "BUILD" ∨
      source.target.isInputFile = true) : rule.checkSubtree attr entry source = (true, []) := by
  unfold checkSubtree FilesetEntry.isSourceDirectory
  dsimp only
  rcases fits with provided | named | isFile
  · rw [if_pos (by simp [provided])]
  · rw [if_pos (by simp [named])]
  · cases kind : source.target with
    | inputFile file => exact ite_self _
    | rule dependency => rw [kind] at isFile; cases isFile
    | outputFile file => rw [kind] at isFile; cases isFile

/-- The tree of a rule that is no fileset is dropped with an error. -/
theorem checkSubtree_of_rule {rule dependency : Rule} {attr : Attribute}
    {entry : FilesetEntry} {source : Prerequisite} (isRule : source.target = .rule dependency)
    (notProvided : source.providers.fileset = none) (other : entry.source.name ≠ "BUILD") :
    rule.checkSubtree attr entry source = (false, [rule.noFileset attr source.label]) := by
  unfold checkSubtree FilesetEntry.isSourceDirectory
  dsimp only
  rw [if_neg (by simp [notProvided, other]), isRule]
  rfl

/-- The tree of a generated file that provides no fileset is kept with a warning. -/
theorem checkSubtree_of_generated {rule : Rule} {attr : Attribute} {entry : FilesetEntry}
    {source : Prerequisite} {file : OutputFile} (isFile : source.target = .outputFile file)
    (notProvided : source.providers.fileset = none) (other : entry.source.name ≠ "BUILD") :
    rule.checkSubtree attr entry source = (true, [rule.generatedTree attr source.label]) := by
  unfold checkSubtree FilesetEntry.isSourceDirectory
  dsimp only
  rw [if_neg (by simp [notProvided, other]), isFile]
  rfl

/-- No error is reported about the tree of a fileset entry unless it belongs to a rule that is no
fileset, and is not the tree of a build file. -/
theorem hasErrors_checkSubtree_eq_false {rule : Rule} {attr : Attribute}
    {entry : FilesetEntry} {source : Prerequisite} :
    hasErrors (rule.checkSubtree attr entry source).2 = false ↔
      (source.target.isFile = false →
        source.providers.fileset.isSome = true ∨ entry.source.name = "BUILD") := by
  by_cases fits : source.providers.fileset.isSome = true ∨ entry.source.name = "BUILD"
  · rw [checkSubtree_of_fits (fits.imp_right .inl)]
    exact iff_of_true rfl fun _ => fits
  · obtain ⟨notProvided, other⟩ := not_or.mp fits
    rw [Option.not_isSome_iff_eq_none] at notProvided
    cases kind : source.target with
    | rule dependency =>
      rw [checkSubtree_of_rule kind notProvided other]
      exact iff_of_false (hasErrors_of_error rfl) fun kept => fits (kept rfl)
    | outputFile file =>
      rw [checkSubtree_of_generated kind notProvided other]
      exact iff_of_true (hasErrors_of_warning rfl) fun isRule => nomatch isRule
    | inputFile file =>
      rw [checkSubtree_of_fits (.inr (.inr (kind ▸ rfl)))]
      exact iff_of_true rfl fun isRule => nomatch isRule

end Rule

end BuildRules

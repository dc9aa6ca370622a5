import BuildRules.Proofs.DependencyErrors

/-!
# What is reported about one dependency

Four checks look at a dependency, and each of them has at most one thing to say about it.
What that is, is said here by rules: the condition of the attribute, the rule classes and
files that a strict attribute admits, the files that the dependency builds, and the tree
that a fileset entry takes. A rule names the case and the whole diagnostic, with its
severity and its wording.

Every case is covered, and where two rules of a check apply to one dependency they say
the same. So the rules determine what is reported, and it is what the checks report.
-/

set_option autoImplicit false

namespace BuildRules

/-! ## The rules -/

/-- What the condition of an attribute reports: a reason that it has against a rule. -/
inductive ConditionReport (rule : Rule) (attr : Attribute) : Target → Option Diagnostic → Prop
  | refused {dependency : Rule} {condition : ValidityPredicate} {reason : String}
      (declared : attr.validity = some condition)
      (against : condition rule.view dependency.view = some reason) :
      ConditionReport rule attr (.rule dependency)
        (some (rule.attributeDiagnostic .error attr.name
          (dependency.kind ++ " '" ++ dependency.label.display ++ "' is misplaced here (" ++
            reason ++ ").")))
  | accepted {dependency : Rule} {condition : ValidityPredicate}
      (declared : attr.validity = some condition)
      (nothing : condition rule.view dependency.view = none) :
      ConditionReport rule attr (.rule dependency) none
  | unconditional {target : Target} (undeclared : attr.validity = none) :
      ConditionReport rule attr target none
  | file {target : Target} (isFile : target.isFile = true) : ConditionReport rule attr target none

/-- What is reported about a dependency that a strict attribute does not admit, or admits with a
warning. -/
inductive AdmissionReport (rule : Rule) (attr : Attribute) : Target → Option Diagnostic → Prop
  | lenient {target : Target} (notStrict : attr.strict = false) :
      AdmissionReport rule attr target none
  | allowedRule {dependency : Rule} (strict : attr.strict = true)
      (allowed : attr.allowedClasses.contains dependency.ruleClass.name = true) :
      AdmissionReport rule attr (.rule dependency) none
  | warnedRule {dependency : Rule} (strict : attr.strict = true)
      (notAllowed : attr.allowedClasses.contains dependency.ruleClass.name = false)
      (warned : attr.warnedClasses.contains dependency.ruleClass.name = true) :
      AdmissionReport rule attr (.rule dependency)
        (some (rule.attributeDiagnostic .warning attr.name
          (dependency.kind ++ " '" ++ dependency.label.display ++ "' is unexpected here (" ++
            ("expected " ++ attr.allowedClasses.display) ++ "); continuing anyway")))
  | refusedRule {dependency : Rule} (strict : attr.strict = true)
      (notAllowed : attr.allowedClasses.contains dependency.ruleClass.name = false)
      (notWarned : attr.warnedClasses.contains dependency.ruleClass.name = false) :
      AdmissionReport rule attr (.rule dependency)
        (some (rule.attributeDiagnostic .error attr.name
          (dependency.kind ++ " '" ++ dependency.label.display ++ "' is misplaced here (" ++
            ("expected " ++ attr.allowedClasses.display) ++ ").")))
  | admittedFile {target : Target} {name : String} (strict : attr.strict = true)
      (named : target.fileName? = some name) (admitted : attr.allowedFiles.admits name = true) :
      AdmissionReport rule attr target none
  | missingRule {file : InputFile} (strict : attr.strict = true)
      (refused : attr.allowedFiles.admits file.label.fileName = false)
      (missing : file.present = false) (noFiles : attr.allowedFiles.isNothing = true)
      (noPoint : '.' ∉ file.label.fileName.toList) :
      AdmissionReport rule attr (.inputFile file)
        (some (rule.attributeDiagnostic .error attr.name
          ("rule" ++ " '" ++ file.label.display ++ "' does not exist")))
  | missingTarget {file : InputFile} (strict : attr.strict = true)
      (refused : attr.allowedFiles.admits file.label.fileName = false)
      (missing : file.present = false)
      (noRule : attr.allowedFiles.isNothing = true → '.' ∈ file.label.fileName.toList) :
      AdmissionReport rule attr (.inputFile file)
        (some (rule.attributeDiagnostic .error attr.name
          ("target" ++ " '" ++ file.label.display ++ "' does not exist")))
  | misplacedFile {target : Target} {name : String} (strict : attr.strict = true)
      (named : target.fileName? = some name) (refused : attr.allowedFiles.admits name = false)
      (present : ∀ file, target = .inputFile file → file.present = true) :
      AdmissionReport rule attr target
        (some (rule.attributeDiagnostic .error attr.name
          ("file" ++ " '" ++ target.label.display ++ "' is misplaced here (" ++
            ("expected " ++ attr.allowedFiles.display) ++ ").")))

/-- What is reported about the files that a dependency builds, where an attribute asks for some. -/
inductive FilesReport (rule : Rule) (attr : Attribute) (prerequisite : Prerequisite) :
    Option Diagnostic → Prop
  | notAsked (unasked : ¬ attr.AsksFiles) : FilesReport rule attr prerequisite none
  | unknown (asked : attr.AsksFiles) (unknown : prerequisite.providers.files = none) :
      FilesReport rule attr prerequisite none
  | notSingle {artifacts : List Artifact} (asked : attr.AsksFiles)
      (known : prerequisite.providers.files = some artifacts)
      (single : attr.singleArtifact = true) (several : artifacts.length ≠ 1) :
      FilesReport rule attr prerequisite
        (some (rule.attributeDiagnostic .error attr.name
          ("'" ++ prerequisite.label.display ++ "' must produce a single file")))
  | produced {artifacts : List Artifact} (asked : attr.AsksFiles)
      (known : prerequisite.providers.files = some artifacts)
      (number : attr.singleArtifact = true → artifacts.length = 1)
      (admitted : ∃ artifact ∈ artifacts, attr.allowedFiles.admits artifact.fileName = true) :
      FilesReport rule attr prerequisite none
  | notProduced {artifacts : List Artifact} (asked : attr.AsksFiles)
      (known : prerequisite.providers.files = some artifacts)
      (number : attr.singleArtifact = true → artifacts.length = 1)
      (refused : ∀ artifact ∈ artifacts, attr.allowedFiles.admits artifact.fileName = false) :
      FilesReport rule attr prerequisite
        (some (rule.attributeDiagnostic .error attr.name
          ("'" ++ prerequisite.label.display ++ "' does not produce any " ++ rule.ruleClass.name ++
            " " ++ maskedName attr.name ++ " files (expected " ++ attr.allowedFiles.display ++
            ")")))

/-- What is reported about the tree that a fileset entry takes: it should be that of a fileset, of a
build file or of a source file. -/
inductive TreeReport (rule : Rule) (attr : Attribute) (entry : FilesetEntry)
    (source : Prerequisite) : Option Diagnostic → Prop
  | fileset (provided : source.providers.fileset.isSome = true) :
      TreeReport rule attr entry source none
  | buildFile (named : entry.source.name = "BUILD") : TreeReport rule attr entry source none
  | sourceFile {file : InputFile} (isFile : source.target = .inputFile file) :
      TreeReport rule attr entry source none
  | generated {file : OutputFile} (isFile : source.target = .outputFile file)
      (notProvided : source.providers.fileset = none) (other : entry.source.name ≠ "BUILD") :
      TreeReport rule attr entry source
        (some (rule.attributeDiagnostic .warning attr.name
          ("'srcdir' target '" ++ source.label.display ++
            "' is not an input file. This forces the fileset to be " ++
              "executed unconditionally")))
  | rule {dependency : Rule} (isRule : source.target = .rule dependency)
      (notProvided : source.providers.fileset = none) (other : entry.source.name ≠ "BUILD") :
      TreeReport rule attr entry source
        (some (rule.attributeDiagnostic .error attr.name
          ("invalid 'srcdir' target '" ++ source.label.display ++
            "'. Must be another fileset or package")))

/-- What is reported about a dependency: what its condition, its admission and its files call for,
each at most one thing, and then what the policy reports. -/
inductive EdgeReports (policy : Policy) (rule : Rule) (configuration : Configuration)
    (attr : Attribute) (prerequisite : Prerequisite) : List Diagnostic → Prop
  | intro {condition admission files : Option Diagnostic}
      (byCondition : ConditionReport rule attr prerequisite.target condition)
      (byAdmission : AdmissionReport rule attr prerequisite.target admission)
      (byFiles : FilesReport rule attr prerequisite files) :
      EdgeReports policy rule configuration attr prerequisite
        (condition.toList ++ admission.toList ++ files.toList ++
          policy rule configuration prerequisite attr)

namespace Validation

variable {rule : Rule} {attr : Attribute} {label : Label}

/-- Nothing is reported about a file of which the name is admitted. -/
theorem fileName_of_admitted (admitted : attr.allowedFiles.admits label.fileName = true)
    (present : Bool) : fileName rule attr label present = [] := by
  unfold fileName
  rw [if_pos admitted]

/-- A file that exists and is not admitted is reported as misplaced. -/
theorem fileName_of_present (refused : attr.allowedFiles.admits label.fileName = false) :
    fileName rule attr label true =
      [misplaced rule attr "file" label ("expected " ++ attr.allowedFiles.display)] := by
  unfold fileName
  rw [refused, if_neg Bool.false_ne_true, if_pos rfl]

/-- A file that does not exist and is not admitted is reported as missing. -/
theorem fileName_of_missing (refused : attr.allowedFiles.admits label.fileName = false) :
    fileName rule attr label false = [missingFile rule attr label] := by
  unfold fileName
  rw [refused, if_neg Bool.false_ne_true, if_neg Bool.false_ne_true]

end Validation

/-! ## The checks report what the rules say -/

variable {rule : Rule} {attr : Attribute}

/-- The rules about conditions say what the check of the condition reports. -/
theorem ConditionReport.toList_eq {target : Target} {report : Option Diagnostic}
    (said : ConditionReport rule attr target report) :
    report.toList = Validation.validity rule attr target := by
  unfold Validation.validity
  cases said with
  | refused declared against =>
    rw [declared]
    dsimp only [Target.rule?]
    rw [against]
    rfl
  | accepted declared nothing =>
    rw [declared]
    dsimp only [Target.rule?]
    rw [nothing]
    rfl
  | unconditional undeclared =>
    rw [undeclared]
    cases target.rule? <;> rfl
  | file isFile =>
    have noRule : target.rule? = none := Option.isNone_iff_eq_none.mp isFile
    rw [noRule]
    rfl

/-- The rules about conditions say something about every target. -/
theorem exists_conditionReport (rule : Rule) (attr : Attribute) (target : Target) :
    ∃ report, ConditionReport rule attr target report := by
  cases target with
  | rule dependency =>
    cases declared : attr.validity with
    | none => exact ⟨_, .unconditional declared⟩
    | some condition =>
      cases answer : condition rule.view dependency.view with
      | none => exact ⟨_, .accepted declared answer⟩
      | some reason => exact ⟨_, .refused declared answer⟩
  | inputFile file => exact ⟨_, .file rfl⟩
  | outputFile file => exact ⟨_, .file rfl⟩

/-- The rules about admission say what the check of classes and files reports. -/
theorem AdmissionReport.toList_eq {target : Target} {report : Option Diagnostic}
    (said : AdmissionReport rule attr target report) :
    report.toList = Validation.admission rule attr target := by
  unfold Validation.admission
  cases said with
  | lenient notStrict => rw [notStrict]; rfl
  | allowedRule strict allowed =>
    rw [if_pos strict]
    dsimp only [Validation.ruleClass]
    rw [if_pos allowed]
    rfl
  | warnedRule strict notAllowed warned =>
    rw [if_pos strict]
    dsimp only [Validation.ruleClass]
    rw [notAllowed, if_neg Bool.false_ne_true, if_pos warned]
    rfl
  | refusedRule strict notAllowed notWarned =>
    rw [if_pos strict]
    dsimp only [Validation.ruleClass]
    rw [notAllowed, if_neg Bool.false_ne_true, notWarned, if_neg Bool.false_ne_true]
    rfl
  | admittedFile strict named admitted =>
    rw [if_pos strict]
    cases target with
    | rule dependency => cases named
    | inputFile file =>
      cases named
      exact (Validation.fileName_of_admitted admitted _).symm
    | outputFile file =>
      cases named
      exact (Validation.fileName_of_admitted admitted _).symm
  | missingRule strict refused missing noFiles noPoint =>
    rw [if_pos strict]
    dsimp only
    rw [missing, Validation.fileName_of_missing refused]
    dsimp only [Validation.missingFile]
    rw [if_pos (by simp [noFiles, noPoint])]
    rfl
  | missingTarget strict refused missing noRule =>
    rw [if_pos strict]
    dsimp only
    rw [missing, Validation.fileName_of_missing refused]
    dsimp only [Validation.missingFile]
    rw [if_neg (by simpa using noRule)]
    rfl
  | misplacedFile strict named refused present =>
    rw [if_pos strict]
    cases target with
    | rule dependency => cases named
    | inputFile file =>
      cases named
      dsimp only
      rw [present file rfl]
      exact (Validation.fileName_of_present refused).symm
    | outputFile file =>
      cases named
      exact (Validation.fileName_of_present refused).symm

/-- The rules about admission say something about every target. -/
theorem exists_admissionReport (rule : Rule) (attr : Attribute) (target : Target) :
    ∃ report, AdmissionReport rule attr target report := by
  cases strict : attr.strict with
  | false => exact ⟨_, .lenient strict⟩
  | true =>
    cases target with
    | rule dependency =>
      cases allowed : attr.allowedClasses.contains dependency.ruleClass.name with
      | true => exact ⟨_, .allowedRule strict allowed⟩
      | false =>
        cases warned : attr.warnedClasses.contains dependency.ruleClass.name with
        | true => exact ⟨_, .warnedRule strict allowed warned⟩
        | false => exact ⟨_, .refusedRule strict allowed warned⟩
    | outputFile file =>
      cases admitted : attr.allowedFiles.admits file.label.fileName with
      | true => exact ⟨_, .admittedFile strict rfl admitted⟩
      | false => exact ⟨_, .misplacedFile strict rfl admitted (fun _ same => nomatch same)⟩
    | inputFile file =>
      cases admitted : attr.allowedFiles.admits file.label.fileName with
      | true => exact ⟨_, .admittedFile strict rfl admitted⟩
      | false =>
        cases present : file.present with
        | true =>
          refine ⟨_, .misplacedFile strict rfl admitted ?_⟩
          rintro other same
          cases same
          exact present
        | false =>
          by_cases isRule :
            attr.allowedFiles.isNothing = true ∧ '.' ∉ file.label.fileName.toList
          · exact ⟨_, .missingRule strict admitted present isRule.1 isRule.2⟩
          · refine ⟨_, .missingTarget strict admitted present ?_⟩
            intro noFiles
            exact Decidable.of_not_not fun noPoint => isRule ⟨noFiles, noPoint⟩

/-- The rules about built files say what their check reports. -/
theorem FilesReport.toList_eq {prerequisite : Prerequisite} {report : Option Diagnostic}
    (said : FilesReport rule attr prerequisite report) :
    report.toList = Validation.builtFiles rule attr prerequisite := by
  unfold Validation.builtFiles
  cases said with
  | notAsked unasked =>
    rw [← Validation.asksNoFiles_eq_false, Bool.not_eq_false] at unasked
    rw [if_pos unasked]
    rfl
  | unknown asked unknown =>
    rw [Validation.asksNoFiles_eq_false.mpr asked, if_neg Bool.false_ne_true, unknown]
    rfl
  | notSingle asked known single several =>
    rw [Validation.asksNoFiles_eq_false.mpr asked, if_neg Bool.false_ne_true, known]
    dsimp only
    rw [if_pos (by simp [single, several])]
    rfl
  | produced asked known number admitted =>
    rw [Validation.asksNoFiles_eq_false.mpr asked, if_neg Bool.false_ne_true, known]
    dsimp only
    rw [if_neg (by simpa using number), if_pos (List.any_eq_true.mpr admitted)]
    rfl
  | notProduced asked known number refused =>
    rw [Validation.asksNoFiles_eq_false.mpr asked, if_neg Bool.false_ne_true, known]
    dsimp only
    rw [if_neg (by simpa using number), if_neg (by simpa using refused)]
    rfl

/-- The rules about built files say something about every prerequisite. -/
theorem exists_filesReport (rule : Rule) (attr : Attribute) (prerequisite : Prerequisite) :
    ∃ report, FilesReport rule attr prerequisite report := by
  by_cases asked : attr.AsksFiles
  · cases known : prerequisite.providers.files with
    | none => exact ⟨_, .unknown asked known⟩
    | some artifacts =>
      by_cases several : attr.singleArtifact = true ∧ artifacts.length ≠ 1
      · exact ⟨_, .notSingle asked known several.1 several.2⟩
      · have number : attr.singleArtifact = true → artifacts.length = 1 := fun single =>
          Decidable.of_not_not fun other => several ⟨single, other⟩
        by_cases admitted :
          ∃ artifact ∈ artifacts, attr.allowedFiles.admits artifact.fileName = true
        · exact ⟨_, .produced asked known number admitted⟩
        · refine ⟨_, .notProduced asked known number ?_⟩
          intro artifact member
          exact Bool.eq_false_iff.mpr fun fits => admitted ⟨artifact, member, fits⟩
  · exact ⟨_, .notAsked asked⟩

/-- What is reported about a dependency is what its checks report, and nothing else is. -/
theorem edgeReports_iff {policy : Policy} {configuration : Configuration}
    {prerequisite : Prerequisite} {reported : List Diagnostic} :
    EdgeReports policy rule configuration attr prerequisite reported ↔
      reported = Validation.validate policy rule configuration attr prerequisite := by
  unfold Validation.validate
  constructor
  · rintro ⟨byCondition, byAdmission, byFiles⟩
    rw [byCondition.toList_eq, byAdmission.toList_eq, byFiles.toList_eq]
  · rintro rfl
    obtain ⟨condition, byCondition⟩ := exists_conditionReport rule attr prerequisite.target
    obtain ⟨admission, byAdmission⟩ := exists_admissionReport rule attr prerequisite.target
    obtain ⟨files, byFiles⟩ := exists_filesReport rule attr prerequisite
    rw [← byCondition.toList_eq, ← byAdmission.toList_eq, ← byFiles.toList_eq]
    exact .intro byCondition byAdmission byFiles

/-- The rules about trees say what their check reports. -/
theorem TreeReport.toList_eq {entry : FilesetEntry} {source : Prerequisite}
    {report : Option Diagnostic} (said : TreeReport rule attr entry source report) :
    report.toList = (rule.checkSubtree attr entry source).2 := by
  cases said with
  | fileset provided =>
    rw [Rule.checkSubtree_of_fits (.inl provided)]
    rfl
  | buildFile named =>
    rw [Rule.checkSubtree_of_fits (.inr (.inl named))]
    rfl
  | sourceFile isFile =>
    rw [Rule.checkSubtree_of_fits (.inr (.inr (isFile ▸ rfl)))]
    rfl
  | generated isFile notProvided other =>
    rw [Rule.checkSubtree_of_generated isFile notProvided other]
    rfl
  | rule isRule notProvided other =>
    rw [Rule.checkSubtree_of_rule isRule notProvided other]
    rfl

/-- The rules about trees say something about every source of an entry. -/
theorem exists_treeReport (rule : Rule) (attr : Attribute) (entry : FilesetEntry)
    (source : Prerequisite) : ∃ report, TreeReport rule attr entry source report := by
  cases provided : source.providers.fileset with
  | some tree => exact ⟨_, .fileset (by rw [provided]; rfl)⟩
  | none =>
    by_cases named : entry.source.name = "BUILD"
    · exact ⟨_, .buildFile named⟩
    · cases kind : source.target with
      | rule dependency => exact ⟨_, .rule kind provided named⟩
      | inputFile file => exact ⟨_, .sourceFile kind⟩
      | outputFile file => exact ⟨_, .generated kind provided named⟩

/-- What is reported about the tree of a fileset entry is what its check reports, and nothing else
is. -/
theorem treeReports_iff {entry : FilesetEntry} {source : Prerequisite}
    {reported : List Diagnostic} :
    (∃ report, TreeReport rule attr entry source report ∧ reported = report.toList) ↔
      reported = (rule.checkSubtree attr entry source).2 := by
  constructor
  · rintro ⟨report, said, rfl⟩
    exact said.toList_eq
  · rintro rfl
    obtain ⟨report, said⟩ := exists_treeReport rule attr entry source
    exact ⟨report, said, said.toList_eq.symm⟩

end BuildRules

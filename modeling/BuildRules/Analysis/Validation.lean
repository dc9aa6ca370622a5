import BuildRules.Analysis.Prerequisite
import BuildRules.Diagnostic
import BuildRules.Options

/-!
# Checks of single dependencies

Each check looks at one dependency of a rule and gives the diagnostics it has about it.
`validate` puts them in order: the condition of the attribute on rules, the admitted rule
classes and files, the files that the dependency builds, and last a policy, which is
whatever else the dependencies of a rule are to be checked for.
-/

set_option autoImplicit false

namespace BuildRules

/-- A check of the dependencies of a rule that is analyzed in some configuration. It gives what it
has to report and does not see the record into which this goes: what was reported before
cannot change what a policy says. -/
abbrev Policy := Rule → Configuration → Prerequisite → Attribute → List Diagnostic

namespace Validation

def isVisible (rule : Rule) (target : ConfiguredTarget) : Bool :=
  (target.providers.visibility.getD []).any (·.admits rule.package)

def misplaced (rule : Rule) (attr : Attribute) (kind : String) (label : Label) (reason : String) :
    Diagnostic :=
  rule.attributeDiagnostic .error attr.name (s!"{kind} '{label}' is misplaced here ({reason}).")

/-- A dependency that is admitted with a warning. -/
def unexpected (rule : Rule) (attr : Attribute) (kind : String) (label : Label) (reason : String) :
    Diagnostic :=
  rule.attributeDiagnostic .warning attr.name
    (s!"{kind} '{label}' is unexpected here ({reason}); continuing anyway")

def validity (rule : Rule) (attr : Attribute) (target : Target) : List Diagnostic :=
  match target.rule?, attr.validity with
  | some dependency, some condition =>
    match condition rule.view dependency.view with
    | some reason => [misplaced rule attr target.kind target.label reason]
    | none => []
  | _, _ => []

/-- A rule whose class a strict attribute does not admit. -/
def ruleClass (rule : Rule) (attr : Attribute) (dependency : Rule) : List Diagnostic :=
  let name := dependency.ruleClass.name
  let reason := "expected " ++ attr.allowedClasses.display
  if attr.allowedClasses.contains name then []
  else if attr.warnedClasses.contains name then
    [unexpected rule attr dependency.kind dependency.label reason]
  else [misplaced rule attr dependency.kind dependency.label reason]

/-- A source file that does not exist and that a strict attribute does not admit; without any
admitted file, a name without a point is taken for the name of a rule. -/
def missingFile (rule : Rule) (attr : Attribute) (label : Label) : Diagnostic :=
  let kind := if attr.allowedFiles.isNothing && '.' ∉ label.fileName.toList then "rule" else "target"
  rule.attributeDiagnostic .error attr.name s!"{kind} '{label}' does not exist"

/-- A file that a strict attribute does not admit. -/
def fileName (rule : Rule) (attr : Attribute) (label : Label) (present : Bool) :
    List Diagnostic :=
  if attr.allowedFiles.admits label.fileName then []
  else if present then
    [misplaced rule attr "file" label ("expected " ++ attr.allowedFiles.display)]
  else [missingFile rule attr label]

/-- The rule classes and files that a strict attribute admits. -/
def admission (rule : Rule) (attr : Attribute) (target : Target) : List Diagnostic :=
  if attr.strict then
    match target with
    | .rule dependency => ruleClass rule attr dependency
    | .inputFile file => fileName rule attr file.label file.present
    | .outputFile file => fileName rule attr file.label true
  else []

/-- Does the attribute ask nothing of the files that a dependency builds? -/
def asksNoFiles (attr : Attribute) : Bool :=
  attr.skipFileTypeCheck || (attr.allowedFiles.isAny && !attr.nonEmpty && !attr.singleArtifact) ||
    attr.allowedFiles.isNothing

def builtFiles (rule : Rule) (attr : Attribute) (prerequisite : Prerequisite) : List Diagnostic :=
  if asksNoFiles attr then []
  else
    match prerequisite.providers.files with
    | none => []
    | some artifacts =>
      let label := prerequisite.label
      if attr.singleArtifact && artifacts.length ≠ 1 then
        [rule.attributeDiagnostic .error attr.name s!"'{label}' must produce a single file"]
      else if artifacts.any fun artifact => attr.allowedFiles.admits artifact.fileName then []
      else
        let className := rule.ruleClass.name
        let shown := maskedName attr.name
        let allowed := attr.allowedFiles.display
        [rule.attributeDiagnostic .error attr.name
          s!"'{label}' does not produce any {className} {shown} files (expected {allowed})"]

def validate (policy : Policy) (rule : Rule) (configuration : Configuration) (attr : Attribute)
    (prerequisite : Prerequisite) : List Diagnostic :=
  validity rule attr prerequisite.target ++ admission rule attr prerequisite.target ++
    builtFiles rule attr prerequisite ++ policy rule configuration prerequisite attr

end Validation

namespace Policy

def allowAll : Policy := fun _ _ _ _ => []

/-- Reports a dependency on a target of another package that the rule may not see. -/
def visibility (mode : VisibilityMode) : Policy := fun rule _ prerequisite attr =>
  let label := prerequisite.label
  let dependent := rule.label
  if label.package = rule.package || Validation.isVisible rule prerequisite.configured then []
  else
    match mode with
    | .off => []
    | .error =>
      [rule.attributeDiagnostic .error attr.name
        (s!"target '{label}' is not visible from target '{dependent}'. Check the visibility " ++
          "declaration of the former target if you think the dependency is legitimate")]
    | .warn =>
      [rule.attributeDiagnostic .warning attr.name
        s!"target '{label}' violates visibility of target '{dependent}'; continuing anyway"]

end Policy

def AnalysisOptions.policy (options : AnalysisOptions) : Policy :=
  .visibility options.visibility

end BuildRules

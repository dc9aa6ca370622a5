import BuildRules.Target

/-!
# Diagnostics

A diagnostic is an error or a warning at a location. What is said about a rule names the
rule, and what is said about an attribute names the attribute as well, unless it is an
implicit one.
-/

set_option autoImplicit false

namespace BuildRules

/-- How bad a diagnostic is. -/
inductive Severity where
  | error
  | warning
  deriving DecidableEq, Repr

def Severity.display : Severity → String
  | .error => "ERROR"
  | .warning => "WARNING"

/-- One error or warning. -/
structure Diagnostic where
  severity : Severity
  location : Location
  message : String
  deriving DecidableEq, Repr

def Diagnostic.display (diagnostic : Diagnostic) : String :=
  diagnostic.severity.display ++ " " ++ diagnostic.location.display ++ ": " ++ diagnostic.message

def hasErrors (diagnostics : List Diagnostic) : Bool := diagnostics.any (·.severity = .error)

def maskedName (name : String) : String :=
  if isImplicitName name then "(an implicit dependency)" else name

namespace Rule

def subject (rule : Rule) : String := rule.kind ++ " " ++ rule.label.display

def diagnostic (rule : Rule) (severity : Severity) (text : String) : Diagnostic :=
  ⟨severity, rule.location, "in " ++ rule.subject ++ ": " ++ text⟩

def attributeDiagnostic (rule : Rule) (severity : Severity) (name text : String) : Diagnostic :=
  ⟨severity, rule.attributeLocation name,
    "in " ++ maskedName name ++ " attribute of " ++ rule.subject ++ ": " ++ text⟩

end Rule

end BuildRules

import BuildRules.Configuration
import BuildRules.Target

/-!
# Aborted analyses

What a build file gets wrong is reported and the analysis goes on. An `Abort` is the
other kind of failure: the analysis was set up without something it needs, or it asks
for what the class of its rule does not declare. It ends the analysis of that rule.
-/

set_option autoImplicit false

namespace BuildRules

/-- Why an analysis ends. -/
inductive Abort where
  | noTransition (rule : Label)
  | noPrerequisites (rule : Label)
  | notLoaded (location : Location) (target rule : Label) (attrName : String) (cause : LoadError)
  | noConfiguration (location : Location) (kind : String) (target rule : Label) (attrName : String)
  | notAnalyzed (location : Location) (target : Label) (configuration : Option Configuration)
      (attrName : String) (rule : Label)
  | undeclared (location : Location) (className attrName : String)
  | otherMode (location : Location) (className attrName : String) (mode : Mode)
  | notLabels (className attrName : String)
  | manyPrerequisites (className attrName : String)
  | notExecutable (className attrName : String)
  | notNodepLabel (className attrName : String)
  | implicitOutputs (location : Location) (rule : Label) (count : Nat)
  deriving DecidableEq

def Abort.message : Abort → String
  | .noTransition rule => s!"rule context for {rule} built without a configuration transition"
  | .noPrerequisites rule => s!"rule context for {rule} built without a prerequisite map"
  | .notLoaded location target rule attrName cause =>
    location.display ++ s!": {target} of {rule} in attribute '{attrName}' was not loaded: " ++
      cause.message
  | .noConfiguration location kind target rule attrName =>
    location.display ++
      s!": no configuration for {kind} {target} in attribute '{attrName}' of {rule}"
  | .notAnalyzed location target configuration attrName rule =>
    let setting := (configuration.map Configuration.display).getD "<none>"
    location.display ++ s!": prerequisite {target} in configuration {setting} of attribute " ++
      s!"'{attrName}' of {rule} was not analyzed"
  | .undeclared location className attrName =>
    location.display ++ s!": {className} attribute {attrName} is not defined"
  | .otherMode location className attrName mode =>
    location.display ++ s!": {className} attribute {attrName} is not configured for the " ++
      mode.display ++ " configuration"
  | .notLabels className attrName => s!"{className} attribute {attrName} is not a label type attribute"
  | .manyPrerequisites className attrName =>
    s!"{className} attribute {attrName} produces more than one prerequisite"
  | .notExecutable className attrName =>
    s!"{className} attribute {attrName} is not configured to be executable"
  | .notNodepLabel className attrName =>
    s!"{className} attribute {attrName} is not a nodep label attribute"
  | .implicitOutputs location rule count =>
    location.display ++ s!": implicit outputs of {rule} must be exactly one path, got {count}"

end BuildRules

import BuildRules.Json.Fault

/-!
# Recoverable failures

Everything that can go wrong while labels, schemas and manifests are read is one
`LoadError`. Its wording is `LoadError.message`. An error may say that a target
could not be loaded, or that a declaration of a rule class or of a file type is at
fault; `isLoading` and `isSchema` tell these two families from the rest.

A misuse of the analysis is no error of this kind: it aborts the analysis of the
rule at hand.
-/

set_option autoImplicit false

namespace BuildRules

/-- A recoverable failure. -/
inductive LoadError where
  | invalidLabel (label reason : String)
  | invalidPackageSpecification (specification reason : String)
  | schema (ruleClass problem : String)
  | fileTypePattern (pattern problem : String)
  | invalidAttribute (rule attrName problem : String)
  | noSuchPackage (package : String)
  | noSuchTarget (label : String)
  | manifest (problem : String)
  | io (cause : String)
  | json (fault : Json.Fault)
  | other (text : String)
  deriving DecidableEq, Repr

namespace LoadError

def message : LoadError → String
  | .invalidLabel label reason => s!"invalid label '{label}': {reason}"
  | .invalidPackageSpecification specification reason =>
    s!"invalid package specification '{specification}': {reason}"
  | .schema ruleClass problem => s!"invalid schema for rule class '{ruleClass}': {problem}"
  | .fileTypePattern pattern problem => s!"invalid file type pattern '{pattern}': {problem}"
  | .invalidAttribute rule attrName problem =>
    s!"invalid value for attribute '{attrName}' of {rule}: {problem}"
  | .noSuchPackage package => s!"no such package '{package}'"
  | .noSuchTarget label => s!"no such target '{label}'"
  | .manifest problem => s!"manifest error: {problem}"
  | .io cause => s!"IO error: {cause}"
  | .json fault => "JSON error: " ++ fault.message
  | .other text => text

/-- Does the error say that a target could not be loaded? -/
def isLoading : LoadError → Bool
  | .noSuchPackage _ | .noSuchTarget _ | .invalidAttribute _ _ _ => true
  | _ => false

/-- Does the error lie in the declaration of a rule class or of a file type? -/
def isSchema : LoadError → Bool
  | .schema _ _ | .fileTypePattern _ _ => true
  | _ => false

end LoadError

end BuildRules

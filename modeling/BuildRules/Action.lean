import BuildRules.Artifact
import BuildRules.Location

/-!
# Actions

An action is a step of the build that the analysis of a rule asks for. Its owner says
which rule it was, where that rule stands and in which configuration it was analyzed.
-/

set_option autoImplicit false

namespace BuildRules

/-- Who asked for an action. -/
structure ActionOwner where
  label : Label
  location : Location
  configurationName : String
  configurationMnemonic : String
  configurationKey : String
  targetKind : String
  progressInfo : Option String
  deriving DecidableEq

/-- A step of the build: a command over files. -/
structure Action where
  owner : ActionOwner
  mnemonic : String
  inputs : List Artifact := []
  outputs : List Artifact := []
  arguments : List String := []
  deriving DecidableEq

end BuildRules

/-!
# Options of an analysis

Two checks can be tuned: what becomes of a dependency on a target that is not visible,
and whether a rule may have source files of other packages.
-/

set_option autoImplicit false

namespace BuildRules

/-- What becomes of a dependency on a target that is not visible. -/
inductive VisibilityMode where
  | error
  | warn
  | off
  deriving DecidableEq, Repr

/-- What becomes of a source file of another package, where that is checked. -/
inductive SourcePackageCheck where
  | error
  | warn
  deriving DecidableEq, Repr

/-- The wording for a value that is none of those expected. -/
def unknownChoice (kind value expected : String) : String :=
  s!"unknown {kind} '{value}' (expected {expected})"

namespace VisibilityMode

def choices : List (String × VisibilityMode) :=
  [("error", .error), ("warn", .warn), ("off", .off)]

def display : VisibilityMode → String
  | .error => "error"
  | .warn => "warn"
  | .off => "off"

def parse (text : String) : Except String VisibilityMode :=
  match choices.lookup text with
  | some mode => .ok mode
  | none => .error (unknownChoice "visibility mode" text "error, warn or off")

end VisibilityMode

namespace SourcePackageCheck

def choices : List (String × SourcePackageCheck) := [("error", .error), ("warn", .warn)]

def display : SourcePackageCheck → String
  | .error => "error"
  | .warn => "warn"

def onlyWarns (check : SourcePackageCheck) : Bool := check = .warn

def parse (text : String) : Except String SourcePackageCheck :=
  match choices.lookup text with
  | some check => .ok check
  | none => .error (unknownChoice "srcs package check" text "error or warn")

end SourcePackageCheck

/-- The options of an analysis. -/
structure AnalysisOptions where
  visibility : VisibilityMode := .error
  sourcePackages : Option SourcePackageCheck := none
  deriving DecidableEq, Repr

end BuildRules

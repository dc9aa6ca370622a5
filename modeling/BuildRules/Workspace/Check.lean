import BuildRules.Workspace.Loading

/-!
# Checking a workspace

Every rule is analyzed on its own. A rule whose analysis aborts leaves the abort and
nothing else, and every other rule leaves its diagnostics. A report is clean when no
analysis was aborted and no error was reported.
-/

set_option autoImplicit false

namespace BuildRules

/-- What checking a workspace found. -/
structure CheckReport where
  /-- The number of rules. -/
  rules : Nat := 0
  /-- The diagnostics of all rules that were analyzed to the end. -/
  diagnostics : List Diagnostic := []
  /-- The rules whose analysis was aborted. -/
  aborted : List (Label × Abort) := []
  deriving DecidableEq

namespace CheckReport

def isClean (report : CheckReport) : Bool :=
  report.aborted.isEmpty && !hasErrors report.diagnostics

def count (report : CheckReport) (severity : Severity) : Nat :=
  report.diagnostics.countP (·.severity = severity)

def abortLine (label : Label) (abort : Abort) : String :=
  s!"ERROR analysis of {label} aborted: " ++ abort.message

def summary (report : CheckReport) : String :=
  let rules := report.rules
  let errors := report.count .error
  let warnings := report.count .warning
  let aborted := report.aborted.length
  s!"Analyzed {rules} rules: {errors} errors, {warnings} warnings, {aborted} aborted"

/-- The text of a report: the diagnostics, the aborted analyses and a summary. -/
def lines (report : CheckReport) : List String :=
  report.diagnostics.map Diagnostic.display ++
    report.aborted.map (fun (label, abort) => abortLine label abort) ++ [report.summary]

end CheckReport

namespace Workspace

def analyzeAlone (workspace : Workspace) (rule : Rule) : Except Abort RuleContext × Record :=
  (workspace.analyze rule).start {}

def checkRule (workspace : Workspace) (report : CheckReport) (rule : Rule) : CheckReport :=
  match workspace.analyzeAlone rule with
  | (.ok _, record) => { report with
      rules := report.rules + 1, diagnostics := report.diagnostics ++ record.diagnostics }
  | (.error abort, _) => { report with
      rules := report.rules + 1, aborted := report.aborted ++ [(rule.label, abort)] }

def check (workspace : Workspace) : CheckReport :=
  workspace.rules.foldl workspace.checkRule {}

end Workspace

end BuildRules

import BuildRules.Action
import BuildRules.Analysis.Abort
import BuildRules.Diagnostic

/-!
# What an analysis leaves behind

While a rule is analyzed, diagnostics are reported, derived artifacts are asked for and
actions are registered. The `Record` keeps all three in order and nothing is ever taken
out of it. An artifact that was asked for before is not entered twice: besides the
artifacts in order there is an index of them, in which a request is looked up first.

An `Analysis` is a computation over the record that may abort. What was recorded before
an abort stays recorded.
-/

set_option autoImplicit false

namespace BuildRules

/-- The derived artifacts in the order in which they were asked for first, and the index of
them. -/
structure DerivedArtifacts where
  ordered : List Artifact := []
  index : ArtifactSet := .empty
  deriving DecidableEq

/-- The artifact that the index has for the same file, if there is one; otherwise the given one,
which is entered into the index and at the end of the list. -/
def DerivedArtifacts.intern (derived : DerivedArtifacts) (artifact : Artifact) :
    Artifact × DerivedArtifacts :=
  match derived.index.find? artifact.identity with
  | some known => (known, derived)
  | none => (artifact, ⟨derived.ordered ++ [artifact], derived.index.insert artifact⟩)

/-- What has been recorded. -/
structure Record where
  diagnostics : List Diagnostic := []
  derived : DerivedArtifacts := {}
  actions : List Action := []
  deriving DecidableEq

namespace Record

/-- The derived artifacts in order. -/
def artifacts (record : Record) : List Artifact := record.derived.ordered

def report (record : Record) (diagnostic : Diagnostic) : Record :=
  { record with diagnostics := record.diagnostics ++ [diagnostic] }

def register (record : Record) (action : Action) : Record :=
  { record with actions := record.actions ++ [action] }

/-- Asks for a derived artifact. -/
def intern (record : Record) (artifact : Artifact) : Artifact × Record :=
  let (handed, derived) := record.derived.intern artifact
  (handed, { record with derived })

def hasErrors (record : Record) : Bool := BuildRules.hasErrors record.diagnostics

def count (record : Record) (severity : Severity) : Nat :=
  record.diagnostics.countP (·.severity = severity)

end Record

/-- What is left when an analysis is over and its record is given up. -/
structure AnalysisOutput where
  diagnostics : List Diagnostic
  artifacts : List Artifact
  actions : List Action
  deriving DecidableEq

def AnalysisOutput.hasErrors (output : AnalysisOutput) : Bool :=
  BuildRules.hasErrors output.diagnostics

def Record.output (record : Record) : AnalysisOutput where
  diagnostics := record.diagnostics
  artifacts := record.artifacts
  actions := record.actions

/-- A computation over the record that may abort. -/
abbrev Analysis := ExceptT Abort (StateM Record)

namespace Analysis

def start {α : Type} (analysis : Analysis α) (record : Record) : Except Abort α × Record :=
  analysis.run.run record

def report (diagnostic : Diagnostic) : Analysis Unit := modify (·.report diagnostic)

def reportAll (diagnostics : List Diagnostic) : Analysis Unit := diagnostics.forM report

def register (action : Action) : Analysis Unit := modify (·.register action)

def intern (artifact : Artifact) : Analysis Artifact := modifyGet (·.intern artifact)

end Analysis

end BuildRules

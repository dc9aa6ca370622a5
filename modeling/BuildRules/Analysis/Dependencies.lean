import BuildRules.Analysis.Record
import BuildRules.Analysis.Validation

/-!
# Dependencies of a rule

The dependencies of a rule are resolved and checked attribute by attribute, in the order
of the attribute names, and label by label. A dependency that the silent filter of its
attribute drops is not checked at all. The entries of fileset attributes are resolved
after that, in the order in which the class declares the attributes.
-/

set_option autoImplicit false

namespace BuildRules

abbrev DependencyMap := NameMap (List Prerequisite)

def DependencyMap.of (map : DependencyMap) (name : String) : List Prerequisite :=
  (NameMap.find? map name).getD []

/-- The number of dependencies of all attributes. -/
def DependencyMap.size (map : DependencyMap) : Nat :=
  (map.entries.flatMap fun entry => entry.2).length

/-- An entry of a fileset with the analyses of what it names. -/
inductive ResolvedFilesetEntry where
  | subtree (entry : FilesetEntry) (source : ConfiguredTarget)
  | files (entry : FilesetEntry) (files : List ConfiguredTarget)
  deriving DecidableEq

def ResolvedFilesetEntry.entry : ResolvedFilesetEntry → FilesetEntry
  | .subtree entry _ => entry
  | .files entry _ => entry

/-- The resolved fileset entries of a rule by attribute. -/
abbrev FilesetMap := NameMap (List ResolvedFilesetEntry)

def FilesetMap.of (map : FilesetMap) (name : String) : List ResolvedFilesetEntry :=
  (NameMap.find? map name).getD []

/-- Does the silent filter of an attribute drop a dependency? It keeps rules of the admitted
classes only. -/
def Attribute.drops (attr : Attribute) (target : Target) : Bool :=
  attr.silentClassFilter &&
    !target.rule?.any fun dependency => attr.allowedClasses.contains dependency.ruleClass.name

/-- One error for each pair of attributes that exclude each other and are both set. -/
def Rule.exclusionDiagnostics (rule : Rule) : List Diagnostic :=
  rule.ruleClass.exclusive.filterMap fun (first, second) =>
    if rule.isExplicit first && rule.isExplicit second then
      some (rule.attributeDiagnostic .error second
        s!"Only one of {second} and {first} should be provided")
    else none

/-- Does a fileset keep an entry that names a tree, and what is reported about the tree? -/
def Rule.checkSubtree (rule : Rule) (attr : Attribute) (entry : FilesetEntry)
    (source : Prerequisite) : Bool × List Diagnostic :=
  let label := source.label
  if source.providers.fileset.isSome || entry.isSourceDirectory then (true, [])
  else
    match source.target with
    | .rule _ =>
      (false, [rule.attributeDiagnostic .error attr.name
        s!"invalid 'srcdir' target '{label}'. Must be another fileset or package"])
    | .outputFile _ =>
      (true, [rule.attributeDiagnostic .warning attr.name
        (s!"'srcdir' target '{label}' is not an input file. This forces the fileset to be " ++
          "executed unconditionally")])
    | .inputFile _ => (true, [])

namespace Resolver

/-- Resolves and checks one label; nothing is left of a label that is dropped. -/
def dependency (resolver : Resolver) (policy : Policy) (attr : Attribute) (label : Label) :
    Analysis (Option Prerequisite) := do
  let prerequisite ← resolver.resolve attr label
  if attr.drops prerequisite.target then return none
  Analysis.reportAll
    (Validation.validate policy resolver.rule resolver.configuration attr prerequisite)
  return some prerequisite

/-- Resolves and checks the labels of one attribute in order. -/
def dependencies (resolver : Resolver) (policy : Policy) (attr : Attribute) :
    List Label → Analysis (List Prerequisite)
  | [] => return []
  | label :: rest => do
    let kept ← resolver.dependency policy attr label
    let others ← resolver.dependencies policy attr rest
    return kept.toList ++ others

/-- The attribute of a name; every name of a label map has to be declared. -/
def attributeNamed (resolver : Resolver) (name : String) : Except Abort Attribute :=
  let rule := resolver.rule
  match rule.ruleClass.attribute? name with
  | some attr => .ok attr
  | none => .error (.undeclared rule.location rule.ruleClass.name name)

/-- Resolves and checks the labels of all attributes of a label map. -/
def dependencyEntries (resolver : Resolver) (policy : Policy) :
    List (String × List Label) → Analysis (List (String × List Prerequisite))
  | [] => return []
  | (name, labels) :: rest => do
    let attr ← resolver.attributeNamed name
    let kept ← resolver.dependencies policy attr labels
    let others ← resolver.dependencyEntries policy rest
    return (name, kept) :: others

def dependencyMap (resolver : Resolver) (policy : Policy) (labels : LabelMap) :
    Analysis DependencyMap := do
  let entries ← resolver.dependencyEntries policy labels.entries
  Analysis.reportAll resolver.rule.exclusionDiagnostics
  return .ofList entries

/-- The analyses of the files that a fileset entry lists. -/
def listedFiles (resolver : Resolver) (attr : Attribute) :
    List Label → Except Abort (List ConfiguredTarget)
  | [] => return []
  | label :: rest => do
    let file ← resolver.resolve attr label
    let others ← resolver.listedFiles attr rest
    return file.configured :: others

/-- Resolves one fileset entry; nothing is left of an entry that names the tree of a rule which is
no fileset. -/
def filesetEntry (resolver : Resolver) (attr : Attribute) (entry : FilesetEntry) :
    Analysis (Option ResolvedFilesetEntry) := do
  match entry.files with
  | some labels =>
    let files ← resolver.listedFiles attr labels
    return some (.files entry files)
  | none =>
    let source ← resolver.resolve attr entry.source
    let (keeps, diagnostics) := resolver.rule.checkSubtree attr entry source
    Analysis.reportAll diagnostics
    return if keeps then some (.subtree entry source.configured) else none

/-- Resolves the entries of one fileset attribute in order. -/
def filesetEntries (resolver : Resolver) (attr : Attribute) :
    List FilesetEntry → Analysis (List ResolvedFilesetEntry)
  | [] => return []
  | entry :: rest => do
    let kept ← resolver.filesetEntry attr entry
    let others ← resolver.filesetEntries attr rest
    return kept.toList ++ others

/-- Resolves the fileset attributes among the given ones; those of which nothing is left are left
out. -/
def filesetAttributes (resolver : Resolver) :
    List Attribute → Analysis (List (String × List ResolvedFilesetEntry))
  | [] => return []
  | attr :: rest => do
    if attr.type = .filesetEntryList then
      let kept ← resolver.filesetEntries attr (resolver.rule.filesetEntries attr.name)
      let others ← resolver.filesetAttributes rest
      return if kept.isEmpty then others else (attr.name, kept) :: others
    else resolver.filesetAttributes rest

def filesetMap (resolver : Resolver) : Analysis FilesetMap := do
  let entries ← resolver.filesetAttributes resolver.rule.ruleClass.attributes
  return .ofList entries

end Resolver

end BuildRules

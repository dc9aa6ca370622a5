import BuildRules.Workspace.Check

/-!
# Listings of dependencies

The listing of a rule names the rule and its configuration and gives its dependencies
attribute by attribute, then its fileset entries, if there are any, and last what the
analysis reported.
-/

set_option autoImplicit false

namespace BuildRules

def Prerequisite.listingLine (prerequisite : Prerequisite) : String :=
  let configuration := (prerequisite.configuration.map Configuration.name).getD "no configuration"
  let label := prerequisite.label
  let kind := prerequisite.target.kind
  s!"    {label} [{configuration}] {kind}"

def ResolvedFilesetEntry.listingLine (resolved : ResolvedFilesetEntry) : String :=
  let named :=
    match resolved with
    | .subtree _ source => source.label.display
    | .files _ targets => "[" ++ String.intercalate ", " (targets.map (·.label.display)) ++ "]"
  "    " ++ named ++ " -> '" ++ resolved.entry.destination ++ "'"

/-- The lines of the entries of a map, under the names of the attributes. -/
def listingBlock {α : Type} (line : α → String) (map : NameMap (List α)) : List String :=
  map.entries.flatMap fun (name, items) => s!"  {name}:" :: items.map line

namespace RuleContext

/-- The lines about the rule and its dependencies. -/
def listing (context : RuleContext) : List String :=
  let label := context.rule.label
  let kind := context.rule.kind
  let configuration := context.configuration.display
  let filesets :=
    if context.filesets.entries.all fun entry => entry.2.isEmpty then []
    else "" :: "Fileset entries:" ::
      listingBlock ResolvedFilesetEntry.listingLine context.filesets
  [s!"{label} ({kind}) in {configuration}", "", "Dependencies:"] ++
    listingBlock Prerequisite.listingLine context.dependencies ++ filesets

end RuleContext

def diagnosticsListing (diagnostics : List Diagnostic) : List String :=
  if diagnostics.isEmpty then []
  else "" :: "Diagnostics:" :: diagnostics.map fun diagnostic => "  " ++ diagnostic.display

namespace Workspace

/-- The listing of a rule, and whether its analysis is free of errors. -/
def listing (workspace : Workspace) (rule : Rule) : Except Abort (List String × Bool) :=
  match workspace.analyzeAlone rule with
  | (.ok context, record) =>
    let output := record.output
    .ok (context.listing ++ diagnosticsListing output.diagnostics, !output.hasErrors)
  | (.error abort, _) => .error abort

end Workspace

end BuildRules

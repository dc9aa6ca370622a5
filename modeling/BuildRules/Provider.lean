import BuildRules.Configuration
import BuildRules.PackageSpecification

/-!
# Providers and configured targets

The analysis of a target leaves providers for those that depend on it: the files it
builds, what it takes to run it, who may see it, and the tree of a fileset. A
configured target is a target in one configuration with its providers; source files
have no configuration.
-/

set_option autoImplicit false

namespace BuildRules

/-- What it takes to run a target. -/
structure FilesToRun where
  executable : Option Artifact
  runfiles : List Artifact
  middleman : Option Artifact := none
  deriving DecidableEq

/-- The kinds of providers. -/
inductive ProviderKind where
  | files
  | filesToRun
  | visibility
  | fileset
  deriving DecidableEq, Repr

/-- One provider. -/
inductive Provider where
  | files (filesToBuild : List Artifact)
  | filesToRun (run : FilesToRun)
  | visibility (specifications : List PackageSpecification)
  | fileset (outputDirectory : Artifact)
  deriving DecidableEq

def Provider.kind : Provider → ProviderKind
  | .files _ => .files
  | .filesToRun _ => .filesToRun
  | .visibility _ => .visibility
  | .fileset _ => .fileset

/-- At most one provider of each kind. -/
structure ProviderCollection where
  files : Option (List Artifact) := none
  filesToRun : Option FilesToRun := none
  visibility : Option (List PackageSpecification) := none
  fileset : Option Artifact := none
  deriving DecidableEq

namespace ProviderCollection

/-- Puts a provider into the collection, over an earlier one of its kind. -/
def insert (collection : ProviderCollection) : Provider → ProviderCollection
  | .files filesToBuild => { collection with files := some filesToBuild }
  | .filesToRun run => { collection with filesToRun := some run }
  | .visibility specifications => { collection with visibility := some specifications }
  | .fileset outputDirectory => { collection with fileset := some outputDirectory }

def get? (collection : ProviderCollection) : ProviderKind → Option Provider
  | .files => collection.files.map .files
  | .filesToRun => collection.filesToRun.map .filesToRun
  | .visibility => collection.visibility.map .visibility
  | .fileset => collection.fileset.map .fileset

def providers (collection : ProviderCollection) : List Provider :=
  [ProviderKind.files, .filesToRun, .visibility, .fileset].filterMap collection.get?

/-- The collection of the given providers; of two of one kind the later one stays. -/
def ofList (providers : List Provider) : ProviderCollection :=
  providers.foldl insert {}

end ProviderCollection

/-- A target in one configuration, with what its analysis left. -/
structure ConfiguredTarget where
  label : Label
  configuration : Option Configuration
  providers : ProviderCollection
  deriving DecidableEq

/-- The files that the target builds; none when it does not say. -/
def ConfiguredTarget.filesToBuild (target : ConfiguredTarget) : List Artifact :=
  target.providers.files.getD []

end BuildRules

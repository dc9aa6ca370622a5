import BuildRules.Workspace.Listing

/-!
# The command line

`check` analyzes all rules of a manifest and `deps` lists the dependencies of one. The
arguments are read from left to right: what is wrong with an argument is found before
anything that comes after it, and a request for help or for the version is granted as
soon as it is met. A command is executed on the text of its manifest, or on the reason
why there is none.
-/

set_option autoImplicit false

namespace BuildRules.CommandLine

/-- A command with its arguments. -/
inductive Command where
  | check (manifest : String) (visibility : Option VisibilityMode)
      (sourcePackages : Option SourcePackageCheck)
  | deps (manifest label : String)
  deriving DecidableEq, Repr

def Command.manifest : Command → String
  | .check manifest _ _ => manifest
  | .deps manifest _ => manifest

/-- What a list of arguments asks for. -/
inductive Invocation where
  | run (command : Command)
  | help
  | version
  | misuse
  deriving DecidableEq, Repr

/-- Why arguments are not read on. -/
inductive Stop where
  | help
  | version
  | misuse
  deriving DecidableEq, Repr

/-- The invocation of arguments that are not read on. -/
def Stop.invocation : Stop → Invocation
  | .help => .help
  | .version => .version
  | .misuse => .misuse

/-- A command as far as its arguments have been read. -/
structure Arguments where
  verbose : Bool := false
  /-- The values of options by name. -/
  options : List (String × String) := []
  positionals : List String := []
  deriving DecidableEq, Repr

/-- The arguments that a command takes. -/
structure CommandShape where
  /-- Is this the program itself, before any command? -/
  outermost : Bool
  /-- The options that take a value, with the values they take. -/
  options : List (String × (String → Bool))
  /-- The positional arguments, with the values they take. -/
  positionals : List (String → Bool)

/-- Takes note of the flag that asks for more log lines, which may be given once. -/
def Arguments.setVerbose (arguments : Arguments) : Except Stop Arguments :=
  if arguments.verbose then .error .misuse else .ok { arguments with verbose := true }

/-- Reads flags of one letter that are written together. -/
def readLetters (shape : CommandShape) : Arguments → List Char → Except Stop Arguments
  | arguments, [] => .ok arguments
  | arguments, 'v' :: rest => do
    let arguments ← arguments.setVerbose
    readLetters shape arguments rest
  | _, 'h' :: _ => .error .help
  | _, 'V' :: _ => .error (if shape.outermost then .version else .misuse)
  | _, _ => .error .misuse

def readFlag (shape : CommandShape) (arguments : Arguments) (name : String) :
    Except Stop Arguments :=
  if name = "verbose" then arguments.setVerbose
  else if name = "help" then .error .help
  else if name = "version" && shape.outermost then .error .version
  else .error .misuse

/-- Reads the value of an option, which may be given once. -/
def readOption (shape : CommandShape) (arguments : Arguments) (name value : String) :
    Except Stop Arguments :=
  match shape.options.lookup name with
  | none => .error .misuse
  | some accepts =>
    if accepts value && (arguments.options.lookup name).isNone then
      .ok { arguments with options := arguments.options ++ [(name, value)] }
    else .error .misuse

def readPositional (shape : CommandShape) (arguments : Arguments) (value : String) :
    Except Stop Arguments :=
  match shape.positionals[arguments.positionals.length]? with
  | none => .error .misuse
  | some accepts =>
    if accepts value then .ok { arguments with positionals := arguments.positionals ++ [value] }
    else .error .misuse

/-- Does an argument look like a flag? A single dash does not. -/
def looksLikeFlag (argument : String) : Bool :=
  match argument.toList with
  | '-' :: _ :: _ => true
  | _ => false

/-- Reads the arguments of a command. After `--` every argument is positional. -/
def readArguments (shape : CommandShape) : Bool → Arguments → List String →
    Except Stop Arguments
  | _, arguments, [] => .ok arguments
  | true, arguments, argument :: rest => do
    let arguments ← readPositional shape arguments argument
    readArguments shape true arguments rest
  | false, arguments, argument :: rest =>
    match argument.toList with
    | ['-', '-'] => readArguments shape true arguments rest
    | '-' :: '-' :: name =>
      match Text.cutAtFirst '=' name with
      | some (name, value) => do
        let arguments ← readOption shape arguments (String.ofList name) (String.ofList value)
        readArguments shape false arguments rest
      | none =>
        let name := String.ofList name
        if (shape.options.lookup name).isSome then
          match rest with
          | [] => .error .misuse
          | value :: rest =>
            if looksLikeFlag value then .error .misuse
            else do
              let arguments ← readOption shape arguments name value
              readArguments shape false arguments rest
        else do
          let arguments ← readFlag shape arguments name
          readArguments shape false arguments rest
    | '-' :: letter :: letters => do
      let arguments ← readLetters shape arguments (letter :: letters)
      readArguments shape false arguments rest
    | _ => do
      let arguments ← readPositional shape arguments argument
      readArguments shape false arguments rest

def accepted {ε α : Type} (parse : String → Except ε α) (text : String) : Bool :=
  (parse text).toOption.isSome

/-- The arguments of the program before its command. -/
def programShape : CommandShape := ⟨true, [], []⟩

def checkShape : CommandShape where
  outermost := false
  options := [("visibility", accepted VisibilityMode.parse),
    ("srcs-package", accepted SourcePackageCheck.parse)]
  positionals := [fun path => !path.isEmpty]

def depsShape : CommandShape where
  outermost := false
  options := []
  positionals := [fun path => !path.isEmpty, fun _ => true]

def Arguments.option? {ε α : Type} (arguments : Arguments) (parse : String → Except ε α)
    (name : String) : Option α :=
  (arguments.options.lookup name).bind fun value => (parse value).toOption

/-- The invocation of `check` with the given arguments. -/
def readCheck (given : List String) : Invocation :=
  match readArguments checkShape false {} given with
  | .error stop => stop.invocation
  | .ok arguments =>
    match arguments.positionals with
    | [manifest] =>
      .run (.check manifest (arguments.option? VisibilityMode.parse "visibility")
        (arguments.option? SourcePackageCheck.parse "srcs-package"))
    | _ => .misuse

/-- The invocation of `deps` with the given arguments. -/
def readDeps (given : List String) : Invocation :=
  match readArguments depsShape false {} given with
  | .error stop => stop.invocation
  | .ok arguments =>
    match arguments.positionals with
    | [manifest, label] => .run (.deps manifest label)
    | _ => .misuse

/-- The invocation of `help` with the given arguments: at most the name of a command. -/
def readHelp : List String → Invocation
  | [] => .help
  | [command] => if command ∈ ["check", "deps", "help"] then .help else .misuse
  | _ => .misuse

/-- The arguments before the command, and the command with the arguments after it. -/
def splitAtCommand : List String → List String × List String
  | [] => ([], [])
  | argument :: rest =>
    if looksLikeFlag argument then
      let (before, after) := splitAtCommand rest
      (argument :: before, after)
    else ([], argument :: rest)

def parse (given : List String) : Invocation :=
  let (before, after) := splitAtCommand given
  if "--" ∈ before then
    match readArguments programShape false {} (before.takeWhile (· ≠ "--")) with
    | .error stop => stop.invocation
    | .ok _ => .misuse
  else
    match readArguments programShape false {} before with
    | .error stop => stop.invocation
    | .ok _ =>
      match after with
      | "check" :: rest => readCheck rest
      | "deps" :: rest => readDeps rest
      | "help" :: rest => readHelp rest
      | _ => .misuse

def versionLine : String := "ruleview 0.1.0"

def usage : List String :=
  ["Check rule dependencies against their attribute schemas",
    "",
    "Usage: ruleview [OPTIONS] <COMMAND>",
    "",
    "Commands:",
    "  check  Analyze every rule in a workspace manifest",
    "  deps   Show the resolved dependencies of one rule",
    "  help   Print this message or the help of the given subcommand(s)",
    "",
    "Options:",
    "  -v, --verbose  Enable verbose logging",
    "  -h, --help     Print help",
    "  -V, --version  Print version"]

/-- What a run of the program shows: its exit code, the lines it prints, and the failure that
ended it. -/
structure Outcome where
  exitCode : Nat
  lines : List String := []
  failure : Option String := none
  deriving DecidableEq, Repr

def Outcome.failed (message : String) : Outcome :=
  ⟨1, [], some ("Error: " ++ message)⟩

/-- The exit code of a run that comes to its end. -/
def exitCodeOf (clean : Bool) : Nat := if clean then 0 else 1

/-- Loads the workspace of a command from the text of its manifest. -/
def loadWorkspace (path : String) (source : Except String String) : Except String Workspace :=
  let loaded := (source.mapError LoadError.io).bind Workspace.parse
  loaded.mapError fun error => s!"failed to load {path}: " ++ error.message

/-- The workspace with the options that the command line sets. -/
def withOptions (workspace : Workspace) (visibility : Option VisibilityMode)
    (sourcePackages : Option SourcePackageCheck) : Workspace :=
  let options := workspace.options
  { workspace with
    options :=
      ⟨visibility.getD options.visibility, sourcePackages.or options.sourcePackages⟩ }

/-- Executes a command on the text of its manifest, or on the reason why there is none. -/
def Command.execute (command : Command) (source : Except String String) : Outcome :=
  match loadWorkspace command.manifest source with
  | .error message => .failed message
  | .ok workspace =>
    match command with
    | .check _ visibility sourcePackages =>
      let report := (withOptions workspace visibility sourcePackages).check
      ⟨exitCodeOf report.isClean, report.lines, none⟩
    | .deps manifest text =>
      match Label.parse text with
      | .error error => .failed error.message
      | .ok label =>
        match workspace.rule? label with
        | none => .failed s!"{label} is not a rule in {manifest}"
        | some rule =>
          match workspace.listing rule with
          | .ok (lines, clean) => ⟨exitCodeOf clean, lines, none⟩
          | .error abort => ⟨101, [], some abort.message⟩

/-- Runs the program, given what the files contain. The lines are those of the command; how
the program is used is shown apart from them. -/
def run (read : String → Except String String) (given : List String) : Outcome :=
  match parse given with
  | .run command => command.execute (read command.manifest)
  | .help => ⟨0, [], none⟩
  | .version => ⟨0, [versionLine], none⟩
  | .misuse => ⟨2, [], none⟩

end BuildRules.CommandLine

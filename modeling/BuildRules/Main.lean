import BuildRules.CommandLine

/-!
# The program

The program reads the manifest that its arguments name, prints what the run shows and
exits with its code.
-/

set_option autoImplicit false

open BuildRules

def readFailure : IO.Error → String
  | .noFileOrDirectory _ _ _ => "No such file or directory (os error 2)"
  | .permissionDenied _ _ _ => "Permission denied (os error 13)"
  | .inappropriateType (some _) _ _ => "Not a directory (os error 20)"
  | .inappropriateType none _ _ => "Is a directory (os error 21)"
  | .invalidArgument _ _ "name too long" => "File name too long (os error 36)"
  | error => toString error

/-- The text of a file, or why it cannot be read. -/
def readManifest (path : String) : IO (Except String String) := do
  try
    let bytes ← IO.FS.readBinFile path
    match String.fromUTF8? bytes with
    | some text => return .ok text
    | none => return .error "stream did not contain valid UTF-8"
  catch error => return .error (readFailure error)

/-- Runs the program. How it is used is printed when that is asked for, and reported when the
arguments do not make sense. -/
def main (arguments : List String) : IO UInt32 := do
  let invocation := CommandLine.parse arguments
  let outcome ←
    match invocation with
    | .run command => do
      let source ← readManifest command.manifest
      pure (command.execute source)
    | _ => pure (CommandLine.run (fun _ => .error "") arguments)
  match invocation with
  | .help => CommandLine.usage.forM (fun line => IO.println line)
  | .misuse => CommandLine.usage.forM (fun line => IO.eprintln line)
  | _ => pure ()
  for line in outcome.lines do
    IO.println line
  match outcome.failure with
  | some failure => IO.eprintln failure
  | none => pure ()
  return outcome.exitCode.toUInt32

import BuildRules.Artifact
import BuildRules.Glob.Lookup
import BuildRules.Glob.Parser

/-!
# File types

A file type is an extension such as `.cc` or a glob pattern, and is asked of the base
name of a file only. A `FileTypeSet` is what an attribute admits: every file, no file,
or the files of some types. It admits what one of its types admits, but for the base
name `..`, as said for sets of patterns.
-/

set_option autoImplicit false

namespace BuildRules

/-- A file type: the text it was declared with and its tokens. -/
structure FileType where
  pattern : String
  tokens : List Glob.Token

namespace FileType

/-- The glob pattern of a file type: an extension may follow anything. -/
def globText (pattern : String) : String :=
  match pattern.toList with
  | '.' :: _ => "*" ++ pattern
  | _ => pattern

def parse (pattern : String) : Except LoadError FileType :=
  match Glob.parse (globText pattern) with
  | .ok tokens => .ok ⟨pattern, tokens⟩
  | .error fault => .error (.fileTypePattern pattern (fault.message (globText pattern)))

def admits (type : FileType) (fileName : String) : Bool :=
  Glob.describes type.tokens (Text.baseName fileName).toUTF8.data.toList

end FileType

/-- The files that an attribute admits. -/
inductive FileTypeSet where
  | any
  | nothing
  | of (types : List FileType)

namespace FileTypeSet

/-- The set of the given types; no types admit no files. -/
def parse (patterns : List String) : Except LoadError FileTypeSet := do
  if patterns.isEmpty then return .nothing
  let types ← patterns.mapM FileType.parse
  match Glob.refusal? (types.map FileType.tokens) with
  | none => return .of types
  | some problem => throw (.fileTypePattern (String.intercalate ", " patterns) problem)

def isAny : FileTypeSet → Bool
  | .any => true
  | _ => false

def isNothing : FileTypeSet → Bool
  | .nothing => true
  | _ => false

def admits : FileTypeSet → String → Bool
  | .any, _ => true
  | .nothing, _ => false
  | .of types, fileName =>
    Glob.describedByOne (types.map FileType.tokens) (Text.baseName fileName).toUTF8.data.toList

def filter (set : FileTypeSet) (artifacts : List Artifact) : List Artifact :=
  artifacts.filter fun artifact => set.admits artifact.fileName

def display : FileTypeSet → String
  | .any => "any file"
  | .nothing => "no files"
  | .of types => String.intercalate " or " (types.map FileType.pattern)

end FileTypeSet

end BuildRules

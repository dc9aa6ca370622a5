import BuildRules.Glob.Expression
import BuildRules.Glob.Matcher

/-!
# Sets of glob patterns

A set of patterns finds a pattern for a name by the part of the name that the pattern
fixes: the last component, the extension, the whole name, or its beginning or ending.
Only patterns that fix no such part, and those that fix the extension and more, are
matched as expressions. The answer is the same as for the single patterns, but for
the name `..`: it has no last component that could be the name of a file, and so no
extension, and no pattern is found for it by these.

The expressions are prepared when the set is made, first those that are looked up by
an extension, each on its own, and then all others together. One that is nested too
deep is refused. Patterns that describe the last component character by character are
kept apart from the others: they have no branches, hence they are never nested too deep,
and they do not count among the expressions prepared together.
-/

set_option autoImplicit false

namespace BuildRules.Glob

/-- The part of a name by which a set finds a pattern. -/
inductive Lookup where
  | lastComponent
  | extension
  /-- The extension is fixed, and the name has to match as well. -/
  | extensionAndMore
  /-- The whole name, its beginning or its ending. -/
  | text
  /-- No part is fixed, but each character of the last component is described on its own. -/
  | characters
  /-- No part is fixed. -/
  | expression
  deriving DecidableEq, Repr

/-- The character that a token stands for, if it stands for one. -/
def Token.char? : Token → Option Char
  | .literal c => some c
  | _ => none

/-- The text that tokens stand for, if they stand for one. -/
def fixedText? (tokens : List Token) : Option (List Char) := tokens.mapM Token.char?

/-- Does the pattern fix the last component of a name, whatever stands before it? -/
def fixesLastComponent : List Token → Bool
  | .leadingComponents :: tokens =>
    match fixedText? tokens with
    | some text => !text.isEmpty && '/' ∉ text
    | none => false
  | _ => false

def afterLeading : List Token → List Token
  | .leadingComponents :: tokens => tokens
  | tokens => tokens

/-- Does the pattern fix the extension of a name and nothing else? -/
def fixesExtension (tokens : List Token) : Bool :=
  match afterLeading tokens with
  | .star :: .literal '.' :: tokens =>
    match fixedText? tokens with
    | some text => '/' ∉ text && '.' ∉ text
    | none => false
  | _ => false

/-- Does the pattern fix the beginning of a name and nothing else? -/
def fixesBeginning (tokens : List Token) : Bool :=
  match tokens.getLast? with
  | some .star => (fixedText? tokens.dropLast).any fun text => !text.isEmpty
  | some .trailingComponents => (fixedText? tokens.dropLast).isSome
  | _ => false

/-- Does the pattern fix the ending of a name and nothing else? A separator alone is not enough,
unless it follows leading components. -/
def fixesEnding : List Token → Bool
  | .leadingComponents :: .literal _ :: tokens => (fixedText? tokens).isSome
  | tokens =>
    let tokens :=
      match afterLeading tokens with
      | .star :: tokens => tokens
      | tokens => tokens
    (fixedText? tokens).any fun text => !text.isEmpty && text ≠ ['/']

def endsWithExtension (tokens : List Token) : Bool :=
  let ending := (tokens.reverse.takeWhile fun token => token.char?.isSome).filterMap Token.char?
  match ending.find? fun c => c = '.' || c = '/' with
  | some c => c = '.'
  | none => false

/-- Does the token describe one character, which is no separator? -/
def Token.withinComponent : Token → Bool
  | .literal c => c ≠ '/'
  | .oneOf negated ranges => negated == ranges.any fun range => range.1 ≤ '/' && '/' ≤ range.2
  | _ => false

/-- Does the pattern describe the last component of a name character by character, whatever
stands before it? -/
def describesCharacters : List Token → Bool
  | .leadingComponents :: tokens => !tokens.isEmpty && tokens.all Token.withinComponent
  | _ => false

/-- The part of a name by which a set finds the pattern. -/
def Lookup.of (tokens : List Token) : Lookup :=
  if fixesLastComponent tokens then .lastComponent
  else if (fixedText? tokens).any fun text => !text.isEmpty then .text
  else if fixesExtension tokens then .extension
  else if fixesBeginning tokens || fixesEnding tokens then .text
  else if endsWithExtension tokens then .extensionAndMore
  else if describesCharacters tokens then .characters
  else .expression

/-- Does the lookup need the last component of a name? -/
def Lookup.needsComponent : Lookup → Bool
  | .lastComponent | .extension | .extensionAndMore => true
  | .text | .characters | .expression => false

/-- Is the name one without a last component that could be the name of a file? -/
def lacksComponent (name : List UInt8) : Bool := name = [0x2e, 0x2e]

/-- Does one of the patterns of a set describe a name that has no separators? -/
def describedByOne (patterns : List (List Token)) (name : List UInt8) : Bool :=
  patterns.any fun tokens =>
    !(lacksComponent name && (Lookup.of tokens).needsComponent) && describes tokens name

/-- Is the expression of a pattern nested too deep? -/
def tooDeep (tokens : List Token) : Bool := nestingLimit < nesting tokens

/-- The message about the expression that is refused when a set is made, if one is. -/
def refusal? (patterns : List (List Token)) : Option String :=
  match patterns.find? fun tokens => Lookup.of tokens = .extensionAndMore && tooDeep tokens with
  | some tokens => some s!"error parsing glob '{expressionText tokens}': error parsing pattern 0"
  | none =>
    ((patterns.filter fun tokens => Lookup.of tokens = .expression).findIdx? tooDeep).map
      fun index => s!"error parsing pattern {index}"

end BuildRules.Glob

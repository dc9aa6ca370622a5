import BuildRules.Glob.Pattern

/-!
# Glob patterns as regular expressions

Every pattern stands for a regular expression over bytes, and messages quote its text.
An expression may be nested only so deep. `nesting` counts the levels: the expression
as a whole is one, and so are a sequence of two or more parts, a choice between two or
more branches, a group, a repetition, a class, and the parts of a class if there are
two or more.
-/

set_option autoImplicit false

namespace BuildRules.Glob

/-- Expressions nested deeper than this are refused. -/
def nestingLimit : Nat := 250

/-- The characters that have a meaning of their own in expressions. -/
def isOperator (c : Char) : Bool :=
  c ∈ ['\\', '.', '+', '*', '?', '(', ')', '|', '[', ']', '\x7b', '\x7d', '^', '$', '#', '&', '-', '~']

/-- A character in an expression; beyond ASCII its bytes are written one by one. -/
def expressionOfChar (c : Char) : List Char :=
  if isOperator c then ['\\', c]
  else if c.toNat < 128 then [c]
  else
    (bytesOfChar c).flatMap fun byte =>
      ['\\', 'x', Nat.digitChar (byte.toNat / 16), Nat.digitChar (byte.toNat % 16)]

def expressionOfRange (range : Char × Char) : List Char :=
  if range.1 = range.2 then expressionOfChar range.1
  else expressionOfChar range.1 ++ '-' :: expressionOfChar range.2

mutual

def expressionOf : Token → List Char
  | .literal c => expressionOfChar c
  | .anyByte => ['.']
  | .star => ['.', '*']
  | .leadingComponents => "(?:/?|.*/)".toList
  | .trailingComponents => "/.*".toList
  | .innerComponents => "(?:/|/.*/)".toList
  | .oneOf negated ranges =>
    '[' :: ((if negated then ['^'] else []) ++ ranges.flatMap expressionOfRange ++ [']'])
  | .branches options =>
    match expressionsOf options with
    | [] => []
    | parts => "(?:".toList ++ ['|'].intercalate parts ++ [')']

/-- The expressions of the branches that describe something. -/
def expressionsOf : List (List Token) → List (List Char)
  | [] => []
  | option :: others =>
    match expressionOfAll option with
    | [] => expressionsOf others
    | part => part :: expressionsOf others

def expressionOfAll : List Token → List Char
  | [] => []
  | token :: tokens => expressionOf token ++ expressionOfAll tokens

end

/-- The text of the expression of a whole pattern. -/
def expressionText (tokens : List Token) : String :=
  let body :=
    match tokens with
    | [.leadingComponents] => ['.', '*']
    | tokens => expressionOfAll tokens
  String.ofList ("(?-u)^".toList ++ body ++ ['$'])

/-- The size of a sequence or of a choice: how many parts it has and how many levels the deepest
of them has. -/
structure Extent where
  parts : Nat := 0
  levels : Nat := 0

def Extent.append (a b : Extent) : Extent := ⟨a.parts + b.parts, max a.levels b.levels⟩

/-- The levels of a sequence or of a choice, which is a level of its own if it has two or more
parts. -/
def Extent.nesting (extent : Extent) : Nat :=
  if 2 ≤ extent.parts then extent.levels + 1 else extent.levels

/-- The number of parts that a range has within a class. -/
def rangeParts (range : Char × Char) : Nat :=
  let low := (bytesOfChar range.1).length
  if range.1 = range.2 then low else low + (bytesOfChar range.2).length - 1

def classParts : List (Char × Char) → Nat
  | [] => 0
  | range :: others => rangeParts range + classParts others

mutual

/-- The part of a sequence that a token makes up. -/
def extentOf : Token → Extent
  | .literal c => ⟨(bytesOfChar c).length, 0⟩
  | .anyByte => ⟨1, 0⟩
  | .star => ⟨1, 1⟩
  | .leadingComponents => ⟨1, 4⟩
  | .trailingComponents => ⟨2, 1⟩
  | .innerComponents => ⟨1, 4⟩
  | .oneOf _ ranges => ⟨1, 1 + Extent.nesting ⟨classParts ranges, 0⟩⟩
  | .branches options =>
    let choice := extentOfChoice options
    if choice.parts = 0 then {} else ⟨1, 1 + choice.nesting⟩

/-- The choice between the branches that describe something. -/
def extentOfChoice : List (List Token) → Extent
  | [] => {}
  | option :: others =>
    let extent := extentOfAll option
    if extent.parts = 0 then extentOfChoice others
    else Extent.append ⟨1, extent.nesting⟩ (extentOfChoice others)

def extentOfAll : List Token → Extent
  | [] => {}
  | token :: tokens => (extentOf token).append (extentOfAll tokens)

end

def nesting (tokens : List Token) : Nat := (extentOfAll tokens).levels + 1

end BuildRules.Glob

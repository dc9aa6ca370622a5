/-!
# Glob patterns

A pattern is a list of tokens over file names. `**` stands for whole components of a
path where it takes the place of components, and is two stars elsewhere. A branch of
a group that describes nothing at all takes no part in the group. A text that is no
pattern is refused with a `Fault`, whose message quotes the text.
-/

set_option autoImplicit false

namespace BuildRules.Glob

/-- One part of a pattern. -/
inductive Token where
  | literal (c : Char)
  /-- `?`: any one byte. -/
  | anyByte
  /-- `*`: any bytes. -/
  | star
  /-- `**/` in front: any number of leading components. -/
  | leadingComponents
  /-- `/**` at the end: at least one more component. -/
  | trailingComponents
  /-- `/**/` in between: any number of components. -/
  | innerComponents
  /-- `[…]`: one byte of the ranges, or none of them. -/
  | oneOf (negated : Bool) (ranges : List (Char × Char))
  /-- A group in braces: one of the branches. -/
  | branches (options : List (List Token))

mutual

def Token.isVoid : Token → Bool
  | .branches options => allVoid options
  | _ => false

def allVoid : List (List Token) → Bool
  | [] => true
  | option :: others => tokensVoid option && allVoid others

/-- Does a list of tokens describe nothing at all? -/
def tokensVoid : List Token → Bool
  | [] => true
  | token :: rest => token.isVoid && tokensVoid rest

end

def bytesOfChar (c : Char) : List UInt8 := (String.singleton c).toUTF8.data.toList

/-- Why a text is no pattern. -/
inductive Fault where
  | unclosedClass
  | invalidRange (low high : Char)
  | unopenedGroup
  | unclosedGroup
  | danglingEscape
  deriving DecidableEq, Repr

def Fault.reason : Fault → String
  | .unclosedClass => "unclosed character class; missing ']'"
  | .invalidRange low high => s!"invalid range; '{low}' > '{high}'"
  | .unopenedGroup =>
    "unopened alternate group; missing '\x7b' (maybe escape '\x7d' with '[\x7d]'?)"
  | .unclosedGroup =>
    "unclosed alternate group; missing '\x7d' (maybe escape '\x7b' with '[\x7b]'?)"
  | .danglingEscape => "dangling '\\'"

def Fault.message (text : String) (fault : Fault) : String :=
  s!"error parsing glob '{text}': " ++ fault.reason

end BuildRules.Glob

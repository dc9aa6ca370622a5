/-!
# Words of a command line

A text is read as the words of a shell command. Blanks separate words, single quotes
keep everything, a backslash keeps the next character (in double quotes only before
`$`, a backquote, `"` and a backslash), an escaped line break disappears, and a `#` at
the start of a word begins a comment up to the end of the line.

The reader is an automaton of one mode per place where a character can stand.
`completed` gives the words that were finished, also when the text ends inside a
quotation or right after a backslash; `ending` gives the mode in which it ends.
-/

set_option autoImplicit false

namespace BuildRules.Words

/-- Where the next character stands. -/
inductive Mode where
  | between
  | comment
  | word
  | escaped
  | single
  | double
  | doubleEscaped
  deriving DecidableEq, Repr

def isBlank (c : Char) : Bool := c = ' ' || c = '\t' || c = '\n'

/-- Can the character be escaped between double quotes? -/
def isSpecial (c : Char) : Bool := c = '$' || c.toNat = 0x60 || c = '"' || c = '\\'

/-- The mode and the word begun (latest character first) after a character that stands outside
quotes and is no blank. -/
def stepInWord (begun : List Char) (c : Char) : Mode × List Char :=
  if c = '"' then (.double, begun)
  else if c = '\'' then (.single, begun)
  else if c = '\\' then (.escaped, begun)
  else (.word, c :: begun)

/-- The mode and the word begun after one character, and whether the character ends a word. -/
def step (mode : Mode) (begun : List Char) (c : Char) : Mode × List Char × Bool :=
  match mode with
  | .between =>
    if isBlank c then (.between, [], false)
    else if c = '#' then (.comment, [], false)
    else
      let (next, word) := stepInWord [] c
      (next, word, false)
  | .comment => if c = '\n' then (.between, [], false) else (.comment, [], false)
  | .word =>
    if isBlank c then (.between, begun, true)
    else
      let (next, word) := stepInWord begun c
      (next, word, false)
  | .escaped => if c = '\n' then (.word, begun, false) else (.word, c :: begun, false)
  | .single => if c = '\'' then (.word, begun, false) else (.single, c :: begun, false)
  | .double =>
    if c = '"' then (.word, begun, false)
    else if c = '\\' then (.doubleEscaped, begun, false)
    else (.double, c :: begun, false)
  | .doubleEscaped =>
    if c = '\n' then (.double, begun, false)
    else if isSpecial c then (.double, c :: begun, false)
    else (.double, c :: '\\' :: begun, false)

/-- The words that are finished from a mode and a begun word on, and the mode at the end. -/
def scan (mode : Mode) (begun : List Char) : List Char → List String × Mode
  | [] =>
    match mode with
    | .word => ([String.ofList begun.reverse], .word)
    | mode => ([], mode)
  | c :: rest =>
    let (next, word, ends) := step mode begun c
    if ends then
      let (words, last) := scan next [] rest
      (String.ofList word.reverse :: words, last)
    else scan next word rest

def completed (text : String) : List String := (scan .between [] text.toList).1

def ending (text : String) : Mode := (scan .between [] text.toList).2

/-- Does a text that ends in this mode end inside a word that is not finished? -/
def Mode.isOpen : Mode → Bool
  | .between | .comment | .word => false
  | .escaped | .single | .double | .doubleEscaped => true

/-- Why a text does not end after a word. -/
inductive Fault where
  | trailingBackslash
  | unterminatedQuotation
  deriving DecidableEq, Repr

def Fault.message : Fault → String
  | .trailingBackslash => "backslash at end of string"
  | .unterminatedQuotation => "unterminated quotation"

/-- The number of backslashes at the end of a text. -/
def trailingBackslashes (text : String) : Nat :=
  (text.toList.reverse.takeWhile (· = '\\')).length

/-- The fault reported for a text that ends inside a word: an odd number of backslashes at its
end is taken for an escape without a character. -/
def faultOf (text : String) : Fault :=
  if trailingBackslashes text % 2 = 1 then .trailingBackslash else .unterminatedQuotation

/-- What is wrong with the end of a text, if anything. -/
def fault? (text : String) : Option Fault :=
  if (ending text).isOpen then some (faultOf text) else none

/-- Appends the finished words of a text to given words, and says what is wrong with its end. -/
def appendTo (words : List String) (text : String) : List String × Option Fault :=
  (words ++ completed text, fault? text)

def split (text : String) : Except Fault (List String) :=
  match fault? text with
  | none => .ok (completed text)
  | some fault => .error fault

end BuildRules.Words

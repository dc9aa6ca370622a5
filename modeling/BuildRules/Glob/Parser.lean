import BuildRules.Glob.Pattern

/-!
# Texts read as glob patterns

The reader goes through a text once. It keeps the tokens of the branch it is in and,
for each group that is open around it, the branches that are finished and the tokens
before the group. What `**` means depends on the character before it and on the
character after it.
-/

set_option autoImplicit false

namespace BuildRules.Glob

/-- A group that is still open: the tokens before it and its finished branches, the latest
first. -/
structure OpenGroup where
  before : List Token
  finished : List (List Token)

/-- What has been read: the tokens of the current branch, the latest first, and the open groups
around it, the innermost first. -/
structure Reading where
  tokens : List Token := []
  groups : List OpenGroup := []

namespace Reading

def push (reading : Reading) (token : Token) : Reading :=
  { reading with tokens := token :: reading.tokens }

def openGroup (reading : Reading) : Reading :=
  ⟨[], ⟨reading.tokens, []⟩ :: reading.groups⟩

/-- Ends a branch at a comma; outside groups a comma is an ordinary character. -/
def comma (reading : Reading) : Reading :=
  match reading.groups with
  | [] => reading.push (.literal ',')
  | group :: around =>
    ⟨[], { group with finished := reading.tokens.reverse :: group.finished } :: around⟩

def closeGroup (reading : Reading) : Except Fault Reading :=
  match reading.groups with
  | [] => .error .unopenedGroup
  | group :: around =>
    let options := (reading.tokens.reverse :: group.finished).reverse
    .ok ⟨.branches options :: group.before, around⟩

def finish (reading : Reading) : Except Fault (List Token) :=
  if reading.groups.isEmpty then .ok reading.tokens.reverse else .error .unclosedGroup

def twoStars (reading : Reading) : Reading := (reading.push .star).push .star

/-- Stars that stand for components take the place of the separator before them. -/
def components (reading : Reading) (token : Token) : Reading :=
  match reading.tokens with
  | .leadingComponents :: _ => reading
  | .trailingComponents :: _ => reading
  | _ :: before => { reading with tokens := token :: before }
  | [] => reading.push token

end Reading

/-- Does a character that follows `**` end a branch of an open group? -/
def endsBranch (reading : Reading) (c : Char) : Bool :=
  !reading.groups.isEmpty && (c = ',' || c = '\x7d')

/-- Does a branch of an open group begin after this character? -/
def beginsBranch (reading : Reading) (previous : Option Char) : Bool :=
  !reading.groups.isEmpty && (previous = some ',' || previous = some '\x7b')

/-- What `**` adds, given the characters before and after it, and whether a separator after it
belongs to it. -/
def Reading.pushStars (reading : Reading) (previous next : Option Char) : Reading × Bool :=
  if reading.tokens.isEmpty then
    match next with
    | none => (reading.push .leadingComponents, false)
    | some '/' => (reading.push .leadingComponents, true)
    | some _ => (reading.twoStars, false)
  else if previous = some '/' || beginsBranch reading previous then
    match next with
    | none => (reading.components .trailingComponents, false)
    | some '/' => (reading.components .innerComponents, true)
    | some c =>
      if endsBranch reading c then (reading.components .trailingComponents, false)
      else (reading.twoStars, false)
  else (reading.twoStars, false)

/-- The ranges of a bracketed class that have been read, the latest first. -/
structure ClassReading where
  negated : Bool
  /-- Nothing of the class has been read yet. -/
  fresh : Bool := true
  /-- A `-` was read that may make a range with the next character. -/
  pending : Bool := false
  ranges : List (Char × Char) := []

namespace ClassReading

def single (reading : ClassReading) (c : Char) : ClassReading :=
  { reading with fresh := false, pending := false, ranges := (c, c) :: reading.ranges }

def upTo (reading : ClassReading) (c : Char) : Except Fault ClassReading :=
  match reading.ranges with
  | (low, _) :: others =>
    if c < low then .error (.invalidRange low c)
    else .ok { reading with fresh := false, pending := false, ranges := (low, c) :: others }
  | [] => .ok (reading.single c)

/-- Reads one character that does not close the class. -/
def read (reading : ClassReading) (c : Char) : Except Fault ClassReading :=
  if reading.pending then reading.upTo c
  else if c = '-' && !reading.fresh then .ok { reading with pending := true }
  else .ok (reading.single c)

/-- The token of a class that is closed; a `-` at its end stands for itself. -/
def token (reading : ClassReading) : Token :=
  let ranges := if reading.pending then ('-', '-') :: reading.ranges else reading.ranges
  .oneOf reading.negated ranges.reverse

end ClassReading

mutual

/-- Reads on outside classes; `previous` is the character before the rest. -/
def parseTokens (reading : Reading) (previous : Option Char) :
    List Char → Except Fault Reading
  | [] => .ok reading
  | '?' :: rest => parseTokens (reading.push .anyByte) (some '?') rest
  | ['*', '*'] => .ok (reading.pushStars previous none).1
  | '*' :: '*' :: next :: rest =>
    let (after, takesNext) := reading.pushStars previous (some next)
    if takesNext then parseTokens after (some next) rest
    else parseTokens after (some '*') (next :: rest)
  | '*' :: rest => parseTokens (reading.push .star) (some '*') rest
  | '[' :: '!' :: rest => parseClass reading ⟨true, true, false, []⟩ rest
  | '[' :: '^' :: rest => parseClass reading ⟨true, true, false, []⟩ rest
  | '[' :: rest => parseClass reading ⟨false, true, false, []⟩ rest
  | '\x7b' :: rest => parseTokens reading.openGroup (some '\x7b') rest
  | '\x7d' :: rest => do
    let closed ← reading.closeGroup
    parseTokens closed (some '\x7d') rest
  | ',' :: rest => parseTokens reading.comma (some ',') rest
  | ['\\'] => .error .danglingEscape
  | '\\' :: c :: rest => parseTokens (reading.push (.literal c)) (some c) rest
  | c :: rest => parseTokens (reading.push (.literal c)) (some c) rest

def parseClass (reading : Reading) (chars : ClassReading) : List Char → Except Fault Reading
  | [] => .error .unclosedClass
  | c :: rest =>
    if c = ']' && !chars.fresh then parseTokens (reading.push chars.token) (some ']') rest
    else do
      let more ← chars.read c
      parseClass reading more rest

end

def parse (text : String) : Except Fault (List Token) := do
  let reading ← parseTokens ⟨[], []⟩ none text.toList
  reading.finish

end BuildRules.Glob

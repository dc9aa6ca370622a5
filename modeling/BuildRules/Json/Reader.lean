import BuildRules.Json.Node

/-!
# Reading JSON texts

`read` takes a text to a `Document`: the node of its value and the fault, if any, of
what follows the value. It is one pass over the characters. Between two characters
the state is a stack of open containers and a mode, which says what may come next;
a character that may not come stops the reading, and the open containers are closed
over the place where it stopped.
-/

set_option autoImplicit false

namespace BuildRules.Json

/-- A piece of a string: a character, or a unit of UTF-16 that was written as four hexadecimal
digits. -/
inductive Piece where
  | char (c : Char)
  | unit (code : Nat)

/-- The characters of a string. A surrogate counts only as half of a pair; `atEnd` is the fault
when the pieces end after the first half. -/
def joinPieces (atEnd : Fault) : List Piece → Except Fault (List Char)
  | [] => .ok []
  | .char c :: rest => (c :: ·) <$> joinPieces atEnd rest
  | .unit high :: .unit low :: rest =>
    if 0xDC00 ≤ high ∧ high ≤ 0xDFFF then .error .malformed
    else if high < 0xD800 ∨ 0xDBFF < high then
      (Char.ofNat high :: ·) <$> joinPieces atEnd (.unit low :: rest)
    else if 0xDC00 ≤ low ∧ low ≤ 0xDFFF then
      (Char.ofNat ((high - 0xD800) * 0x400 + (low - 0xDC00) + 0x10000) :: ·) <$> joinPieces atEnd rest
    else .error .malformed
  | .unit code :: rest =>
    if 0xDC00 ≤ code ∧ code ≤ 0xDFFF then .error .malformed
    else if code < 0xD800 ∨ 0xDBFF < code then (Char.ofNat code :: ·) <$> joinPieces atEnd rest
    else if rest.isEmpty then .error atEnd
    else .error .malformed

/-- A container that is still open. What it holds so far stands in reverse, and an object may
hold a name whose value is due. -/
inductive Frame where
  | items (deep : Bool) (done : List Node)
  | members (deep : Bool) (done : List (Scan String × Node)) (name : Option (Scan String))

def missingName (fault : Fault) : Scan String := ⟨.error fault, some fault⟩

def Frame.add (node : Node) : Frame → Frame
  | .items deep done => .items deep (node :: done)
  | .members deep done name => .members deep ((name.getD (missingName .malformed), node) :: done) none

/-- The object frame whose next value goes by the given name. -/
def Frame.named (name : Scan String) : Frame → Frame
  | .items deep done => .items deep done
  | .members deep done _ => .members deep done (some name)

def Frame.node (ending : Option Fault) : Frame → Node
  | .items deep done => .array deep done.reverse ending
  | .members deep done _ => .object deep done.reverse ending

/-- What may come next between two tokens. A closing bracket may stand in place of the first
item or name. -/
inductive Due where
  | value (closable : Bool)
  | name (closable : Bool)
  | colon
  | more

/-- How far a numeral has been read. -/
inductive NumeralPart where
  | sign
  | zero
  | whole
  | point
  | fraction
  | mark
  | markSign
  | exponent

/-- How far an escape within a string has been read. After `\u` four bytes belong to the escape,
and one that is no hexadecimal digit spoils it. -/
inductive Escape where
  | none
  | backslash
  | hex (bytes : Nat) (code : Nat) (spoiled : Bool)

/-- Where the reader stands. Digits and pieces stand in reverse. -/
inductive Mode where
  | between (due : Due)
  | word (rest : List Char) (node : Node)
  | numeral (part : NumeralPart) (digits : Numeral)
  | text (isName : Bool) (escape : Escape) (pieces : List Piece)

/-- The state of the reader between two characters. -/
structure Reading where
  frames : List Frame
  root : Node
  mode : Mode

/-- The node of a text and the fault of what follows the value. -/
structure Document where
  root : Node
  trailing : Option Fault

/-- The reader goes on, or stops where it stands: a character came that may not come. -/
inductive Progress where
  | running (reading : Reading)
  | stopped (reading : Reading)

def Reading.start : Reading := ⟨[], .null, .between (.value false)⟩

/-- Containers nested this deep cannot be entered. -/
def depthLimit : Nat := 128

/-- A value has ended: it goes into the innermost open container. -/
def Reading.place (reading : Reading) (node : Node) : Reading :=
  match reading.frames with
  | [] => ⟨[], node, .between .more⟩
  | frame :: rest => ⟨frame.add node :: rest, reading.root, .between .more⟩

def Reading.close (reading : Reading) : Reading :=
  match reading.frames with
  | [] => reading
  | frame :: rest => Reading.place { reading with frames := rest } (frame.node none)

/-- Closes all open containers over the last value that was read. -/
def enclose (fault : Fault) (node : Node) : List Frame → Node
  | [] => node
  | frame :: rest => enclose fault ((frame.add node).node (some fault)) rest

/-- Closes all open containers, the innermost one without a further value. -/
def cut (fault : Fault) : List Frame → Node
  | [] => .broken fault
  | frame :: rest => enclose fault (frame.node (some fault)) rest

/-- Closes all open containers where a name was due. -/
def encloseName (fault : Fault) (name : Scan String) : List Frame → Node
  | [] => .broken fault
  | frame :: rest => enclose fault (.broken fault) (frame.named name :: rest)

def Numeral.inOrder (digits : Numeral) : Numeral :=
  { digits with
    whole := digits.whole.reverse
    fraction := digits.fraction.reverse
    exponent := digits.exponent.reverse }

def Reading.abandon (reading : Reading) (fault : Fault) : Document :=
  match reading.mode with
  | .between (.value closable) =>
    if closable ∧ fault = .truncated then ⟨cut fault reading.frames, none⟩
    else ⟨enclose fault (.broken fault) reading.frames, none⟩
  | .between (.name closable) =>
    if closable ∧ fault = .truncated then ⟨cut fault reading.frames, none⟩
    else ⟨encloseName fault (missingName fault) reading.frames, none⟩
  | .between .colon => ⟨enclose fault (.broken fault) reading.frames, none⟩
  | .between .more =>
    match reading.frames with
    | [] => ⟨reading.root, some fault⟩
    | frames => ⟨cut fault frames, none⟩
  | .word _ node => ⟨enclose fault (.cutWord (node matches .null) fault) reading.frames, none⟩
  | .numeral _ _ =>
    ⟨enclose fault (.number ⟨.error fault, some .malformed⟩) reading.frames, none⟩
  | .text isName _ pieces =>
    let scan : Scan String :=
      ⟨do let _ ← joinPieces fault pieces.reverse; .error fault, some fault⟩
    if isName then ⟨encloseName fault scan reading.frames, none⟩
    else ⟨enclose fault (.string scan) reading.frames, none⟩

def Reading.finish (reading : Reading) : Document :=
  match reading.mode with
  | .between .more =>
    match reading.frames with
    | [] => ⟨reading.root, none⟩
    | _ => reading.abandon .truncated
  | .numeral .zero digits | .numeral .whole digits | .numeral .fraction digits
  | .numeral .exponent digits =>
    let done := reading.place (.number { content := digits.inOrder.value })
    match done.frames with
    | [] => ⟨done.root, none⟩
    | _ => done.abandon .truncated
  | _ => reading.abandon .truncated

def isBlank (c : Char) : Bool := c = ' ' || c = '\n' || c = '\t' || c = '\r'

def Reading.beginValue (reading : Reading) (c : Char) : Progress :=
  let goOn (mode : Mode) : Progress := .running { reading with mode }
  if c = 'n' then goOn (.word ['u', 'l', 'l'] .null)
  else if c = 't' then goOn (.word ['r', 'u', 'e'] (.bool true))
  else if c = 'f' then goOn (.word ['a', 'l', 's', 'e'] (.bool false))
  else if c = '"' then goOn (.text false .none [])
  else if c = '-' then goOn (.numeral .sign { negative := true })
  else if c = '0' then goOn (.numeral .zero { whole := [0] })
  else if c.isDigit then goOn (.numeral .whole { whole := [c.toNat - 48] })
  else
    let deep : Bool := depthLimit ≤ reading.frames.length + 1
    if c = '[' then
      .running ⟨.items deep [] :: reading.frames, reading.root, .between (.value true)⟩
    else if c = '\x7b' then
      .running ⟨.members deep [] none :: reading.frames, reading.root, .between (.name true)⟩
    else .stopped { reading with mode := .between (.value false) }

def Reading.begin (reading : Reading) (due : Due) (c : Char) : Progress :=
  let goOn (mode : Mode) : Progress := .running { reading with mode }
  let stop : Progress := .stopped { reading with mode := .between due }
  if isBlank c then goOn (.between due)
  else
    match due with
    | .value closable =>
      if c = ']' ∧ closable then .running reading.close else reading.beginValue c
    | .name closable =>
      if c = '\x7d' ∧ closable then .running reading.close
      else if c = '"' then goOn (.text true .none [])
      else stop
    | .colon => if c = ':' then goOn (.between (.value false)) else stop
    | .more =>
      match reading.frames with
      | [] => stop
      | .items _ _ :: _ =>
        if c = ',' then goOn (.between (.value false))
        else if c = ']' then .running reading.close
        else stop
      | .members _ _ _ :: _ =>
        if c = ',' then goOn (.between (.name false))
        else if c = '\x7d' then .running reading.close
        else stop

/-- One character within a numeral. A character that cannot belong to a complete numeral ends
it. -/
def Reading.digit (reading : Reading) (part : NumeralPart) (digits : Numeral) (c : Char) : Progress :=
  let goOn (part : NumeralPart) (digits : Numeral) : Progress :=
    .running { reading with mode := .numeral part digits }
  let stop : Progress := .stopped { reading with mode := .numeral part digits }
  let ended : Progress :=
    (reading.place (.number { content := digits.inOrder.value })).begin .more c
  let digit := c.toNat - 48
  let isMark : Bool := c = 'e' || c = 'E'
  let whole := { digits with whole := digit :: digits.whole }
  let fraction := { digits with fraction := digit :: digits.fraction }
  let exponent := { digits with exponent := digit :: digits.exponent }
  let scaled := { digits with scaled := true }
  match part with
  | .sign => if c = '0' then goOn .zero whole else if c.isDigit then goOn .whole whole else stop
  | .zero =>
    if c = '.' then goOn .point scaled
    else if isMark then goOn .mark scaled
    else if c.isDigit then stop
    else ended
  | .whole =>
    if c.isDigit then goOn .whole whole
    else if c = '.' then goOn .point scaled
    else if isMark then goOn .mark scaled
    else ended
  | .point => if c.isDigit then goOn .fraction fraction else stop
  | .fraction =>
    if c.isDigit then goOn .fraction fraction else if isMark then goOn .mark scaled else ended
  | .mark =>
    if c = '+' then goOn .markSign digits
    else if c = '-' then goOn .markSign { digits with exponentNegative := true }
    else if c.isDigit then goOn .exponent exponent
    else stop
  | .markSign => if c.isDigit then goOn .exponent exponent else stop
  | .exponent => if c.isDigit then goOn .exponent exponent else ended

/-- The character that a short escape stands for. -/
def shortEscape? (c : Char) : Option Char :=
  if c = '"' ∨ c = '\\' ∨ c = '/' then some c
  else if c = 'b' then some '\x08'
  else if c = 'f' then some '\x0c'
  else if c = 'n' then some '\n'
  else if c = 'r' then some '\r'
  else if c = 't' then some '\t'
  else none

def hexValue? (c : Char) : Option Nat :=
  if c.isDigit then some (c.toNat - 48)
  else if 'a' ≤ c ∧ c ≤ 'f' then some (c.toNat - 87)
  else if 'A' ≤ c ∧ c ≤ 'F' then some (c.toNat - 55)
  else none

def Reading.quoted (reading : Reading) (isName : Bool) (pieces : List Piece) : Reading :=
  let scan : Scan String :=
    { content := (joinPieces .malformed pieces.reverse).map String.ofList }
  if isName then
    match reading.frames with
    | [] => reading
    | frame :: rest => ⟨frame.named scan :: rest, reading.root, .between .colon⟩
  else reading.place (.string scan)

def Reading.letter (reading : Reading) (isName : Bool) (escape : Escape) (pieces : List Piece)
    (c : Char) : Progress :=
  let goOn (escape : Escape) (pieces : List Piece) : Progress :=
    .running { reading with mode := .text isName escape pieces }
  let stop : Progress := .stopped { reading with mode := .text isName escape pieces }
  match escape with
  | .none =>
    if c = '"' then .running (reading.quoted isName pieces)
    else if c = '\\' then goOn .backslash pieces
    else if c.toNat < 32 then stop
    else goOn .none (.char c :: pieces)
  | .backslash =>
    if c = 'u' then goOn (.hex 0 0 false) pieces
    else
      match shortEscape? c with
      | some meant => goOn .none (.char meant :: pieces)
      | none => stop
  | .hex bytes code spoiled =>
    let seen := bytes + c.utf8Size
    let code' := code * 16 + (hexValue? c).getD 0
    let spoiled' := spoiled || (hexValue? c).isNone
    if seen < 4 then goOn (.hex seen code' spoiled') pieces
    else if spoiled' then stop
    else goOn .none (.unit code' :: pieces)

def Reading.step (reading : Reading) (c : Char) : Progress :=
  match reading.mode with
  | .between due => reading.begin due c
  | .word [] node => (reading.place node).begin .more c
  | .word (expected :: rest) node =>
    if c = expected then
      if rest.isEmpty then .running (reading.place node)
      else .running { reading with mode := .word rest node }
    else .stopped reading
  | .numeral part digits => reading.digit part digits c
  | .text isName escape pieces => reading.letter isName escape pieces c

def Reading.run (reading : Reading) : List Char → Document
  | [] => reading.finish
  | c :: rest =>
    match reading.step c with
    | .running next => next.run rest
    | .stopped last => last.abandon .malformed

def read (text : String) : Document := Reading.start.run text.toList

end BuildRules.Json

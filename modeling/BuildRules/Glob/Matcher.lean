import BuildRules.Glob.Pattern

/-!
# Names matched against glob patterns

A pattern is matched against the bytes of a whole name, from its last token to its
first. A `Row` tells for every ending of the name whether what stands behind a token
may be that ending; `before` takes the row behind a token to the row in front of it.
Behind the last token only the empty ending may stand, and the name matches when it
may stand in front of the first token. The work is one pass over the name for every
token.
-/

set_option autoImplicit false

namespace BuildRules.Glob

def slash : UInt8 := 0x2f

/-- For every ending of a name, the longest first, whether it may stand at some place of a
pattern. -/
abbrev Row := List Bool

/-- The row of the place behind a pattern: only the empty ending may stand there. -/
def rowAtEnd : List UInt8 → Row
  | [] => [true]
  | _ :: rest => false :: rowAtEnd rest

/-- The endings that begin with a byte of some kind and go on as the given row allows. -/
def beforeByte (test : UInt8 → Bool) : List UInt8 → Row → Row
  | byte :: rest, _ :: row => (test byte && row.headD false) :: beforeByte test rest row
  | _, _ => [false]

/-- The endings that have an ending which the given row allows. -/
def beforeAny : Row → Row
  | [] => []
  | allowed :: row =>
    let rest := beforeAny row
    (allowed || rest.headD false) :: rest

def either (a b : Row) : Row := a.zipWith (· || ·) b

/-- The endings that begin with a separator and go on as the given row allows. -/
def beforeSlash : List UInt8 → Row → Row := beforeByte (· = slash)

/-- The endings that go on as the given row allows, perhaps after bytes of which the last one is a
separator. -/
def beforeComponents (name : List UInt8) (row : Row) : Row :=
  either row (beforeAny (beforeSlash name row))

/-- Is a byte in a range of characters? The bytes of the two characters stand in a row, and the
range goes from the last byte of the one to the first byte of the other. -/
def inRange (byte : UInt8) (range : Char × Char) : Bool :=
  let low := bytesOfChar range.1
  let high := bytesOfChar range.2
  if range.1 = range.2 then byte ∈ low
  else
    byte ∈ low || byte ∈ high ||
      match low.getLast?, high.head? with
      | some first, some last => first ≤ byte && byte ≤ last
      | _, _ => false

mutual

/-- The row in front of a token, given the row behind it. -/
def before (name : List UInt8) : Token → Row → Row
  | .literal c, row => (bytesOfChar c).foldr (fun byte row => beforeByte (· = byte) name row) row
  | .anyByte, row => beforeByte (fun _ => true) name row
  | .star, row => beforeAny row
  | .leadingComponents, row => beforeComponents name row
  | .trailingComponents, row => beforeSlash name (beforeAny row)
  | .innerComponents, row => beforeSlash name (beforeComponents name row)
  | .oneOf negated ranges, row =>
    beforeByte (fun byte => ranges.any (inRange byte) != negated) name row
  | .branches options, row =>
    if allVoid options then row else beforeOneOf name options row

/-- The row in front of a group, of which the branches that describe something take part. -/
def beforeOneOf (name : List UInt8) : List (List Token) → Row → Row
  | [], row => row.map fun _ => false
  | option :: others, row =>
    if tokensVoid option then beforeOneOf name others row
    else either (beforeAll name option row) (beforeOneOf name others row)

/-- The row in front of a list of tokens, given the row behind it. -/
def beforeAll (name : List UInt8) : List Token → Row → Row
  | [], row => row
  | token :: tokens, row => before name token (beforeAll name tokens row)

end

/-- Does the pattern describe the whole name? A leading `**` that stands alone describes every
name. -/
def describes (tokens : List Token) (name : List UInt8) : Bool :=
  match tokens with
  | [.leadingComponents] => true
  | tokens => (beforeAll name tokens (rowAtEnd name)).headD false

end BuildRules.Glob

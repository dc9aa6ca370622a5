/-!
# Why a JSON text is refused

A text is refused for one of three reasons, and a reader of a text reports the one
it meets first in document order.
-/

set_option autoImplicit false

namespace BuildRules.Json

/-- The kind of the first thing wrong with a JSON text. -/
inductive Fault where
  /-- The text is no JSON text. -/
  | malformed
  /-- The text ends before its value does. -/
  | truncated
  /-- The text is well formed so far and does not describe a value of the wanted shape. -/
  | unfit
  deriving DecidableEq, Repr

/-- The kind of the fault in words. The wording is the one of this library: a reader of JSON gives a
reason in words of its own and says where in the text it applies. -/
def Fault.message : Fault → String
  | .malformed => "malformed text"
  | .truncated => "unexpected end of text"
  | .unfit => "value of an unexpected shape"

end BuildRules.Json

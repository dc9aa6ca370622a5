/-!
# Locations

A location is a place in a build file. Lines and columns count from one, and zero
stands for an unknown one; the display form leaves unknown parts out.
-/

set_option autoImplicit false

namespace BuildRules

/-- A place in a build file. -/
structure Location where
  file : String
  line : UInt32 := 0
  column : UInt32 := 0
  deriving DecidableEq, Repr

/-- The display form `file:line:column`, without the parts that are unknown. -/
def Location.display (location : Location) : String :=
  if location.line = 0 then location.file
  else
    let atLine := location.file ++ ":" ++ toString location.line.toNat
    if location.column = 0 then atLine else atLine ++ ":" ++ toString location.column.toNat

end BuildRules

import Invocation.Value.Shown

/-!
# File mode masks

The mask of permissions that new files do not get, as three or four octal digits.
-/

namespace Invocation

/-- An octal digit. -/
def isOctalDigit (c : Char) : Bool :=
  '0' ≤ c && c ≤ '7'

/-- Three or four octal digits. -/
def isOctalMask (cs : List Char) : Bool :=
  (cs.length == 3 || cs.length == 4) && cs.all isOctalDigit

/-- A file mode mask. -/
structure Umask where
  text : String
  isOctal : isOctalMask text.toList = true
  deriving DecidableEq

namespace Umask

/-- A text that is not a mask. -/
structure Fault where
  text : String
  deriving DecidableEq, Repr

/-- The wording of a fault. -/
def Fault.message (fault : Fault) : String :=
  "umask must be 3 or 4 octal digits (e.g. '022'), got '" ++ fault.text ++ "'"

/-- The mask that a text is. -/
def ofText (s : String) : Except Fault Umask :=
  if h : isOctalMask s.toList = true then .ok ⟨s, h⟩ else .error ⟨s⟩

/-- The mask that a value denotes. Nothing and the empty text mean that there is none. -/
def resolve : Value → Except Fault (Option Umask)
  | .null => .ok none
  | .text "" => .ok none
  | value => (ofText value.toText).map some

end Umask

end Invocation

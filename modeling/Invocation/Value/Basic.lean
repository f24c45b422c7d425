import Invocation.Entries
import Invocation.Number.Binary64

/-!
# Values

What settings, options and arguments are given as before they are checked. A value has a kind,
whose name stands in the messages about values of a wrong kind.
-/

namespace Invocation

open Invocation.Number

/-- A value that has not been checked. -/
inductive Value where
  | null
  | bool (b : Bool)
  | int (n : Int)
  | float (x : Binary64)
  | text (s : String)
  | list (items : List Value)
  | tuple (items : List Value)
  | map (entries : List (String × Value))
  deriving Inhabited

namespace Value

/-- The name of a value's kind. -/
def kind : Value → String
  | null => "NoneType"
  | bool _ => "bool"
  | int _ => "int"
  | float _ => "float"
  | text _ => "str"
  | list _ => "list"
  | tuple _ => "tuple"
  | map _ => "dict"

/-- Texts, numbers and booleans are scalars. -/
def isScalar : Value → Bool
  | bool _ => true
  | int _ => true
  | float _ => true
  | text _ => true
  | _ => false

/-- A map of texts as a value. -/
def ofTexts (entries : Entries String) : Value :=
  .map (entries.mapValues .text)

end Value

end Invocation

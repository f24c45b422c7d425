import Invocation.Value.Basic
import Invocation.Number.Shortest
import Invocation.Text.Quoted
import Invocation.Text.Split

/-!
# The text of a value

A value stands for its text where a text is wanted. A text stands for itself; inside a list, a
tuple or a map it is quoted. An integer of any size has a notation here. The program has none of an
integer of more than `maxDigits` digits, and refuses to write it, so that what is said of the texts
of values is said of the program where their integers are no longer.
-/

namespace Invocation.Value

open Invocation.Number Invocation.Text

mutual

/-- The notation of a value, with texts quoted. -/
def shown : Value → String
  | null => "None"
  | bool b => if b then "True" else "False"
  | int n => showInt n
  | float x => x.toText
  | text s => quoted s
  | list items => "[" ++ join ", " (shownItems items) ++ "]"
  | tuple [] => "()"
  | tuple [item] => "(" ++ shown item ++ ",)"
  | tuple items => "(" ++ join ", " (shownItems items) ++ ")"
  | map entries => "\x7b" ++ join ", " (shownEntries entries) ++ "\x7d"

/-- The notation of each value. -/
def shownItems : List Value → List String
  | [] => []
  | item :: rest => shown item :: shownItems rest

/-- The notation of each entry of a map. -/
def shownEntries : List (String × Value) → List String
  | [] => []
  | (key, value) :: rest => (quoted key ++ ": " ++ shown value) :: shownEntries rest

end

/-- The text that a value stands for, if its integers have at most `maxDigits` digits. -/
def toText : Value → String
  | text s => s
  | value => value.shown

end Invocation.Value

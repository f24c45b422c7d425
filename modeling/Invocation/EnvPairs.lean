import Invocation.Json.Reader
import Invocation.Text.Split

/-!
# Lists of assignments

Variables and their values in one text: `KEY=value` items set off by commas, or a JSON object.
Blanks around items, keys and values do not count and blank items are skipped.
-/

namespace Invocation.EnvPairs

open Invocation.Text

/-- Why a text is not a list of assignments. -/
inductive Fault where
  | noEquals (item : String)
  | json (refusal : Json.Refusal)
  deriving DecidableEq, Repr

/-- The wording of a fault. -/
def Fault.message : Fault → String
  | .noEquals item => "default_env entry must be KEY=value, got '" ++ item ++ "'"
  | .json refusal => refusal.message

/-- The key and the value of one item. -/
def readItem (item : String) : Except Fault (String × String) :=
  match cut '=' item with
  | (key, some value) => .ok (trim key, trim value)
  | (_, none) => .error (.noEquals (trim item))

/-- The assignments in a text of items, later ones to the same key replacing earlier ones. -/
def readItems (s : String) : Except Fault (Entries String) := do
  let items ← ((pieces ',' s).filter (!isAllBlank ·)).mapM readItem
  return Entries.putAll [] items

/-- The assignments in a text. -/
def read (s : String) : Except Fault (Entries Value) :=
  let trimmed := trim s
  if trimmed.toList.head? = some '{' then
    match Json.read trimmed with
    | .ok (.map entries) => .ok entries
    | .ok _ => .ok []
    | .error refusal => .error (.json refusal)
  else (readItems trimmed).map (Entries.mapValues .text)

end Invocation.EnvPairs

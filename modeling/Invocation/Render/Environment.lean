import Invocation.Text.Case
import Invocation.Text.Split
import Invocation.Value.Shown

/-!
# Variables of a command

The variables set for a command: defaults and the command's own, merged under their upper-case
names. A default that is overridden keeps its place.
-/

namespace Invocation.Render

open Invocation.Text

/-- The variables with those of a source written to them under their upper-case names. -/
def putUpper (bindings source : Entries String) : Entries String :=
  source.foldl (fun acc (key, value) => acc.put (upper key) value) bindings

/-- The defaults with the overrides written over them. -/
def mergeEnvironment (defaults overrides : Entries String) : Entries String :=
  putUpper (putUpper [] defaults) overrides

/-- The defaults with the overrides written over them, each value as its text, which it has if its
integers have at most `maxDigits` digits. -/
def mergeValues (defaults overrides : Entries Value) : Entries String :=
  mergeEnvironment (defaults.mapValues Value.toText) (overrides.mapValues Value.toText)

/-- The assignments of variables, set off by spaces. -/
def assignments (bindings : Entries String) : String :=
  join " " (bindings.map fun (key, value) => key ++ "=" ++ value)

/-- A line with variables assigned in front of it, inside parentheses. -/
def withEnvironment (bindings : Entries String) (line : String) : String :=
  if bindings.isEmpty then line else "( " ++ assignments bindings ++ " " ++ line ++ " )"

end Invocation.Render

import Invocation.Text.Split

/-!
# Scripts

A script of several lines becomes one line: its lines are trimmed, blank ones dropped and the rest
set off by semicolons.
-/

namespace Invocation.Render

open Invocation.Text

/-- The lines of a script, trimmed and without the blank ones. -/
def scriptLines (body : String) : List String :=
  ((lines body).map trim).filter (· ≠ "")

/-- A script as one line. -/
def collapse (body : String) : String :=
  join "; " (scriptLines body)

end Invocation.Render

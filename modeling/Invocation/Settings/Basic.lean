import Invocation.Entries
import Invocation.Umask
import Invocation.Verbosity

/-!
# Settings

What holds for every command unless the command says otherwise.
-/

namespace Invocation

/-- A palette of the display. -/
inductive Theme where
  | light
  | dark
  deriving DecidableEq, Repr

namespace Theme

/-- The name of a theme. -/
def name : Theme → String
  | light => "light"
  | dark => "dark"

/-- The theme of a name. -/
def ofName? : String → Option Theme
  | "light" => some light
  | "dark" => some dark
  | _ => none

end Theme

/-- The settings. -/
structure Settings where
  /-- Variables that every command gets. -/
  defaultEnv : Entries String
  /-- The mask for commands without one of their own. -/
  umask : Option Umask
  /-- What replaces the launcher in front of certain executables. -/
  commandMap : Entries String
  /-- The level of the records on a command's progress. -/
  verbosity : Verbosity.Level
  /-- A non-zero exit status is a failure. -/
  raises : Bool
  /-- The palette of the display. -/
  theme : Theme
  deriving DecidableEq

namespace Settings

/-- The settings when nothing is set. -/
def defaults : Settings where
  defaultEnv := []
  umask := none
  commandMap := []
  verbosity := Verbosity.info
  raises := true
  theme := .light

/-- The fields of the settings as values, in order. -/
def toEntries (s : Settings) : Entries Value := [
  ("default_env", .ofTexts s.defaultEnv),
  ("umask", (s.umask.map fun mask => Value.text mask.text).getD .null),
  ("command_map", .ofTexts s.commandMap),
  ("output_verbosity", .int s.verbosity),
  ("raise_on_non_zero_exit", .bool s.raises),
  ("theme", .text s.theme.name)]

end Settings

end Invocation

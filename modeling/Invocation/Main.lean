import Invocation.CommandLine.Reply
import Invocation.Shell.Launch

/-!
# The command line

Reads the arguments, the variables and the files of settings, and writes the reply.
-/

namespace Invocation

/-- The names of the variables that settings are taken from. -/
def settingsVariables : List String :=
  Settings.fieldVariables.map (·.2) ++ ["SHELLWRAP_COMMAND_MAP"]

/-- The variables that are set. -/
def givenVariables : IO (Entries String) := do
  let found ← settingsVariables.mapM fun name => do
    return (← IO.getEnv name).map fun value => (name, value)
  return found.reduceOption

/-- The contents of a file, if it can be read. -/
def contents? (path : String) : IO (Option String) := do
  try
    return some (← IO.FS.readFile path)
  catch _ => return none

/-- Where the files of settings stand. -/
def givenPlaces : IO Places := do
  let home := (← IO.getEnv "HOME").getD ""
  let configuration := (← IO.getEnv "XDG_CONFIG_HOME").getD (home ++ "/.config")
  return ⟨configuration ++ "/shellwrap/settings.json", (← IO.currentDir).toString⟩

/-- The world as it is found. -/
def givenWorld : IO World := do
  let places ← givenPlaces
  return {
    World.fresh places with
    environment := ← givenVariables
    userFile := ← contents? places.userFile
    projectFile := ← contents? places.projectFile }

end Invocation

open Invocation in
/-- Replies to the arguments. -/
def main (arguments : List String) : IO UInt32 := do
  let (reply, _) := CommandLine.reply Id.text Shell.inWorld arguments (← givenWorld)
  match reply with
  | .usage => IO.eprintln "Usage: shellwrap [OPTIONS] COMMAND [ARGS]..."
  | .failed failure => IO.eprintln failure.message
  | .answered _ output errors =>
    IO.print output
    IO.eprint errors
  return UInt32.ofNat reply.exitCode

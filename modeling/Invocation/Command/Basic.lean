import Invocation.Render.Line
import Invocation.World

/-!
# Commands

A command is described once, by its words, its options and the settings at that moment, and the
description never changes. What came of it is kept beside it, in its outcome.
-/

namespace Invocation

open Invocation.Text

/-- The description of a command. -/
structure Command where
  id : Id
  /-- The executable, or a script as one line. -/
  base : String
  args : List String
  options : Options
  /-- The level of the records on the command's progress. -/
  verbosity : Verbosity.Level
  /-- A non-zero exit status is a failure. -/
  raises : Bool
  /-- The settings that were given with the command. -/
  config : Option Settings

namespace Command

/-- The words of a command, set off by spaces. -/
def words (command : Command) : String :=
  join " " (command.base :: command.args)

/-- How a command is shown, where `token` writes its token. -/
def shown (token : Id → String) (command : Command) : String :=
  "<Command " ++ token command.id ++ " " ++ quoted command.words ++ ">"

/-! ## Making a command -/

/-- The arguments with a list in the first place laid open. -/
def unpack : List Value → List Value
  | .list items :: rest => items ++ rest
  | .tuple items :: rest => items ++ rest
  | args => args

/-- The first argument, if it is a text with something in it, and the arguments after it. -/
def executable? (args : List Value) : Option (String × List Value) :=
  match unpack args with
  | [] => none
  | .null :: _ => none
  | first :: rest => if isAllBlank first.toText then none else some (first.toText, rest)

/-- The command of the given arguments and options. Without settings of its own it takes what is
not in the options from the settings in force. -/
def create (args : List Value) (options : Entries Value) (config : Option Settings) :
    Action Command := do
  let some (body, rest) := executable? args | throw .noExecutable
  match Options.ofEntries options with
  | .error issues => throw (.invalidOptions issues)
  | .ok options =>
    let settings ←
      match config with
      | some settings => pure settings
      | none => World.settings
    let command : Command :=
      { id := ← World.newId
        base := Render.collapse body
        args := rest.map Value.toText
        options
        verbosity := options.verbosity.getD settings.verbosity
        raises := options.raises.getD settings.raises
        config }
    World.record Verbosity.debug
      (.created command.id (command.base ++ " " ++ join " " command.args))
    return command

/-! ## Rendering -/

/-- The line of a command under the given settings. -/
def lineUnder (settings : Settings) (command : Command) : String :=
  Render.commandLine settings command.options command.base command.args

/-- The settings a command is rendered under: the given ones, else those given with the command,
else those in force. -/
def renderSettings (config : Option Settings) (command : Command) : Action Settings :=
  match config <|> command.config with
  | some settings => pure settings
  | none => World.settings

/-- The line of a command. -/
def line (config : Option Settings) (command : Command) : Action String := do
  return command.lineUnder (← command.renderSettings config)

/-- The line of a command under the given settings, else those in force. -/
def compile (config : Option Settings) (command : Command) : Action String := do
  match config with
  | some settings => return command.lineUnder settings
  | none => return command.lineUnder (← World.settings)

/-- The launched command without its wraps. -/
def short (command : Command) : Action String := do
  let settings ← command.renderSettings none
  return Render.launched settings.commandMap command.base command.args

end Command

end Invocation

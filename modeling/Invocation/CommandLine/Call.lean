import Invocation.Command.Basic
import Invocation.CommandLine.Arguments
import Invocation.Execution

/-!
# Calls

What a command line asks for: to show a command's line, to run a command, or to show the settings.
-/

namespace Invocation.CommandLine

open Invocation.Number Invocation.Text

/-! ## Variables -/

/-- The variables that `KEY=VALUE` arguments set; the last value of a key counts. -/
def readPairs (pairs : List String) : Except Failure (Entries String) := do
  let entries ← pairs.mapM readPair
  return Entries.putAll [] entries
where
  readPair (pair : String) : Except Failure (String × String) :=
    match cut '=' pair with
    | (_, none) => .error (.badPair pair)
    | (key, some value) => if key = "" then .error (.badPair pair) else .ok (key, value)

/-! ## Calls -/

/-- A command as arguments describe it. -/
structure Described where
  executable : String
  arguments : List String
  options : Arguments
  deriving DecidableEq, Repr

/-- What is asked for. -/
inductive Call where
  | render (command : Described) (asJson : Bool)
  | run (command : Described) (limit : Option Limit) (neverRaises : Bool)
  | config
  deriving DecidableEq, Repr

/-- Why there is no call. -/
inductive Refusal where
  | usage (usage : Usage)
  | noCommand
  | unknownCommand (name : String)
  | noExecutable
  | extraArgument (argument : String)
  | badLimit (text : String)
  deriving DecidableEq, Repr

/-- The options before the name of a call. -/
def globalOptions : List Declared := [⟨"log-level", some 'L', true⟩]

/-- The options that describe a command. -/
def commandOptions : List Declared := [
  ⟨"in", some 'd', true⟩, ⟨"env", some 'e', true⟩, ⟨"user", some 'u', true⟩,
  ⟨"group", some 'g', true⟩, ⟨"background", some 'b', false⟩, ⟨"umask", none, true⟩,
  ⟨"verbosity", some 'v', true⟩]

/-- The options of a call that shows a command's line. -/
def renderOptions : List Declared :=
  commandOptions ++ [⟨"json", none, false⟩]

/-- The options of a call that runs a command. -/
def runOptions : List Declared :=
  commandOptions ++ [⟨"timeout", some 't', true⟩, ⟨"no-raise", none, false⟩]

/-- The command that arguments describe. -/
def describe (arguments : Arguments) : Except Refusal Described :=
  match arguments.positional with
  | [] => .error .noExecutable
  | executable :: rest => .ok ⟨executable, rest, arguments⟩

/-- The limit that arguments set, if they do. -/
def limitOf (arguments : Arguments) : Except Refusal (Option Limit) :=
  match arguments.last? "timeout" with
  | none => .ok none
  | some text =>
    match readFraction? text with
    | some seconds => .ok (some (.fraction seconds))
    | none => .error (.badLimit text)

/-- The arguments of a call, whose options may stand anywhere. -/
def argumentsOf (declared : List Declared) (arguments : List String) :
    Except Refusal Arguments :=
  (readArguments declared true arguments).mapError .usage

/-- The names of the calls. -/
def callNames : List String := ["render", "run", "config"]

/-- The call of a name with its arguments. -/
def readCall (name : String) (arguments : List String) : Except Refusal Call :=
  match name with
  | "render" => do
    let arguments ← argumentsOf renderOptions arguments
    return .render (← describe arguments) (arguments.has "json")
  | "run" => do
    let arguments ← argumentsOf runOptions arguments
    let limit ← limitOf arguments
    return .run (← describe arguments) limit (arguments.has "no-raise")
  | "config" => do
    let arguments ← argumentsOf [] arguments
    match arguments.positional with
    | [] => return .config
    | argument :: _ => throw (.extraArgument argument)
  | name => .error (.unknownCommand name)

/-! ## Commands -/

/-- An option with the last value that it was given. -/
def optionEntry (name option : String) (arguments : Arguments) : Entries Value :=
  match arguments.last? option with
  | some value => [(name, .text value)]
  | none => []

/-- The options of a described command as entries. -/
def Described.entries (command : Described) (environment : Entries String)
    (neverRaises : Bool) : Entries Value :=
  optionEntry "working_directory" "in" command.options ++
    optionEntry "user" "user" command.options ++
    optionEntry "group" "group" command.options ++
    [("run_in_background", .bool (command.options.has "background"))] ++
    optionEntry "umask" "umask" command.options ++
    optionEntry "verbosity" "verbosity" command.options ++
    (if neverRaises then [("raise_on_non_zero_exit", .bool false)] else []) ++
    (if environment.isEmpty then [] else [("environment", .ofTexts environment)])

/-- Makes a described command. -/
def Described.create (command : Described) (neverRaises : Bool) : Action Command := do
  match readPairs (command.options.values "env") with
  | .error failure => throw failure
  | .ok environment =>
    Command.create (.text command.executable :: command.arguments.map .text)
      (command.entries environment neverRaises) none

end Invocation.CommandLine

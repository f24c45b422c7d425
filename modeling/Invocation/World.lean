import Invocation.Failure
import Invocation.Json.Printer

/-!
# The world of commands

What commands live in: variables of the environment, the two files of settings, the settings in
force, a clock, and the log. Settings are loaded when they are first asked for and stay in force
until they are configured or forgotten.
-/

namespace Invocation

open Invocation.Number Invocation.Text

/-- Where the files of settings stand. -/
structure Places where
  userFile : String
  projectDirectory : String

/-- The path of the project's file of settings. -/
def Places.projectFile (places : Places) : String :=
  places.projectDirectory ++ "/.shellwrap/settings.json"

/-! ## The log -/

/-- The token that tells commands apart. -/
structure Id where
  number : Nat
  deriving DecidableEq, Repr

/-- A token as eight hexadecimal digits. -/
def Id.text (id : Id) : String :=
  String.ofList (hexChars 8 id.number)

/-- What a log record tells. -/
inductive Note where
  | created (id : Id) (words : String)
  | finished (id : Id) (status : Int)
  | failed (id : Id) (status : Int)
  | running (id : Id) (line : String)
  | timedOut (id : Id) (limit : String) (line : String)
  | skipped (warning : Settings.Warning) (path : String)
  /-- It is now waited for the shell. -/
  | waiting

/-- The name of the part of the library that tells it. -/
def Note.logger : Note → String
  | .created .. => "shellwrap.command"
  | .finished .. => "shellwrap.command"
  | .failed .. => "shellwrap.command"
  | .running .. => "shellwrap.backend"
  | .timedOut .. => "shellwrap.backend"
  | .skipped .. => "shellwrap.config"
  | .waiting => "asyncio"

/-- The wording of a note, where `shown` writes tokens. -/
def Note.message (shown : Id → String) : Note → String
  | .created id words => "command " ++ shown id ++ " created: " ++ words
  | .finished id status =>
    "command " ++ shown id ++ " finished with exit status " ++ showInt status
  | .failed id status => "command " ++ shown id ++ " exited with status " ++ showInt status
  | .running id line => "[" ++ shown id ++ "] running: " ++ line
  | .timedOut id limit line =>
    "[" ++ shown id ++ "] timed out after " ++ limit ++ "s: " ++ line
  | .skipped ⟨.user, fault⟩ path =>
    "Error loading " ++ path ++ ": " ++ fault.message ++ ". Using defaults."
  | .skipped ⟨.project, fault⟩ path =>
    "Error loading project config " ++ path ++ ": " ++ fault.message ++ ". Skipping."
  | .waiting => "Using selector: EpollSelector"

/-- A record of the log. -/
structure Record where
  level : Verbosity.Level
  note : Note

/-! ## The world -/

/-- The state that commands share. -/
structure World where
  places : Places
  environment : Entries String
  userFile : Option String
  projectFile : Option String
  /-- The settings in force, once they have been asked for. -/
  loaded : Option Settings
  /-- The number of moments that were noted. -/
  clock : Nat
  /-- The number of commands that were made. -/
  made : Nat
  /-- The records so far, the earliest first. -/
  log : List Record

/-- A world in which nothing has happened and nothing is set. -/
def World.fresh (places : Places) : World where
  places
  environment := []
  userFile := none
  projectFile := none
  loaded := none
  clock := 0
  made := 0
  log := []

/-- A step in the world, which may fail. What it did before it failed stays done. -/
abbrev Action (α : Type) := ExceptT Failure (StateM World) α

namespace World

/-- Adds a record to the log. A record of level zero is dropped. The level of a record is written
out, so that there is no record of a level that cannot be written. -/
def record (level : Verbosity.Level) (note : Note) : Action Unit :=
  if level = 0 then pure ()
  else if isWritable level then
    modify fun world => { world with log := world.log ++ [⟨level, note⟩] }
  else throw (.integer .unwritable)

/-- The present moment; the next one comes later. -/
def now : Action Nat := do
  let world ← get
  set { world with clock := world.clock + 1 }
  return world.clock

/-- A token that no command had before. -/
def newId : Action Id := do
  let world ← get
  set { world with made := world.made + 1 }
  return ⟨world.made⟩

/-! ## Variables and files -/

/-- Why a variable cannot have a name and a value, if so. -/
def variableFault? (name value : String) : Option VariableFault :=
  if name.contains (Char.ofNat 0) || value.contains (Char.ofNat 0) then some .nulByte
  else if name.contains '=' then some .equalsSign
  else if name.isEmpty then some .emptyName
  else none

/-- Sets a variable, or removes it. -/
def setVariable (name : String) : Option String → Action Unit
  | none => modify fun world => { world with environment := world.environment.erase name }
  | some value =>
    match variableFault? name value with
    | some fault => throw (.variable fault)
    | none => modify fun world => { world with environment := world.environment.put name value }

/-- The project's file of settings, if there is one. -/
def findProjectFile (world : World) : Option String :=
  world.projectFile.map fun _ => world.places.projectFile

/-! ## Settings -/

/-- The path of the file that a warning is about. -/
def pathOf (world : World) : Settings.Source → String
  | .user => world.places.userFile
  | .project => world.places.projectFile

/-- Adds a warning about a skipped file to the log. -/
def warn (warning : Settings.Warning) : Action Unit := do
  record Verbosity.warning (.skipped warning ((← get).pathOf warning.source))

/-- The settings that the files and variables give now. -/
def loadSettings : Action Settings := do
  let world ← get
  let (warnings, result) := Settings.load world.environment world.userFile world.projectFile
  warnings.forM warn
  match result with
  | .ok settings => return settings
  | .error fault => throw fault.failure

/-- The settings in force, loaded if they were not. -/
def settings : Action Settings := do
  match (← get).loaded with
  | some settings => return settings
  | none =>
    let settings ← loadSettings
    modify fun world => { world with loaded := some settings }
    return settings

/-- Puts the settings in force with some fields replaced. -/
def configure (overrides : Entries Value) : Action Settings := do
  match (← settings).override overrides with
  | .ok settings =>
    modify fun world => { world with loaded := some settings }
    return settings
  | .error issues => throw (.invalid issues)

/-- Forgets the settings in force. -/
def forget : Action Unit :=
  modify fun world => { world with loaded := none }

/-- The settings that a value denotes, checked under the variables; none for no value. -/
def settingsOf : Value → Action (Option Settings)
  | .null => return none
  | value => do
    match Settings.validate (← get).environment value with
    | .ok settings => return some settings
    | .error issues => throw (.invalid issues)

end World

namespace Settings

/-- The entries whose value is not nothing. -/
def present (entries : Entries Value) : Entries Value :=
  entries.filter fun (_, value) => match value with
    | .null => false
    | _ => true

/-- The contents of a file of settings; a mask that is not set is left out. -/
def fileText (s : Settings) : String :=
  Json.write .plain (.map (present s.toEntries))

/-- The settings for display, all fields. -/
def displayText (s : Settings) : String :=
  Json.write .plain (.map s.toEntries)

end Settings

/-- Writes settings to the user's file and gives its new contents. -/
def World.save (s : Settings) : Action String := do
  modify fun world => { world with userFile := some s.fileText }
  return s.fileText

end Invocation

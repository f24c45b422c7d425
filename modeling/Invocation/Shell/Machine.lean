import Invocation.Command.Outcome
import Invocation.Shell.Files
import Invocation.Shell.Syntax

/-!
# The machine that scripts run on

The files, the open channels, the time in milliseconds, and the execution environment of the process
that is running. Processes run one after the other; each carries its own time, and what they write
to the outputs is kept with the time of writing. A step gives a value, or control leaves for one of
the causes in `Leave`.
-/

namespace Invocation.Shell

/-! ## Environments -/

/-- A variable; one without a value is not set, but has been named. -/
structure Variable where
  value : Option Text
  exported : Bool
  readOnly : Bool

/-- A process that was not waited for. -/
structure Job where
  pid : Nat
  /-- The time of its end, if it ends. -/
  ends : Option Nat
  status : Nat

/-- The execution environment of a shell. -/
structure Environment where
  /-- The name that messages begin with. -/
  name : Text
  pid : Nat
  /-- The processes in which this one began. -/
  ancestors : List Nat
  /-- The number that `$$` stands for. -/
  shellPid : Nat
  bindings : Entries Variable
  parameters : List Text
  functions : Entries Script
  /-- The variables that the running function keeps to itself, as they were before. -/
  locals : Option (Entries (Option Variable))
  /-- The working directory as it was named. -/
  directory : Path
  mask : Nat
  /-- What is done on a signal; an empty text means that it is ignored. -/
  traps : Entries Text
  /-- The channels of the descriptors. -/
  descriptors : List (Nat × Nat)
  status : Nat
  /-- The status of the last script that was run for its output. -/
  outputStatus : Nat
  jobs : List Job
  /-- The number of loops that are running. -/
  loops : Nat
  /-- The line of the command that is running. -/
  line : Nat
  /-- The utility that runs the script, if one of the shell's own does. -/
  utility : Option Text
  /-- A failure ends the shell. -/
  failsFast : Bool
  /-- A failure is being tested for and ends nothing. -/
  guarded : Bool
  /-- A parameter that is not set is an error. -/
  strict : Bool
  /-- Commands are shown before they run. -/
  traced : Bool

/-- The value of a variable. -/
def Environment.value? (e : Environment) (name : Text) : Option Text :=
  (e.bindings.get? (String.ofList name)).bind (·.value)

/-- The environment with a value given to a variable. -/
def Environment.assign (name value : Text) (e : Environment) : Environment :=
  let name := String.ofList name
  let before := (e.bindings.get? name).getD ⟨none, false, false⟩
  { e with bindings := e.bindings.put name { before with value := some value } }

/-! ## The machine -/

/-- Where what is written goes. -/
inductive Sink where
  | stream (stream : Stream)
  | discard
  | file (path : Path)
  /-- To whoever reads the channel. -/
  | reader
  /-- Nothing can be written. -/
  | none
  deriving DecidableEq

/-- An open file, pipe or output. -/
structure Channel where
  sink : Sink
  /-- What can be read, before zeros without end if `endless`. -/
  unread : Text
  endless : Bool
  /-- The time at which it can be read. -/
  ready : Nat

/-- A text that was written to an output. -/
structure Writing where
  time : Nat
  stream : Stream
  text : Text

/-- Everything there is. -/
structure Machine where
  files : Files
  channels : Array Channel
  time : Nat
  /-- The time at which all processes are killed, if they are. -/
  deadline : Option Nat
  /-- The processes have been asked to end. -/
  asked : Bool
  /-- What was written to the outputs, the latest first. -/
  writings : List Writing
  /-- The time up to which processes that nobody waits for may write. -/
  leftBehind : Nat
  /-- The signals on their way, each with the process it was sent to. -/
  sent : List (Nat × Nat)
  nextPid : Nat
  environment : Environment

/-- Why control leaves a script. -/
inductive Leave where
  | exit (status : Nat)
  /-- A signal has ended the process. -/
  | killed (signal : Nat)
  | endLoop (levels : Nat)
  | nextTurn (levels : Nat)
  | back (status : Nat)
  /-- The deadline has passed. -/
  | late

/-- A step of the machine. -/
abbrev Step (α : Type) := ExceptT Leave (StateM Machine) α

namespace Step

/-- The environment of the running process. -/
def environment : Step Environment := do
  return (← get).environment

/-- Changes the environment of the running process. -/
def modifyEnvironment (f : Environment → Environment) : Step Unit :=
  modify fun m => { m with environment := f m.environment }

/-! ## Time -/

/-- How long the processes have after they were asked to end. -/
def grace : Nat := 200

/-- Lets time pass up to a moment, unless the deadline comes before. A process that ignores being
asked to end goes on until it is killed. -/
def waitUntil (moment : Nat) : Step Unit := do
  let m ← get
  match m.deadline with
  | none => set { m with time := max m.time moment }
  | some deadline =>
    if moment ≤ deadline then set { m with time := max m.time moment }
    else if !m.asked && m.environment.traps.get? "TERM" = some [] then
      if moment ≤ deadline + grace then
        set { m with time := moment, deadline := some (deadline + grace), asked := true }
      else
        set { m with time := deadline + grace, asked := true }
        throw .late
    else
      set { m with time := max m.time deadline }
      throw .late

/-- Goes on without end, so that only the deadline ends it. -/
def endless {α : Type} : Step α := do
  match (← get).deadline with
  | some deadline => waitUntil (deadline + grace + 1)
  | none => pure ()
  throw .late

/-- Lets some milliseconds pass. -/
def pass (milliseconds : Nat) : Step Unit := do
  waitUntil ((← get).time + milliseconds)

/-! ## Channels -/

/-- Opens a channel and gives its number. -/
def openChannel (channel : Channel) : Step Nat := do
  let m ← get
  set { m with channels := m.channels.push channel }
  return m.channels.size

/-- Puts a channel in the place of another. -/
def replaceChannel (number : Nat) (channel : Channel) : Step Unit :=
  modify fun m => { m with channels := m.channels.setIfInBounds number channel }

/-- The channel of a descriptor. -/
def channelOf? (descriptor : Nat) : Step (Option (Nat × Channel)) := do
  let m ← get
  match m.environment.descriptors.lookup descriptor with
  | none => return none
  | some number => return (m.channels[number]?).map (number, ·)

/-- Writes to a descriptor; false if it cannot be written to. -/
def write (descriptor : Nat) (text : Text) : Step Bool := do
  match ← channelOf? descriptor with
  | none => return false
  | some (number, channel) =>
    let m ← get
    match channel.sink with
    | .none => return false
    | .discard => return true
    | .stream stream =>
      if !text.isEmpty then
        set { m with writings := ⟨m.time, stream, text⟩ :: m.writings }
      return true
    | .reader =>
      replaceChannel number { channel with unread := channel.unread ++ text }
      return true
    | .file path =>
      let before :=
        match m.files.find? path with
        | some (.file contents) => contents
        | _ => []
      set { m with files := m.files.put path (.file (before ++ text)) }
      return true

/-- Takes at most `limit` characters from a descriptor, all of them without a limit. -/
def takeInput (descriptor : Nat) (limit : Option Nat) : Step Text := do
  match ← channelOf? descriptor with
  | none => return []
  | some (number, channel) =>
    waitUntil channel.ready
    let count := limit.getD channel.unread.length
    let taken := channel.unread.take count
    replaceChannel number { channel with unread := channel.unread.drop count }
    if channel.endless then
      match limit with
      | some count => return taken ++ List.replicate (count - taken.length) (Char.ofNat 0)
      | none => endless
    return taken

/-- Takes a line from a descriptor, with the line feed at its end if it has one. -/
def takeLine (descriptor : Nat) : Step Text := do
  match ← channelOf? descriptor with
  | none => return []
  | some (_, channel) =>
    waitUntil channel.ready
    takeInput descriptor (some (((Text.lines channel.unread).head?.getD []).length))

/-! ## Messages -/

/-- Writes a message of the shell, which names the line. -/
def complain (parts : List Text) : Step Unit := do
  let e ← environment
  discard <| write 2 (Text.joined [':', ' '] (e.name :: Text.ofNat e.line :: parts) ++ ['\n'])

/-- Writes a message about the script that is running. -/
def complainOfScript (parts : List Text) : Step Unit := do
  complain ((← environment).utility.toList ++ parts)

/-- Writes a message about the script that is running and leaves the shell with status 2. -/
def abortScript {α : Type} (parts : List Text) : Step α := do
  complainOfScript parts
  throw (.exit 2)

/-- Writes a message and leaves the shell with status 2. -/
def abort {α : Type} (parts : List Text) : Step α := do
  complain parts
  throw (.exit 2)

end Step

end Invocation.Shell

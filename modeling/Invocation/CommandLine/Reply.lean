import Invocation.Command.Snapshot
import Invocation.CommandLine.Call
import Invocation.Display.Show

/-!
# Replies

What a command line writes and the status it exits with. Records of the log that are important
enough are written to the error output. A call that runs a command exits with the command's own
status.
-/

namespace Invocation.CommandLine

open Invocation.Number Invocation.Text

/-! ## The log -/

/-- The levels that records may be asked for by. -/
def levelNames : Entries Verbosity.Level := [
  ("CRITICAL", 50), ("FATAL", 50), ("ERROR", Verbosity.error), ("WARN", Verbosity.warning),
  ("WARNING", Verbosity.warning), ("INFO", Verbosity.info), ("DEBUG", Verbosity.debug),
  ("NOTSET", 0)]

/-- The name of a level in the log. -/
def levelName (level : Verbosity.Level) : String :=
  if level = 50 then "CRITICAL"
  else if level = Verbosity.error then "ERROR"
  else if level = Verbosity.warning then "WARNING"
  else if level = Verbosity.info then "INFO"
  else if level = Verbosity.debug then "DEBUG"
  else "Level " ++ showNat level

/-- A record as it is written. -/
def recordLine (shown : Id → String) (record : Record) : String :=
  levelName record.level ++ " " ++ record.note.logger ++ ": " ++ record.note.message shown ++ "\n"

/-- The records from a level on, as they are written. -/
def logText (shown : Id → String) (level : Verbosity.Level) (log : List Record) : String :=
  String.join ((log.filter (level ≤ ·.level)).map (recordLine shown))

/-! ## Output -/

/-- The parameters of a terminal's control sequence, without its last letter. -/
def isSequenceParameter (c : Char) : Bool :=
  c = ';' || c = '?' || c.isDigit

/-- The text without the control sequences for a terminal; `fuel` is its length. -/
def withoutSequences : Nat → List Char → List Char
  | 0, cs => cs
  | _, [] => []
  | fuel + 1, '\x1b' :: '[' :: rest =>
    match rest.dropWhile isSequenceParameter with
    | c :: after =>
      if c.isAlpha then withoutSequences fuel after
      else '\x1b' :: '[' :: withoutSequences fuel rest
    | [] => '\x1b' :: '[' :: rest
  | fuel + 1, c :: rest => c :: withoutSequences fuel rest

/-- A line as it is written. -/
def echoed (line : String) : String :=
  String.ofList (withoutSequences line.length line.toList) ++ "\n"

/-- The text with each carriage return and line feed as one line feed. -/
def joinedBreaks : List Char → List Char
  | [] => []
  | '\r' :: '\n' :: rest => '\n' :: joinedBreaks rest
  | c :: rest => c :: joinedBreaks rest

/-- What a call writes and the status it exits with. -/
structure Answer where
  status : Int
  output : String
  deriving DecidableEq, Repr

/-- What a command line comes to. -/
inductive Reply where
  /-- The arguments are refused. -/
  | usage
  | failed (failure : Failure)
  | answered (status : Int) (output errors : String)
  deriving DecidableEq, Repr

/-- The exit status of a usage error. -/
def usageStatus : Int := 2

/-- The exit status of a command line. -/
def Reply.status : Reply → Int
  | usage => usageStatus
  | failed _ => 1
  | answered status .. => status

/-- What the process exits with, which is one byte. -/
def Reply.exitCode (reply : Reply) : Nat :=
  (reply.status % 256).toNat

/-! ## Calls -/

/-- A failure that is an error in the arguments. -/
def isUsageFailure : Failure → Bool
  | .noExecutable => true
  | .invalidOptions _ => true
  | .badPair _ => true
  | _ => false

/-- A command, or nothing if its description is at fault. -/
def made (create : Action Command) : Action (Option Command) :=
  ExceptT.mk fun world =>
    match create.run world with
    | (.ok command, world) => (.ok (some command), world)
    | (.error failure, world) =>
      (if isUsageFailure failure then .ok none else .error failure, world)

/-- A shown text, or the failure to show it. -/
def shownText (result : Except MarkupFault (List Char)) : Action String :=
  match result with
  | .ok cs => pure (String.ofList cs)
  | .error fault => throw (.markup fault)

/-- Writes the line of a command, or all that is known of it as JSON. -/
def render (shown : Id → String) (command : Command) (asJson : Bool) : Action Answer := do
  let line ← command.line none
  let snapshot : Snapshot := ⟨line, .ofCommand command⟩
  return ⟨0, echoed (if asJson then snapshot.toJson shown else line)⟩

/-- The terminal that calls write to. -/
def terminal : Display.Console :=
  ⟨80, false, .light⟩

variable [Display.Handlers]

/-- What is written of an execution, and its status. -/
def report (console : Display.Console) (run : Run) (result : Except Failure Unit) :
    Action Answer := do
  match result with
  | .ok () =>
    return ⟨run.outcome.exitStatus.getD 0, ← shownText (Display.showOutput console run)⟩
  | .error (.timedOut limit line) =>
    let output ← shownText (Display.showOutput console run)
    let hint := "Raise --timeout or background the command."
    let error ← shownText
      (Display.showError console (Failure.timedOut limit line).message (some hint))
    return ⟨timeoutStatus, output ++ error⟩
  | .error (.exited summary status) =>
    if !isWritable status then throw (.markup (.integer .unwritable))
    let hint := run.command.base ++ " exited " ++ showInt status
    let error ← shownText (Display.showError console (trimEnd summary) (some hint))
    return ⟨if status = 0 then 1 else status, error⟩
  | .error failure => throw failure

/-- Runs a command in the project's directory and writes what comes of it. -/
def execute (shell : World → Request → Launch) (console : Display.Console) (command : Command)
    (limit : Option Limit) : Action Answer := do
  let line ← shownText (Display.showLine console (← command.line none))
  World.record Verbosity.debug .waiting
  let world ← get
  let (result, scene) :=
    (Run.execute (shell world) world.places.projectDirectory none limit).run
      ⟨.ofCommand command, world⟩
  set scene.world
  let answer ← report console scene.run result
  return { answer with output := line ++ answer.output }

/-- Carries out a call; nothing if the description of its command is at fault. -/
def Call.answer (shown : Id → String) (shell : World → Request → Launch) :
    Call → Action (Option Answer)
  | .render command asJson => do
    match ← made (command.create false) with
    | none => return none
    | some command => return some (← CommandLine.render shown command asJson)
  | .run command limit neverRaises => do
    let console ← Display.chooseTheme terminal none
    match ← made (command.create neverRaises) with
    | none => return none
    | some command => return some (← execute shell console command limit)
  | .config => do
    return some ⟨0, echoed (← World.settings).displayText⟩

/-! ## Replies -/

/-- The level from which records are written. -/
def levelOf (arguments : Arguments) : Except Failure Verbosity.Level :=
  let name := upper ((arguments.last? "log-level").getD "WARNING")
  match levelNames.get? name with
  | some level => .ok level
  | none => .error (.unknownLevel name)

/-- The reply to a call that was carried out. -/
def replyOf (shown : Id → String) (level : Verbosity.Level) (log : List Record) :
    Except Failure (Option Answer) → Reply
  | .error failure => .failed failure
  | .ok none => .usage
  | .ok (some answer) =>
    let text (s : String) : String := String.ofList (joinedBreaks s.toList)
    .answered answer.status (text answer.output) (text (logText shown level log))

/-- The reply to the arguments of a command line, and the world after it. -/
def reply (shown : Id → String) (shell : World → Request → Launch) (arguments : List String)
    (world : World) : Reply × World :=
  match readArguments globalOptions false arguments with
  | .error _ => (.usage, world)
  | .ok globals =>
    match globals.positional with
    | [] => (.usage, world)
    | name :: rest =>
      if name ∉ callNames then (.usage, world)
      else
        match levelOf globals with
        | .error failure => (.failed failure, world)
        | .ok level =>
          match readCall name rest with
          | .error _ => (.usage, world)
          | .ok call =>
            let (result, world) := (call.answer shown shell).run world
            (replyOf shown level world.log result, world)

end Invocation.CommandLine

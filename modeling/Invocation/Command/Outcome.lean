import Invocation.Command.Basic

/-!
# Outcomes

What comes of a command while it runs: the moments of its start and end, what it wrote, and its exit
status. Output is only ever appended to. The exit status is recorded once, together with the end,
and a failure is raised after that.
-/

namespace Invocation

open Invocation.Number Invocation.Text

/-- One of the two outputs of a command. -/
inductive Stream where
  | stdout
  | stderr
  deriving DecidableEq, Repr

/-- What came of a command. -/
structure Outcome where
  exitStatus : Option Int
  stdout : String
  stderr : String
  /-- The command was started. -/
  isStarted : Bool
  startedAt : Option Nat
  finishedAt : Option Nat
  deriving DecidableEq, Repr

namespace Outcome

/-- Nothing yet. -/
def pending : Outcome :=
  ⟨none, "", "", false, none, none⟩

/-- The command has ended. -/
def isComplete (o : Outcome) : Bool :=
  o.exitStatus.isSome

/-- The command has ended with status zero. -/
def isSuccessful (o : Outcome) : Bool :=
  o.exitStatus == some 0

/-- The command has ended with another status. -/
def isFailed (o : Outcome) : Bool :=
  o.isComplete && o.exitStatus != some 0

/-- The time from start to end. -/
def runtime (o : Outcome) : Option Int := do
  return (← o.finishedAt : Int) - (← o.startedAt : Int)

/-- The outcome with a text appended to an output. -/
def append (stream : Stream) (text : String) (o : Outcome) : Outcome :=
  match stream with
  | .stdout => { o with stdout := o.stdout ++ text }
  | .stderr => { o with stderr := o.stderr ++ text }

end Outcome

/-- What is said of an output that is blank. -/
def nothingWritten : String := "Nothing written"

/-- An output as it is summarised. -/
def summarised (output : String) : String :=
  if isAllBlank output then nothingWritten else trim output

/-- The outputs of a command, a line for each. -/
def failureSummary (name stdout stderr : String) : String :=
  name ++ " stdout: " ++ summarised stdout ++ "\n" ++
    name ++ " stderr: " ++ summarised stderr ++ "\n"

/-- The exit status that a value denotes; fractions are cut off. -/
def statusOf : Value → Except StatusFault Int
  | .bool b => .ok (if b then 1 else 0)
  | .int n => .ok n
  | .float .nan => .error .nan
  | .float x =>
    match x.truncated? with
    | some n => .ok n
    | none => .error .infinite
  | .text s => (readInteger s).mapError .integer
  | value => .error (.kind value.kind)

/-- A command and what came of it. -/
structure Run where
  command : Command
  outcome : Outcome

/-- A run and the world it is in. -/
structure Scene where
  run : Run
  world : World

/-- A step of a run. What it did before it failed stays done. -/
abbrev RunAction (α : Type) := ExceptT Failure (StateM Scene) α

namespace Run

/-- The run of a command that has not been started. -/
def ofCommand (command : Command) : Run :=
  ⟨command, .pending⟩

/-- A step in the world as a step of a run. -/
def inWorld {α : Type} (action : Action α) : RunAction α :=
  ExceptT.mk fun scene =>
    let (result, world) := action.run scene.world
    (result, { scene with world })

/-- Changes the outcome. -/
def modifyOutcome (f : Outcome → Outcome) : RunAction Unit :=
  modify fun scene => { scene with run.outcome := f scene.run.outcome }

/-- The line of the run's command. -/
def line (config : Option Settings) : RunAction String := do
  inWorld ((← get).run.command.line config)

/-- Notes the start. -/
def start : RunAction Unit := do
  modifyOutcome fun o => { o with isStarted := true }
  let moment ← inWorld World.now
  modifyOutcome fun o => { o with startedAt := some moment }

/-- Appends a text to an output. -/
def appendText (stream : Stream) (text : String) : RunAction Unit :=
  modifyOutcome (Outcome.append stream text)

/-- Appends a value to an output, which must be a text. -/
def append (stream : Stream) : Value → RunAction Unit
  | .text s => appendText stream s
  | value => throw (.notText value.kind)

/-- Records the exit status and the end, once. A second time the earlier status is told, if it can
be written. -/
def recordStatus (status : Int) : RunAction Unit := do
  match (← get).run.outcome.exitStatus with
  | some earlier =>
    if isWritable earlier then throw (.alreadyComplete earlier) else throw (.integer .unwritable)
  | none =>
    let moment ← inWorld World.now
    modifyOutcome fun o => { o with exitStatus := some status, finishedAt := some moment }

/-- Ends the run with a status. A status that counts as a failure is raised after it has been
recorded. -/
def finish (status : Int) : RunAction Unit := do
  recordStatus status
  let ⟨command, outcome⟩ := (← get).run
  if status ≠ 0 ∧ command.raises = true then
    inWorld (World.record Verbosity.error (.failed command.id status))
    throw (.exited (failureSummary command.base outcome.stdout outcome.stderr) status)
  else inWorld (World.record command.verbosity (.finished command.id status))

/-- Ends the run with the status that a value denotes. -/
def finishWith (code : Value) : RunAction Unit := do
  match statusOf code with
  | .ok status => finish status
  | .error fault => throw (.status fault)

/-- The names of what is fixed or kept by the run itself. -/
def readOnlyNames : List String := [
  "id", "name", "base", "args", "options", "verbosity", "host", "raise_on_non_zero_exit",
  "exit_status", "stdout", "stderr", "started_at", "finished_at", "runtime", "success", "failure"]

/-- An attempt to assign to a name from outside. -/
def assign (name : String) : RunAction Unit :=
  if name ∈ readOnlyNames then throw (.readOnly name) else pure ()

/-- An attempt to assign to an option from outside. -/
def assignOption (name : String) : RunAction Unit :=
  if name.toList.head? = some '_' then pure ()
  else throw (.invalid [.atField name .frozen])

end Run

end Invocation

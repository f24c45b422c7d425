import Invocation.Shell.Expand
import Invocation.Shell.Grammar

/-!
# Processes and redirections

How a script is run from its text, how a part of it runs in a process of its own, and how
descriptors are changed for a while. What runs a script that was read is a parameter of all that
follows.
-/

namespace Invocation.Shell

open Step

/-- What runs a script and gives its exit status. -/
abbrev Runner := Script → Step Nat

/-! ## Control -/

/-- What comes of a step, also when control leaves it. -/
def attempt {α : Type} (body : Step α) : Step (Except Leave α) :=
  ExceptT.mk fun m =>
    let (result, m) := body.run m
    (.ok result, m)

/-- Runs a script's commands one after the other; `fuel` bounds their number. -/
def runCommands (run : Runner) : Nat → Nat → Reading → Step Nat
  | 0, status, _ => return status
  | fuel + 1, status, reading =>
    match Reader.completeCommand.run reading with
    | (.error fault, reading) => do
      modifyEnvironment fun e => { e with line := reading.line }
      abortScript [Text.ofString ("Syntax error: " ++ fault.message)]
    | (.ok none, _) => return status
    | (.ok (some script), reading) => do
      runCommands run fuel (← run script) reading

/-- Runs a script from its text. -/
def runText (run : Runner) (text : Text) : Step Nat :=
  runCommands run (text.length + 1) 0 (.ofText text)

/-- Runs the body of a process and then what its trap on the end asks for. -/
def withExitTrap (run : Runner) (body : Step Nat) : Step Nat := do
  let finish (status : Nat) : Step Nat := do
    match (← environment).traps.get? "EXIT" with
    | none => return status
    | some action =>
      modifyEnvironment fun e => { e with traps := e.traps.erase "EXIT", status }
      discard <| runText run action
      return status
  match ← attempt body with
  | .ok status => finish status
  | .error (.exit status) => finish status
  | .error (.back status) => finish status
  | .error (.endLoop _) => finish 0
  | .error (.nextTurn _) => finish 0
  | .error leave => throw leave

/-! ## Signals -/

/-- The signals with their numbers. -/
def signals : List (String × Nat) := [
  ("EXIT", 0), ("HUP", 1), ("INT", 2), ("QUIT", 3), ("ILL", 4), ("TRAP", 5), ("ABRT", 6),
  ("BUS", 7), ("FPE", 8), ("KILL", 9), ("USR1", 10), ("SEGV", 11), ("USR2", 12), ("PIPE", 13),
  ("ALRM", 14), ("TERM", 15), ("STKFLT", 16), ("CHLD", 17), ("CONT", 18), ("STOP", 19),
  ("TSTP", 20), ("TTIN", 21), ("TTOU", 22)]

/-- The name of the signal that an operand names or numbers. -/
def signalName? (operand : Text) : Option String :=
  match Text.nat? operand with
  | some n => (signals.find? fun (_, number) => number = n).map (·.1)
  | none => (signals.find? fun (name, _) => name = String.ofList operand).map (·.1)

/-- The number of the signal that an operand names or numbers. -/
def signalNumber? (operand : Text) : Option Nat :=
  match Text.nat? operand with
  | some n => if n ≤ 64 then some n else none
  | none => signals.lookup (String.ofList operand)

/-- A signal that ends no process by itself. -/
def isHarmless (signal : Nat) : Bool :=
  signal ∈ [0, 17, 18, 23, 28]

/-- What the shell does on a signal, if not what the signal does by itself. -/
def Environment.actionOn? (signal : Nat) (e : Environment) : Option Text :=
  if signal ∈ [9, 19] then none
  else (signals.find? fun (_, number) => number = signal).bind fun (name, _) => e.traps.get? name

/-- Acts on the signals that have reached the shell while a command ran. -/
def actOnSignals (run : Runner) : Step Unit := do
  let m ← get
  let pid := m.environment.pid
  set { m with sent := m.sent.filter (·.1 ≠ pid) }
  (m.sent.filter (·.1 = pid)).forM fun (_, signal) => do
    let e ← environment
    match e.actionOn? signal with
    | none => throw (.killed signal)
    | some [] => pure ()
    | some action =>
      discard <| runText run action
      modifyEnvironment fun now => { now with status := e.status }

/-! ## Processes -/

/-- How a process ended. -/
inductive Ended where
  | exited (status : Nat)
  | signalled (signal : Nat)

/-- The exit status for the process that waited. -/
def Ended.status : Ended → Nat
  | exited status => status % 256
  | signalled signal => 128 + signal

/-- What the shell says of a process that a signal ended. -/
def signalText : Nat → Option String
  | 1 => "Hangup"
  | 2 => none
  | 3 => "Quit"
  | 4 => "Illegal instruction"
  | 5 => "Trace/breakpoint trap"
  | 6 => "Aborted"
  | 7 => "Bus error"
  | 8 => "Floating point exception"
  | 9 => "Killed"
  | 10 => "User defined signal 1"
  | 11 => "Segmentation fault"
  | 12 => "User defined signal 2"
  | 13 => none
  | 14 => "Alarm clock"
  | 15 => "Terminated"
  | _ => none

/-- The environment of a process that begins in another one. Of the traps it keeps what is
ignored. -/
def Environment.child (pid : Nat) (e : Environment) : Environment :=
  { e with
    pid, ancestors := e.pid :: e.ancestors, traps := e.traps.filter (·.2.isEmpty), jobs := [] }

/-- Ends the process if a signal has reached it about which it does nothing. -/
def dieOfSignals : Step Unit := do
  let m ← get
  let e := m.environment
  match m.sent.find? fun (pid, signal) => pid = e.pid && (e.actionOn? signal).isNone with
  | some (_, signal) => throw (.killed signal)
  | none => pure ()

/-- Runs a body in a process of its own. -/
def inChild (body : Step Nat) : Step Ended := do
  let before ← get
  let pid := before.nextPid
  set { before with nextPid := pid + 1, environment := before.environment.child pid }
  let result ← attempt (do pass 1; body)
  modify fun m => { m with environment := before.environment }
  dieOfSignals
  match result with
  | .ok status => return .exited status
  | .error (.exit status) => return .exited status
  | .error (.killed signal) => return .signalled signal
  | .error .late => throw .late
  | .error _ => return .exited 0

/-- Waits for a process and says how it ended if a signal did it. -/
def reap (ended : Ended) : Step Nat := do
  match ended with
  | .exited _ => pure ()
  | .signalled signal =>
    match signalText signal with
    | some message => discard <| write 2 (Text.ofString message ++ ['\n'])
    | none => pure ()
  return ended.status

/-- Runs a process and waits for it. Where the shell has a trap on being asked to end, it goes on
after the deadline with the action of the trap. -/
def foreground (run : Runner) (process : Step Ended) : Step Nat := do
  match ← attempt process with
  | .ok ended => reap ended
  | .error .late =>
    let m ← get
    match m.asked, m.environment.traps.get? "TERM" with
    | false, some action =>
      set { m with asked := true, deadline := m.deadline.map (· + grace) }
      modifyEnvironment fun e => { e with status := 143 }
      discard <| runText run action
      return 143
    | _, _ => throw .late
  | .error leave => throw leave

/-- What a script writes to its output, run in a process of its own. -/
def outputOf (run : Runner) (text : Text) : Step Text := do
  let number ← openChannel ⟨.reader, [], false, 0⟩
  let body : Step Nat := do
    modifyEnvironment fun e => { e with descriptors := (1, number) :: e.descriptors }
    withExitTrap run (runText run text)
  let status ← foreground run (inChild body)
  modifyEnvironment fun e => { e with outputStatus := status }
  return ((← get).channels[number]?.map (·.unread)).getD []

/-! ## Redirections -/

/-- Gives a descriptor a channel. -/
def setDescriptor (descriptor number : Nat) : Step Unit :=
  modifyEnvironment fun e =>
    { e with descriptors := (descriptor, number) :: e.descriptors.filter (·.1 ≠ descriptor) }

/-- Takes a descriptor away. -/
def closeDescriptor (descriptor : Nat) : Step Unit :=
  modifyEnvironment fun e => { e with descriptors := e.descriptors.filter (·.1 ≠ descriptor) }

/-- Complains that a redirection is not possible. -/
def refuseRedirection (parts : List Text) : Step Bool := do
  complainOfScript parts
  return false

/-- The channel that reads a node. -/
def readingChannel : Node → Channel
  | .file contents => ⟨.none, contents, false, 0⟩
  | .zero => ⟨.none, [], true, 0⟩
  | _ => ⟨.none, [], false, 0⟩

/-- Gives a descriptor the channel of another one. -/
def copyDescriptor (descriptor : Nat) (source : Text) : Step Bool := do
  match source, Text.nat? source with
  | ['-'], _ =>
    closeDescriptor descriptor
    return true
  | _, some other =>
    match (← environment).descriptors.lookup other with
    | some number =>
      setDescriptor descriptor number
      return true
    | none => refuseRedirection [source, Text.ofString "Bad file descriptor"]
  | _, none => refuseRedirection [Text.ofString "Bad fd number"]

/-- Opens a file for a descriptor. -/
def openFile (descriptor : Nat) (mode : Mode) (name : Text) : Step Bool := do
  let m ← get
  let path := Path.ofText m.environment.directory name
  let cannot (verb why : String) : Step Bool :=
    refuseRedirection
      [Text.ofString ("cannot " ++ verb ++ " ") ++ name, Text.ofString why]
  let isDirectoryName := name.getLast? = some '/'
  let node :=
    if isDirectoryName then (m.files.find? path).filter (· = .directory) else m.files.find? path
  match mode, node with
  | .read, none => cannot "open" "No such file"
  | .read, some node =>
    setDescriptor descriptor (← openChannel (readingChannel node))
    return true
  | _, some .directory => cannot "create" "Is a directory"
  | _, some .null => discarding
  | _, some .zero => discarding
  | _, some (.file contents) =>
    writing path (if mode = .append then contents else [])
  | _, _ =>
    if isDirectoryName then cannot "create" "Is a directory"
    else if m.files.isDirectory path.dropLast then writing path []
    else cannot "create" "Directory nonexistent"
where
  discarding : Step Bool := do
    setDescriptor descriptor (← openChannel ⟨.discard, [], false, 0⟩)
    return true
  writing (path : Path) (contents : Text) : Step Bool := do
    modify fun m => { m with files := m.files.put path (.file contents) }
    setDescriptor descriptor (← openChannel ⟨.file path, [], false, 0⟩)
    return true

/-- Carries out a redirection; false if it is not possible. -/
def redirect (run : Runner) (redirection : Redirection) : Step Bool := do
  match redirection with
  | .file descriptor mode target =>
    let name ← expandText (outputOf run) target
    match String.ofList name with
    | "/dev/stdin" => copyDescriptor descriptor ['0']
    | "/dev/stdout" => copyDescriptor descriptor ['1']
    | "/dev/stderr" => copyDescriptor descriptor ['2']
    | _ => openFile descriptor mode name
  | .copy descriptor target => do
    copyDescriptor descriptor (← expandText (outputOf run) target)
  | .document descriptor body => do
    let text ← expandText (outputOf run) body
    setDescriptor descriptor (← openChannel ⟨.none, text, false, 0⟩)
    return true

/-- Carries out redirections up to the first that is not possible. -/
def redirectAll (run : Runner) : List Redirection → Step Bool
  | [] => return true
  | first :: rest => do
    if ← redirect run first then redirectAll run rest else return false

/-- Runs a body while redirections hold, another one if they are not possible. -/
def whileRedirected (run : Runner) (redirections : List Redirection) (body : Step Nat)
    (otherwise : Step Nat := return 2) : Step Nat := do
  let before := (← environment).descriptors
  let result ← attempt (do
    if ← redirectAll run redirections then body else otherwise)
  modifyEnvironment fun e => { e with descriptors := before }
  match result with
  | .ok status => return status
  | .error leave => throw leave

end Invocation.Shell

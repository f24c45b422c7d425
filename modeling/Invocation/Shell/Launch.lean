import Invocation.Execution
import Invocation.Shell.Eval

/-!
# Launching the shell

The shell that runs a line in a directory: what keeps it from starting, the environment it starts
with, and what is seen of its run. Its exit is noticed at the next of the moments at which it is
looked for, which counts against the limit; after that, its outputs are read for a while longer, as
processes that it left behind may still write to them.
-/

namespace Invocation.Shell

open Invocation.Number

/-! ## Faults -/

/-- The most bytes of a line. -/
def maxLine : Nat := 131071

/-- Why a directory cannot be entered, if so. -/
def directoryFault? (files : Files) (name : String) (path : Path) : Option LaunchFault :=
  match files.find? path with
  | some .directory => none
  | some _ => some (.notDirectory name)
  | none =>
    let parents := (List.range path.length).map path.take
    if parents.any fun parent => (files.find? parent).any (· ≠ .directory) then
      some (.notDirectory name)
    else some (.missingDirectory name)

/-- Why a request is refused, if so. -/
def launchFault? (files : Files) (base : Path) (request : Request) : Option LaunchFault :=
  let zero := Char.ofNat 0
  if request.line.contains zero || request.directory.contains zero then some .nulByte
  else
    match directoryFault? files request.directory
        (Path.ofText base (Text.ofString request.directory)) with
    | some fault => some fault
    | none => if maxLine < (Text.ofString request.line).length then some .lineTooLong else none

/-! ## The start -/

/-- The variables of every environment. -/
def systemVariables : Entries String := [
  ("PATH", "/usr/local/bin:/usr/local/sbin:/usr/local/bin:/usr/sbin:/usr/bin:/sbin:/bin"),
  ("HOME", "/root"), ("LANG", "C.UTF-8")]

/-- The number of the shell's process. -/
def shellPid : Nat := 1000

/-- The environment that the shell starts with. -/
def startingEnvironment (directory : Path) (given : Entries String) : Environment where
  name := ['s', 'h']
  pid := shellPid
  ancestors := []
  shellPid := shellPid
  bindings :=
    (Entries.putAll systemVariables (given ++ [("PWD", "")])).map fun (name, value) =>
      (String.ofList (Text.ofString name),
        ⟨some (if name = "PWD" then directory.text else Text.ofString value), true, false⟩)
  parameters := []
  functions := []
  locals := none
  directory := directory
  mask := 0o022
  traps := []
  descriptors := [(0, 0), (1, 1), (2, 2)]
  status := 0
  outputStatus := 0
  jobs := []
  loops := 0
  line := 1
  utility := none
  failsFast := false
  guarded := false
  strict := false
  traced := false

/-- The machine on which the shell starts. -/
def startingMachine (files : Files) (directory : Path) (request : Request) : Machine where
  files := files
  channels := #[⟨.none, [], false, 0⟩, ⟨.stream .stdout, [], false, 0⟩,
    ⟨.stream .stderr, [], false, 0⟩]
  time := 0
  deadline := request.limit.bind Limit.milliseconds?
  asked := false
  writings := []
  leftBehind := 0
  sent := []
  nextPid := shellPid + 1
  environment := startingEnvironment directory request.environment

/-! ## The course -/

/-- How often an exit is looked for, in milliseconds. -/
def interval : Nat := 50

/-- How long outputs are read after an exit, in milliseconds. -/
def drainTime : Nat := 500

/-- The moment at which an exit is noticed. -/
def noticed (exit : Nat) : Nat :=
  (max 1 exit + interval - 1) / interval * interval

/-- What arrives of some writings up to a moment, with the ends of the streams if nothing could
come after it. -/
def arrivals (writings : List Writing) (last : Nat) (closes : Bool) : List Arrival :=
  let inTime := (writings.filter (·.time ≤ last)).mergeSort fun a b => a.time ≤ b.time
  let reads := inTime.flatMap fun writing =>
    (Capture.readsOf writing.text.bytes).map (Arrival.read writing.stream)
  if closes then reads ++ [.closed .stdout, .closed .stderr] else reads

/-- What is seen of a run that ended with a status, on the machine as it was then. -/
def courseOfExit (m : Machine) (limit : Option Limit) (status : Int) : Course :=
  let moment := noticed m.time
  let seen (moment : Nat) (ending : Ending) : Course :=
    ⟨arrivals m.writings.reverse (moment + drainTime) (m.leftBehind ≤ moment + drainTime), ending⟩
  match limit, limit.bind Limit.milliseconds? with
  | some limit, some reached =>
    if reached < moment then seen reached (.timedOut limit) else seen moment (.exited status)
  | _, _ => seen moment (.exited status)

/-- What is seen of a run that was killed at its limit. -/
def courseOfTimeout (m : Machine) (limit : Option Limit) : Course :=
  ⟨arrivals m.writings.reverse m.time true, .timedOut (limit.getD (.whole 0))⟩

/-- How deep the scripts of a line may go. -/
def depth : Nat := 2000

/-- The shell: what comes of a request, where some files exist and paths begin at a base. -/
def launch (files : Files) (base : Path) (request : Request) : Launch :=
  match launchFault? files base request with
  | some fault => .refused fault
  | none =>
    let directory := Path.ofText base (Text.ofString request.directory)
    let run := Script.run depth
    let body := withExitTrap run (runText run (Text.ofString request.line))
    let (result, m) := body.run (startingMachine files (files.followed directory) request)
    .ran <|
      match result with
      | .ok status => courseOfExit m request.limit (status % 256 : Nat)
      | .error (.exit status) => courseOfExit m request.limit (status % 256 : Nat)
      | .error (.killed signal) => courseOfExit m request.limit (-(signal : Int))
      | .error .late => courseOfTimeout m request.limit
      | .error _ => courseOfExit m request.limit 0

/-! ## The files of a world -/

/-- The files of every system and those of a world. -/
def filesOf (world : World) : Files :=
  let settings (name : String) (contents : Option String) : Files :=
    match contents with
    | some contents => Files.withParents (Files.rooted name) (.file (Text.ofString contents))
    | none => []
  settings world.places.userFile world.userFile ++
    settings world.places.projectFile world.projectFile ++
    Files.withParents (Files.rooted world.places.projectDirectory) .directory ++ Files.system

/-- The shell in a world, with paths from the project's directory. -/
def inWorld (world : World) : Request → Launch :=
  launch (filesOf world) (Files.rooted world.places.projectDirectory)

end Invocation.Shell

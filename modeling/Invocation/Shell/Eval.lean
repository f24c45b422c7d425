import Invocation.Shell.Builtin

/-!
# Running scripts

What each form of command does. The steps are written over what runs the scripts inside them, and
`run` ties the knot: it goes as deep as its fuel, after which a script counts as one that does not
end.
-/

namespace Invocation.Shell

open Step

namespace Script

/-! ## Failing fast -/

/-- Leaves the shell if a failure ends it. -/
def checked (status : Nat) : Step Nat := do
  let e ← environment
  if status ≠ 0 && e.failsFast && !e.guarded then throw (.exit status)
  return status

/-- Runs a script whose failure is tested for. -/
def guarded (body : Step Nat) : Step Nat := do
  let before := (← environment).guarded
  modifyEnvironment fun e => { e with guarded := true }
  let result ← attempt body
  modifyEnvironment fun e => { e with guarded := before }
  match result with
  | .ok status => return status
  | .error leave => throw leave

/-- Notes the status of a command that has ended. -/
def noted (body : Step Nat) : Step Nat := do
  let status ← body
  modifyEnvironment fun e => { e with status }
  return status

/-- Runs a command, after which the shell acts on signals and on a failure. -/
def finished (run : Runner) (body : Step Nat) : Step Nat := do
  let status ← noted body
  actOnSignals run
  checked status

/-! ## Simple commands -/

/-- Gives variables their values. -/
def assignAll (run : Runner) : List (List Char × Word) → Step Unit
  | [] => return ()
  | (name, word) :: rest => do
    Builtin.assign name (← expandText (outputOf run) word)
    assignAll run rest

/-- Runs a body while variables have other values, which programs are given too. -/
def whileAssigned (run : Runner) (assignments : List (List Char × Word)) (body : Step Nat) :
    Step Nat := do
  let before := (← environment).bindings
  assignAll run assignments
  modifyEnvironment fun e =>
    { e with
      bindings := e.bindings.map fun (name, content) =>
        if assignments.any (String.ofList ·.1 = name) then (name, { content with exported := true })
        else (name, content) }
  let result ← attempt body
  if !assignments.isEmpty then modifyEnvironment fun e => { e with bindings := before }
  match result with
  | .ok status => return status
  | .error leave => throw leave

/-- Shows a command before it runs, if the shell is asked to. -/
def trace (words : List Text) : Step Unit := do
  if (← environment).traced then
    discard <| write 2 (['+', ' '] ++ Text.joined [' '] words ++ ['\n'])

/-- Runs a function with its own positional parameters. -/
def callFunction (run : Runner) (body : Script) (operands : List Text) : Step Nat := do
  let before ← environment
  modifyEnvironment fun e => { e with parameters := operands, locals := some [], loops := 0 }
  let result ← attempt (run body)
  modifyEnvironment fun e =>
    { e with
      parameters := before.parameters, locals := before.locals, loops := before.loops
      bindings := (e.locals.getD []).foldl
        (fun bindings (name, content) =>
          match content with
          | some content => bindings.put name content
          | none => bindings.erase name)
        e.bindings }
  match result with
  | .ok status => return status
  | .error (.back status) => return status
  | .error leave => throw leave

/-- Runs a program, or says why there is none. -/
def callProgram (run : Runner) (name : Text) (operands : List Text) : Step Nat := do
  if name.isEmpty then
    complainOfScript [name, Text.ofString "Permission denied"]
    return 127
  match ← Program.find "" name with
  | .program found =>
    foreground run (inChild (Program.runNamed run (operands.length + 1) found name operands))
  | .notRunnable =>
    complainOfScript [name, Text.ofString "Permission denied"]
    return 126
  | .missing =>
    complainOfScript [name, Text.ofString "not found"]
    return 127

/-- Runs a utility of the shell or a program, without regard to functions. -/
def callUtility (run : Runner) (name : Text) (operands : List Text) : Step Nat :=
  if String.ofList name ∈ Builtin.names then Builtin.runNamed run (String.ofList name) operands
  else callProgram run name operands

/-- Runs what `command` is given. -/
def callCommand (run : Runner) : List Text → Step Nat
  | [] => return 0
  | ['-', 'v'] :: names => do return (← names.mapM (Builtin.describe false)).foldl max 0
  | ['-', 'V'] :: names => do return (← names.mapM (Builtin.describe true)).foldl max 0
  | ['-', 'p'] :: rest => callCommand run rest
  | ['-', '-'] :: rest => callCommand run rest
  | name :: operands => callUtility run name operands

/-- Runs a command that has words. -/
def call (run : Runner) (name : Text) (operands : List Text)
    (assignments : List (List Char × Word)) (redirections : List Redirection) : Step Nat := do
  let e ← environment
  let word := String.ofList name
  match e.functions.get? word with
  | some body =>
    whileAssigned run assignments
      (whileRedirected run redirections (callFunction run body operands))
  | none =>
    if word = "exec" then
      if ← redirectAll run redirections then
        assignAll run assignments
        Builtin.runNamed run word operands
      else throw (.exit 2)
    else if word ∈ Reader.specialNames then
      let before := (← environment).descriptors
      if !(← redirectAll run redirections) then throw (.exit 2)
      assignAll run assignments
      let result ← attempt (Builtin.runNamed run word operands)
      modifyEnvironment fun e => { e with descriptors := before }
      match result with
      | .ok status => return status
      | .error leave => throw leave
    else
      let body :=
        if word = "command" then callCommand run operands else callUtility run name operands
      whileAssigned run assignments (whileRedirected run redirections body)

/-- Runs a simple command. -/
def runSimple (run : Runner) (line : Nat) (assignments : List (List Char × Word))
    (words : List Word) (redirections : List Redirection) : Step Nat := do
  modifyEnvironment fun e => { e with line, outputStatus := 0 }
  match ← expandFields (outputOf run) words with
  | [] =>
    let status ← whileRedirected run redirections (do assignAll run assignments; return 0)
    if status ≠ 0 then return status
    return (← environment).outputStatus
  | name :: operands =>
    trace (name :: operands)
    call run name operands assignments redirections

/-! ## Pipelines and background -/

/-- Runs a body with a descriptor of its own. -/
def withDescriptor (descriptor : Nat) (number : Option Nat) (body : Step Nat) : Step Nat := do
  match number with
  | some number => setDescriptor descriptor number
  | none => pure ()
  body

/-- Runs the stages of a pipeline, all of which start at the same time, and gives how the last one
ended; `none` if a stage did not end in time. -/
def runStages (run : Runner) (start : Nat) (input : Option Nat) :
    List Script → Step (Option Ended)
  | [] => return some (.exited 0)
  | stage :: rest => do
    modify fun m => { m with time := start }
    let output ←
      if rest.isEmpty then pure none else some <$> openChannel ⟨.reader, [], false, start⟩
    let body := withDescriptor 0 input (withDescriptor 1 output (withExitTrap run (run stage)))
    let result ← attempt (inChild body)
    let finish := (← get).time
    match output with
    | some number =>
      match (← get).channels[number]? with
      | some channel => replaceChannel number { channel with ready := finish }
      | none => pure ()
    | none => pure ()
    let others ← if rest.isEmpty then pure (some (.exited 0)) else runStages run start output rest
    modify fun m => { m with time := max m.time finish }
    match result, rest with
    | .ok (.signalled signal), [] => return others.map fun _ => .signalled signal
    | .ok (.signalled signal), _ =>
      discard <| reap (.signalled signal)
      return others
    | .ok ended, [] => return others.map fun _ => ended
    | .ok _, _ => return others
    | .error .late, _ => return none
    | .error leave, _ => throw leave

/-- Runs a pipeline. -/
def runPipeline (run : Runner) (stages : List Script) : Step Nat := do
  let process : Step Ended := do
    match ← runStages run (← get).time none stages with
    | some ended => return ended
    | none => throw .late
  foreground run process

/-- A moment after all others. -/
def farAway : Nat := Nat.pow 10 18

/-- Starts a process and does not wait for it. -/
def start (run : Runner) (body : Script) : Step Nat := do
  let before ← get
  let nothing ← openChannel ⟨.none, [], false, 0⟩
  modify fun m => { m with deadline := none }
  let result ← attempt (inChild (withDescriptor 0 (some nothing) (withExitTrap run (run body))))
  let finish := (← get).time
  modify fun m =>
    { m with time := before.time, deadline := before.deadline, asked := before.asked }
  let job (ends : Option Nat) (status : Nat) : Step Nat := do
    modify fun m => { m with leftBehind := max m.leftBehind (ends.getD farAway) }
    modifyEnvironment fun e => { e with jobs := e.jobs ++ [⟨before.nextPid, ends, status⟩] }
    return 0
  match result with
  | .ok ended => job (some finish) ended.status
  | .error .late => job none 0
  | .error leave => throw leave

/-! ## Loops -/

/-- What one turn of a loop comes to. -/
inductive Turn where
  | over (status : Nat)
  | next (status : Nat)

/-- Runs the body of a loop once. -/
def turn (body : Step Nat) : Step Turn := do
  let before := (← environment).loops
  modifyEnvironment fun e => { e with loops := before + 1 }
  let result ← attempt body
  modifyEnvironment fun e => { e with loops := before }
  match result with
  | .ok status => return .next status
  | .error (.endLoop 1) => return .over 0
  | .error (.endLoop (levels + 1)) => throw (.endLoop levels)
  | .error (.nextTurn 1) => return .next 0
  | .error (.nextTurn (levels + 1)) => throw (.nextTurn levels)
  | .error leave => throw leave

/-- Runs a body for each of some values of a variable. -/
def runEach (run : Runner) (name : Text) (body : Script) : Nat → List Text → Step Nat
  | status, [] => return status
  | _, value :: rest => do
    Builtin.assign name value
    match ← turn (run body) with
    | .over status => return status
    | .next status => runEach run name body status rest

/-- The most turns of a loop; one with more counts as a loop that does not end. -/
def maxTurns : Nat := 10000

/-- Runs a test and, if it says so, the body of a loop, over and over; `fuel` bounds the turns. -/
def runLoop (run : Runner) (untilHolds : Bool) (test body : Script) : Nat → Nat → Step Nat
  | 0, _ => endless
  | fuel + 1, last => do
    match ← turn (guarded (run test)) with
    | .over status => return status
    | .next status =>
      if (status = 0) = untilHolds then return last
      match ← turn (run body) with
      | .over status => return status
      | .next status => runLoop run untilHolds test body fuel status

/-- Runs the first branch with a pattern that a subject matches. -/
def runChoice (run : Runner) (subject : Text) : List (List Word × Script) → Step Nat
  | [] => return 0
  | (patterns, body) :: rest => do
    let globs ← patterns.mapM (expandPattern (outputOf run))
    if globs.any (Glob.matchesText · subject) then run body else runChoice run subject rest

/-! ## Scripts -/

/-- What a script does, where `run` runs the scripts inside it. -/
def step (run : Runner) : Script → Step Nat
  | .nothing => return 0
  | .simple line assignments words redirections =>
    finished run (runSimple run line assignments words redirections)
  | .sequence first second => do
    discard <| run first
    run second
  | .background body => finished run (start run body)
  | .both first second => do
    let status ← guarded (run first)
    if status = 0 then run second else return status
  | .either first second => do
    let status ← guarded (run first)
    if status = 0 then return status else run second
  | .negated body => noted (do return if (← guarded (run body)) = 0 then 1 else 0)
  | .pipeline stages => finished run (runPipeline run stages)
  | .subshell body => finished run (foreground run (inChild (withExitTrap run (run body))))
  | .conditional test yes no => do
    let status ← guarded (run test)
    noted (if status = 0 then run yes else run no)
  | .loop untilHolds test body => do
    noted (runLoop run untilHolds test body maxTurns 0)
  | .each name items body => do
    let values ←
      match items with
      | some words => expandFields (outputOf run) words
      | none => Environment.parameters <$> environment
    noted (runEach run name body 0 values)
  | .choice subject branches => do
    noted (runChoice run (← expandText (outputOf run) subject) branches)
  | .function name body => do
    modifyEnvironment fun e => { e with functions := e.functions.put (String.ofList name) body }
    return 0
  | .redirected body redirections =>
    noted (whileRedirected run redirections (run body) (checked 2))

/-- Runs a script as deep as some fuel goes. -/
def run : Nat → Script → Step Nat
  | 0, _ => endless
  | fuel + 1, script => step (run fuel) script

end Script

end Invocation.Shell

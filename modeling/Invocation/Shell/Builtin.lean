import Invocation.Shell.Program

/-!
# Built-in utilities

The utilities that act on the shell itself: its variables, directory, traps and control, and those
of the common ones that the shell has of its own. A special one that fails ends the shell.
-/

namespace Invocation.Shell

open Step

namespace Builtin

/-- Complains and gives status 2. -/
def refuse (parts : List Text) : Step Nat := do
  complain parts
  return 2

/-- The number in an operand; the shell is left if there is none. -/
def numberOrLeave (name : String) (operand : Text) : Step Nat := do
  match Text.nat? operand with
  | some n => return n
  | none => abort [Text.ofString name, Text.ofString "Illegal number", operand]

/-- Runs a script on behalf of a utility. -/
def withUtility (name : String) (body : Step Nat) : Step Nat := do
  let before := (← environment).utility
  modifyEnvironment fun e => { e with utility := some (Text.ofString name) }
  let result ← attempt body
  modifyEnvironment fun e => { e with utility := before }
  match result with
  | .ok status => return status
  | .error leave => throw leave

/-- The letters of the options at the start of operands and the operands after them, or the first
letter that is none of those allowed. -/
def readOptions (allowed : List Char) : List Text → Except Char (List Char × List Text)
  | ['-', '-'] :: rest => .ok ([], rest)
  | ('-' :: c :: letters) :: rest => do
    match (c :: letters).find? (· ∉ allowed) with
    | some wrong => throw wrong
    | none =>
      let (more, operands) ← readOptions allowed rest
      return (c :: letters ++ more, operands)
  | operands => .ok ([], operands)

/-- Runs a utility with its options and the operands after them; it refuses others than those
allowed. -/
def withOptions (name : String) (allowed : List Char) (operands : List Text)
    (body : List Char → List Text → Step Nat) : Step Nat := do
  match readOptions allowed operands with
  | .ok (letters, operands) => body letters operands
  | .error wrong => refuse [Text.ofString name, Text.ofString "Illegal option -" ++ [wrong]]

/-- As `withOptions`, but the shell is left where options are refused. -/
def withOptionsOrLeave (name : String) (allowed : List Char) (operands : List Text)
    (body : List Char → List Text → Step Nat) : Step Nat := do
  match readOptions allowed operands with
  | .ok (letters, operands) => body letters operands
  | .error wrong => abort [Text.ofString name, Text.ofString "Illegal option -" ++ [wrong]]

/-! ## Control -/

/-- The status in an operand, that of the last command if there is none. -/
def statusOperand (name : String) (operands : List Text) : Step Nat := do
  match operands with
  | [] => return (← environment).status
  | operand :: _ => numberOrLeave name operand

/-- The number of loops in an operand, one if there is none. -/
def levelsOperand (name : String) (operands : List Text) : Step Nat := do
  match operands with
  | [] => return 1
  | operand :: _ => return max 1 (← numberOrLeave name operand)

/-- Runs the text of a file in the shell. -/
def source (run : Runner) (operands : List Text) : Step Nat := do
  match operands with
  | [] => return 0
  | file :: _ =>
    let m ← get
    match m.files.find? (Path.ofText m.environment.directory file) with
    | some (.file contents) => withUtility "." (runText run contents)
    | some _ => return 0
    | none =>
      if file.contains '/' then
        abort [['.'], Text.ofString "cannot open " ++ file, Text.ofString "No such file"]
      else abort [['.'], file, Text.ofString "not found"]

/-- Puts a program in the place of the shell. -/
def exec (run : Runner) (operands : List Text) : Step Nat := do
  match operands with
  | [] => return 0
  | name :: rest =>
    modifyEnvironment fun e => { e with traps := e.traps.filter (·.2.isEmpty) }
    match ← Program.find "" name with
    | .program found =>
      throw (.exit (← Program.runNamed run (operands.length + 1) found name rest))
    | .notRunnable =>
      complain [Text.ofString "exec", name, Text.ofString "Permission denied"]
      throw (.exit 126)
    | .missing =>
      complain [Text.ofString "exec", name, Text.ofString "not found"]
      throw (.exit 127)

/-! ## Directories and masks -/

/-- Changes the working directory. -/
def cd (operands : List Text) : Step Nat := do
  let m ← get
  let e := m.environment
  let old := (e.value? (Text.ofString "OLDPWD")).getD e.directory.text
  let target :=
    match operands with
    | [] => (e.value? (Text.ofString "HOME")).getD []
    | ['-'] :: _ => old
    | operand :: _ => operand
  let path := if target.isEmpty then e.directory else Path.ofText e.directory target
  if !m.files.isDirectory path then
    refuse [Text.ofString "cd", Text.ofString "can't cd to " ++ target]
  else
    modifyEnvironment fun e =>
      { (e.assign (Text.ofString "OLDPWD") e.directory.text).assign (Text.ofString "PWD")
          path.text with
        directory := path }
    if operands.head? = some ['-'] then Program.writeLine 1 path.text
    return 0

/-- A mask as four octal digits. -/
def maskText (mask : Nat) : Text :=
  let digits := digitsOf 8 mask
  List.replicate (4 - digits.length) '0' ++ digits

/-- A mask as the permissions it leaves to each class. -/
def maskPermissions (mask : Nat) : Text :=
  let permissions (who : Char) (bits : Nat) : Text :=
    [who, '='] ++ (if bits / 4 % 2 = 0 then ['r'] else []) ++
      (if bits / 2 % 2 = 0 then ['w'] else []) ++ (if bits % 2 = 0 then ['x'] else [])
  Text.joined [','] [permissions 'u' (mask / 64 % 8), permissions 'g' (mask / 8 % 8),
    permissions 'o' (mask % 8)]

/-- The bits that permissions such as `u=rwx` leave of a mask: the classes, a sign and the
permissions. -/
def maskAfter? (mask : Nat) (clause : Text) : Option Nat :=
  let classes := clause.takeWhile fun c => c ∈ ['u', 'g', 'o', 'a']
  match clause.drop classes.length with
  | [] => none
  | sign :: permissions =>
    if sign ∉ ['=', '+', '-'] || permissions.any (· ∉ ['r', 'w', 'x']) then none
    else
      let all := classes.isEmpty || classes.contains 'a'
      let bits (has : Char → Bool) : Nat :=
        (if has 'r' then 4 else 0) + (if has 'w' then 2 else 0) + (if has 'x' then 1 else 0)
      let part (who : Char) (place : Nat) : Nat :=
        let before := mask / place % 8
        let named := bits permissions.contains
        if !(all || classes.contains who) then before * place
        else if sign = '=' then (7 - named) * place
        else if sign = '+' then (before &&& (7 - named)) * place
        else (before ||| named) * place
      some (part 'u' 64 + part 'g' 8 + part 'o' 1)

/-- Shows or sets the mask for new files. -/
def umask (options : List Char) (operands : List Text) : Step Nat := do
  let mask := (← environment).mask
  match operands with
  | [] =>
    Program.writeLine 1 (if options.contains 'S' then maskPermissions mask else maskText mask)
    return 0
  | operand :: _ =>
    let wanted :=
      if operand.head?.any Char.isDigit then
        if operand.all fun c => '0' ≤ c && c ≤ '7' then some (numberOf 8 operand % 512) else none
      else (Text.pieces ',' operand).foldlM maskAfter? mask
    match wanted with
    | some mask =>
      modifyEnvironment fun e => { e with mask }
      return 0
    | none =>
      let why := if operand.head?.any Char.isDigit then "Illegal number" else "Illegal mode"
      refuse [Text.ofString "umask", Text.ofString why, operand]

/-! ## Variables -/

/-- Gives a variable a value, unless it must not change. -/
def assign (name value : Text) : Step Unit := do
  let before := (← environment).bindings.get? (String.ofList name)
  if before.any (·.readOnly) then abortScript [name, Text.ofString "is read only"]
  modifyEnvironment (Environment.assign name value)

/-- Changes the variables that operands name, after giving values to those that have one. -/
def declare (name : String) (change : Variable → Variable) (operands : List Text) :
    Step Nat := do
  operands.forM fun operand => do
    let key := operand.takeWhile (· ≠ '=')
    if !isName key then abort [Text.ofString name, key, Text.ofString "bad variable name"]
    match operand.dropWhile (· ≠ '=') with
    | [] => pure ()
    | _ :: value => assign key value
    modifyEnvironment fun e =>
      let before := (e.bindings.get? (String.ofList key)).getD ⟨none, false, false⟩
      { e with bindings := e.bindings.put (String.ofList key) (change before) }
  return 0

/-- Keeps the variables that operands name to the running function. -/
def local' (operands : List Text) : Step Nat := do
  if (← environment).locals.isNone then
    abort [Text.ofString "local", Text.ofString "not in a function"]
  operands.forM fun operand => do
    let key := operand.takeWhile (· ≠ '=')
    modifyEnvironment fun e =>
      { e with
        locals := e.locals.map fun kept =>
          (String.ofList key, e.bindings.get? (String.ofList key)) :: kept }
    match operand.dropWhile (· ≠ '=') with
    | [] => pure ()
    | _ :: value => assign key value
  return 0

/-- Takes variables away, or functions with the option `f`. -/
def unset (options : List Char) (names : List Text) : Step Nat := do
  if options.contains 'f' then
    modifyEnvironment fun e =>
      { e with functions := names.foldl (fun fs name => fs.erase (String.ofList name)) e.functions }
    return 0
  else
    names.forM fun name => do
      let before := (← environment).bindings.get? (String.ofList name)
      if before.any (·.readOnly) then
        abort [Text.ofString "unset", name, Text.ofString "is read only"]
      modifyEnvironment fun e => { e with bindings := e.bindings.erase (String.ofList name) }
    return 0

/-- Sets options and positional parameters. -/
def set : List Text → Step Nat
  | [] => return 0
  | ['-', '-'] :: rest => do
    modifyEnvironment fun e => { e with parameters := rest }
    return 0
  | ['-', 'o'] :: name :: rest => do
    option true (String.ofList name)
    set rest
  | ['+', 'o'] :: name :: rest => do
    option false (String.ofList name)
    set rest
  | ('-' :: letters) :: rest => do
    letters.forM (letter true)
    set rest
  | ('+' :: letters) :: rest => do
    letters.forM (letter false)
    set rest
  | parameters => do
    modifyEnvironment fun e => { e with parameters }
    return 0
where
  letter (on : Bool) (c : Char) : Step Unit := do
    match Program.withOption c on (← environment) with
    | some e => modifyEnvironment fun _ => e
    | none =>
      abort [Text.ofString "set", Text.ofString "Illegal option " ++ [if on then '-' else '+', c]]
  option (on : Bool) : String → Step Unit
    | "errexit" => letter on 'e'
    | "nounset" => letter on 'u'
    | "xtrace" => letter on 'x'
    | name =>
      abort [Text.ofString "set", Text.ofString ("Illegal option " ++ (if on then "-" else "+") ++
        "o " ++ name)]

/-- Drops the first positional parameters. -/
def shift (operands : List Text) : Step Nat := do
  let count ←
    match operands with
    | [] => pure 1
    | operand :: _ => numberOrLeave "shift" operand
  let e ← environment
  if count > e.parameters.length then
    abort [Text.ofString "shift", Text.ofString "can't shift that many"]
  modifyEnvironment fun e => { e with parameters := e.parameters.drop count }
  return 0

/-- The values that names get from the fields of a line; the last one gets what is left. -/
def readValues (separators : Text) : List Text → Text → List (Text × Text)
  | [], _ => []
  | [name], line => [(name, trimmed line)]
  | name :: names, line =>
    let line := line.dropWhile separates
    let field := line.takeWhile (!separates ·)
    (name, field) :: readValues separators names ((line.drop field.length).drop 1)
where
  separates (c : Char) : Bool :=
    separators.contains c
  trimmed (line : Text) : Text :=
    ((line.dropWhile separates).reverse.dropWhile separates).reverse

/-- Reads a line into variables. -/
def read (options : List Char) (names : List Text) : Step Nat := do
  match if options.contains 'p' then names.drop 1 else names with
  | [] => refuse [Text.ofString "read", Text.ofString "arg count"]
  | names =>
    let bindings := (← environment).bindings
    match names.find? fun name => (bindings.get? (String.ofList name)).any (·.readOnly) with
    | some name => refuse [Text.ofString "read", name, Text.ofString "is read only"]
    | none =>
    let line ← takeLine 0
    let complete := line.getLast? = some '\n'
    let text := if complete then line.dropLast else line
    let text := if options.contains 'r' then text else text.filter (· ≠ '\\')
    (readValues (separators (← environment)) names text).forM fun (name, value) =>
      assign name value
    return if complete then 0 else 1

/-! ## Signals -/

/-- Shows or sets what is done on signals. -/
def trap (operands : List Text) : Step Nat := do
  match operands with
  | [] =>
    (← environment).traps.forM fun (name, action) =>
      Program.writeLine 1 (Text.ofString "trap -- '" ++ action ++ Text.ofString ("' " ++ name))
    return 0
  | [condition] => change none [condition]
  | action :: conditions =>
    if action = ['-'] then change none conditions
    else if (Text.nat? action).isSome then change none (action :: conditions)
    else change (some action) conditions
where
  change (action : Option Text) (conditions : List Text) : Step Nat := do
    match conditions.find? fun condition => (signalName? condition).isNone with
    | some wrong =>
      Program.writeLine 2 (Text.ofString "trap: " ++ wrong ++ Text.ofString ": bad trap")
      return 1
    | none =>
      let names := conditions.filterMap signalName?
      modifyEnvironment fun e =>
        { e with
          traps := names.foldl
            (fun traps name =>
              match action with
              | some action => traps.put name action
              | none => traps.erase name)
            e.traps }
      return 0

/-- Sends a signal to a process. A shell acts on it when its command has ended, unless it does
nothing about it and is ended at once. -/
def send (signal pid : Nat) : Step Nat := do
  let e ← environment
  if pid ≠ e.pid && pid ∉ e.ancestors && e.jobs.all (·.pid ≠ pid) then
    complain [Text.ofString "kill", Text.ofString "No such process\n"]
    return 1
  if isHarmless signal then return 0
  if pid = e.pid then
    match e.actionOn? signal with
    | none => throw (.killed signal)
    | some _ => modify fun m => { m with sent := m.sent ++ [(pid, signal)] }
  else if pid ∈ e.ancestors then modify fun m => { m with sent := m.sent ++ [(pid, signal)] }
  else
    let now := (← get).time
    modifyEnvironment fun e =>
      { e with
        jobs := e.jobs.map fun job =>
          if job.pid = pid && job.ends.all (now < ·) then
            { job with ends := some now, status := 128 + signal }
          else job }
  return 0

/-- How `kill` is called. -/
def killUsage : String :=
  "Usage: kill [-s sigspec | -signum | -sigspec] [pid | job]... or\nkill -l [exitstatus]"

/-- Sends signals to processes. -/
def kill (operands : List Text) : Step Nat := do
  match operands with
  | ['-', 's'] :: name :: pids => sendAll name pids
  | ['-', '-'] :: pids => sendAll ['1', '5'] pids
  | ['-', 'l'] :: number :: _ =>
    match signalName? number with
    | some name =>
      Program.writeLine 1 (Text.ofString name)
      return 0
    | none => refuse [Text.ofString "kill", Text.ofString "invalid signal number or exit status",
        number]
  | ('-' :: name) :: pids => sendAll name pids
  | pids => sendAll ['1', '5'] pids
where
  sendAll (name : Text) (pids : List Text) : Step Nat := do
    match signalNumber? name with
    | none =>
      refuse [Text.ofString "kill", Text.ofString "Illegal option -" ++ name.take 1]
    | some signal =>
      if pids.isEmpty then refuse [Text.ofString "kill", Text.ofString killUsage]
      else
        let results ← pids.mapM fun operand =>
          match Text.nat? operand with
          | some pid => send signal pid
          | none => refuse [Text.ofString "kill", Text.ofString "Illegal number", operand]
        return results.foldl max 0

/-- Waits for processes that were not waited for. -/
def wait (operands : List Text) : Step Nat := do
  let e ← environment
  let finish (job : Job) : Step Unit := do
    match job.ends with
    | some moment => waitUntil moment
    | none => endless
  match operands with
  | [] =>
    e.jobs.forM finish
    return 0
  | operand :: _ =>
    match Text.nat? operand with
    | none => refuse [Text.ofString "wait", Text.ofString "Illegal number", operand]
    | some pid =>
      match e.jobs.find? (·.pid = pid) with
      | some job =>
        finish job
        match signalText (job.status - 128) with
        | some message => Program.writeLine 2 (Text.ofString message)
        | none => pure ()
        return job.status
      | none => return 127

/-! ## Common utilities -/

/-- Tests a condition. -/
def test (name : Text) (operands : List Text) : Step Nat := do
  let m ← get
  let find? (operand : Text) : Option Node :=
    m.files.find? (Path.ofText m.environment.directory operand)
  let result :=
    if name = ['['] then
      if operands.getLast? = some [']'] then Condition.holds find? operands.dropLast
      else .error .missingBracket
    else Condition.holds find? operands
  match result with
  | .ok true => return 0
  | .ok false => return 1
  | .error fault => refuse [name, fault.message]

/-- Writes by a format. -/
def printf (operands : List Text) : Step Nat := do
  match operands with
  | [] => refuse [name, Text.ofString "usage: printf format [arg ...]"]
  | format :: operands =>
    let result := printed .builtin format operands
    discard <| write 1 result.written
    let statuses ← result.faults.mapM fun fault => do
      match fault with
      | .notNumeric operand =>
        complain [name, operand, Text.ofString "expected numeric value"]
        return 1
      | .notWhollyNumeric operand =>
        complain [name, operand, Text.ofString "not completely converted"]
        return 1
      | .badDirective directive => refuse [name, directive, Text.ofString "invalid directive"]
    return statuses.foldl max 0
where
  name : Text := Text.ofString "printf"

/-- The names of the built-in utilities. -/
def names : List String := [
  ".", ":", "[", "alias", "bg", "break", "cd", "command", "continue", "echo", "eval", "exec",
  "exit", "export", "false", "fg", "hash", "jobs", "kill", "local", "printf", "pwd", "read",
  "readonly", "return", "set", "shift", "test", "times", "trap", "true", "type", "ulimit", "umask",
  "unalias", "unset", "wait"]

/-- Says what a name leads to. -/
def describe (verbose : Bool) (name : Text) : Step Nat := do
  let e ← environment
  let word := String.ofList name
  if e.functions.any (·.1 = word) then
    Program.writeLine 1 (if verbose then name ++ Text.ofString " is a shell function" else name)
    return 0
  else if word ∈ names then
    let kind := if word ∈ Reader.specialNames then " is a special shell builtin"
      else " is a shell builtin"
    Program.writeLine 1 (if verbose then name ++ Text.ofString kind else name)
    return 0
  else
    match ← Program.find "" name with
    | .missing =>
      if verbose then Program.writeLine 1 (name ++ Text.ofString ": not found")
      return 127
    | _ =>
      let path := if name.contains '/' then name else Text.ofString "/usr/bin/" ++ name
      Program.writeLine 1
        (if verbose then name ++ Text.ofString " is " ++ path else path)
      return 0

/-- Runs the built-in utility of a name. -/
def runNamed (run : Runner) (name : String) (operands : List Text) : Step Nat :=
  match name with
  | ":" => return 0
  | "true" => return 0
  | "false" => return 1
  | "." => withOptionsOrLeave name [] operands fun _ operands => source run operands
  | "[" => test ['['] operands
  | "test" => test (Text.ofString "test") operands
  | "echo" => do
    discard <| write 1 (echo .builtin operands)
    return 0
  | "printf" => withOptions name [] operands fun _ operands => printf operands
  | "pwd" =>
    withOptions name ['L', 'P'] operands fun options _ => do
      let physical ← Program.workingDirectory
      let e ← environment
      Program.writeLine 1 (if options.getLast? = some 'P' then physical else e.directory.text)
      return 0
  | "break" => leaveLoop .endLoop
  | "continue" => leaveLoop .nextTurn
  | "cd" => withOptions name ['L', 'P'] operands fun _ operands => cd operands
  | "eval" => withUtility name (runText run (Text.joined [' '] operands))
  | "exec" => exec run operands
  | "exit" => do throw (.exit (← statusOperand name operands))
  | "return" => do throw (.back (← statusOperand name operands))
  | "export" =>
    withOptionsOrLeave name ['p'] operands fun _ operands =>
      withUtility name (declare name (fun before => { before with exported := true }) operands)
  | "readonly" =>
    withOptionsOrLeave name ['p'] operands fun _ operands =>
      withUtility name (declare name (fun before => { before with readOnly := true }) operands)
  | "local" => withUtility name (local' operands)
  | "unset" => withOptionsOrLeave name ['f', 'v'] operands unset
  | "set" => set operands
  | "shift" => shift operands
  | "read" => withOptions name ['p', 'r'] operands read
  | "trap" => withOptionsOrLeave name [] operands fun _ operands => trap operands
  | "kill" => kill operands
  | "wait" => withOptions name [] operands fun _ operands => wait operands
  | "umask" => withOptions name ['S'] operands umask
  | "ulimit" => do
    match operands with
    | [] =>
      Program.writeLine 1 (Text.ofString "unlimited")
      return 0
    | _ => return 0
  | "type" => do return (← operands.mapM (describe true)).foldl max 0
  | "fg" => refuse [Text.ofString name, Text.ofString "No current job"]
  | "bg" => refuse [Text.ofString name, Text.ofString "No current job"]
  | _ => return 0
where
  leaveLoop (leave : Nat → Leave) : Step Nat := do
    let levels ← levelsOperand name operands
    let loops := (← environment).loops
    if loops = 0 then return 0
    throw (leave (min levels loops))

end Builtin

end Invocation.Shell

import Invocation.Shell.Condition
import Invocation.Shell.Format
import Invocation.Shell.Lines
import Invocation.Shell.Program.Stored

/-!
# Programs

The programs that scripts start. A program gets the words after its name, and the name it was called
by.
-/

namespace Invocation.Shell

open Step

namespace Program

/-! ## Single programs -/

/-- Writes the contents of files. -/
def cat (operands : List Text) : Step Nat := do
  match operands with
  | [] => overInput "cat" .plain 1 [] id
  | operands =>
    let results ← operands.mapM fun operand => do
      match ← inputOf "cat" .plain none operand with
      | some text => write 1 text
      | none => return false
    return if results.all id then 0 else 1

/-- Writes the beginning or the end of files, under their names if there are several. -/
def portion (name : String) (part : Filter.Amount → Text → Text) (limited : Bool)
    (operands : List Text) : Step Nat := do
  match Filter.amount? name operands with
  | .error message => give (.failed name message)
  | .ok (amount, operands) =>
    let limit :=
      match limited, amount with
      | true, .bytes n => some n
      | _, _ => none
    let files := if operands.isEmpty then [['-']] else operands
    let results ← files.mapIdxM fun place file => do
      match ← inputOf name .quoted limit file with
      | some text =>
        let shown := if file = ['-'] then Text.ofString "standard input" else file
        let title := Text.ofString "==> " ++ shown ++ Text.ofString " <==\n"
        let gap := if place = 0 then [] else ['\n']
        write 1 ((if files.length = 1 then [] else gap ++ title) ++ part amount text)
      | none => return false
    return if results.all id then 0 else 1

/-- Counts what files hold. -/
def wc (operands : List Text) : Step Nat := do
  let (options, files) := Filter.splitOptions operands
  if files.isEmpty then overInput "wc" .plain 1 [] (Filter.countLine options)
  else
    let results ← files.mapM fun file => do
      match ← inputOf "wc" .plain none file with
      | some text =>
        let counts := (Filter.counts options text).map Text.ofNat
        writeLine 1 (Text.joined [' '] (counts ++ [file]))
        return true
      | none => return false
    return if results.all id then 0 else 1

/-- Sorts the lines of files. -/
def sort (operands : List Text) : Step Nat := do
  let (options, files) := Filter.splitOptions operands
  overInput "sort" ⟨("cannot read: ", ": No such file or directory"),
    ("read failed: ", ": Is a directory")⟩ 2 files (Filter.sorted options)

/-- Writes the lines of a file, those that follow an equal one left out. -/
def uniq (operands : List Text) : Step Nat := do
  let (options, files) := Filter.splitOptions operands
  overInput "uniq" .plain 1 (files.take 1) (Filter.withoutRepeats options)

/-- Writes parts of the lines of files. -/
def cut (operands : List Text) : Step Nat := do
  let (options, files) := Filter.cutOptions operands
  match Filter.Cut.ofOptions? options with
  | .error result => give result
  | .ok wanted => overInput "cut" .plain 1 files wanted.ofText

/-- Who the user is. -/
def user (operands : List Text) : Step Nat := do
  let (options, _) := Filter.splitOptions operands
  let line :=
    if options.isEmpty then "uid=0(root) gid=0(root) groups=0(root)"
    else if options.contains 'n' then "root"
    else "0"
  writeLine 1 (Text.ofString line)
  return 0

/-- What the system is. -/
def uname (operands : List Text) : Step Nat := do
  let (options, _) := Filter.splitOptions operands
  writeLine 1 (Text.ofString (if options.contains 'o' then "GNU/Linux" else "Linux"))
  return 0

/-- The milliseconds of a duration with a unit, if it is one. -/
def duration? (operand : Text) : Option Nat :=
  let (digits, factor) :=
    match operand.getLast? with
    | some 's' => (operand.dropLast, 1000)
    | some 'm' => (operand.dropLast, 60000)
    | some 'h' => (operand.dropLast, 3600000)
    | some 'd' => (operand.dropLast, 86400000)
    | _ => (operand, 1000)
  let whole := digits.takeWhile (· ≠ '.')
  let fraction := (digits.dropWhile (· ≠ '.')).drop 1
  if whole.isEmpty && fraction.isEmpty then none
  else
    let unit := Nat.pow 10 fraction.length
    (Text.nat? ('0' :: (whole ++ fraction))).map fun n => (n * factor + unit - 1) / unit

/-- Waits for the sum of some durations. -/
def sleep (operands : List Text) : Step Nat := do
  match operands with
  | [] => give (.misused "sleep" (Filter.message "missing operand"))
  | operands =>
    if operands.contains (Text.ofString "infinity") then endless
    match operands.find? fun operand => (duration? operand).isNone with
    | some wrong => give (.misused "sleep" (Filter.messageOf "invalid time interval" wrong))
    | none =>
      pass ((operands.filterMap duration?).foldl (· + ·) 0)
      return 0

/-- The variables that programs are given. -/
def exported (e : Environment) : Entries Variable :=
  e.bindings.filter fun (_, content) => content.exported && content.value.isSome

/-- Writes the values of variables, or all of them with their names. -/
def printenv (names : List Text) : Step Nat := do
  let e ← environment
  match names with
  | [] =>
    (exported e).forM fun (name, content) =>
      writeLine 1 (name.toList ++ '=' :: content.value.getD [])
    return 0
  | names =>
    let results ← names.mapM fun name => do
      match (exported e).get? (String.ofList name) with
      | some content =>
        writeLine 1 (content.value.getD [])
        return true
      | none => return false
    return if results.all id then 0 else 1

/-- Writes its operands over and over, as much as a reader takes. -/
def yes (operands : List Text) : Step Nat := do
  let line := (if operands.isEmpty then ['y'] else Text.joined [' '] operands) ++ ['\n']
  match ← channelOf? 1 with
  | some (_, ⟨.reader, _, _, _⟩) =>
    discard <| write 1 (List.replicate 4096 line).flatten
    throw (.killed 13)
  | _ => endless

/-- Names files that there are. -/
def ls (operands : List Text) : Step Nat := do
  let m ← get
  let results ← (operands.filter fun operand => operand.head? ≠ some '-').mapM fun operand => do
    if (m.files.find? (Path.ofText m.environment.directory operand)).isSome then
      writeLine 1 operand
      return true
    complain ['l', 's'] "cannot access '" operand "': No such file or directory"
    return false
  return if results.all id then 0 else 2

/-- Writes by a format. -/
def printf (operands : List Text) : Step Nat := do
  match operands with
  | [] => give (.misused "printf" (Filter.message "missing operand"))
  | format :: operands =>
    let result := printed .program format operands
    discard <| write 1 result.written
    result.faults.forM fun fault =>
      match fault with
      | .notNumeric operand =>
        complain called "" (Text.quoted operand) ": expected a numeric value"
      | .notWhollyNumeric operand =>
        complain called "" (Text.quoted operand) ": value not completely converted"
      | .badDirective directive =>
        complain called "" directive ": invalid conversion specification"
    match result.operands, result.stopped with
    | operand :: _, false =>
      complain called "warning: ignoring excess arguments, starting with "
        (Text.quoted operand) ""
    | _, _ => pure ()
    return if result.faults.isEmpty then 0 else 1
where
  called : Text := Text.ofString "printf"

/-- Tests a condition. -/
def test (name : Text) (operands : List Text) : Step Nat := do
  let m ← get
  let find? (operand : Text) : Option Node :=
    m.files.find? (Path.ofText m.environment.directory operand)
  match Condition.holds find? operands with
  | .ok true => return 0
  | .ok false => return 1
  | .error fault =>
    writeLine 2 (name ++ [':', ' '] ++ fault.message)
    return 2

/-- The directory in which the program runs, with links followed. -/
def workingDirectory : Step Text := do
  let m ← get
  return (m.files.followed m.environment.directory).text

/-! ## Programs that run others -/

/-- The letters of options at the start of a shell's operands, whether the text of a script
follows, and what comes after them. -/
def shellOptions : List Text → List (Bool × Char) × List Text
  | ['-', '-'] :: rest => ([], rest)
  | ('-' :: c :: letters) :: rest =>
    let (more, rest) := shellOptions rest
    ((c :: letters).map (true, ·) ++ more, rest)
  | ('+' :: c :: letters) :: rest =>
    let (more, rest) := shellOptions rest
    ((c :: letters).map (false, ·) ++ more, rest)
  | rest => ([], rest)

/-- The environment with an option of the shell set or not; nothing if there is no such option. -/
def withOption (letter : Char) (on : Bool) (e : Environment) : Option Environment :=
  match letter with
  | 'e' => some { e with failsFast := on }
  | 'u' => some { e with strict := on }
  | 'x' => some { e with traced := on }
  | _ => if letter ∈ "abCfhimnsvE".toList then some e else none

/-- The environment of a shell that begins. -/
def freshShell (name : Text) (parameters : List Text) (e : Environment) : Environment :=
  { e with
    name, parameters, shellPid := e.pid, bindings := exported e, functions := [], locals := none
    status := 0, outputStatus := 0, line := 1, failsFast := false, guarded := false
    loops := 0, utility := none, strict := false, traced := false }

/-- Runs a shell. -/
def shell (run : Runner) (name : Text) (operands : List Text) : Step Nat := do
  let (letters, rest) := shellOptions operands
  let begin (name : Text) (parameters : List Text) (text : Text) : Step Nat := do
    modifyEnvironment fun e =>
      letters.foldl (fun e (on, letter) => (withOption letter on e).getD e)
        (freshShell name parameters e)
    withExitTrap run (runText run text)
  let refuse (message operand : Text) : Step Nat := do
    writeLine 2 (name ++ Text.ofString ": 0: " ++ message ++ operand)
    return 2
  let e ← environment
  match letters.find? fun (_, letter) => letter ≠ 'c' && (withOption letter true e).isNone with
  | some (on, letter) =>
    refuse (Text.ofString "Illegal option ") [if on then '-' else '+', letter]
  | none =>
    if letters.contains (true, 'c') then
      match rest with
      | [] => refuse (Text.ofString "-c requires an argument") []
      | [text] => begin name [] text
      | text :: name :: parameters => begin name parameters text
    else
      match rest with
      | [] => begin name [] (← takeInput 0 none)
      | file :: parameters =>
        let m ← get
        match m.files.find? (Path.ofText m.environment.directory file) with
        | some (.file contents) => begin file parameters contents
        | some _ => begin file parameters []
        | none => refuse (Text.ofString "cannot open ") (file ++ Text.ofString ": No such file")

/-- The environment with assignments of the form `name=value` at the start of some words carried
out, and the words after them. -/
def takeAssignments (e : Environment) : List Text → Environment × List Text
  | [] => (e, [])
  | word :: rest =>
    if word.contains '=' then
      let name := String.ofList (word.takeWhile (· ≠ '='))
      let value := (word.dropWhile (· ≠ '=')).drop 1
      takeAssignments { e with bindings := e.bindings.put name ⟨some value, true, false⟩ } rest
    else (e, word :: rest)

/-- The environment with the options of `env` carried out, and the words after them. -/
def takeOptions (e : Environment) : List Text → Environment × List Text
  | ['-', 'i'] :: rest => takeOptions { e with bindings := [] } rest
  | ['-'] :: rest => takeOptions { e with bindings := [] } rest
  | ['-', 'u'] :: name :: rest =>
    takeOptions { e with bindings := e.bindings.erase (String.ofList name) } rest
  | ['-', '-'] :: rest => (e, rest)
  | rest => (e, rest)

/-- Runs the program that some words name, or message why it does not: to `refuse` it gives the name
and the reason. -/
def runFound (exec : Text → Text → List Text → Step Nat) (refuse : Text → String → Step Unit) :
    List Text → Step Nat
  | [] => return 0
  | called :: operands => do
    match ← find "/bin:/usr/bin" called with
    | .program name => exec name called operands
    | .notRunnable =>
      refuse called ": Permission denied"
      return 126
    | .missing =>
      refuse called ": No such file or directory"
      return 127

/-- Runs the program of a name. Programs that run others name them by further words, whose number
`fuel` bounds. -/
def runNamed (run : Runner) (fuel : Nat) (name called : Text) (operands : List Text) : Step Nat :=
  match fuel with
  | 0 => return 126
  | fuel + 1 =>
    match String.ofList name with
    | "true" => return 0
    | "false" => return 1
    | "echo" => do
      discard <| write 1 (echo .program operands)
      return 0
    | "printf" => printf operands
    | "test" => test ['t', 'e', 's', 't'] operands
    | "[" =>
      if operands.getLast? = some [']'] then test ['['] operands.dropLast
      else do
        writeLine 2 (Text.ofString "[: missing ‘]’")
        return 2
    | "pwd" => do
      writeLine 1 (← workingDirectory)
      return 0
    | "cat" => cat operands
    | "head" => portion "head" Filter.beginning true operands
    | "tail" => portion "tail" Filter.ending false operands
    | "wc" => wc operands
    | "sort" => sort operands
    | "uniq" => uniq operands
    | "cut" => cut operands
    | "id" => user operands
    | "uname" => uname operands
    | "touch" => touch operands
    | "mkdir" => mkdir operands
    | "rmdir" => rmdir operands
    | "rm" => rm operands
    | "tee" => tee operands
    | "tr" => do give (Filter.tr operands (← takeInput 0 none))
    | "seq" => give (Filter.seq operands)
    | "basename" => give (Filter.basename operands)
    | "dirname" => give (Filter.dirname operands)
    | "sleep" => sleep operands
    | "printenv" => printenv operands
    | "yes" => yes operands
    | "ls" => ls operands
    | "whoami" => do
      writeLine 1 (Text.ofString "root")
      return 0
    | "nohup" =>
      match operands with
      | [] => do
        discard <| give (.misused "nohup" (Filter.message "missing operand"))
        return 125
      | operands =>
        runFound (fun name called operands => runNamed run fuel name called operands)
          (fun operand why =>
            complain called "failed to run command '" operand ("'" ++ why)) operands
    | "env" => do
      let (e, rest) := takeOptions (← environment) operands
      let (e, rest) := takeAssignments e rest
      modifyEnvironment fun _ => e
      match rest with
      | [] => printenv []
      | rest =>
        runFound (fun name called operands => runNamed run fuel name called operands)
          (fun operand why => complain called "" (Text.quoted operand) why) rest
    | _ => shell run called operands

end Program

end Invocation.Shell

import Invocation.Shell.Control
import Invocation.Shell.Filter

/-!
# What programs have in common

A program is found by its name in the directories of `PATH`, or by a path. It writes to the outputs
and reads its input or the files that its operands name.
-/

namespace Invocation.Shell

open Step

namespace Program

/-! ## Finding programs -/

/-- What a command's name leads to. -/
inductive Found where
  | program (name : Text)
  | notRunnable
  | missing

/-- What a path leads to as a command. -/
def ofPath (files : Files) (path : Path) : Found :=
  match files.find? path with
  | some .program => .program ((files.followed path).getLastD [])
  | some _ => .notRunnable
  | none => .missing

/-- What a name leads to as a command, where `places` are searched if there is no `PATH`. -/
def find (places : String) (name : Text) : Step Found := do
  let m ← get
  if name.contains '/' then return ofPath m.files (Path.ofText m.environment.directory name)
  if name.isEmpty then return .missing
  let places := (m.environment.value? ['P', 'A', 'T', 'H']).getD (Text.ofString places)
  let candidates := (Text.pieces ':' places).map fun place =>
    ofPath m.files (Path.ofText m.environment.directory (place ++ '/' :: name))
  let isProgram : Found → Bool
    | .program _ => true
    | _ => false
  return (candidates.find? isProgram).getD .missing

/-! ## Output and input -/

/-- Writes a line to an output. -/
def writeLine (descriptor : Nat) (line : Text) : Step Unit :=
  discard <| write descriptor (line ++ ['\n'])

/-- Writes what a program has to write. -/
def give (result : Result) : Step Nat := do
  discard <| write 1 result.output
  discard <| write 2 result.errors
  return result.status

/-- Complains in the name of a program. -/
def complain (name : Text) (message : String) (operand : Text) (after : String) : Step Unit :=
  writeLine 2 (name ++ Text.ofString (": " ++ message) ++ operand ++ Text.ofString after)

/-- A descriptor that no script names. -/
def operandDescriptor : Nat := 10

/-- The wording of complaints about files that cannot be read, around their names. -/
structure Refusal where
  missing : String × String
  directory : String × String

/-- The wording of most programs. -/
def Refusal.plain : Refusal :=
  ⟨("", ": No such file or directory"), ("", ": Is a directory")⟩

/-- The wording of programs that quote the names. -/
def Refusal.quoted : Refusal :=
  ⟨("cannot open '", "' for reading: No such file or directory"),
    ("error reading '", "': Is a directory")⟩

/-- What an operand that names a file holds, the input for a dash; nothing, after a complaint, if
it cannot be read. -/
def inputOf (name : String) (refusal : Refusal) (limit : Option Nat) (operand : Text) :
    Step (Option Text) := do
  if operand = ['-'] then return some (← takeInput 0 limit)
  let m ← get
  let refuse (wording : String × String) : Step (Option Text) := do
    complain (Text.ofString name) wording.1 operand wording.2
    return none
  match m.files.find? (Path.ofText m.environment.directory operand) with
  | none => refuse refusal.missing
  | some .directory => refuse refusal.directory
  | some node =>
    setDescriptor operandDescriptor (← openChannel (readingChannel node))
    return some (← takeInput operandDescriptor limit)

/-- Runs a program over what its operands hold together, its input if there are none; it fails with
a status if one of them cannot be read. -/
def overInput (name : String) (refusal : Refusal) (failure : Nat) (operands : List Text)
    (f : Text → Text) : Step Nat := do
  let texts ← (if operands.isEmpty then [['-']] else operands).mapM (inputOf name refusal none)
  discard <| write 1 (f (texts.filterMap id).flatten)
  return if texts.all (·.isSome) then 0 else failure

end Program

end Invocation.Shell

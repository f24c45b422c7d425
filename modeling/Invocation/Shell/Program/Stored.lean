import Invocation.Shell.Program.Basic

/-!
# Programs that change files

Files are made, emptied and removed one operand after the other; an operand that is refused does not
keep a program from the others.
-/

namespace Invocation.Shell

open Step

namespace Program

/-- Runs a program on each of its operands, with status 1 if one of them is refused. -/
def overFiles (name missing : String) (operands : List Text)
    (change : Path → Option Node → Text → Step Bool) : Step Nat := do
  if operands.isEmpty then give (.misused name (Filter.message missing))
  else
    let results ← operands.mapM fun operand => do
      let m ← get
      let path := Path.ofText m.environment.directory operand
      change path (m.files.find? path) operand
    return if results.all id then 0 else 1

/-- Complains that an operand is refused. -/
def refuseFile (name before : String) (operand : Text) (after : String) : Step Bool := do
  complain (Text.ofString name) before operand after
  return false

/-- Puts a node under a path, if its directory exists. -/
def store (path : Path) (node : Node) : Step Bool := do
  let m ← get
  if m.files.isDirectory path.dropLast then
    set { m with files := m.files.put path node }
    return true
  return false

/-- Makes empty files where there are none. -/
def touch (operands : List Text) : Step Nat := do
  let (options, files) := Filter.splitOptions operands
  overFiles "touch" "missing file operand" files fun path node operand => do
    if node.isSome || options.contains 'c' then return true
    if ← store path (.file []) then return true
    refuseFile "touch" "cannot touch '" operand "': No such file or directory"

/-- Makes directories. -/
def mkdir (operands : List Text) : Step Nat := do
  let (options, directories) := Filter.splitOptions operands
  overFiles "mkdir" "missing operand" directories fun path node operand => do
    let refuse (why : String) : Step Bool :=
      refuseFile "mkdir" "cannot create directory ‘" operand ("’: " ++ why)
    if options.contains 'p' then
      let parents := (List.range (path.length + 1)).map path.take
      let files := (← get).files
      if parents.any fun parent => (files.find? parent).any (· ≠ .directory) then
        refuse (if node.isSome then "File exists" else "Not a directory")
      else
        (parents.filter fun parent => (files.find? parent).isNone).forM fun parent =>
          modify fun m => { m with files := m.files.put parent .directory }
        return true
    else if node.isSome then refuse "File exists"
    else if ← store path .directory then return true
    else refuse "No such file or directory"

/-- A directory has nothing in it. -/
def isEmptyDirectory (files : Files) (path : Path) : Bool :=
  let path := files.followed path
  files.all fun (other, _) => !(path.isPrefixOf other && path.length < other.length)

/-- Removes directories that have nothing in them. -/
def rmdir (operands : List Text) : Step Nat := do
  let (_, directories) := Filter.splitOptions operands
  overFiles "rmdir" "missing operand" directories fun path node operand => do
    let refuse (why : String) : Step Bool :=
      refuseFile "rmdir" "failed to remove '" operand ("': " ++ why)
    match node with
    | none => refuse "No such file or directory"
    | some .directory =>
      if isEmptyDirectory (← get).files path then
        modify fun m => { m with files := m.files.erase path }
        return true
      else refuse "Directory not empty"
    | some _ => refuse "Not a directory"

/-- Removes files, and directories with what is in them if that is asked for. -/
def rm (operands : List Text) : Step Nat := do
  let (options, files) := Filter.splitOptions operands
  let forced := options.contains 'f'
  if forced && files.isEmpty then return 0
  overFiles "rm" "missing operand" files fun path node operand => do
    let refuse (why : String) : Step Bool :=
      refuseFile "rm" "cannot remove '" operand ("': " ++ why)
    match node with
    | none => if forced then return true else refuse "No such file or directory"
    | some .directory =>
      if options.contains 'r' || options.contains 'R' then
        modify fun m =>
          let path := m.files.followed path
          { m with files := m.files.filter fun (other, _) => !path.isPrefixOf other }
        return true
      else refuse "Is a directory"
    | some _ =>
      modify fun m => { m with files := m.files.erase path }
      return true

/-- Writes its input to its output and to files. -/
def tee (operands : List Text) : Step Nat := do
  let (options, files) := Filter.splitOptions operands
  let text ← takeInput 0 none
  discard <| write 1 text
  let results ← files.mapM fun operand => do
    let m ← get
    let path := Path.ofText m.environment.directory operand
    let before :=
      match m.files.find? path with
      | some (.file contents) => if options.contains 'a' then contents else []
      | _ => []
    match m.files.find? path with
    | some .directory => refuseFile "tee" "" operand ": Is a directory"
    | some .null => return true
    | some .zero => return true
    | _ =>
      if ← store path (.file (before ++ text)) then return true
      refuseFile "tee" "" operand ": No such file or directory"
  return if results.all id then 0 else 1

end Program

end Invocation.Shell

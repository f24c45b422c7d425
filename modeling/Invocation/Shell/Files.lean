import Invocation.Number.Decimal
import Invocation.Utf8.Encode

/-!
# Texts and files of the shell

Texts are bytes, each written as the character of the same number. Files stand under absolute paths.
-/

namespace Invocation.Shell

/-- A text as the shell has it: a character below 256 for every byte. -/
abbrev Text := List Char

namespace Text

/-- The bytes of a text. -/
def bytes (text : Text) : List UInt8 :=
  text.map fun c => UInt8.ofNat c.toNat

/-- The text of some bytes. -/
def ofBytes (bytes : List UInt8) : Text :=
  bytes.map fun b => Char.ofNat b.toNat

/-- A string as the shell has it. -/
def ofString (s : String) : Text :=
  ofBytes (Utf8.encode s.toList)

/-- A number in decimal notation. -/
def ofNat (n : Nat) : Text :=
  Number.natChars n

/-- An integer in decimal notation. -/
def ofInt (n : Int) : Text :=
  Number.intChars n

/-- The number that digits denote, if there is nothing but digits. -/
def nat? (text : Text) : Option Nat :=
  if text.isEmpty || !text.all Char.isDigit then none
  else some (Number.natOfDigits (text.map fun c => c.toNat - '0'.toNat))

/-- The integer that a text denotes; blanks around it do not count. -/
def int? (text : Text) : Option Int :=
  let trimmed := ((text.dropWhile isSpace).reverse.dropWhile isSpace).reverse
  let value :=
    match trimmed with
    | '-' :: digits => (nat? digits).map fun n => -(n : Int)
    | '+' :: digits => (nat? digits).map fun n => (n : Int)
    | digits => (nat? digits).map fun n => (n : Int)
  value.filter fun n => -(Number.wordLimit : Int) ≤ n && n < Number.wordLimit
where
  isSpace (c : Char) : Bool :=
    c = ' ' || (9 ≤ c.toNat && c.toNat ≤ 13)

/-- The pieces of a text between separators. -/
def pieces (separator : Char) : Text → List Text
  | [] => [[]]
  | c :: rest =>
    if c = separator then [] :: pieces separator rest
    else
      match pieces separator rest with
      | [] => [[c]]
      | piece :: more => (c :: piece) :: more

/-- The lines of a text, each with the line feed at its end if it has one. -/
def lines : Text → List Text
  | [] => []
  | c :: rest =>
    if c = '\n' then [c] :: lines rest
    else
      match lines rest with
      | [] => [[c]]
      | line :: more => (c :: line) :: more

/-- Texts set off by a separator. -/
def joined (separator : Text) : List Text → Text
  | [] => []
  | [text] => text
  | text :: rest => text ++ separator ++ joined separator rest

/-- A text in quotation marks. -/
def quoted (text : Text) : Text :=
  ofString "‘" ++ text ++ ofString "’"

end Text

/-! ## Paths -/

/-- The names on the way from the root. -/
abbrev Path := List Text

namespace Path

/-- The path that a text names from a directory, with `..` taken back by name. -/
def ofText (directory : Path) (text : Text) : Path :=
  let start := if text.head? = some '/' then [] else directory
  (Text.pieces '/' text).foldl
    (fun path name =>
      if name = [] ∨ name = ['.'] then path
      else if name = ['.', '.'] then path.dropLast
      else path ++ [name])
    start

/-- A path as a text. -/
def text : Path → Text
  | [] => ['/']
  | path => path.flatMap ('/' :: ·)

end Path

/-! ## Files -/

/-- What stands under a path. -/
inductive Node where
  | directory
  | file (contents : Text)
  /-- A file that can be run. -/
  | program
  | link (target : Path)
  /-- A device that takes everything and is empty. -/
  | null
  /-- A device whose contents are zeros without end. -/
  | zero
  deriving DecidableEq, Repr

/-- The files there are. -/
abbrev Files := List (Path × Node)

namespace Files

/-- What stands under a path itself. -/
def at? (files : Files) (path : Path) : Option Node :=
  if path = [] then some .directory else files.lookup path

/-- The path with links followed, the last name included. -/
def followed (files : Files) (path : Path) : Path :=
  path.foldl
    (fun path name =>
      match files.at? (path ++ [name]) with
      | some (.link target) => target
      | _ => path ++ [name])
    []

/-- What a path leads to. -/
def find? (files : Files) (path : Path) : Option Node :=
  files.at? (files.followed path)

/-- A path leads to a directory. -/
def isDirectory (files : Files) (path : Path) : Bool :=
  files.find? path = some .directory

/-- The files with a node put under a path. -/
def put (files : Files) (path : Path) (node : Node) : Files :=
  (files.followed path, node) :: files.filter (·.1 ≠ files.followed path)

/-- The files without what a path leads to. -/
def erase (files : Files) (path : Path) : Files :=
  files.filter (·.1 ≠ files.followed path)

/-- The directories of a path and a node under it. -/
def withParents (path : Path) (node : Node) : Files :=
  (path, node) :: (List.range path.length).tail.map fun n => (path.take n, Node.directory)

/-- The path that a string names from the root. -/
def rooted (s : String) : Path :=
  Path.ofText [] (Text.ofString s)

/-- The directories of every system. -/
def directories : List String := [
  "/usr", "/usr/bin", "/usr/sbin", "/usr/lib", "/usr/lib64", "/usr/local", "/usr/local/bin",
  "/usr/share", "/etc", "/dev", "/home", "/root", "/tmp", "/var", "/var/log", "/var/tmp", "/opt",
  "/proc", "/sys", "/run", "/srv", "/mnt", "/media", "/boot"]

/-- The links of every system. -/
def links : List (String × String) := [
  ("/bin", "/usr/bin"), ("/sbin", "/usr/sbin"), ("/lib", "/usr/lib"), ("/lib64", "/usr/lib64")]

/-- The names of the programs in `/usr/bin`. -/
def programs : List String := [
  "[", "basename", "cat", "cut", "dash", "dirname", "echo", "env", "false", "head", "id", "ls",
  "mkdir", "nohup", "printenv", "printf", "pwd", "rm", "rmdir", "seq", "sh", "sleep", "sort",
  "tail", "tee", "test", "touch", "tr", "true", "uname", "uniq", "wc", "whoami", "yes"]

/-- The files of every system. -/
def system : Files :=
  [(rooted "/dev/null", .null), (rooted "/dev/zero", .zero),
    (rooted "/etc/passwd", .file (Text.ofString "root:x:0:0:root:/root:/bin/bash\n")),
    (rooted "/etc/hostname", .file (Text.ofString "localhost\n")),
    (rooted "/etc/hosts", .file (Text.ofString "127.0.0.1\tlocalhost\n"))] ++
  (directories.map fun path => (rooted path, .directory)) ++
  (links.map fun (path, target) => (rooted path, .link (rooted target))) ++
  (programs.map fun name => (rooted ("/usr/bin/" ++ name), .program))

end Files

end Invocation.Shell

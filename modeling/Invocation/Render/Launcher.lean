import Invocation.Entries
import Invocation.Text.Split

/-!
# Launching an executable

An executable is started through a launcher, or through what the command map has for it. The
shell's own words cannot be started that way and stay as they are.
-/

namespace Invocation.Render

open Invocation.Text

/-- The program that executables are started through. -/
def launcher : String := "/usr/bin/env"

/-- The reserved words and builtins of the shell, in the order of their characters' codes. -/
def builtins : List String := [
  "!", ".", "[", "[[", "alias", "case", "cd", "do", "done", "elif", "else", "esac", "eval", "exec",
  "exit", "export", "fi", "for", "function", "if", "read", "return", "select", "set", "shift",
  "source", "test", "then", "time", "trap", "ulimit", "umask", "unset", "until", "wait", "while",
  "\x7b"]

/-- The first word of a command is one of the shell's own. -/
def isBuiltin (base : String) : Bool :=
  firstWord base ∈ builtins

/-- A command with what the map has for its executable, the text before the first space. -/
def mapped? (map : Entries String) (base : String) : Option String :=
  let (head, rest) := cut ' ' base
  (map.get? head).map fun replacement => trimEnd (replacement ++ " " ++ rest.getD "")

/-- A command and its arguments as they are started. -/
def launched (map : Entries String) (base : String) (args : List String) : String :=
  if isBuiltin base then join " " (base :: args)
  else
    match mapped? map base with
    | some start => join " " (start :: args)
    | none => join " " (launcher :: base :: args)

end Invocation.Render

import Invocation.Number.Shortest
import Invocation.Text.Quoted
import Invocation.Value.Basic

/-!
# Writing JSON

A value is written over several lines, two columns deeper at each level; empty lists and maps stay
on one line. Two ways of writing texts differ in what is escaped: `plain` escapes what the grammar
demands, `ascii` also everything outside printable ASCII.
-/

namespace Invocation.Json

open Invocation.Number Invocation.Text

/-- Which characters of a text are escaped. -/
inductive Escaping where
  | plain
  | ascii
  deriving DecidableEq, Repr

/-- The escape of a 16-bit code. -/
def codeEscape (n : Nat) : List Char :=
  '\\' :: 'u' :: hexChars 4 n

/-- The escape of a character outside printable ASCII, as a surrogate pair if need be. -/
def wideEscape (n : Nat) : List Char :=
  if n < 0x10000 then codeEscape n
  else codeEscape (0xd800 + (n - 0x10000) / 0x400) ++ codeEscape (0xdc00 + (n - 0x10000) % 0x400)

/-- One character of a text. -/
def escapedChar (escaping : Escaping) (c : Char) : List Char :=
  if c = '"' then ['\\', '"']
  else if c = '\\' then ['\\', '\\']
  else if c = '\n' then ['\\', 'n']
  else if c = '\r' then ['\\', 'r']
  else if c = '\t' then ['\\', 't']
  else if c = '\x08' then ['\\', 'b']
  else if c = '\x0c' then ['\\', 'f']
  else if c.toNat < 32 then codeEscape c.toNat
  else
    match escaping with
    | .plain => [c]
    | .ascii => if c.toNat < 127 then [c] else wideEscape c.toNat

/-- A text between its quotes. -/
def textChars (escaping : Escaping) (s : String) : List Char :=
  '"' :: s.toList.flatMap (escapedChar escaping) ++ ['"']

/-- A new line at a depth. -/
def newLine (depth : Nat) : List Char :=
  '\n' :: List.replicate (2 * depth) ' '

mutual

/-- A value at a depth. -/
def valueChars (escaping : Escaping) (depth : Nat) : Value → List Char
  | .null => ['n', 'u', 'l', 'l']
  | .bool true => ['t', 'r', 'u', 'e']
  | .bool false => ['f', 'a', 'l', 's', 'e']
  | .int n => intChars n
  | .float .nan => ['N', 'a', 'N']
  | .float (.infinite negative) => (if negative then ['-'] else []) ++ "Infinity".toList
  | .float x => x.showChars
  | .text s => textChars escaping s
  | .list [] => ['[', ']']
  | .list (item :: rest) =>
    '[' :: newLine (depth + 1) ++ valueChars escaping (depth + 1) item ++
      itemsChars escaping (depth + 1) rest ++ newLine depth ++ [']']
  | .tuple [] => ['[', ']']
  | .tuple (item :: rest) =>
    '[' :: newLine (depth + 1) ++ valueChars escaping (depth + 1) item ++
      itemsChars escaping (depth + 1) rest ++ newLine depth ++ [']']
  | .map [] => ['{', '}']
  | .map ((key, value) :: rest) =>
    '{' :: newLine (depth + 1) ++ textChars escaping key ++ [':', ' '] ++
      valueChars escaping (depth + 1) value ++ membersChars escaping (depth + 1) rest ++
      newLine depth ++ ['}']

/-- The items after the first one. -/
def itemsChars (escaping : Escaping) (depth : Nat) : List Value → List Char
  | [] => []
  | item :: rest =>
    ',' :: newLine depth ++ valueChars escaping depth item ++ itemsChars escaping depth rest

/-- The members after the first one. -/
def membersChars (escaping : Escaping) (depth : Nat) : List (String × Value) → List Char
  | [] => []
  | (key, value) :: rest =>
    ',' :: newLine depth ++ textChars escaping key ++ [':', ' '] ++
      valueChars escaping depth value ++ membersChars escaping depth rest

end

/-- The JSON text of a value. -/
def write (escaping : Escaping) (value : Value) : String :=
  String.ofList (valueChars escaping 0 value)

end Invocation.Json

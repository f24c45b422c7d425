import Invocation.Number.Literal
import Invocation.Text.Case
import Invocation.Text.Split
import Invocation.Value.Shown

/-!
# Verbosity

A level of importance for log records, given as a number or by name. Names are read without regard
to case and to blanks around them, and a text of digits is a number.
-/

namespace Invocation.Verbosity

open Invocation.Number Invocation.Text

/-- A level; higher is more important. -/
abbrev Level := Nat

/-- Why a value is not a level. -/
inductive Fault where
  | boolean (b : Bool)
  | negative (n : Int)
  | unknown (name : String)
  | integer (fault : IntegerFault)
  | kind (name : String)
  deriving DecidableEq, Repr

/-- The wording of a fault. -/
def Fault.message : Fault → String
  | .boolean b => "verbosity must be a level or a name, got " ++ (Value.bool b).shown
  | .negative n => "verbosity level must be non-negative, got " ++ showInt n
  | .unknown name =>
    "unknown verbosity '" ++ name ++
      "' (expected one of: debug, info, warning, error, critical)"
  | .integer why => why.message
  | .kind name => "verbosity must be a level or a name, got " ++ name

/-- The level of debugging details. -/
def debug : Level := 10

/-- The level of ordinary progress, the default. -/
def info : Level := 20

/-- The level of warnings. -/
def warning : Level := 30

/-- The level of errors. -/
def error : Level := 40

/-- The names of levels. -/
def names : Entries Level := [
  ("DEBUG", debug), ("INFO", info), ("WARNING", warning), ("ERROR", error), ("CRITICAL", 50),
  ("WARN", warning), ("FATAL", 50)]

/-- The level that a number is. -/
def ofInt (n : Int) : Except Fault Level :=
  if n < 0 then .error (.negative n) else .ok n.toNat

/-- The level that a text denotes. -/
def ofText (s : String) : Except Fault Level :=
  let name := upper (trim s)
  if !name.isEmpty && name.toList.all isDigit then
    match readInteger name with
    | .ok n => ofInt n
    | .error why => .error (.integer why)
  else
    match names.get? name with
    | some level => .ok level
    | none => .error (.unknown s)

/-- The level that a value denotes. -/
def resolve : Value → Except Fault Level
  | .bool b => .error (.boolean b)
  | .int n => ofInt n
  | .text s => ofText s
  | value => .error (.kind value.kind)

end Invocation.Verbosity

import Invocation.Number.Literal

/-!
# Faults in JSON texts

What is wrong with a text that is not JSON, and where.
-/

namespace Invocation.Json

open Invocation.Number

/-- What is wrong at some place of a text. -/
inductive Cause where
  | byteOrderMark
  | expectingValue
  | expectingName
  | expectingColon
  | expectingComma
  | extraData
  | unterminatedText
  | controlCharacter
  | unknownEscape
  | unicodeEscape
  deriving DecidableEq, Repr

/-- The wording of a cause. -/
def Cause.message : Cause → String
  | .byteOrderMark => "Unexpected UTF-8 BOM (decode using utf-8-sig)"
  | .expectingValue => "Expecting value"
  | .expectingName => "Expecting property name enclosed in double quotes"
  | .expectingColon => "Expecting ':' delimiter"
  | .expectingComma => "Expecting ',' delimiter"
  | .extraData => "Extra data"
  | .unterminatedText => "Unterminated string starting at"
  | .controlCharacter => "Invalid control character at"
  | .unknownEscape => "Invalid \\escape"
  | .unicodeEscape => "Invalid \\uXXXX escape"

/-- Where a text stops being JSON: lines and columns count from one, the offset from zero. -/
structure Fault where
  cause : Cause
  line : Nat
  column : Nat
  offset : Nat
  deriving DecidableEq, Repr

/-- The wording of a fault. -/
def Fault.message (fault : Fault) : String :=
  fault.cause.message ++ ": line " ++ showNat fault.line ++ " column " ++ showNat fault.column ++
    " (char " ++ showNat fault.offset ++ ")"

/-- The fault `offset` characters into a text. -/
def Fault.locate (cause : Cause) (text : List Char) (offset : Nat) : Fault :=
  let before := text.take offset
  { cause
    line := before.count '\n' + 1
    column := (before.reverse.takeWhile (· != '\n')).length + 1
    offset }

/-- Why a text is not read: it is not JSON, or one of its integers is too long. -/
inductive Refusal where
  | malformed (fault : Fault)
  | integer (fault : IntegerFault)
  deriving DecidableEq, Repr

/-- The wording of a refusal. -/
def Refusal.message : Refusal → String
  | .malformed fault => fault.message
  | .integer fault => fault.message

end Invocation.Json

import Invocation.Number.Binary64
import Invocation.Text.Blank
import Invocation.Text.Digit
import Invocation.Text.Quoted

/-!
# Numbers in text

How a number is read from a text that people write: blanks around it, a sign, digits of any
script and single underscores between digits. An integer may have 4300 digits, leading zeros
counted. Only integers that have no more digits are written in a text that is put together for a
message or a record.
-/

namespace Invocation.Number

open Invocation.Text

/-- The most digits an integer may have in a text. -/
def maxDigits : Nat := 4300

/-- The number has at most that many digits. -/
def fitsDigits : Nat → Nat → Bool
  | 0, n => n == 0
  | count + 1, n => if n < 10 then true else fitsDigits count (n / 10)

/-- The integer has few enough digits to be written. -/
def isWritable (n : Int) : Bool :=
  fitsDigits maxDigits n.natAbs

/-- Why a text is not read as an integer, or an integer not written. -/
inductive IntegerFault where
  | malformed (text : String)
  | tooManyDigits (count : Nat)
  /-- The integer has too many digits to be written. -/
  | unwritable
  deriving DecidableEq, Repr

/-- The wording of a fault. -/
def IntegerFault.message : IntegerFault → String
  | .malformed text =>
    "invalid literal for int() with base 10: " ++ String.ofList ((quotedChars text.toList).take 200)
  | .tooManyDigits count =>
    "Exceeds the limit (4300 digits) for integer string conversion: value has " ++ showNat count ++
      " digits; use sys.set_int_max_str_digits() to increase the limit"
  | .unwritable =>
    "Exceeds the limit (4300 digits) for integer string conversion; " ++
      "use sys.set_int_max_str_digits() to increase the limit"

/-- The blanks that may surround a number: the ASCII controls that separate fields are not among
them. -/
def isNumberBlank (c : Char) : Bool :=
  isBlank c && !(28 ≤ c.toNat && c.toNat ≤ 31)

/-- The sign in front, if any, and what follows it. -/
def signAndRest : List Char → Bool × List Char
  | '-' :: rest => (true, rest)
  | '+' :: rest => (false, rest)
  | cs => (false, cs)

/-- The digits in a run of digits and underscores. Underscores stand alone between two digits. -/
def groupedDigits? : List Char → Option (List Nat)
  | [] => none
  | [c] => (decimalValue? c).map fun d => [d]
  | c :: '_' :: rest => do return (← decimalValue? c) :: (← groupedDigits? rest)
  | c :: rest => do return (← decimalValue? c) :: (← groupedDigits? rest)

/-- The characters of an unsigned integer. -/
def isDigitOrUnderscore (c : Char) : Bool :=
  (decimalValue? c).isSome || c == '_'

/-- The integer that a list of characters denotes. -/
def readIntegerChars (cs : List Char) : Except IntegerFault Int := do
  let malformed := IntegerFault.malformed (String.ofList cs)
  let (negative, body) := signAndRest (cs.dropWhile isNumberBlank)
  let some digits := groupedDigits? (body.takeWhile isDigitOrUnderscore) | throw malformed
  if maxDigits < digits.length then throw (.tooManyDigits digits.length)
  unless (body.dropWhile isDigitOrUnderscore).all isNumberBlank do throw malformed
  let n := natOfDigits digits
  return if negative then -(n : Int) else n

/-- The integer that a text denotes. -/
def readInteger (s : String) : Except IntegerFault Int :=
  readIntegerChars s.toList

/-! ## Fractions -/

/-- The lower-case form of an ASCII letter. -/
def lowerAscii (c : Char) : Char :=
  if 'A' ≤ c ∧ c ≤ 'Z' then Char.ofNat (c.toNat + 32) else c

/-- The characters with every digit in ASCII and without the underscores between two digits. -/
def plainDigits? : Option Char → List Char → Option (List Char)
  | _, [] => some []
  | before, '_' :: c :: rest => do
    guard (before.any Char.isDigit)
    let d ← decimalValue? c
    return digitChar d :: (← plainDigits? (some (digitChar d)) rest)
  | _, c :: rest => do
    guard (c != '_')
    let c := ((decimalValue? c).map digitChar).getD c
    return c :: (← plainDigits? (some c) rest)

/-- The values of the leading ASCII digits, and what follows them. -/
def leadingDigits (cs : List Char) : List Nat × List Char :=
  ((cs.takeWhile Char.isDigit).map (·.toNat - 48), cs.dropWhile Char.isDigit)

/-- The power of ten after the mantissa; none when the characters are not one. -/
def exponent? : List Char → Option Int
  | [] => some 0
  | c :: rest => do
    guard (lowerAscii c == 'e')
    let (negative, body) := signAndRest rest
    let (digits, rest) := leadingDigits body
    guard (!digits.isEmpty && rest.isEmpty)
    let n := natOfDigits digits
    return if negative then -(n : Int) else n

/-- The number that unsigned characters denote. -/
def unsignedFraction? (negative : Bool) (cs : List Char) : Option Binary64 :=
  match String.ofList (cs.map lowerAscii) with
  | "inf" => some (.infinite negative)
  | "infinity" => some (.infinite negative)
  | "nan" => some .nan
  | _ => do
    let (whole, rest) := leadingDigits cs
    let (places, rest) :=
      match rest with
      | '.' :: rest => leadingDigits rest
      | rest => ([], rest)
    guard (!(whole ++ places).isEmpty)
    let power ← exponent? rest
    return .ofDecimal negative (natOfDigits (whole ++ places)) (power - places.length)

/-- The binary number that a list of characters denotes. -/
def readFractionChars? (cs : List Char) : Option Binary64 := do
  let trimmed := ((cs.dropWhile isNumberBlank).reverse.dropWhile isNumberBlank).reverse
  let (negative, body) := signAndRest (← plainDigits? none trimmed)
  unsignedFraction? negative body

/-- The binary number that a text denotes. -/
def readFraction? (s : String) : Option Binary64 :=
  readFractionChars? s.toList

end Invocation.Number

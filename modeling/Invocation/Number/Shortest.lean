import Invocation.Number.Binary64

/-!
# Shortest notation of binary numbers

A binary number is written with the fewest decimal digits that are read back as the same number,
and among those with the digits nearest to it. Numbers from `10 ^ -4` up to `10 ^ 16` are written
positionally with at least one digit after the point, the others with an exponent of at least two
digits.
-/

namespace Invocation.Number.Binary64

/-- Compares decimals with quarters of the mantissa's last place: `d * 10 ^ place` stands to
`x * 2 ^ (exponent - 2)` as `d * scales.1` to `x * scales.2`. -/
def scales (exponent place : Int) : Nat × Nat :=
  (Nat.pow 10 place.toNat * Nat.pow 2 (2 - exponent).toNat,
    Nat.pow 2 (exponent - 2).toNat * Nat.pow 10 (-place).toNat)

/-- The power of ten just above `mantissa * 2 ^ exponent`. -/
def decimalPoint (mantissa : Nat) (exponent : Int) : Int :=
  let guess := (((mantissa.log2 : Int) + exponent) * 30103).fdiv 100000 + 1
  let above (point : Int) : Bool :=
    let (a, b) := scales exponent point
    4 * mantissa * b < a
  if above (guess - 1) then guess - 1
  else if above guess then guess
  else guess + 1

/-- The nearest decimal with its last digit at `place` that is read as `mantissa * 2 ^ exponent`,
if there is one. -/
def decimalAt? (mantissa : Nat) (exponent place : Int) : Option Nat :=
  let (a, b) := scales exponent place
  let value := 4 * mantissa * b
  let gap := if mantissa = Nat.pow 2 52 ∧ minExponent < exponent then 1 else 2
  let low := (4 * mantissa - gap) * b
  let high := (4 * mantissa + 2) * b
  let reads (d : Nat) : Bool :=
    if mantissa % 2 = 0 then low ≤ d * a && d * a ≤ high else low < d * a && d * a < high
  let below := value / a
  match reads below, reads (below + 1) with
  | false, false => none
  | true, false => some below
  | false, true => some (below + 1)
  | true, true => some (roundedQuotient value a)

/-- The fewest digits of a positive number, and the position of the decimal point after the first
of them. -/
def shortestDigits (mantissa : Nat) (exponent : Int) : List Nat × Int :=
  let point := decimalPoint mantissa exponent
  let attempt (count : Nat) : Option (List Nat × Int) :=
    let place := point - ((count + 1 : Nat) : Int)
    (decimalAt? mantissa exponent place).map fun d =>
      let digits := natDigits d
      ((digits.reverse.dropWhile (· == 0)).reverse, place + digits.length)
  ((List.range 17).findSome? attempt).getD ([0], 1)

/-- The digits with the decimal point after the first `point` of them. -/
def positional (digits : List Nat) (point : Int) : List Char :=
  let cs := digits.map digitChar
  if point ≤ 0 then '0' :: '.' :: List.replicate (-point).toNat '0' ++ cs
  else if digits.length ≤ point.toNat then
    cs ++ List.replicate (point.toNat - digits.length) '0' ++ ['.', '0']
  else cs.take point.toNat ++ '.' :: cs.drop point.toNat

/-- The digits with the point after the first of them, and the power of ten. -/
def scientific (digits : List Nat) (point : Int) : List Char :=
  let power := point - 1
  let size := natChars power.natAbs
  let mantissa :=
    match digits.map digitChar with
    | [] => []
    | [c] => [c]
    | c :: rest => c :: '.' :: rest
  mantissa ++ 'e' :: (if power < 0 then '-' else '+') ::
    ((if size.length < 2 then '0' :: size else size))

/-- The shortest notation of a number, as characters. -/
def showChars : Binary64 → List Char
  | .nan => ['n', 'a', 'n']
  | .infinite negative => (if negative then ['-'] else []) ++ ['i', 'n', 'f']
  | .finite negative mantissa exponent =>
    let sign := if negative then ['-'] else []
    if mantissa = 0 then sign ++ ['0', '.', '0']
    else
      let (digits, point) := shortestDigits mantissa exponent
      sign ++ if -4 < point ∧ point ≤ 16 then positional digits point else scientific digits point

/-- The shortest notation of a number. -/
def toText (x : Binary64) : String :=
  String.ofList x.showChars

end Invocation.Number.Binary64

/-!
# Decimal notation of integers

Digits are written without leading zeros and a negative number has its sign in front. Reading the
digits of a number back gives the number (`natOfDigits_natDigits`).
-/

namespace Invocation.Number

/-- The numbers below it, and their negatives, fit into a word of 64 bits. -/
def wordLimit : Nat := Nat.pow 2 63

/-- The decimal digits of a number, most significant first. -/
def natDigits (n : Nat) : List Nat :=
  if n < 10 then [n] else natDigits (n / 10) ++ [n % 10]

/-- The number with the given decimal digits, most significant first. -/
def natOfDigits (ds : List Nat) : Nat :=
  ds.foldl (fun n d => 10 * n + d) 0

theorem natOfDigits_append_singleton (ds : List Nat) (d : Nat) :
    natOfDigits (ds ++ [d]) = 10 * natOfDigits ds + d := by
  simp [natOfDigits, List.foldl_append]

theorem natOfDigits_natDigits (n : Nat) : natOfDigits (natDigits n) = n := by
  induction n using natDigits.induct with
  | case1 n h => rw [natDigits, if_pos h]; simp [natOfDigits]
  | case2 n h ih =>
    rw [natDigits, if_neg h, natOfDigits_append_singleton, ih]
    omega

/-- The character of a decimal digit. -/
def digitChar (d : Nat) : Char :=
  Char.ofNat (48 + d)

/-- The characters of a number in decimal notation. -/
def natChars (n : Nat) : List Char :=
  (natDigits n).map digitChar

/-- The characters of an integer in decimal notation. -/
def intChars : Int → List Char
  | .ofNat n => natChars n
  | .negSucc n => '-' :: natChars (n + 1)

/-- A number in decimal notation. -/
def showNat (n : Nat) : String :=
  String.ofList (natChars n)

/-- An integer in decimal notation. Where only an integer that is short enough is written, it is asked
for that first. -/
def showInt (n : Int) : String :=
  String.ofList (intChars n)

end Invocation.Number

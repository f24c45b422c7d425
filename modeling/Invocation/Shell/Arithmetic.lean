import Invocation.Shell.Files
import Invocation.Shell.Syntax

/-!
# Arithmetic

Expressions over 64-bit integers, with the operators of C in their order of precedence. A variable
that is not set is zero.
-/

namespace Invocation.Shell.Arithmetic

/-- An expression. -/
inductive Expression where
  | number (n : Int)
  | variable (name : Text)
  | unary (sign : Char) (body : Expression)
  | binary (sign : String) (left right : Expression)
  | choice (test yes no : Expression)
  /-- A value given to a variable, joined with the old one by the operator if there is one. -/
  | assignment (name : Text) (sign : String) (body : Expression)

/-- Why an expression has no value. -/
inductive Fault where
  | expectingPrimary
  | expectingEnd
  | expectingColon
  | divisionByZero
  | illegalNumber (text : Text)

/-- A number as 64 bits hold it. -/
def wrapped (n : Int) : Int :=
  Int.bmod n (2 * Number.wordLimit)

/-! ## Reading -/

/-- The value of a digit, in bases up to sixteen. -/
def digitValue (c : Char) : Nat :=
  if c.isDigit then c.toNat - '0'.toNat
  else if c.isLower then c.toNat - 'a'.toNat + 10
  else c.toNat - 'A'.toNat + 10

/-- The number of a literal: decimal, octal after a zero, hexadecimal after `0x`. -/
def literal? (text : Text) : Option Int :=
  let inBase (base : Nat) (digits : Text) : Option Int :=
    if digits.all fun c => c.isAlphanum && digitValue c < base then
      some (digits.foldl (fun n c => n * base + digitValue c) 0 : Nat)
    else none
  match text with
  | '0' :: 'x' :: digits => inBase 16 digits
  | '0' :: 'X' :: digits => inBase 16 digits
  | '0' :: digits => inBase 8 digits
  | digits => inBase 10 digits

/-- A text without the blanks at its start. -/
def skip (text : Text) : Text :=
  text.dropWhile fun c => c = ' ' || c = '\t' || c = '\n'

/-- The operators between two operands, with their strength. -/
def operators : List (String × Nat) := [
  ("||", 1), ("&&", 2), ("==", 6), ("!=", 6), ("<<", 8), (">>", 8), ("<=", 7), (">=", 7), ("<", 7),
  (">", 7), ("|", 3), ("^", 4), ("&", 5), ("+", 9), ("-", 9), ("*", 10), ("/", 10), ("%", 10)]

/-- The operators that may stand in front of the sign of an assignment. -/
def assigningSigns : List String :=
  ["<<", ">>", "+", "-", "*", "/", "%", "&", "|", "^", ""]

/-- The text after a sign at its start. -/
def after? (sign : String) (text : Text) : Option Text :=
  if sign.toList.isPrefixOf text then some (text.drop sign.length) else none

/-- The operator at the start of a text, its strength, and the text after it. -/
def operator? (text : Text) : Option (String × Nat × Text) :=
  operators.findSome? fun (sign, strength) =>
    (after? sign text).map fun rest => (sign, strength, rest)

/-- The sign of an assignment at the start of a text, and the text after it. -/
def assigning? (text : Text) : Option (String × Text) :=
  assigningSigns.findSome? fun sign =>
    match after? (sign ++ "=") text with
    | some rest => if rest.head? = some '=' then none else some (sign, rest)
    | none => none

mutual

/-- The expression at the start of a text, and the text after it. -/
def readExpression (fuel : Nat) (text : Text) : Except Fault (Expression × Text) :=
  match fuel with
  | 0 => .error .expectingPrimary
  | fuel + 1 => do
    let text := skip text
    let name := text.takeWhile isNameChar
    match isName name, assigning? (skip (text.dropWhile isNameChar)) with
    | true, some (sign, rest) =>
      let (body, rest) ← readExpression fuel rest
      return (.assignment name sign body, rest)
    | _, _ =>
      let (test, rest) ← readBinary fuel 1 text
      match skip rest with
      | '?' :: rest =>
        let (yes, rest) ← readExpression fuel rest
        match skip rest with
        | ':' :: rest =>
          let (no, rest) ← readExpression fuel rest
          return (.choice test yes no, rest)
        | _ => throw .expectingColon
      | rest => return (test, rest)

/-- Operands joined by operators of at least a strength. -/
def readBinary (fuel : Nat) (strength : Nat) (text : Text) : Except Fault (Expression × Text) :=
  match fuel with
  | 0 => .error .expectingPrimary
  | fuel + 1 => do
    let (left, rest) ← readOperand fuel (skip text)
    readMore fuel strength left (skip rest)

/-- The operators and operands after a first operand. -/
def readMore (fuel : Nat) (strength : Nat) (left : Expression) (text : Text) :
    Except Fault (Expression × Text) :=
  match fuel with
  | 0 => .ok (left, text)
  | fuel + 1 =>
    match operator? text with
    | none => .ok (left, text)
    | some (sign, found, rest) =>
      if found < strength then .ok (left, text)
      else do
        let (right, rest) ← readBinary fuel (found + 1) rest
        readMore fuel strength (.binary sign left right) (skip rest)

/-- An operand. -/
def readOperand (fuel : Nat) (text : Text) : Except Fault (Expression × Text) :=
  match fuel with
  | 0 => .error .expectingPrimary
  | fuel + 1 =>
    match text with
    | [] => .error .expectingPrimary
    | '(' :: rest => do
      let (body, rest) ← readExpression fuel rest
      match skip rest with
      | ')' :: rest => return (body, rest)
      | _ => throw .expectingPrimary
    | c :: rest =>
      if c ∈ ['+', '-', '!', '~'] then do
        let (body, rest) ← readOperand fuel (skip rest)
        return (.unary c body, rest)
      else
        let word := (c :: rest).takeWhile isNameChar
        let rest := (c :: rest).dropWhile isNameChar
        if isName word then .ok (.variable word, rest)
        else if word = [] then .error .expectingPrimary
        else
          match literal? word with
          | some n => .ok (.number n, rest)
          | none => .error .expectingEnd

end

/-- The expression that a text is. -/
def read (text : Text) : Except Fault Expression := do
  let (expression, rest) ← readExpression (8 * text.length + 8) text
  if (skip rest).isEmpty then return expression
  throw .expectingEnd

/-! ## Values -/

/-- The values that were given to variables, the latest first. -/
abbrev Assigned := List (Text × Int)

/-- A truth value as a number. -/
def ofBool (b : Bool) : Int :=
  if b then 1 else 0

/-- The value of an operator that needs both operands. -/
def combine (sign : String) (left right : Int) : Except Fault Int :=
  match sign with
  | "+" => .ok (wrapped (left + right))
  | "-" => .ok (wrapped (left - right))
  | "*" => .ok (wrapped (left * right))
  | "/" => if right = 0 then .error .divisionByZero else .ok (wrapped (Int.tdiv left right))
  | "%" => if right = 0 then .error .divisionByZero else .ok (Int.tmod left right)
  | "<<" => .ok (wrapped (left * (Nat.pow 2 (right % 64).toNat : Nat)))
  | ">>" => .ok (Int.fdiv left (Nat.pow 2 (right % 64).toNat : Nat))
  | "<" => .ok (ofBool (left < right))
  | ">" => .ok (ofBool (left > right))
  | "<=" => .ok (ofBool (left ≤ right))
  | ">=" => .ok (ofBool (left ≥ right))
  | "==" => .ok (ofBool (left = right))
  | "!=" => .ok (ofBool (left ≠ right))
  | "&" => .ok (bits (· &&& ·))
  | "|" => .ok (bits (· ||| ·))
  | "^" => .ok (bits (· ^^^ ·))
  | _ => .ok right
where
  bits (f : Nat → Nat → Nat) : Int :=
    let word (n : Int) : Nat := (n % (2 * Number.wordLimit : Nat)).toNat
    wrapped (f (word left) (word right))

/-- The value of a variable. -/
def valueOf (lookup : Text → Option Text) (assigned : Assigned) (name : Text) :
    Except Fault Int :=
  match assigned.lookup name with
  | some n => .ok n
  | none =>
    match lookup name with
    | none => .ok 0
    | some [] => .ok 0
    | some text =>
      match text with
      | '-' :: digits => (ofLiteral text digits).map (- ·)
      | digits => ofLiteral text digits
where
  ofLiteral (text digits : Text) : Except Fault Int :=
    match digits, literal? digits with
    | [], _ => .error (.illegalNumber text)
    | _, some n => .ok n
    | _, none => .error (.illegalNumber text)

/-- The value of an expression, and the values that variables have after it. -/
def evaluate (lookup : Text → Option Text) (assigned : Assigned) :
    Expression → Except Fault (Int × Assigned)
  | .number n => .ok (wrapped n, assigned)
  | .variable name => (valueOf lookup assigned name).map (·, assigned)
  | .unary sign body => do
    let (n, assigned) ← evaluate lookup assigned body
    match sign with
    | '-' => return (wrapped (-n), assigned)
    | '!' => return (ofBool (n = 0), assigned)
    | '~' => return (-n - 1, assigned)
    | _ => return (n, assigned)
  | .binary sign left right => do
    let (first, assigned) ← evaluate lookup assigned left
    if sign = "&&" ∧ first = 0 then return (0, assigned)
    if sign = "||" ∧ first ≠ 0 then return (1, assigned)
    let (second, assigned) ← evaluate lookup assigned right
    if sign = "&&" ∨ sign = "||" then return (ofBool (second ≠ 0), assigned)
    return (← combine sign first second, assigned)
  | .choice test yes no => do
    let (n, assigned) ← evaluate lookup assigned test
    if n ≠ 0 then evaluate lookup assigned yes else evaluate lookup assigned no
  | .assignment name sign body => do
    let (n, assigned) ← evaluate lookup assigned body
    let value ← if sign = "" then pure n else combine sign (← valueOf lookup assigned name) n
    return (value, (name, value) :: assigned)

/-- The wording of a fault in an expression. -/
def Fault.message (text : Text) : Fault → Text
  | .illegalNumber number => Text.ofString "Illegal number: " ++ number
  | .expectingPrimary => inExpression "expecting primary"
  | .expectingEnd => inExpression "expecting EOF"
  | .expectingColon => inExpression "expecting ':'"
  | .divisionByZero => inExpression "division by zero"
where
  inExpression (what : String) : Text :=
    Text.ofString ("arithmetic expression: " ++ what ++ ": \"") ++ text ++ ['"']

end Invocation.Shell.Arithmetic

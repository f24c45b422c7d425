import Invocation.Shell.Files

/-!
# Conditions

What `test` holds of texts, integers and files.
-/

namespace Invocation.Shell.Condition

/-- What is wrong with a condition. -/
inductive Fault where
  | unexpectedOperator (operand : Text)
  | argumentExpected (operator : Text)
  | closingExpected
  | illegalNumber (operand : Text)
  | missingBracket

/-- The wording of a fault. -/
def Fault.message : Fault → Text
  | .unexpectedOperator [] => Text.ofString "unexpected operator"
  | .unexpectedOperator operand => operand ++ Text.ofString ": unexpected operator"
  | .argumentExpected operator => operator ++ Text.ofString ": argument expected"
  | .closingExpected => Text.ofString "closing paren expected"
  | .illegalNumber operand => Text.ofString "Illegal number: " ++ operand
  | .missingBracket => Text.ofString "missing ]"

/-- The tests of one operand. -/
def unarySigns : List String := [
  "-b", "-c", "-d", "-e", "-f", "-g", "-G", "-h", "-k", "-L", "-n", "-O", "-p", "-r", "-s", "-S",
  "-t", "-u", "-w", "-x", "-z"]

/-- The tests of two operands. -/
def binarySigns : List String := [
  "=", "!=", "<", ">", "-eq", "-ne", "-ge", "-gt", "-le", "-lt", "-nt", "-ot", "-ef"]

/-- An operator of one operand. -/
def isUnary (word : Text) : Bool :=
  String.ofList word ∈ unarySigns

/-- An operator between two operands. -/
def isBinary (word : Text) : Bool :=
  String.ofList word ∈ binarySigns

/-- The result of a test of one operand. -/
def unary (find? : Text → Option Node) (sign operand : Text) : Bool :=
  match String.ofList sign with
  | "-z" => operand.isEmpty
  | "-n" => !operand.isEmpty
  | "-e" => (find? operand).isSome
  | "-r" => (find? operand).isSome
  | "-w" => (find? operand).isSome
  | "-O" => (find? operand).isSome
  | "-G" => (find? operand).isSome
  | "-d" => find? operand = some .directory
  | "-x" => find? operand = some .directory ∨ find? operand = some .program
  | "-c" => find? operand = some .null ∨ find? operand = some .zero
  | "-f" =>
    match find? operand with
    | some (.file _) => true
    | some .program => true
    | _ => false
  | "-s" =>
    match find? operand with
    | some (.file contents) => !contents.isEmpty
    | some .program => true
    | some .directory => true
    | _ => false
  | _ => false

/-- The integer that an operand denotes. -/
def integer (operand : Text) : Except Fault Int :=
  match Text.int? operand with
  | some n => .ok n
  | none => .error (.illegalNumber operand)

/-- The result of a test of two operands. -/
def binary (sign left right : Text) : Except Fault Bool := do
  match String.ofList sign with
  | "=" => return left = right
  | "!=" => return left ≠ right
  | "<" => return String.ofList left < String.ofList right
  | ">" => return String.ofList right < String.ofList left
  | "-eq" => return (← integer left) = (← integer right)
  | "-ne" => return (← integer left) ≠ (← integer right)
  | "-lt" => return (← integer left) < (← integer right)
  | "-le" => return (← integer left) ≤ (← integer right)
  | "-gt" => return (← integer left) > (← integer right)
  | "-ge" => return (← integer left) ≥ (← integer right)
  | _ => return false

/-- A result, the last word it was read from, and the words after that. -/
abbrev Read := Bool × Text × List Text

/-- A word is an operator of one operand in front of these words, and no operand itself. -/
def standsBefore : List Text → Bool
  | [] => false
  | [_] => true
  | next :: _ :: _ => !isBinary next

mutual

/-- Conditions joined by `-o`. -/
def either (fuel : Nat) (find? : Text → Option Node) (words : List Text) : Except Fault Read :=
  match fuel with
  | 0 => .ok (false, [], [])
  | fuel + 1 => do
    let (first, last, rest) ← both fuel find? words
    match rest with
    | ['-', 'o'] :: rest =>
      let (second, last, rest) ← either fuel find? rest
      return (first || second, last, rest)
    | rest => return (first, last, rest)

/-- Conditions joined by `-a`. -/
def both (fuel : Nat) (find? : Text → Option Node) (words : List Text) : Except Fault Read :=
  match fuel with
  | 0 => .ok (false, [], [])
  | fuel + 1 => do
    let (first, last, rest) ← negated fuel find? words
    match rest with
    | ['-', 'a'] :: rest =>
      let (second, last, rest) ← both fuel find? rest
      return (first && second, last, rest)
    | rest => return (first, last, rest)

/-- A condition with any signs of negation in front. -/
def negated (fuel : Nat) (find? : Text → Option Node) (words : List Text) : Except Fault Read :=
  match fuel with
  | 0 => .ok (false, [], [])
  | fuel + 1 =>
    match words with
    | ['!'] :: rest => do
      let (holds, last, rest) ← negated fuel find? rest
      return (!holds, last, rest)
    | words => primary fuel find? words

/-- A condition in parentheses, a test, or a word, which holds unless it is empty. -/
def primary (fuel : Nat) (find? : Text → Option Node) (words : List Text) : Except Fault Read :=
  match fuel with
  | 0 => .ok (false, [], [])
  | fuel + 1 =>
    match words with
    | [] => .ok (false, [], [])
    | word :: rest =>
      if word = ['('] ∧ rest ≠ [] then
        if rest.head? = some [')'] then .ok (false, [')'], rest.tail)
        else do
          let (holds, _, rest) ← either fuel find? rest
          match rest with
          | [')'] :: rest => return (holds, [')'], rest)
          | _ => throw .closingExpected
      else if isUnary word && standsBefore rest then
        match rest with
        | operand :: rest => .ok (unary find? word operand, operand, rest)
        | [] => .error (.argumentExpected word)
      else
        match rest with
        | sign :: rest =>
          if isBinary sign then
            match rest with
            | right :: rest => do return (← binary sign word right, right, rest)
            | [] => .error (.argumentExpected sign)
          else .ok (!word.isEmpty, word, sign :: rest)
        | [] => .ok (!word.isEmpty, word, [])

end

/-- Whether a condition holds. -/
def holds (find? : Text → Option Node) (words : List Text) : Except Fault Bool :=
  match words with
  | [] => .ok false
  | [left, sign, right] =>
    if isBinary sign then binary sign left right
    else if left = ['('] ∧ right = [')'] then .ok (!sign.isEmpty)
    else whole words
  | words => whole words
where
  whole (words : List Text) : Except Fault Bool := do
    let (holds, last, rest) ← either (4 * words.length + 4) find? words
    if rest.isEmpty then return holds
    throw (.unexpectedOperator last)

end Invocation.Shell.Condition

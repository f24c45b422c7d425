import Invocation.Shell.Filter

/-!
# Programs over lines

Lines in order, lines that repeat, and parts of lines.
-/

namespace Invocation.Shell.Filter

/-- The lines of a text without their line feeds. -/
def bareLines (text : Text) : List Text :=
  (Text.lines text).map fun line => if line.getLast? = some '\n' then line.dropLast else line

/-- Lines with a line feed at the end of each. -/
def ofLines (lines : List Text) : Text :=
  lines.flatMap (· ++ ['\n'])

/-! ## Order -/

/-- The integer at the start of a line, zero if there is none. -/
def leadingInteger (line : Text) : Int :=
  match line.dropWhile fun c => c = ' ' || c = '\t' with
  | '-' :: rest => -((Text.nat? (rest.takeWhile Char.isDigit)).getD 0 : Int)
  | rest => ((Text.nat? (rest.takeWhile Char.isDigit)).getD 0 : Int)

/-- One line does not come after another, where `n` asks for the order of integers. -/
def inOrder (options : List Char) (a b : Text) : Bool :=
  let bytes := String.ofList a ≤ String.ofList b
  if options.contains 'n' then
    leadingInteger a < leadingInteger b || (leadingInteger a = leadingInteger b && bytes)
  else bytes

/-- Two lines are the same to the order. -/
def sameKey (options : List Char) (a b : Text) : Bool :=
  if options.contains 'n' then leadingInteger a = leadingInteger b else a = b

/-- The lines of a text in order, the other way round with `r`, each only once with `u`. -/
def sorted (options : List Char) (text : Text) : Text :=
  let before (a b : Text) : Bool :=
    if options.contains 'r' then inOrder options b a else inOrder options a b
  let lines := (bareLines text).mergeSort before
  let groups := lines.splitBy (sameKey options)
  ofLines (if options.contains 'u' then groups.filterMap (·.head?) else lines)

/-! ## Repeats -/

/-- The lines of a text, one for each run of equal lines: with `c` after their number, with `d` only
those that repeat, with `u` only those that do not. -/
def withoutRepeats (options : List Char) (text : Text) : Text :=
  let wanted (group : List Text) : Bool :=
    (!options.contains 'd' || 1 < group.length) && (!options.contains 'u' || group.length = 1)
  let line (group : List Text) : Text :=
    (if options.contains 'c' then rightAligned 7 (Text.ofNat group.length) ++ [' '] else []) ++
      group.headD []
  ofLines ((((bareLines text).splitBy (· = ·)).filter wanted).map line)

/-! ## Parts of lines -/

/-- Numbers from a first to a last one, if there is a last one. -/
structure Span where
  first : Nat
  last : Option Nat

/-- A number lies between the ends. -/
def Span.contains (span : Span) (n : Nat) : Bool :=
  span.first ≤ n && span.last.all (n ≤ ·)

/-- The numbers that a text such as `2`, `2-4`, `2-` or `-4` names. -/
def Span.ofText? (text : Text) : Option Span :=
  match Text.pieces '-' text with
  | [n] => (Text.nat? n).map fun n => ⟨n, some n⟩
  | [[], []] => none
  | [[], last] => (Text.nat? last).map fun last => ⟨1, some last⟩
  | [first, []] => (Text.nat? first).map fun first => ⟨first, none⟩
  | [first, last] => do return ⟨← Text.nat? first, some (← Text.nat? last)⟩
  | _ => none

/-- The parts of lines that are wanted. -/
inductive Cut where
  | bytes (spans : List Span)
  | fields (separator : Char) (onlySeparated : Bool) (spans : List Span)

/-- The members of a list at wanted places, the first of which is 1. -/
def chosen {α : Type} (spans : List Span) (xs : List α) : List α :=
  (xs.zipIdx 1).filterMap fun (x, place) =>
    if spans.any (·.contains place) then some x else none

/-- The wanted part of a line; none if the line is left out. -/
def Cut.ofLine? (wanted : Cut) (line : Text) : Option Text :=
  match wanted with
  | bytes spans => some (chosen spans line)
  | fields separator onlySeparated spans =>
    if line.contains separator then
      some (Text.joined [separator] (chosen spans (Text.pieces separator line)))
    else if onlySeparated then none
    else some line

/-- The wanted parts of the lines of a text. -/
def Cut.ofText (wanted : Cut) (text : Text) : Text :=
  ofLines ((bareLines text).filterMap wanted.ofLine?)

/-- The options of `cut` with their values, and the operands that are none. -/
def cutOptions : List Text → List (Char × Text) × List Text
  | [] => ([], [])
  | ['-', '-'] :: rest => ([], rest)
  | ['-', 's'] :: rest =>
    let (options, operands) := cutOptions rest
    (('s', []) :: options, operands)
  | ['-', letter] :: value :: rest =>
    let (options, operands) := cutOptions rest
    ((letter, value) :: options, operands)
  | ('-' :: letter :: value) :: rest =>
    let (options, operands) := cutOptions rest
    ((letter, value) :: options, operands)
  | operand :: rest =>
    let (options, operands) := cutOptions rest
    (options, operand :: operands)

/-- The parts that options ask for, or how the program fails. -/
def Cut.ofOptions? (options : List (Char × Text)) : Except Result Cut :=
  let refused (text : String) : Except Result Cut := .error (.misused "cut" (message text))
  let spans? (text : Text) : Option (List Span) := (Text.pieces ',' text).mapM Span.ofText?
  match options.find? fun (letter, _) => letter ∈ ['b', 'c', 'f'] with
  | none => refused "you must specify a list of bytes, characters, or fields"
  | some ('f', list) =>
    match spans? list, (options.lookup 'd').getD ['\t'] with
    | none, _ => refused "invalid field range"
    | some spans, [separator] => .ok (fields separator ((options.lookup 's').isSome) spans)
    | some _, _ => refused "the delimiter must be a single character"
  | some (_, list) =>
    match spans? list with
    | none => refused "invalid byte or character range"
    | some spans => .ok (bytes spans)

end Invocation.Shell.Filter

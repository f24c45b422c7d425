import Invocation.Text.Digit
import Invocation.Text.Printable
import Invocation.Text.Quoted
import Invocation.Text.Split
import Invocation.Number.Literal

/-!
# Handlers

A tag whose name begins with `@` is for a handler, and its parameters are evaluated when it is closed.
How they are evaluated is a parameter of all that reads tags (`Handlers`), of which nothing is assumed.
Where nothing else is said, the parameters are the name of a handler, a constant, or both: texts,
numbers, truth values, tuples, sets and maps of such, as they are written in a program.
-/

namespace Invocation.Display

open Invocation.Number Invocation.Text

/-- How the parameters of handlers are evaluated: what is said of those that cannot be. -/
class Handlers where
  fault? : String → Option String

namespace Handler

/-! ## Pieces of notation -/

/-- The smallest parts of a notation. -/
inductive Piece where
  | number (imaginary : Bool)
  | text
  | bytes
  | name (letters : List Char)
  | mark (c : Char)
  | lineEnd
  deriving DecidableEq, Repr

/-- The characters beyond ASCII that are no letters and no digits. -/
def signs : List Range := [
  ⟨0xa1, 0xa9⟩, ⟨0xab, 0xb1⟩, ⟨0xb4, 0xb4⟩, ⟨0xb6, 0xb8⟩, ⟨0xbb, 0xbb⟩, ⟨0xbf, 0xbf⟩, ⟨0xd7, 0xd7⟩,
  ⟨0xf7, 0xf7⟩, ⟨0x2010, 0x206f⟩, ⟨0x20a0, 0x20ff⟩, ⟨0x2190, 0x245f⟩, ⟨0x2500, 0x2775⟩,
  ⟨0x2794, 0x2bff⟩, ⟨0x2e00, 0x2e7f⟩, ⟨0x3001, 0x3004⟩, ⟨0x3008, 0x3020⟩, ⟨0xfe10, 0xfe6f⟩,
  ⟨0xff01, 0xff0f⟩, ⟨0xff1a, 0xff20⟩, ⟨0x1f000, 0x1faff⟩]

/-- The characters of names. -/
def isOfName (c : Char) : Bool :=
  c.isAlphanum || c == '_' || (128 ≤ c.toNat && isPrintable c && !Range.mem signs c.toNat)

/-- The digits at the start and what follows them. Underscores stand alone between two digits. -/
def digitsOf? (ofBase : Char → Bool) : List Char → Option (List Char × List Char)
  | [] => none
  | c :: '_' :: rest =>
    if ofBase c then (digitsOf? ofBase rest).map fun (ds, after) => (c :: ds, after) else none
  | c :: rest =>
    if ofBase c then
      some (((digitsOf? ofBase rest).map fun (ds, after) => (c :: ds, after)).getD ([c], rest))
    else none

/-- A power of ten after a mantissa, if there is one, and what follows it. -/
def afterPower? : List Char → Option (Bool × List Char)
  | c :: rest =>
    if lowerAscii c = 'e' then
      (digitsOf? Char.isDigit (signAndRest rest).2).map fun (_, after) => (true, after)
    else some (false, c :: rest)
  | [] => some (false, [])

/-- The number at the start, and what follows it, which does not go on with a name. -/
def number? (cs : List Char) : Option (Piece × List Char) := do
  let inBase (ofBase : Char → Bool) (rest : List Char) : Option (Piece × List Char) := do
    let rest := if rest.head? = some '_' then rest.tail else rest
    return (.number false, (← digitsOf? ofBase rest).2)
  let decimal : Option (Piece × List Char) := do
    let (whole, rest) := (digitsOf? Char.isDigit cs).getD ([], cs)
    let (pointed, places, rest) :=
      match rest with
      | '.' :: more =>
        let (places, after) := (digitsOf? Char.isDigit more).getD ([], more)
        (true, places, after)
      | _ => (false, [], rest)
    guard (!(whole ++ places).isEmpty)
    let (powered, rest) ← afterPower? rest
    match rest with
    | c :: after =>
      if lowerAscii c = 'j' then return (.number true, after)
    | [] => pure ()
    let isWhole := !pointed && !powered
    guard (!isWhole || whole.all (· == '0') || whole.head? != some '0')
    guard (!isWhole || whole.length ≤ maxDigits)
    return (.number false, rest)
  let found ←
    match cs with
    | '0' :: c :: rest =>
      match lowerAscii c with
      | 'x' => inBase (fun d => d.isDigit || ('a' ≤ lowerAscii d && lowerAscii d ≤ 'f')) rest
      | 'o' => inBase (fun d => '0' ≤ d && d ≤ '7') rest
      | 'b' => inBase (fun d => d == '0' || d == '1') rest
      | _ => decimal
    | _ => decimal
  guard (!found.2.head?.any fun c => isOfName c || c == '.')
  return found

/-- What stands after the escape that begins after a backslash; none if it is no escape. -/
def afterEscape? (ofBytes : Bool) (cs : List Char) : Option (List Char) :=
  let digits (count limit : Nat) (rest : List Char) : Option (List Char) := do
    let ds := rest.take count
    guard (ds.length == count && ds.all fun d => d.isDigit || ('a' ≤ lowerAscii d && lowerAscii d ≤ 'f'))
    let value (d : Char) : Nat := if d.isDigit then d.toNat - 48 else (lowerAscii d).toNat - 87
    guard (ds.foldl (fun n d => 16 * n + value d) 0 ≤ limit)
    return rest.drop count
  match cs with
  | 'x' :: rest => digits 2 0xff rest
  | c :: rest =>
    if ofBytes then some rest
    else if c = 'u' then digits 4 0xffff rest
    else if c = 'U' then digits 8 0x10ffff rest
    else if c = 'N' then
      -- Every name of a character is taken for one.
      match rest with
      | '{' :: more =>
        if (more.takeWhile (· != '}')).isEmpty then none
        else
          match more.dropWhile (· != '}') with
          | _ :: after => some after
          | [] => none
      | _ => none
    else some rest
  | [] => none

/-- What stands after the quotes that end a text; `fuel` is its length. -/
def afterQuotes? (raw ofBytes : Bool) (quotes : List Char) : Nat → List Char → Option (List Char)
  | 0, _ => none
  | _, [] => none
  | fuel + 1, c :: rest =>
    if quotes.isPrefixOf (c :: rest) then some ((c :: rest).drop quotes.length)
    else if ofBytes && 128 ≤ c.toNat then none
    else if c = '\n' && quotes.length == 1 then none
    else if c = '\\' then
      if raw then afterQuotes? raw ofBytes quotes fuel (rest.drop 1)
      else do afterQuotes? raw ofBytes quotes fuel (← afterEscape? ofBytes rest)
    else afterQuotes? raw ofBytes quotes fuel rest

/-- The text at the start, with the letters in front of its quotes, and what follows it. -/
def text? (cs : List Char) : Option (Piece × List Char) := do
  let letters := (cs.takeWhile Char.isAlpha).map lowerAscii
  let rest := cs.dropWhile Char.isAlpha
  guard (String.ofList letters ∈ ["", "r", "u", "b", "br", "rb"])
  let quote ← rest.head?
  guard (quote == '"' || quote == '\'')
  let quotes := if [quote, quote, quote].isPrefixOf rest then [quote, quote, quote] else [quote]
  let after ← afterQuotes? (letters.contains 'r') (letters.contains 'b') quotes rest.length
    (rest.drop quotes.length)
  return (if letters.contains 'b' then .bytes else .text, after)

/-- The pieces of a notation inside some brackets, where lines do not end; `fuel` is its length. -/
def pieces? : Nat → Nat → List Char → Option (List Piece)
  | _, _, [] => some []
  | 0, _, _ => none
  | fuel + 1, depth, c :: rest =>
    if c = ' ' || c = '\t' || c = '\x0c' then pieces? fuel depth rest
    else if c = '\n' then
      (pieces? fuel depth rest).map fun ps => if depth = 0 then .lineEnd :: ps else ps
    else if c = '#' then pieces? fuel depth (rest.dropWhile (· != '\n'))
    else if c = '\\' && rest.head? = some '\n' && 1 < rest.length then pieces? fuel depth rest.tail
    else if c = '(' || c = '{' then
      if 200 ≤ depth then none else (pieces? fuel (depth + 1) rest).map (.mark c :: ·)
    else if c = ')' || c = '}' then (pieces? fuel (depth - 1) rest).map (.mark c :: ·)
    else if c = '+' || c = '-' || c = ',' || c = ':' then (pieces? fuel depth rest).map (.mark c :: ·)
    else if "...".toList.isPrefixOf (c :: rest) then
      (pieces? fuel depth (rest.drop 2)).map (.name "...".toList :: ·)
    else if c.isDigit || c = '.' then do
      let (piece, after) ← number? (c :: rest)
      return piece :: (← pieces? fuel depth after)
    else
      match text? (c :: rest) with
      | some (piece, after) => (pieces? fuel depth after).map (piece :: ·)
      | none =>
        if isOfName c then
          let letters := (c :: rest).takeWhile isOfName
          let after := (c :: rest).dropWhile isOfName
          if after.head?.any fun d => d == '"' || d == '\'' then none
          else (pieces? fuel depth after).map (.name letters :: ·)
        else none

/-! ## Constants -/

/-- What a notation denotes, as far as it tells what may stand beside it. -/
inductive Kind where
  | number (imaginary : Bool)
  | signed (imaginary : Bool)
  | constant
  /-- A set or a map, or a tuple that holds one, which is no key. -/
  | keyless
  deriving DecidableEq, Repr

/-- The kind of several things together. -/
def Kind.together (kinds : List Kind) : Kind :=
  if .keyless ∈ kinds then .keyless else .constant

mutual

/-- The constant at the start without a sign. -/
def atom? : Nat → List Piece → Option (Kind × List Piece)
  | 0, _ => none
  | fuel + 1, ps =>
    match ps with
    | .number imaginary :: rest => some (.number imaginary, rest)
    | .text :: rest => some (.constant, rest.dropWhile (· == .text))
    | .bytes :: rest => some (.constant, rest.dropWhile (· == .bytes))
    | .name letters :: rest =>
      if String.ofList letters ∈ ["True", "False", "None", "..."] then
        some (.constant, rest)
      else
        match rest with
        | .mark '(' :: .mark ')' :: after =>
          if letters = "set".toList then some (.keyless, after) else none
        | _ => none
    | .mark '(' :: rest => do
      let (kinds, tuple, after) ← items? fuel rest
      let .mark ')' :: after := after | none
      match kinds, tuple with
      | [kind], false => return (kind, after)
      | _, _ => return (Kind.together kinds, after)
    | .mark '{' :: .mark '}' :: rest => some (.keyless, rest)
    | .mark '{' :: rest => do
      let (keys, after) ← members? fuel rest
      let .mark '}' :: after := after | none
      guard (.keyless ∉ keys)
      return (.keyless, after)
    | _ => none

/-- The constant at the start: with a sign, or the sum of a real and an imaginary number. -/
def constant? : Nat → List Piece → Option (Kind × List Piece)
  | 0, _ => none
  | fuel + 1, ps => do
    let isSign (p : Piece) : Bool := p == .mark '+' || p == .mark '-'
    let (kind, rest) ←
      if ps.head?.any isSign then do
        let (.number imaginary, rest) ← atom? fuel ps.tail | none
        pure (Kind.signed imaginary, rest)
      else atom? fuel ps
    if rest.head?.any isSign then
      guard (kind = .number false || kind = .signed false)
      let (.number true, after) ← atom? fuel rest.tail | none
      return (.constant, after)
    else return (kind, rest)

/-- The constants at the start with commas between them, and whether there is a comma. -/
def items? : Nat → List Piece → Option (List Kind × Bool × List Piece)
  | 0, _ => none
  | fuel + 1, ps =>
    match ps with
    | [] => some ([], true, [])
    | .mark ')' :: _ => some ([], true, ps)
    | _ => do
      let (kind, rest) ← constant? fuel ps
      match rest with
      | .mark ',' :: more => do
        let (kinds, _, after) ← items? fuel more
        return (kind :: kinds, true, after)
      | _ => return ([kind], false, rest)

/-- The members of a set or of a map at the start: those that are keys. -/
def members? : Nat → List Piece → Option (List Kind × List Piece)
  | 0, _ => none
  | fuel + 1, ps => do
    let (key, rest) ← constant? fuel ps
    let (paired, rest) ←
      match rest with
      | .mark ':' :: more => do pure (true, (← constant? fuel more).2)
      | _ => pure (false, rest)
    match rest with
    | .mark ',' :: .mark '}' :: _ => return ([key], rest.tail)
    | .mark ',' :: more => do
      -- The members of a map are pairs, those of a set are not.
      let (_, second) ← constant? fuel more
      guard ((second.head? = some (.mark ':')) = paired)
      let (keys, after) ← members? fuel more
      return (key :: keys, after)
    | _ => return ([key], rest)

end

/-- The characters are a constant. -/
def isConstant (cs : List Char) : Bool :=
  match pieces? (cs.length + 1) 0 cs with
  | none => false
  | some ps =>
    let ps := ((ps.dropWhile (· == .lineEnd)).reverse.dropWhile (· == .lineEnd)).reverse
    match ps, items? (4 * ps.length + 4) ps with
    | _ :: _, some (_ :: _, _, []) => true
    | _, _ => false

/-! ## Parameters -/

/-- The constant that the parameters of a handler give it. After the name of a handler it stands in
parentheses, and there may be none. -/
def argument (parameters : List Char) : List Char :=
  match parameters.dropWhile fun c => isOfName c || c == '.' with
  | [] => "()".toList
  | '(' :: rest =>
    if rest.getLast? = some ')' ∧ '\n' ∉ rest then '(' :: rest else parameters
  | _ => parameters

/-- The brackets that are still open after some pieces, the last opened first. -/
def leftOpen (ps : List Piece) : List Char :=
  ps.foldl
    (fun opened piece =>
      if piece = .mark '(' then '(' :: opened
      else if piece = .mark '{' then '{' :: opened
      else if piece = .mark ')' ∨ piece = .mark '}' then opened.tail
      else opened)
    []

/-- Why characters are no constant. Only a bracket that is never closed has a reason of its own. -/
def reason (cs : List Char) : String :=
  match ((pieces? (cs.length + 1) 0 cs).map leftOpen).getD [] with
  | c :: _ => quoted (String.singleton c) ++ " was never closed"
  | [] => "invalid syntax"

/-- What is said of parameters that are no constant. -/
def fault? (parameters : String) : Option String :=
  let given := argument (trimChars parameters.toList)
  if isConstant given then none
  else
    some ("error parsing " ++ quoted (String.ofList given) ++ " in " ++ quoted parameters ++ "; " ++
      reason given)

end Handler

instance : Handlers :=
  ⟨Handler.fault?⟩

end Invocation.Display

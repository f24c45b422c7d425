import Invocation.Json.Fault
import Invocation.Value.Basic

/-!
# Reading JSON

A text is read to the end as one value. Beside the standard's grammar the names `NaN`, `Infinity`
and `-Infinity` are numbers. Of several members with one name the last one counts, in the place of
the first. Two escapes that form a surrogate pair are one character. A surrogate without its partner
is no character; here it is read as the replacement character, so that names that differ only in
such surrogates are one name. Lists and maps may be nested as deep as the text is long, where the
program's reader gives up after about a thousand levels.
-/

namespace Invocation.Json

open Invocation.Number

/-- Why reading stopped; `left` counts the characters from the fault to the end. -/
inductive Halt where
  | fault (cause : Cause) (left : Nat)
  | integer (fault : IntegerFault)

/-- The blanks of the grammar. -/
def isBlank (c : Char) : Bool :=
  c == ' ' || c == '\t' || c == '\n' || c == '\r'

/-- The characters after any leading blanks. -/
def skipBlanks (cs : List Char) : List Char :=
  cs.dropWhile isBlank

/-! ## Texts -/

/-- The value of a hexadecimal digit. -/
def hexValue? (c : Char) : Option Nat :=
  if '0' ≤ c ∧ c ≤ '9' then some (c.toNat - 48)
  else if 'a' ≤ c ∧ c ≤ 'f' then some (c.toNat - 87)
  else if 'A' ≤ c ∧ c ≤ 'F' then some (c.toNat - 55)
  else none

/-- The number in four hexadecimal digits, which must not end the text. -/
def hexQuad? : List Char → Option (Nat × List Char)
  | a :: b :: c :: d :: e :: rest => do
    let upper := (← hexValue? a) * 16 + (← hexValue? b)
    let lower := (← hexValue? c) * 16 + (← hexValue? d)
    return (upper * 256 + lower, e :: rest)
  | _ => none

/-- The first code of a surrogate pair. -/
def isHighSurrogate (n : Nat) : Bool :=
  0xd800 ≤ n && n < 0xdc00

/-- The second code of a surrogate pair. -/
def isLowSurrogate (n : Nat) : Bool :=
  0xdc00 ≤ n && n < 0xe000

/-- The character of a code. A surrogate without its partner is no character, and is read as the
replacement character, as is every other such surrogate. -/
def codeChar (n : Nat) : Char :=
  if isHighSurrogate n || isLowSurrogate n then Char.ofNat 0xfffd else Char.ofNat n

/-- The character of a surrogate pair. -/
def pairChar (high low : Nat) : Char :=
  Char.ofNat (0x10000 + (high - 0xd800) * 0x400 + (low - 0xdc00))

/-- The character that an escape's letter stands for. -/
def escapeLetter? : Char → Option Char
  | '"' => some '"'
  | '\\' => some '\\'
  | '/' => some '/'
  | 'b' => some '\x08'
  | 'f' => some '\x0c'
  | 'n' => some '\n'
  | 'r' => some '\r'
  | 't' => some '\t'
  | _ => none

/-- The character of an escape after its `\u`. -/
def unicodeEscape (cs : List Char) : Except Halt (Char × List Char) :=
  match hexQuad? cs with
  | none => .error (.fault .unicodeEscape (cs.length + 1))
  | some (n, rest) =>
    match isHighSurrogate n, rest with
    | true, '\\' :: 'u' :: after =>
      if after.length < 5 then .ok (codeChar n, rest)
      else
        match hexQuad? after with
        | none => .error (.fault .unicodeEscape (after.length + 1))
        | some (low, rest') =>
          if isLowSurrogate low then .ok (pairChar n low, rest') else .ok (codeChar n, rest)
    | _, _ => .ok (codeChar n, rest)

/-- The character of an escape after its backslash. `opened` counts the characters from the
opening quote of the text to the end. -/
def escape (opened : Nat) : List Char → Except Halt (Char × List Char)
  | [] => .error (.fault .unterminatedText opened)
  | 'u' :: rest => unicodeEscape rest
  | c :: rest =>
    match escapeLetter? c with
    | some e => .ok (e, rest)
    | none => .error (.fault .unknownEscape (rest.length + 2))

/-- The rest of a text after its opening quote, up to the closing one. -/
def textTail (opened : Nat) : Nat → List Char → Except Halt (List Char × List Char)
  | 0, _ => .error (.fault .unterminatedText opened)
  | _, [] => .error (.fault .unterminatedText opened)
  | fuel + 1, c :: rest =>
    if c = '"' then .ok ([], rest)
    else if c = '\\' then do
      let (e, rest) ← escape opened rest
      let (tail, rest) ← textTail opened fuel rest
      return (e :: tail, rest)
    else if c.toNat < 32 then .error (.fault .controlCharacter (rest.length + 1))
    else do
      let (tail, rest) ← textTail opened fuel rest
      return (c :: tail, rest)

/-- The text after an opening quote. -/
def readText (cs : List Char) : Except Halt (String × List Char) := do
  let (text, rest) ← textTail (cs.length + 1) (cs.length + 1) cs
  return (String.ofList text, rest)

/-! ## Numbers -/

/-- The digits of the whole part: a zero alone, or digits that begin with another one. -/
def wholeDigits? (cs : List Char) : Option (List Nat × List Char) :=
  match leadingDigits cs with
  | ([], _) => none
  | (0 :: _, _) => some ([0], cs.drop 1)
  | found => some found

/-- The digits after a decimal point, none if no digit follows it. -/
def placesAndRest : List Char → List Nat × List Char
  | '.' :: rest =>
    match leadingDigits rest with
    | ([], _) => ([], '.' :: rest)
    | found => found
  | cs => ([], cs)

/-- The power of ten, none if no digit follows its letter. -/
def powerAndRest : List Char → Option Int × List Char
  | [] => (none, [])
  | c :: rest =>
    if c = 'e' ∨ c = 'E' then
      let (negative, body) := signAndRest rest
      match leadingDigits body with
      | ([], _) => (none, c :: rest)
      | (digits, after) =>
        let n : Int := natOfDigits digits
        (some (if negative then -n else n), after)
    else (none, c :: rest)

/-- The minus sign in front, if any, and what follows it. -/
def minusAndRest : List Char → Bool × List Char
  | '-' :: rest => (true, rest)
  | cs => (false, cs)

/-- The number at the start of the characters. -/
def readNumber (cs : List Char) : Except Halt (Value × List Char) :=
  let (negative, body) := minusAndRest cs
  match wholeDigits? body with
  | none => .error (.fault .expectingValue cs.length)
  | some (whole, rest) =>
    let (places, rest) := placesAndRest rest
    match places, powerAndRest rest with
    | [], (none, rest) =>
      if maxDigits < whole.length then .error (.integer (.tooManyDigits whole.length))
      else
        let n : Int := natOfDigits whole
        .ok (.int (if negative then -n else n), rest)
    | _, (power, rest) =>
      .ok (.float (.ofDecimal negative (natOfDigits (whole ++ places))
        (power.getD 0 - places.length)), rest)

/-! ## Values -/

/-- The names that stand for values. -/
def names : List (List Char × Value) := [
  ("null".toList, .null),
  ("true".toList, .bool true),
  ("false".toList, .bool false),
  ("NaN".toList, .float .nan),
  ("Infinity".toList, .float (.infinite false)),
  ("-Infinity".toList, .float (.infinite true))]

/-- The characters after the given ones, if they begin with them. -/
def dropStart? : List Char → List Char → Option (List Char)
  | [], cs => some cs
  | p :: ps, c :: cs => if p = c then dropStart? ps cs else none
  | _ :: _, [] => none

/-- A name or a number. -/
def readScalar (cs : List Char) : Except Halt (Value × List Char) :=
  match names.findSome? fun (name, value) => (dropStart? name cs).map (value, ·) with
  | some found => .ok found
  | none => readNumber cs

/-- The fuel for reading a value. Each bracket takes two steps, one for the list or the map and one
for what is in it. -/
def fuelFor (cs : List Char) : Nat :=
  2 * cs.length + 2

mutual

/-- The value at the start of the characters. -/
def readValue : Nat → List Char → Except Halt (Value × List Char)
  | 0, cs => .error (.fault .expectingValue cs.length)
  | fuel + 1, cs =>
    match cs with
    | '"' :: rest => do
      let (text, rest) ← readText rest
      return (.text text, rest)
    | '[' :: rest =>
      match skipBlanks rest with
      | ']' :: rest => .ok (.list [], rest)
      | rest => do
        let (items, rest) ← readItems fuel rest
        return (.list items, rest)
    | '{' :: rest =>
      match skipBlanks rest with
      | '}' :: rest => .ok (.map [], rest)
      | rest => do
        let (entries, rest) ← readMembers fuel [] rest
        return (.map entries, rest)
    | _ => readScalar cs

/-- The items of a list from the next one to the closing bracket. -/
def readItems : Nat → List Char → Except Halt (List Value × List Char)
  | 0, cs => .error (.fault .expectingValue cs.length)
  | fuel + 1, cs => do
    let (item, rest) ← readValue fuel cs
    match skipBlanks rest with
    | ']' :: rest => return ([item], rest)
    | ',' :: rest =>
      let (items, rest) ← readItems fuel (skipBlanks rest)
      return (item :: items, rest)
    | rest => .error (.fault .expectingComma rest.length)

/-- The members of a map from the next one to the closing brace, written to the earlier ones. -/
def readMembers : Nat → Entries Value → List Char → Except Halt (Entries Value × List Char)
  | 0, _, cs => .error (.fault .expectingName cs.length)
  | fuel + 1, earlier, cs =>
    match cs with
    | '"' :: rest => do
      let (name, rest) ← readText rest
      match skipBlanks rest with
      | ':' :: rest =>
        let (value, rest) ← readValue fuel (skipBlanks rest)
        let entries := earlier.put name value
        match skipBlanks rest with
        | '}' :: rest => return (entries, rest)
        | ',' :: rest => readMembers fuel entries (skipBlanks rest)
        | rest => .error (.fault .expectingComma rest.length)
      | rest => .error (.fault .expectingColon rest.length)
    | _ => .error (.fault .expectingName cs.length)

end

/-- The value that the characters denote as a whole. -/
def readWhole (cs : List Char) : Except Halt Value := do
  if cs.head? = some (Char.ofNat 0xfeff) then throw (.fault .byteOrderMark cs.length)
  let (value, rest) ← readValue (fuelFor cs) (skipBlanks cs)
  match skipBlanks rest with
  | [] => return value
  | rest => throw (.fault .extraData rest.length)

/-- The refusal of a text at which reading stopped. -/
def Halt.refusal (cs : List Char) : Halt → Refusal
  | .fault cause left => .malformed (Fault.locate cause cs (cs.length - left))
  | .integer why => .integer why

/-- The value that a text denotes. -/
def read (s : String) : Except Refusal Value :=
  let cs := s.toList
  (readWhole cs).mapError (Halt.refusal cs)

end Invocation.Json

import Invocation.Shell.Syntax

/-!
# Reading words

How quotes, backslashes, parameters and substitutions make up a word. Every reader returns the text
after what it has read; its fuel is the length of the text, which every step shortens.
-/

namespace Invocation.Shell

/-- A text in front of other parts, joined with a text that is quoted like it. -/
def Part.prepend (quoted : Bool) (cs : List Char) : Word → Word
  | .text other more :: rest =>
    if quoted = other then .text quoted (cs ++ more) :: rest
    else .text quoted cs :: .text other more :: rest
  | parts => .text quoted cs :: parts

/-- What is read from a text, and the text after it. -/
abbrev Taken (α : Type) := α × List Char

/-- A part in front of the word that follows it. -/
def Part.before (part : Part) (more : Except SyntaxFault (Taken Word)) :
    Except SyntaxFault (Taken Word) :=
  more.map fun (parts, rest) => (part :: parts, rest)

/-- A text in front of the word that follows it. -/
def textBefore (quoted : Bool) (cs : List Char) (more : Except SyntaxFault (Taken Word)) :
    Except SyntaxFault (Taken Word) :=
  more.map fun (parts, rest) => (Part.prepend quoted cs parts, rest)

/-! ## Enclosed texts -/

/-- The text up to the parenthesis that closes one, and the text after that. The brackets and quotes
that are still open, the last one first, are in `stack`. -/
def enclosed : List Char → List Char → Option (List Char × List Char)
  | _, [] => none
  | '\'' :: stack, c :: rest =>
    keep c (enclosed (if c = '\'' then stack else '\'' :: stack) rest)
  | stack, '\\' :: c :: rest => keep '\\' (keep c (enclosed stack rest))
  | '"' :: stack, '$' :: '(' :: rest => keep '$' (keep '(' (enclosed ('(' :: '"' :: stack) rest))
  | '"' :: stack, c :: rest => keep c (enclosed (if c = '"' then stack else '"' :: stack) rest)
  | stack, c :: rest =>
    if c = ')' then
      match stack with
      | [] => some ([], rest)
      | _ :: stack => keep c (enclosed stack rest)
    else if c = '(' ∨ c = '"' ∨ c = '\'' then keep c (enclosed (c :: stack) rest)
    else keep c (enclosed stack rest)
where
  keep (c : Char) (found : Option (List Char × List Char)) : Option (List Char × List Char) :=
    found.map fun (inside, rest) => (c :: inside, rest)

/-- The text between single quotes, and the text after them. -/
def singleQuoted : List Char → Option (List Char × List Char)
  | [] => none
  | '\'' :: rest => some ([], rest)
  | c :: rest => (singleQuoted rest).map fun (inside, rest) => (c :: inside, rest)

/-- The script between backquotes, and the text after them. A backslash is kept unless it stands
before a dollar sign, a backquote or a backslash. -/
def backquoted (quoted : Bool) : List Char → Option (List Char × List Char)
  | [] => none
  | '`' :: rest => some ([], rest)
  | '\\' :: c :: rest =>
    (backquoted quoted rest).map fun (inside, rest) =>
      if c = '$' ∨ c = '`' ∨ c = '\\' ∨ (quoted = true ∧ c = '"') then (c :: inside, rest)
      else ('\\' :: c :: inside, rest)
  | c :: rest => (backquoted quoted rest).map fun (inside, rest) => (c :: inside, rest)

/-! ## Words -/

/-- Where a word is read. -/
inductive Place where
  /-- Outside quotes. -/
  | bare
  /-- Between double quotes. -/
  | double
  /-- After the operator of a parameter, itself between double quotes or not. -/
  | braced (quoted : Bool)
  /-- In a text in the script, or in an arithmetic expression. -/
  | document
  deriving DecidableEq

/-- What is read there is not split into fields. -/
def Place.isQuoted : Place → Bool
  | .bare => false
  | .braced quoted => quoted
  | .double => true
  | .document => true

/-- The characters that end a word outside quotes. -/
def endsWord (c : Char) : Bool :=
  c ∈ [' ', '\t', '\n', ';', '&', '|', '<', '>', '(', ')']

/-- The characters that a backslash takes their meaning from between double quotes. -/
def isEscapable (place : Place) (c : Char) : Bool :=
  c ∈ ['$', '`', '\\'] || (c = '"' && place ≠ .document) ||
    (c = '}' && place = .braced true)

/-- A name, a digit or a sign that is a parameter, and the text after it. -/
def parameterName (long : Bool) : List Char → List Char × List Char
  | [] => ([], [])
  | c :: rest =>
    if c.isDigit then
      if long then ((c :: rest).takeWhile Char.isDigit, (c :: rest).dropWhile Char.isDigit)
      else ([c], rest)
    else if isNameChar c then
      ((c :: rest).takeWhile isNameChar, (c :: rest).dropWhile isNameChar)
    else if c ∈ ['@', '*', '#', '?', '-', '$', '!'] then ([c], rest)
    else ([], c :: rest)

/-- The fallback that an operator names. -/
def Fallback.ofChar? : Char → Option Fallback
  | '-' => some .use
  | '=' => some .assign
  | '?' => some .fail
  | '+' => some .replace
  | _ => none

/-- The fault of an opening brace without a closing one, inside quotes or not. -/
def unclosed (quoted : Bool) : SyntaxFault :=
  if quoted then .unterminatedQuote else .missingBrace

mutual

/-- The word at the start of a text, in its place. -/
def readWord (fuel : Nat) (place : Place) (text : List Char) : Except SyntaxFault (Taken Word) :=
  match fuel with
  | 0 => .ok ([], text)
  | fuel + 1 =>
    match text with
    | [] =>
      match place with
      | .double => .error .unterminatedQuote
      | .braced quoted => .error (unclosed quoted)
      | _ => .ok ([], [])
    | '\\' :: '\n' :: rest => readWord fuel place rest
    | '\\' :: c :: rest =>
      if place.isQuoted && !isEscapable place c then
        textBefore true ['\\', c] (readWord fuel place rest)
      else textBefore true [c] (readWord fuel place rest)
    | '$' :: rest => do
      let (part, rest) ← readDollar fuel place.isQuoted rest
      match part with
      | .text quoted cs => textBefore quoted cs (readWord fuel place rest)
      | part => Part.before part (readWord fuel place rest)
    | '`' :: rest =>
      match backquoted place.isQuoted rest with
      | none => .error .unterminatedBackquote
      | some (script, rest) =>
        Part.before (.output place.isQuoted script) (readWord fuel place rest)
    | '"' :: rest =>
      match place with
      | .double => .ok ([], rest)
      | .document => textBefore true ['"'] (readWord fuel place rest)
      | _ => do
        let (parts, rest) ← readWord fuel .double rest
        let (more, rest) ← readWord fuel place rest
        return ((if parts.isEmpty then [.text true []] else parts) ++ more, rest)
    | '\'' :: rest =>
      if place.isQuoted then textBefore true ['\''] (readWord fuel place rest)
      else
        match singleQuoted rest with
        | none => .error .unterminatedQuote
        | some (inside, rest) => textBefore true inside (readWord fuel place rest)
    | c :: rest =>
      match place with
      | .bare =>
        if endsWord c then .ok ([], c :: rest)
        else textBefore false [c] (readWord fuel place rest)
      | .braced quoted =>
        if c = '}' then .ok ([], rest)
        else textBefore quoted [c] (readWord fuel place rest)
      | _ => textBefore true [c] (readWord fuel place rest)

/-- What stands for the text after a dollar sign. -/
def readDollar (fuel : Nat) (quoted : Bool) (text : List Char) : Except SyntaxFault (Taken Part) :=
  match fuel with
  | 0 => .ok (.text quoted ['$'], text)
  | fuel + 1 =>
    match text with
    | '(' :: '(' :: rest =>
      match enclosed [] rest with
      | some (inside, ')' :: rest) => do
        let (parts, _) ← readWord fuel .document inside
        return (.number quoted parts, rest)
      | _ => .error .missingParentheses
    | '(' :: rest =>
      match enclosed [] rest with
      | some (script, rest) => .ok (.output quoted script, rest)
      | none => .error (.unexpected "end of file" (some "\")\""))
    | '{' :: rest => readBraced fuel quoted rest
    | rest =>
      match parameterName false rest with
      | ([], rest) => .ok (.text quoted ['$'], rest)
      | (name, rest) => .ok (.value quoted name, rest)

/-- What stands for the text after a dollar sign and an opening brace. -/
def readBraced (fuel : Nat) (quoted : Bool) (text : List Char) : Except SyntaxFault (Taken Part) :=
  match fuel with
  | 0 => .error .missingBrace
  | fuel + 1 =>
    match text with
    | '#' :: '}' :: rest => .ok (.value quoted ['#'], rest)
    | '#' :: c :: rest =>
      match parameterName true (c :: rest) with
      | ([], _) => readOperator fuel quoted ['#'] (c :: rest)
      | (name, '}' :: rest) => .ok (.size quoted name, rest)
      | (_, _) => readOperator fuel quoted ['#'] (c :: rest)
    | text =>
      match parameterName true text with
      | ([], []) => .error (unclosed quoted)
      | ([], rest) => do
        let (_, rest) ← readWord fuel (.braced quoted) rest
        return (.bad, rest)
      | (name, '}' :: rest) => .ok (.value quoted name, rest)
      | (name, rest) => readOperator fuel quoted name rest

/-- What stands for a parameter and the operator after it. -/
def readOperator (fuel : Nat) (quoted : Bool) (name text : List Char) :
    Except SyntaxFault (Taken Part) :=
  match fuel with
  | 0 => .error .missingBrace
  | fuel + 1 =>
    match text with
    | [] => .error (unclosed quoted)
    | ':' :: c :: rest => do
      let (word, rest) ← readWord fuel (.braced quoted) rest
      match Fallback.ofChar? c with
      | some kind => return (.fallback quoted name true kind word, rest)
      | none => return (.bad, rest)
    | '%' :: '%' :: rest => do
      let (word, rest) ← readWord fuel (.braced false) rest
      return (.trimmed quoted name true true word, rest)
    | '%' :: rest => do
      let (word, rest) ← readWord fuel (.braced false) rest
      return (.trimmed quoted name true false word, rest)
    | '#' :: '#' :: rest => do
      let (word, rest) ← readWord fuel (.braced false) rest
      return (.trimmed quoted name false true word, rest)
    | '#' :: rest => do
      let (word, rest) ← readWord fuel (.braced false) rest
      return (.trimmed quoted name false false word, rest)
    | c :: rest => do
      let (word, rest) ← readWord fuel (.braced quoted) rest
      match Fallback.ofChar? c with
      | some kind => return (.fallback quoted name false kind word, rest)
      | none => return (.bad, rest)

end

/-- The text of a word in which nothing is quoted or replaced. -/
def plainText? : Word → Option (List Char)
  | [] => some []
  | .text false cs :: rest => (plainText? rest).map (cs ++ ·)
  | _ => none

end Invocation.Shell

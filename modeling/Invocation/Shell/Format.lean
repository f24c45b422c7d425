import Invocation.Shell.Arithmetic

/-!
# Escapes and formats

What backslashes stand for in the operands of `echo` and `printf`, and the directives of `printf`.
The shell's own utilities and the programs of the same names differ in a few rules, which is what
`Dialect` tells.
-/

namespace Invocation.Shell

/-- Whether a utility is the shell's own or a program. -/
inductive Dialect where
  | builtin
  | program
  deriving DecidableEq

/-! ## Escapes -/

/-- At most `limit` digits of a base at the start of a text, and the text after them. -/
def digitsAt (base limit : Nat) (text : Text) : Text × Text :=
  let isDigit (c : Char) : Bool :=
    c.isAlphanum && Arithmetic.digitValue c < base
  let digits := (text.take limit).takeWhile isDigit
  (digits, text.drop digits.length)

/-- The number of some digits. -/
def numberOf (base : Nat) (digits : Text) : Nat :=
  digits.foldl (fun n c => n * base + Arithmetic.digitValue c) 0

/-- What an escape stands for. -/
inductive Escape where
  | text (cs : Text)
  /-- Nothing more is written. -/
  | stop
  /-- It is no escape. -/
  | unknown

/-- The escape after a backslash, and the text after it. With `zeroFirst` an octal number may have a
zero in front of its three digits. -/
def escapeAt (dialect : Dialect) (zeroFirst : Bool) : Text → Escape × Text
  | [] => (.unknown, [])
  | c :: rest =>
    match c with
    | '\\' => (.text ['\\'], rest)
    | 'a' => (.text [Char.ofNat 7], rest)
    | 'b' => (.text [Char.ofNat 8], rest)
    | 'c' => (.stop, rest)
    | 'f' => (.text [Char.ofNat 12], rest)
    | 'n' => (.text ['\n'], rest)
    | 'r' => (.text ['\r'], rest)
    | 't' => (.text ['\t'], rest)
    | 'v' => (.text [Char.ofNat 11], rest)
    | _ =>
      if '0' ≤ c ∧ c ≤ '7' then
        let (digits, rest) :=
          if zeroFirst = true ∧ c = '0' then digitsAt 8 3 rest else digitsAt 8 3 (c :: rest)
        (.text [Char.ofNat (numberOf 8 digits % 256)], rest)
      else if dialect = .program then
        match c with
        | 'e' => (.text [Char.ofNat 27], rest)
        | '"' => if zeroFirst then (.unknown, c :: rest) else (.text ['"'], rest)
        | 'x' =>
          let (digits, after) := digitsAt 16 2 rest
          if digits = [] then (.unknown, c :: rest)
          else (.text [Char.ofNat (numberOf 16 digits)], after)
        | 'u' => if zeroFirst then (.unknown, c :: rest) else unicode 4 c rest
        | 'U' => if zeroFirst then (.unknown, c :: rest) else unicode 8 c rest
        | _ => (.unknown, c :: rest)
      else (.unknown, c :: rest)
where
  unicode (limit : Nat) (c : Char) (rest : Text) : Escape × Text :=
    let (digits, after) := digitsAt 16 limit rest
    if digits = [] then (.unknown, c :: rest)
    else (.text (Text.ofString (String.singleton (Char.ofNat (numberOf 16 digits)))), after)

/-- A text with its escapes replaced, and whether it was stopped; `fuel` is its length. -/
def unescapeWithin (dialect : Dialect) : Nat → Text → Text × Bool
  | 0, _ => ([], false)
  | _, [] => ([], false)
  | fuel + 1, '\\' :: rest =>
    match escapeAt dialect true rest with
    | (.text cs, rest) =>
      let (more, stopped) := unescapeWithin dialect fuel rest
      (cs ++ more, stopped)
    | (.stop, _) => ([], true)
    | (.unknown, rest) =>
      let (more, stopped) := unescapeWithin dialect fuel rest
      ('\\' :: more, stopped)
  | fuel + 1, c :: rest =>
    let (more, stopped) := unescapeWithin dialect fuel rest
    (c :: more, stopped)

/-- A text with its escapes replaced, and whether it was stopped. -/
def unescape (dialect : Dialect) (text : Text) : Text × Bool :=
  unescapeWithin dialect text.length text

/-! ## Echoing -/

/-- An operand that sets how `echo` writes. -/
def isEchoOption (dialect : Dialect) (operand : Text) : Bool :=
  match dialect, operand with
  | .builtin, operand => operand = ['-', 'n']
  | .program, '-' :: c :: rest => (c :: rest).all (· ∈ ['n', 'e', 'E'])
  | .program, _ => false

/-- What `echo` writes. -/
def echo (dialect : Dialect) (operands : List Text) : Text :=
  let options :=
    match dialect with
    | .builtin => (operands.take 1).takeWhile (isEchoOption dialect)
    | .program => operands.takeWhile (isEchoOption dialect)
  let line := Text.joined [' '] (operands.drop options.length)
  let escapes :=
    dialect = .builtin || options.flatten.reverse.find? (· ∈ ['e', 'E']) = some 'e'
  let (line, stopped) := if escapes then unescape dialect line else (line, false)
  if stopped || options.any (·.contains 'n') then line else line ++ ['\n']

/-! ## Formats -/

/-- What `printf` complains about. -/
inductive FormatFault where
  | notNumeric (operand : Text)
  | notWhollyNumeric (operand : Text)
  | badDirective (directive : Text)

/-- A directive of a format. -/
structure Directive where
  left : Bool
  plus : Bool
  space : Bool
  zero : Bool
  alternate : Bool
  width : Nat
  precision : Option Nat
  conversion : Char

/-- A text in a field of some width. -/
def Directive.pad (d : Directive) (text : Text) : Text :=
  let gap := List.replicate (d.width - text.length) ' '
  if d.left then text ++ gap else gap ++ text

/-- Digits with a sign in a field, with zeros between them as the directive asks. -/
def Directive.padNumber (d : Directive) (sign digits : Text) : Text :=
  match d.precision with
  | some n => d.pad (sign ++ List.replicate (n - digits.length) '0' ++ digits)
  | none =>
    if d.zero && !d.left then
      sign ++ List.replicate (d.width - sign.length - digits.length) '0' ++ digits
    else d.pad (sign ++ digits)

/-- The digits of a number in a base. -/
def digitsOf (base : Nat) (n : Nat) : Text :=
  Nat.toDigits base n

/-- The number that an operand denotes, and what is wrong with it. -/
def numericOperand (operand : Text) : Int × List FormatFault :=
  match operand with
  | [] => (0, [])
  | '\'' :: c :: _ => (c.toNat, [])
  | '"' :: c :: _ => (c.toNat, [])
  | operand =>
    let trimmed := operand.dropWhile (· = ' ')
    let (negative, digits) :=
      match trimmed with
      | '-' :: digits => (true, digits)
      | '+' :: digits => (false, digits)
      | digits => (false, digits)
    let (base, digits) :=
      match digits with
      | '0' :: 'x' :: digits => (16, digits)
      | '0' :: 'X' :: digits => (16, digits)
      | '0' :: digits => (8, '0' :: digits)
      | digits => (10, digits)
    let (used, rest) := digitsAt base digits.length digits
    let n : Int := numberOf base used
    let faults :=
      if used.isEmpty then [FormatFault.notNumeric operand]
      else if rest.isEmpty then []
      else [FormatFault.notWhollyNumeric operand]
    (if negative then -n else n, faults)

/-- What a number is written as. -/
def Directive.number (d : Directive) (n : Int) : Text :=
  let unsigned := (n % (2 * Number.wordLimit : Nat)).toNat
  match d.conversion with
  | 'u' => d.padNumber [] (digitsOf 10 unsigned)
  | 'o' => d.padNumber (if d.alternate then ['0'] else []) (digitsOf 8 unsigned)
  | 'x' => d.padNumber (if d.alternate && n ≠ 0 then ['0', 'x'] else []) (digitsOf 16 unsigned)
  | 'X' =>
    d.padNumber (if d.alternate && n ≠ 0 then ['0', 'X'] else [])
      ((digitsOf 16 unsigned).map Char.toUpper)
  | _ =>
    let sign := if n < 0 then ['-'] else if d.plus then ['+'] else if d.space then [' '] else []
    d.padNumber sign (digitsOf 10 n.natAbs)

/-- What was written so far, the operands that are left, and the complaints. -/
structure Formatting where
  written : Text
  operands : List Text
  faults : List FormatFault
  stopped : Bool

/-- The next operand, empty if there is none. -/
def Formatting.next (f : Formatting) : Text × Formatting :=
  (f.operands.head?.getD [], { f with operands := f.operands.tail })

/-- A number at the start of a text, or an operand in place of a star, and the text after it. -/
def fieldNumber (text : Text) (f : Formatting) : Option Int × Text × Formatting :=
  match text with
  | '*' :: rest =>
    let (operand, f) := f.next
    (some (numericOperand operand).1, rest, f)
  | text =>
    let (digits, rest) := digitsAt 10 text.length text
    if digits.isEmpty then (none, rest, f) else (some (numberOf 10 digits), rest, f)

/-- Carries out the directive after a percent sign. -/
def Formatting.direct (dialect : Dialect) (text : Text) (f : Formatting) : Text × Formatting :=
  let flags := text.takeWhile (· ∈ ['-', '+', ' ', '0', '#'])
  let (width, rest, f) := fieldNumber (text.drop flags.length) f
  let (precision, rest, f) :=
    match rest with
    | '.' :: rest =>
      let (n, rest, f) := fieldNumber rest f
      (some (n.getD 0).toNat, rest, f)
    | rest => (none, rest, f)
  match rest with
  | [] => ([], refuse f text)
  | c :: rest =>
    let d : Directive :=
      { left := flags.contains '-' || width.any (· < 0), plus := flags.contains '+',
        space := flags.contains ' ', zero := flags.contains '0', alternate := flags.contains '#',
        width := (width.getD 0).natAbs, precision, conversion := c }
    if c = 's' then
      let (operand, f) := f.next
      (rest, write f (d.pad (cut precision operand)))
    else if c = 'b' then
      let (operand, f) := f.next
      let (shown, stopped) := unescape dialect operand
      (rest, { write f (d.pad (cut precision shown)) with stopped })
    else if c = 'c' then
      let (operand, f) := f.next
      (rest, write f (d.pad (operand.take 1)))
    else if c ∈ ['d', 'i', 'u', 'o', 'x', 'X'] then
      let (operand, f) := f.next
      let (n, faults) := numericOperand operand
      (rest, { write f (d.number n) with faults := f.faults ++ faults })
    else ([], refuse f (text.take (text.length - rest.length)))
where
  cut (precision : Option Nat) (text : Text) : Text :=
    match precision with
    | some n => text.take n
    | none => text
  write (f : Formatting) (text : Text) : Formatting :=
    { f with written := f.written ++ text }
  refuse (f : Formatting) (directive : Text) : Formatting :=
    { f with faults := f.faults ++ [.badDirective ('%' :: directive)], stopped := true }

/-- Goes through a format once; `fuel` is its length. -/
def Formatting.run (dialect : Dialect) : Nat → Text → Formatting → Formatting
  | 0, _, f => f
  | _, [], f => f
  | fuel + 1, c :: rest, f =>
    if f.stopped then f
    else
      match c, rest with
      | '%', '%' :: rest => run dialect fuel rest { f with written := f.written ++ ['%'] }
      | '%', rest =>
        let (rest, f) := f.direct dialect rest
        run dialect fuel rest f
      | '\\', rest =>
        match escapeAt dialect false rest with
        | (.text cs, rest) => run dialect fuel rest { f with written := f.written ++ cs }
        | (.stop, _) => { f with stopped := true }
        | (.unknown, rest) => run dialect fuel rest { f with written := f.written ++ ['\\'] }
      | c, rest => run dialect fuel rest { f with written := f.written ++ [c] }

/-- Goes through a format until no operands are left; `fuel` bounds the rounds. -/
def Formatting.rounds (dialect : Dialect) (format : Text) : Nat → Formatting → Formatting
  | 0, f => f
  | fuel + 1, f =>
    let after := f.run dialect format.length format
    if after.stopped || after.operands.isEmpty || after.operands.length = f.operands.length then
      after
    else rounds dialect format fuel after

/-- What `printf` writes for a format and operands, and its complaints. -/
def printed (dialect : Dialect) (format : Text) (operands : List Text) : Formatting :=
  Formatting.rounds dialect format (operands.length + 1) ⟨[], operands, [], false⟩

end Invocation.Shell

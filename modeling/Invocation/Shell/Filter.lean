import Invocation.Shell.Files

/-!
# Programs over texts

Programs that only read operands and input and only write: the parts of paths, counting, sequences
of numbers, beginnings and ends, and characters replaced by others.
-/

namespace Invocation.Shell

/-- What a program wrote and its exit status. -/
structure Result where
  output : Text
  errors : Text
  status : Nat

namespace Result

/-- Success with an output. -/
def ok (output : Text) : Result :=
  ⟨output, [], 0⟩

/-- Failure with a message of a program. -/
def failed (program : String) (message : Text) : Result :=
  ⟨[], Text.ofString (program ++ ": ") ++ message ++ ['\n'], 1⟩

/-- Failure for the way in which a program was called. -/
def misused (program : String) (message : Text) : Result :=
  failed program
    (message ++ Text.ofString ("\nTry '" ++ program ++ " --help' for more information."))

end Result

namespace Filter

/-- A message without an operand. -/
def message (message : String) : Text :=
  Text.ofString message

/-- A message about an operand. -/
def messageOf (message : String) (operand : Text) : Text :=
  Text.ofString message ++ ' ' :: Text.quoted operand

/-- The letters of the options among some operands, and the operands that are none. A double hyphen
ends the options. -/
def splitOptions : List Text → List Char × List Text
  | [] => ([], [])
  | ['-', '-'] :: rest => ([], rest)
  | ('-' :: c :: letters) :: rest =>
    let (more, operands) := splitOptions rest
    ((c :: letters) ++ more, operands)
  | operand :: rest =>
    let (letters, operands) := splitOptions rest
    (letters, operand :: operands)

/-! ## Paths -/

/-- The last name of a path. -/
def lastName (path : Text) : Text :=
  let trimmed := (path.reverse.dropWhile (· = '/')).reverse
  if trimmed.isEmpty then path.take 1
  else (trimmed.reverse.takeWhile (· ≠ '/')).reverse

/-- A text without an ending, unless it is nothing else. -/
def withoutEnding (ending text : Text) : Text :=
  if ending.isSuffixOf text && text.length ≠ ending.length then
    text.take (text.length - ending.length)
  else text

/-- The last name of a path without an ending. -/
def basename : List Text → Result
  | [] => .misused "basename" (message "missing operand")
  | [path] => .ok (lastName path ++ ['\n'])
  | [path, ending] => .ok (withoutEnding ending (lastName path) ++ ['\n'])
  | _ :: _ :: extra :: _ => .misused "basename" (messageOf "extra operand" extra)

/-- The directory in which the last name of a path stands. -/
def directoryName (path : Text) : Text :=
  let trimmed := (path.reverse.dropWhile (· = '/')).dropWhile (· ≠ '/')
  let directory := (trimmed.dropWhile (· = '/')).reverse
  if directory.isEmpty then (if path.head? = some '/' then ['/'] else ['.']) else directory

/-- The directories of paths. -/
def dirname : List Text → Result
  | [] => .misused "dirname" (message "missing operand")
  | paths => .ok (paths.flatMap fun path => directoryName path ++ ['\n'])

/-! ## Numbers -/

/-- The numbers from a first to a last one, as many as `fuel`. -/
def steps (last step : Int) : Nat → Int → List Int
  | 0, _ => []
  | fuel + 1, n =>
    if (step > 0 ∧ n > last) ∨ (step < 0 ∧ n < last) then []
    else n :: steps last step fuel (n + step)

/-- A sequence of integers, each on a line. -/
def seq (operands : List Text) : Result :=
  match operands.mapM Text.int? with
  | none =>
    let wrong := (operands.find? fun operand => (Text.int? operand).isNone).getD []
    .misused "seq" (messageOf "invalid floating point argument:" wrong)
  | some [] => .misused "seq" (message "missing operand")
  | some [last] => .ok (run 1 1 last)
  | some [first, last] => .ok (run first 1 last)
  | some [first, step, last] =>
    if step = 0 then .misused "seq" (messageOf "invalid Zero increment value:" ['0'])
    else .ok (run first step last)
  | some _ => .misused "seq" (messageOf "extra operand" (operands.getD 3 []))
where
  run (first step last : Int) : Text :=
    (steps last step ((last - first).natAbs / step.natAbs + 1) first).flatMap fun n =>
      Text.ofInt n ++ ['\n']

/-- A text in a field of some width, at its right end. -/
def rightAligned (width : Nat) (text : Text) : Text :=
  List.replicate (width - text.length) ' ' ++ text

/-- The number of words in a text. -/
def wordCount (text : Text) : Nat :=
  ((text.splitBy fun a b => isSpace a = isSpace b).filter fun run =>
    run.head?.any (!isSpace ·)).length
where
  isSpace (c : Char) : Bool :=
    c = ' ' || (9 ≤ c.toNat && c.toNat ≤ 13)

/-- The counts of lines, words and bytes of a text that are asked for. -/
def counts (options : Text) (text : Text) : List Nat :=
  let wanted := if options.isEmpty then ['l', 'w', 'c'] else options
  (if wanted.contains 'l' then [text.count '\n'] else []) ++
    (if wanted.contains 'w' then [wordCount text] else []) ++
    (if wanted.contains 'c' then [text.length] else [])

/-- The counts of an input without a name, as `wc` writes them. -/
def countLine (options : Text) (text : Text) : Text :=
  match counts options text with
  | [n] => Text.ofNat n ++ ['\n']
  | ns => Text.joined [' '] (ns.map fun n => rightAligned 7 (Text.ofNat n)) ++ ['\n']

/-! ## Beginnings and ends -/

/-- How much of a text is wanted. -/
inductive Amount where
  | lines (count : Nat)
  | bytes (count : Nat)
  /-- What begins with the line of a number. -/
  | fromLine (number : Nat)

/-- The amount that options name, and the operands after them. -/
def amount? (program : String) : List Text → Except Text (Amount × List Text)
  | ['-', 'n'] :: count :: rest => lines count rest
  | ['-', 'c'] :: count :: rest => bytes count rest
  | ('-' :: 'n' :: count) :: rest => lines count rest
  | ('-' :: 'c' :: count) :: rest => bytes count rest
  | ('-' :: c :: count) :: rest =>
    if c.isDigit then lines (c :: count) rest
    else .error (message ("invalid option -- '" ++ String.singleton c ++ "'\nTry '" ++ program ++
      " --help' for more information."))
  | rest => .ok (.lines 10, rest)
where
  lines (count : Text) (rest : List Text) : Except Text (Amount × List Text) :=
    match count with
    | '+' :: number =>
      match Text.nat? number with
      | some n => .ok (if program = "tail" then .fromLine n else .lines n, rest)
      | none => .error (messageOf "invalid number of lines:" count)
    | count =>
      match Text.nat? count with
      | some n => .ok (.lines n, rest)
      | none => .error (messageOf "invalid number of lines:" count)
  bytes (count : Text) (rest : List Text) : Except Text (Amount × List Text) :=
    match Text.nat? count with
    | some n => .ok (.bytes n, rest)
    | none => .error (messageOf "invalid number of bytes:" count)

/-- The beginning of a text. -/
def beginning (amount : Amount) (text : Text) : Text :=
  match amount with
  | .lines n => ((Text.lines text).take n).flatten
  | .bytes n => text.take n
  | .fromLine _ => text

/-- The end of a text. -/
def ending (amount : Amount) (text : Text) : Text :=
  match amount with
  | .lines n =>
    let lines := Text.lines text
    (lines.drop (lines.length - n)).flatten
  | .bytes n => text.drop (text.length - n)
  | .fromLine n => ((Text.lines text).drop (n - 1)).flatten

/-! ## Characters -/

/-- The characters of a class. -/
def charClass : String → Text
  | "lower" => chars 97 26
  | "upper" => chars 65 26
  | "digit" => chars 48 10
  | "alpha" => chars 65 26 ++ chars 97 26
  | "alnum" => chars 48 10 ++ chars 65 26 ++ chars 97 26
  | "space" => chars 9 5 ++ [' ']
  | "blank" => ['\t', ' ']
  | "punct" => chars 33 15 ++ chars 58 7 ++ chars 91 6 ++ chars 123 4
  | _ => []
where
  chars (first count : Nat) : Text :=
    (List.range count).map fun n => Char.ofNat (first + n)

/-- The characters with those that a backslash stands before replaced; `fuel` is their number. -/
def unescaped : Nat → Text → Text
  | 0, _ => []
  | fuel + 1, '\\' :: c :: rest =>
    match c with
    | 'n' => '\n' :: unescaped fuel rest
    | 't' => '\t' :: unescaped fuel rest
    | 'r' => '\r' :: unescaped fuel rest
    | c =>
      let digits := ((c :: rest).take 3).takeWhile fun c => '0' ≤ c && c ≤ '7'
      if digits.isEmpty then c :: unescaped fuel rest
      else
        Char.ofNat (digits.foldl (fun n c => n * 8 + (c.toNat - '0'.toNat)) 0 % 256) ::
          unescaped fuel ((c :: rest).drop digits.length)
  | fuel + 1, c :: rest => c :: unescaped fuel rest
  | _, [] => []

/-- The characters of a set with ranges and classes; `fuel` is its length. -/
def charSet : Nat → Text → Text
  | 0, _ => []
  | fuel + 1, '[' :: ':' :: rest =>
    charClass (String.ofList (rest.takeWhile (· ≠ ':'))) ++
      charSet fuel ((rest.dropWhile (· ≠ ':')).drop 2)
  | fuel + 1, low :: '-' :: high :: rest =>
    ((List.range (high.toNat + 1)).drop low.toNat).map Char.ofNat ++ charSet fuel rest
  | fuel + 1, c :: rest => c :: charSet fuel rest
  | _, [] => []

/-- The characters that an operand of `tr` names. -/
def setOf (operand : Text) : Text :=
  let chars := unescaped operand.length operand
  charSet chars.length chars

/-- A character replaced by the one in its place in another set, whose last one goes on. -/
def translated (source target : Text) (c : Char) : Char :=
  match source.idxOf? c with
  | some place => target.getD place (target.getLastD c)
  | none => c

/-- A text in which repeated characters of a set stand once. -/
def squeezed (set : Text) : Text → Text
  | [] => []
  | c :: rest =>
    match squeezed set rest with
    | d :: more => if c = d && set.contains c then d :: more else c :: d :: more
    | [] => [c]

/-- Replaces, deletes or squeezes characters. -/
def tr (operands : List Text) (input : Text) : Result :=
  let flags := (operands.takeWhile fun operand =>
    operand.head? = some '-' ∧ operand.length > 1).flatten.filter (· ≠ '-')
  let sets := operands.dropWhile fun operand => operand.head? = some '-' ∧ operand.length > 1
  let inFirst (set : Text) (c : Char) : Bool :=
    set.contains c != (flags.contains 'c' || flags.contains 'C')
  match sets.map setOf with
  | [] => .misused "tr" (message "missing operand")
  | [set] =>
    if flags.contains 'd' then .ok (input.filter (!inFirst set ·))
    else if flags.contains 's' then .ok (squeezed set input)
    else
      .misused "tr" (messageOf "missing operand after" (sets.getD 0 []) ++
        message "\nTwo strings must be given when translating.")
  | source :: target :: _ =>
    let replaced :=
      if flags.contains 'c' || flags.contains 'C' then
        input.map fun c => if source.contains c then c else target.getLastD c
      else input.map (translated source target)
    .ok (if flags.contains 's' then squeezed target replaced else replaced)

end Filter

end Invocation.Shell

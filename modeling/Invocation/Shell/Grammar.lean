import Invocation.Shell.Token

/-!
# Reading scripts

The grammar of lists, pipelines, compound and simple commands over the tokens of a script. A script
is read one complete command at a time, so that what stands before a fault is still run.
-/

namespace Invocation.Shell

/-- The state of a reader. -/
structure Reading where
  rest : List Char
  /-- A token that was read but not used. -/
  ahead : Option Token
  /-- The number of line ends in the whole script. -/
  lineEnds : Nat

/-- The number of the line that is being read. -/
def Reading.line (reading : Reading) : Nat :=
  reading.lineEnds - reading.rest.count '\n' + 1

/-- The state at the start of a script. -/
def Reading.ofText (text : List Char) : Reading :=
  ⟨text, none, text.count '\n'⟩

/-- A step of a reader. After a fault its state tells where the fault is. -/
abbrev Reader (α : Type) := ExceptT SyntaxFault (StateM Reading) α

namespace Reader

/-! ## Tokens -/

/-- The next token. -/
def raw : Reader Token := do
  let reading ← get
  match reading.ahead with
  | some token =>
    set { reading with ahead := none }
    return token
  | none =>
    match Token.read reading.rest with
    | .ok (token, rest) =>
      set { reading with rest }
      return token
    | .error fault =>
      set { reading with rest := [] }
      throw fault

/-- The next token, a keyword if it is one. -/
def token : Reader Token := do
  return (← raw).asKeyword

/-- The next token after any line ends, a keyword if it is one; `fuel` bounds their number. -/
def tokenBelow : Nat → Reader Token
  | 0 => token
  | fuel + 1 => do
    match ← raw with
    | .newline => tokenBelow fuel
    | token => return token.asKeyword

/-- The next token after any line ends, a keyword if it is one. -/
def nextToken : Reader Token := do
  tokenBelow ((← get).rest.length + 1)

/-- Gives a token back. -/
def giveBack (token : Token) : Reader Unit :=
  modify fun reading => { reading with ahead := some token }

/-- Complains about a token, where another may have been expected. -/
def refuse {α : Type} (token : Token) (expected : Option String) : Reader α :=
  throw (.unexpected token.name expected)

/-- Takes a keyword. -/
def expectKeyword (name : String) (token : Token) : Reader Unit :=
  match token with
  | .keyword found => if found = name then pure () else refuse token (some ("\"" ++ name ++ "\""))
  | token => refuse token (some ("\"" ++ name ++ "\""))

/-- Takes an operator. -/
def expectOperator (name : String) (token : Token) : Reader Unit :=
  match token with
  | .operator found => if found = name then pure () else refuse token (some ("\"" ++ name ++ "\""))
  | token => refuse token (some ("\"" ++ name ++ "\""))

/-! ## Redirections -/

/-- The lines up to one that is a delimiter, and the text after that. -/
def documentLines (tabs : Bool) (delimiter : List Char) :
    Nat → List Char → List Char × List Char
  | 0, text => ([], text)
  | _, [] => ([], [])
  | fuel + 1, text =>
    let line := (text.takeWhile (· ≠ '\n'))
    let rest := (text.dropWhile (· ≠ '\n'))
    let line := if tabs then line.dropWhile (· = '\t') else line
    if line = delimiter then ([], rest.drop 1)
    else
      let (more, after) := documentLines tabs delimiter fuel (rest.drop 1)
      (line ++ rest.take 1 ++ more, after)

/-- The text of a word whose quotes are taken away, and whether it had any. -/
def delimiterText : Word → List Char × Bool
  | [] => ([], false)
  | .text quoted cs :: rest =>
    let (more, other) := delimiterText rest
    (cs ++ more, quoted || other)
  | _ :: rest => delimiterText rest

/-- Takes the text that begins on the next line out of the script. -/
def document (tabs : Bool) (delimiter : Word) : Reader Word := do
  let reading ← get
  let (name, quoted) := delimiterText delimiter
  let line := reading.rest.takeWhile (· ≠ '\n')
  let below := (reading.rest.dropWhile (· ≠ '\n')).drop 1
  let (body, after) := documentLines tabs name (below.length + 1) below
  set { reading with rest := line ++ (if below.isEmpty then [] else '\n' :: after) }
  if quoted then return [.text true body]
  let (parts, _) ← readWord (body.length + 1) .document body
  return parts

/-- The redirection of an operator, whose target follows. -/
def redirection (descriptor : Option Nat) (operator : String) : Reader Redirection := do
  let input := descriptor.getD 0
  let output := descriptor.getD 1
  match ← raw with
  | .word target =>
    match operator with
    | "<" => return .file input .read target
    | "<>" => return .file input .read target
    | ">" => return .file output .write target
    | ">|" => return .file output .write target
    | ">>" => return .file output .append target
    | "<&" => copy input target
    | ">&" => copy output target
    | "<<-" => return .document input (← document true target)
    | _ => return .document input (← document false target)
  | token => refuse token none
where
  copy (descriptor : Nat) (target : Word) : Reader Redirection :=
    match plainText? target with
    | some [c] =>
      if c.isDigit || c = '-' then pure (.copy descriptor target) else throw .badDescriptor
    | some _ => throw .badDescriptor
    | none => pure (.copy descriptor target)

/-- The redirections that follow; `fuel` bounds their number. -/
def redirections : Nat → Reader (List Redirection)
  | 0 => return []
  | fuel + 1 => do
    match ← token with
    | .redirection descriptor operator =>
      let first ← redirection descriptor operator
      return first :: (← redirections fuel)
    | token =>
      giveBack token
      return []

/-! ## Simple commands -/

/-- The name and the value of a word that is an assignment. -/
def assignment? : Word → Option (List Char × Word)
  | .text false cs :: rest =>
    let name := cs.takeWhile (· ≠ '=')
    match cs.dropWhile (· ≠ '=') with
    | '=' :: value =>
      if isName name then
        some (name, if value.isEmpty then rest else .text false value :: rest)
      else none
    | _ => none
  | _ => none

/-- The special built-in utilities, whose names no function can have. -/
def specialNames : List String := [
  ".", ":", "break", "continue", "eval", "exec", "exit", "export", "readonly", "return", "set",
  "shift", "times", "trap", "unset"]

/-- A simple command, or the definition of a function, of which some words are read; `body` reads
the body of a function. -/
def simpleFrom (line : Nat) (body : Reader Script) :
    Nat → List (List Char × Word) → List Word → List Redirection → Reader Script
  | 0, assignments, words, redirections =>
    return .simple line assignments words redirections
  | fuel + 1, assignments, words, redirections => do
    match ← raw with
    | .word parts =>
      match words, assignment? parts with
      | [], some assignment =>
        simpleFrom line body fuel (assignments ++ [assignment]) words redirections
      | _, _ => simpleFrom line body fuel assignments (words ++ [parts]) redirections
    | .redirection descriptor operator =>
      let next ← redirection descriptor operator
      simpleFrom line body fuel assignments words (redirections ++ [next])
    | .operator "(" =>
      match assignments, words, redirections with
      | [], [name], [] =>
        let closing ← raw
        expectOperator ")" closing
        match plainText? name with
        | some name =>
          if !isName name || String.ofList name ∈ specialNames then throw .badFunctionName
          return .function name (← body)
        | none => throw .badFunctionName
      | _, _, _ =>
        giveBack (.operator "(")
        return .simple line assignments words redirections
    | token =>
      giveBack token
      return .simple line assignments words redirections

/-! ## Compound commands -/

/-- How far a list goes. -/
inductive Extent where
  /-- To the end of the line. -/
  | line
  /-- To a token that ends a list, of which there is at least one command. -/
  | some
  /-- To a token that ends a list. -/
  | any
  deriving DecidableEq

/-- Two scripts one after the other. -/
def joined : Script → Script → Script
  | .nothing, second => second
  | first, second => .sequence first second

/-- The words up to the end of a loop's header; `fuel` bounds their number. -/
def loopItems : Nat → Reader (List Word)
  | 0 => return []
  | fuel + 1 => do
    match ← raw with
    | .word item => return item :: (← loopItems fuel)
    | .newline => return []
    | .operator ";" => return []
    | token => refuse token none

/-- The word that a token is where only a word may stand. -/
def wordOf : Token → Word
  | .word parts => parts
  | .keyword name => [.text false name.toList]
  | _ => []

/-- The patterns of a branch, the first of which is given; `fuel` bounds their number. -/
def patterns : Nat → Token → Reader (List Word)
  | 0, _ => return []
  | fuel + 1, first => do
    match ← raw with
    | .operator "|" => return wordOf first :: (← patterns fuel (← raw))
    | token =>
      expectOperator ")" token
      return [wordOf first]

mutual

/-- A list of commands. -/
def list (fuel : Nat) (extent : Extent) (before : Script) : Reader Script :=
  match fuel with
  | 0 => return before
  | fuel + 1 => do
    let first ← if extent = .line then token else nextToken
    match first with
    | .finish =>
      giveBack .finish
      return before
    | .newline => return before
    | first =>
      giveBack first
      if extent = .any && first.endsList then return before
      let rest := if extent = .line then Extent.line else .any
      let body ← andOr fuel
      match ← raw with
      | .operator "&" => list fuel rest (joined before (.background body))
      | .operator ";" => list fuel rest (joined before body)
      | .newline =>
        giveBack .newline
        list fuel rest (joined before body)
      | .finish =>
        giveBack .finish
        return joined before body
      | token =>
        if extent = .line then refuse token none
        giveBack token
        return joined before body

/-- Pipelines joined by `&&` and `||`. -/
def andOr (fuel : Nat) : Reader Script :=
  match fuel with
  | 0 => return .nothing
  | fuel + 1 => do
    andOrAfter fuel (← pipeline fuel)

/-- The pipelines after the first ones. -/
def andOrAfter (fuel : Nat) (first : Script) : Reader Script :=
  match fuel with
  | 0 => return first
  | fuel + 1 => do
    match ← raw with
    | .operator "&&" =>
      giveBack (← nextToken)
      andOrAfter fuel (.both first (← pipeline fuel))
    | .operator "||" =>
      giveBack (← nextToken)
      andOrAfter fuel (.either first (← pipeline fuel))
    | token =>
      giveBack token
      return first

/-- Commands joined by `|`. -/
def pipeline (fuel : Nat) : Reader Script :=
  match fuel with
  | 0 => return .nothing
  | fuel + 1 => do
    match ← raw with
    | .keyword "!" =>
      giveBack (← token)
      return .negated (← stages fuel)
    | first =>
      giveBack first
      stages fuel

/-- The stages of a pipeline. -/
def stages (fuel : Nat) : Reader Script :=
  match fuel with
  | 0 => return .nothing
  | fuel + 1 => do
    let first ← command fuel
    match ← stagesAfter fuel with
    | [] => return first
    | more => return .pipeline (first :: more)

/-- The stages after the first one. -/
def stagesAfter (fuel : Nat) : Reader (List Script) :=
  match fuel with
  | 0 => return []
  | fuel + 1 => do
    match ← raw with
    | .operator "|" =>
      giveBack (← nextToken)
      let stage ← command fuel
      return stage :: (← stagesAfter fuel)
    | token =>
      giveBack token
      return []

/-- A command. -/
def command (fuel : Nat) : Reader Script :=
  match fuel with
  | 0 => return .nothing
  | fuel + 1 => do
    let line := (← get).line
    match ← raw with
    | .keyword "if" => redirectable (← conditional fuel)
    | .keyword "while" => redirectable (← loop fuel false)
    | .keyword "until" => redirectable (← loop fuel true)
    | .keyword "for" => redirectable (← each fuel)
    | .keyword "case" => redirectable (← choice fuel)
    | .keyword "\x7b" =>
      let body ← list fuel .some .nothing
      expectKeyword "\x7d" (← token)
      redirectable body
    | .operator "(" =>
      let body ← list fuel .some .nothing
      expectOperator ")" (← token)
      redirectable (.subshell body)
    | .keyword name => refuse (.keyword name) none
    | .word parts =>
      giveBack (.word parts)
      simple fuel line
    | .redirection descriptor operator =>
      giveBack (.redirection descriptor operator)
      simple fuel line
    | token => refuse token none
where
  redirectable (body : Script) : Reader Script := do
    match ← redirections ((← get).rest.length + 1) with
    | [] => return body
    | changes => return .redirected body changes

/-- A simple command. -/
def simple (fuel : Nat) (line : Nat) : Reader Script :=
  match fuel with
  | 0 => return .nothing
  | fuel + 1 => do
    simpleFrom line (do giveBack (← nextToken); command fuel) ((← get).rest.length + 2) [] [] []

/-- The conditional whose test follows. -/
def conditional (fuel : Nat) : Reader Script :=
  match fuel with
  | 0 => return .nothing
  | fuel + 1 => do
    let test ← list fuel .some .nothing
    expectKeyword "then" (← token)
    let yes ← list fuel .some .nothing
    match ← token with
    | .keyword "elif" => return .conditional test yes (← conditional fuel)
    | .keyword "else" =>
      let no ← list fuel .some .nothing
      expectKeyword "fi" (← token)
      return .conditional test yes no
    | token =>
      expectKeyword "fi" token
      return .conditional test yes .nothing

/-- The loop whose test follows. -/
def loop (fuel : Nat) (untilHolds : Bool) : Reader Script :=
  match fuel with
  | 0 => return .nothing
  | fuel + 1 => do
    let test ← list fuel .some .nothing
    expectKeyword "do" (← token)
    let body ← list fuel .some .nothing
    expectKeyword "done" (← token)
    return .loop untilHolds test body

/-- The loop over words whose variable follows. -/
def each (fuel : Nat) : Reader Script :=
  match fuel with
  | 0 => return .nothing
  | fuel + 1 => do
    let .word parts ← raw | throw .badLoopVariable
    let some name := plainText? parts | throw .badLoopVariable
    if !isName name then throw .badLoopVariable
    let items ←
      match ← nextToken with
      | .keyword "in" => some <$> loopItems ((← get).rest.length + 1)
      | .operator ";" => pure none
      | token => do
        giveBack token
        pure none
    expectKeyword "do" (← nextToken)
    let body ← list fuel .some .nothing
    expectKeyword "done" (← token)
    return .each name items body

/-- The choice whose subject follows. -/
def choice (fuel : Nat) : Reader Script :=
  match fuel with
  | 0 => return .nothing
  | fuel + 1 => do
    match ← raw with
    | .word subject =>
      expectKeyword "in" (← nextToken)
      return .choice subject (← branches fuel)
    | token => refuse token (some "word")

/-- The branches of a choice. -/
def branches (fuel : Nat) : Reader (List (List Word × Script)) :=
  match fuel with
  | 0 => return []
  | fuel + 1 => do
    match ← nextToken with
    | .keyword "esac" => return []
    | first =>
      let first ←
        match first with
        | .operator "(" => raw
        | first => pure first
      let patterns ← patterns ((← get).rest.length + 2) first
      let body ← list fuel .any .nothing
      match ← nextToken with
      | .keyword "esac" => return [(patterns, body)]
      | token =>
        expectOperator ";;" token
        return (patterns, body) :: (← branches fuel)

end

/-- The next complete command, nothing at the end of the script. -/
def completeCommand : Reader (Option Script) := do
  let reading ← get
  let first ← token
  match first with
  | .finish => return none
  | first =>
    giveBack first
    return some (← list (8 * reading.rest.length + 16) .line .nothing)

end Reader

end Invocation.Shell

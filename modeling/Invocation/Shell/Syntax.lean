/-!
# Shell scripts

The parts of words and the forms of commands. A text is a list of characters below 256, one for each
byte. A script that stands in a word for its output is kept as it is written and is read when it is
run.
-/

namespace Invocation.Shell

/-- What a parameter's word is for, where the parameter has no value. -/
inductive Fallback where
  /-- The word stands for the value. -/
  | use
  /-- The word becomes the value. -/
  | assign
  /-- The word is the message of an error. -/
  | fail
  /-- The word stands for the value of a parameter that has one. -/
  | replace
  deriving DecidableEq, Repr

/-- A part of a word. What is `quoted` is not split into fields. -/
inductive Part where
  | text (quoted : Bool) (cs : List Char)
  /-- The value of a parameter. -/
  | value (quoted : Bool) (name : List Char)
  /-- The length of a parameter's value. -/
  | size (quoted : Bool) (name : List Char)
  /-- A parameter with a fallback, for an empty value too if `orEmpty`. -/
  | fallback (quoted : Bool) (name : List Char) (orEmpty : Bool) (kind : Fallback)
    (word : List Part)
  /-- The value of a parameter without what matches a pattern at one end. -/
  | trimmed (quoted : Bool) (name : List Char) (atEnd longest : Bool) (pattern : List Part)
  /-- The output of a script. -/
  | output (quoted : Bool) (script : List Char)
  /-- The value of an arithmetic expression. -/
  | number (quoted : Bool) (expression : List Part)
  /-- A parameter expression of no known form. -/
  | bad
  deriving Inhabited

/-- A word. -/
abbrev Word := List Part

/-- How a file is opened. -/
inductive Mode where
  | read
  | write
  | append
  deriving DecidableEq, Repr

/-- A change of a descriptor. -/
inductive Redirection where
  | file (descriptor : Nat) (mode : Mode) (target : Word)
  | copy (descriptor : Nat) (target : Word)
  /-- The descriptor reads a text that stands in the script. -/
  | document (descriptor : Nat) (body : Word)
  deriving Inhabited

/-- A script. -/
inductive Script where
  | nothing
  | simple (line : Nat) (assignments : List (List Char × Word)) (words : List Word)
    (redirections : List Redirection)
  | sequence (first second : Script)
  | background (body : Script)
  | both (first second : Script)
  | either (first second : Script)
  | negated (body : Script)
  | pipeline (stages : List Script)
  | subshell (body : Script)
  | conditional (test yes no : Script)
  /-- A loop that ends when its test fails, or with `untilHolds` when it holds. -/
  | loop (untilHolds : Bool) (test body : Script)
  /-- A loop over words, those of the positional parameters if none are given. -/
  | each (name : List Char) (items : Option (List Word)) (body : Script)
  | choice (subject : Word) (branches : List (List Word × Script))
  | function (name : List Char) (body : Script)
  | redirected (body : Script) (redirections : List Redirection)
  deriving Inhabited

/-- Where a script breaks the grammar. -/
inductive SyntaxFault where
  | unexpected (token : String) (expected : Option String)
  | unterminatedQuote
  | unterminatedBackquote
  | missingBrace
  | missingParentheses
  | badLoopVariable
  | badFunctionName
  | badDescriptor
  deriving DecidableEq, Repr

/-- The wording of a fault. -/
def SyntaxFault.message : SyntaxFault → String
  | .unexpected token none => token ++ " unexpected"
  | .unexpected token (some expected) => token ++ " unexpected (expecting " ++ expected ++ ")"
  | .unterminatedQuote => "Unterminated quoted string"
  | .unterminatedBackquote => "EOF in backquote substitution"
  | .missingBrace => "Missing '\x7d'"
  | .missingParentheses => "Missing '))'"
  | .badLoopVariable => "Bad for loop variable"
  | .badFunctionName => "Bad function name"
  | .badDescriptor => "Bad fd number"

/-- A character of a name. -/
def isNameChar (c : Char) : Bool :=
  c.isAlphanum || c = '_'

/-- The name of a variable. -/
def isName : List Char → Bool
  | [] => false
  | c :: rest => (isNameChar c && !c.isDigit) && rest.all isNameChar

end Invocation.Shell

import Invocation.Shell.Words

/-!
# Tokens

The tokens of a script: operators, line ends, redirections and words. A word is also a keyword where
one may stand and nothing in it is quoted.
-/

namespace Invocation.Shell

/-- A token. -/
inductive Token where
  | finish
  | newline
  | operator (name : String)
  /-- A redirection by its operator, with the descriptor in front of it if there is one. -/
  | redirection (descriptor : Option Nat) (operator : String)
  | word (word : Word)
  | keyword (name : String)
  deriving Inhabited

namespace Token

/-- The words with a meaning of their own. -/
def keywords : List String := [
  "!", "case", "do", "done", "elif", "else", "esac", "fi", "for", "if", "in", "then", "until",
  "while", "\x7b", "\x7d"]

/-- The name of a token in a complaint. -/
def name : Token → String
  | finish => "end of file"
  | newline => "newline"
  | operator name => "\"" ++ name ++ "\""
  | redirection .. => "redirection"
  | word _ => "word"
  | keyword name => "\"" ++ name ++ "\""

/-- A word as a keyword, if it is one. -/
def asKeyword : Token → Token
  | word parts =>
    match plainText? parts with
    | some cs =>
      if String.ofList cs ∈ keywords then keyword (String.ofList cs) else word parts
    | none => word parts
  | token => token

/-- The tokens after which no further command of a list can stand. -/
def endsList : Token → Bool
  | finish => true
  | operator name => name ∈ [")", ";;"]
  | keyword name => name ∈ ["do", "done", "elif", "else", "esac", "fi", "then", "\x7d"]
  | _ => false

/-- The text without the blanks, continued lines and the comment at its start. -/
def skipBlanks : List Char → List Char
  | ' ' :: rest => skipBlanks rest
  | '\t' :: rest => skipBlanks rest
  | '\\' :: '\n' :: rest => skipBlanks rest
  | '#' :: rest => rest.dropWhile (· ≠ '\n')
  | text => text

/-- The operator of a redirection at the start of a text, and the text after it. -/
def redirectionOperator? : List Char → Option (String × List Char)
  | '<' :: '<' :: '-' :: rest => some ("<<-", rest)
  | '<' :: '<' :: rest => some ("<<", rest)
  | '<' :: '&' :: rest => some ("<&", rest)
  | '<' :: '>' :: rest => some ("<>", rest)
  | '<' :: rest => some ("<", rest)
  | '>' :: '>' :: rest => some (">>", rest)
  | '>' :: '&' :: rest => some (">&", rest)
  | '>' :: '|' :: rest => some (">|", rest)
  | '>' :: rest => some (">", rest)
  | _ => none

/-- A redirection at the start of a text. -/
def redirection? : List Char → Option (Taken Token)
  | [] => none
  | c :: rest =>
    if c.isDigit then
      (redirectionOperator? rest).map fun (sign, rest) =>
        (redirection (some (c.toNat - '0'.toNat)) sign, rest)
    else
      (redirectionOperator? (c :: rest)).map fun (sign, rest) => (redirection none sign, rest)

/-- The first token of a text, and the text after it. -/
def read (text : List Char) : Except SyntaxFault (Taken Token) :=
  match skipBlanks text with
  | [] => .ok (finish, [])
  | '\n' :: rest => .ok (newline, rest)
  | '&' :: '&' :: rest => .ok (operator "&&", rest)
  | '&' :: rest => .ok (operator "&", rest)
  | '|' :: '|' :: rest => .ok (operator "||", rest)
  | '|' :: rest => .ok (operator "|", rest)
  | ';' :: ';' :: rest => .ok (operator ";;", rest)
  | ';' :: rest => .ok (operator ";", rest)
  | '(' :: rest => .ok (operator "(", rest)
  | ')' :: rest => .ok (operator ")", rest)
  | text =>
    match redirection? text with
    | some found => .ok found
    | none => (readWord (text.length + 1) .bare text).map fun (parts, rest) => (word parts, rest)

end Token

end Invocation.Shell

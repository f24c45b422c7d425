import Invocation.Shell.Arithmetic
import Invocation.Shell.Machine
import Invocation.Shell.Pattern

/-!
# Expanding words

What words become before they are used: parameters, outputs of scripts and arithmetic expressions
are replaced, and what was replaced outside quotes is split into fields.
-/

namespace Invocation.Shell

open Step

/-- An element of an expanded word. -/
inductive Item where
  /-- A character; `splits` if it was put in place of an expression outside quotes. -/
  | char (c : Char) (quoted splits : Bool)
  /-- A quoted text, so that there is a field even if it is empty. -/
  | mark
  /-- One field ends here and another begins. -/
  | cut

namespace Item

/-- A text in its place. -/
def ofText (quoted splits : Bool) (text : Text) : List Item :=
  (if quoted then [mark] else []) ++ text.map fun c => char c quoted splits

/-- The text of items. -/
def text (items : List Item) : Text :=
  items.filterMap fun item =>
    match item with
    | char c _ _ => some c
    | mark => none
    | cut => some ' '

/-- The items as characters of a pattern. -/
def marks (items : List Item) : List Mark :=
  items.filterMap fun item =>
    match item with
    | char c quoted _ => some ⟨c, quoted⟩
    | _ => none

/-- A separator that is a blank; a run of them separates once. -/
def isBlankSeparator (c : Char) : Bool :=
  c = ' ' || c = '\t' || c = '\n'

/-- The fields of items, the first of which may have begun. -/
def fieldsFrom (separators : Text) (current : Option Text) : List Item → List Text
  | [] => current.toList
  | mark :: rest => fieldsFrom separators (some (current.getD [])) rest
  | cut :: rest => current.toList ++ fieldsFrom separators none rest
  | char c _ splits :: rest =>
    if splits && separators.contains c then
      if isBlankSeparator c then current.toList ++ fieldsFrom separators none rest
      else current.getD [] :: fieldsFrom separators none rest
    else fieldsFrom separators (some (current.getD [] ++ [c])) rest

end Item

/-! ## Parameters -/

/-- The separators of fields. -/
def separators (e : Environment) : Text :=
  (e.value? ['I', 'F', 'S']).getD [' ', '\t', '\n']

/-- The letters of the options that are set. -/
def optionLetters (e : Environment) : Text :=
  (if e.failsFast then ['e'] else []) ++ (if e.strict then ['u'] else []) ++
    (if e.traced then ['x'] else [])

/-- The value of a parameter, if it is set. -/
def parameter? (e : Environment) (name : Text) : Option Text :=
  match name with
  | ['#'] => some (Text.ofNat e.parameters.length)
  | ['?'] => some (Text.ofNat e.status)
  | ['$'] => some (Text.ofNat e.shellPid)
  | ['-'] => some (optionLetters e)
  | ['!'] => e.jobs.getLast?.map fun job => Text.ofNat job.pid
  | ['0'] => some e.name
  | ['@'] => if e.parameters.isEmpty then none else some (Text.joined [' '] e.parameters)
  | ['*'] =>
    if e.parameters.isEmpty then none
    else some (Text.joined ((separators e).take 1) e.parameters)
  | name =>
    match Text.nat? name with
    | some n => e.parameters[n - 1]?
    | none => e.value? name

/-- The positional parameters, each a field of its own. -/
def parameterItems (quoted : Bool) : List Text → List Item
  | [] => []
  | [value] => Item.ofText quoted (!quoted) value
  | value :: rest => Item.ofText quoted (!quoted) value ++ .cut :: parameterItems quoted rest

/-- The value of a parameter; the shell is left if there is none and that is an error. -/
def valueOf (name : Text) : Step (Option Text) := do
  let e ← environment
  let value := parameter? e name
  if value.isNone && e.strict && name ∉ [['*'], ['@']] then
    abortScript [name, Text.ofString "parameter not set"]
  return value

/-- What stands for the value of a parameter. -/
def valueItems (quoted : Bool) (name : Text) : Step (List Item) := do
  let parameters := (← environment).parameters
  if name = ['@'] ∨ (name = ['*'] ∧ quoted = false) then return parameterItems quoted parameters
  match ← valueOf name with
  | some value => return Item.ofText quoted (!quoted) value
  | none => return Item.ofText quoted false []

/-! ## Words -/

/-- The value of an arithmetic expression. -/
def arithmeticValue (text : Text) : Step Int := do
  let e ← environment
  match Arithmetic.read text with
  | .error fault => abortScript [fault.message text]
  | .ok expression =>
    match Arithmetic.evaluate e.value? [] expression with
    | .error fault => abortScript [fault.message text]
    | .ok (value, assigned) =>
      modifyEnvironment fun e =>
        assigned.reverse.foldl (fun e (name, n) => e.assign name (Text.ofInt n)) e
      return value

/-- A text without the line feeds at its end. -/
def withoutLastLineFeeds (text : Text) : Text :=
  (text.reverse.dropWhile (· = '\n')).reverse

mutual

/-- What a part of a word becomes, where `outputOf` runs a script for its output. -/
def expandPart (outputOf : Text → Step Text) : Part → Step (List Item)
  | .text quoted cs => return Item.ofText quoted false cs
  | .value quoted name => valueItems quoted name
  | .size quoted name => do
    let value ← valueOf name
    let parameters := (← environment).parameters
    let size :=
      if name = ['@'] ∨ name = ['*'] then parameters.length else (value.getD []).length
    return Item.ofText quoted (!quoted) (Text.ofNat size)
  | .fallback quoted name orEmpty kind word => do
    let e ← environment
    let value := (parameter? e name).filter fun value => !orEmpty || !value.isEmpty
    match kind, value with
    | .replace, none => return Item.ofText quoted false []
    | .replace, some _ => return Item.ofText quoted false [] ++ (← expandParts outputOf word)
    | _, some _ => valueItems quoted name
    | .use, none => return Item.ofText quoted false [] ++ (← expandParts outputOf word)
    | .assign, none =>
      let text := Item.text (← expandParts outputOf word)
      modifyEnvironment (Environment.assign name text)
      return Item.ofText quoted (!quoted) text
    | .fail, none =>
      let text := Item.text (← expandParts outputOf word)
      abortScript [name, if text.isEmpty then Text.ofString "parameter not set" else text]
  | .trimmed quoted name atEnd longest pattern => do
    let value := (← valueOf name).getD []
    let marks := Item.marks (← expandParts outputOf pattern)
    return Item.ofText quoted (!quoted) (trimMatch atEnd longest (Glob.ofMarks marks) value)
  | .output quoted script => do
    return Item.ofText quoted (!quoted) (withoutLastLineFeeds (← outputOf script))
  | .number quoted expression => do
    let text := Item.text (← expandParts outputOf expression)
    return Item.ofText quoted (!quoted) (Text.ofInt (← arithmeticValue text))
  | .bad => abortScript [Text.ofString "Bad substitution"]

/-- What parts of a word become, one after the other. -/
def expandParts (outputOf : Text → Step Text) : List Part → Step (List Item)
  | [] => return []
  | part :: rest => do
    let first ← expandPart outputOf part
    return first ++ (← expandParts outputOf rest)

end

/-- What a word becomes; a tilde at its start stands for the home directory. -/
def expandItems (outputOf : Text → Step Text) (word : Word) : Step (List Item) := do
  match word with
  | .text false ('~' :: cs) :: rest =>
    let home := (← environment).value? ['H', 'O', 'M', 'E']
    match home, cs.head? with
    | some home, none => return Item.ofText true false home ++ (← expandParts outputOf rest)
    | some home, some '/' =>
      return Item.ofText true false (home ++ cs) ++ (← expandParts outputOf rest)
    | _, _ => expandParts outputOf word
  | word => expandParts outputOf word

/-- The fields of words. -/
def expandFields (outputOf : Text → Step Text) : List Word → Step (List Text)
  | [] => return []
  | word :: rest => do
    let items ← expandItems outputOf word
    let fields := Item.fieldsFrom (separators (← environment)) none items
    return fields ++ (← expandFields outputOf rest)

/-- The text of a word that is not split. -/
def expandText (outputOf : Text → Step Text) (word : Word) : Step Text := do
  return Item.text (← expandItems outputOf word)

/-- The pattern of a word. -/
def expandPattern (outputOf : Text → Step Text) (word : Word) : Step (List Glob) := do
  return Glob.ofMarks (Item.marks (← expandItems outputOf word))

end Invocation.Shell

import Invocation.Display.Handler
import Invocation.Display.Style
import Invocation.Failure

/-!
# Markup

Text with tags in brackets that style what stands between them. A tag begins with a lower-case
letter, `#`, `/` or `@`; backslashes in front of a tag make it plain text. `escape` writes a text so
that nothing in it is a tag.

A text with tags cannot be read if a tag is closed that is not open, if a tag names a colour whose parts
are no integers, or if a tag for a handler is closed whose parameters cannot be evaluated.
-/

namespace Invocation.Display

open Invocation.Number Invocation.Text

variable [Handlers]

/-- The controls that a terminal would act on rather than show; they are left out. -/
def isActed (c : Char) : Bool :=
  c.toNat ∈ [7, 8, 11, 12, 13]

/-- The characters that are shown. -/
def shownChars (cs : List Char) : List Char :=
  cs.filter (!isActed ·)

/-! ## Tokens -/

/-- The smallest parts of a text with tags. -/
inductive Token where
  | char (c : Char)
  /-- What looks like a tag, with the number of backslashes in front of it. -/
  | tag (backslashes : Nat) (body : List Char)
  deriving DecidableEq, Repr

/-- The characters that may begin a tag. -/
def opensTag (c : Char) : Bool :=
  ('a' ≤ c && c ≤ 'z') || c == '#' || c == '/' || c == '@'

/-- The characters up to the closing bracket, if no bracket opens before it, and those after it. -/
def closeTag? : List Char → Option (List Char × List Char)
  | [] => none
  | c :: rest =>
    if c = ']' then some ([], rest)
    else if c = '[' then none
    else (closeTag? rest).map fun (body, rest) => (c :: body, rest)

/-- The body of the tag that begins after an opening bracket, and what follows the tag. -/
def tagBody? : List Char → Option (List Char × List Char)
  | [] => none
  | c :: rest =>
    if opensTag c then (closeTag? rest).map fun (body, rest) => (c :: body, rest) else none

/-- The tag at the start of the characters, if there is one. -/
def tagAt? (cs : List Char) : Option (Token × List Char) :=
  match cs.dropWhile (· == '\\') with
  | '[' :: rest =>
    (tagBody? rest).map fun (body, rest) =>
      (.tag (cs.takeWhile (· == '\\')).length body, rest)
  | _ => none

/-- The tokens of a text; `fuel` bounds their number. -/
def tokensWithin : Nat → List Char → List Token
  | 0, _ => []
  | _, [] => []
  | fuel + 1, c :: rest =>
    match tagAt? (c :: rest) with
    | some (token, rest) => token :: tokensWithin fuel rest
    | none =>
      if c = '\\' then
        let more := rest.takeWhile (· == '\\')
        .char c :: more.map .char ++ tokensWithin fuel (rest.dropWhile (· == '\\'))
      else .char c :: tokensWithin fuel rest

/-- The tokens of a text. -/
def tokens (cs : List Char) : List Token :=
  tokensWithin cs.length cs

/-- The characters of a token. -/
def Token.chars : Token → List Char
  | .char c => [c]
  | .tag backslashes body => List.replicate backslashes '\\' ++ '[' :: body ++ [']']

/-! ## Escaping -/

/-- The characters of a token, written so that it is plain text. -/
def Token.escaped : Token → List Char
  | .char c => [c]
  | .tag backslashes body =>
    List.replicate (2 * backslashes + 1) '\\' ++ '[' :: body ++ [']']

/-- The characters with a backslash doubled that stands alone at the end. -/
def guardEnd (cs : List Char) : List Char :=
  match cs.reverse with
  | '\\' :: '\\' :: _ => cs
  | '\\' :: _ => cs ++ ['\\']
  | _ => cs

/-- A text written so that nothing in it is a tag. -/
def escapeChars (cs : List Char) : List Char :=
  guardEnd ((tokens cs).flatMap Token.escaped)

/-- A text written so that nothing in it is a tag. -/
def escape (s : String) : String :=
  String.ofList (escapeChars s.toList)

/-! ## Styled text -/

/-- A stretch of a text with a style, named. -/
structure Span where
  first : Nat
  stop : Nat
  style : String
  deriving DecidableEq, Repr

/-- A text and its styled stretches, later ones laid over earlier ones. -/
structure Styled where
  chars : List Char
  spans : List Span
  deriving DecidableEq, Repr

/-- A tag that has been opened: where, its normal name, and its parameters. -/
structure OpenTag where
  first : Nat
  name : String
  parameters : Option String
  deriving DecidableEq, Repr

/-- The style that an open tag names. -/
def OpenTag.style (tag : OpenTag) : String :=
  match tag.parameters with
  | none => tag.name
  | some parameters => tag.name ++ " " ++ parameters

/-- A text that is being read: its characters so far, the tags that are open, the last opened
first, and the stretches that are complete, the last completed first. -/
structure Reading where
  chars : List Char
  opened : List OpenTag
  closed : List Span

namespace Reading

/-- The stretch of an open tag that ends here. A tag for a handler has no style. -/
def spanOf (reading : Reading) (tag : OpenTag) : Span where
  first := tag.first
  stop := reading.chars.length
  style := if tag.name.toList.head? = some '@' then "" else tag.style

/-- The open tags without the last opened one of a name, and that one. -/
def takeTag? (name : String) : List OpenTag → Option (OpenTag × List OpenTag)
  | [] => none
  | tag :: rest =>
    if tag.name = name then some (tag, rest)
    else (takeTag? name rest).map fun (found, rest) => (found, tag :: rest)

/-- The body of a tag as a name and parameters. -/
def nameAndParameters (body : List Char) : String × Option String :=
  cut '=' (String.ofList body)

/-- What keeps a tag from being closed. Only the parameters of a tag for a handler are evaluated. -/
def closingFault? (tag : OpenTag) : Option MarkupFault :=
  if tag.name.toList.head? = some '@' then
    match tag.parameters with
    | none => none
    | some parameters =>
      if parameters = "" then none else (Handlers.fault? parameters).map .parameters
  else none

/-- Ends an open tag here, which leaves others open. -/
def endTag (tag : OpenTag) (others : List OpenTag) (reading : Reading) :
    Except MarkupFault Reading :=
  match closingFault? tag with
  | some fault => .error fault
  | none => .ok { reading with opened := others, closed := reading.spanOf tag :: reading.closed }

/-- The normal name of a tag, if its colours can be read. -/
def tagName (name : String) : Except MarkupFault String :=
  match Style.fault? name with
  | some fault => .error (.integer fault)
  | none => .ok (Style.normalName name)

/-- Reads a closing tag. -/
def close (position : Nat) (body : List Char) (name : String) (reading : Reading) :
    Except MarkupFault Reading :=
  if name = "" then
    match reading.opened with
    | [] => .error (.nothingOpen position)
    | tag :: rest => reading.endTag tag rest
  else do
    match takeTag? (← tagName name) reading.opened with
    | none => .error (.unopened (String.ofList ('[' :: body ++ [']'])) position)
    | some (tag, rest) => reading.endTag tag rest

/-- Reads a tag. -/
def tag (position : Nat) (body : List Char) (reading : Reading) : Except MarkupFault Reading :=
  let (name, parameters) := nameAndParameters body
  match name.toList with
  | '/' :: rest => reading.close position body (trim (String.ofList rest))
  | _ => do
    let opened := ⟨reading.chars.length, ← tagName name, parameters⟩ :: reading.opened
    return { reading with opened }

/-- Appends characters, as far as they are shown. -/
def append (cs : List Char) (reading : Reading) : Reading :=
  { reading with chars := reading.chars ++ shownChars cs }

/-- Reads the tokens from a position on. In plain text a backslash before a bracket is dropped, and
before a tag each two backslashes are one. -/
def run (position : Nat) (reading : Reading) : List Token → Except MarkupFault Reading
  | [] => .ok reading
  | .char '\\' :: .char '[' :: rest => run (position + 2) (reading.append ['[']) rest
  | .char c :: rest => run (position + 1) (reading.append [c]) rest
  | .tag backslashes body :: rest => do
    let next := position + (Token.tag backslashes body).chars.length
    let reading := reading.append (List.replicate (backslashes / 2) '\\')
    if backslashes % 2 = 1 then run next (reading.append ('[' :: body ++ [']'])) rest
    else run next (← reading.tag (position + backslashes) body) rest

/-- The text that was read; tags still open end with it. -/
def finish (reading : Reading) : Styled :=
  let spans := (reading.opened.map reading.spanOf).reverse ++ reading.closed
  { chars := reading.chars
    spans := spans.mergeSort fun a b => a.first ≤ b.first }

end Reading

/-- The styled text that a text with tags denotes. -/
def readMarkup (s : String) : Except MarkupFault Styled :=
  (Reading.run 0 ⟨[], [], []⟩ (tokens s.toList)).map Reading.finish

end Invocation.Display

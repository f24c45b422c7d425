import Invocation.Display.Markup
import Invocation.Display.Wrap

/-!
# The console

A console has a width, a theme, and either shows colours or not. Styled text is written as runs of
characters with one style; where colours are shown, the codes of the style stand around each run,
but never around a line feed.
-/

namespace Invocation.Display

open Invocation.Number Invocation.Text

/-- Where text is displayed. -/
structure Console where
  width : Nat
  colour : Bool
  theme : Theme
  deriving DecidableEq, Repr

/-- Characters with one style. -/
structure Segment where
  chars : List Char
  style : Style
  deriving DecidableEq, Repr

/-- A character and the stretches it stands in, by their numbers. -/
structure Glyph where
  char : Char
  spans : List Nat
  deriving DecidableEq, Repr

namespace Glyph

/-- A space in place of a glyph. -/
def blank (glyph : Glyph) : Glyph :=
  { glyph with char := ' ' }

/-- Characters in no stretch. -/
def ofChars (cs : List Char) : List Glyph :=
  cs.map fun c => ⟨c, []⟩

/-- The runs of glyphs that stand in the same stretches. -/
def runs : List Glyph → List (List Nat × List Char)
  | [] => []
  | glyph :: rest =>
    match runs rest with
    | (spans, cs) :: more =>
      if spans = glyph.spans then (spans, glyph.char :: cs) :: more
      else (glyph.spans, [glyph.char]) :: (spans, cs) :: more
    | [] => [(glyph.spans, [glyph.char])]

end Glyph

namespace Styled

/-- The numbers of the stretches that a place stands in. -/
def spansAt (text : Styled) (place : Nat) : List Nat :=
  (text.spans.zipIdx.filter fun (span, _) => span.first ≤ place && place < span.stop).map (·.2)

/-- The text as glyphs. -/
def glyphs (text : Styled) : List Glyph :=
  text.chars.zipIdx.map fun (c, place) => ⟨c, text.spansAt place⟩

/-- The style of what stands in some stretches. -/
def styleOf (theme : Theme) (text : Styled) (numbers : List Nat) : Style :=
  numbers.foldl
    (fun style number =>
      match text.spans[number]? with
      | some span => (Style.named theme span.style).under style
      | none => style)
    Style.plain

/-- A line of glyphs as segments. -/
def segments (theme : Theme) (text : Styled) (line : List Glyph) : List Segment :=
  (Glyph.runs line).map fun (numbers, cs) => ⟨cs, text.styleOf theme numbers⟩

/-- The first fault in the style of a stretch that something on a line stands in. -/
def lineFault? (theme : Theme) (text : Styled) (line : List Glyph) : Option IntegerFault :=
  text.spans.zipIdx.findSome? fun (span, number) =>
    if line.any (number ∈ ·.spans) then Style.namedFault? theme span.style else none

/-- Nothing, if the colours of all that stands on the lines of a text can be read. -/
def check (theme : Theme) (text : Styled) (lines : List (List Glyph)) : Except MarkupFault Unit :=
  match lines.findSome? (text.lineFault? theme) with
  | some fault => .error (.integer fault)
  | none => .ok ()

end Styled

/-! ## Painting -/

namespace Console

/-- The characters of a segment with the codes of its style around them. -/
def paint (console : Console) (segment : Segment) : List Char :=
  let codes := segment.style.codes
  if !console.colour || codes.isEmpty || segment.chars.isEmpty then segment.chars
  else
    '\x1b' :: '[' :: (join ";" codes).toList ++ 'm' :: segment.chars ++ ['\x1b', '[', '0', 'm']

/-- The characters of a line. -/
def paintLine (console : Console) (line : List Segment) : List Char :=
  line.flatMap console.paint

/-- Lines set off by line feeds. -/
def setOff : List (List Char) → List Char
  | [] => []
  | [line] => line
  | line :: rest => line ++ '\n' :: setOff rest

/-- Lines each ended by a line feed. -/
def ended (lines : List (List Char)) : List Char :=
  lines.flatMap (· ++ ['\n'])

/-- A text in one style, wrapped, without a line feed at its end. -/
def plainText (console : Console) (style : String) (text : String) : List Char :=
  if console.width = 0 then []
  else
    let lines := wrapText Glyph.char Glyph.blank console.width
      (Glyph.ofChars (shownChars text.toList))
    setOff (lines.map fun line =>
      console.paint ⟨line.map Glyph.char, Style.named console.theme style⟩)

/-- A text with tags as lines of segments, wrapped. -/
def wrapped (console : Console) (room : Nat) (text : Styled) : List (List Segment) :=
  (wrapText Glyph.char Glyph.blank room text.glyphs).map (text.segments console.theme)

/-- A text with tags as lines of segments, wrapped, if it can be shown. -/
def wrappedIfSound (console : Console) (room : Nat) (text : Styled) :
    Except MarkupFault (List (List Segment)) := do
  text.check console.theme (wrapText Glyph.char Glyph.blank room text.glyphs)
  return console.wrapped room text

variable [Handlers]

/-- A text with tags, wrapped. -/
def markedText (console : Console) (markup : String) : Except MarkupFault (List Char) := do
  let text ← readMarkup markup
  if console.width = 0 then return []
  return ended ((← console.wrappedIfSound console.width text).map console.paintLine)

/-- A text with tags, its lines as long as they are. -/
def unwrappedText (console : Console) (markup : String) : Except MarkupFault (List Char) := do
  let text ← readMarkup markup
  if console.width = 0 then return []
  let lines := splitLines Glyph.char text.glyphs
  text.check console.theme lines
  return ended (lines.map fun line => console.paintLine (text.segments console.theme line))

end Console

end Invocation.Display

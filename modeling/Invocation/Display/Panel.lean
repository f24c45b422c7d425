import Invocation.Display.Console

/-!
# Panels

Text inside a rounded border as wide as the console, with a title in the upper edge. Between the
border and the text there is a column on either side. A console too narrow for a title shows the
border alone.
-/

namespace Invocation.Display

open Invocation.Text

namespace Console

/-- The horizontal stroke of a border. -/
def stroke (count : Nat) : List Char :=
  List.replicate count '─'

/-- The segments of a panel's upper edge. -/
def upperEdge (console : Console) (title : String) (border : Style) : List Segment :=
  if console.width ≤ 4 then
    [⟨('╭' :: stroke (console.width - 2) ++ ['╮']).take console.width, border⟩]
  else
    let room := console.width - 4
    let name := truncate id (fun _ => ' ') room (' ' :: title.toList ++ [' '])
    let rest := room - Text.width name
    [⟨['╭', '─'], border⟩, ⟨name, border⟩, ⟨stroke rest, border⟩, ⟨['─', '╮'], border⟩]

/-- A line of a panel's text between the two sides. -/
def sideLine (border : Style) (room : Nat) (line : List Segment) : List Segment :=
  let used := Text.width (line.flatMap (·.chars))
  [⟨['│'], border⟩, ⟨[' '], Style.plain⟩] ++ line ++
    [⟨List.replicate (room - used) ' ', Style.plain⟩, ⟨[' '], Style.plain⟩, ⟨['│'], border⟩]

variable [Handlers]

/-- A text with tags in a panel with a title. -/
def panel (console : Console) (title : String) (borderStyle : String) (body : String) :
    Except MarkupFault (List Char) := do
  let border := Style.named console.theme borderStyle
  if console.width = 0 then return []
  let room := console.width - 4
  let lines ← if room = 0 then pure [] else do console.wrappedIfSound room (← readMarkup body)
  let lower : List Segment :=
    [⟨('╰' :: stroke (console.width - 2) ++ ['╯']).take console.width, border⟩]
  return ended <| List.map console.paintLine <|
    console.upperEdge title border :: lines.map (sideLine border room) ++ [lower]

end Console

end Invocation.Display

import Invocation.Text.Blank
import Invocation.Text.Cluster

/-!
# Wrapping lines

A line that is wider than the room for it is broken before words. Blanks belong to the word before
them and may stand beyond the edge. A word that is wider than the room is broken where the room
ends. Lines are lists of anything that stands for a character; where they are broken is decided on
the characters.
-/

namespace Invocation.Display

open Invocation.Text

/-! ## Words -/

/-- The words of a line, each with the blanks after it, the first also with those before it; `fuel`
bounds their number. A line of blanks has no words. -/
def wordsWithin : Nat → List Char → List (List Char)
  | 0, _ => []
  | fuel + 1, cs =>
    let lead := cs.takeWhile isBlank
    let rest := cs.dropWhile isBlank
    if rest.isEmpty then []
    else
      let body := rest.takeWhile (!isBlank ·)
      let after := rest.dropWhile (!isBlank ·)
      (lead ++ body ++ after.takeWhile isBlank) :: wordsWithin fuel (after.dropWhile isBlank)

/-- The words of a line. -/
def words (cs : List Char) : List (List Char) :=
  wordsWithin cs.length cs

/-- Clusters in lines of at most `room` cells, after a line that has begun. -/
def chopAfter (room : Nat) (line : List Char) (cells : Nat) : List Cluster → List (List Char)
  | [] => if cells = 0 then [] else [line]
  | cluster :: rest =>
    if room < cells + cluster.cells then
      line :: chopAfter room cluster.chars cluster.cells rest
    else chopAfter room (line ++ cluster.chars) (cells + cluster.cells) rest

/-- A word in pieces of at most `room` cells. -/
def chop (room : Nat) (word : List Char) : List (List Char) :=
  chopAfter room [] 0 (clusters word)

/-! ## Breaks -/

/-- The places where pieces start, the first at `start`; a line is not broken at its start. -/
def pieceStarts (start : Nat) : List (List Char) → List Nat
  | [] => []
  | piece :: rest =>
    (if start = 0 then [] else [start]) ++ pieceStarts (start + piece.length) rest

/-- The breaks before words from the one at `start`, where `used` cells of the line are filled. -/
def breaksFrom (room start used : Nat) : List (List Char) → List Nat
  | [] => []
  | word :: rest =>
    let next := start + word.length
    let needed := width (word.reverse.dropWhile isBlank).reverse
    if used + needed ≤ room then breaksFrom room next (used + width word) rest
    else if room < needed then
      let pieces := chop room word
      let last := (pieces.getLast?.map width).getD used
      pieceStarts start pieces ++ breaksFrom room next last rest
    else if used ≠ 0 ∧ start ≠ 0 then start :: breaksFrom room next (width word) rest
    else breaksFrom room next used rest

/-- The places where a line is broken. -/
def breaks (room : Nat) (cs : List Char) : List Nat :=
  breaksFrom room 0 0 (words cs)

/-- A list cut at places counted from the start of an enclosing list at `offset`. -/
def cutAt {α : Type} (offset : Nat) : List Nat → List α → List (List α)
  | [], xs => [xs]
  | place :: rest, xs => xs.take (place - offset) :: cutAt place rest (xs.drop (place - offset))

/-! ## Fitting -/

section Fitting

variable {α : Type} (charOf : α → Char)

/-- A line without the blanks at its end that lie beyond `room` places. -/
def trimBeyond (room : Nat) (line : List α) : List α :=
  let blanks := (line.reverse.takeWhile fun x => isBlank (charOf x)).length
  line.take (line.length - min blanks (line.length - room))

/-- The start of a line that fills `room` cells. A cluster that is cut in two leaves a space, made
by `space` from its first place. -/
def fill (space : α → α) (room : Nat) (line : List α) : List Cluster → List α
  | [] => []
  | cluster :: rest =>
    if room = 0 then []
    else if cluster.cells ≤ room then
      line.take cluster.chars.length ++
        fill space (room - cluster.cells) (line.drop cluster.chars.length) rest
    else (line.take 1).map space

/-- A line cut to `room` cells if it is wider. -/
def truncate (space : α → α) (room : Nat) (line : List α) : List α :=
  let cs := line.map charOf
  if width cs ≤ room then line else fill space room line (clusters cs)

/-- A line, without any line feed in it, in lines for `room` cells. -/
def wrapLine (space : α → α) (room : Nat) (line : List α) : List (List α) :=
  (cutAt 0 (breaks room (line.map charOf)) line).map fun part =>
    truncate charOf space room (trimBeyond charOf room part)

/-- The lines between line feeds; there is one more than there are line feeds. -/
def splitLines : List α → List (List α)
  | [] => [[]]
  | x :: rest =>
    if charOf x = '\n' then [] :: splitLines rest
    else
      match splitLines rest with
      | [] => [[x]]
      | line :: lines => (x :: line) :: lines

/-- A text in lines for `room` cells. -/
def wrapText (space : α → α) (room : Nat) (text : List α) : List (List α) :=
  (splitLines charOf text).flatMap (wrapLine charOf space room)

end Fitting

end Invocation.Display

/-!
# Patterns

Patterns over texts: `*` stands for any text, `?` for any character, and brackets for one of a set.
Quoted characters stand for themselves.
-/

namespace Invocation.Shell

/-- A character, and whether it was quoted. -/
structure Mark where
  char : Char
  quoted : Bool
  deriving DecidableEq

/-- A part of a pattern. -/
inductive Glob where
  | anyText
  | anyChar
  | exactly (c : Char)
  /-- A character in one of the ranges, or with `excluded` in none. -/
  | among (excluded : Bool) (ranges : List (Char × Char))

namespace Glob

/-- A mark is a character that is not quoted. -/
def isSign (c : Char) (mark : Mark) : Bool :=
  mark.char = c && !mark.quoted

/-- The ranges of a set, after its opening bracket, and what comes after its closing one. -/
def ranges? (first : Bool) : List Mark → Option (List (Char × Char) × List Mark)
  | [] => none
  | [mark] => if isSign ']' mark && !first then some ([], []) else none
  | mark :: dash :: rest =>
    if isSign ']' mark && !first then some ([], dash :: rest)
    else
      match rest with
      | high :: rest =>
        if isSign '-' dash && !isSign ']' high then
          (ranges? false rest).map fun (ranges, rest) => ((mark.char, high.char) :: ranges, rest)
        else
          (ranges? false (dash :: high :: rest)).map fun (ranges, rest) =>
            ((mark.char, mark.char) :: ranges, rest)
      | [] =>
        (ranges? false [dash]).map fun (ranges, rest) => ((mark.char, mark.char) :: ranges, rest)

/-- The set after an opening bracket, and what comes after it. -/
def set? : List Mark → Option (Glob × List Mark)
  | [] => none
  | mark :: rest =>
    if isSign '!' mark || isSign '^' mark then
      (ranges? true rest).map fun (ranges, rest) => (among true ranges, rest)
    else (ranges? true (mark :: rest)).map fun (ranges, rest) => (among false ranges, rest)

/-- The pattern that marked characters make up; `fuel` is their number. -/
def readWithin : Nat → List Mark → List Glob
  | 0, _ => []
  | _, [] => []
  | fuel + 1, mark :: rest =>
    if isSign '*' mark then anyText :: readWithin fuel rest
    else if isSign '?' mark then anyChar :: readWithin fuel rest
    else if isSign '[' mark then
      match set? rest with
      | some (glob, rest) => glob :: readWithin fuel rest
      | none => exactly '[' :: readWithin fuel rest
    else exactly mark.char :: readWithin fuel rest

/-- The pattern that marked characters make up. -/
def ofMarks (marks : List Mark) : List Glob :=
  readWithin marks.length marks

/-- A part that stands for one character stands for this one. -/
def accepts (c : Char) : Glob → Bool
  | anyText => false
  | anyChar => true
  | exactly d => c = d
  | among excluded ranges => excluded != ranges.any fun (low, high) => low ≤ c && c ≤ high

/-- A text matches a pattern as a whole. -/
def matchesText : List Glob → List Char → Bool
  | [], text => text.isEmpty
  | anyText :: rest, [] => matchesText rest []
  | anyText :: rest, c :: text => matchesText rest (c :: text) || matchesText (anyText :: rest) text
  | _ :: _, [] => false
  | glob :: rest, c :: text => glob.accepts c && matchesText rest text
termination_by pattern text => pattern.length + text.length

end Glob

/-- The number of characters at the start of a text that match a pattern: the most of them or the
fewest. -/
def matchingStart? (longest : Bool) (pattern : List Glob) (text : List Char) : Option Nat :=
  let counts := (List.range (text.length + 1)).filter fun n =>
    Glob.matchesText pattern (text.take n)
  if longest then counts.getLast? else counts.head?

/-- The text without what matches a pattern at one end. -/
def trimMatch (atEnd longest : Bool) (pattern : List Glob) (text : List Char) : List Char :=
  if atEnd then
    let counts := (List.range (text.length + 1)).filter fun n =>
      Glob.matchesText pattern (text.drop n)
    match if longest then counts.head? else counts.getLast? with
    | some n => text.take n
    | none => text
  else
    match matchingStart? longest pattern text with
    | some n => text.drop n
    | none => text

end Invocation.Shell

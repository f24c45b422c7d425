import Invocation.Text.Blank

/-!
# Trimming, lines and words

How a text is cut: blanks dropped from its ends, lines at line breaks, pieces at a separator, and
the first word. The functions work on lists of characters; their namesakes on `String` follow.
-/

namespace Invocation.Text

/-! ## Lists of characters -/

/-- The characters without the blanks before the first other one. -/
def trimStartChars (cs : List Char) : List Char :=
  cs.dropWhile isBlank

/-- The characters without the blanks after the last other one. -/
def trimEndChars (cs : List Char) : List Char :=
  (cs.reverse.dropWhile isBlank).reverse

/-- The characters without the blanks at either end. -/
def trimChars (cs : List Char) : List Char :=
  trimEndChars (trimStartChars cs)

/-- The characters before the first line break. -/
def headLine (cs : List Char) : List Char :=
  cs.takeWhile (!isLineBreak ·)

/-- The characters after the first line break, a carriage return and its line feed being one. -/
def afterBreak (cs : List Char) : List Char :=
  match cs.dropWhile (!isLineBreak ·) with
  | '\r' :: '\n' :: rest => rest
  | _ :: rest => rest
  | [] => []

theorem length_afterBreak_lt {c : Char} {rest : List Char} :
    (afterBreak (c :: rest)).length < (c :: rest).length := by
  have h : ((c :: rest).dropWhile (!isLineBreak ·)).length ≤ (c :: rest).length :=
    (List.dropWhile_sublist _).length_le
  unfold afterBreak
  split <;> simp_all
  all_goals omega

/-- The lines of a text, each without its break. A break at the very end starts no new line. -/
def lineChars : List Char → List (List Char)
  | [] => []
  | c :: rest => headLine (c :: rest) :: lineChars (afterBreak (c :: rest))
termination_by cs => cs.length
decreasing_by exact length_afterBreak_lt

/-- The first word, empty when there is none. -/
def firstWordChars (cs : List Char) : List Char :=
  (trimStartChars cs).takeWhile (!isBlank ·)

/-- The characters before the first `sep`, and those after it if there is one. -/
def cutChars (sep : Char) : List Char → List Char × Option (List Char)
  | [] => ([], none)
  | c :: rest =>
    if c = sep then ([], some rest)
    else
      let (before, after) := cutChars sep rest
      (c :: before, after)

/-- The pieces between the separators; there is one more than there are separators. -/
def pieceChars (sep : Char) : List Char → List (List Char)
  | [] => [[]]
  | c :: rest =>
    if c = sep then [] :: pieceChars sep rest
    else
      match pieceChars sep rest with
      | [] => [[c]]
      | piece :: pieces => (c :: piece) :: pieces

/-! ## Texts -/

/-- The text without the blanks at either end. -/
def trim (s : String) : String :=
  String.ofList (trimChars s.toList)

/-- The text without the blanks at its end. -/
def trimEnd (s : String) : String :=
  String.ofList (trimEndChars s.toList)

/-- The lines of a text. -/
def lines (s : String) : List String :=
  (lineChars s.toList).map String.ofList

/-- The first word of a text, empty when there is none. -/
def firstWord (s : String) : String :=
  String.ofList (firstWordChars s.toList)

/-- The text before the first `sep`, and the text after it if there is one. -/
def cut (sep : Char) (s : String) : String × Option String :=
  let (before, after) := cutChars sep s.toList
  (String.ofList before, after.map String.ofList)

/-- The pieces of a text between the separators. -/
def pieces (sep : Char) (s : String) : List String :=
  (pieceChars sep s.toList).map String.ofList

/-- The text holds nothing but blanks. -/
def isAllBlank (s : String) : Bool :=
  s.toList.all isBlank

/-- The texts in order, each after the first set off by `sep`. -/
def join (sep : String) : List String → String
  | [] => ""
  | [s] => s
  | s :: rest => s ++ sep ++ join sep rest

theorem join_empty_cons (s : String) (rest : List String) :
    join "" (s :: rest) = s ++ join "" rest := by
  cases rest <;> simp [join]

end Invocation.Text

import Invocation.Display.Colour
import Invocation.Settings.Basic
import Invocation.Text.Lower

/-!
# Styles

How characters look: attributes, each switched on, off or left alone, colours in front and behind,
and a link. A style is written as words, such as `bold red` or `not dim on blue`. Styles laid over
each other add up, the upper one winning. Words that describe no style are passed over wherever a style
is asked for; a colour whose parts cannot be read is not.
-/

namespace Invocation.Display

open Invocation.Number Invocation.Text

/-- A way of setting characters off. -/
inductive Attribute where
  | bold | dim | italic | underline | blink | blink2 | reverse | conceal | strike | underline2
  | frame | encircle | overline
  deriving DecidableEq, Repr

namespace Attribute

/-- The attributes in order, each with its name, its short name if it has one, and its code. -/
def table : List (Attribute × List String × String) := [
  (.bold, ["bold", "b"], "1"), (.dim, ["dim", "d"], "2"), (.italic, ["italic", "i"], "3"),
  (.underline, ["underline", "u"], "4"), (.blink, ["blink"], "5"), (.blink2, ["blink2"], "6"),
  (.reverse, ["reverse", "r"], "7"), (.conceal, ["conceal", "c"], "8"),
  (.strike, ["strike", "s"], "9"), (.underline2, ["underline2", "uu"], "21"),
  (.frame, ["frame"], "51"), (.encircle, ["encircle"], "52"), (.overline, ["overline", "o"], "53")]

/-- The attribute of a name. -/
def ofName? (name : String) : Option Attribute :=
  (table.find? fun row => name ∈ row.2.1).map (·.1)

end Attribute

/-- How characters look. Of several switches of one attribute the last one counts. -/
structure Style where
  switches : List (Attribute × Bool)
  front : Option Colour
  behind : Option Colour
  link : Option String
  deriving DecidableEq, Repr

namespace Style

/-- The style that changes nothing. -/
def plain : Style :=
  ⟨[], none, none, none⟩

/-- A style with another one laid over it. -/
def under (upper lower : Style) : Style where
  switches := lower.switches ++ upper.switches
  front := upper.front <|> lower.front
  behind := upper.behind <|> lower.behind
  link := upper.link <|> lower.link

/-- Whether an attribute is switched on or off. -/
def switch? (style : Style) (kind : Attribute) : Option Bool :=
  style.switches.reverse.lookup kind

/-- The style of words laid over a style. -/
def readWords (style : Style) : List String → Except StyleFault Style
  | [] => .ok style
  | [word] => readOne (lower word)
  | word :: next :: rest =>
    match lower word with
    | "on" => do readWords { style with behind := some (← Colour.read (lower next)) } rest
    | "not" =>
      match Attribute.ofName? next with
      | some kind => readWords { style with switches := style.switches ++ [(kind, false)] } rest
      | none => .error .unknown
    | "link" => readWords { style with link := some next } rest
    | word => do readWords (← readOne word) (next :: rest)
where
  /-- The style with one word laid over it. -/
  readOne (word : String) : Except StyleFault Style :=
    if word ∈ ["on", "not", "link"] then .error .unknown
    else
      match Attribute.ofName? word with
      | some kind => .ok { style with switches := style.switches ++ [(kind, true)] }
      | none => do
        let colour ← Colour.read word
        return { style with front := some colour }

/-- The words of a text; `fuel` bounds their number. -/
def wordsWithin : Nat → List Char → List String
  | 0, _ => []
  | fuel + 1, cs =>
    match trimStartChars cs with
    | [] => []
    | cs =>
      String.ofList (cs.takeWhile (!isBlank ·)) :: wordsWithin fuel (cs.dropWhile (!isBlank ·))

/-- The style that a text describes. -/
def read (s : String) : Except StyleFault Style :=
  if trim s = "none" then .ok plain
  else readWords plain (wordsWithin s.toList.length s.toList)

/-- The fault of a text that is not passed over where a style is asked for. -/
def fault? (s : String) : Option IntegerFault :=
  match read s with
  | .error (.integer fault) => some fault
  | _ => none

/-- The words that describe a style. -/
def describe (style : Style) : String :=
  let attributes := Attribute.table.filterMap fun (kind, names, _) =>
    (style.switch? kind).map fun on =>
      (if on then "" else "not ") ++ names.headD ""
  let front := (style.front.map (·.name)).toList
  let behind := (style.behind.map fun colour => "on " ++ colour.name).toList
  let link := (style.link.map ("link " ++ ·)).toList
  match attributes ++ front ++ behind ++ link with
  | [] => "none"
  | words => join " " words

/-- The description that stands for all descriptions of the same style. A text that describes no
style is itself, in lower case. -/
def normalName (s : String) : String :=
  match read s with
  | .ok style => style.describe
  | .error _ => lower (trim s)

/-- The control codes of a style. -/
def codes (style : Style) : List String :=
  let attributes := Attribute.table.filterMap fun (kind, _, code) =>
    if style.switch? kind = some true then some code else none
  attributes ++ ((style.front.map (Colour.codes false)).getD []) ++
    ((style.behind.map (Colour.codes true)).getD [])

/-! ## Themes -/

/-- The styles that have a name of their own, as descriptions. -/
def themeNames (theme : Theme) : Entries String :=
  let own :=
    match theme with
    | .dark => [("status", "yellow"), ("info", "cyan"), ("accent", "bold cyan")]
    | .light => [("status", "dark_orange"), ("info", "blue"), ("accent", "bold blue")]
  own ++ [
    ("shell", "dim"), ("error", "bold red"), ("stderr", "red"), ("success", "green"),
    ("hint", "dim"), ("reset", "not bold not dim not italic not underline not blink not blink2 " ++
      "not reverse not conceal not strike default on default"),
    ("bright", "not dim"), ("strong", "bold"), ("code", "bold reverse"), ("emphasize", "italic")]

/-- The description that a name stands for under a theme. -/
def described (theme : Theme) (name : String) : String :=
  ((themeNames theme).get? name).getD name

/-- The style of a name or description under a theme; an unknown one changes nothing. -/
def named (theme : Theme) (name : String) : Style :=
  (read (described theme name)).toOption.getD plain

/-- The fault of a name or description under a theme that is not passed over. -/
def namedFault? (theme : Theme) (name : String) : Option IntegerFault :=
  fault? (described theme name)

end Style

end Invocation.Display

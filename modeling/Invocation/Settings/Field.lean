import Invocation.Issue
import Invocation.Settings.Basic

/-!
# Reading fields

How a single field of the settings or of a command's options is read from the value given for it.
Each reader gives the field or the issues with the value.
-/

namespace Invocation.Field

open Invocation.Number

/-- The words for `true`, in lower case. -/
def trueWords : List String := ["1", "t", "y", "on", "yes", "true"]

/-- The words for `false`, in lower case. -/
def falseWords : List String := ["0", "f", "n", "off", "no", "false"]

/-- The flag that a text denotes, whatever the case of its ASCII letters. -/
def flagOfText (s : String) : Except Complaint Bool :=
  let word := String.ofList (s.toList.map lowerAscii)
  if word ∈ trueWords then .ok true
  else if word ∈ falseWords then .ok false
  else .error .flagWording

/-- The flag that a number within 64 bits denotes. -/
def flagOfInt (n : Int) : Except Complaint Bool :=
  if n = 0 then .ok false else if n = 1 then .ok true else .error .flagWording

/-- The flag that a value denotes. -/
def flag : Value → Except Complaint Bool
  | .bool b => .ok b
  | .text s => flagOfText s
  | .int n =>
    if -(wordLimit : Int) ≤ n ∧ n < wordLimit then flagOfInt n else .error .flagKind
  | .float x =>
    match x.isIntegral, x.truncated? with
    | true, some n =>
      if -(wordLimit : Int) < n ∧ n < wordLimit then flagOfInt n else .error .flagKind
    | _, _ => .error .flagKind
  | _ => .error .flagKind

/-- The mask that a value denotes. -/
def umask (value : Value) : Except Complaint (Option Umask) :=
  (Umask.resolve value).mapError fun fault => .refused (.umask fault)

/-- The level that a value denotes. -/
def verbosity (value : Value) : Except Complaint Verbosity.Level :=
  (Verbosity.resolve value).mapError fun fault => .refused (.verbosity fault)

/-- The default environment that a value denotes: nothing, a list of assignments, or a map. -/
def defaultEnv : Value → Except Complaint (Entries String)
  | .null => .ok []
  | .text s =>
    match EnvPairs.read s with
    | .ok entries => .ok (entries.mapValues Value.toText)
    | .error fault => .error (.refused (.pairs fault))
  | .map entries => .ok (Entries.mapValues Value.toText entries)
  | _ => .error .mapKind

/-- The theme that a value denotes. -/
def theme : Value → Except Complaint Theme
  | .text s =>
    match Theme.ofName? s with
    | some theme => .ok theme
    | none => .error .unknownTheme
  | _ => .error .unknownTheme

/-- The texts of a map whose values must be texts, with one issue for each that is not. -/
def textEntries (field : String) : Entries Value → Except (List Issue) (Entries String)
  | [] => .ok []
  | (key, .text s) :: rest => (textEntries field rest).map ((key, s) :: ·)
  | (key, _) :: rest =>
    let issue : Issue := ⟨[field, key], .textKind⟩
    match textEntries field rest with
    | .ok _ => .error [issue]
    | .error issues => .error (issue :: issues)

/-- The command map that a value denotes. -/
def commandMap (field : String) : Value → Except (List Issue) (Entries String)
  | .map entries => textEntries field entries
  | _ => .error [.atField field .mapKind]

/-- The reader of a field that makes a single complaint. -/
def single {α : Type} (reader : Value → Except Complaint α) (field : String) (value : Value) :
    Except (List Issue) α :=
  (reader value).mapError fun complaint => [.atField field complaint]

/-- The field of a map, read if it is there. -/
def orDefault {α : Type} (reader : String → Value → Except (List Issue) α) (default : α)
    (field : String) (entries : Entries Value) : Except (List Issue) α :=
  match entries.get? field with
  | some value => reader field value
  | none => .ok default

/-- The issues of a reading, none if it succeeded. -/
def issues {α : Type} : Except (List Issue) α → List Issue
  | .ok _ => []
  | .error found => found

end Invocation.Field

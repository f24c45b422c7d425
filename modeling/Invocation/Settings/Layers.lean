import Invocation.Settings.Validate

/-!
# Layers of settings

Settings come from two files, the user's and the project's, and from variables of the environment.
A file holds JSON. The members of the project's file are written over those of the user's, and the
variables over both. A file that is not JSON is skipped with a warning.
-/

namespace Invocation.Settings

open Invocation.Number

/-- Why the project's file cannot be merged into the user's. -/
inductive MergeFault where
  | notIterable (kind : String)
  | notSequence (index : Nat)
  | pairLength (index length : Nat)
  | unhashable (kind : String)
  | unsupported (left right : String)
  deriving DecidableEq, Repr

/-- The wording of a fault. -/
def MergeFault.message : MergeFault → String
  | .notIterable kind => "'" ++ kind ++ "' object is not iterable"
  | .notSequence index =>
    "cannot convert dictionary update sequence element #" ++ showNat index ++ " to a sequence"
  | .pairLength index length =>
    "dictionary update sequence element #" ++ showNat index ++ " has length " ++ showNat length ++
      "; 2 is required"
  | .unhashable kind => "unhashable type: '" ++ kind ++ "'"
  | .unsupported left right =>
    "unsupported operand type(s) for |=: '" ++ left ++ "' and '" ++ right ++ "'"

/-- Why no settings come of the layers. -/
inductive LoadFault where
  | integer (fault : IntegerFault)
  | merge (fault : MergeFault)
  | invalid (issues : List Issue)
  deriving DecidableEq, Repr

/-- The file that a warning is about. -/
inductive Source where
  | user
  | project
  deriving DecidableEq, Repr

/-- A file that was skipped, and why. -/
structure Warning where
  source : Source
  fault : Json.Fault
  deriving DecidableEq, Repr

/-- The text of a file with every line break written as a line feed. -/
def unifiedBreaks : List Char → List Char
  | [] => []
  | '\r' :: '\n' :: rest => '\n' :: unifiedBreaks rest
  | c :: rest => (if c = '\r' then '\n' else c) :: unifiedBreaks rest

/-- The value in a file. -/
def readFile (contents : String) : Except Json.Refusal Value :=
  Json.read (String.ofList (unifiedBreaks contents.toList))

/-- The items of a value that is read as a sequence; a map's items are its keys. -/
def sequence? : Value → Option (List Value)
  | .text s => some (s.toList.map fun c => .text (String.singleton c))
  | .list items => some items
  | .tuple items => some items
  | .map entries => some (entries.map fun entry => .text entry.1)
  | _ => none

/-- A value that can be a key. -/
def isHashable : Value → Bool
  | .list _ => false
  | .map _ => false
  | _ => true

/-- The entries with the pairs of a sequence written to them; keys that are no texts name no
field. -/
def putPairs (entries : Entries Value) : Nat → List Value → Except MergeFault (Entries Value)
  | _, [] => .ok entries
  | index, item :: rest =>
    match sequence? item with
    | none => .error (.notSequence index)
    | some [key, value] =>
      if isHashable key then
        match key with
        | .text name => putPairs (entries.put name value) (index + 1) rest
        | _ => putPairs entries (index + 1) rest
      else .error (.unhashable key.kind)
    | some items => .error (.pairLength index items.length)

/-- The bits of integers and booleans can be joined. -/
def hasBits : Value → Bool
  | .int _ => true
  | .bool _ => true
  | _ => false

/-- The value of the user's file with that of the project's file merged into it. -/
def merge (user project : Value) : Except MergeFault Value :=
  match user with
  | .map entries =>
    match project with
    | .map news => .ok (.map (Entries.putAll entries news))
    | _ =>
      match sequence? project with
      | some items => (putPairs entries 0 items).map .map
      | none => .error (.notIterable project.kind)
  | _ =>
    if hasBits user && hasBits project then .ok user
    else .error (.unsupported user.kind project.kind)

/-- The value of the user's file, and a warning if it is skipped. -/
def userLayer : Option String → Except LoadFault (Value × List Warning)
  | none => .ok (.map [], [])
  | some contents =>
    match readFile contents with
    | .ok value => .ok (value, [])
    | .error (.malformed fault) => .ok (.map [], [⟨.user, fault⟩])
    | .error (.integer fault) => .error (.integer fault)

/-- The value with the project's file merged into it, and a warning if that is skipped. -/
def projectLayer (user : Value) : Option String → Except LoadFault (Value × List Warning)
  | none => .ok (user, [])
  | some contents =>
    match readFile contents with
    | .ok value => ((merge user value).mapError .merge).map (·, [])
    | .error (.malformed fault) => .ok (user, [⟨.project, fault⟩])
    | .error (.integer fault) => .error (.integer fault)

/-- The settings of the layers, with the warnings that were given before the end. -/
def load (environment : Entries String) (userFile projectFile : Option String) :
    List Warning × Except LoadFault Settings :=
  match userLayer userFile with
  | .error fault => ([], .error fault)
  | .ok (user, warnings) =>
    match projectLayer user projectFile with
    | .error fault => (warnings, .error fault)
    | .ok (value, more) =>
      (warnings ++ more, (validate environment value).mapError .invalid)

/-- The settings with the given fields replaced. Variables of the environment do not count. -/
def override (s : Settings) (overrides : Entries Value) : Except (List Issue) Settings :=
  ofEntries (s.toEntries.putAll overrides)

end Invocation.Settings

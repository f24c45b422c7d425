import Invocation.Settings.Field

/-!
# Options of a command

What is asked of a single command beside its words. Options are read from a map of values, some of
them under either of two names, and a name that is no option is an issue.
-/

namespace Invocation

/-- The options of a command. -/
structure Options where
  environment : Entries String
  workingDirectory : Option String
  user : Option String
  group : Option String
  runInBackground : Bool
  umask : Option Umask
  /-- The level of the records on the command's progress, if not that of the settings. -/
  verbosity : Option Verbosity.Level
  /-- Whether a non-zero exit status is a failure, if not as the settings say. -/
  raises : Option Bool
  /-- Where the command is meant to run. -/
  host : Value

namespace Options

/-- No options. -/
def none : Options where
  environment := []
  workingDirectory := .none
  user := .none
  group := .none
  runInBackground := false
  umask := .none
  verbosity := .none
  raises := .none
  host := .null

/-! ## Readers -/

/-- The environment in the entries of a map, whose values must be scalars. -/
def environmentEntries : Entries Value → Except Complaint (Entries String)
  | [] => .ok []
  | (key, value) :: rest =>
    if value.isScalar then (environmentEntries rest).map ((key, value.toText) :: ·)
    else .error (.refused (.notScalar key value.kind))

/-- The environment that a value denotes. -/
def readEnvironment : Value → Except Complaint (Entries String)
  | .null => .ok []
  | .map entries => environmentEntries entries
  | _ => .error .mapKind

/-- The text of a value, if there is a value. -/
def readText : Value → Except Complaint (Option String)
  | .null => .ok .none
  | value => .ok (some value.toText)

/-- The level that a value denotes, if there is a value. -/
def readVerbosity : Value → Except Complaint (Option Verbosity.Level)
  | .null => .ok .none
  | value => (Field.verbosity value).map some

/-- The flag that a value denotes, if there is a value. -/
def readFlag : Value → Except Complaint (Option Bool)
  | .null => .ok .none
  | value => (Field.flag value).map some

/-- Any value. -/
def readHost (value : Value) : Except Complaint Value :=
  .ok value

/-! ## Names -/

/-- The names of the options in order, each with its second name if it has one. -/
def names : List (List String) := [
  ["environment", "env"], ["working_directory", "cd"], ["user"], ["group"], ["run_in_background"],
  ["umask"], ["verbosity"], ["raise_on_non_zero_exit", "raise_on_nonzero_exit"], ["host"]]

/-- The first of an option's names that is given. -/
def nameIn? (entries : Entries Value) (choices : List String) : Option String :=
  choices.find? fun name => (entries.get? name).isSome

/-- The names under which options are read. -/
def namesUsed (entries : Entries Value) : List String :=
  names.filterMap (nameIn? entries)

/-- The issues with names that are not used. -/
def unknownIssues (entries : Entries Value) : List Issue :=
  (entries.keys.filter (· ∉ namesUsed entries)).map (Issue.atField · .unknownOption)

/-- An option read under the first of its names that is given. -/
def readOption {α : Type} (reader : Value → Except Complaint α) (default : α)
    (choices : List String) (entries : Entries Value) : Except (List Issue) α :=
  match nameIn? entries choices with
  | .none => .ok default
  | some name => Field.orDefault (Field.single reader) default name entries

/-- The options that a map of values denotes. -/
def ofEntries (entries : Entries Value) : Except (List Issue) Options :=
  let environment := readOption readEnvironment [] ["environment", "env"] entries
  let workingDirectory := readOption readText .none ["working_directory", "cd"] entries
  let user := readOption readText .none ["user"] entries
  let group := readOption readText .none ["group"] entries
  let runInBackground := readOption Field.flag false ["run_in_background"] entries
  let umask := readOption Field.umask .none ["umask"] entries
  let verbosity := readOption readVerbosity .none ["verbosity"] entries
  let raises :=
    readOption readFlag .none ["raise_on_non_zero_exit", "raise_on_nonzero_exit"] entries
  let host := readOption readHost .null ["host"] entries
  let unknown := unknownIssues entries
  match environment, workingDirectory, user, group, runInBackground, umask, verbosity, raises, host,
    unknown with
  | .ok environment, .ok workingDirectory, .ok user, .ok group, .ok runInBackground, .ok umask,
      .ok verbosity, .ok raises, .ok host, [] =>
    .ok { environment, workingDirectory, user, group, runInBackground, umask, verbosity, raises,
          host }
  | environment, workingDirectory, user, group, runInBackground, umask, verbosity, raises, host,
      unknown =>
    .error (Field.issues environment ++ Field.issues workingDirectory ++ Field.issues user ++
      Field.issues group ++ Field.issues runInBackground ++ Field.issues umask ++
      Field.issues verbosity ++ Field.issues raises ++ Field.issues host ++ unknown)

/-- An option that is a text, as an entry if it is given. -/
def textEntry (name : String) (given : Option String) : Entries Value :=
  match given with
  | some s => [(name, .text s)]
  | .none => []

/-- The given options as entries, in order. The host is not among them. -/
def toEntries (o : Options) : Entries Value :=
  [("environment", .ofTexts o.environment)] ++
  textEntry "working_directory" o.workingDirectory ++
  textEntry "user" o.user ++
  textEntry "group" o.group ++
  [("run_in_background", .bool o.runInBackground)] ++
  textEntry "umask" (o.umask.map (·.text)) ++
  (match o.verbosity with
    | some level => [("verbosity", .int level)]
    | .none => []) ++
  (match o.raises with
    | some b => [("raise_on_non_zero_exit", .bool b)]
    | .none => [])

end Options

end Invocation

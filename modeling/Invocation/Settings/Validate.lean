import Invocation.Settings.Field

/-!
# Checking settings

Settings are read from a map of values. Each field is read on its own and the issues of all fields
are gathered; names that are no field do not count. Variables of the environment, when they are set
and not empty, stand above the map.
-/

namespace Invocation.Settings

/-- The settings that a map of values denotes. -/
def ofEntries (entries : Entries Value) : Except (List Issue) Settings :=
  let defaultEnv := Field.orDefault (Field.single Field.defaultEnv) [] "default_env" entries
  let umask := Field.orDefault (Field.single Field.umask) none "umask" entries
  let commandMap := Field.orDefault Field.commandMap [] "command_map" entries
  let verbosity :=
    Field.orDefault (Field.single Field.verbosity) Verbosity.info "output_verbosity" entries
  let raises := Field.orDefault (Field.single Field.flag) true "raise_on_non_zero_exit" entries
  let theme := Field.orDefault (Field.single Field.theme) .light "theme" entries
  match defaultEnv, umask, commandMap, verbosity, raises, theme with
  | .ok defaultEnv, .ok umask, .ok commandMap, .ok verbosity, .ok raises, .ok theme =>
    .ok { defaultEnv, umask, commandMap, verbosity, raises, theme }
  | defaultEnv, umask, commandMap, verbosity, raises, theme =>
    .error (Field.issues defaultEnv ++ Field.issues umask ++ Field.issues commandMap ++
      Field.issues verbosity ++ Field.issues raises ++ Field.issues theme)

/-- The variables that stand for a field as they are. -/
def fieldVariables : List (String × String) := [
  ("umask", "SHELLWRAP_UMASK"),
  ("output_verbosity", "SHELLWRAP_OUTPUT_VERBOSITY"),
  ("raise_on_non_zero_exit", "SHELLWRAP_RAISE_ON_NON_ZERO_EXIT"),
  ("theme", "SHELLWRAP_THEME"),
  ("default_env", "SHELLWRAP_DEFAULT_ENV")]

/-- The value of a variable that is set and not empty. -/
def nonEmpty? (environment : Entries String) (name : String) : Option String :=
  (environment.get? name).filter (· ≠ "")

/-- The map with the variables that stand for fields written over it. -/
def withFieldVariables (environment : Entries String) (entries : Entries Value) : Entries Value :=
  fieldVariables.foldl
    (fun acc (field, name) =>
      match nonEmpty? environment name with
      | some s => acc.put field (.text s)
      | none => acc)
    entries

/-- The map with all variables written over it. The variable of the command map holds JSON. -/
def withVariables (environment : Entries String) (entries : Entries Value) :
    Except (List Issue) (Entries Value) :=
  let entries := withFieldVariables environment entries
  match nonEmpty? environment "SHELLWRAP_COMMAND_MAP" with
  | none => .ok entries
  | some s =>
    match Json.read s with
    | .ok value => .ok (entries.put "command_map" value)
    | .error refusal => .error [⟨[], .refused (.json refusal)⟩]

/-- The settings that a value denotes under the variables of the environment. -/
def validate (environment : Entries String) : Value → Except (List Issue) Settings
  | .map entries => do ofEntries (← withVariables environment entries)
  | _ => .error [⟨[], .settingsKind⟩]

end Invocation.Settings

/-!
# Arguments

The grammar of a command line's arguments. An option is given by a long name (`--name value` or
`--name=value`), by a letter (`-n value` or `-nvalue`), or, if it takes no value, together with
other letters. Two dashes end the options. A single dash is no option.
-/

namespace Invocation.CommandLine

/-- An option that arguments may give. -/
structure Declared where
  /-- The long name without its dashes. -/
  name : String
  letter : Option Char
  takesValue : Bool
  deriving DecidableEq, Repr

/-- What is wrong with arguments. -/
inductive Usage where
  | unknownOption (argument : String)
  | missingValue (name : String)
  | unexpectedValue (name : String)
  deriving DecidableEq, Repr

/-- The options that were given, in order, each under its long name, and the other arguments. -/
structure Arguments where
  given : List (String × Option String)
  positional : List String
  deriving DecidableEq, Repr

/-- What one argument gives: whole options, and perhaps one whose value is the next argument. -/
structure Recognised where
  given : List (String × Option String)
  lacking : Option String

namespace Arguments

/-- Nothing. -/
def none : Arguments :=
  ⟨[], []⟩

/-- The arguments with options in front. -/
def withGiven (given : List (String × Option String)) (arguments : Arguments) : Arguments :=
  { arguments with given := given ++ arguments.given }

/-- The arguments with a positional one in front. -/
def withPositional (argument : String) (arguments : Arguments) : Arguments :=
  { arguments with positional := argument :: arguments.positional }

/-- The values that an option was given, in order. -/
def values (name : String) (arguments : Arguments) : List String :=
  arguments.given.filterMap fun (given, value) => if given = name then value else Option.none

/-- The last value that an option was given. -/
def last? (name : String) (arguments : Arguments) : Option String :=
  (arguments.values name).getLast?

/-- The option was given. -/
def has (name : String) (arguments : Arguments) : Bool :=
  arguments.given.any (·.1 = name)

end Arguments

/-! ## Reading -/

/-- What a cluster of letters gives; what follows a letter that takes a value is its value. -/
def readLetters (declared : List Declared) : List Char → Except Usage Recognised
  | [] => .ok ⟨[], none⟩
  | c :: rest =>
    match declared.find? (·.letter = some c) with
    | none => .error (.unknownOption ("-" ++ String.singleton c))
    | some option =>
      if option.takesValue then
        if rest.isEmpty then .ok ⟨[], some option.name⟩
        else .ok ⟨[(option.name, some (String.ofList rest))], none⟩
      else
        (readLetters declared rest).map fun found =>
          { found with given := (option.name, none) :: found.given }

/-- What a long name gives, with the value that stands after an equals sign if there is one. -/
def readName (option : Declared) (value : Option String) : Except Usage Recognised :=
  match option.takesValue, value with
  | true, some value => .ok ⟨[(option.name, some value)], none⟩
  | true, none => .ok ⟨[], some option.name⟩
  | false, some _ => .error (.unexpectedValue option.name)
  | false, none => .ok ⟨[(option.name, none)], none⟩

/-- The name and the value in the characters after two dashes. -/
def nameAndValue (cs : List Char) : String × Option String :=
  match cs.dropWhile (· ≠ '=') with
  | [] => (String.ofList cs, none)
  | _ :: value => (String.ofList (cs.takeWhile (· ≠ '=')), some (String.ofList value))

/-- What an argument that begins with a dash gives. -/
def recognise (declared : List Declared) (argument : String) : Except Usage Recognised :=
  match argument.toList with
  | '-' :: '-' :: cs =>
    let (name, value) := nameAndValue cs
    match declared.find? (·.name = name) with
    | some option => readName option value
    | none => .error (.unknownOption argument)
  | _ :: cs => readLetters declared cs
  | [] => .ok ⟨[], none⟩

/-- An argument that gives options. -/
def isOption (argument : String) : Bool :=
  match argument.toList with
  | '-' :: _ :: _ => true
  | _ => false

/-- The arguments in a list. Unless options are `interspersed`, the first argument that is none ends
them. -/
def readArguments (declared : List Declared) (interspersed : Bool) :
    List String → Except Usage Arguments
  | [] => .ok .none
  | argument :: rest =>
    if argument = "--" then .ok ⟨[], rest⟩
    else if isOption argument then
      match recognise declared argument with
      | .error fault => .error fault
      | .ok ⟨given, none⟩ =>
        (readArguments declared interspersed rest).map (Arguments.withGiven given)
      | .ok ⟨given, some name⟩ =>
        match rest with
        | [] => .error (.missingValue name)
        | value :: rest =>
          (readArguments declared interspersed rest).map
            (Arguments.withGiven (given ++ [(name, some value)]))
    else if interspersed then
      (readArguments declared interspersed rest).map (Arguments.withPositional argument)
    else .ok ⟨[], argument :: rest⟩

end Invocation.CommandLine

import Invocation.Settings.Layers

/-!
# Failures

Everything that can go wrong with settings, commands, their execution and their display, each with
its cause and its wording.
-/

namespace Invocation

open Invocation.Number

/-- Why a name or a value cannot be put into the environment. -/
inductive VariableFault where
  | nulByte
  | equalsSign
  | emptyName
  deriving DecidableEq, Repr

/-- The wording of a fault. -/
def VariableFault.message : VariableFault → String
  | .nulByte => "embedded null byte"
  | .equalsSign => "illegal environment variable name"
  | .emptyName => "[Errno 22] Invalid argument"

/-- Why a value is not an exit status. -/
inductive StatusFault where
  | kind (name : String)
  | nan
  | infinite
  | integer (fault : IntegerFault)
  deriving DecidableEq, Repr

/-- The wording of a fault. -/
def StatusFault.message : StatusFault → String
  | .kind name =>
    "int() argument must be a string, a bytes-like object or a real number, not '" ++ name ++ "'"
  | .nan => "cannot convert float NaN to integer"
  | .infinite => "cannot convert float infinity to integer"
  | .integer why => why.message

/-- Why the shell is not started. -/
inductive LaunchFault where
  | missingDirectory (path : String)
  | notDirectory (path : String)
  | nulByte
  | lineTooLong
  deriving DecidableEq, Repr

/-- The wording of a fault. -/
def LaunchFault.message : LaunchFault → String
  | .missingDirectory path => "[Errno 2] No such file or directory: " ++ Text.quoted path
  | .notDirectory path => "[Errno 20] Not a directory: " ++ Text.quoted path
  | .nulByte => "embedded null byte"
  | .lineTooLong => "[Errno 7] Argument list too long: 'sh'"

/-- Why something cannot be displayed. Positions count characters from the start. -/
inductive MarkupFault where
  | unopened (tag : String) (position : Nat)
  | nothingOpen (position : Nat)
  /-- The parameters of a tag for a handler cannot be evaluated, for the reason that is given. -/
  | parameters (reason : String)
  /-- A part of a colour is no integer, or a status is too long to be written. -/
  | integer (fault : IntegerFault)
  deriving DecidableEq, Repr

/-- The wording of a fault. -/
def MarkupFault.message : MarkupFault → String
  | .unopened tag position =>
    "closing tag '" ++ tag ++ "' at position " ++ showNat position ++ " doesn't match any open tag"
  | .nothingOpen position =>
    "closing tag '[/]' at position " ++ showNat position ++ " has nothing to close"
  | .parameters reason => reason
  | .integer why => why.message

/-- What can go wrong. -/
inductive Failure where
  /-- The settings are refused. -/
  | invalid (issues : List Issue)
  /-- An integer is too long: no settings come of the files, or the integer cannot be written. -/
  | integer (fault : IntegerFault)
  /-- No settings come of the files: they cannot be merged. -/
  | merge (fault : Settings.MergeFault)
  | variable (fault : VariableFault)
  | noAttribute (name : String)
  /-- A command has no executable. -/
  | noExecutable
  /-- A command's options are refused. -/
  | invalidOptions (issues : List Issue)
  /-- The settings of a command are given twice. -/
  | repeatedConfig
  /-- A variable given on the command line has no name or no value. -/
  | badPair (pair : String)
  /-- What is appended to an output is not a text. -/
  | notText (kind : String)
  | status (fault : StatusFault)
  | alreadyComplete (status : Int)
  /-- A command ended with a status that counts as a failure. -/
  | exited (summary : String) (status : Int)
  | timedOut (limit : String) (line : String)
  | readOnly (name : String)
  | launch (fault : LaunchFault)
  | markup (fault : MarkupFault)
  | unknownLevel (name : String)
  deriving DecidableEq, Repr

/-- The wording of a failure. Refused settings have one wording for each issue instead. -/
def Failure.message : Failure → String
  | .invalid _ => "Invalid settings"
  | .integer why => why.message
  | .merge fault => fault.message
  | .variable fault => fault.message
  | .noAttribute name => "module 'shellwrap.config' has no attribute " ++ Text.quoted name
  | .noExecutable => "Command needs an executable or a script body"
  | .invalidOptions _ => "Invalid command options"
  | .repeatedConfig =>
    "shellwrap.command.Command() got multiple values for keyword argument 'config'"
  | .badPair pair => "--env expects KEY=VALUE, got '" ++ pair ++ "'"
  | .notText kind => "can only concatenate str (not \"" ++ kind ++ "\") to str"
  | .status fault => fault.message
  | .alreadyComplete earlier => "exit status already recorded (" ++ showInt earlier ++ ")"
  | .exited summary _ => summary
  | .timedOut limit line => "Command timed out after " ++ limit ++ "s: " ++ line
  | .readOnly name => "property '" ++ name ++ "' of 'Command' object has no setter"
  | .launch fault => fault.message
  | .markup fault => fault.message
  | .unknownLevel name => "Unknown level: " ++ Text.quoted name

/-- The failure that keeps the layers of settings from being loaded. -/
def Settings.LoadFault.failure : Settings.LoadFault → Failure
  | .integer why => .integer why
  | .merge fault => .merge fault
  | .invalid issues => .invalid issues

end Invocation

import Invocation.EnvPairs
import Invocation.Umask
import Invocation.Verbosity

/-!
# Issues

What is wrong with settings or options that were given, each issue with its place.
-/

namespace Invocation

/-- Why a value of the right kind is refused. -/
inductive Objection where
  | verbosity (fault : Verbosity.Fault)
  | umask (fault : Umask.Fault)
  | pairs (fault : EnvPairs.Fault)
  | json (refusal : Json.Refusal)
  | notScalar (key : String) (kind : String)
  deriving DecidableEq, Repr

/-- The wording of an objection. -/
def Objection.message : Objection → String
  | .verbosity fault => fault.message
  | .umask fault => fault.message
  | .pairs fault => fault.message
  | .json refusal => refusal.message
  | .notScalar key kind =>
    "environment value for " ++ Text.quoted key ++ " must be a scalar, got " ++ kind

/-- What is wrong with a value. -/
inductive Complaint where
  | refused (why : Objection)
  | flagWording
  | flagKind
  | mapKind
  | textKind
  | unknownTheme
  | settingsKind
  | unknownOption
  | frozen
  deriving DecidableEq, Repr

/-- The wording of a complaint. -/
def Complaint.message : Complaint → String
  | .refused why => "Value error, " ++ why.message
  | .flagWording => "Input should be a valid boolean, unable to interpret input"
  | .flagKind => "Input should be a valid boolean"
  | .mapKind => "Input should be a valid dictionary"
  | .textKind => "Input should be a valid string"
  | .unknownTheme => "Input should be 'light' or 'dark'"
  | .settingsKind => "Input should be a valid dictionary or instance of Settings"
  | .unknownOption => "Extra inputs are not permitted"
  | .frozen => "Instance is frozen"

/-- A complaint and the path to the value it is about. -/
structure Issue where
  place : List String
  complaint : Complaint
  deriving DecidableEq, Repr

/-- The issue with the value of a field. -/
def Issue.atField (field : String) (complaint : Complaint) : Issue :=
  ⟨[field], complaint⟩

end Invocation

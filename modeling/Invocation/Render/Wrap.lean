/-!
# Wrapping a line

What is put around a command line to run it in the background, as another group or user, with a
mask, or in another directory. An absent or empty name leaves the line as it is.
-/

namespace Invocation.Render

/-- A line wrapped if a name is given that is not empty. -/
def wrapWith (wrap : String → String → String) (name : Option String) (line : String) : String :=
  match name with
  | none => line
  | some name => if name = "" then line else wrap name line

/-- A line that is detached from the shell that starts it. -/
def inBackground (enabled : Bool) (line : String) : String :=
  if enabled then "nohup " ++ line ++ " > /dev/null &" else line

/-- A line run under a group. Its quotes are escaped, whether or not a user wrap follows. -/
def asGroup : Option String → String → String :=
  wrapWith fun group line => "sg " ++ group ++ " -c \\\"" ++ line ++ "\\\""

/-- A line run as a user. -/
def asUser : Option String → String → String :=
  wrapWith fun user line => "sudo su " ++ user ++ " -c \"" ++ line ++ "\""

/-- A line run with a file mode mask. -/
def withUmask : Option String → String → String :=
  wrapWith fun mask line => "umask " ++ mask ++ " && " ++ line

/-- A line run in a directory. -/
def within : Option String → String → String :=
  wrapWith fun directory line => "cd " ++ directory ++ " && " ++ line

end Invocation.Render

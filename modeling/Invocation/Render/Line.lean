import Invocation.Options
import Invocation.Render.Environment
import Invocation.Render.Launcher
import Invocation.Render.Script
import Invocation.Render.Wrap

/-!
# The line of a command

A command becomes one line for the shell. From the inside out: the launched executable with its
arguments, the background, the group, the user, the variables, the mask, the directory.
-/

namespace Invocation.Render

/-- The line that runs a command with its options under the settings. -/
def commandLine (settings : Settings) (options : Options) (base : String) (args : List String) :
    String :=
  within options.workingDirectory <|
  withUmask ((options.umask <|> settings.umask).map (·.text)) <|
  withEnvironment (mergeEnvironment settings.defaultEnv options.environment) <|
  asUser options.user <|
  asGroup options.group <|
  inBackground options.runInBackground <|
  launched settings.commandMap base args

end Invocation.Render

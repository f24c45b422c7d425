import Invocation.Command.Outcome
import Invocation.Display.Panel

/-!
# Showing commands

What is shown of a command: its line after a prompt, its outputs and how it ended, and an error in a
panel.
-/

namespace Invocation.Display

open Invocation.Number Invocation.Text

/-- The mark of a command that succeeded. -/
def successMark : String := "✦"

/-- The mark of what went wrong. -/
def errorMark : String := "✖"

/-- The console with a theme, the one in force unless another is named; an unknown name stands for
the light one. -/
def chooseTheme (console : Console) (name : Option String) : Action Console := do
  match name.filter (· ≠ "") with
  | some name => return { console with theme := (Theme.ofName? name).getD .light }
  | none => return { console with theme := (← World.settings).theme }

section Reading

variable [Handlers]

/-- The line of a command after a prompt, however long it is. -/
def showLine (console : Console) (line : String) : Except MarkupFault (List Char) :=
  console.unwrappedText ("[accent]$[/accent] [shell]" ++ escape line ++ "[/shell]")

/-- How a command ended. A status other than 0 that is too long has no such line. -/
def statusLine (name : String) (status : Int) : String :=
  if status = 0 then "[success]" ++ successMark ++ " " ++ escape name ++ " exited 0[/success]"
  else
    "[error]" ++ errorMark ++ " " ++ escape name ++ " exited " ++ showInt status ++ "[/error]"

/-- The output of a command as it was written, in a style. -/
def showStream (console : Console) (style : String) (output : String) : List Char :=
  if output = "" then [] else console.plainText style output

/-- The outputs of a run and, if it is complete, how it ended. -/
def showOutput (console : Console) (run : Run) : Except MarkupFault (List Char) := do
  let outputs :=
    showStream console "none" run.outcome.stdout ++ showStream console "stderr" run.outcome.stderr
  match run.outcome.exitStatus with
  | none => return outputs
  | some status =>
    if !isWritable status then throw (.integer .unwritable)
    return outputs ++ (← console.markedText (statusLine run.command.base status))

/-- An error and, if there is one, a hint, which may hold tags. -/
def showError (console : Console) (message : String) (hint : Option String) :
    Except MarkupFault (List Char) :=
  let first := "[bold red]" ++ errorMark ++ " " ++ escape message ++ "[/bold red]"
  match hint.filter (· ≠ "") with
  | none => console.panel "Error" "red" first
  | some hint => console.panel "Error" "red" (first ++ "\n[dim]" ++ hint ++ "[/dim]")

end Reading

end Invocation.Display

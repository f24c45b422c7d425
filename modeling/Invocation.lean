import Invocation.CommandLine.Reply
import Invocation.Display.Show
import Invocation.Execution
import Invocation.Main
import Invocation.Proofs.Capture
import Invocation.Shell.Launch
import Invocation.Utf8.Replace
import Invocation.Proofs.Action
import Invocation.Proofs.Calls
import Invocation.Proofs.Outcome
import Invocation.Proofs.Line
import Invocation.Proofs.Json
import Invocation.Proofs.Nested
import Invocation.Proofs.Layers
import Invocation.Proofs.Numeral
import Invocation.Proofs.Escape
import Invocation.Proofs.Written
import Invocation.Proofs.Fields
import Invocation.Proofs.Saved
import Invocation.Proofs.Configured
import Invocation.Proofs.Session
import Invocation.Proofs.Schedule
import Invocation.Proofs.Quotes
import Invocation.Proofs.Collapsed
import Invocation.Proofs.Skipped
import Invocation.Proofs.Tokens
import Invocation.Proofs.Markup
import Invocation.Proofs.Legible
import Invocation.Proofs.Reported
import Invocation.Proofs.Upper
import Invocation.Proofs.Merged
import Invocation.Proofs.Encoded
import Invocation.Proofs.Salvaged
import Invocation.Proofs.Kept
import Invocation.Proofs.ScriptLines
import Invocation.Proofs.Unescaped
import Invocation.Proofs.Cells
import Invocation.Proofs.Wrapped
import Invocation.Proofs.Shown
import Invocation.Proofs.Outputs
import Invocation.Proofs.Painted
import Invocation.Proofs.Framed
import Invocation.Proofs.Spans
import Invocation.Proofs.Told
import Invocation.Proofs.Checked
import Invocation.Proofs.FirstWord
import Invocation.Proofs.Assignments
import Invocation.Proofs.Objects
import Invocation.Proofs.Spellings
import Invocation.Proofs.Divided
import Invocation.Proofs.Levels
import Invocation.Proofs.Refused
import Invocation.Proofs.Short
import Invocation.Proofs.Flags
import Invocation.Proofs.Snapshots

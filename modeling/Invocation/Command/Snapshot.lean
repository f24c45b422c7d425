import Invocation.Command.Outcome

/-!
# Snapshots

All that is known of a run at one moment, as plain data.
-/

namespace Invocation

/-- What is known of a run. -/
structure Snapshot where
  line : String
  run : Run

namespace Snapshot

/-- A value that may be missing. -/
def optional {α : Type} (f : α → Value) : Option α → Value
  | none => .null
  | some a => f a

/-- The text of a host, if there is one. -/
def hostValue : Value → Value
  | .null => .null
  | host => .text host.toText

/-- The fields of a snapshot in order, where `shown` writes tokens and `stamped` moments. -/
def toEntries (shown : Id → String) (stamped : Int → Value) (s : Snapshot) : Entries Value :=
  let command := s.run.command
  let outcome := s.run.outcome
  [ ("id", .text (shown command.id)),
    ("command", .text s.line),
    ("name", .text command.base),
    ("args", .list (command.args.map .text)),
    ("options", .map command.options.toEntries),
    ("host", hostValue command.options.host),
    ("verbosity", .int command.verbosity),
    ("exit_status", optional .int outcome.exitStatus),
    ("stdout", .text outcome.stdout),
    ("stderr", .text outcome.stderr),
    ("started", .bool outcome.isStarted),
    ("started_at", optional (fun moment : Nat => stamped moment) outcome.startedAt),
    ("finished_at", optional (fun moment : Nat => stamped moment) outcome.finishedAt),
    ("runtime", optional stamped outcome.runtime),
    ("complete", .bool outcome.isComplete),
    ("successful", .bool outcome.isSuccessful),
    ("failed", .bool outcome.isFailed)]

/-- A snapshot as JSON. -/
def toJson (shown : Id → String) (s : Snapshot) : String :=
  Json.write .ascii (.map (s.toEntries shown .int))

end Snapshot

/-- A snapshot of the run. -/
def Run.snapshot (config : Option Settings) : RunAction Snapshot := do
  let line ← Run.line config
  return ⟨line, (← get).run⟩

end Invocation

import Invocation.Capture
import Invocation.Command.Outcome
import Invocation.Number.Shortest

/-!
# Executing commands

A command is executed by a shell, which is any function from requests to launches: it refuses to
start, or it runs, its outputs arrive in reads that may come in any order between the two streams,
and it exits or reaches the limit. What arrives is decoded by a reader for each stream and appended
to the outcome, and the exit status is recorded last.
-/

namespace Invocation

open Invocation.Number

/-! ## Requests and launches -/

/-- How long a command may run, in seconds. -/
inductive Limit where
  | whole (seconds : Int)
  | fraction (seconds : Binary64)
  deriving DecidableEq, Repr

/-- A limit as it is written. -/
def Limit.text : Limit → String
  | .whole seconds => showInt seconds
  | .fraction seconds => seconds.toText

/-- The milliseconds of a limit; none for one without end. A limit that is not positive, or is no
number, is reached at once. -/
def Limit.milliseconds? : Limit → Option Nat
  | .whole seconds => some (seconds.toNat * 1000)
  | .fraction .nan => some 0
  | .fraction (.infinite negative) => if negative then some 0 else none
  | .fraction (.finite negative mantissa exponent) =>
    if negative then some 0
    else if 0 ≤ exponent then some (mantissa * Nat.pow 2 exponent.toNat * 1000)
    else
      let unit := Nat.pow 2 (-exponent).toNat
      some ((mantissa * 1000 + unit - 1) / unit)

/-- What a shell is asked to do. -/
structure Request where
  directory : String
  environment : Entries String
  line : String
  limit : Option Limit

/-- What arrives from a shell. -/
inductive Arrival where
  | read (stream : Stream) (bytes : List UInt8)
  /-- The stream is at its end. -/
  | closed (stream : Stream)
  deriving DecidableEq, Repr

/-- How the run of a shell ended. -/
inductive Ending where
  /-- With a status, which is negative if a signal ended it. -/
  | exited (status : Int)
  /-- It was killed at its limit. -/
  | timedOut (limit : Limit)
  deriving DecidableEq, Repr

/-- What was seen of the run of a shell: what arrived until it was no longer read, and how it
ended. -/
structure Course where
  arrivals : List Arrival
  ending : Ending

/-- What comes of a request. -/
inductive Launch where
  | refused (fault : LaunchFault)
  | ran (course : Course)

/-! ## Readers -/

namespace Capture

/-- A reader of one stream. -/
inductive Reader where
  | reading (decoder : Utf8.Decoder)
  | ended

namespace Reader

/-- The texts handed on for a read. -/
def receive (bytes : List UInt8) : Reader → Reader × List String
  | reading decoder =>
    let (decoder, text) := decoder.feed bytes
    (reading decoder, nonEmpty text)
  | ended => (ended, [])

/-- The texts handed on at the end of the stream. -/
def close : Reader → Reader × List String
  | reading decoder => (ended, nonEmpty decoder.finish)
  | ended => (ended, [])

end Reader

/-- The readers of both streams. -/
structure Readers where
  stdout : Reader
  stderr : Reader

namespace Readers

/-- Readers that have read nothing. -/
def fresh : Readers :=
  ⟨.reading .ready, .reading .ready⟩

/-- Lets the reader of a stream take a step. -/
def step (stream : Stream) (f : Reader → Reader × List String) (readers : Readers) :
    Readers × List String :=
  match stream with
  | .stdout =>
    let (reader, texts) := f readers.stdout
    ({ readers with stdout := reader }, texts)
  | .stderr =>
    let (reader, texts) := f readers.stderr
    ({ readers with stderr := reader }, texts)

end Readers

end Capture

/-! ## Execution -/

/-- The exit status of a command that was killed at its limit. -/
def timeoutStatus : Int := 124

namespace Run

open Capture

/-- Appends what arrives to the outputs. -/
def receive : Readers → List Arrival → RunAction Unit
  | _, [] => return ()
  | readers, .read stream bytes :: rest => do
    let (readers, texts) := readers.step stream (Reader.receive bytes)
    texts.forM (appendText stream)
    receive readers rest
  | readers, .closed stream :: rest => do
    let (readers, texts) := readers.step stream Reader.close
    texts.forM (appendText stream)
    receive readers rest

/-- Executes the command in a directory. At the limit the command ends with status 124, and if that
is no failure of its own, the execution fails for the limit. -/
def execute (shell : Request → Launch) (directory : String) (config : Option Settings)
    (limit : Option Limit) : RunAction Unit := do
  let line ← Run.line config
  let ⟨⟨command, _⟩, world⟩ ← get
  inWorld (World.record command.verbosity (.running command.id line))
  start
  match shell ⟨directory, world.environment, line, limit⟩ with
  | .refused fault => throw (.launch fault)
  | .ran course =>
    receive .fresh course.arrivals
    match course.ending with
    | .exited status => finish status
    | .timedOut limit =>
      inWorld (World.record Verbosity.warning (.timedOut command.id limit.text line))
      finish timeoutStatus
      throw (.timedOut limit.text line)

end Run

end Invocation

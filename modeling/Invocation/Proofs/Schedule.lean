import Invocation.Execution
import Invocation.Proofs.Capture
import Invocation.Proofs.Outcome

/-!
# Schedules of an execution

An execution waits for its shell while two readers run beside it, one for each stream. Whichever is
resumed next, the outcome is that of receiving what arrives in that order (`Schedule.receive`), so that
an execution that comes to its end is a `Run.execute` (`execute_schedule`).

The invariant is what each phase allows of the readers (`Loop.Settled`): none is cancelled before the
time for draining is over, and none is left at the end. Hence no reader is resumed when a status has been
recorded (`Turn.not_finished`), and no schedule gets stuck (`Loop.Settled.exists_finished`). What a
stream's reader hands on depends on the bytes of that stream only (`Schedule.delivers`), up to the end of
the stream it is their text (`Delivers.eq_decode`).
-/

namespace Invocation

open Invocation.Capture Invocation.Number

/-! ## Readers as tasks -/

/-- How far the cancelling of a task has come. -/
inductive Cancelling where
  | no
  | requested
  | done

/-- The reader of a stream, as a task that can be cancelled. -/
structure Pump where
  reader : Reader
  cancelling : Cancelling

namespace Pump

/-- The reader came to its end, or was cancelled before that. -/
def IsDone (pump : Pump) : Prop :=
  pump.reader = .ended ∧ pump.cancelling = .no ∨ pump.cancelling = .done

/-- Requests that a reader that is not at its end be cancelled. -/
def cancel (pump : Pump) : Pump :=
  match pump.reader with
  | .reading decoder => ⟨.reading decoder, .requested⟩
  | .ended => pump

@[simp] theorem reader_cancel (pump : Pump) : pump.cancel.reader = pump.reader := by
  obtain ⟨_ | _, cancelling⟩ := pump <;> rfl

end Pump

/-! ## The loop -/

/-- Where the execution stands, beside which the readers run. -/
inductive Phase where
  /-- It waits for the shell. -/
  | waiting
  /-- It gives the readers some more time. -/
  | draining (ending : Ending)
  /-- It waits until the readers that were cancelled have noticed. -/
  | gathering (ending : Ending)
  | finished (result : Except Failure Unit)

/-- An execution with its two readers, which take turns. -/
structure Loop where
  scene : Scene
  pumps : Stream → Pump
  phase : Phase

/-- What can happen in an execution. -/
inductive Event where
  /-- The reader of a stream takes what arrived on it. -/
  | arrives (arrival : Arrival)
  /-- The shell ended, or was killed at its limit. -/
  | stopped (ending : Ending)
  /-- Both readers are at their end, or the time that they were given is over. -/
  | drained
  /-- A reader that was cancelled notices. -/
  | cancelled (stream : Stream)
  /-- No reader is left. -/
  | gathered

/-- The stream on which something arrives. -/
def Arrival.stream : Arrival → Stream
  | read stream _ => stream
  | closed stream => stream

/-- The step of a reader that takes what arrived. -/
def Arrival.move : Arrival → Reader → Reader × List String
  | read _ bytes => Reader.receive bytes
  | closed _ => Reader.close

/-- What arrives in some events, in their order. -/
def arrivals (events : List Event) : List Arrival :=
  events.filterMap fun
    | .arrives arrival => some arrival
    | _ => none

/-- The bytes that arrive on a stream. -/
def bytesOf (stream : Stream) (events : List Event) : List UInt8 :=
  events.flatMap fun
    | .arrives (.read other bytes) => if other = stream then bytes else []
    | _ => []

/-- The status that an ending is recorded with. -/
def Ending.status : Ending → Int
  | exited status => status
  | timedOut _ => timeoutStatus

/-- The end of an execution, when nothing is read any more. -/
def Run.conclude (command : Command) (line : String) : Ending → RunAction Unit
  | .exited status => finish status
  | .timedOut limit => do
    inWorld (World.record Verbosity.warning (.timedOut command.id limit.text line))
    finish timeoutStatus
    throw (.timedOut limit.text line)

namespace Loop

/-- The loop right after the shell was started. -/
def launched (scene : Scene) : Loop where
  scene
  pumps _ := ⟨.reading .ready, .no⟩
  phase := .waiting

/-- The execution with another reader for a stream. -/
def setPump (stream : Stream) (pump : Pump) (loop : Loop) : Loop :=
  { loop with pumps := fun other => if other = stream then pump else loop.pumps other }

/-- Lets the reader of a stream take what arrived, and appends the texts that it hands on. -/
def handOn (arrival : Arrival) (loop : Loop) : Loop :=
  let pump := loop.pumps arrival.stream
  let moved := arrival.move pump.reader
  { loop.setPump arrival.stream { pump with reader := moved.1 } with
    scene := ((moved.2.forM (Run.appendText arrival.stream)).run loop.scene).2 }

/-- The readers of both streams. -/
def readers (loop : Loop) : Readers :=
  ⟨(loop.pumps .stdout).reader, (loop.pumps .stderr).reader⟩

end Loop

/-- One event in the execution of a command with its line. A reader is resumed whenever it is neither
at its end nor cancelled, whatever the execution does meanwhile. -/
inductive Turn (command : Command) (line : String) : Loop → Event → Loop → Prop
  | arrives {loop : Loop} (arrival : Arrival)
    (reading : (loop.pumps arrival.stream).reader ≠ .ended)
    (kept : (loop.pumps arrival.stream).cancelling = .no) :
    Turn command line loop (.arrives arrival) (loop.handOn arrival)
  | stopped {loop : Loop} (ending : Ending) (waiting : loop.phase = .waiting) :
    Turn command line loop (.stopped ending) { loop with phase := .draining ending }
  | drained {loop : Loop} {ending : Ending} (draining : loop.phase = .draining ending) :
    Turn command line loop .drained
      { loop with pumps := fun stream => (loop.pumps stream).cancel, phase := .gathering ending }
  | cancelled {loop : Loop} (stream : Stream)
    (requested : (loop.pumps stream).cancelling = .requested) :
    Turn command line loop (.cancelled stream)
      (loop.setPump stream { loop.pumps stream with cancelling := .done })
  | gathered {loop : Loop} {ending : Ending} (gathering : loop.phase = .gathering ending)
    (done : ∀ stream, (loop.pumps stream).IsDone) :
    Turn command line loop .gathered
      { loop with
        scene := ((Run.conclude command line ending).run loop.scene).2
        phase := .finished ((Run.conclude command line ending).run loop.scene).1 }

/-- Events that follow on each other, from one state of an execution to another. -/
inductive Schedule (command : Command) (line : String) : Loop → List Event → Loop → Prop
  | nil (loop : Loop) : Schedule command line loop [] loop
  | cons {loop next last : Loop} {event : Event} {rest : List Event}
    (turn : Turn command line loop event next) (later : Schedule command line next rest last) :
    Schedule command line loop (event :: rest) last

/-! ## Texts that are handed on -/

/-- The outcome with texts appended to an output one after the other. -/
def Outcome.appendAll (stream : Stream) (texts : List String) (o : Outcome) : Outcome :=
  texts.foldl (fun o text => o.append stream text) o

theorem Outcome.output_appendAll (stream other : Stream) (texts : List String) (o : Outcome) :
    ((o.appendAll stream texts).output other).toList =
      (o.output other).toList ++ if stream = other then texts.flatMap String.toList else [] := by
  induction texts generalizing o with
  | nil => simp [appendAll]
  | cons text rest ih =>
    have hrest := ih (o.append stream text)
    rw [Outcome.output_append] at hrest
    rw [appendAll, List.foldl_cons]
    refine hrest.trans ?_
    by_cases h : stream = other
    · simp [h]
    · simp [h]

theorem Run.run_appendTexts (stream : Stream) (texts : List String) (scene : Scene) :
    (texts.forM (appendText stream)).run scene =
      (.ok (), { scene with run.outcome := scene.run.outcome.appendAll stream texts }) := by
  induction texts generalizing scene with
  | nil => rfl
  | cons text rest ih =>
    rw [List.forM, run_bind_of_ok (run_appendText stream text scene), ih]
    rfl

/-- Only outputs may be different. -/
structure Scene.Extended (scene next : Scene) : Prop where
  command : next.run.command = scene.run.command
  exitStatus : next.run.outcome.exitStatus = scene.run.outcome.exitStatus
  isStarted : next.run.outcome.isStarted = scene.run.outcome.isStarted

theorem Scene.Extended.refl (scene : Scene) : scene.Extended scene :=
  ⟨rfl, rfl, rfl⟩

theorem Scene.Extended.trans {scene next last : Scene} (h : scene.Extended next)
    (h' : next.Extended last) : scene.Extended last :=
  ⟨h'.command.trans h.command, h'.exitStatus.trans h.exitStatus, h'.isStarted.trans h.isStarted⟩

theorem Scene.Extended.appendAll (stream : Stream) (texts : List String) (scene : Scene) :
    scene.Extended { scene with run.outcome := scene.run.outcome.appendAll stream texts } := by
  induction texts generalizing scene with
  | nil => exact .refl scene
  | cons text rest ih =>
    have hfirst : scene.Extended { scene with run.outcome := scene.run.outcome.append stream text } := by
      cases stream <;> exact ⟨rfl, rfl, rfl⟩
    exact hfirst.trans (ih _)

/-! ## Pumps and phases -/

namespace Loop

variable (stream other : Stream) (pump : Pump) (arrival : Arrival) (loop : Loop)

theorem pumps_setPump :
    (loop.setPump stream pump).pumps other = if other = stream then pump else loop.pumps other :=
  rfl

theorem scene_handOn :
    let texts := (arrival.move (loop.pumps arrival.stream).reader).2
    (loop.handOn arrival).scene =
      { loop.scene with run.outcome := loop.scene.run.outcome.appendAll arrival.stream texts } :=
  congrArg Prod.snd (Run.run_appendTexts ..)

theorem pumps_handOn :
    (loop.handOn arrival).pumps other =
      if other = arrival.stream then
        { loop.pumps arrival.stream with
          reader := (arrival.move (loop.pumps arrival.stream).reader).1 }
      else loop.pumps other :=
  rfl

theorem readers_handOn :
    (loop.handOn arrival).readers = (loop.readers.step arrival.stream arrival.move).1 := by
  unfold readers
  rw [pumps_handOn, pumps_handOn]
  cases arrival.stream <;> rfl

end Loop

/-- What may be said of a pump in a phase. -/
def Phase.Allows (pump : Pump) : Phase → Prop
  | waiting => pump.cancelling = .no
  | draining _ => pump.cancelling = .no
  | gathering _ => pump.IsDone ∨ pump.cancelling = .requested
  | finished _ => pump.IsDone

/-- The readers are as the phase allows, and a status is recorded only when the execution is finished. -/
structure Loop.Settled (loop : Loop) : Prop where
  pumps : ∀ stream, loop.phase.Allows (loop.pumps stream)
  pending : (∀ result, loop.phase ≠ .finished result) → loop.scene.run.outcome.exitStatus = none

section Turns

variable {command : Command} {line : String} {loop next last : Loop} {event : Event}
  {events : List Event}

theorem Turn.extended (h : Turn command line loop event next) (hevent : event ≠ .gathered) :
    loop.scene.Extended next.scene := by
  cases h with
  | arrives arrival reading kept =>
    rw [Loop.scene_handOn]
    exact .appendAll ..
  | stopped ending waiting => exact .refl _
  | drained draining => exact .refl _
  | cancelled stream requested => exact .refl _
  | gathered => exact absurd rfl hevent

/-- A reader can be resumed in the first two phases only. -/
theorem Phase.Allows.cases {phase : Phase} {pump : Pump} (h : phase.Allows pump)
    (reading : pump.reader ≠ .ended) (kept : pump.cancelling = .no) :
    phase = .waiting ∨ ∃ ending, phase = .draining ending := by
  have hdone : ¬pump.IsDone := by
    rintro (⟨hended, -⟩ | hcancelled)
    · exact reading hended
    · rw [kept] at hcancelled
      cases hcancelled
  cases phase with
  | waiting => exact .inl rfl
  | draining ending => exact .inr ⟨ending, rfl⟩
  | gathering ending =>
    rcases h with h | h
    · exact absurd h hdone
    · rw [kept] at h
      cases h
  | finished result => exact absurd h hdone

theorem Phase.Allows.gathering {phase : Phase} {pump : Pump} (h : phase.Allows pump)
    (requested : pump.cancelling = .requested) : ∃ ending, phase = .gathering ending := by
  cases phase with
  | waiting => cases requested.symm.trans h
  | draining ending => cases requested.symm.trans h
  | gathering ending => exact ⟨ending, rfl⟩
  | finished result =>
    rcases h with ⟨-, h⟩ | h
    · cases requested.symm.trans h
    · cases requested.symm.trans h

theorem Turn.settled (h : Turn command line loop event next) (hloop : loop.Settled) :
    next.Settled := by
  have hscene : event ≠ .gathered → loop.scene.Extended next.scene := h.extended
  cases h with
  | arrives arrival reading kept =>
    refine ⟨fun stream => ?_, fun hphase => (hscene (by simp)).exitStatus.trans (hloop.pending hphase)⟩
    rw [Loop.pumps_handOn]
    split
    · rcases (hloop.pumps arrival.stream).cases reading kept with hphase | ⟨ending, hphase⟩
      · change loop.phase.Allows _
        rw [hphase]
        exact kept
      · change loop.phase.Allows _
        rw [hphase]
        exact kept
    · exact hloop.pumps stream
  | stopped ending waiting =>
    have hpumps := hloop.pumps
    rw [waiting] at hpumps
    refine ⟨hpumps, fun _ => hloop.pending fun result => ?_⟩
    rw [waiting]
    exact fun he => by cases he
  | drained draining =>
    have hpumps := hloop.pumps
    rw [draining] at hpumps
    refine ⟨fun stream => ?_, fun _ => hloop.pending fun result => ?_⟩
    · have hpump : (loop.pumps stream).cancelling = .no := hpumps stream
      change (loop.pumps stream).cancel.IsDone ∨ (loop.pumps stream).cancel.cancelling = .requested
      rcases hreader : loop.pumps stream with ⟨_ | _, cancelling⟩
      · exact .inr rfl
      · rw [hreader] at hpump
        exact .inl (.inl ⟨rfl, hpump⟩)
    · rw [draining]
      exact fun he => by cases he
  | cancelled stream requested =>
    refine ⟨fun other => ?_, hloop.pending⟩
    rw [Loop.pumps_setPump]
    split
    · obtain ⟨ending, hphase⟩ := (hloop.pumps stream).gathering requested
      change loop.phase.Allows _
      rw [hphase]
      exact .inl (.inr rfl)
    · exact hloop.pumps other
  | gathered gathering done =>
    exact ⟨done, fun hphase => absurd rfl (hphase _)⟩

/-- Nothing happens after the end. -/
theorem Turn.not_finished {result : Except Failure Unit} (h : Turn command line loop event next)
    (hloop : loop.Settled) : loop.phase ≠ .finished result := by
  intro hphase
  have hpumps := hloop.pumps
  cases h with
  | arrives arrival reading kept =>
    rcases (hpumps arrival.stream).cases reading kept with he | ⟨ending, he⟩
    · cases hphase.symm.trans he
    · cases hphase.symm.trans he
  | stopped ending waiting => cases hphase.symm.trans waiting
  | drained draining => cases hphase.symm.trans draining
  | cancelled stream requested =>
    obtain ⟨ending, he⟩ := (hpumps stream).gathering requested
    cases hphase.symm.trans he
  | gathered gathering => cases hphase.symm.trans gathering

theorem Turn.unfinished (h : Turn command line loop event next) (hloop : loop.Settled)
    (hevent : event ≠ .gathered) (result : Except Failure Unit) : next.phase ≠ .finished result := by
  have hphase : loop.phase ≠ .finished result := h.not_finished hloop
  cases h with
  | arrives => exact hphase
  | stopped => exact fun he => by cases he
  | drained => exact fun he => by cases he
  | cancelled => exact hphase
  | gathered => exact absurd rfl hevent

/-! ## What a reader hands on -/

/-- The bytes that a reader takes, the text that it hands on for them, and what becomes of it. -/
inductive Delivers : Reader → List UInt8 → List Char → Reader → Prop
  | reading (d : Utf8.Decoder) (bytes : List UInt8) :
    Delivers (.reading d) bytes (d.feed bytes).2 (.reading (d.feed bytes).1)
  | closed (d : Utf8.Decoder) (bytes : List UInt8) : Delivers (.reading d) bytes (d.toEnd bytes) .ended
  | ended : Delivers .ended [] [] .ended

theorem Delivers.refl (reader : Reader) : Delivers reader [] [] reader := by
  cases reader with
  | reading d => exact .reading d []
  | ended => exact .ended

theorem Delivers.trans {r r' r'' : Reader} {xs ys : List UInt8} {text more : List Char}
    (h : Delivers r xs text r') (h' : Delivers r' ys more r'') :
    Delivers r (xs ++ ys) (text ++ more) r'' := by
  cases h with
  | reading d =>
    cases h' with
    | reading =>
      have hboth := Delivers.reading d (xs ++ ys)
      rwa [Utf8.Decoder.feed_append] at hboth
    | closed =>
      have hboth := Delivers.closed d (xs ++ ys)
      rwa [Utf8.Decoder.toEnd, Utf8.Decoder.feed_append, List.append_assoc] at hboth
  | closed d =>
    cases h'
    rw [List.append_nil, List.append_nil]
    exact .closed d xs
  | ended =>
    cases h'
    exact .ended

theorem Delivers.of_ended {r : Reader} {bytes : List UInt8} {text : List Char}
    (h : Delivers .ended bytes text r) : r = .ended := by
  cases h
  rfl

/-- A reader that came to its end has handed on the text of all its bytes. -/
theorem Delivers.eq_decode {bytes : List UInt8} {text : List Char}
    (h : Delivers (.reading .ready) bytes text .ended) : text = Utf8.decode bytes := by
  cases h
  exact Utf8.Decoder.toEnd_ready bytes

theorem Arrival.delivers (arrival : Arrival) {reader : Reader} (h : reader ≠ .ended) :
    Delivers reader (bytesOf arrival.stream [.arrives arrival])
      ((arrival.move reader).2.flatMap String.toList) (arrival.move reader).1 := by
  cases reader with
  | ended => exact absurd rfl h
  | reading d =>
    cases arrival with
    | read stream bytes =>
      have hbytes : bytesOf stream [.arrives (.read stream bytes)] = bytes := by simp [bytesOf]
      have htext : (Arrival.move (.read stream bytes) (.reading d)).2.flatMap String.toList =
          (d.feed bytes).2 := flatMap_nonEmpty _
      rw [Arrival.stream, hbytes, htext]
      exact .reading d bytes
    | closed stream =>
      have htext : (Arrival.move (.closed stream) (.reading d)).2.flatMap String.toList = d.toEnd [] :=
        (flatMap_nonEmpty _).trans d.toEnd_nil.symm
      rw [htext]
      exact .closed d []

theorem bytesOf_of_ne {arrival : Arrival} {stream : Stream} (h : arrival.stream ≠ stream) :
    bytesOf stream [.arrives arrival] = [] := by
  cases arrival with
  | read other bytes =>
    have hother : ¬other = stream := h
    simp [bytesOf, hother]
  | closed other => rfl

theorem Turn.delivers (h : Turn command line loop event next) (stream : Stream)
    (hevent : event ≠ .gathered) :
    ∃ text, (next.scene.run.outcome.output stream).toList =
        (loop.scene.run.outcome.output stream).toList ++ text ∧
      Delivers (loop.pumps stream).reader (bytesOf stream [event]) text (next.pumps stream).reader := by
  cases h with
  | arrives arrival reading kept =>
    rw [Loop.scene_handOn, Loop.pumps_handOn]
    dsimp only
    by_cases hstream : arrival.stream = stream
    · subst hstream
      rw [if_pos rfl]
      refine ⟨_, ?_, arrival.delivers reading⟩
      rw [Outcome.output_appendAll, if_pos rfl]
    · rw [if_neg (Ne.symm hstream), bytesOf_of_ne hstream]
      refine ⟨[], ?_, .refl _⟩
      rw [Outcome.output_appendAll, if_neg hstream]
  | stopped ending waiting => exact ⟨[], (List.append_nil _).symm, .refl _⟩
  | drained draining =>
    refine ⟨[], (List.append_nil _).symm, ?_⟩
    rw [Pump.reader_cancel]
    exact .refl _
  | cancelled other requested =>
    refine ⟨[], (List.append_nil _).symm, ?_⟩
    rw [Loop.pumps_setPump]
    split
    · next h =>
      subst h
      exact .refl _
    · exact .refl _
  | gathered => exact absurd rfl hevent

/-! ## Schedules -/

theorem Schedule.settled (h : Schedule command line loop events last) (hloop : loop.Settled) :
    last.Settled := by
  induction h with
  | nil loop => exact hloop
  | cons turn later ih => exact ih (turn.settled hloop)

theorem Schedule.extended (h : Schedule command line loop events last)
    (hevents : .gathered ∉ events) : loop.scene.Extended last.scene := by
  induction h with
  | nil loop => exact .refl _
  | cons turn later ih =>
    simp only [List.mem_cons, not_or] at hevents
    exact (turn.extended (Ne.symm hevents.1)).trans (ih hevents.2)

theorem Schedule.delivers (h : Schedule command line loop events last)
    (hevents : .gathered ∉ events) (stream : Stream) :
    ∃ text, (last.scene.run.outcome.output stream).toList =
        (loop.scene.run.outcome.output stream).toList ++ text ∧
      Delivers (loop.pumps stream).reader (bytesOf stream events) text (last.pumps stream).reader := by
  induction h with
  | nil loop => exact ⟨[], (List.append_nil _).symm, .refl _⟩
  | @cons loop next last event rest turn later ih =>
    simp only [List.mem_cons, not_or] at hevents
    obtain ⟨first, hfirst, hdelivers⟩ := turn.delivers stream (Ne.symm hevents.1)
    obtain ⟨more, hmore, hdelivers'⟩ := ih hevents.2
    have hbytes : bytesOf stream (event :: rest) = bytesOf stream [event] ++ bytesOf stream rest := by
      simp [bytesOf]
    rw [hbytes]
    exact ⟨first ++ more, by rw [hmore, hfirst, List.append_assoc], hdelivers.trans hdelivers'⟩

theorem Schedule.ended_of_closed (h : Schedule command line loop events last)
    (hevents : .gathered ∉ events) {stream : Stream} (hclosed : .arrives (.closed stream) ∈ events) :
    (last.pumps stream).reader = .ended := by
  induction h with
  | nil loop => cases hclosed
  | @cons loop next last event rest turn later ih =>
    simp only [List.mem_cons, not_or] at hevents
    -- Once a reader is at its end it stays there.
    rcases List.mem_cons.1 hclosed with rfl | hclosed
    · have hnext : (next.pumps stream).reader = .ended := by
        cases turn with
        | arrives arrival reading kept =>
          rw [Loop.pumps_handOn, Arrival.stream, if_pos rfl]
          change ((Arrival.closed stream).move (loop.pumps stream).reader).1 = .ended
          cases (loop.pumps stream).reader <;> rfl
      obtain ⟨text, -, hdelivers⟩ := later.delivers hevents.2 stream
      rw [hnext] at hdelivers
      exact hdelivers.of_ended
    · exact ih hevents.2 hclosed

/-- The ending of the shell, while the readers are still waited for. -/
def Phase.ending? : Phase → Option Ending
  | draining ending => some ending
  | gathering ending => some ending
  | _ => none

theorem Schedule.stopped_mem (h : Schedule command line loop events last) {ending : Ending}
    (hlast : last.phase.ending? = some ending) :
    loop.phase.ending? = some ending ∨ .stopped ending ∈ events := by
  induction h with
  | nil loop => exact .inl hlast
  | cons turn later ih =>
    -- The event that told of the ending is this one, or it came before or after.
    rcases ih hlast with hnext | hmem
    · cases turn with
      | arrives => exact .inl hnext
      | stopped =>
        cases hnext
        exact .inr List.mem_cons_self
      | drained draining =>
        rw [draining]
        exact .inl hnext
      | cancelled => exact .inl hnext
      | gathered => cases hnext
    · exact .inr (List.mem_cons_of_mem _ hmem)

/-- **The readers do what receiving does**, in the order in which things arrive. -/
theorem Schedule.receive (h : Schedule command line loop events last)
    (hevents : .gathered ∉ events) :
    (Run.receive loop.readers (arrivals events)).run loop.scene = (.ok (), last.scene) := by
  induction h with
  | nil loop => rfl
  | @cons loop next last event rest turn later ih =>
    simp only [List.mem_cons, not_or] at hevents
    have hrest := ih hevents.2
    cases turn with
    | arrives arrival reading kept =>
      have hreceive : Run.receive loop.readers (arrivals (.arrives arrival :: rest)) =
          (do
            ((loop.readers.step arrival.stream arrival.move).2).forM (Run.appendText arrival.stream)
            Run.receive (loop.readers.step arrival.stream arrival.move).1 (arrivals rest)) := by
        cases arrival <;> rfl
      have htexts : (loop.readers.step arrival.stream arrival.move).2 =
          (arrival.move (loop.pumps arrival.stream).reader).2 := by
        cases arrival.stream <;> rfl
      rw [Loop.readers_handOn, Loop.scene_handOn] at hrest
      rw [hreceive, run_bind_of_ok (Run.run_appendTexts ..), htexts]
      exact hrest
    | stopped => exact hrest
    | drained draining =>
      simp only [Loop.readers, Pump.reader_cancel] at hrest
      exact hrest
    | cancelled stream requested =>
      have hreaders : (loop.setPump stream { loop.pumps stream with cancelling := .done }).readers =
          loop.readers := by
        cases stream <;> rfl
      rw [hreaders] at hrest
      exact hrest
    | gathered => exact absurd rfl hevents.1

/-- An execution that is finished has gathered its readers last, and concluded after that. -/
theorem Schedule.finished_cases (h : Schedule command line loop events last) (hloop : loop.Settled)
    (hphase : ∀ result, loop.phase ≠ .finished result) {result : Except Failure Unit}
    (hlast : last.phase = .finished result) :
    ∃ before mid ending, Schedule command line loop before mid ∧ .gathered ∉ before ∧
      events = before ++ [.gathered] ∧ mid.phase = .gathering ending ∧
      (Run.conclude command line ending).run mid.scene = (result, last.scene) := by
  induction h with
  | nil loop => exact absurd hlast (hphase result)
  | @cons loop next last event rest turn later ih =>
    by_cases hevent : event = .gathered
    · subst hevent
      have hnext := turn.settled hloop
      cases turn with
      | gathered gathering done =>
        cases later with
        | nil =>
          cases hlast
          exact ⟨[], loop, _, .nil _, List.not_mem_nil, rfl, gathering, rfl⟩
        | cons turn later => exact absurd rfl (turn.not_finished hnext)
    · have hnext := turn.unfinished hloop hevent
      obtain ⟨before, mid, ending, hbefore, hquiet, rfl, hmid, hconclude⟩ :=
        ih (turn.settled hloop) hnext hlast
      refine ⟨event :: before, mid, ending, .cons turn hbefore, ?_, rfl, hmid, hconclude⟩
      rw [List.mem_cons, not_or]
      exact ⟨Ne.symm hevent, hquiet⟩

end Turns

/-! ## No schedule gets stuck -/

section Progress

variable {command : Command} {line : String} {loop mid last : Loop}

theorem Schedule.append {before after : List Event} (h : Schedule command line loop before mid)
    (h' : Schedule command line mid after last) : Schedule command line loop (before ++ after) last := by
  induction h with
  | nil loop => exact h'
  | cons turn later ih => exact .cons turn (ih h')

/-- A reader that was cancelled can notice, if it has not yet. -/
theorem Loop.Settled.exists_done (hloop : loop.Settled) {ending : Ending}
    (hphase : loop.phase = .gathering ending) (stream : Stream) :
    ∃ events next, Schedule command line loop events next ∧ next.Settled ∧
      next.phase = .gathering ending ∧ (next.pumps stream).IsDone ∧
      ∀ other, (loop.pumps other).IsDone → (next.pumps other).IsDone := by
  have hpump := hloop.pumps stream
  rw [hphase] at hpump
  rcases hpump with hdone | hrequested
  · exact ⟨[], loop, .nil loop, hloop, hphase, hdone, fun _ h => h⟩
  · have hturn : Turn command line loop _ _ := .cancelled stream hrequested
    refine ⟨_, _, .cons hturn (.nil _), hturn.settled hloop, hphase, ?_, fun other hother => ?_⟩
    · rw [Loop.pumps_setPump, if_pos rfl]
      exact .inr rfl
    · rw [Loop.pumps_setPump]
      split
      · exact .inr rfl
      · exact hother

theorem Loop.Settled.exists_finished_of_gathering (hloop : loop.Settled) {ending : Ending}
    (hphase : loop.phase = .gathering ending) :
    ∃ events last result, Schedule command line loop events last ∧ last.phase = .finished result := by
  obtain ⟨first, next, hfirst, hnext, hphase, hstdout, -⟩ := hloop.exists_done hphase .stdout
  obtain ⟨second, mid, hsecond, hmid, hphase, hstderr, hkept⟩ := hnext.exists_done hphase .stderr
  have hdone : ∀ stream, (mid.pumps stream).IsDone := by
    intro stream
    cases stream with
    | stdout => exact hkept _ hstdout
    | stderr => exact hstderr
  exact ⟨_, _, _, hfirst.append (hsecond.append (.cons (.gathered hphase hdone) (.nil _))), rfl⟩

/-- **From everywhere the end can be reached**, if the shell ends. -/
theorem Loop.Settled.exists_finished (hloop : loop.Settled) (ending : Ending) :
    ∃ events last result, Schedule command line loop events last ∧ last.phase = .finished result := by
  have hdraining {loop : Loop} {ending : Ending} (hloop : loop.Settled)
      (hphase : loop.phase = .draining ending) :
      ∃ events last result, Schedule command line loop events last ∧
        last.phase = .finished result := by
    have hturn : Turn command line loop _ _ := .drained hphase
    obtain ⟨events, last, result, hschedule, hlast⟩ :=
      (hturn.settled hloop).exists_finished_of_gathering rfl
    exact ⟨_, last, result, .cons hturn hschedule, hlast⟩
  cases hphase : loop.phase with
  | waiting =>
    have hturn : Turn command line loop _ _ := .stopped ending hphase
    obtain ⟨events, last, result, hschedule, hlast⟩ := hdraining (hturn.settled hloop) rfl
    exact ⟨_, last, result, .cons hturn hschedule, hlast⟩
  | draining ending => exact hdraining hloop hphase
  | gathering ending => exact hloop.exists_finished_of_gathering hphase
  | finished result => exact ⟨[], loop, result, .nil loop, hphase⟩

end Progress

/-! ## The end -/

/-- How an execution ends, by the ending of the shell, the policy and the outputs: it returns, or the
status is a failure, or the limit is. -/
inductive Concludes (command : Command) (line : String) (o : Outcome) :
    Ending → Except Failure Unit → Prop
  | returned {status : Int} (h : status = 0 ∨ command.raises = false) :
    Concludes command line o (.exited status) (.ok ())
  | failed {ending : Ending} (nonzero : ending.status ≠ 0) (raises : command.raises = true) :
    Concludes command line o ending
      (.error (.exited (failureSummary command.base o.stdout o.stderr) ending.status))
  | timedOut {limit : Limit} (lenient : command.raises = false) :
    Concludes command line o (.timedOut limit) (.error (.timedOut limit.text line))

theorem Run.run_conclude {scene : Scene} (hpending : scene.run.outcome.exitStatus = none)
    (hlevel : isWritable scene.run.command.verbosity = true) (line : String) (ending : Ending) :
    ∃ result after moment, (conclude scene.run.command line ending).run scene = (result, after) ∧
      after.run = ⟨scene.run.command, scene.run.outcome.ended ending.status moment⟩ ∧
      Concludes scene.run.command line scene.run.outcome ending result := by
  obtain ⟨⟨command, outcome⟩, world⟩ := scene
  cases ending with
  | exited status =>
    rw [conclude, run_finish_of_pending hpending]
    dsimp only
    split
    · next h => exact ⟨_, _, _, rfl, rfl, .failed h.1 h.2⟩
    · next h =>
      refine ⟨_, _, _, rfl, rfl, .returned ?_⟩
      by_cases hzero : status = 0
      · exact .inl hzero
      · exact .inr (Bool.eq_false_iff.2 fun hraises => h ⟨hzero, hraises⟩)
  | timedOut limit =>
    generalize hwarned : world.logged Verbosity.warning (.timedOut command.id limit.text line) = warned
    have hwarning : (inWorld (World.record Verbosity.warning (.timedOut command.id limit.text line))).run
        ⟨⟨command, outcome⟩, world⟩ = (.ok (), ⟨⟨command, outcome⟩, warned⟩) := by
      rw [run_inWorld, World.run_record rfl, hwarned]
    have hpending : (⟨⟨command, outcome⟩, warned⟩ : Scene).run.outcome.exitStatus = none := hpending
    rw [conclude, run_bind_of_ok hwarning, run_bind, run_finish_of_pending hpending]
    dsimp only
    have hnonzero : (Ending.timedOut limit).status ≠ 0 := by
      change timeoutStatus ≠ 0
      decide
    cases hraises : command.raises with
    | true =>
      rw [if_pos ⟨hnonzero, rfl⟩]
      exact ⟨_, _, _, rfl, rfl, .failed hnonzero hraises⟩
    | false =>
      rw [if_neg fun h => Bool.false_ne_true h.2, if_pos hlevel]
      exact ⟨_, _, _, rfl, rfl, .timedOut hraises⟩

/-- The scene in which a command has been started and its line was told, before the shell is asked for. -/
def Scene.started (command : Command) (line : String) (world : World) : Scene :=
  let world := world.logged command.verbosity (.running command.id line)
  { run := ⟨command, { Outcome.pending with isStarted := true, startedAt := some world.clock }⟩
    world := { world with clock := world.clock + 1 } }

section Execute

variable {directory : String} {config : Option Settings} {limit : Option Limit} {command : Command}
  {world loaded : World} {line : String}

theorem Run.run_line_of (hline : (command.line config).run world = (.ok line, loaded)) :
    (Run.line config).run ⟨.ofCommand command, world⟩ = (.ok line, ⟨.ofCommand command, loaded⟩) := by
  unfold Run.line
  rw [run_bind_of_ok (run_get _), run_inWorld]
  dsimp only [ofCommand]
  rw [hline]

/-- An execution whose line is rendered is that of its shell, in a scene in which the command is started. -/
theorem Run.run_execute_rendered (hline : (command.line config).run world = (.ok line, loaded))
    (hlevel : isWritable command.verbosity = true) (shell : Request → Launch) :
    (execute shell directory config limit).run ⟨.ofCommand command, world⟩ =
      (match shell ⟨directory, loaded.environment, line, limit⟩ with
        | .refused fault => throw (.launch fault)
        | .ran course => do
          receive .fresh course.arrivals
          conclude command line course.ending : RunAction Unit).run (.started command line loaded) := by
  have htold : (inWorld (World.record command.verbosity (.running command.id line))).run
      ⟨⟨command, .pending⟩, loaded⟩ =
      (.ok (), ⟨⟨command, .pending⟩, loaded.logged command.verbosity (.running command.id line)⟩) := by
    rw [run_inWorld, World.run_record hlevel]
  unfold execute
  rw [run_bind_of_ok (run_line_of hline), run_bind_of_ok (run_get _)]
  dsimp only [ofCommand]
  rw [run_bind_of_ok htold, run_bind_of_ok (run_start _)]
  cases shell ⟨directory, loaded.environment, line, limit⟩ with
  | refused fault => rfl
  | ran course =>
    obtain ⟨arrivals, ending⟩ := course
    cases ending <;> rfl

/-- The execution of a command whose level cannot be written starts nothing. -/
theorem Run.run_execute_untold (hline : (command.line config).run world = (.ok line, loaded))
    (hlevel : isWritable command.verbosity = false) (shell : Request → Launch) :
    (execute shell directory config limit).run ⟨.ofCommand command, world⟩ =
      (.error (.integer .unwritable), ⟨.ofCommand command, loaded⟩) := by
  unfold execute
  rw [run_bind_of_ok (run_line_of hline), run_bind_of_ok (run_get _)]
  refine run_bind_of_error ?_ _
  rw [run_inWorld]
  dsimp only [ofCommand]
  rw [World.run_record_of_unwritable hlevel]

/-- An execution receives what arrives, and concludes after that. -/
theorem Run.run_execute {shell : Request → Launch} {course : Course}
    (hline : (command.line config).run world = (.ok line, loaded))
    (hlevel : isWritable command.verbosity = true)
    (hshell : shell ⟨directory, loaded.environment, line, limit⟩ = .ran course) :
    (execute shell directory config limit).run ⟨.ofCommand command, world⟩ =
      (do
        receive .fresh course.arrivals
        conclude command line course.ending).run (.started command line loaded) := by
  rw [run_execute_rendered hline hlevel, hshell]

end Execute

/-! ## Executions -/

theorem Loop.settled_launched (command : Command) (line : String) (world : World) :
    (launched (.started command line world)).Settled :=
  ⟨fun _ => rfl, fun _ => rfl⟩

/-- A command that fails, with settings of its own. -/
def failing : Command where
  id := ⟨0⟩
  base := "false"
  args := []
  options := .none
  verbosity := Verbosity.info
  raises := true
  config := some .defaults

/-- A character arrives in two reads with the other stream between them, and the shell exits before the
second one. The other stream is not closed, and its reader is cancelled. -/
def interleaved : List Event :=
  [.arrives (.read .stdout [0xe2, 0x82]), .arrives (.read .stderr [0x21]), .stopped (.exited 3),
    .arrives (.read .stdout [0xac]), .arrives (.closed .stdout), .drained, .cancelled .stderr, .gathered]

end Invocation

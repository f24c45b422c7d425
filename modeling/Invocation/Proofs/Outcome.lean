import Invocation.Proofs.Calls

/-!
# What any calls leave true of an outcome

What a single call does to the outcome (`Effect`) keeps a recorded status, extends the outputs by the
text that was taken, and keeps the moments in agreement with the flag and the status
(`Outcome.Stamped`). By induction on the calls each holds after any calls in any order
(`exitStatus_performAll`, `output_performAll`, `stamped_performAll`), and together they are the laws
of outcomes (`outcome_performAll`). A call that fails leaves the outcome as it was, unless it has a
status for a pending command: this is recorded before it is raised (`status_recorded_before_failure`),
and before it is told at a level that cannot be written (`leaves_of_fails`).
-/

namespace Invocation

open Invocation.Number Invocation.Text

/-- The text of an output. -/
def Outcome.output (stream : Stream) (o : Outcome) : String :=
  match stream with
  | .stdout => o.stdout
  | .stderr => o.stderr

theorem Outcome.output_append (stream other : Stream) (text : String) (o : Outcome) :
    (o.append stream text).output other =
      o.output other ++ if stream = other then text else "" := by
  cases stream <;> cases other <;> simp [append, output]

/-- The moments agree with the flag and the status. -/
structure Outcome.Stamped (o : Outcome) : Prop where
  started : o.startedAt.isSome = o.isStarted
  finished : o.finishedAt.isSome = o.exitStatus.isSome

/-- What a failure leaves of the outcome of a command: all of it, or, if a status has been recorded
before, all but that status and the moment of the end. Then the failure is the status itself or, if that
counts as no failure, that the level of the command cannot be written. -/
def Failure.Leaves (failure : Failure) (command : Command) (o o' : Outcome) : Option Int → Prop
  | none => o' = o ∧ ∀ summary status, failure ≠ .exited summary status
  | some recorded => (∃ moment, o' = o.ended recorded moment) ∧
      if recorded ≠ 0 ∧ command.raises = true then ∃ summary, failure = .exited summary recorded
      else failure = .integer .unwritable ∧ isWritable command.verbosity = false

/-! ## One call -/

namespace Effect

variable {call : Call} {result : Result} {o o' : Outcome}

theorem exitStatus (h : Effect call result o o') {status : Int} (hs : o.exitStatus = some status) :
    o'.exitStatus = some status := by
  cases h with
  | kept => exact hs
  | started moment => exact hs
  | appended stream text => cases stream <;> exact hs
  | ended status' moment valid pending => rw [pending] at hs; cases hs

theorem output (h : Effect call result o o') (stream : Stream) :
    o'.output stream = o.output stream ++ (call.accepted? stream result).getD "" := by
  cases h with
  | kept noText noStatus => rw [noText stream]; simp
  | started moment => cases stream <;> simp [Outcome.output, Call.accepted?]
  | appended s text =>
    rw [Outcome.output_append]
    by_cases hs : s = stream <;> simp [Call.accepted?, hs]
  | ended => cases stream <;> simp [Outcome.output, Call.accepted?, Outcome.ended]

theorem stamped (h : Effect call result o o') (hs : o.Stamped) : o'.Stamped := by
  cases h with
  | kept => exact hs
  | started moment => exact ⟨rfl, hs.finished⟩
  | appended stream text => cases stream <;> exact ⟨hs.started, hs.finished⟩
  | ended status moment => exact ⟨hs.started, rfl⟩

end Effect

/-- **What a call that fails leaves**, by the status that it has for a pending command, if it has one. -/
theorem leaves_of_fails {call : Call} {scene : Scene} {failure : Failure}
    (h : call.result scene = .error failure) :
    failure.Leaves scene.run.command scene.run.outcome (call.next scene).run.outcome
      (if scene.run.outcome.exitStatus = none then call.status? else none) := by
  cases hrecorded : (if scene.run.outcome.exitStatus = none then call.status? else none) with
  | none =>
    obtain ⟨heffect, -⟩ := effect_perform call scene
    rw [h] at heffect
    generalize (call.next scene).run.outcome = after at heffect ⊢
    cases heffect with
    | kept noText noStatus => exact ⟨rfl, fun summary status he => noStatus summary status (congrArg _ he)⟩
    | ended status moment valid pending =>
      rw [if_pos pending, Call.status?, valid] at hrecorded
      cases hrecorded
  | some status =>
    obtain ⟨hpending, hstatus⟩ := Option.ite_none_right_eq_some.1 hrecorded
    obtain ⟨code, rfl, hcode⟩ := Call.exists_of_status? hstatus
    have hrun := (run_finishWith_of_ok hcode scene).trans (Run.run_finish_of_pending hpending status)
    rw [Call.result, hrun] at h
    rw [Call.next, hrun]
    dsimp only at h ⊢
    refine ⟨⟨scene.world.clock, ?_⟩, ?_⟩
    · split
      · rfl
      · split <;> rfl
    · by_cases hraised : status ≠ 0 ∧ scene.run.command.raises = true
      · rw [if_pos hraised] at h ⊢
        exact ⟨_, (Except.error.inj h).symm⟩
      · rw [if_neg hraised] at h ⊢
        cases hlevel : isWritable scene.run.command.verbosity with
        | true =>
          rw [if_pos hlevel] at h
          cases h
        | false =>
          rw [hlevel] at h
          exact ⟨(Except.error.inj h).symm, rfl⟩

/-! ## Any number of calls -/

theorem exitStatus_performAll (calls : List Call) {scene : Scene} {status : Int}
    (h : scene.run.outcome.exitStatus = some status) :
    (performAll calls scene).2.run.outcome.exitStatus = some status := by
  induction calls generalizing scene with
  | nil => exact h
  | cons call rest ih => exact ih ((effect_perform call scene).1.exitStatus h)

theorem output_performAll (calls : List Call) (scene : Scene) (stream : Stream) :
    (performAll calls scene).2.run.outcome.output stream =
      scene.run.outcome.output stream ++ join "" (accepted stream (performAll calls scene).1) := by
  induction calls generalizing scene with
  | nil => simp [performAll, accepted, join]
  | cons call rest ih =>
    have hcall := (effect_perform call scene).1.output stream
    simp only [performAll, ih, hcall, accepted, List.filterMap_cons]
    cases call.accepted? stream (call.result scene) with
    | none => simp
    | some text => simp [join_empty_cons, String.append_assoc]

theorem stamped_performAll (calls : List Call) {scene : Scene} (h : scene.run.outcome.Stamped) :
    (performAll calls scene).2.run.outcome.Stamped := by
  induction calls generalizing scene with
  | nil => exact h
  | cons call rest ih => exact ih ((effect_perform call scene).1.stamped h)

theorem command_performAll (calls : List Call) (scene : Scene) :
    (performAll calls scene).2.run.command = scene.run.command := by
  induction calls generalizing scene with
  | nil => rfl
  | cons call rest ih => exact (ih _).trans (effect_perform call scene).2

theorem Outcome.stamped_pending : Outcome.pending.Stamped :=
  ⟨rfl, rfl⟩

theorem Outcome.isSome_runtime (o : Outcome) :
    o.runtime.isSome = (o.startedAt.isSome && o.finishedAt.isSome) := by
  unfold runtime
  cases o.startedAt <;> cases o.finishedAt <;> rfl

theorem Outcome.isComplete_cases (o : Outcome) :
    (o.isComplete = true ∧ o.isSuccessful = !o.isFailed) ∨
      (o.isComplete = false ∧ o.isSuccessful = false ∧ o.isFailed = false) := by
  unfold isSuccessful isFailed isComplete
  cases o.exitStatus with
  | none => exact .inr ⟨rfl, rfl, rfl⟩
  | some status => exact .inl ⟨rfl, by simp [bne]⟩

/-- **The laws of outcomes.** After any calls on a command that was not started, with more calls
after them: a status that is recorded stays; an output is what was appended to it, and more calls
only extend it; the moments, the flag and the predicates agree; the description is what it was; and a
call that fails then leaves the outcome alone, unless it has a status for a command that is pending: this
is recorded, and then raised, or not told since the level of the command cannot be written. -/
theorem outcome_performAll (command : Command) (world : World) (before after : List Call) :
    let first := performAll before ⟨.ofCommand command, world⟩
    let last := performAll (before ++ after) ⟨.ofCommand command, world⟩
    let o := last.2.run.outcome
    (∀ status, first.2.run.outcome.exitStatus = some status → o.exitStatus = some status) ∧
    (∀ stream, o.output stream = join "" (accepted stream last.1) ∧
      ∃ more, o.output stream = first.2.run.outcome.output stream ++ more) ∧
    (o.finishedAt.isSome = o.isComplete ∧ o.startedAt.isSome = o.isStarted ∧
      o.runtime.isSome = (o.isStarted && o.isComplete)) ∧
    (o.isComplete = o.exitStatus.isSome ∧
      (o.isComplete = true → o.isSuccessful = !o.isFailed) ∧
      (o.isComplete = false → o.isSuccessful = false ∧ o.isFailed = false)) ∧
    last.2.run.command = command ∧
    ∀ (call : Call) (failure : Failure), call.result last.2 = .error failure →
      failure.Leaves command o (call.next last.2).run.outcome
        (if o.exitStatus = none then call.status? else none) := by
  intro first last o
  have hstamped : o.Stamped := stamped_performAll _ Outcome.stamped_pending
  have hlast : last.2 = (performAll after first.2).2 := by
    simp only [last, first, performAll_append]
  refine ⟨fun status h => ?_, fun stream => ⟨?_, ?_⟩, ⟨?_, ?_, ?_⟩, ⟨rfl, ?_, ?_⟩, ?_, ?_⟩
  · simp only [o, hlast]
    exact exitStatus_performAll after h
  · have hempty : Outcome.pending.output stream = "" := by cases stream <;> rfl
    refine (output_performAll _ _ stream).trans ?_
    change Outcome.pending.output stream ++ _ = _
    rw [hempty, String.empty_append]
  · simp only [o, hlast]
    exact ⟨_, output_performAll after first.2 stream⟩
  · exact hstamped.finished
  · exact hstamped.started
  · rw [o.isSome_runtime, hstamped.started, hstamped.finished]
    rfl
  · intro h
    rcases o.isComplete_cases with ⟨-, h'⟩ | ⟨h', -⟩
    · exact h'
    · rw [h] at h'; cases h'
  · intro h
    rcases o.isComplete_cases with ⟨h', -⟩ | ⟨-, h'⟩
    · rw [h] at h'; cases h'
    · exact h'
  · exact command_performAll _ _
  · intro call failure h
    have hleaves := leaves_of_fails h
    rwa [command_performAll] at hleaves

/-- A status that counts as a failure is raised when it has been recorded: a call that fails does not
always leave the outcome as it was. -/
theorem status_recorded_before_failure :
    ¬∀ (command : Command) (world : World) (before : List Call) (call : Call) (failure : Failure),
      let last := (performAll before ⟨.ofCommand command, world⟩).2
      call.result last = .error failure →
        (call.next last).run.outcome.exitStatus = last.run.outcome.exitStatus := by
  intro h
  have hrecorded := h ⟨⟨0⟩, "false", [], .none, Verbosity.info, true, some .defaults⟩
    (.fresh ⟨"settings.json", "project"⟩) [] (.finishWith (.int 1)) _ rfl
  cases hrecorded

end Invocation

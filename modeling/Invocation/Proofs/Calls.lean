import Invocation.Proofs.Action

/-!
# Calls on a command

Everything that can be asked of a command, and of the settings in force beside it, as one type of
calls, and what a sequence of calls does. A call that fails stops none after it. What a single call
does to the outcome is one of four things (`Effect`); the description of the command is never touched
(`effect_perform`).
-/

namespace Invocation

/-- The names of the options, each its first. -/
def Options.declared : List String :=
  names.filterMap List.head?

/-- What can be asked of a command, and of the settings beside it. -/
inductive Call where
  | start
  | append (stream : Stream) (chunk : Value)
  | finishWith (code : Value)
  /-- Renders the line, under the given settings or those that are taken else. -/
  | line (config : Option Settings)
  | short
  | shown (token : Id → String)
  | snapshot (config : Option Settings)
  | assign (name : String) (known : name ∈ Run.readOnlyNames)
  | assignOption (name : String) (known : name ∈ Options.declared)
  | settings
  | configure (overrides : Entries Value)
  | forget

/-- The result of a call: whether it failed, and how. -/
abbrev Result := Except Failure Unit

namespace Call

/-- Performs a call on a run. What it gives is dropped. -/
def perform : Call → RunAction Unit
  | start => Run.start
  | append stream chunk => Run.append stream chunk
  | finishWith code => Run.finishWith code
  | line config => do let _ ← Run.line config
  | short => do let _ ← Run.inWorld (← get).run.command.short
  | shown token => do let _ := (← get).run.command.shown token
  | snapshot config => do let _ ← Run.snapshot config
  | assign name _ => Run.assign name
  | assignOption name _ => Run.assignOption name
  | settings => do let _ ← Run.inWorld World.settings
  | configure overrides => do let _ ← Run.inWorld (World.configure overrides)
  | forget => Run.inWorld World.forget

/-- The result of a call in a scene. -/
def result (call : Call) (scene : Scene) : Result :=
  (call.perform.run scene).1

/-- The scene after a call. -/
def next (call : Call) (scene : Scene) : Scene :=
  (call.perform.run scene).2

end Call

/-- Performs calls in order, and gives each with its result. -/
def performAll : List Call → Scene → List (Call × Result) × Scene
  | [], scene => ([], scene)
  | call :: rest, scene =>
    let (results, last) := performAll rest (call.next scene)
    ((call, call.result scene) :: results, last)

theorem performAll_append (before after : List Call) (scene : Scene) :
    performAll (before ++ after) scene =
      let (early, between) := performAll before scene
      let (late, last) := performAll after between
      (early ++ late, last) := by
  induction before generalizing scene with
  | nil => rfl
  | cons call rest ih => simp only [List.cons_append, performAll, ih]

/-- The status with which a call would end a command. -/
def Call.status? : Call → Option Int
  | .finishWith code => (statusOf code).toOption
  | _ => none

theorem Call.exists_of_status? {call : Call} {status : Int} (h : call.status? = some status) :
    ∃ code, call = .finishWith code ∧ statusOf code = .ok status := by
  unfold status? at h
  split at h
  · next code =>
    refine ⟨code, rfl, ?_⟩
    rcases hcode : statusOf code with fault | found
    · rw [hcode] at h
      cases h
    · rw [hcode] at h
      exact congrArg _ (Option.some.inj h)
  · cases h

/-- The text that a call appended to an output, if it succeeded. -/
def Call.accepted? (stream : Stream) : Call → Result → Option String
  | .append s (.text text), .ok () => if s = stream then some text else none
  | _, _ => none

/-- The texts that calls appended to an output, in order. -/
def accepted (stream : Stream) (calls : List (Call × Result)) : List String :=
  calls.filterMap fun (call, result) => call.accepted? stream result

/-! ## What a call does to the outcome -/

/-- What a call with its result does to the outcome of a run. -/
inductive Effect : Call → Result → Outcome → Outcome → Prop where
  /-- Nothing; then no text was taken and no exit status raised. -/
  | kept {call : Call} {result : Result} {o : Outcome}
      (noText : ∀ stream, call.accepted? stream result = none)
      (noStatus : ∀ summary status, result ≠ .error (.exited summary status)) :
      Effect call result o o
  | started {o : Outcome} (moment : Nat) :
      Effect .start (.ok ()) o { o with isStarted := true, startedAt := some moment }
  | appended {o : Outcome} (stream : Stream) (text : String) :
      Effect (.append stream (.text text)) (.ok ()) o (o.append stream text)
  /-- A status was recorded, whatever the result is after that. -/
  | ended {code : Value} {result : Result} {o : Outcome} (status : Int) (moment : Nat)
      (valid : statusOf code = .ok status) (pending : o.exitStatus = none) :
      Effect (.finishWith code) result o (o.ended status moment)

/-- A call that is no start, no append and no end leaves the run alone. -/
theorem effect_of_leavesRun {call : Call} (scene : Scene) (h : LeavesRun call.perform)
    (noAppend : ∀ stream chunk, call ≠ .append stream chunk) :
    Effect call (call.result scene) scene.run.outcome (call.next scene).run.outcome ∧
      (call.next scene).run.command = scene.run.command := by
  obtain ⟨hrun, hexit⟩ := h scene
  have hnext : (call.next scene).run = scene.run := hrun
  rw [hnext]
  refine ⟨.kept (fun stream => ?_) hexit, rfl⟩
  unfold Call.accepted?
  split
  · exact absurd rfl (noAppend _ _)
  · rfl

theorem effect_append (stream : Stream) (chunk : Value) (scene : Scene) :
    let call := Call.append stream chunk
    Effect call (call.result scene) scene.run.outcome (call.next scene).run.outcome ∧
      (call.next scene).run.command = scene.run.command := by
  intro call
  cases chunk with
  | text s =>
    have hrun : (Call.append stream (.text s)).perform.run scene = _ :=
      Run.run_appendText stream s scene
    rw [Call.result, Call.next, hrun]
    exact ⟨.appended stream s, rfl⟩
  | null => exact ⟨.kept (fun _ => rfl) (fun _ _ h => by cases h), rfl⟩
  | bool b => exact ⟨.kept (fun _ => rfl) (fun _ _ h => by cases h), rfl⟩
  | int n => exact ⟨.kept (fun _ => rfl) (fun _ _ h => by cases h), rfl⟩
  | float x => exact ⟨.kept (fun _ => rfl) (fun _ _ h => by cases h), rfl⟩
  | list items => exact ⟨.kept (fun _ => rfl) (fun _ _ h => by cases h), rfl⟩
  | tuple items => exact ⟨.kept (fun _ => rfl) (fun _ _ h => by cases h), rfl⟩
  | map entries => exact ⟨.kept (fun _ => rfl) (fun _ _ h => by cases h), rfl⟩

/-- A value that denotes no status is refused. -/
theorem run_finishWith_of_error {code : Value} {fault : StatusFault} (h : statusOf code = .error fault)
    (scene : Scene) : (Call.finishWith code).perform.run scene = (.error (.status fault), scene) := by
  simp only [Call.perform, Run.finishWith, h]
  rfl

theorem run_finishWith_of_ok {code : Value} {status : Int} (h : statusOf code = .ok status) (scene : Scene) :
    (Call.finishWith code).perform.run scene = (Run.finish status).run scene := by
  simp only [Call.perform, Run.finishWith, h]

theorem effect_finishWith (code : Value) (scene : Scene) :
    let call := Call.finishWith code
    Effect call (call.result scene) scene.run.outcome (call.next scene).run.outcome ∧
      (call.next scene).run.command = scene.run.command := by
  intro call
  cases hs : statusOf code with
  | error fault =>
    rw [Call.result, Call.next, run_finishWith_of_error hs]
    exact ⟨.kept (fun _ => rfl) (fun _ _ h => by cases h), rfl⟩
  | ok status =>
    cases he : scene.run.outcome.exitStatus with
    | some earlier =>
      rw [Call.result, Call.next, run_finishWith_of_ok hs, Run.run_finish_of_complete he]
      refine ⟨.kept (fun _ => rfl) (fun _ _ h => ?_), rfl⟩
      split at h <;> cases h
    | none =>
      rw [Call.result, Call.next, run_finishWith_of_ok hs, Run.run_finish_of_pending he]
      dsimp only
      split
      · exact ⟨.ended status _ hs he, rfl⟩
      · split <;> exact ⟨.ended status _ hs he, rfl⟩

/-- **Every call has one of the four effects**, and none touches the description. -/
theorem effect_perform (call : Call) (scene : Scene) :
    Effect call (call.result scene) scene.run.outcome (call.next scene).run.outcome ∧
      (call.next scene).run.command = scene.run.command := by
  cases call with
  | start =>
    rw [Call.result, Call.next, Call.perform, Run.run_start]
    exact ⟨.started scene.world.clock, rfl⟩
  | append stream chunk => exact effect_append stream chunk scene
  | finishWith code => exact effect_finishWith code scene
  | line config =>
    exact effect_of_leavesRun scene (.bind (.line config) fun _ => .pure _) (by simp)
  | short =>
    refine effect_of_leavesRun scene (.bind .get fun _ => ?_) (by simp)
    exact .bind (.inWorld (.short _)) fun _ => .pure _
  | shown token => exact effect_of_leavesRun scene (.bind .get fun _ => .pure _) (by simp)
  | snapshot config =>
    exact effect_of_leavesRun scene (.bind (.snapshot config) fun _ => .pure _) (by simp)
  | assign name known => exact effect_of_leavesRun scene (.assign name) (by simp)
  | assignOption name known => exact effect_of_leavesRun scene (.assignOption name) (by simp)
  | settings =>
    exact effect_of_leavesRun scene (.bind (.inWorld .settings) fun _ => .pure _) (by simp)
  | configure overrides =>
    exact effect_of_leavesRun scene (.bind (.inWorld (.configure overrides)) fun _ => .pure _)
      (by simp)
  | forget => exact effect_of_leavesRun scene (.inWorld (.modify _)) (by simp)

end Invocation

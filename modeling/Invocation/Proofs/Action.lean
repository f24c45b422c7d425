import Invocation.Command.Snapshot

/-!
# Steps in the world and steps of a run

How a sequence of two steps runs (`run_bind`), and what each operation on the outcome of a run does:
start and append always succeed, a status is recorded if there is none (`run_finish_of_pending`), and
told of unless the level for it cannot be written. A failure with an exit status comes from nowhere
else: rendering and the settings raise none (`RaisesNoStatus.line`, `RaisesNoStatus.configure`).
-/

namespace Invocation

open Invocation.Number

variable {ε σ α β : Type}

theorem run_bind (x : ExceptT ε (StateM σ) α) (f : α → ExceptT ε (StateM σ) β) (s : σ) :
    (x >>= f).run s =
      match x.run s with
      | (.ok a, s') => (f a).run s'
      | (.error e, s') => (.error e, s') := by
  change (match x.run s with | (a, s') => ExceptT.bindCont f a s') = _
  rcases x.run s with ⟨_ | a, s'⟩ <;> rfl

theorem run_bind_of_ok {x : ExceptT ε (StateM σ) α} {s s' : σ} {a : α} (h : x.run s = (.ok a, s'))
    (f : α → ExceptT ε (StateM σ) β) : (x >>= f).run s = (f a).run s' := by
  rw [run_bind, h]

theorem run_bind_of_error {x : ExceptT ε (StateM σ) α} {s s' : σ} {e : ε}
    (h : x.run s = (.error e, s')) (f : α → ExceptT ε (StateM σ) β) :
    (x >>= f).run s = (.error e, s') := by
  rw [run_bind, h]

/-! ## Steps that raise no exit status -/

/-- The step does not fail with an exit status. -/
def RaisesNoStatus (action : Action α) : Prop :=
  ∀ (world : World) (summary : String) (status : Int),
    (action.run world).1 ≠ .error (.exited summary status)

namespace RaisesNoStatus

theorem pure (a : α) : RaisesNoStatus (Pure.pure a : Action α) := by
  intro world summary status h
  cases h

theorem bind {x : Action α} {f : α → Action β} (hx : RaisesNoStatus x)
    (hf : ∀ a, RaisesNoStatus (f a)) : RaisesNoStatus (x >>= f) := by
  intro world summary status h
  rw [run_bind] at h
  rcases hrun : x.run world with ⟨e | a, world'⟩
  · rw [hrun] at h
    refine hx world summary status ?_
    rw [hrun]
    exact congrArg _ (Except.error.inj h)
  · rw [hrun] at h
    exact hf a world' summary status h

theorem modify (f : World → World) : RaisesNoStatus (modify f : Action Unit) := by
  intro world summary status h
  cases h

theorem get : RaisesNoStatus (get : Action World) := by
  intro world summary status h
  cases h

theorem throw {failure : Failure} (h : ∀ summary status, failure ≠ .exited summary status) :
    RaisesNoStatus (throw failure : Action α) := by
  intro world summary status he
  exact h summary status (Except.error.inj he)

theorem record (level : Verbosity.Level) (note : Note) :
    RaisesNoStatus (World.record level note) := by
  unfold World.record
  split
  · exact pure ()
  · split
    · exact modify _
    · exact throw (by simp)

theorem warnings (ws : List Settings.Warning) : RaisesNoStatus (ws.forM World.warn) := by
  induction ws with
  | nil => exact pure _
  | cons w ws ih => exact bind (bind get fun _ => record _ _) fun _ => ih

theorem loadSettings : RaisesNoStatus World.loadSettings := by
  refine bind get fun world => bind (warnings _) fun _ => ?_
  split
  · exact pure _
  · rename_i fault _
    refine throw fun summary status => ?_
    cases fault <;> simp [Settings.LoadFault.failure]

theorem settings : RaisesNoStatus World.settings := by
  refine bind get fun world => ?_
  split
  · exact pure _
  · exact bind loadSettings fun s => bind (modify _) fun _ => pure s

theorem configure (overrides : Entries Value) : RaisesNoStatus (World.configure overrides) := by
  refine bind settings fun s => ?_
  split
  · exact bind (modify _) fun _ => pure _
  · exact throw (by simp)

theorem renderSettings (config : Option Settings) (command : Command) :
    RaisesNoStatus (command.renderSettings config) := by
  unfold Command.renderSettings
  split
  · exact pure _
  · exact settings

theorem line (config : Option Settings) (command : Command) :
    RaisesNoStatus (command.line config) :=
  bind (renderSettings config command) fun _ => pure _

theorem short (command : Command) : RaisesNoStatus command.short :=
  bind (renderSettings none command) fun _ => pure _

end RaisesNoStatus

/-! ## Operations on the outcome -/

/-- The world with a record in the log, if its level is not zero. -/
def World.logged (world : World) (level : Verbosity.Level) (note : Note) : World :=
  if level = 0 then world else { world with log := world.log ++ [⟨level, note⟩] }

theorem World.run_record {level : Verbosity.Level} (h : isWritable level = true) (note : Note) (world : World) :
    (World.record level note).run world = (.ok (), world.logged level note) := by
  unfold World.record World.logged
  rw [if_pos h]
  split <;> rfl

theorem World.run_record_of_unwritable {level : Verbosity.Level} (h : isWritable level = false) (note : Note)
    (world : World) : (World.record level note).run world = (.error (.integer .unwritable), world) := by
  have hlevel : level ≠ 0 := by
    rintro rfl
    cases h
  have hno : ¬isWritable level = true := by rw [h]; exact Bool.false_ne_true
  unfold World.record
  rw [if_neg hlevel, if_neg hno]
  rfl

/-- The outcome with a status that is recorded at a moment. -/
def Outcome.ended (status : Int) (moment : Nat) (o : Outcome) : Outcome :=
  { o with exitStatus := some status, finishedAt := some moment }

namespace Run

theorem run_get (scene : Scene) : (get : RunAction Scene).run scene = (.ok scene, scene) :=
  rfl

theorem run_inWorld (action : Action α) (scene : Scene) :
    (inWorld action).run scene =
      ((action.run scene.world).1, { scene with world := (action.run scene.world).2 }) :=
  rfl

theorem run_start (scene : Scene) :
    start.run scene =
      (.ok (), { run.command := scene.run.command
                 run.outcome := { scene.run.outcome with
                   isStarted := true, startedAt := some scene.world.clock }
                 world := { scene.world with clock := scene.world.clock + 1 } }) :=
  rfl

theorem run_appendText (stream : Stream) (s : String) (scene : Scene) :
    (appendText stream s).run scene =
      (.ok (), { scene with run.outcome := scene.run.outcome.append stream s }) :=
  rfl

theorem run_recordStatus {scene : Scene} (h : scene.run.outcome.exitStatus = none) (status : Int) :
    (recordStatus status).run scene =
      (.ok (), { run.command := scene.run.command
                 run.outcome := scene.run.outcome.ended status scene.world.clock
                 world := { scene.world with clock := scene.world.clock + 1 } }) := by
  unfold recordStatus
  rw [run_bind_of_ok (run_get scene), h]
  rfl

/-- A status is recorded once. A second time the first one is told, if it can be written. -/
theorem run_finish_of_complete {scene : Scene} {earlier : Int}
    (h : scene.run.outcome.exitStatus = some earlier) (status : Int) :
    (finish status).run scene =
      (.error (if isWritable earlier = true then .alreadyComplete earlier else .integer .unwritable), scene) := by
  refine run_bind_of_error ?_ _
  unfold recordStatus
  rw [run_bind_of_ok (run_get scene), h]
  dsimp only
  split <;> rfl

/-- A status that is recorded is told in one record, and raised after that if it is a failure. If it is
none, there is no record if the level of the command cannot be written. -/
theorem run_finish_of_pending {scene : Scene} (h : scene.run.outcome.exitStatus = none)
    (status : Int) :
    (finish status).run scene =
      let ⟨⟨command, outcome⟩, world⟩ := scene
      let after := { world with clock := world.clock + 1 }
      let run : Run := ⟨command, outcome.ended status world.clock⟩
      if status ≠ 0 ∧ command.raises = true then
        (.error (.exited (failureSummary command.base outcome.stdout outcome.stderr) status),
          ⟨run, after.logged Verbosity.error (.failed command.id status)⟩)
      else if isWritable command.verbosity = true then
        (.ok (), ⟨run, after.logged command.verbosity (.finished command.id status)⟩)
      else (.error (.integer .unwritable), ⟨run, after⟩) := by
  obtain ⟨⟨command, outcome⟩, world⟩ := scene
  have herror : isWritable Verbosity.error = true := rfl
  unfold finish
  rw [run_bind_of_ok (run_recordStatus h status), run_bind_of_ok (run_get _)]
  dsimp only
  split
  · rw [run_bind_of_ok (run_inWorld _ _), World.run_record herror]
    rfl
  · rw [run_inWorld]
    cases hlevel : isWritable command.verbosity with
    | true => rw [World.run_record hlevel]; rfl
    | false => rw [World.run_record_of_unwritable hlevel]; rfl

end Run

/-! ## Steps that leave the run alone -/

/-- The step changes nothing but the world, and does not fail with an exit status. -/
def LeavesRun (action : RunAction α) : Prop :=
  ∀ scene : Scene, (action.run scene).2.run = scene.run ∧
    ∀ summary status, (action.run scene).1 ≠ .error (.exited summary status)

namespace LeavesRun

theorem pure (a : α) : LeavesRun (Pure.pure a : RunAction α) :=
  fun _ => ⟨rfl, fun _ _ h => by cases h⟩

theorem get : LeavesRun (get : RunAction Scene) :=
  fun _ => ⟨rfl, fun _ _ h => by cases h⟩

theorem throw {failure : Failure} (h : ∀ summary status, failure ≠ .exited summary status) :
    LeavesRun (throw failure : RunAction α) :=
  fun _ => ⟨rfl, fun summary status he => h summary status (Except.error.inj he)⟩

theorem bind {x : RunAction α} {f : α → RunAction β} (hx : LeavesRun x)
    (hf : ∀ a, LeavesRun (f a)) : LeavesRun (x >>= f) := by
  intro scene
  obtain ⟨hrun, hexit⟩ := hx scene
  rw [run_bind]
  rcases h : x.run scene with ⟨e | a, scene'⟩
  · rw [h] at hrun hexit
    refine ⟨hrun, fun summary status he => hexit summary status ?_⟩
    exact congrArg _ (Except.error.inj he)
  · rw [h] at hrun
    obtain ⟨hrun', hexit'⟩ := hf a scene'
    exact ⟨hrun'.trans hrun, hexit'⟩

theorem inWorld {action : Action α} (h : RaisesNoStatus action) :
    LeavesRun (Run.inWorld action) :=
  fun scene => ⟨rfl, h scene.world⟩

theorem line (config : Option Settings) : LeavesRun (Run.line config) :=
  bind get fun _ => inWorld (RaisesNoStatus.line config _)

theorem snapshot (config : Option Settings) : LeavesRun (Run.snapshot config) :=
  bind (line config) fun _ => bind get fun _ => pure _

theorem assign (name : String) : LeavesRun (Run.assign name) := by
  unfold Run.assign
  split
  · exact throw (by simp)
  · exact pure ()

theorem assignOption (name : String) : LeavesRun (Run.assignOption name) := by
  unfold Run.assignOption
  split
  · exact pure ()
  · exact throw (by simp)

end LeavesRun

end Invocation

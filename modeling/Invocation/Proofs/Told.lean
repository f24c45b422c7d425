import Invocation.CommandLine.Reply
import Invocation.Proofs.Numeral
import Invocation.Proofs.Outcome
import Invocation.Proofs.Session

/-!
# How an ending is told

A command is ended by the first call that gives a value which denotes a status, and by no other. That call
tells of the end in one record, and raises a failure if the status counts as one (`run_finishWith_of_pending`).
There is no record at level zero and none at a level that cannot be written, and then the call fails after it has
ended the command. A call that gives a value earlier or later is refused and changes nothing at all. Of the other
calls some tell nothing (`log_next_of_quiet`), and those that may load settings tell of skipped files only
(`log_next`). So the records of any calls hold one record of an ending at most (`ending_told`).

A record is what the log is asked for. It writes the records from the level on that it is set to, so that an
ending may leave nothing written (`ending_untold`).
-/

namespace Invocation

open Invocation.Number

/-! ## Endings -/

/-- The status that a call records in a scene, if it does. -/
def Call.ended? (call : Call) (scene : Scene) : Option Int :=
  if scene.run.outcome.exitStatus = none then (call.next scene).run.outcome.exitStatus else none

/-- The note tells of the end of a command. -/
def Note.isEnding : Note → Bool
  | .finished .. | .failed .. => true
  | _ => false

/-- The records of an ending: an error if it is raised, else one at the command's level, which is not zero and
can be written. -/
def Command.endingRecords (command : Command) (status : Int) : List Record :=
  if status ≠ 0 ∧ command.raises = true then [⟨Verbosity.error, .failed command.id status⟩]
  else if command.verbosity = 0 then []
  else if isWritable command.verbosity = true then [⟨command.verbosity, .finished command.id status⟩] else []

theorem isEnding_endingRecords (command : Command) (status : Int) :
    ∀ record ∈ command.endingRecords status, record.note.isEnding = true := by
  intro record hrecord
  unfold Command.endingRecords at hrecord
  split at hrecord
  · rw [List.mem_singleton.1 hrecord]
    rfl
  · split at hrecord
    · cases hrecord
    · split at hrecord
      · rw [List.mem_singleton.1 hrecord]
        rfl
      · cases hrecord

/-! ## One call -/

section OneCall

variable {code : Value} {status : Int} {scene : Scene}

theorem run_finishWith_of_complete {earlier : Int} (h : scene.run.outcome.exitStatus = some earlier)
    (hcode : statusOf code = .ok status) :
    (Call.finishWith code).perform.run scene =
      (.error (if isWritable earlier = true then .alreadyComplete earlier else .integer .unwritable), scene) := by
  rw [run_finishWith_of_ok hcode, Run.run_finish_of_complete h]

/-- **An ending is told in one record**, and raised if the status is a failure. If the level of the record cannot
be written, the command has ended all the same. -/
theorem run_finishWith_of_pending (h : scene.run.outcome.exitStatus = none) (hcode : statusOf code = .ok status) :
    let call := Call.finishWith code
    let command := scene.run.command
    let outcome := scene.run.outcome
    call.result scene =
        (if status ≠ 0 ∧ command.raises = true then
          .error (.exited (failureSummary command.base outcome.stdout outcome.stderr) status)
        else if isWritable command.verbosity = true then .ok ()
        else .error (.integer .unwritable)) ∧
      (call.next scene).run.outcome = outcome.ended status scene.world.clock ∧
      (call.next scene).world.log = scene.world.log ++ command.endingRecords status := by
  obtain ⟨⟨command, outcome⟩, world⟩ := scene
  have hrun : (Call.finishWith code).perform.run _ = _ :=
    (run_finishWith_of_ok hcode _).trans (Run.run_finish_of_pending h status)
  dsimp only at hrun ⊢
  unfold Call.result Call.next Command.endingRecords
  by_cases hraised : status ≠ 0 ∧ command.raises = true
  · have hlevel : Verbosity.error ≠ 0 := by decide
    rw [if_pos hraised] at hrun
    rw [hrun, if_pos hraised, if_pos hraised]
    refine ⟨rfl, rfl, ?_⟩
    rw [log_logged, if_neg hlevel]
  · rw [if_neg hraised] at hrun
    rw [hrun, if_neg hraised, if_neg hraised]
    cases isWritable command.verbosity with
    | true => exact ⟨rfl, rfl, log_logged _ _ _⟩
    | false => exact ⟨rfl, rfl, ((congrArg _ (ite_self _)).trans (List.append_nil _)).symm⟩

end OneCall

/-! ## Calls that end nothing -/

/-- The call tells nothing to the log: it asks for no settings but those it was given or the command has, and
ends nothing. -/
def Call.Quiet (command : Command) : Call → Prop
  | .line config | .snapshot config => (config <|> command.config).isSome
  | .short => command.config.isSome
  | .finishWith _ | .settings | .configure _ => False
  | _ => True

section Dropped

variable {α : Type}

theorem run_dropped (action : RunAction α) (scene : Scene) :
    ((do let _ ← action : RunAction Unit).run scene).2 = (action.run scene).2 := by
  rw [run_bind]
  rcases action.run scene with ⟨failure | a, after⟩ <;> rfl

end Dropped

theorem next_line (config : Option Settings) (scene : Scene) :
    (Call.line config).next scene = (scene.rendering config fun s run => run.command.lineUnder s).2 := by
  rw [← Run.run_line]
  exact run_dropped _ _

theorem next_snapshot (config : Option Settings) (scene : Scene) :
    (Call.snapshot config).next scene =
      (scene.rendering config fun s run => (⟨run.command.lineUnder s, run⟩ : Snapshot)).2 := by
  rw [← Run.run_snapshot]
  exact run_dropped _ _

theorem next_short (scene : Scene) :
    Call.short.next scene = (scene.rendering none Run.launchedUnder).2 := by
  rw [← Run.run_short]
  exact run_dropped Run.short scene

theorem world_next_append (stream : Stream) (chunk : Value) (scene : Scene) :
    ((Call.append stream chunk).next scene).world = scene.world := by
  cases chunk <;> rfl

theorem log_next_of_quiet {call : Call} {scene : Scene} (h : call.Quiet scene.run.command) :
    (call.next scene).world.log = scene.world.log := by
  have hrendering {α : Type} {config : Option Settings} (draw : Settings → Run → α)
      (h : (config <|> scene.run.command.config).isSome) : (scene.rendering config draw).2 = scene := by
    obtain ⟨s, hs⟩ := Option.isSome_iff_exists.1 h
    rw [rendering_of_some hs]
  cases call with
  | start => rfl
  | append stream chunk => rw [world_next_append]
  | line config => rw [next_line, hrendering _ h]
  | snapshot config => rw [next_snapshot, hrendering _ h]
  | short =>
    have hown : ((none : Option Settings) <|> scene.run.command.config).isSome := h
    rw [next_short, hrendering _ hown]
  | shown token => rfl
  | assign name known =>
    change ((Run.assign name).run scene).2.world.log = _
    rw [Run.assign, if_pos known]
    rfl
  | assignOption name known =>
    change ((Run.assignOption name).run scene).2.world.log = _
    unfold Run.assignOption
    split <;> rfl
  | forget => rfl
  | finishWith code => exact h.elim
  | settings => exact h.elim
  | configure overrides => exact h.elim

/-- No record tells of the end of a command. -/
def NoEnding (records : List Record) : Prop :=
  ∀ record ∈ records, record.note.isEnding = false

theorem exists_noEnding_of_eq {before after : List Record} (h : after = before) :
    ∃ records, NoEnding records ∧ after = before ++ records := by
  refine ⟨[], ?_, ?_⟩
  · intro record hrecord
    cases hrecord
  · rw [h, List.append_nil]

theorem noEnding_skips (world : World) : NoEnding world.skips := by
  intro record hrecord
  obtain ⟨warning, -, rfl⟩ := List.mem_map.1 hrecord
  rfl

theorem log_settings (world : World) : ∃ records, NoEnding records ∧
    (World.settings.run world).2.log = world.log ++ records := by
  cases hloaded : world.loaded with
  | some s =>
    rw [World.run_settings_of_some hloaded]
    exact exists_noEnding_of_eq rfl
  | none =>
    rw [World.run_settings_of_none hloaded]
    exact ⟨world.skips, noEnding_skips world, rfl⟩

theorem log_rendering {α : Type} (config : Option Settings) (draw : Settings → Run → α) (scene : Scene) :
    ∃ records, NoEnding records ∧
      (scene.rendering config draw).2.world.log = scene.world.log ++ records := by
  cases hconfig : config <|> scene.run.command.config with
  | some s =>
    rw [rendering_of_some hconfig]
    exact exists_noEnding_of_eq rfl
  | none =>
    rw [rendering_of_none hconfig]
    exact log_settings scene.world

theorem log_configure (overrides : Entries Value) (world : World) : ∃ records, NoEnding records ∧
    ((World.configure overrides).run world).2.log = world.log ++ records := by
  obtain ⟨records, hrecords, hlog⟩ := log_settings world
  refine ⟨records, hrecords, ?_⟩
  rcases hsettings : World.settings.run world with ⟨failure | s, between⟩
  · rw [hsettings] at hlog
    rw [World.run_configure_of_error hsettings, hlog]
  · rw [hsettings] at hlog
    rw [World.run_configure hsettings, ← hlog]
    split <;> rfl

theorem log_next {call : Call} (h : ∀ code, call ≠ .finishWith code) (scene : Scene) :
    ∃ records, NoEnding records ∧ (call.next scene).world.log = scene.world.log ++ records := by
  have hquiet (h : call.Quiet scene.run.command) :
      ∃ records, NoEnding records ∧ (call.next scene).world.log = scene.world.log ++ records :=
    exists_noEnding_of_eq (log_next_of_quiet h)
  cases call with
  | start => exact hquiet trivial
  | append stream chunk => exact hquiet trivial
  | finishWith code => exact absurd rfl (h code)
  | line config =>
    rw [next_line]
    exact log_rendering config _ scene
  | short =>
    rw [next_short]
    exact log_rendering none _ scene
  | shown token => exact hquiet trivial
  | snapshot config =>
    rw [next_snapshot]
    exact log_rendering config _ scene
  | assign name known => exact hquiet trivial
  | assignOption name known => exact hquiet trivial
  | settings =>
    have hnext : (Call.settings.next scene).world = (World.settings.run scene.world).2 :=
      congrArg Scene.world (run_dropped (Run.inWorld World.settings) scene)
    rw [hnext]
    exact log_settings scene.world
  | configure overrides =>
    have hnext : ((Call.configure overrides).next scene).world =
        ((World.configure overrides).run scene.world).2 :=
      congrArg Scene.world (run_dropped (Run.inWorld (World.configure overrides)) scene)
    rw [hnext]
    exact log_configure overrides scene.world
  | forget => exact hquiet trivial

/-- What a call does to the status of a command, and what it tells of it. -/
structure Call.Ends (call : Call) (scene : Scene) : Prop where
  status : (call.next scene).run.outcome.exitStatus = scene.run.outcome.exitStatus.or call.status?
  told : ∃ records, (call.next scene).world.log = scene.world.log ++ records ∧
    records.filter (·.note.isEnding) = (call.ended? scene).elim [] scene.run.command.endingRecords

/-- A command that has ended is not ended again. -/
theorem Call.Ends.ended {call : Call} {scene : Scene} (h : call.Ends scene) :
    call.ended? scene = if scene.run.outcome.exitStatus = none then call.status? else none := by
  unfold Call.ended?
  rw [h.status]
  cases scene.run.outcome.exitStatus <;> rfl

/-- What holds of a call that leaves the status and tells of no ending. -/
theorem ends_of_quiet {call : Call} {scene : Scene} {records : List Record} (hrecords : NoEnding records)
    (hstatus : (call.next scene).run.outcome.exitStatus = scene.run.outcome.exitStatus)
    (hnone : scene.run.outcome.exitStatus.or call.status? = scene.run.outcome.exitStatus)
    (hlog : (call.next scene).world.log = scene.world.log ++ records) : call.Ends scene := by
  refine ⟨hstatus.trans hnone.symm, records, hlog, ?_⟩
  have hended : call.ended? scene = none := by
    unfold Call.ended?
    rw [hstatus]
    split
    · assumption
    · rfl
  rw [hended]
  refine List.filter_eq_nil_iff.2 fun record hrecord => ?_
  rw [hrecords record hrecord]
  exact Bool.false_ne_true

theorem ends_finishWith (code : Value) (scene : Scene) : (Call.finishWith code).Ends scene := by
  have hnothing : NoEnding [] := fun record hrecord => by cases hrecord
  cases hcode : statusOf code with
  | error fault =>
    have hstatus : (Call.finishWith code).status? = none := by rw [Call.status?, hcode]; rfl
    have hnext : (Call.finishWith code).next scene = scene := by rw [Call.next, run_finishWith_of_error hcode]
    refine ends_of_quiet hnothing (by rw [hnext]) ?_ (by rw [hnext, List.append_nil])
    rw [hstatus, Option.or_none]
  | ok status =>
    cases hearlier : scene.run.outcome.exitStatus with
    | some first =>
      have hnext : (Call.finishWith code).next scene = scene := by
        rw [Call.next, run_finishWith_of_complete hearlier hcode]
      refine ends_of_quiet hnothing (by rw [hnext]) ?_ (by rw [hnext, List.append_nil])
      rw [hearlier]
      rfl
    | none =>
      have hstatus : (Call.finishWith code).status? = some status := by rw [Call.status?, hcode]; rfl
      obtain ⟨-, houtcome, hlog⟩ := run_finishWith_of_pending hearlier hcode
      have hended : (Call.finishWith code).ended? scene = some status := by
        rw [Call.ended?, if_pos hearlier, houtcome]
        rfl
      refine ⟨?_, _, hlog, ?_⟩
      · rw [houtcome, hearlier, hstatus]
        rfl
      · rw [hended]
        exact List.filter_eq_self.2 (isEnding_endingRecords scene.run.command status)

theorem ends_other {call : Call} (h : ∀ code, call ≠ .finishWith code) (scene : Scene) : call.Ends scene := by
  have hnone : call.status? = none := by
    unfold Call.status?
    split
    · exact absurd rfl (h _)
    · rfl
  obtain ⟨records, hrecords, hlog⟩ := log_next h scene
  refine ends_of_quiet hrecords ?_ ?_ hlog
  · obtain ⟨heffect, -⟩ := effect_perform call scene
    generalize call.result scene = result at heffect
    generalize (call.next scene).run.outcome = after at heffect ⊢
    cases heffect with
    | kept => rfl
    | started moment => rfl
    | appended stream text => cases stream <;> rfl
    | ended => exact absurd rfl (h _)
  · rw [hnone, Option.or_none]

theorem ends_call (call : Call) (scene : Scene) : call.Ends scene := by
  by_cases h : ∃ code, call = .finishWith code
  · obtain ⟨code, rfl⟩ := h
    exact ends_finishWith code scene
  · exact ends_other (fun code he => h ⟨code, he⟩) scene

/-! ## Any calls -/

/-- The statuses that calls record one after the other. -/
def endings : List Call → Scene → List Int
  | [], _ => []
  | call :: rest, scene => (call.ended? scene).toList ++ endings rest (call.next scene)

theorem exitStatus_calls (calls : List Call) (scene : Scene) :
    (performAll calls scene).2.run.outcome.exitStatus =
      scene.run.outcome.exitStatus.or (calls.findSome? Call.status?) := by
  induction calls generalizing scene with
  | nil => exact (Option.or_none).symm
  | cons call rest ih =>
    refine (ih (call.next scene)).trans ?_
    rw [(ends_call call scene).status, Option.or_assoc, List.findSome?_cons]
    cases call.status? <;> rfl

/-- **A command ends once**, by the first call that has a status for it. -/
theorem endings_calls (calls : List Call) (scene : Scene) :
    endings calls scene =
      if scene.run.outcome.exitStatus = none then (calls.findSome? Call.status?).toList else [] := by
  -- After the first call with a status the scene has one, and by the hypothesis the rest end nothing.
  induction calls generalizing scene with
  | nil => exact (ite_self _).symm
  | cons call rest ih =>
    have hcall := ends_call call scene
    rw [endings, ih, hcall.ended, hcall.status, List.findSome?_cons]
    cases scene.run.outcome.exitStatus with
    | some first => rfl
    | none => cases call.status? <;> rfl

theorem log_performAll (calls : List Call) (scene : Scene) :
    ∃ records, (performAll calls scene).2.world.log = scene.world.log ++ records ∧
      records.filter (·.note.isEnding) = (endings calls scene).flatMap scene.run.command.endingRecords := by
  induction calls generalizing scene with
  | nil => exact ⟨[], (List.append_nil _).symm, rfl⟩
  | cons call rest ih =>
    obtain ⟨first, hfirst, hcall⟩ := (ends_call call scene).told
    obtain ⟨more, hmore, hrest⟩ := ih (call.next scene)
    have hlast : (performAll (call :: rest) scene).2 = (performAll rest (call.next scene)).2 := rfl
    refine ⟨first ++ more, ?_, ?_⟩
    · rw [hlast, hmore, hfirst, List.append_assoc]
    · rw [List.filter_append, hcall, hrest, (effect_perform call scene).2, endings, List.flatMap_append]
      cases call.ended? scene <;> simp

/-- **The end of a command is told once.** After any calls on a new command it is the same command, its status is
the first one that a call had for it, by that call alone it was ended, and the records since then hold the records
of this ending and of no other. One more call that gives a value is refused, without any change, if the value
denotes no status or if the command has ended; else it ends the command, tells so, and raises the status with what
the outputs hold at that moment if it is a failure. An integer of too many digits is in the way twice: an ending
that is no failure is not told at a level that cannot be written, and this is raised when the status has been
recorded; and a call after the end is refused for that reason if the status cannot be written. A call that asks for
no settings in force tells nothing. -/
theorem ending_told (command : Command) (world : World) (calls : List Call) :
    let fresh : Scene := ⟨.ofCommand command, world⟩
    let last := (performAll calls fresh).2
    let first := calls.findSome? Call.status?
    (last.run.command = command ∧ last.run.outcome.exitStatus = first ∧ endings calls fresh = first.toList ∧
      ∃ records, last.world.log = world.log ++ records ∧
        records.filter (·.note.isEnding) = first.toList.flatMap command.endingRecords) ∧
    (∀ code fault, statusOf code = .error fault →
      (Call.finishWith code).perform.run last = (.error (.status fault), last)) ∧
    (∀ code status earlier, statusOf code = .ok status → first = some earlier →
      (Call.finishWith code).perform.run last =
        (.error (if isWritable earlier = true then .alreadyComplete earlier else .integer .unwritable), last)) ∧
    (∀ code status, statusOf code = .ok status → first = none →
      let call := Call.finishWith code
      let outcome := last.run.outcome
      call.result last =
          (if status ≠ 0 ∧ command.raises = true then
            .error (.exited (failureSummary command.base outcome.stdout outcome.stderr) status)
          else if isWritable command.verbosity = true then .ok ()
          else .error (.integer .unwritable)) ∧
        (call.next last).run.outcome = outcome.ended status last.world.clock ∧
        (call.next last).world.log = last.world.log ++ command.endingRecords status) ∧
    ∀ call : Call, call.Quiet command → (call.next last).world.log = last.world.log := by
  intro fresh last first
  have hstatus : last.run.outcome.exitStatus = first := exitStatus_calls calls fresh
  have hcommand : last.run.command = command := command_performAll calls fresh
  have hendings : endings calls fresh = first.toList := endings_calls calls fresh
  refine ⟨⟨hcommand, hstatus, hendings, ?_⟩, ?_, ?_, ?_, ?_⟩
  · obtain ⟨records, hlog, hrecords⟩ := log_performAll calls fresh
    exact ⟨records, hlog, hrecords.trans (congrArg (List.flatMap command.endingRecords) hendings)⟩
  · intro code fault hcode
    exact run_finishWith_of_error hcode last
  · intro code status earlier hcode hfirst
    exact run_finishWith_of_complete (hstatus.trans hfirst) hcode
  · intro code status hcode hfirst
    have hended := run_finishWith_of_pending (hstatus.trans hfirst) hcode
    rwa [hcommand] at hended
  · intro call hquiet
    rw [← hcommand] at hquiet
    exact log_next_of_quiet hquiet

/-- An ending is not told in one record always. Where the log is set to a higher level nothing is written of it,
and a level with a digit too many is not told at all. -/
theorem ending_untold :
    let scene (level : Verbosity.Level) : Scene :=
      ⟨.ofCommand ⟨⟨0⟩, "true", [], .none, level, true, some .defaults⟩, .fresh ⟨"settings.json", "project"⟩⟩
    let call := Call.finishWith (.int 0)
    CommandLine.logText Id.text Verbosity.warning (call.next (scene Verbosity.info)).world.log = "" ∧
      call.result (scene (Nat.pow 10 maxDigits)) = .error (.integer .unwritable) ∧
      (call.next (scene (Nat.pow 10 maxDigits))).world.log = [] := by
  intro scene call
  refine ⟨by decide +kernel, ?_⟩
  generalize hlevel : Nat.pow 10 maxDigits = level
  have hno : isWritable level = false := isWritable_of_le hlevel.le
  obtain ⟨hresult, -, hlog⟩ :=
    run_finishWith_of_pending (show (scene level).run.outcome.exitStatus = none from rfl)
      (show statusOf (.int 0) = .ok 0 from rfl)
  rw [hresult, hlog]
  simp [Command.endingRecords, scene, Run.ofCommand, hno, World.fresh]

end Invocation

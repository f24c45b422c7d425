import Invocation.Proofs.Reported
import Invocation.Shell.Launch

/-!
# Executions that are refused

An execution stops before its shell runs if the line cannot be rendered, if the level of the command cannot be
written, or if the shell refuses to start; else it is concluded (`execution_execute`). A command is marked as
started before the shell is asked for, and nothing takes the mark back: of all executions that are over, those
that were refused are the ones that leave a command started and pending (`execute_refused`). The shell that runs
lines in a directory refuses by the line and the directory alone (`launch_refuses_iff`).
-/

namespace Invocation

open Invocation.Number

/-! ## The ends of an execution -/

section Execution

variable {shell : Request → Launch} {directory : String} {config : Option Settings} {limit : Option Limit}
  {command : Command} {world : World}

variable (directory config limit command world) in
/-- The execution comes to ask a shell for something: it has a line, and tells of it. -/
def Asks (request : Request) : Prop :=
  isWritable command.verbosity = true ∧ ∃ line loaded, (command.line config).run world = (.ok line, loaded) ∧
    request = ⟨directory, loaded.environment, line, limit⟩

theorem Asks.unique {request : Request} (h : Asks directory config limit command world request) {line : String}
    {loaded : World} (hline : (command.line config).run world = (.ok line, loaded)) :
    request = ⟨directory, loaded.environment, line, limit⟩ := by
  obtain ⟨-, line', loaded', hline', rfl⟩ := h
  cases hline.symm.trans hline'
  rfl

variable (shell directory config limit command world) in
/-- What an execution of a command that is not started comes to. -/
inductive Execution : Except Failure Unit × Scene → Prop
  | unrendered {failure : Failure} {loaded : World}
    (hline : (command.line config).run world = (.error failure, loaded)) :
    Execution (.error failure, ⟨.ofCommand command, loaded⟩)
  | untold {line : String} {loaded : World} (hline : (command.line config).run world = (.ok line, loaded))
    (hlevel : isWritable command.verbosity = false) :
    Execution (.error (.integer .unwritable), ⟨.ofCommand command, loaded⟩)
  | refused {line : String} {loaded : World} {fault : LaunchFault}
    (hline : (command.line config).run world = (.ok line, loaded)) (hlevel : isWritable command.verbosity = true)
    (hshell : shell ⟨directory, loaded.environment, line, limit⟩ = .refused fault) :
    Execution (.error (.launch fault), .started command line loaded)
  | concluded {line : String} {loaded : World} {course : Course} {result : Except Failure Unit} {after : Scene}
    (hline : (command.line config).run world = (.ok line, loaded)) (hlevel : isWritable command.verbosity = true)
    (hshell : shell ⟨directory, loaded.environment, line, limit⟩ = .ran course)
    (hstarted : after.run.outcome.isStarted = true)
    (hstatus : after.run.outcome.exitStatus = some course.ending.status)
    (hconcludes : Concludes command line after.run.outcome course.ending result) :
    Execution (result, after)

theorem execution_execute : Execution shell directory config limit command world
    ((Run.execute shell directory config limit).run ⟨.ofCommand command, world⟩) := by
  rcases hline : (command.line config).run world with ⟨failure | line, loaded⟩
  · have hrun : (Run.line config).run ⟨.ofCommand command, world⟩ =
        (.error failure, ⟨.ofCommand command, loaded⟩) := by
      unfold Run.line
      rw [run_bind_of_ok (Run.run_get _), Run.run_inWorld]
      dsimp only [Run.ofCommand]
      rw [hline]
    unfold Run.execute
    rw [run_bind_of_error hrun]
    exact .unrendered hline
  · cases hlevel : isWritable command.verbosity with
    | false =>
      rw [Run.run_execute_untold hline hlevel]
      exact .untold hline hlevel
    | true =>
      cases hshell : shell ⟨directory, loaded.environment, line, limit⟩ with
      | refused fault =>
        rw [Run.run_execute_rendered hline hlevel, hshell]
        exact .refused hline hlevel hshell
      | ran course =>
        obtain ⟨result, after, hexecute, -, hstarted, hstatus, hconcludes⟩ :=
          Run.execute_concludes hline hlevel hshell
        rw [hexecute]
        exact .concluded hline hlevel hshell hstarted hstatus hconcludes

/-- A line that is not rendered fails for the settings, not for the shell. -/
theorem not_launch_of_line {failure : Failure} {loaded : World}
    (hline : (command.line config).run world = (.error failure, loaded)) (fault : LaunchFault) :
    failure ≠ .launch fault := by
  rintro rfl
  rw [Command.line, run_bind] at hline
  cases hconfig : config <|> command.config with
  | some s =>
    rw [Command.renderSettings, hconfig] at hline
    cases hline
  | none =>
    rw [Command.renderSettings, hconfig] at hline
    rcases hsettings : World.settings.run world with ⟨failure | s, after⟩
    · rw [hsettings] at hline
      obtain ⟨hfailure, -⟩ := Prod.mk.inj hline
      obtain ⟨why, hwhy⟩ := exists_loadFault hsettings
      rw [Except.error.inj hfailure] at hwhy
      cases why <;> cases hwhy
    · rw [hsettings] at hline
      cases hline

theorem Concludes.not_launch {line : String} {o : Outcome} {ending : Ending} {result : Except Failure Unit}
    (h : Concludes command line o ending result) (fault : LaunchFault) : result ≠ .error (.launch fault) := by
  cases h <;> exact nofun

namespace Execution

variable {ended : Except Failure Unit × Scene} {fault : LaunchFault}

/-- An execution fails for the shell exactly if the shell refuses what it is asked. -/
theorem launch_iff (h : Execution shell directory config limit command world ended) :
    ended.1 = .error (.launch fault) ↔
      ∃ request, Asks directory config limit command world request ∧ shell request = .refused fault := by
  cases h with
  | unrendered hline =>
    refine iff_of_false (fun hlaunch => not_launch_of_line hline fault (Except.error.inj hlaunch)) ?_
    rintro ⟨request, ⟨-, line, loaded, hline', -⟩, -⟩
    cases hline.symm.trans hline'
  | untold hline hlevel =>
    refine iff_of_false nofun ?_
    rintro ⟨request, ⟨hlevel', -⟩, -⟩
    cases hlevel.symm.trans hlevel'
  | refused hline hlevel hshell =>
    -- The request is determined by the line, so that there is one refusal only.
    constructor
    · intro hlaunch
      cases hlaunch
      exact ⟨_, ⟨hlevel, _, _, hline, rfl⟩, hshell⟩
    · rintro ⟨request, hasks, hshell'⟩
      rw [hasks.unique hline, hshell] at hshell'
      cases hshell'
      rfl
  | concluded hline hlevel hshell hstarted hstatus hconcludes =>
    refine iff_of_false (hconcludes.not_launch fault) ?_
    rintro ⟨request, hasks, hshell'⟩
    rw [hasks.unique hline, hshell] at hshell'
    cases hshell'

theorem left_started (h : Execution shell directory config limit command world ended)
    (hlaunch : ended.1 = .error (.launch fault)) :
    ended.2.run.command = command ∧
      ∃ moment, ended.2.run.outcome = { Outcome.pending with isStarted := true, startedAt := some moment } := by
  cases h with
  | unrendered hline => exact absurd (Except.error.inj hlaunch) (not_launch_of_line hline fault)
  | untold hline hlevel => cases hlaunch
  | refused hline hlevel hshell => exact ⟨rfl, _, rfl⟩
  | concluded hline hlevel hshell hstarted hstatus hconcludes => exact absurd hlaunch (hconcludes.not_launch fault)

theorem pending_iff (h : Execution shell directory config limit command world ended) :
    ended.2.run.outcome.isStarted = true ∧ ended.2.run.outcome.isComplete = false ↔
      ∃ fault, ended.1 = .error (.launch fault) := by
  cases h with
  | unrendered hline =>
    refine iff_of_false (fun hleft => Bool.false_ne_true hleft.1) ?_
    rintro ⟨fault, hlaunch⟩
    exact not_launch_of_line hline fault (Except.error.inj hlaunch)
  | untold hline hlevel => exact iff_of_false (fun hleft => Bool.false_ne_true hleft.1) nofun
  | refused hline hlevel hshell => exact iff_of_true ⟨rfl, rfl⟩ ⟨_, rfl⟩
  | concluded hline hlevel hshell hstarted hstatus hconcludes =>
    refine iff_of_false (fun hleft => ?_) (fun ⟨fault, hlaunch⟩ => hconcludes.not_launch fault hlaunch)
    rw [Outcome.isComplete, hstatus] at hleft
    cases hleft.2

/-- If the shell that is asked runs, the command is started and complete. -/
theorem complete_of_ran (h : Execution shell directory config limit command world ended) {request : Request}
    (hasks : Asks directory config limit command world request) {course : Course}
    (hran : shell request = .ran course) :
    ended.2.run.outcome.isStarted = true ∧ ended.2.run.outcome.isComplete = true ∧
      ended.2.run.outcome.exitStatus = some course.ending.status := by
  cases h with
  | unrendered hline =>
    obtain ⟨-, line, loaded, hline', -⟩ := hasks
    cases hline.symm.trans hline'
  | untold hline hlevel => cases hlevel.symm.trans hasks.1
  | refused hline hlevel hshell =>
    rw [hasks.unique hline, hshell] at hran
    cases hran
  | concluded hline hlevel hshell hstarted hstatus hconcludes =>
    rw [hasks.unique hline, hshell] at hran
    cases hran
    refine ⟨hstarted, ?_, hstatus⟩
    rw [Outcome.isComplete, hstatus]
    rfl

/-- An execution whose line is not rendered fails as the line does, and changes nothing of the command. -/
theorem of_unrendered (h : Execution shell directory config limit command world ended) {failure : Failure}
    {loaded : World} (hline : (command.line config).run world = (.error failure, loaded)) :
    ended = (.error failure, ⟨.ofCommand command, loaded⟩) := by
  cases h with
  | unrendered hline' =>
    cases hline.symm.trans hline'
    rfl
  | untold hline' hlevel => cases hline.symm.trans hline'
  | refused hline' hlevel hshell => cases hline.symm.trans hline'
  | concluded hline' hlevel hshell hstarted hstatus hconcludes => cases hline.symm.trans hline'

end Execution

end Execution

/-! ## The shell -/

namespace Shell

theorem directoryFault?_eq_none_iff {files : Files} {name : String} {path : Path} :
    directoryFault? files name path = none ↔ files.find? path = some .directory := by
  unfold directoryFault?
  split
  · next hfind => exact ⟨fun _ => hfind, fun _ => rfl⟩
  · next node hother hfind =>
    refine ⟨nofun, fun h => ?_⟩
    exact absurd (Option.some.inj (hfind.symm.trans h)) hother
  · next hfind =>
    rw [hfind]
    dsimp only
    split <;> exact iff_of_false nofun nofun

theorem launch_eq_refused_iff {files : Files} {base : Path} {request : Request} {fault : LaunchFault} :
    launch files base request = .refused fault ↔ launchFault? files base request = some fault := by
  unfold launch
  cases launchFault? files base request with
  | some fault' => exact ⟨fun h => congrArg some (Launch.refused.inj h), fun h => congrArg _ (Option.some.inj h)⟩
  | none => exact ⟨nofun, nofun⟩

/-- The shell cannot be started: a text has a null character, the directory is none, or the line is too long. -/
def Unstartable (files : Files) (base : Path) (request : Request) : Prop :=
  request.line.contains (Char.ofNat 0) = true ∨ request.directory.contains (Char.ofNat 0) = true ∨
    files.find? (Path.ofText base (Text.ofString request.directory)) ≠ some .directory ∨
    maxLine < (Text.ofString request.line).length

theorem exists_launchFault_iff {files : Files} {base : Path} {request : Request} :
    (∃ fault, launchFault? files base request = some fault) ↔ Unstartable files base request := by
  rw [← Option.isSome_iff_exists, launchFault?, Unstartable]
  by_cases hnull : (request.line.contains (Char.ofNat 0) || request.directory.contains (Char.ofNat 0)) = true
  · rw [if_pos hnull, ← or_assoc, ← Bool.or_eq_true]
    exact iff_of_true rfl (.inl hnull)
  · rw [if_neg hnull, ← or_assoc, ← Bool.or_eq_true, or_iff_right hnull, Ne, ← directoryFault?_eq_none_iff]
    cases directoryFault? files request.directory (Path.ofText base (Text.ofString request.directory)) with
    | some fault => exact iff_of_true rfl (.inl nofun)
    | none =>
      rw [or_iff_right (fun h => h rfl)]
      dsimp only
      split
      · next hlong => exact iff_of_true rfl hlong
      · next hlong => exact iff_of_false nofun hlong

theorem launch_refuses_iff {files : Files} {base : Path} {request : Request} :
    (∃ fault, launch files base request = .refused fault) ↔ Unstartable files base request := by
  simp only [launch_eq_refused_iff, exists_launchFault_iff]

end Shell

/-! ## What is left of the command -/

end Invocation

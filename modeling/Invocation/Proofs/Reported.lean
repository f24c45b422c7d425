import Invocation.CommandLine.Reply
import Invocation.Proofs.Collapsed
import Invocation.Proofs.Legible
import Invocation.Proofs.Schedule
import Invocation.Proofs.Session
import Invocation.Proofs.Short

/-!
# Statuses that are reported

A call that runs a command shows its line, executes it, shows what came of it, and exits with the status
that the execution recorded. However the shell ends, the execution is concluded (`Run.execute_concludes`),
and with a status that is raised an error is shown that has the name of the command in its hint. So the call
exits with the status exactly if that hint can be shown and the status can be written (`Showable`,
`reply_run`).
-/

namespace Invocation

open Invocation.Capture Invocation.Number Invocation.Text

/-! ## Executions -/

/-- What arrives only appends to the outputs. -/
theorem Run.run_receive (readers : Readers) (arrivals : List Arrival) (scene : Scene) :
    ∃ after, (receive readers arrivals).run scene = (.ok (), after) ∧ scene.Extended after := by
  induction arrivals generalizing readers scene with
  | nil => exact ⟨scene, rfl, .refl scene⟩
  | cons arrival rest ih =>
    have hstep : receive readers (arrival :: rest) = (do
        ((readers.step arrival.stream arrival.move).2).forM (appendText arrival.stream)
        receive (readers.step arrival.stream arrival.move).1 rest) := by
      cases arrival <;> rfl
    obtain ⟨after, hrest, hextended⟩ := ih (readers.step arrival.stream arrival.move).1
      { scene with run.outcome :=
          scene.run.outcome.appendAll arrival.stream (readers.step arrival.stream arrival.move).2 }
    refine ⟨after, ?_, (Scene.Extended.appendAll ..).trans hextended⟩
    rw [hstep, run_bind_of_ok (run_appendTexts ..), hrest]

theorem Concludes.ended {command : Command} {line : String} {o : Outcome} {ending : Ending}
    {result : Except Failure Unit} (h : Concludes command line o ending result) (status : Int)
    (moment : Nat) : Concludes command line (o.ended status moment) ending result := by
  cases h with
  | returned h => exact .returned h
  | failed nonzero raises => exact .failed nonzero raises
  | timedOut lenient => exact .timedOut lenient

/-- **An execution whose shell runs is concluded** with the status of its ending, and the command is started. -/
theorem Run.execute_concludes {shell : Request → Launch} {directory : String} {config : Option Settings}
    {limit : Option Limit} {command : Command} {world loaded : World} {line : String} {course : Course}
    (hline : (command.line config).run world = (.ok line, loaded))
    (hlevel : isWritable command.verbosity = true)
    (hshell : shell ⟨directory, loaded.environment, line, limit⟩ = .ran course) :
    ∃ result after,
      (execute shell directory config limit).run ⟨.ofCommand command, world⟩ = (result, after) ∧
      after.run.command = command ∧ after.run.outcome.isStarted = true ∧
      after.run.outcome.exitStatus = some course.ending.status ∧
      Concludes command line after.run.outcome course.ending result := by
  obtain ⟨received, hreceive, hextended⟩ := run_receive .fresh course.arrivals (.started command line loaded)
  have hcommand : received.run.command = command := hextended.command
  have hpending : received.run.outcome.exitStatus = none := hextended.exitStatus
  obtain ⟨result, after, moment, hconclude, hafter, hconcludes⟩ :=
    run_conclude hpending (hcommand ▸ hlevel) line course.ending
  rw [hcommand] at hconclude hafter hconcludes
  refine ⟨result, after, ?_, congrArg Run.command hafter, ?_, ?_, ?_⟩
  · rw [run_execute hline hlevel hshell, run_bind_of_ok hreceive, hconclude]
  · rw [hafter]
    exact hextended.isStarted
  · rw [hafter]
    rfl
  · rw [hafter]
    exact hconcludes.ended course.ending.status moment

namespace CommandLine

open Invocation.Display

/-! ## Reports -/

theorem run_shownText_ok (cs : List Char) (world : World) :
    (shownText (.ok cs)).run world = (.ok (String.ofList cs), world) :=
  rfl

section Reports

variable [Handlers] {console : Console} {run : Run} {line : String} {ending : Ending}
  {result : Except Failure Unit}

variable (console run) in
/-- What is written of a run can be shown: its status can be written, and if it is raised, the text of the
error can be shown in the panel. -/
def Showable : Prop :=
  ∀ status, run.outcome.exitStatus = some status → isWritable status = true ∧
    (status ≠ 0 → run.command.raises = true → CanShow console (console.width - 4)
      (errorText (trimEnd (failureSummary run.command.base run.outcome.stdout run.outcome.stderr))
        (run.command.base ++ " exited " ++ showInt status)))

theorem showable_iff {status : Int} (hstatus : run.outcome.exitStatus = some status) :
    Showable console run ↔ isWritable status = true ∧
      (status ≠ 0 → run.command.raises = true → CanShow console (console.width - 4)
        (errorText (trimEnd (failureSummary run.command.base run.outcome.stdout run.outcome.stderr))
          (run.command.base ++ " exited " ++ showInt status))) := by
  constructor
  · intro h
    exact h status hstatus
  · intro h other hother
    cases hstatus.symm.trans hother
    exact h

/-- A status that is zero or not raised needs a decimal text only. -/
theorem showable_iff_of_returned {status : Int} (hstatus : run.outcome.exitStatus = some status)
    (h : status = 0 ∨ run.command.raises = false) : Showable console run ↔ isWritable status = true := by
  rw [showable_iff hstatus, and_iff_left]
  intro hnonzero hraises
  rcases h with hzero | hlenient
  · exact absurd hzero hnonzero
  · cases hlenient.symm.trans hraises

/-- What is shown of a run that returns: its outputs, if the status can be written. -/
theorem report_returned_cases {status : Int} (hstatus : run.outcome.exitStatus = some status)
    (h : status = 0 ∨ run.command.raises = false) :
    (Showable console run ∧ ∃ output, ∀ world,
      (report console run (.ok ())).run world = (.ok ⟨status, output⟩, world)) ∨
    ¬Showable console run ∧ ∃ fault, ∀ world,
      (report console run (.ok ())).run world = (.error (.markup fault), world) := by
  rw [showable_iff_of_returned hstatus h, ← statusWritable_iff hstatus]
  unfold report
  dsimp only
  rcases showOutput_cases console run with ⟨hwritable, shown, hshown⟩ | ⟨hunwritable, hfault⟩
  · refine .inl ⟨hwritable, String.ofList shown, fun world => ?_⟩
    rw [hshown, run_bind_of_ok (run_shownText_ok shown world), hstatus]
    rfl
  · refine .inr ⟨hunwritable, .integer .unwritable, fun world => ?_⟩
    rw [hfault]
    rfl

/-- What is shown of a run whose status is raised: an error, if the status can be written. -/
theorem report_failed_cases (hroom : 4 < console.width) (nonzero : ending.status ≠ 0)
    (hstatus : run.outcome.exitStatus = some ending.status) (raises : run.command.raises = true) :
    let summary := failureSummary run.command.base run.outcome.stdout run.outcome.stderr
    (Showable console run ∧ ∃ output, ∀ world,
      (report console run (.error (.exited summary ending.status))).run world =
        (.ok ⟨ending.status, output⟩, world)) ∨
    ¬Showable console run ∧ ∃ fault, ∀ world,
      (report console run (.error (.exited summary ending.status))).run world = (.error (.markup fault), world) := by
  intro summary
  have hhint : run.command.base ++ " exited " ++ showInt ending.status ≠ "" := by
    intro he
    have hchars := congrArg String.toList he
    simp at hchars
  rw [showable_iff hstatus]
  unfold report
  dsimp only
  cases hwritable : isWritable ending.status with
  | false => exact .inr ⟨fun h => Bool.false_ne_true h.1, .integer .unwritable, fun world => rfl⟩
  | true =>
    rw [Bool.not_true, if_neg Bool.false_ne_true, if_neg nonzero]
    rcases showError_cases hroom (trimEnd summary) hhint with ⟨hcan, cs, hcs⟩ | ⟨hnot, fault, hfault⟩
    · refine .inl ⟨⟨rfl, fun _ _ => hcan⟩, String.ofList cs, fun world => ?_⟩
      rw [hcs]
      rfl
    · refine .inr ⟨fun h => hnot (h.2 nonzero raises), fault, fun world => ?_⟩
      rw [hfault]
      rfl

/-- What is shown of a run that was timed out and does not raise its status: its outputs and an error whose
hint has no tags. -/
theorem report_timedOut (hroom : 4 < console.width) (hstatus : run.outcome.exitStatus = some timeoutStatus)
    (limit line : String) : ∃ output, ∀ world,
      (report console run (.error (.timedOut limit line))).run world = (.ok ⟨timeoutStatus, output⟩, world) := by
  have hhint : Literal "Raise --timeout or background the command.".toList := by decide +kernel
  have hcan := canShow_errorText_literal console (console.width - 4) (Failure.timedOut limit line).message hhint
  obtain ⟨ended, hended⟩ := exists_markedText_statusLine console run.command.base timeoutStatus
  obtain ⟨shown, hshown⟩ : ∃ shown, showOutput console run = .ok shown :=
    ⟨_, showOutput_of_writable console ((statusWritable_iff hstatus).2 rfl) hstatus hended⟩
  rcases showError_cases hroom (Failure.timedOut limit line).message
    (show "Raise --timeout or background the command." ≠ "" by decide) with ⟨-, cs, hcs⟩ | ⟨hnot, -⟩
  · refine ⟨String.ofList shown ++ String.ofList cs, fun world => ?_⟩
    unfold report
    dsimp only
    rw [hshown, run_bind_of_ok (run_shownText_ok shown world), hcs, run_bind_of_ok (run_shownText_ok cs world)]
    rfl
  · exact absurd hcan hnot

/-- **A run is reported with its status**, if it can be shown. -/
theorem report_cases (hroom : 4 < console.width) (hstatus : run.outcome.exitStatus = some ending.status)
    (hresult : Concludes run.command line run.outcome ending result) :
    (Showable console run ∧ ∃ output, ∀ world,
      (report console run result).run world = (.ok ⟨ending.status, output⟩, world)) ∨
    ¬Showable console run ∧ ∃ fault, ∀ world,
      (report console run result).run world = (.error (.markup fault), world) := by
  cases hresult with
  | returned h => exact report_returned_cases hstatus h
  | failed nonzero raises => exact report_failed_cases hroom nonzero hstatus raises
  | @timedOut limit lenient =>
    have hstatus : run.outcome.exitStatus = some timeoutStatus := hstatus
    have hwritable : isWritable timeoutStatus = true := rfl
    have hshowable : Showable console run := (showable_iff_of_returned hstatus (.inr lenient)).2 hwritable
    exact .inl ⟨hshowable, report_timedOut hroom hstatus limit.text line⟩

end Reports

/-! ## Calls -/

/-- The console that a call writes to under some settings. -/
def consoleUnder (s : Settings) : Console :=
  { terminal with theme := s.theme }

theorem short_optionEntry (name option : String) (arguments : Arguments) :
    ∀ entry ∈ optionEntry name option arguments, entry.2.Short := by
  unfold optionEntry
  split
  · exact List.forall_mem_singleton.2 (.text _)
  · exact nofun

/-- The options that a command line gives have no integers but in texts. -/
theorem Described.short_entries (described : Described) (environment : Entries String) (neverRaises : Bool) :
    Value.Short (.map (described.entries environment neverRaises)) := by
  have hflag : ∀ entry ∈ (if neverRaises then [("raise_on_non_zero_exit", .bool false)] else [] : Entries Value),
      entry.2.Short := by
    split
    · exact List.forall_mem_singleton.2 (.bool false)
    · exact nofun
  have hvariables : ∀ entry ∈ (if environment.isEmpty then [] else [("environment", .ofTexts environment)] :
      Entries Value), entry.2.Short := by
    split
    · exact nofun
    · refine List.forall_mem_singleton.2 (.map fun entry hentry => ?_)
      obtain ⟨pair, -, rfl⟩ := List.mem_map.1 hentry
      exact .text pair.2
  unfold Described.entries
  refine .map ?_
  simp only [List.forall_mem_append, List.forall_mem_singleton]
  exact ⟨⟨⟨⟨⟨⟨⟨short_optionEntry _ _ _, short_optionEntry _ _ _⟩, short_optionEntry _ _ _⟩, .bool _⟩,
    short_optionEntry _ _ _⟩, short_optionEntry _ _ _⟩, hflag⟩, hvariables⟩

section Calls

variable {described : Described} {neverRaises : Bool} {limit : Option Limit} {s : Settings}
  {command : Command} {world loaded made : World} {line : String}

/-- A command is made with no settings of its own, so that those in force are taken for its line. -/
theorem exists_line (h : (described.create neverRaises).run loaded = (.ok command, made)) :
    ∃ line, ∀ after : World,
      after.loaded = made.loaded → (command.line none).run after = (.ok line, after) := by
  unfold Described.create at h
  split at h
  · cases h
  · next environment _ =>
    have hcreated : Created (.text described.executable :: described.arguments.map .text)
        (described.entries environment neverRaises) none ⟨.ofCommand command, made⟩ := ⟨rfl, loaded, h⟩
    obtain ⟨body, rest, given, s, -, -, htaken, -⟩ := hcreated.cases
    have hloaded : made.loaded = some s := by
      rcases htaken with hnone | ⟨-, hloaded⟩
      · cases hnone
      · exact hloaded
    refine ⟨command.lineUnder s, fun after hafter => ?_⟩
    have hconfig : command.config = none := hcreated.config_eq
    have hsettings : (command.renderSettings none).run after = (.ok s, after) := by
      rw [Command.renderSettings, hconfig]
      exact World.run_settings_of_some (hafter.trans hloaded)
    unfold Command.line
    rw [run_bind_of_ok hsettings]
    rfl

/-- The level of a described command can be written, since it was read or is that of the settings. -/
theorem isWritable_verbosity (hloaded : ∀ s, world.loaded = some s → s.verbosity < Nat.pow 10 maxDigits)
    (hsettings : World.settings.run world = (.ok s, loaded))
    (hmade : (described.create neverRaises).run loaded = (.ok command, made)) :
    isWritable command.verbosity = true := by
  have hin (other : Settings) (hother : loaded.loaded = some other) :
      other.verbosity < Nat.pow 10 maxDigits := by
    cases (World.loaded_of_settings hsettings).symm.trans hother
    exact World.verbosity_of_settings hloaded hsettings
  unfold Described.create at hmade
  split at hmade
  · cases hmade
  · next environment _ =>
    rw [isWritable_iff, Int.natAbs_natCast]
    exact Command.verbosity_of_create (described.short_entries environment neverRaises) hin hmade

/-- The call that the arguments of a command line ask for, and the level from which records are written. -/
inductive Asked (arguments : List String) (level : Verbosity.Level) (call : Call) : Prop
  | named {globals : Arguments} {name : String} {rest : List String}
    (read : readArguments globalOptions false arguments = .ok globals)
    (positional : globals.positional = name :: rest) (known : name ∈ callNames)
    (leveled : levelOf globals = .ok level) (called : readCall name rest = .ok call)

theorem run_made (h : (described.create neverRaises).run loaded = (.ok command, made)) :
    (CommandLine.made (described.create neverRaises)).run loaded = (.ok (some command), made) := by
  unfold CommandLine.made
  rw [ExceptT.run_mk, h]

variable [Handlers]

/-- What a call to run a command does: the shell is asked while it is waited for. -/
theorem execute_cases {console : Console} (hroom : 4 < console.width)
    (hlevel : isWritable command.verbosity = true)
    (hline : ∀ after : World, after.loaded = made.loaded → (command.line none).run after = (.ok line, after))
    {shell : World → Request → Launch} {course : Course} :
    let waiting := made.logged Verbosity.debug .waiting
    shell waiting ⟨waiting.places.projectDirectory, waiting.environment, line, limit⟩ = .ran course →
    ∃ result after,
      (Run.execute (shell waiting) waiting.places.projectDirectory none limit).run
        ⟨.ofCommand command, waiting⟩ = (result, after) ∧
      after.run.command = command ∧ after.run.outcome.exitStatus = some course.ending.status ∧
      ((Showable console after.run ∧ ∃ output,
        (execute shell console command limit).run made = (.ok ⟨course.ending.status, output⟩, after.world)) ∨
      ¬Showable console after.run ∧ ∃ fault,
        (execute shell console command limit).run made = (.error (.markup fault), after.world)) := by
  intro waiting hshell
  have hwaiting : (command.line none).run waiting = (.ok line, waiting) := hline waiting rfl
  obtain ⟨result, after, hrun, hcommand, -, hstatus, hconcludes⟩ := Run.execute_concludes hwaiting hlevel hshell
  refine ⟨result, after, hrun, hcommand, hstatus, ?_⟩
  obtain ⟨shown, hshown⟩ := exists_showLine console line
  have hexecute : (execute shell console command limit).run made =
      (do
        let answer ← report console after.run result
        return { answer with output := String.ofList shown ++ answer.output } : Action Answer).run
          after.world := by
    have hrecord : (World.record Verbosity.debug .waiting).run made = (.ok (), waiting) :=
      World.run_record rfl .waiting made
    have hget : (get : Action World).run waiting = (.ok waiting, waiting) := rfl
    unfold execute
    rw [run_bind_of_ok (hline made rfl), hshown, run_bind_of_ok (run_shownText_ok shown made),
      run_bind_of_ok hrecord, run_bind_of_ok hget, hrun]
    rfl
  rw [← hcommand] at hconcludes
  rcases report_cases hroom hstatus hconcludes with ⟨hshowable, output, hreport⟩ | ⟨hnot, fault, hreport⟩
  · refine .inl ⟨hshowable, String.ofList shown ++ output, ?_⟩
    rw [hexecute, run_bind_of_ok (hreport after.world)]
    rfl
  · refine .inr ⟨hnot, fault, ?_⟩
    rw [hexecute, run_bind_of_error (hreport after.world)]

theorem reply_of_asked {arguments : List String} {level : Verbosity.Level} {call : Call}
    (h : Asked arguments level call) (shown : Id → String) (shell : World → Request → Launch)
    (world : World) :
    reply shown shell arguments world =
      (replyOf shown level ((call.answer shown shell).run world).2.log
        ((call.answer shown shell).run world).1, ((call.answer shown shell).run world).2) := by
  obtain ⟨read, positional, known, leveled, called⟩ := h
  simp only [reply, read, positional, known, leveled, called, not_true, if_false]
  rfl

/-- A call to run a command that is made is its execution. -/
theorem answer_run (hsettings : World.settings.run world = (.ok s, loaded))
    (hmade : (described.create neverRaises).run loaded = (.ok command, made)) (shown : Id → String)
    (shell : World → Request → Launch) :
    ((Call.run described limit neverRaises).answer shown shell).run world =
      match (execute shell (consoleUnder s) command limit).run made with
      | (.ok answer, after) => (.ok (some answer), after)
      | (.error failure, after) => (.error failure, after) := by
  have hconsole : (chooseTheme terminal none).run world = (.ok (consoleUnder s), loaded) := by
    unfold chooseTheme
    exact run_bind_of_ok hsettings _
  unfold Call.answer
  dsimp only
  rw [run_bind_of_ok hconsole, run_bind_of_ok (run_made hmade)]
  dsimp only
  rw [run_bind]
  rcases (execute shell (consoleUnder s) command limit).run made with ⟨failure | answer, after⟩ <;> rfl

/-- Where nothing in the name of a command closes a tag and its tags have styles that can be read, whatever comes
of it can be shown. -/
theorem showable_of_opening {console : Console} {run : Run} (h : Opening run.command.base)
    (hstatus : StatusWritable run.outcome) : Showable console run := by
  refine fun status hsome => ⟨hstatus status hsome, fun _ _ => ?_⟩
  have hne : " exited " ++ showInt status ≠ "" := by
    intro he
    have hchars := congrArg String.toList he
    simp at hchars
  rw [String.append_assoc]
  exact canShow_errorText_of_opening console _ _ h (literal_exited status) hne

/-- A call that runs a command is answered with its status if what comes of it can be shown, and fails
else. -/
theorem reply_cases {arguments : List String} {level : Verbosity.Level}
    (hasked : Asked arguments level (.run described limit neverRaises))
    (hloaded : ∀ s, world.loaded = some s → s.verbosity < Nat.pow 10 maxDigits)
    (hsettings : World.settings.run world = (.ok s, loaded))
    (hmade : (described.create neverRaises).run loaded = (.ok command, made)) :
    let waiting := made.logged Verbosity.debug .waiting
    ∃ line, (command.line none).run waiting = (.ok line, waiting) ∧
      ∀ (shown : Id → String) (shell : World → Request → Launch) (course : Course),
      shell waiting ⟨waiting.places.projectDirectory, waiting.environment, line, limit⟩ = .ran course →
      ∃ result after,
        (Run.execute (shell waiting) waiting.places.projectDirectory none limit).run
          ⟨.ofCommand command, waiting⟩ = (result, after) ∧
        after.run.command = command ∧ after.run.outcome.exitStatus = some course.ending.status ∧
        ((Showable (consoleUnder s) after.run ∧ ∃ output errors,
          (reply shown shell arguments world).1 = .answered course.ending.status output errors) ∨
        ¬Showable (consoleUnder s) after.run ∧
          ∃ fault, (reply shown shell arguments world).1 = .failed (.markup fault)) := by
  intro waiting
  obtain ⟨line, hline⟩ := exists_line hmade
  refine ⟨line, hline waiting rfl, fun shown shell course hshell => ?_⟩
  have hroom : 4 < (consoleUnder s).width := show 4 < 80 by decide
  have hlevel := isWritable_verbosity hloaded hsettings hmade
  obtain ⟨result, after, hrun, hcommand, hstatus, hcases⟩ := execute_cases hroom hlevel hline hshell
  refine ⟨result, after, hrun, hcommand, hstatus, ?_⟩
  rw [reply_of_asked hasked, answer_run hsettings hmade]
  rcases hcases with ⟨hshowable, output, hexecute⟩ | ⟨hnot, fault, hexecute⟩
  · rw [hexecute]
    exact .inl ⟨hshowable, _, _, rfl⟩
  · rw [hexecute]
    exact .inr ⟨hnot, fault, rfl⟩

/-- **A call that runs a command exits with the status that was recorded**, that of the shell's ending or
of the timeout, exactly if what came of the command can be shown, and the process with its lowest byte. Else the
failure to show it comes out. It can be shown if the status is zero or is not raised, and whatever the outputs
are if in the name of the command nothing reads as a closing tag or as a tag whose style cannot be read. Only a
status of more than 4300 digits, with which no shell ends, is never shown. A level that long cannot be written
either, and is in force in no process that has only loaded its settings (`World.verbosity_of_settings`). -/
theorem reply_run {arguments : List String} {level : Verbosity.Level}
    (hasked : Asked arguments level (.run described limit neverRaises))
    (hloaded : ∀ s, world.loaded = some s → s.verbosity < Nat.pow 10 maxDigits)
    (hsettings : World.settings.run world = (.ok s, loaded))
    (hmade : (described.create neverRaises).run loaded = (.ok command, made)) :
    let waiting := made.logged Verbosity.debug .waiting
    ∃ line, (command.line none).run waiting = (.ok line, waiting) ∧
      ∀ (shown : Id → String) (shell : World → Request → Launch) (course : Course),
      shell waiting ⟨waiting.places.projectDirectory, waiting.environment, line, limit⟩ = .ran course →
      ∃ result after,
        (Run.execute (shell waiting) waiting.places.projectDirectory none limit).run
          ⟨.ofCommand command, waiting⟩ = (result, after) ∧
        after.run.outcome.exitStatus = some course.ending.status ∧
        ((∃ output errors,
          (reply shown shell arguments world).1 = .answered course.ending.status output errors) ↔
          Showable (consoleUnder s) after.run) ∧
        (Showable (consoleUnder s) after.run →
          (reply shown shell arguments world).1.exitCode = (course.ending.status % 256).toNat) ∧
        (¬Showable (consoleUnder s) after.run →
          (∃ fault, (reply shown shell arguments world).1 = .failed (.markup fault)) ∧
          (reply shown shell arguments world).1.exitCode = 1) ∧
        (isWritable course.ending.status = true →
          course.ending.status = 0 ∨ command.raises = false ∨ Opening command.base →
          Showable (consoleUnder s) after.run) := by
  intro waiting
  obtain ⟨line, hline, hcourse⟩ := reply_cases hasked hloaded hsettings hmade
  refine ⟨line, hline, fun shown shell course hshell => ?_⟩
  obtain ⟨result, after, hrun, hcommand, hstatus, hcases⟩ := hcourse shown shell course hshell
  refine ⟨result, after, hrun, hstatus, ?_, fun hcan => ?_, fun hnot => ?_, fun hwritable => ?_⟩
  · rcases hcases with ⟨hshowable, hanswered⟩ | ⟨hnot, fault, hfailed⟩
    · exact ⟨fun _ => hshowable, fun _ => hanswered⟩
    · refine ⟨?_, fun hshowable => absurd hshowable hnot⟩
      rintro ⟨output, errors, hanswered⟩
      rw [hfailed] at hanswered
      cases hanswered
  · rcases hcases with ⟨-, output, errors, hanswered⟩ | ⟨hnot, -⟩
    · rw [hanswered]
      rfl
    · exact absurd hcan hnot
  · rcases hcases with ⟨hshowable, -⟩ | ⟨-, fault, hfailed⟩
    · exact absurd hshowable hnot
    · rw [hfailed]
      exact ⟨⟨fault, rfl⟩, rfl⟩
  · rw [← hcommand]
    rintro (hzero | hlenient | hopening)
    · exact (showable_iff_of_returned hstatus (.inl hzero)).2 hwritable
    · exact (showable_iff_of_returned hstatus (.inr hlenient)).2 hwritable
    · exact showable_of_opening hopening ((statusWritable_iff hstatus).2 hwritable)

end Calls

/-- The world of a call, without variables and files, before the settings were asked for. -/
def deserted : World :=
  .fresh ⟨"/home/u/settings.json", "/work"⟩

/-- That world after the settings were asked for. -/
def settled : World :=
  { deserted with loaded := some Settings.defaults }

/-- A command as a call without options describes it. -/
def Described.plain (body : String) : Described :=
  ⟨body, [], ⟨[], [body]⟩⟩

/-- The command that is made of that description, with the settings that nothing changes. -/
def plainCommand (body : String) : Command where
  id := ⟨0⟩
  base := body
  args := []
  options := .none
  verbosity := Verbosity.info
  raises := true
  config := none

/-- A call is asked for by its name and its arguments alone. -/
theorem asked_of_readCall {name : String} {rest : List String} {call : Call} (known : name ∈ callNames)
    (called : readCall name rest = .ok call) : Asked (name :: rest) Verbosity.warning call := by
  have hglobals : readArguments globalOptions false (name :: rest) = .ok ⟨[], name :: rest⟩ := by
    simp only [callNames, List.mem_cons, List.not_mem_nil, or_false] at known
    rcases known with rfl | rfl | rfl <;> rfl
  have hlevel : levelOf ⟨[], name :: rest⟩ = .ok Verbosity.warning := by
    have hgiven : (⟨[], name :: rest⟩ : Arguments).last? "log-level" = none := rfl
    unfold levelOf
    rw [hgiven]
    decide +kernel
  exact .named hglobals rfl known hlevel called

theorem asked_plain {body : String} (hdashes : body ≠ "--") (hoption : isOption body = false) :
    Asked ["run", body] Verbosity.warning (.run (.plain body) none false) := by
  have hbody : readArguments runOptions true [body] = .ok ⟨[], [body]⟩ := by
    rw [readArguments, if_neg hdashes, hoption]
    rfl
  have hcall : readCall "run" [body] = .ok (.run (.plain body) none false) := by
    unfold readCall argumentsOf
    rw [hbody]
    rfl
  exact asked_of_readCall (by decide) hcall

theorem exists_made {body : String} (hline : OneLine body) (hsolid : NonBlank body)
    (htrim : trim body = body) :
    ∃ made, ((Described.plain body).create false).run settled = (.ok (plainCommand body), made) := by
  have hblank : isAllBlank body = false := by
    obtain ⟨c, hc, hsolid⟩ := hsolid
    exact List.all_eq_false.2 ⟨c, hc, by simp [hsolid]⟩
  have hexecutable : Command.executable? [.text body] = some (body, []) := by
    simp [Command.executable?, Command.unpack, Value.toText, hblank]
  have hoptions : Options.ofEntries [("run_in_background", .bool false)] = .ok .none := rfl
  have hcreate : (Described.plain body).create false =
      Command.create [.text body] [("run_in_background", .bool false)] none := rfl
  rw [hcreate, Command.create, hexecutable]
  dsimp only
  rw [hoptions]
  dsimp only
  rw [Render.collapse_single hline hsolid, htrim]
  exact ⟨_, rfl⟩

/-- A shell in which everything ends with a status and without outputs. -/
def exiting (status : Int) : World → Request → Launch :=
  fun _ _ => .ran ⟨[], .exited status⟩

theorem reply_run_false : ∃ output errors,
    (reply Id.text (exiting 3) ["run", "false"] deserted).1 = .answered 3 output errors := by
  have hsettings : World.settings.run deserted = (.ok Settings.defaults, settled) := rfl
  have hloaded (s : Settings) (h : deserted.loaded = some s) : s.verbosity < Nat.pow 10 maxDigits := by
    cases h
  obtain ⟨made, hmade⟩ := exists_made (show OneLine "false" by decide) (by decide) (by decide +kernel)
  obtain ⟨line, -, hcourse⟩ := reply_run (asked_plain (by decide) (by decide)) hloaded hsettings hmade
  obtain ⟨result, after, -, -, hanswered, -, -, hshowable⟩ := hcourse Id.text (exiting 3) _ rfl
  have hopening : Opening (plainCommand "false").base := by
    intro count body hmem
    exact .inl (quiet_of_unopened (by decide) _ hmem)
  exact hanswered.2 (hshowable rfl (.inr (.inr hopening)))

/-- A name that holds what reads as a closing tag keeps the status from being reported. -/
theorem reply_run_closing : ¬∃ output errors,
    (reply Id.text (exiting 3) ["run", "exit 3 # [/b]"] deserted).1 = .answered 3 output errors := by
  have hunopened (below : List Label) (h : below = [] ∨ below = [(Style.normalName "bold red", none)]) :
      openAfter ((Style.normalName "dim", none) :: below)
        (tokens (((plainCommand "exit 3 # [/b]").base ++ " exited " ++ showInt 3).toList ++
          '[' :: '/' :: "dim".toList ++ [']'])) = none := by
    rcases h with rfl | rfl
    · decide +kernel
    · decide +kernel
  have hsettings : World.settings.run deserted = (.ok Settings.defaults, settled) := rfl
  have hloaded (s : Settings) (h : deserted.loaded = some s) : s.verbosity < Nat.pow 10 maxDigits := by
    cases h
  obtain ⟨made, hmade⟩ := exists_made (show OneLine "exit 3 # [/b]" by decide) (by decide) (by decide +kernel)
  obtain ⟨line, -, hcourse⟩ := reply_cases (asked_plain (by decide) (by decide)) hloaded hsettings hmade
  obtain ⟨result, after, -, hcommand, hstatus, hcases⟩ := hcourse Id.text (exiting 3) _ rfl
  have hraises : after.run.command.raises = true := congrArg Command.raises hcommand
  rcases hcases with ⟨hshowable, -⟩ | ⟨-, fault, hfailed⟩
  · obtain ⟨labels, hlabels⟩ := ((hshowable 3 hstatus).2 (by decide) hraises).readable
    obtain ⟨below, hbelow, hhint⟩ := openAfter_errorText
      (trimEnd (failureSummary after.run.command.base after.run.outcome.stdout after.run.outcome.stderr))
    rw [hhint, hcommand] at hlabels
    cases (hunopened below hbelow).symm.trans hlabels
  · rintro ⟨output, errors, hanswered⟩
    rw [hfailed] at hanswered
    cases hanswered

end CommandLine

end Invocation

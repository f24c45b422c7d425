import Invocation.Proofs.Made

/-!
# Commands in a session

Between the making of a command and a later moment, variables and files may be written, and settings
configured, forgotten and loaded, in any order (`session`). None of it touches the run
(`session_run`), so that a rendering is seen to depend on the settings that are taken for it, and on
nothing else in the world (`rendering_of_some`, `rendering_of_none`).

Settings are taken at three moments: those given to a command stay with it (`Created.own`), level and
policy are taken when it is made (`Created.cases`, `run_finish_told`), and all else when it is rendered
(`Created.live`).
-/

namespace Invocation

open Invocation.Number

/-! ## Steps beside a command -/

/-- What can happen beside a command: variables and the files of settings are written, and the settings
in force are asked for, configured and forgotten. -/
inductive SessionStep where
  | setVariable (name : String) (value : Option String)
  | writeUserFile (contents : Option String)
  | writeProjectFile (contents : Option String)
  | save (s : Settings)
  | settings
  | configure (overrides : Entries Value)
  | forget

/-- What a step does in the world. -/
def SessionStep.perform : SessionStep → Action Unit
  | setVariable name value => World.setVariable name value
  | writeUserFile contents => modify fun world => { world with userFile := contents }
  | writeProjectFile contents => modify fun world => { world with projectFile := contents }
  | save s => do let _ ← World.save s
  | settings => do let _ ← World.settings
  | configure overrides => do let _ ← World.configure overrides
  | forget => World.forget

/-- The scene after a step, whether it succeeds or fails. -/
def SessionStep.next (step : SessionStep) (scene : Scene) : Scene :=
  ((Run.inWorld step.perform).run scene).2

/-- The scene after steps beside a command. -/
def session (steps : List SessionStep) (scene : Scene) : Scene :=
  steps.foldl (fun scene step => step.next scene) scene

theorem session_run (steps : List SessionStep) (scene : Scene) : (session steps scene).run = scene.run := by
  induction steps generalizing scene with
  | nil => rfl
  | cons step rest ih => exact ih (step.next scene)

/-! ## Making a command -/

/-- The scene right after a command was made of arguments, options and settings of its own. -/
structure Created (args : List Value) (options : Entries Value) (config : Option Settings)
    (scene : Scene) : Prop where
  pending : scene.run.outcome = .pending
  made : ∃ world, (Command.create args options config).run world = (.ok scene.run.command, scene.world)

/-- The settings from which a command took what its options leave open. -/
def TakenFrom (config : Option Settings) (scene : Scene) (s : Settings) : Prop :=
  config = some s ∨ config = none ∧ scene.world.loaded = some s

theorem Created.cases {args : List Value} {options : Entries Value} {config : Option Settings}
    {scene : Scene} (h : Created args options config scene) :
    ∃ body rest given s, Command.executable? args = some (body, rest) ∧
      Options.ofEntries options = .ok given ∧ TakenFrom config scene s ∧
      ∃ id, scene.run.command =
        { id
          base := Render.collapse body
          args := rest.map Value.toText
          options := given
          verbosity := given.verbosity.getD s.verbosity
          raises := given.raises.getD s.raises
          config } := by
  obtain ⟨⟨command, outcome⟩, after⟩ := scene
  obtain ⟨-, world, hmade⟩ := h
  have hmaking := making_create args options config world
  rw [hmade] at hmaking
  cases hmaking with
  | made executable given settings loaded told =>
    refine ⟨_, _, _, _, executable, given, ?_, _, rfl⟩
    rcases settings with ⟨hown, -⟩ | ⟨hnone, hsettings⟩
    · exact .inl hown
    · exact .inr ⟨hnone, loaded.trans (World.loaded_of_settings hsettings)⟩

theorem Created.config_eq {args : List Value} {options : Entries Value} {config : Option Settings}
    {scene : Scene} (h : Created args options config scene) : scene.run.command.config = config := by
  obtain ⟨body, rest, given, s, -, -, -, id, hcommand⟩ := h.cases
  rw [hcommand]

/-- Commands that were made of the same arguments and options differ at most in what they took from
settings. -/
theorem Created.unique {args : List Value} {options : Entries Value} {config config' : Option Settings}
    {scene scene' : Scene} (h : Created args options config scene)
    (h' : Created args options config' scene') :
    scene'.run.command.base = scene.run.command.base ∧
      scene'.run.command.args = scene.run.command.args ∧
      scene'.run.command.options = scene.run.command.options := by
  obtain ⟨body, rest, given, s, hexecutable, hgiven, -, id, hcommand⟩ := h.cases
  obtain ⟨body', rest', given', s', hexecutable', hgiven', -, id', hcommand'⟩ := h'.cases
  cases hexecutable.symm.trans hexecutable'
  cases hgiven.symm.trans hgiven'
  rw [hcommand, hcommand']
  exact ⟨rfl, rfl, rfl⟩

/-! ## Rendering -/

/-- What a step of a run gives in a scene, whatever it does there. -/
def Scene.observe {α : Type} (scene : Scene) (action : RunAction α) : Except Failure α :=
  (action.run scene).1

/-- The launched command of a run without its wraps. -/
def Run.short : RunAction String := do
  inWorld (← get).run.command.short

/-- A rendering of the run under the settings that are taken for it. -/
def Scene.rendering {α : Type} (config : Option Settings) (draw : Settings → Run → α) (scene : Scene) :
    Except Failure α × Scene :=
  let (result, world) := (scene.run.command.renderSettings config).run scene.world
  (result.map (draw · scene.run), { scene with world })

/-- The command of a run with its launcher and its arguments, under some settings. -/
def Run.launchedUnder (s : Settings) (run : Run) : String :=
  Render.launched s.commandMap run.command.base run.command.args

theorem Run.run_line (config : Option Settings) (scene : Scene) :
    (line config).run scene = scene.rendering config fun s run => run.command.lineUnder s := by
  unfold line
  rw [run_bind_of_ok (run_get scene), run_inWorld, Command.line, run_bind, Scene.rendering]
  rcases (scene.run.command.renderSettings config).run scene.world with ⟨failure | s, world⟩ <;> rfl

theorem Run.run_short (scene : Scene) : short.run scene = scene.rendering none launchedUnder := by
  unfold short
  rw [run_bind_of_ok (run_get scene), run_inWorld, Command.short, run_bind, Scene.rendering]
  rcases (scene.run.command.renderSettings none).run scene.world with ⟨failure | s, world⟩ <;> rfl

theorem Run.run_snapshot (config : Option Settings) (scene : Scene) :
    (snapshot config).run scene =
      scene.rendering config fun s run => ⟨run.command.lineUnder s, run⟩ := by
  unfold snapshot
  rw [run_bind, run_line, Scene.rendering, Scene.rendering]
  rcases (scene.run.command.renderSettings config).run scene.world with ⟨failure | s, world⟩ <;> rfl

theorem Scene.observe_line (config : Option Settings) (scene : Scene) :
    scene.observe (Run.line config) =
      (scene.rendering config fun s run => run.command.lineUnder s).1 :=
  congrArg Prod.fst (Run.run_line config scene)

theorem Scene.observe_short (scene : Scene) :
    scene.observe Run.short = (scene.rendering none Run.launchedUnder).1 :=
  congrArg Prod.fst (Run.run_short scene)

section Rendering

variable {α : Type} {config : Option Settings} {draw : Settings → Run → α} {scene : Scene}

/-- Settings that are given, or were given with the command, are all that a rendering depends on. -/
theorem rendering_of_some {s : Settings} (h : (config <|> scene.run.command.config) = some s) :
    scene.rendering config draw = (.ok (draw s scene.run), scene) := by
  rw [Scene.rendering, Command.renderSettings, h]
  rfl

theorem rendering_of_none (h : (config <|> scene.run.command.config) = none) :
    scene.rendering config draw =
      ((World.settings.run scene.world).1.map (draw · scene.run),
        { scene with world := (World.settings.run scene.world).2 }) := by
  rw [Scene.rendering, Command.renderSettings, h]
  rfl

/-- At most, settings were loaded: none were in force, and nothing else is different but the log. -/
inductive AtMostLoaded (scene : Scene) : Scene → Prop
  | kept : AtMostLoaded scene scene
  | loaded (h : scene.world.loaded = none) : AtMostLoaded scene
    { scene with world := { scene.world with
      loaded := scene.world.loads.toOption, log := scene.world.log ++ scene.world.skips } }

variable (config draw scene) in
theorem rendering_atMostLoaded : AtMostLoaded scene (scene.rendering config draw).2 := by
  cases hconfig : config <|> scene.run.command.config with
  | some s =>
    rw [rendering_of_some hconfig]
    exact .kept
  | none =>
    rw [rendering_of_none hconfig]
    cases hloaded : scene.world.loaded with
    | some s =>
      rw [World.run_settings_of_some hloaded]
      exact .kept
    | none =>
      rw [World.run_settings_of_none hloaded]
      exact .loaded hloaded

end Rendering

theorem log_logged (world : World) (level : Verbosity.Level) (note : Note) :
    (world.logged level note).log = world.log ++ if level = 0 then [] else [⟨level, note⟩] := by
  unfold World.logged
  split
  · rw [List.append_nil]
  · rfl

/-- The result of ending a run that is pending, and what is told of it, depend on the run only. -/
theorem run_finish_told {run : Run} (h : run.outcome.exitStatus = none) (status : Int) :
    ∃ result records, ∀ world : World, ∃ after : Scene,
      (Run.finish status).run ⟨run, world⟩ = (result, after) ∧
        after.world.log = world.log ++ records := by
  obtain ⟨command, outcome⟩ := run
  have hrun (world : World) : (Run.finish status).run ⟨⟨command, outcome⟩, world⟩ = _ :=
    Run.run_finish_of_pending h status
  dsimp only at hrun
  by_cases hraised : status ≠ 0 ∧ command.raises = true
  · simp only [if_pos hraised] at hrun
    exact ⟨_, _, fun world => ⟨_, hrun world, log_logged _ _ _⟩⟩
  · simp only [if_neg hraised] at hrun
    by_cases hlevel : isWritable command.verbosity = true
    · simp only [if_pos hlevel] at hrun
      exact ⟨_, _, fun world => ⟨_, hrun world, log_logged _ _ _⟩⟩
    · simp only [if_neg hlevel] at hrun
      exact ⟨_, [], fun world => ⟨_, hrun world, (List.append_nil _).symm⟩⟩

/-! ## Sessions -/

section Sessions

variable {args : List Value} {options : Entries Value} {config : Option Settings} {first : Scene}

/-- With settings of its own a command is rendered under these, as it was at first, and nothing is loaded
for it. -/
theorem Created.own {cfg : Settings} (h : Created args options (some cfg) first)
    (steps : List SessionStep) :
    let later := session steps first
    let line := first.run.command.lineUnder cfg
    (Run.line none).run later = (.ok line, later) ∧
      Run.short.run later = (.ok (first.run.launchedUnder cfg), later) ∧
      (Run.snapshot none).run later = (.ok ⟨line, first.run⟩, later) := by
  have hown : ((none : Option Settings) <|> (session steps first).run.command.config) = some cfg := by
    rw [session_run, h.config_eq]
    rfl
  simp only [Run.run_line, Run.run_short, Run.run_snapshot, rendering_of_some hown, session_run,
    and_self]

/-- Without settings of its own, a command is rendered as under the settings that are given now, and
not at all if none are. -/
theorem Created.live (h : Created args options none first) (steps : List SessionStep) :
    let later := session steps first
    (∀ s, later.observe (Run.inWorld World.settings) = .ok s →
      later.observe (Run.line none) = later.observe (Run.line (some s)) ∧
      ∀ other, Created args options (some s) other →
        later.observe Run.short = other.observe Run.short) ∧
    (∀ failure, later.observe (Run.inWorld World.settings) = .error failure →
      later.observe (Run.line none) = .error failure ∧ later.observe Run.short = .error failure) := by
  intro later
  have hlive : ((none : Option Settings) <|> later.run.command.config) = none := by
    rw [session_run, h.config_eq]
    rfl
  refine ⟨fun s hs => ⟨?_, fun other hother => ?_⟩, fun failure hfails => ⟨?_, ?_⟩⟩
  · rw [Scene.observe_line, Scene.observe_line, rendering_of_none hlive, rendering_of_some rfl]
    exact congrArg (Except.map _) hs
  · obtain ⟨hbase, hargs, -⟩ := h.unique hother
    have hown : ((none : Option Settings) <|> other.run.command.config) = some s := by
      rw [hother.config_eq]
      rfl
    rw [Scene.observe_short, Scene.observe_short, rendering_of_none hlive, rendering_of_some hown,
      Run.launchedUnder, hbase, hargs, session_run]
    exact congrArg (Except.map _) hs
  · rw [Scene.observe_line, rendering_of_none hlive]
    exact congrArg (Except.map _) hfails
  · rw [Scene.observe_short, rendering_of_none hlive]
    exact congrArg (Except.map _) hfails

/-- Under given settings a line comes of these, the arguments and the options. -/
theorem Created.given (h : Created args options config first) {config' : Option Settings}
    {first' : Scene} (h' : Created args options config' first') (cfg : Settings)
    (steps : List SessionStep) :
    let later := session steps first'
    (Run.line (some cfg)).run later = (.ok (first.run.command.lineUnder cfg), later) := by
  obtain ⟨hbase, hargs, hoptions⟩ := h.unique h'
  dsimp only
  rw [Run.run_line, rendering_of_some rfl, session_run, Command.lineUnder, Command.lineUnder, hbase,
    hargs, hoptions]

/-- **A command in a session.** With settings of its own it is rendered as at first, without them as
under those of the moment, and under given ones the same whatever it was made with. The level and the
policy are those of the options, or else those of the settings when it was made, and an ending is
raised and told by these. Rendering loads settings at most, and not even that under given ones. -/
theorem created_session (h : Created args options config first) :
    (∀ cfg, config = some cfg → ∀ steps, let later := session steps first
      let line := first.run.command.lineUnder cfg
      (Run.line none).run later = (.ok line, later) ∧
        Run.short.run later = (.ok (first.run.launchedUnder cfg), later) ∧
        (Run.snapshot none).run later = (.ok ⟨line, first.run⟩, later)) ∧
    (config = none → ∀ steps, let later := session steps first
      (∀ s, later.observe (Run.inWorld World.settings) = .ok s →
        later.observe (Run.line none) = later.observe (Run.line (some s)) ∧
        ∀ other, Created args options (some s) other →
          later.observe Run.short = other.observe Run.short) ∧
      (∀ failure, later.observe (Run.inWorld World.settings) = .error failure →
        later.observe (Run.line none) = .error failure ∧ later.observe Run.short = .error failure)) ∧
    (∀ cfg config' first' steps, Created args options config' first' →
      let later := session steps first'
      (Run.line (some cfg)).run later = (.ok (first.run.command.lineUnder cfg), later)) ∧
    (∃ given s, Options.ofEntries options = .ok given ∧ TakenFrom config first s ∧
      ∀ steps, let command := (session steps first).run.command
      command.verbosity = given.verbosity.getD s.verbosity ∧
        command.raises = given.raises.getD s.raises) ∧
    (∀ status, ∃ result records, ∀ steps, let later := session steps first
      ∃ after : Scene, (Run.finish status).run later = (result, after) ∧
        after.world.log = later.world.log ++ records) ∧
    (∀ steps, let later := session steps first
      (∀ cfg, ((Run.line (some cfg)).run later).2 = later ∧
        ((Run.snapshot (some cfg)).run later).2 = later) ∧
      AtMostLoaded later ((Run.line none).run later).2 ∧ AtMostLoaded later (Run.short.run later).2 ∧
        AtMostLoaded later ((Run.snapshot none).run later).2) := by
  -- Its own settings, those of the moment, given ones; level and policy, and the ending by them; what
  -- is loaded.
  refine ⟨fun cfg hcfg steps => ?_, fun hnone steps => ?_,
    fun cfg config' first' steps h' => h.given h' cfg steps, ?_, fun status => ?_, fun steps => ?_⟩
  · subst hcfg
    exact h.own steps
  · subst hnone
    exact h.live steps
  · obtain ⟨body, rest, given, s, -, hgiven, htaken, id, hcommand⟩ := h.cases
    refine ⟨given, s, hgiven, htaken, fun steps => ?_⟩
    rw [session_run, hcommand]
    exact ⟨rfl, rfl⟩
  · have hpending : first.run.outcome.exitStatus = none := by
      rw [h.pending]
      rfl
    obtain ⟨result, records, hfinish⟩ := run_finish_told hpending status
    refine ⟨result, records, fun steps => ?_⟩
    have hafter := hfinish (session steps first).world
    rwa [← session_run steps first] at hafter
  · simp only [Run.run_line, Run.run_short, Run.run_snapshot]
    refine ⟨fun cfg => ?_, rendering_atMostLoaded _ _ _, rendering_atMostLoaded _ _ _,
      rendering_atMostLoaded _ _ _⟩
    rw [rendering_of_some rfl, rendering_of_some rfl]
    exact ⟨rfl, rfl⟩

end Sessions

/-- The scene after a command was made in a world without variables, with settings or without. -/
def listing (config : Option Settings) : Scene where
  run := .ofCommand
    { id := ⟨0⟩, base := "ls", args := [], options := .none, verbosity := Verbosity.info, raises := true,
      config }
  world :=
    { World.fresh ⟨"/home/u/settings.json", "/work"⟩ with
      loaded := if config.isSome then none else some Settings.defaults
      made := 1
      log := [⟨Verbosity.debug, .created ⟨0⟩ "ls "⟩] }

/-- A mask is set, and the settings are read anew. -/
def maskSet : List SessionStep :=
  [.setVariable "SHELLWRAP_UMASK" (some "077"), .forget]

theorem created_session_listing :
    (session maskSet (listing (some Settings.defaults))).observe (Run.line none) =
      .ok "/usr/bin/env ls" ∧
    (session maskSet (listing none)).observe (Run.line none) =
      .ok "umask 077 && /usr/bin/env ls" := by
  have hown : Created [.text "ls"] [] (some Settings.defaults) (listing (some Settings.defaults)) :=
    ⟨rfl, .fresh ⟨"/home/u/settings.json", "/work"⟩, by cbv⟩
  have hlive : Created [.text "ls"] [] none (listing none) :=
    ⟨rfl, .fresh ⟨"/home/u/settings.json", "/work"⟩, by cbv⟩
  constructor
  · obtain ⟨hline, -, -⟩ := (created_session hown).1 Settings.defaults rfl maskSet
    rw [Scene.observe, hline]
    rfl
  · have hsettings : (session maskSet (listing none)).observe (Run.inWorld World.settings) =
        .ok { Settings.defaults with umask := some ⟨"077", rfl⟩ } := by cbv
    rw [(((created_session hlive).2.1 rfl maskSet).1 _ hsettings).1]
    rfl

end Invocation

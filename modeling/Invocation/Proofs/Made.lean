import Invocation.Command.Basic
import Invocation.Proofs.Configured

/-!
# Making a command

What making a command can come to is said once (`making_create`): the arguments have no head, the options are
refused, settings are asked for and not given, or the command is made. The first two are found in this order before
anything is done, so that nothing is told and no settings are loaded (`create_refused`). The third comes to pass
only without settings of the command's own, and then none are in force before or after it.
-/

namespace Invocation

open Invocation.Text

namespace Command

/-- There is nothing to execute in an argument: it is no value, or its text is blank. -/
def IsVoid (argument : Value) : Prop :=
  argument = .null ∨ isAllBlank argument.toText = true

/-- There is nothing to execute: there is no first argument, or nothing in it. The items of a list or a tuple that
comes first stand in its place. -/
def Headless : List Value → Prop
  | .list items :: rest => ∀ first ∈ (items ++ rest).head?, IsVoid first
  | .tuple items :: rest => ∀ first ∈ (items ++ rest).head?, IsVoid first
  | args => ∀ first ∈ args.head?, IsVoid first

theorem executable?_eq_none_iff (args : List Value) : executable? args = none ↔ Headless args := by
  have hunpacked : Headless args ↔ ∀ first ∈ (unpack args).head?, IsVoid first := by
    cases args with
    | nil => rfl
    | cons first rest => cases first <;> rfl
  rw [hunpacked, executable?]
  cases unpack args with
  | nil => simp
  | cons first rest => cases first <;> simp [IsVoid]

end Command

/-- The failure is of arguments or options that were given with a command. -/
def Failure.IsRefusal : Failure → Prop
  | .noExecutable | .invalidOptions _ => True
  | _ => False

section Settings

variable {world after : World} {failure : Failure}

/-- Settings are kept from being loaded by a fault of their files and variables. -/
theorem exists_loadFault (h : World.settings.run world = (.error failure, after)) :
    ∃ fault : Settings.LoadFault, fault.failure = failure := by
  cases hloaded : world.loaded with
  | some s =>
    rw [World.run_settings_of_some hloaded] at h
    cases h
  | none =>
    rw [World.run_settings_of_none hloaded] at h
    have hloads : world.loads = .error failure := congrArg Prod.fst h
    unfold World.loads at hloads
    cases hresult : (Settings.load world.environment world.userFile world.projectFile).2 with
    | ok s =>
      rw [hresult] at hloads
      cases hloads
    | error fault =>
      rw [hresult] at hloads
      exact ⟨fault, Except.error.inj hloads⟩

theorem not_isRefusal_of_settings (h : World.settings.run world = (.error failure, after)) :
    ¬failure.IsRefusal := by
  obtain ⟨fault, rfl⟩ := exists_loadFault h
  cases fault <;> exact id

/-- Settings that cannot be loaded are in force neither before nor after. -/
theorem loaded_of_settings_error (h : World.settings.run world = (.error failure, after)) :
    world.loaded = none ∧ after.loaded = none := by
  cases hloaded : world.loaded with
  | some s =>
    rw [World.run_settings_of_some hloaded] at h
    cases h
  | none =>
    rw [World.run_settings_of_none hloaded] at h
    obtain ⟨hloads, rfl⟩ := Prod.mk.inj h
    rw [hloads]
    exact ⟨rfl, rfl⟩

end Settings

/-! ## What it comes to -/

section Making

variable (args : List Value) (options : Entries Value) (config : Option Settings) (world : World)

/-- What making a command comes to, and the world after it. -/
inductive Making : Except Failure Command × World → Prop
  | headless (head : Command.Headless args) : Making (.error .noExecutable, world)
  | refused {issues : List Issue} (head : ¬Command.Headless args)
      (given : Options.ofEntries options = .error issues) : Making (.error (.invalidOptions issues), world)
  | unsettled {o : Options} {failure : Failure} {after : World} (head : ¬Command.Headless args)
      (given : Options.ofEntries options = .ok o) (own : config = none)
      (settings : World.settings.run world = (.error failure, after)) : Making (.error failure, after)
  /-- The command takes what its options leave open from its own settings or from those in force, and is told
  of in one record. -/
  | made {body : String} {rest : List Value} {o : Options} {s : Settings} {between after : World} {id : Id}
      (executable : Command.executable? args = some (body, rest)) (given : Options.ofEntries options = .ok o)
      (settings : config = some s ∧ between = world ∨
        config = none ∧ World.settings.run world = (.ok s, between))
      (loaded : after.loaded = between.loaded)
      (told : ∃ words, after.log = between.log ++ [⟨Verbosity.debug, .created id words⟩]) :
      Making (.ok
        { id
          base := Render.collapse body
          args := rest.map Value.toText
          options := o
          verbosity := o.verbosity.getD s.verbosity
          raises := o.raises.getD s.raises
          config }, after)

theorem making_create : Making args options config world ((Command.create args options config).run world) := by
  unfold Command.create
  have hhead := Command.executable?_eq_none_iff args
  cases hexecutable : Command.executable? args with
  | none => exact .headless (hhead.1 hexecutable)
  | some executable =>
    have hnot : ¬Command.Headless args := by
      rw [← hhead, hexecutable]
      exact Option.some_ne_none executable
    cases hgiven : Options.ofEntries options with
    | error issues => exact .refused hnot hgiven
    | ok o =>
      cases config with
      | some s => exact .made hexecutable hgiven (.inl ⟨rfl, rfl⟩) rfl ⟨_, rfl⟩
      | none =>
        dsimp only
        rcases hsettings : World.settings.run world with ⟨failure | s, between⟩
        · rw [run_bind_of_error hsettings]
          exact .unsettled hnot hgiven rfl hsettings
        · rw [run_bind_of_ok hsettings]
          exact .made hexecutable hgiven (.inr ⟨rfl, hsettings⟩) rfl ⟨_, rfl⟩

end Making

namespace Making

variable {args : List Value} {options : Entries Value} {config : Option Settings} {world : World}
  {result : Except Failure Command × World}

theorem noExecutable_iff (h : Making args options config world result) :
    result.1 = .error .noExecutable ↔ Command.Headless args := by
  cases h with
  | headless head => exact ⟨fun _ => head, fun _ => rfl⟩
  | refused head given => exact ⟨fun he => (by cases he), fun h => absurd h head⟩
  | unsettled head given own settings =>
    refine ⟨fun he => ?_, fun h => absurd h head⟩
    cases he
    exact absurd trivial (not_isRefusal_of_settings settings)
  | made executable given settings loaded told =>
    refine ⟨fun he => (by cases he), fun h => ?_⟩
    rw [(Command.executable?_eq_none_iff args).2 h] at executable
    cases executable

theorem invalidOptions_iff (h : Making args options config world result) {issues : List Issue} :
    result.1 = .error (.invalidOptions issues) ↔
      ¬Command.Headless args ∧ Options.ofEntries options = .error issues := by
  cases h with
  | headless head => exact ⟨fun he => (by cases he), fun ⟨hnot, _⟩ => absurd head hnot⟩
  | refused head given =>
    constructor
    · intro he
      cases he
      exact ⟨head, given⟩
    · rintro ⟨-, hissues⟩
      cases given.symm.trans hissues
      rfl
  | unsettled head given own settings =>
    constructor
    · intro he
      cases he
      exact absurd trivial (not_isRefusal_of_settings settings)
    · rintro ⟨-, hissues⟩
      cases given.symm.trans hissues
  | made executable given settings loaded told =>
    refine ⟨fun he => (by cases he), ?_⟩
    rintro ⟨-, hissues⟩
    cases given.symm.trans hissues

theorem world_of_isRefusal (h : Making args options config world result) {failure : Failure}
    (hresult : result.1 = .error failure) (hrefusal : failure.IsRefusal) : result.2 = world := by
  cases h with
  | headless head => rfl
  | refused head given => rfl
  | unsettled head given own settings =>
    cases hresult
    exact absurd hrefusal (not_isRefusal_of_settings settings)
  | made executable given settings loaded told => cases hresult

theorem isRefusal_iff (h : Making args options config world result) :
    (∃ failure, result.1 = .error failure ∧ failure.IsRefusal) ↔
      Command.Headless args ∨ ∃ issues, Options.ofEntries options = .error issues := by
  constructor
  · rintro ⟨failure, hresult, hrefusal⟩
    unfold Failure.IsRefusal at hrefusal
    split at hrefusal
    · exact .inl (h.noExecutable_iff.1 hresult)
    · exact .inr ⟨_, (h.invalidOptions_iff.1 hresult).2⟩
    · exact hrefusal.elim
  · intro hrefused
    by_cases head : Command.Headless args
    · exact ⟨_, h.noExecutable_iff.2 head, trivial⟩
    · obtain ⟨issues, hissues⟩ := hrefused.resolve_left head
      exact ⟨_, h.invalidOptions_iff.2 ⟨head, hissues⟩, trivial⟩

section Given

variable {o : Options} (h : Making args options config world result) (head : ¬Command.Headless args)
  (given : Options.ofEntries options = .ok o)

include h head given

theorem exists_of_own (own : config.isSome) : ∃ command, result.1 = .ok command := by
  cases h with
  | headless hhead => exact absurd hhead head
  | refused _ hissues => cases hissues.symm.trans given
  | unsettled _ _ hnone _ =>
    rw [hnone] at own
    cases own
  | made => exact ⟨_, rfl⟩

theorem exists_of_settings {s : Settings} {after : World} (hsettings : World.settings.run world = (.ok s, after)) :
    ∃ command, result.1 = .ok command := by
  cases h with
  | headless hhead => exact absurd hhead head
  | refused _ hissues => cases hissues.symm.trans given
  | unsettled _ _ _ hfails => cases hfails.symm.trans hsettings
  | made => exact ⟨_, rfl⟩

theorem eq_of_settings_error (own : config = none) {failure : Failure} {after : World}
    (hsettings : World.settings.run world = (.error failure, after)) : result = (.error failure, after) := by
  cases h with
  | headless hhead => exact absurd hhead head
  | refused _ hissues => cases hissues.symm.trans given
  | unsettled _ _ _ hfails =>
    cases hfails.symm.trans hsettings
    rfl
  | made executable _ settled =>
    rcases settled with ⟨hown, -⟩ | ⟨-, hgiven⟩
    · cases own.symm.trans hown
    · cases hgiven.symm.trans hsettings

end Given

end Making

/-- **Making a command is refused** exactly if there is nothing to execute, which is found first, or the options
are at fault, and then the world is what it was. The first argument is looked for in a list or a tuple that comes
first (`Headless`). Else a command is made, unless it has no settings of its own and
none can be loaded: then it fails as loading them does, and none are in force. -/
theorem create_refused (args : List Value) (options : Entries Value) (config : Option Settings) (world : World) :
    let result := (Command.create args options config).run world
    ((∃ failure, result.1 = .error failure ∧ failure.IsRefusal) ↔
      Command.Headless args ∨ ∃ issues, Options.ofEntries options = .error issues) ∧
    (result.1 = .error .noExecutable ↔ Command.Headless args) ∧
    (∀ issues, result.1 = .error (.invalidOptions issues) ↔
      ¬Command.Headless args ∧ Options.ofEntries options = .error issues) ∧
    (∀ failure, result.1 = .error failure → failure.IsRefusal → result.2 = world) ∧
    ∀ o, ¬Command.Headless args → Options.ofEntries options = .ok o →
      (config.isSome → ∃ command, result.1 = .ok command) ∧
      (config = none → ∀ s after, World.settings.run world = (.ok s, after) →
        ∃ command, result.1 = .ok command) ∧
      (config = none → ∀ failure after, World.settings.run world = (.error failure, after) →
        result = (.error failure, after) ∧ world.loaded = none ∧ after.loaded = none) := by
  intro result
  have hmaking : Making args options config world result := making_create args options config world
  refine ⟨hmaking.isRefusal_iff, hmaking.noExecutable_iff, fun _ => hmaking.invalidOptions_iff,
    fun _ => hmaking.world_of_isRefusal, fun o head given => ⟨?_, ?_, ?_⟩⟩
  · exact hmaking.exists_of_own head given
  · intro _ s after hsettings
    exact hmaking.exists_of_settings head given hsettings
  · intro own failure after hsettings
    exact ⟨hmaking.eq_of_settings_error head given own hsettings, loaded_of_settings_error hsettings⟩

end Invocation

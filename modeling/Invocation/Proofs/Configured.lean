import Invocation.Proofs.Fields
import Invocation.Proofs.Layers

/-!
# Configuring settings

Settings in force are replaced field by field: a field that is named holds what its reader makes of its
value, any other one what it held (`Settings.Updated`, `override_eq_ok_iff`). Hence two updates are one
(`Updated.trans`), in which the later one stands above the earlier one, as values of fields that were
read once are read back as they are.

Asking for the settings loads them once: asked again, they are the same, and so is the failure to load
them (`settings_settings`). An update that fails has done no more than that (`run_configure`), so that
nothing is lost by it (`configure_laws`).
-/

namespace Invocation

open Invocation.Entries

namespace Settings

/-! ## Updating fields -/

/-- The settings with each field that is named read from its value, and every other one as it was. -/
structure Updated (s : Settings) (given : Entries Value) (s' : Settings) : Prop where
  defaultEnv : Reads Field.defaultEnv s.defaultEnv (given.get? "default_env") s'.defaultEnv
  umask : Reads Field.umask s.umask (given.get? "umask") s'.umask
  commandMap : Reads (Field.commandMap "command_map") s.commandMap (given.get? "command_map")
    s'.commandMap
  verbosity : Reads Field.verbosity s.verbosity (given.get? "output_verbosity") s'.verbosity
  raises : Reads Field.flag s.raises (given.get? "raise_on_non_zero_exit") s'.raises
  theme : Reads Field.theme s.theme (given.get? "theme") s'.theme

section Readings

variable {ε α : Type} {reader : Value → Except ε α}

/-- Where the value below is read as `old`, it stands for `old` as a default. -/
theorem reads_or {value : Value} {old : α} (h : reader value = .ok old) {default a : α}
    (raw : Option Value) :
    Reads reader default (raw.or (some value)) a ↔ Reads reader old raw a := by
  cases raw with
  | some given => exact Iff.rfl
  | none =>
    constructor
    · intro ha
      exact (Except.ok.inj (h.symm.trans ha)).symm
    · intro ha
      exact h.trans (congrArg _ (Eq.symm ha))

theorem Reads.trans {old between new : α} {earlier later : Option Value}
    (h : Reads reader old earlier between) (h' : Reads reader between later new) :
    Reads reader old (later.or earlier) new := by
  cases later with
  | some value => exact h'
  | none =>
    obtain rfl : new = between := h'
    exact h

end Readings

/-- **Settings are updated** field by field. -/
theorem override_eq_ok_iff {s s' : Settings} {given : Entries Value} (h : (keys given).Nodup) :
    s.override given = .ok s' ↔ s.Updated given s' := by
  have hfield {ε α : Type} {reader : Value → Except ε α} {default old a : α} {field : String}
      {value : Value} (hget : get? field s.toEntries = some value) (hread : reader value = .ok old) :
      Reads reader default (get? field (s.toEntries.putAll given)) a ↔
        Reads reader old (get? field given) a := by
    rw [get?_putAll field s.toEntries h, hget, reads_or hread]
  have hflag : Field.flag (.bool s.raises) = .ok s.raises := rfl
  simp only [override, ofEntries_eq_ok, orDefault_eq_ok_iff, reads_single_iff]
  rw [hfield rfl (Field.defaultEnv_ofTexts s.defaultEnv), hfield rfl (Field.umask_getD s.umask),
    hfield rfl (Field.commandMap_ofTexts _ s.commandMap), hfield rfl (Field.verbosity_level s.verbosity),
    hfield rfl hflag, hfield rfl (Field.theme_name s.theme)]
  exact ⟨fun ⟨h₁, h₂, h₃, h₄, h₅, h₆⟩ => ⟨h₁, h₂, h₃, h₄, h₅, h₆⟩,
    fun ⟨h₁, h₂, h₃, h₄, h₅, h₆⟩ => ⟨h₁, h₂, h₃, h₄, h₅, h₆⟩⟩

/-- Two updates are the update by the later values over the earlier ones. -/
theorem Updated.trans {s₁ s₂ s₃ : Settings} {earlier later : Entries Value}
    (hnames : (keys later).Nodup) (h : s₁.Updated earlier s₂) (h' : s₂.Updated later s₃) :
    s₁.Updated (putAll earlier later) s₃ := by
  have hfield {ε α : Type} {reader : Value → Except ε α} {old between new : α} {field : String}
      (h : Reads reader old (earlier.get? field) between)
      (h' : Reads reader between (later.get? field) new) :
      Reads reader old (get? field (earlier.putAll later)) new := by
    rw [get?_putAll field earlier hnames]
    exact h.trans h'
  exact {
    defaultEnv := hfield h.defaultEnv h'.defaultEnv
    umask := hfield h.umask h'.umask
    commandMap := hfield h.commandMap h'.commandMap
    verbosity := hfield h.verbosity h'.verbosity
    raises := hfield h.raises h'.raises
    theme := hfield h.theme h'.theme }

theorem override_nil (s : Settings) : s.override [] = .ok s := by
  have hnames : (keys ([] : Entries Value)).Nodup := List.nodup_nil
  exact (override_eq_ok_iff hnames).2 ⟨rfl, rfl, rfl, rfl, rfl, rfl⟩

end Settings

namespace World

open Invocation.Settings

/-! ## The settings in force -/

/-- The settings that loading gives, or why it fails. -/
def loads (world : World) : Except Failure Settings :=
  (Settings.load world.environment world.userFile world.projectFile).2.mapError LoadFault.failure

/-- The record of a skipped file. -/
def warningRecord (world : World) (warning : Settings.Warning) : Record :=
  ⟨Verbosity.warning, .skipped warning (world.pathOf warning.source)⟩

/-- The records of the files that loading skips. -/
def skips (world : World) : List Record :=
  (Settings.load world.environment world.userFile world.projectFile).1.map world.warningRecord

theorem run_warnings (warnings : List Settings.Warning) (world : World) :
    (warnings.forM warn).run world =
      (.ok (), { world with log := world.log ++ warnings.map world.warningRecord }) := by
  induction warnings generalizing world with
  | nil =>
    rw [List.map_nil, List.append_nil]
    rfl
  | cons warning rest ih =>
    have hwarn : (warn warning).run world =
        (.ok (), { world with log := world.log ++ [world.warningRecord warning] }) := rfl
    rw [List.forM, run_bind_of_ok hwarn, ih, List.append_assoc]
    rfl

/-- Loading the settings changes nothing but the log. -/
theorem run_loadSettings_eq (world : World) :
    loadSettings.run world = (world.loads, { world with log := world.log ++ world.skips }) := by
  have hget : (get : Action World).run world = (.ok world, world) := rfl
  unfold loadSettings
  rw [run_bind_of_ok hget]
  dsimp only
  rw [run_bind_of_ok (run_warnings _ _), loads]
  cases (Settings.load world.environment world.userFile world.projectFile).2 <;> rfl

theorem run_settings_of_some {world : World} {s : Settings} (h : world.loaded = some s) :
    settings.run world = (.ok s, world) := by
  have hget : (get : Action World).run world = (.ok world, world) := rfl
  unfold settings
  rw [run_bind_of_ok hget, h]
  rfl

theorem run_settings_of_none {world : World} (h : world.loaded = none) :
    settings.run world =
      (world.loads,
        { world with loaded := world.loads.toOption, log := world.log ++ world.skips }) := by
  have hget : (get : Action World).run world = (.ok world, world) := rfl
  unfold settings
  rw [run_bind_of_ok hget, h]
  dsimp only
  rw [run_bind, run_loadSettings_eq]
  cases world.loads with
  | ok s => rfl
  | error failure =>
    rw [Except.toOption, ← h]

/-- Settings that were given are in force. -/
theorem loaded_of_settings {world after : World} {s : Settings}
    (h : settings.run world = (.ok s, after)) : after.loaded = some s := by
  cases hloaded : world.loaded with
  | some old =>
    rw [run_settings_of_some hloaded] at h
    cases h
    exact hloaded
  | none =>
    rw [run_settings_of_none hloaded] at h
    obtain ⟨hloads, rfl⟩ := Prod.mk.inj h
    rw [hloads]
    rfl

/-- **Settings that are asked for again are the same**, and so is the failure to load them. -/
theorem settings_settings (world : World) :
    (settings.run (settings.run world).2).1 = (settings.run world).1 := by
  rcases hrun : settings.run world with ⟨result, after⟩
  cases result with
  | ok s => rw [run_settings_of_some (loaded_of_settings hrun)]
  | error failure =>
    cases hloaded : world.loaded with
    | some old =>
      rw [run_settings_of_some hloaded] at hrun
      cases hrun
    | none =>
      rw [run_settings_of_none hloaded] at hrun
      obtain ⟨hloads, rfl⟩ := Prod.mk.inj hrun
      rw [hloads]
      exact congrArg Prod.fst (run_settings_of_none rfl) |>.trans hloads

/-! ## Configuring -/

theorem run_configure {world between : World} {s : Settings}
    (h : settings.run world = (.ok s, between)) (given : Entries Value) :
    (configure given).run world =
      match s.override given with
      | .ok s' => (.ok s', { between with loaded := some s' })
      | .error issues => (.error (.invalid issues), between) := by
  unfold configure
  rw [run_bind_of_ok h]
  cases s.override given <;> rfl

theorem run_configure_of_error {world between : World} {failure : Failure}
    (h : settings.run world = (.error failure, between)) (given : Entries Value) :
    (configure given).run world = (.error failure, between) :=
  run_bind_of_error h _

/-- What an update that succeeds has done. -/
theorem configure_cases {world after : World} {given : Entries Value} {s' : Settings}
    (hgiven : (keys given).Nodup) (h : (configure given).run world = (.ok s', after)) :
    ∃ s between, settings.run world = (.ok s, between) ∧ s.Updated given s' ∧
      after = { between with loaded := some s' } := by
  rcases hrun : settings.run world with ⟨result, between⟩
  cases result with
  | error failure =>
    rw [run_configure_of_error hrun] at h
    cases h
  | ok s =>
    rw [run_configure hrun] at h
    split at h
    · next hoverride =>
      cases h
      exact ⟨s, between, rfl, (override_eq_ok_iff hgiven).1 hoverride, rfl⟩
    · cases h

theorem run_configure_of_updated {world between : World} {s s' : Settings} {given : Entries Value}
    (hgiven : (keys given).Nodup) (hsettings : settings.run world = (.ok s, between))
    (h : s.Updated given s') :
    (configure given).run world = (.ok s', { between with loaded := some s' }) := by
  rw [run_configure hsettings, (override_eq_ok_iff hgiven).2 h]

theorem configure_eq_ok_iff {world : World} {given : Entries Value} {s' : Settings}
    (hgiven : (keys given).Nodup) :
    ((configure given).run world).1 = .ok s' ↔
      ∃ s, (settings.run world).1 = .ok s ∧ s.Updated given s' := by
  constructor
  · intro h
    obtain ⟨s, between, hsettings, hupdated, -⟩ :=
      configure_cases hgiven (Prod.ext h rfl : (configure given).run world = (.ok s', _))
    exact ⟨s, congrArg Prod.fst hsettings, hupdated⟩
  · rintro ⟨s, hs, hupdated⟩
    rw [run_configure_of_updated hgiven (Prod.ext hs rfl : settings.run world = (.ok s, _)) hupdated]

/-- Once settings are in force, nothing else in the world counts. -/
theorem configure_congr {world other : World} {s : Settings} (h : world.loaded = some s)
    (hother : other.loaded = some s) (given : Entries Value) :
    ((configure given).run other).1 = ((configure given).run world).1 := by
  rw [run_configure (run_settings_of_some h), run_configure (run_settings_of_some hother)]
  cases s.override given <;> rfl

theorem configure_configure {world between after : World} {s₁ s₂ : Settings}
    {earlier later : Entries Value} (hearlier : (keys earlier).Nodup) (hlater : (keys later).Nodup)
    (h₁ : (configure earlier).run world = (.ok s₁, between))
    (h₂ : (configure later).run between = (.ok s₂, after)) :
    (configure (putAll earlier later)).run world = (.ok s₂, after) := by
  obtain ⟨s, loaded, hsettings, hupdated, rfl⟩ := configure_cases hearlier h₁
  obtain ⟨s', between, hsettings', hupdated', rfl⟩ := configure_cases hlater h₂
  rw [run_settings_of_some rfl] at hsettings'
  cases hsettings'
  have hrun := run_configure_of_updated (nodup_keys_putAll later hearlier) hsettings
    (hupdated.trans hlater hupdated')
  exact hrun

theorem configure_nil (world : World) : (configure []).run world = settings.run world := by
  rcases hrun : settings.run world with ⟨result, between⟩
  cases result with
  | error failure => exact run_configure_of_error hrun []
  | ok s =>
    rw [run_configure hrun, override_nil]
    have hloaded := loaded_of_settings hrun
    cases between
    cases hloaded
    rfl

/-- An update that fails leaves the settings that were in force, or that would have been loaded. -/
theorem settings_of_configure_error {world after : World} {failure : Failure} {given : Entries Value}
    (h : (configure given).run world = (.error failure, after)) :
    (settings.run after).1 = (settings.run world).1 := by
  have hafter : after = (settings.run world).2 := by
    rcases hrun : settings.run world with ⟨result, between⟩
    cases result with
    | error failure =>
      rw [run_configure_of_error hrun] at h
      cases h
      rfl
    | ok s =>
      rw [run_configure hrun] at h
      split at h
      · cases h
      · cases h
        rfl
  rw [hafter, settings_settings]

/-- **Configuring settings** in any world. It gives the settings in force with the named fields read from
their values, which are then in force, and nothing but the settings counts for it once they are loaded.
Configuring twice is configuring once, with the later values over the earlier ones, and configuring
nothing is asking for the settings. If it fails, the settings are what they were. The laws do not depend
on which values a field refuses: an integer of more than 4300 digits where a text is wanted, which has
none (`Value.toText`), makes no difference to them. -/
theorem configure_laws (world : World) {earlier later : Entries Value}
    (hearlier : (keys earlier).Nodup) (hlater : (keys later).Nodup) :
    (∀ s', ((configure earlier).run world).1 = .ok s' ↔
      ∃ s, (settings.run world).1 = .ok s ∧ s.Updated earlier s') ∧
    (∀ s' after, (configure earlier).run world = (.ok s', after) → after.loaded = some s') ∧
    (∀ (other : World) (s : Settings), world.loaded = some s → other.loaded = some s →
      ((configure earlier).run other).1 = ((configure earlier).run world).1) ∧
    (∀ s₁ s₂ between after, (configure earlier).run world = (.ok s₁, between) →
      (configure later).run between = (.ok s₂, after) →
      (configure (putAll earlier later)).run world = (.ok s₂, after)) ∧
    (configure []).run world = settings.run world ∧
    (∀ failure after, (configure earlier).run world = (.error failure, after) →
      (settings.run after).1 = (settings.run world).1) := by
  refine ⟨fun s' => configure_eq_ok_iff hearlier, fun s' after h => ?_,
    fun other s h hother => configure_congr h hother earlier,
    fun s₁ s₂ between after h₁ h₂ => configure_configure hearlier hlater h₁ h₂, configure_nil world,
    fun failure after h => settings_of_configure_error h⟩
  obtain ⟨s, between, -, -, rfl⟩ := configure_cases hearlier h
  rfl

/-- A world with a mask in its variables, in which nothing is loaded. -/
def masked : World :=
  { fresh ⟨"/home/u/settings.json", "/work"⟩ with environment := [("SHELLWRAP_UMASK", "077")] }

/-- The settings that are loaded there. -/
def maskedSettings : Settings :=
  { defaults with umask := some ⟨"077", rfl⟩ }

/-- Those settings after an update. -/
def silentSettings : Settings :=
  { maskedSettings with umask := some ⟨"005", rfl⟩, raises := false }

/-- Those settings after another update. -/
def sharedSettings : Settings :=
  { silentSettings with defaultEnv := [("A", "1"), ("B", "2")], umask := some ⟨"002", rfl⟩ }

theorem configure_laws_masked :
    ((configure [("umask", .text "002"), ("raise_on_non_zero_exit", .text "no"),
        ("default_env", .text "A=1, B=2")]).run masked).1 = .ok sharedSettings ∧
    (settings.run ((configure [("theme", .int 3), ("umask", .text "002")]).run masked).2).1 =
      .ok maskedSettings := by
  have hsettings : settings.run masked =
      (.ok maskedSettings, { masked with loaded := some maskedSettings }) := by
    have hloads : masked.loads = .ok maskedSettings := rfl
    rw [run_settings_of_none rfl, hloads]
    rfl
  constructor
  · have hfirst : (configure [("umask", .text "005"), ("raise_on_non_zero_exit", .text "no")]).run
        masked = (.ok silentSettings, { masked with loaded := some silentSettings }) := by
      have hoverride : maskedSettings.override
          [("umask", .text "005"), ("raise_on_non_zero_exit", .text "no")] = .ok silentSettings :=
        rfl
      rw [run_configure hsettings, hoverride]
    have hsecond : (configure [("default_env", .text "A=1, B=2"), ("umask", .text "002")]).run
        { masked with loaded := some silentSettings } =
        (.ok sharedSettings, { masked with loaded := some sharedSettings }) := by
      have hoverride : silentSettings.override
          [("default_env", .text "A=1, B=2"), ("umask", .text "002")] = .ok sharedSettings :=
        rfl
      rw [run_configure (run_settings_of_some rfl), hoverride]
    obtain ⟨-, -, -, hcompose, -⟩ := configure_laws masked
      (show (keys [("umask", Value.text "005"), ("raise_on_non_zero_exit", .text "no")]).Nodup by
        decide)
      (show (keys [("default_env", Value.text "A=1, B=2"), ("umask", .text "002")]).Nodup by decide)
    exact congrArg Prod.fst (hcompose _ _ _ _ hfirst hsecond)
  · have hfails : (configure [("theme", .int 3), ("umask", .text "002")]).run masked =
        (.error (.invalid [⟨["theme"], .unknownTheme⟩]),
          { masked with loaded := some maskedSettings }) := by
      have hoverride : maskedSettings.override [("theme", .int 3), ("umask", .text "002")] =
          .error [⟨["theme"], .unknownTheme⟩] :=
        rfl
      rw [run_configure hsettings, hoverride]
    obtain ⟨-, -, -, -, -, herror⟩ := configure_laws masked
      (show (keys [("theme", Value.int 3), ("umask", .text "002")]).Nodup by decide)
      (show (keys [("theme", Value.int 3)]).Nodup by decide)
    rw [hfails, herror _ _ hfails, hsettings]

end World

end Invocation

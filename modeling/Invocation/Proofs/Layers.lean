import Mathlib
import Invocation.Proofs.Action
import Invocation.Proofs.Json

/-!
# Resolution of the settings

Every field of the settings is resolved on its own. Its raw value (`Raw.of`) is that of the highest
layer that gives one: its variable if that is set and not empty, then the project's file, then the
user's. The field is what its reader makes of that value, and the default if no layer gives one
(`Raw.Gives`). Loading gives exactly these settings, and nothing but the raw values counts for it
(`loadSettings_resolves`).

Over one map of entries this is read off the checking (`ofEntries_eq_ok_iff`, `ofEntries_congr`). The
map that is checked has the raw values under the six names (`Raw.Holds`, `withVariables_cases`): the
project's members are written over the user's (`Entries.get?_putAll`) and the variables over both
(`get?_withFieldVariables`).
-/

namespace Invocation.Settings

open Invocation.Entries

/-! ## Raw values -/

/-- A file of settings is absent, or an object with these members. -/
inductive HasMembers : Option String → Entries Value → Prop
  | absent : HasMembers none []
  | object {contents : String} {members : Entries Value} (h : readFile contents = .ok (.map members)) :
    HasMembers (some contents) members

/-- The raw value of each field, none where no layer gives one. The variable of the command map is
JSON, which may be refused. -/
structure Raw where
  defaultEnv : Option Value
  umask : Option Value
  commandMap : Except Json.Refusal (Option Value)
  verbosity : Option Value
  raises : Option Value
  theme : Option Value

/-- The value of a field in the project's file, or else in the user's. -/
def inFiles (user project : Entries Value) (field : String) : Option Value :=
  (project.get? field).or (user.get? field)

/-- The value of the highest layer, where a variable stands for the field as it is. -/
def highest (environment : Entries String) (user project : Entries Value) (name field : String) :
    Option Value :=
  ((nonEmpty? environment name).map .text).or (inFiles user project field)

/-- The raw values of a stack of layers. -/
def Raw.of (environment : Entries String) (user project : Entries Value) : Raw where
  defaultEnv := highest environment user project "SHELLWRAP_DEFAULT_ENV" "default_env"
  umask := highest environment user project "SHELLWRAP_UMASK" "umask"
  commandMap :=
    match nonEmpty? environment "SHELLWRAP_COMMAND_MAP" with
    | some s => (Json.read s).map some
    | none => .ok (inFiles user project "command_map")
  verbosity := highest environment user project "SHELLWRAP_OUTPUT_VERBOSITY" "output_verbosity"
  raises :=
    highest environment user project "SHELLWRAP_RAISE_ON_NON_ZERO_EXIT" "raise_on_non_zero_exit"
  theme := highest environment user project "SHELLWRAP_THEME" "theme"

section Readings

variable {ε α : Type}

/-- The field is the default when there is no raw value, and else what its reader makes of it. -/
def Reads (reader : Value → Except ε α) (default : α) : Option Value → α → Prop
  | none, a => a = default
  | some value, a => reader value = .ok a

/-- The reader accepts the raw value, if there is one. -/
def Accepts (reader : Value → Except ε α) (raw : Option Value) : Prop :=
  ∀ value, raw = some value → ∃ a, reader value = .ok a

theorem exists_reads {reader : Value → Except ε α} {default : α} {raw : Option Value} :
    (∃ a, Reads reader default raw a) ↔ Accepts reader raw := by
  cases raw with
  | none =>
    refine ⟨fun _ value h => ?_, fun _ => ⟨default, rfl⟩⟩
    cases h
  | some value =>
    refine ⟨fun h value' he => ?_, fun h => h value rfl⟩
    cases he
    exact h

end Readings

/-- The raw values give these settings, each field on its own. -/
structure Raw.Gives (raw : Raw) (s : Settings) : Prop where
  defaultEnv : Reads Field.defaultEnv defaults.defaultEnv raw.defaultEnv s.defaultEnv
  umask : Reads Field.umask defaults.umask raw.umask s.umask
  commandMap : ∃ value, raw.commandMap = .ok value ∧
    Reads (Field.commandMap "command_map") defaults.commandMap value s.commandMap
  verbosity : Reads Field.verbosity defaults.verbosity raw.verbosity s.verbosity
  raises : Reads Field.flag defaults.raises raw.raises s.raises
  theme : Reads Field.theme defaults.theme raw.theme s.theme

/-- Every reader accepts the raw value of its field. -/
structure Raw.Accepted (raw : Raw) : Prop where
  defaultEnv : Accepts Field.defaultEnv raw.defaultEnv
  umask : Accepts Field.umask raw.umask
  commandMap : ∃ value, raw.commandMap = .ok value ∧ Accepts (Field.commandMap "command_map") value
  verbosity : Accepts Field.verbosity raw.verbosity
  raises : Accepts Field.flag raw.raises
  theme : Accepts Field.theme raw.theme

/-- As the fields do not depend on each other, settings come of raw values that are accepted. -/
theorem Raw.exists_gives {raw : Raw} : (∃ s, raw.Gives s) ↔ raw.Accepted := by
  constructor
  · rintro ⟨s, h⟩
    obtain ⟨value, hvalue, hmap⟩ := h.commandMap
    exact {
      defaultEnv := exists_reads.1 ⟨_, h.defaultEnv⟩
      umask := exists_reads.1 ⟨_, h.umask⟩
      commandMap := ⟨value, hvalue, exists_reads.1 ⟨_, hmap⟩⟩
      verbosity := exists_reads.1 ⟨_, h.verbosity⟩
      raises := exists_reads.1 ⟨_, h.raises⟩
      theme := exists_reads.1 ⟨_, h.theme⟩ }
  · intro h
    obtain ⟨value, hvalue, hmap⟩ := h.commandMap
    obtain ⟨defaultEnv, h₁⟩ := exists_reads.2 h.defaultEnv
    obtain ⟨umask, h₂⟩ := exists_reads.2 h.umask
    obtain ⟨commandMap, h₃⟩ := exists_reads.2 hmap
    obtain ⟨verbosity, h₄⟩ := exists_reads.2 h.verbosity
    obtain ⟨raises, h₅⟩ := exists_reads.2 h.raises
    obtain ⟨theme, h₆⟩ := exists_reads.2 h.theme
    exact ⟨⟨defaultEnv, umask, commandMap, verbosity, raises, theme⟩,
      h₁, h₂, ⟨value, hvalue, h₃⟩, h₄, h₅, h₆⟩

/-! ## Checking a map -/

theorem orDefault_eq_ok_iff {α : Type} {reader : String → Value → Except (List Issue) α}
    {default a : α} {field : String} {entries : Entries Value} :
    Field.orDefault reader default field entries = .ok a ↔
      Reads (reader field) default (entries.get? field) a := by
  unfold Field.orDefault
  cases entries.get? field with
  | none => exact ⟨fun h => (Except.ok.inj h).symm, fun h => congrArg _ (Eq.symm h)⟩
  | some value => exact Iff.rfl

theorem orDefault_congr {α : Type} (reader : String → Value → Except (List Issue) α) (default : α)
    {field : String} {entries others : Entries Value} (h : entries.get? field = others.get? field) :
    Field.orDefault reader default field entries = Field.orDefault reader default field others := by
  rw [Field.orDefault, Field.orDefault, h]

theorem reads_single_iff {α : Type} {reader : Value → Except Complaint α} {field : String}
    {default a : α} {raw : Option Value} :
    Reads (Field.single reader field) default raw a ↔ Reads reader default raw a := by
  cases raw with
  | none => exact Iff.rfl
  | some value => exact Json.mapError_eq_ok_iff

/-- The entries hold the raw values under the names of the fields. -/
structure Raw.Holds (raw : Raw) (entries : Entries Value) : Prop where
  defaultEnv : entries.get? "default_env" = raw.defaultEnv
  umask : entries.get? "umask" = raw.umask
  commandMap : raw.commandMap = .ok (entries.get? "command_map")
  verbosity : entries.get? "output_verbosity" = raw.verbosity
  raises : entries.get? "raise_on_non_zero_exit" = raw.raises
  theme : entries.get? "theme" = raw.theme

/-- Entries with the same raw values are checked alike, with the same issues. -/
theorem ofEntries_congr {raw : Raw} {entries others : Entries Value} (h : raw.Holds entries)
    (hothers : raw.Holds others) : ofEntries entries = ofEntries others := by
  have hmap : entries.get? "command_map" = others.get? "command_map" :=
    Except.ok.inj (h.commandMap.symm.trans hothers.commandMap)
  unfold ofEntries
  rw [orDefault_congr _ _ (h.defaultEnv.trans hothers.defaultEnv.symm),
    orDefault_congr _ _ (h.umask.trans hothers.umask.symm), orDefault_congr _ _ hmap,
    orDefault_congr _ _ (h.verbosity.trans hothers.verbosity.symm),
    orDefault_congr _ _ (h.raises.trans hothers.raises.symm),
    orDefault_congr _ _ (h.theme.trans hothers.theme.symm)]

/-- Where the default environment is read, it does not count for the other fields nor for the issues with
them. -/
theorem ofEntries_defaultEnv {raw : Raw} {value value' : Option Value} {env env' : Entries String}
    {entries others : Entries Value} (h : { raw with defaultEnv := value }.Holds entries)
    (hothers : { raw with defaultEnv := value' }.Holds others)
    (hvalue : Reads Field.defaultEnv [] value env) (hvalue' : Reads Field.defaultEnv [] value' env') :
    ofEntries entries = (ofEntries others).map ({ · with defaultEnv := env }) := by
  have henv {value : Option Value} {env : Entries String} {entries : Entries Value}
      (hget : entries.get? "default_env" = value) (hvalue : Reads Field.defaultEnv [] value env) :
      Field.orDefault (Field.single Field.defaultEnv) [] "default_env" entries = .ok env := by
    rw [orDefault_eq_ok_iff, reads_single_iff, hget]
    exact hvalue
  have hmap : entries.get? "command_map" = others.get? "command_map" :=
    Except.ok.inj (h.commandMap.symm.trans hothers.commandMap)
  unfold ofEntries
  rw [henv h.defaultEnv hvalue, henv hothers.defaultEnv hvalue',
    orDefault_congr _ _ (h.umask.trans hothers.umask.symm), orDefault_congr _ _ hmap,
    orDefault_congr _ _ (h.verbosity.trans hothers.verbosity.symm),
    orDefault_congr _ _ (h.raises.trans hothers.raises.symm),
    orDefault_congr _ _ (h.theme.trans hothers.theme.symm)]
  dsimp only
  -- The five fields that are left are read alike on both sides, or refused alike.
  split
  · next h₁ h₂ h₃ h₄ h₅ h₆ =>
    cases h₁
    rw [h₂, h₃, h₄, h₅, h₆]
    rfl
  · next hfails =>
    split
    · next h₁ h₂ h₃ h₄ h₅ h₆ => exact (hfails _ _ _ _ _ _ rfl h₂ h₃ h₄ h₅ h₆).elim
    · rfl

/-- Settings come of entries if every field is read, whatever the other fields are. -/
theorem ofEntries_eq_ok {entries : Entries Value} {s : Settings} :
    ofEntries entries = .ok s ↔
      Field.orDefault (Field.single Field.defaultEnv) [] "default_env" entries = .ok s.defaultEnv ∧
      Field.orDefault (Field.single Field.umask) none "umask" entries = .ok s.umask ∧
      Field.orDefault Field.commandMap [] "command_map" entries = .ok s.commandMap ∧
      Field.orDefault (Field.single Field.verbosity) Verbosity.info "output_verbosity" entries =
        .ok s.verbosity ∧
      Field.orDefault (Field.single Field.flag) true "raise_on_non_zero_exit" entries =
        .ok s.raises ∧
      Field.orDefault (Field.single Field.theme) .light "theme" entries = .ok s.theme := by
  unfold ofEntries
  dsimp only
  split
  · rename_i h₁ h₂ h₃ h₄ h₅ h₆
    rw [h₁, h₂, h₃, h₄, h₅, h₆]
    obtain ⟨defaultEnv, umask, commandMap, verbosity, raises, theme⟩ := s
    simp
  · rename_i hfails
    constructor
    · intro he
      cases he
    · rintro ⟨h₁, h₂, h₃, h₄, h₅, h₆⟩
      exact (hfails _ _ _ _ _ _ h₁ h₂ h₃ h₄ h₅ h₆).elim

theorem ofEntries_eq_ok_iff {raw : Raw} {entries : Entries Value} (h : raw.Holds entries)
    {s : Settings} : ofEntries entries = .ok s ↔ raw.Gives s := by
  simp only [ofEntries_eq_ok, orDefault_eq_ok_iff, reads_single_iff, h.defaultEnv, h.umask,
    h.verbosity, h.raises, h.theme]
  constructor
  · rintro ⟨h₁, h₂, h₃, h₄, h₅, h₆⟩
    exact ⟨h₁, h₂, ⟨_, h.commandMap, h₃⟩, h₄, h₅, h₆⟩
  · rintro ⟨h₁, h₂, ⟨value, hvalue, h₃⟩, h₄, h₅, h₆⟩
    rw [h.commandMap] at hvalue
    cases hvalue
    exact ⟨h₁, h₂, h₃, h₄, h₅, h₆⟩

/-! ## Writing the layers over each other -/

theorem HasMembers.nodup_keys {file : Option String} {members : Entries Value}
    (h : HasMembers file members) : (keys members).Nodup := by
  cases h with
  | absent => exact List.nodup_nil
  | object h => exact Json.nodup_keys_of_read h

/-- Without a file that is skipped or refused, the map that is checked has the members of the
project's file over those of the user's, and there is no warning. -/
theorem load_of_hasMembers {userFile projectFile : Option String} {user project : Entries Value}
    (huser : HasMembers userFile user) (hproject : HasMembers projectFile project)
    (environment : Entries String) :
    load environment userFile projectFile =
      ([], (validate environment (.map (putAll user project))).mapError .invalid) := by
  have hlower : userLayer userFile = .ok (.map user, []) := by
    cases huser with
    | absent => rfl
    | object h => simp only [userLayer, h]
  have hupper : projectLayer (.map user) projectFile = .ok (.map (putAll user project), []) := by
    cases hproject with
    | absent => rfl
    | object h => simp only [projectLayer, h, merge, Except.mapError, Except.map]
  simp only [load, hlower, hupper, List.append_nil]

/-- Writing the variables of a table changes the fields of the table only, and of those only the ones
whose variable is set and not empty. -/
theorem get?_withFieldVariables (environment : Entries String) (entries : Entries Value)
    (field : String) :
    get? field (withFieldVariables environment entries) =
      (((get? field fieldVariables).bind (nonEmpty? environment)).map .text).or
        (get? field entries) := by
  have hnodup : (keys fieldVariables).Nodup := by decide
  unfold withFieldVariables
  generalize fieldVariables = table at hnodup
  induction table generalizing entries with
  | nil => rfl
  | cons entry rest ih =>
    obtain ⟨other, name⟩ := entry
    obtain ⟨hnew, hrest⟩ := List.nodup_cons.1 hnodup
    rw [List.foldl_cons, ih _ hrest]
    by_cases hfield : other = field
    · subst hfield
      rw [get?_eq_none hnew, get?, if_pos rfl]
      cases hvalue : nonEmpty? environment name <;> simp [hvalue, get?_put_self]
    · rw [get?, if_neg hfield]
      cases hvalue : nonEmpty? environment name with
      | none => simp only [hvalue]
      | some s => simp only [hvalue, get?_put_of_ne hfield]

/-- A field of the files with the variables written over them, before the command map is. -/
theorem get?_layers {project : Entries Value} (hproject : (keys project).Nodup)
    (environment : Entries String) (user : Entries Value) (field : String) :
    get? field (withFieldVariables environment (putAll user project)) =
      (((get? field fieldVariables).bind (nonEmpty? environment)).map .text).or
        (inFiles user project field) := by
  rw [get?_withFieldVariables, get?_putAll field user hproject]
  rfl

/-- Entries hold the raw values of the layers if they differ from these at the command map only, and
have its raw value there. -/
theorem Raw.holds_of {environment : Entries String} {user project entries : Entries Value}
    (hproject : (keys project).Nodup)
    (hfields : ∀ field, field ≠ "command_map" → get? field entries =
      get? field (withFieldVariables environment (putAll user project)))
    (hmap : (Raw.of environment user project).commandMap = .ok (get? "command_map" entries)) :
    (Raw.of environment user project).Holds entries := by
  have hlayers (field : String) (h : field ≠ "command_map") :=
    (hfields field h).trans (get?_layers hproject environment user field)
  exact {
    defaultEnv := hlayers "default_env" (by decide)
    umask := hlayers "umask" (by decide)
    commandMap := hmap
    verbosity := hlayers "output_verbosity" (by decide)
    raises := hlayers "raise_on_non_zero_exit" (by decide)
    theme := hlayers "theme" (by decide) }

/-- The map that is checked holds the raw values, unless the variable of the command map is refused. -/
theorem withVariables_cases {project : Entries Value} (hproject : (keys project).Nodup)
    (environment : Entries String) (user : Entries Value) :
    (∃ entries, withVariables environment (putAll user project) = .ok entries ∧
      (Raw.of environment user project).Holds entries) ∨
    (∃ refusal, withVariables environment (putAll user project) =
        .error [⟨[], .refused (.json refusal)⟩] ∧
      (Raw.of environment user project).commandMap = .error refusal) := by
  generalize hbelow : withFieldVariables environment (putAll user project) = below
  cases hvariable : nonEmpty? environment "SHELLWRAP_COMMAND_MAP" with
  | none =>
    have hwritten : withVariables environment (putAll user project) = .ok below := by
      simp only [withVariables, hvariable, hbelow]
    have hmap : (Raw.of environment user project).commandMap = .ok (get? "command_map" below) := by
      rw [← hbelow, get?_layers hproject]
      simp only [Raw.of, hvariable]
      rfl
    exact .inl ⟨below, hwritten, Raw.holds_of hproject (fun _ _ => by rw [hbelow]) hmap⟩
  | some s =>
    cases hread : Json.read s with
    | ok value =>
      have hwritten : withVariables environment (putAll user project) =
          .ok (put "command_map" value below) := by
        simp only [withVariables, hvariable, hread, hbelow]
      have hmap : (Raw.of environment user project).commandMap =
          .ok (get? "command_map" (put "command_map" value below)) := by
        simp only [Raw.of, hvariable, hread, get?_put_self]
        rfl
      refine .inl ⟨_, hwritten, Raw.holds_of hproject (fun field hne => ?_) hmap⟩
      rw [hbelow, get?_put_of_ne (Ne.symm hne)]
    | error refusal =>
      have hmap : (Raw.of environment user project).commandMap = .error refusal := by
        simp only [Raw.of, hvariable, hread]
        rfl
      exact .inr ⟨refusal, by simp only [withVariables, hvariable, hread], hmap⟩

theorem validate_eq_ok_iff {project : Entries Value} (hproject : (keys project).Nodup)
    (environment : Entries String) (user : Entries Value) {s : Settings} :
    validate environment (.map (putAll user project)) = .ok s ↔
      (Raw.of environment user project).Gives s := by
  obtain ⟨entries, hentries, hholds⟩ | ⟨refusal, hrefused, hraw⟩ :=
    withVariables_cases hproject environment user
  · rw [validate, hentries]
    exact ofEntries_eq_ok_iff hholds
  · rw [validate, hrefused]
    constructor
    · intro h
      cases h
    · intro h
      obtain ⟨value, hvalue, -⟩ := h.commandMap
      rw [hraw] at hvalue
      cases hvalue

/-- Layers with the same raw values are checked alike, with the same issues. -/
theorem validate_congr {user project user' project' : Entries Value}
    {environment environment' : Entries String} (hproject : (keys project).Nodup)
    (hproject' : (keys project').Nodup)
    (h : Raw.of environment' user' project' = Raw.of environment user project) :
    validate environment' (.map (putAll user' project')) =
      validate environment (.map (putAll user project)) := by
  have hcases := withVariables_cases hproject environment user
  rw [← h] at hcases
  obtain ⟨entries, hentries, hholds⟩ | ⟨refusal, hrefused, hraw⟩ := hcases
  · obtain ⟨entries', hentries', hholds'⟩ | ⟨refusal', -, hraw'⟩ :=
      withVariables_cases hproject' environment' user'
    · rw [validate, validate, hentries, hentries']
      exact ofEntries_congr hholds' hholds
    · rw [hholds.commandMap] at hraw'
      cases hraw'
  · obtain ⟨entries', -, hholds'⟩ | ⟨refusal', hrefused', hraw'⟩ :=
      withVariables_cases hproject' environment' user'
    · rw [hholds'.commandMap] at hraw
      cases hraw
    · rw [hraw] at hraw'
      cases hraw'
      rw [validate, validate, hrefused, hrefused']

/-- Layers that differ in their default environments only are checked alike, if these are read. -/
theorem validate_defaultEnv {user project user' project' : Entries Value}
    {environment environment' : Entries String} (hproject : (keys project).Nodup)
    (hproject' : (keys project').Nodup) {value : Option Value} {env env' : Entries String}
    (hraw : Raw.of environment user project =
      { Raw.of environment' user' project' with defaultEnv := value })
    (hvalue : Reads Field.defaultEnv [] value env)
    (hvalue' : Reads Field.defaultEnv [] (Raw.of environment' user' project').defaultEnv env') :
    validate environment (.map (putAll user project)) =
      (validate environment' (.map (putAll user' project'))).map ({ · with defaultEnv := env }) := by
  have hcases := withVariables_cases hproject environment user
  rw [hraw] at hcases
  obtain ⟨entries, hentries, hholds⟩ | ⟨refusal, hrefused, hmap⟩ := hcases
  · obtain ⟨others, hothers, hholds'⟩ | ⟨refusal', -, hmap'⟩ :=
      withVariables_cases hproject' environment' user'
    · rw [validate, validate, hentries, hothers]
      exact ofEntries_defaultEnv hholds hholds' hvalue hvalue'
    · have hcontra := hholds.commandMap.symm.trans hmap'
      cases hcontra
  · obtain ⟨others, -, hholds'⟩ | ⟨refusal', hrefused', hmap'⟩ :=
      withVariables_cases hproject' environment' user'
    · have hcontra := hholds'.commandMap.symm.trans hmap
      cases hcontra
    · have hsame := hmap.symm.trans hmap'
      cases hsame
      rw [validate, validate, hrefused, hrefused']
      rfl

end Invocation.Settings

namespace Invocation.World

open Invocation.Entries Invocation.Settings

/-! ## Loading -/

/-- Loading checks the members of the project's file written over those of the user's, and leaves the
world as it is. -/
theorem run_loadSettings {world : World} {user project : Entries Value}
    (huser : HasMembers world.userFile user) (hproject : HasMembers world.projectFile project) :
    loadSettings.run world =
      ((validate world.environment (.map (putAll user project))).mapError .invalid, world) := by
  have hget : (get : Action World).run world = (.ok world, world) := rfl
  have hwarnings : (List.forM [] warn : Action Unit).run world = (.ok (), world) := rfl
  rw [loadSettings, run_bind_of_ok hget, load_of_hasMembers huser hproject]
  dsimp only
  rw [run_bind_of_ok hwarnings]
  cases validate world.environment (.map (putAll user project)) <;> rfl

/-- **Every field is resolved on its own.** Where the files are absent or objects, loading gives the
settings that the raw values of the layers give, field by field, and succeeds if every reader accepts
the raw value of its field and the variable of the command map is JSON, unless it is empty. It leaves
the world as it is. In a world with the same raw values it ends in the same way, so that values below
others and names that are no field do not count. -/
theorem loadSettings_resolves {world : World} {user project : Entries Value}
    (huser : HasMembers world.userFile user) (hproject : HasMembers world.projectFile project) :
    (∀ s, (loadSettings.run world).1 = .ok s ↔ (Raw.of world.environment user project).Gives s) ∧
    ((∃ s, (loadSettings.run world).1 = .ok s) ↔
      (Raw.of world.environment user project).Accepted) ∧
    (loadSettings.run world).2 = world ∧
    ∀ (other : World) (user' project' : Entries Value),
      HasMembers other.userFile user' → HasMembers other.projectFile project' →
      Raw.of other.environment user' project' = Raw.of world.environment user project →
      (loadSettings.run other).1 = (loadSettings.run world).1 := by
  have hgives (s : Settings) : (loadSettings.run world).1 = .ok s ↔
      (Raw.of world.environment user project).Gives s := by
    rw [run_loadSettings huser hproject, Json.mapError_eq_ok_iff]
    exact validate_eq_ok_iff hproject.nodup_keys world.environment user
  refine ⟨hgives, ?_, ?_, ?_⟩
  · simp only [hgives]
    exact Raw.exists_gives
  · rw [run_loadSettings huser hproject]
  · intro other user' project' huser' hproject' hraw
    rw [run_loadSettings huser' hproject', run_loadSettings huser hproject,
      validate_congr hproject.nodup_keys hproject'.nodup_keys hraw]

/-- A world with a layer of each kind. A null of the project's file stands above a mask that is none. -/
def layered : World :=
  { fresh ⟨"/home/u/settings.json", "/work"⟩ with
    environment := [("SHELLWRAP_RAISE_ON_NON_ZERO_EXIT", ""), ("SHELLWRAP_THEME", "dark"),
      ("SHELLWRAP_COMMAND_MAP", "\x7b\"git\": \"hub\"\x7d")]
    userFile := some "\x7b\"umask\": \"bad\", \"raise_on_non_zero_exit\": false, \"jobs\": 4\x7d"
    projectFile := some "\x7b\"umask\": null, \"theme\": 3\x7d" }

/-- The same world without the values that do not count. -/
def flattened : World :=
  { layered with
    userFile := some "\x7b\"raise_on_non_zero_exit\": false\x7d"
    projectFile := some "\x7b\"umask\": null\x7d" }

theorem loadSettings_resolves_layered :
    (loadSettings.run layered).1 =
      .ok { defaults with commandMap := [("git", "hub")], raises := false, theme := .dark } ∧
    (loadSettings.run flattened).1 = (loadSettings.run layered).1 := by
  have huser : HasMembers layered.userFile
      [("umask", .text "bad"), ("raise_on_non_zero_exit", .bool false), ("jobs", .int 4)] :=
    .object (by cbv)
  have hproject : HasMembers layered.projectFile [("umask", .null), ("theme", .int 3)] :=
    .object (by cbv)
  have huser' : HasMembers flattened.userFile [("raise_on_non_zero_exit", .bool false)] :=
    .object (by cbv)
  have hproject' : HasMembers flattened.projectFile [("umask", .null)] := .object (by cbv)
  obtain ⟨hgives, -, -, hcongr⟩ := loadSettings_resolves huser hproject
  refine ⟨(hgives _).2 ⟨rfl, rfl, ⟨some (.map [("git", .text "hub")]), by cbv, rfl⟩, rfl, rfl, rfl⟩, ?_⟩
  exact hcongr flattened _ _ huser' hproject' rfl

end Invocation.World

import Invocation.Proofs.Fields
import Invocation.Proofs.Layers
import Invocation.Proofs.Written

/-!
# Saved settings are loaded again

Settings that were saved are what is loaded after that, if no project and no variable says otherwise
(`loadSettings_save`). Their entries are written as JSON and read back (`readFile_fileText`), each field
is read back from its entry, and a mask that was left out is the default.

The settings that checking can give are those whose maps have every name once (`produced_iff`): readers
give no others if the maps within the values that they read have every name once (`Value.Distinct`), and
all of those are read back from their own entries.
-/

namespace Invocation

open Invocation.Entries

/-! ## Names in values and settings -/

/-- All maps within a value have every name once. -/
inductive Value.Distinct : Value → Prop
  | null : Distinct .null
  | bool (b : Bool) : Distinct (.bool b)
  | int (n : Int) : Distinct (.int n)
  | float (x : Number.Binary64) : Distinct (.float x)
  | text (s : String) : Distinct (.text s)
  | list {items : List Value} (h : ∀ item ∈ items, Distinct item) : Distinct (.list items)
  | tuple {items : List Value} (h : ∀ item ∈ items, Distinct item) : Distinct (.tuple items)
  | map {entries : Entries Value} (names : (keys entries).Nodup)
    (h : ∀ entry ∈ entries, Distinct entry.2) : Distinct (.map entries)

theorem Value.Distinct.nodup_keys {entries : Entries Value} (h : Distinct (.map entries)) :
    (keys entries).Nodup := by
  cases h with
  | map names h => exact names

theorem Value.Distinct.get? {entries : Entries Value} (h : Distinct (.map entries)) {field : String}
    {value : Value} (hget : entries.get? field = some value) : value.Distinct := by
  cases h with
  | map names h =>
    clear names
    induction entries with
    | nil => cases hget
    | cons entry rest ih =>
      obtain ⟨name, other⟩ := entry
      rw [Entries.get?] at hget
      split at hget
      · cases hget
        exact h (name, value) List.mem_cons_self
      · exact ih hget fun entry hentry => h entry (List.mem_cons_of_mem _ hentry)

theorem distinct_ofTexts {entries : Entries String} (h : (keys entries).Nodup) :
    (Value.ofTexts entries).Distinct := by
  refine .map ?_ fun entry hentry => ?_
  · rwa [keys, mapValues, List.map_map]
  · obtain ⟨source, -, rfl⟩ := List.mem_map.1 hentry
    exact .text source.2

/-- Both maps of the settings have every name once. -/
structure Settings.Distinct (s : Settings) : Prop where
  defaultEnv : (keys s.defaultEnv).Nodup
  commandMap : (keys s.commandMap).Nodup

/-- Checking gives the settings for some value under some variables. -/
def Settings.Produced (s : Settings) : Prop :=
  ∃ (environment : Entries String) (value : Value),
    value.Distinct ∧ Settings.validate environment value = .ok s

theorem EnvPairs.nodup_keys_of_read {s : String} {entries : Entries Value}
    (h : EnvPairs.read s = .ok entries) : (keys entries).Nodup := by
  unfold EnvPairs.read at h
  dsimp only at h
  split at h
  · split at h
    · next hread =>
      cases h
      exact Json.nodup_keys_of_read hread
    · cases h
      exact List.nodup_nil
    · cases h
  · unfold readItems at h
    obtain ⟨environment, hitems, rfl⟩ := Json.map_eq_ok_iff.1 h
    obtain ⟨items, -, hitems⟩ := Json.bind_eq_ok_iff.1 hitems
    cases hitems
    rw [keys_mapValues]
    exact nodup_keys_putAll items List.nodup_nil

namespace Field

theorem nodup_keys_of_defaultEnv {value : Value}
    (hvalue : ∀ members, value = .map members → (keys members).Nodup) {entries : Entries String}
    (h : defaultEnv value = .ok entries) : (keys entries).Nodup := by
  unfold defaultEnv at h
  split at h
  · cases h
    exact List.nodup_nil
  · split at h
    · next hread =>
      cases h
      rw [keys_mapValues]
      exact EnvPairs.nodup_keys_of_read hread
    · cases h
  · next members =>
    cases h
    rw [keys_mapValues]
    exact hvalue members rfl
  · cases h

/-- The texts of a map stand under its names. -/
theorem keys_of_textEntries {field : String} {members : Entries Value} {entries : Entries String}
    (h : textEntries field members = .ok entries) : keys entries = keys members := by
  induction members generalizing entries with
  | nil =>
    cases h
    rfl
  | cons member rest ih =>
    obtain ⟨key, value⟩ := member
    unfold textEntries at h
    split at h
    · next heq => cases heq
    · next heq =>
      cases heq
      obtain ⟨found, hrest, rfl⟩ := Json.map_eq_ok_iff.1 h
      exact congrArg (key :: ·) (ih hrest)
    · split at h <;> cases h

theorem nodup_keys_of_commandMap {value : Value}
    (hvalue : ∀ members, value = .map members → (keys members).Nodup) {field : String}
    {entries : Entries String} (h : commandMap field value = .ok entries) :
    (keys entries).Nodup := by
  unfold commandMap at h
  split at h
  · next members =>
    rw [keys_of_textEntries h]
    exact hvalue members rfl
  · cases h

end Field

namespace Settings

/-! ## Checking without variables -/

/-- No variable stands above the files: none that stands for a field is set, or it is empty. -/
structure Unset (environment : Entries String) : Prop where
  fields : ∀ entry ∈ fieldVariables, nonEmpty? environment entry.2 = none
  commandMap : nonEmpty? environment "SHELLWRAP_COMMAND_MAP" = none

theorem withVariables_of_unset {environment : Entries String} (h : Unset environment)
    (entries : Entries Value) : withVariables environment entries = .ok entries := by
  have hfields : withFieldVariables environment entries = entries := by
    have hnone := h.fields
    unfold withFieldVariables
    generalize fieldVariables = table at hnone
    induction table with
    | nil => rfl
    | cons entry rest ih =>
      have hentry := hnone entry List.mem_cons_self
      simp only [List.foldl_cons, hentry]
      exact ih fun other hother => hnone other (List.mem_cons_of_mem _ hother)
  rw [withVariables, hfields, h.commandMap]

theorem validate_of_unset {environment : Entries String} (h : Unset environment)
    (entries : Entries Value) : validate environment (.map entries) = ofEntries entries := by
  rw [validate, withVariables_of_unset h]
  rfl

/-! ## The entries of settings -/

theorem keys_toEntries (s : Settings) : keys s.toEntries =
    ["default_env", "umask", "command_map", "output_verbosity", "raise_on_non_zero_exit", "theme"] :=
  rfl

theorem nodup_keys_toEntries (s : Settings) : (keys s.toEntries).Nodup := by
  rw [keys_toEntries]
  decide

theorem keys_present_sublist (entries : Entries Value) :
    (keys (present entries)).Sublist (keys entries) :=
  List.filter_sublist.map Prod.fst

theorem present_null (name : String) (rest : Entries Value) :
    present ((name, .null) :: rest) = present rest :=
  rfl

theorem present_cons {value : Value} (h : value ≠ .null) (name : String) (rest : Entries Value) :
    present ((name, value) :: rest) = (name, value) :: present rest := by
  cases value with
  | null => exact absurd rfl h
  | _ => rfl

/-- An entry stays unless its value is nothing. -/
theorem get?_present {entries : Entries Value} {field : String}
    (h : get? field entries ≠ some .null) : get? field (present entries) = get? field entries := by
  induction entries with
  | nil => rfl
  | cons entry rest ih =>
    obtain ⟨name, value⟩ := entry
    rw [get?] at h ⊢
    by_cases hname : name = field
    · rw [if_pos hname] at h ⊢
      rw [present_cons fun he => h (congrArg some he), get?, if_pos hname]
    · rw [if_neg hname] at h ⊢
      by_cases hnull : value = .null
      · rw [hnull, present_null, ih h]
      · rw [present_cons hnull, get?, if_neg hname, ih h]

theorem get?_present_null {entries : Entries Value} (hnames : (keys entries).Nodup) {field : String}
    (h : get? field entries = some .null) : get? field (present entries) = none := by
  induction entries with
  | nil => rfl
  | cons entry rest ih =>
    obtain ⟨name, value⟩ := entry
    obtain ⟨hnew, hrest⟩ := List.nodup_cons.1 hnames
    rw [get?] at h
    by_cases hname : name = field
    · rw [if_pos hname] at h
      cases h
      subst hname
      rw [present_null]
      exact get?_eq_none fun hmem => hnew ((keys_present_sublist rest).subset hmem)
    · rw [if_neg hname] at h
      by_cases hnull : value = .null
      · rw [hnull, present_null, ih hrest h]
      · rw [present_cons hnull, get?, if_neg hname, ih hrest h]

/-- Settings are read back from their entries, of which a mask that is not set is left out. -/
theorem ofEntries_present (s : Settings) : ofEntries (present s.toEntries) = .ok s := by
  have humask : Reads Field.umask none ((present s.toEntries).get? "umask") s.umask := by
    have hget : s.toEntries.get? "umask" =
        some ((s.umask.map fun mask => Value.text mask.text).getD .null) := rfl
    cases hmask : s.umask with
    | none =>
      rw [hmask] at hget
      rw [get?_present_null (nodup_keys_toEntries s) hget]
      rfl
    | some mask =>
      rw [hmask] at hget
      rw [get?_present (by rw [hget]; exact fun he => by cases he), hget]
      exact Field.umask_text mask
  have hfield {ε α : Type} {reader : Value → Except ε α} {default a : α} {field : String}
      {value : Value} (hget : s.toEntries.get? field = some value) (hvalue : value ≠ .null)
      (hread : reader value = .ok a) :
      Reads reader default ((present s.toEntries).get? field) a := by
    rw [get?_present (by rw [hget]; exact fun he => hvalue (Option.some.inj he)), hget]
    exact hread
  simp only [ofEntries_eq_ok, orDefault_eq_ok_iff, reads_single_iff]
  refine ⟨?_, humask, ?_, ?_, ?_, ?_⟩
  · exact hfield rfl (fun he => by cases he) (Field.defaultEnv_ofTexts s.defaultEnv)
  · exact hfield rfl (fun he => by cases he) (Field.commandMap_ofTexts _ s.commandMap)
  · exact hfield rfl (fun he => by cases he) (Field.verbosity_level s.verbosity)
  · exact hfield rfl (fun he => by cases he) rfl
  · exact hfield rfl (fun he => by cases he) (Field.theme_name s.theme)

/-! ## Settings that checking gives -/

/-- A map among the values that are checked has every name once. -/
theorem nodup_of_withVariables {environment : Entries String} {entries checked : Entries Value}
    (hentries : (Value.map entries).Distinct)
    (hchecked : withVariables environment entries = .ok checked) {field : String} {value : Value}
    (hget : checked.get? field = some value) {members : Entries Value}
    (hvalue : value = .map members) : (keys members).Nodup := by
  subst hvalue
  have hbelow (hget : (withFieldVariables environment entries).get? field = some (.map members)) :
      (keys members).Nodup := by
    rw [get?_withFieldVariables] at hget
    cases hvariable : (Entries.get? field fieldVariables).bind (nonEmpty? environment) with
    | none =>
      rw [hvariable] at hget
      exact (hentries.get? hget).nodup_keys
    | some s =>
      rw [hvariable] at hget
      cases hget
  unfold withVariables at hchecked
  dsimp only at hchecked
  split at hchecked
  · cases hchecked
    exact hbelow hget
  · split at hchecked
    · next hread =>
      cases hchecked
      rw [get?_put] at hget
      split at hget
      · cases hget
        exact Json.nodup_keys_of_read hread
      · exact hbelow hget
    · cases hchecked

theorem Produced.distinct {s : Settings} (h : s.Produced) : s.Distinct := by
  obtain ⟨environment, value, hvalue, hs⟩ := h
  cases value with
  | map entries =>
    cases hchecked : withVariables environment entries with
    | error issues =>
      rw [validate, hchecked] at hs
      cases hs
    | ok checked =>
      rw [validate, hchecked] at hs
      obtain ⟨henv, -, hmap, -⟩ := ofEntries_eq_ok.1 hs
      rw [orDefault_eq_ok_iff] at henv hmap
      rw [reads_single_iff] at henv
      constructor
      · cases hget : checked.get? "default_env" with
        | none =>
          rw [hget] at henv
          rw [show s.defaultEnv = [] from henv]
          exact List.nodup_nil
        | some value =>
          rw [hget] at henv
          exact Field.nodup_keys_of_defaultEnv
            (fun members hm => nodup_of_withVariables hvalue hchecked hget hm) henv
      · cases hget : checked.get? "command_map" with
        | none =>
          rw [hget] at hmap
          rw [show s.commandMap = [] from hmap]
          exact List.nodup_nil
        | some value =>
          rw [hget] at hmap
          exact Field.nodup_keys_of_commandMap
            (fun members hm => nodup_of_withVariables hvalue hchecked hget hm) hmap
  | _ => cases hs

theorem Distinct.toEntries {s : Settings} (h : s.Distinct) : (Value.map s.toEntries).Distinct := by
  refine .map (nodup_keys_toEntries s) fun entry hentry => ?_
  simp only [Settings.toEntries, List.mem_cons, List.not_mem_nil, or_false] at hentry
  rcases hentry with rfl | rfl | rfl | rfl | rfl | rfl
  · exact distinct_ofTexts h.defaultEnv
  · cases s.umask with
    | none => exact .null
    | some mask => exact .text mask.text
  · exact distinct_ofTexts h.commandMap
  · exact .int _
  · exact .bool _
  · exact .text _

/-- **Checking gives the settings** whose maps have every name once. -/
theorem produced_iff {s : Settings} : s.Produced ↔ s.Distinct := by
  refine ⟨Produced.distinct, fun h => ⟨[], .map (present s.toEntries), ?_, ?_⟩⟩
  · cases h.toEntries with
    | map names hvalues =>
      exact .map (names.sublist (keys_present_sublist _)) fun entry hentry =>
        hvalues entry (List.mem_of_mem_filter hentry)
  · rw [validate_of_unset ⟨fun _ _ => rfl, rfl⟩]
    exact ofEntries_present s

/-! ## The file -/

theorem unifiedBreaks_eq_self {cs : List Char} (h : '\r' ∉ cs) : unifiedBreaks cs = cs := by
  induction cs with
  | nil => rfl
  | cons c rest ih =>
    have hc : c ≠ '\r' := fun he => h (he ▸ List.mem_cons_self)
    have hrest : '\r' ∉ rest := fun hmem => h (List.mem_cons_of_mem c hmem)
    rw [unifiedBreaks, if_neg hc, ih hrest]
    exact fun _ he _ => hc he

theorem storable_ofTexts {entries : Entries String} (h : (keys entries).Nodup) :
    Json.Storable (Value.ofTexts entries) := by
  refine .map ?_ fun entry hentry => ?_
  · rwa [keys_mapValues]
  · obtain ⟨source, -, rfl⟩ := List.mem_map.1 hentry
    exact .text source.2

theorem storable_present {s : Settings} (h : s.Distinct)
    (hverbosity : s.verbosity < Nat.pow 10 Number.maxDigits) :
    Json.Storable (.map (present s.toEntries)) := by
  refine .map ((nodup_keys_toEntries s).sublist (keys_present_sublist _)) fun entry hentry => ?_
  have hshort : (Number.natDigits (s.verbosity : Int).natAbs).length ≤ Number.maxDigits := by
    rw [Int.natAbs_natCast]
    exact Number.length_natDigits_le (by decide) hverbosity
  have hmem := List.mem_of_mem_filter hentry
  simp only [Settings.toEntries, List.mem_cons, List.not_mem_nil, or_false] at hmem
  rcases hmem with rfl | rfl | rfl | rfl | rfl | rfl
  · exact storable_ofTexts h.defaultEnv
  · cases s.umask with
    | none => exact .null
    | some mask => exact .text mask.text
  · exact storable_ofTexts h.commandMap
  · exact .int hshort
  · exact .bool _
  · exact .text _

/-- The file that is written holds the entries of the settings. -/
theorem readFile_fileText {s : Settings} (h : s.Distinct)
    (hverbosity : s.verbosity < Nat.pow 10 Number.maxDigits) :
    readFile s.fileText = .ok (.map (present s.toEntries)) := by
  have hstorable := storable_present h hverbosity
  have hbreaks : '\r' ∉ s.fileText.toList := by
    rw [fileText, Json.write, String.toList_ofList]
    intro hmem
    rcases Json.printed_valueChars hstorable 0 '\r' hmem with he | he
    · cases he
    · exact absurd he (by decide)
  rw [readFile, unifiedBreaks_eq_self hbreaks, String.ofList_toList]
  exact Json.read_write hstorable

end Settings

namespace World

open Invocation.Settings

/-- **Saved settings are loaded again.** Settings that checking gives, with a level that is not too long
to be read, are loaded after they were saved, if there is no project's file and no variable is set; the
maps have their order, as the settings are equal. Nothing else changes, and no file is skipped. -/
theorem loadSettings_save {s : Settings} (hs : s.Produced)
    (hverbosity : s.verbosity < Nat.pow 10 Number.maxDigits) {world : World}
    (hproject : world.projectFile = none) (hvariables : Unset world.environment) :
    (do let _ ← World.save s; loadSettings).run world =
      (.ok s, { world with userFile := some s.fileText }) := by
  generalize hsaved : { world with userFile := some s.fileText } = saved
  have hsave : (World.save s).run world = (.ok s.fileText, saved) := by
    rw [← hsaved]
    rfl
  have huser : HasMembers saved.userFile (present s.toEntries) := by
    rw [← hsaved]
    exact .object (readFile_fileText hs.distinct hverbosity)
  have hnone : HasMembers saved.projectFile [] := by
    rw [← hsaved, hproject]
    exact .absent
  have hunset : Unset saved.environment := by
    rw [← hsaved]
    exact hvariables
  rw [run_bind_of_ok hsave, run_loadSettings huser hnone, putAll, List.foldl_nil,
    validate_of_unset hunset, ofEntries_present]
  rfl

/-- Settings with a quote, a backslash, a line break and a control character in their maps. -/
def quotedSettings : Settings where
  defaultEnv := [("say", "\"hi\"\r\n"), ("PATH", "C:\\bin\x01")]
  umask := some ⟨"027", rfl⟩
  commandMap := [("rake", "bundle exec rake")]
  verbosity := 35
  raises := false
  theme := .dark

theorem loadSettings_save_quotedSettings :
    ((do let _ ← World.save quotedSettings; loadSettings).run
      { fresh ⟨"/home/u/settings.json", "/work"⟩ with
        environment := [("LANG", "C"), ("SHELLWRAP_THEME", "")], userFile := some "[1, 2" }).1 =
      .ok quotedSettings := by
  have hproduced : quotedSettings.Produced := produced_iff.2 ⟨by decide, by decide⟩
  have hlong (k : Nat) (hk : 2 ≤ k) : 35 < Nat.pow 10 k :=
    Nat.lt_of_lt_of_le (by decide) (Nat.pow_le_pow_right (by decide) hk)
  rw [loadSettings_save hproduced (hlong _ (by decide)) rfl ⟨by decide, by decide⟩]

end World

end Invocation

import Invocation.Proofs.Configured
import Invocation.Proofs.Levels

/-!
# Levels that can be written

An integer with more than 4300 digits is not read from any text (`Value.Short`, `short_of_read`). The layers of
settings are read from texts, and merging them makes no new integers, so that the level of the settings that
come of them is short enough to be read again when it is written (`verbosity_of_settings`). So is the level of a
command that is made with short options (`verbosity_of_create`).
-/

namespace Invocation

open Invocation.Entries Invocation.Number

/-! ## Short values -/

/-- Every integer within the value has at most 4300 digits. -/
inductive Value.Short : Value → Prop where
  | null : Short .null
  | bool (b : Bool) : Short (.bool b)
  | int {n : Int} (h : n.natAbs < Nat.pow 10 maxDigits) : Short (.int n)
  | float (x : Binary64) : Short (.float x)
  | text (s : String) : Short (.text s)
  | list {items : List Value} (h : ∀ item ∈ items, Short item) : Short (.list items)
  | tuple {items : List Value} (h : ∀ item ∈ items, Short item) : Short (.tuple items)
  | map {entries : Entries Value} (h : ∀ entry ∈ entries, Short entry.2) : Short (.map entries)

namespace Value

theorem short_nil : Short (.map []) :=
  .map fun _ hentry => by cases hentry

theorem short_cons {name : String} {value : Value} {rest : Entries Value} :
    Short (.map ((name, value) :: rest)) ↔ value.Short ∧ Short (.map rest) := by
  constructor
  · rintro ⟨⟩
    next h =>
    exact ⟨h _ List.mem_cons_self, .map fun entry hentry => h entry (List.mem_cons_of_mem _ hentry)⟩
  · rintro ⟨hvalue, ⟨⟩⟩
    next h =>
    refine .map fun entry hentry => ?_
    rcases List.mem_cons.1 hentry with rfl | hentry
    · exact hvalue
    · exact h entry hentry

theorem Short.put {entries : Entries Value} (h : Short (.map entries)) {value : Value} (hvalue : value.Short)
    (name : String) : Short (.map (entries.put name value)) := by
  induction entries with
  | nil => exact short_cons.2 ⟨hvalue, h⟩
  | cons entry rest ih =>
    obtain ⟨other, old⟩ := entry
    obtain ⟨hold, hrest⟩ := short_cons.1 h
    rw [Entries.put]
    split
    · exact short_cons.2 ⟨hvalue, hrest⟩
    · exact short_cons.2 ⟨hold, ih hrest⟩

theorem Short.putAll {entries news : Entries Value} (h : Short (.map entries)) (hnews : Short (.map news)) :
    Short (.map (entries.putAll news)) := by
  induction news generalizing entries with
  | nil => exact h
  | cons entry rest ih =>
    obtain ⟨hvalue, hrest⟩ := short_cons.1 hnews
    exact ih (h.put hvalue entry.1) hrest

theorem Short.get? {entries : Entries Value} (h : Short (.map entries)) {name : String} {value : Value}
    (hget : entries.get? name = some value) : value.Short := by
  induction entries with
  | nil => cases hget
  | cons entry rest ih =>
    obtain ⟨other, old⟩ := entry
    obtain ⟨hold, hrest⟩ := short_cons.1 h
    rw [Entries.get?] at hget
    split at hget
    · cases hget
      exact hold
    · exact ih hrest hget

end Value

theorem Verbosity.Denotes.lt_of_short {value : Value} {level : Verbosity.Level} (h : Verbosity.Denotes value level)
    (hvalue : value.Short) : level < Nat.pow 10 maxDigits := by
  cases h with
  | int n =>
    cases hvalue with
    | int h => exact h
  | name h => exact (Verbosity.Denotes.name h).lt
  | numeral h => exact (Verbosity.Denotes.numeral h).lt

end Invocation

namespace Invocation.Json

open Invocation.Number

/-! ## What is read is short -/

theorem lt_ten_of_mem_leadingDigits {cs : List Char} {d : Nat} (h : d ∈ (leadingDigits cs).1) : d < 10 := by
  obtain ⟨c, hc, rfl⟩ := List.mem_map.1 h
  have hdigit := toNat_of_isDigit (List.mem_takeWhile_imp hc)
  omega

theorem lt_ten_of_mem_wholeDigits {cs rest : List Char} {ds : List Nat} (h : wholeDigits? cs = some (ds, rest)) :
    ∀ d ∈ ds, d < 10 := by
  unfold wholeDigits? at h
  split at h
  · cases h
  · cases h
    intro d hd
    rw [List.mem_singleton.1 hd]
    exact Nat.succ_pos 9
  · intro d hd
    have hmem : d ∈ (leadingDigits cs).1 := by rwa [Option.some.inj h]
    exact lt_ten_of_mem_leadingDigits hmem

theorem short_of_readNumber {cs rest : List Char} {value : Value} (h : readNumber cs = .ok (value, rest)) :
    value.Short := by
  unfold readNumber at h
  dsimp only at h
  split at h
  · cases h
  · next whole after hwhole =>
    split at h
    · split at h
      · cases h
      · next hlong =>
        cases h
        refine .int ?_
        have hbound := natOfDigits_lt (lt_ten_of_mem_wholeDigits hwhole)
        have habs (negative : Bool) (n : Nat) : (if negative = true then -(n : Int) else n).natAbs = n := by
          cases negative <;> simp
        rw [habs]
        exact lt_of_digits_le hbound (Nat.not_lt.1 hlong)
    · cases h
      exact .float _

theorem short_of_readScalar {cs rest : List Char} {value : Value} (h : readScalar cs = .ok (value, rest)) :
    value.Short := by
  unfold readScalar at h
  split at h
  · next found hfound =>
    cases h
    obtain ⟨⟨name, value'⟩, hmem, hsome⟩ := List.exists_of_findSome?_eq_some hfound
    obtain ⟨after, -, heq⟩ := Option.map_eq_some_iff.1 hsome
    cases heq
    simp only [names, List.mem_cons, Prod.mk.injEq, List.not_mem_nil, or_false] at hmem
    obtain ⟨-, rfl⟩ | ⟨-, rfl⟩ | ⟨-, rfl⟩ | ⟨-, rfl⟩ | ⟨-, rfl⟩ | ⟨-, rfl⟩ := hmem
    · exact .null
    · exact .bool true
    · exact .bool false
    · exact .float _
    · exact .float _
    · exact .float _
  · exact short_of_readNumber h

/-- What is read with some fuel is short. -/
structure ReadsShort (fuel : Nat) : Prop where
  value : ∀ {cs rest value}, readValue fuel cs = .ok (value, rest) → value.Short
  items : ∀ {cs rest items}, readItems fuel cs = .ok (items, rest) → ∀ item ∈ items, item.Short
  members : ∀ {earlier cs rest entries}, Value.Short (.map earlier) →
    readMembers fuel earlier cs = .ok (entries, rest) → Value.Short (.map entries)

section Step

variable {fuel : Nat} {cs rest : List Char}

theorem ReadsShort.readValue (h : ReadsShort fuel) {value : Value}
    (hread : readValue (fuel + 1) cs = .ok (value, rest)) : value.Short := by
  unfold Json.readValue at hread
  split at hread
  · obtain ⟨⟨text, after⟩, -, hread⟩ := bind_eq_ok_iff.1 hread
    cases hread
    exact .text text
  · split at hread
    · cases hread
      exact .list (List.forall_mem_nil _)
    · obtain ⟨⟨items, after⟩, hitems, hread⟩ := bind_eq_ok_iff.1 hread
      cases hread
      exact .list (h.items hitems)
  · split at hread
    · cases hread
      exact Value.short_nil
    · obtain ⟨⟨entries, after⟩, hmembers, hread⟩ := bind_eq_ok_iff.1 hread
      cases hread
      exact h.members Value.short_nil hmembers
  · exact short_of_readScalar hread

theorem ReadsShort.readItems (h : ReadsShort fuel) {items : List Value}
    (hread : readItems (fuel + 1) cs = .ok (items, rest)) : ∀ item ∈ items, item.Short := by
  unfold Json.readItems at hread
  obtain ⟨⟨first, after⟩, hfirst, hread⟩ := bind_eq_ok_iff.1 hread
  dsimp only at hread
  split at hread
  · cases hread
    intro item hitem
    rw [List.mem_singleton.1 hitem]
    exact h.value hfirst
  · obtain ⟨⟨others, after⟩, hothers, hread⟩ := bind_eq_ok_iff.1 hread
    cases hread
    intro item hitem
    rcases List.mem_cons.1 hitem with rfl | hitem
    · exact h.value hfirst
    · exact h.items hothers item hitem
  · cases hread

theorem ReadsShort.readMembers (h : ReadsShort fuel) {earlier entries : Entries Value}
    (hearlier : Value.Short (.map earlier)) (hread : readMembers (fuel + 1) earlier cs = .ok (entries, rest)) :
    Value.Short (.map entries) := by
  obtain ⟨name, value, _, _, hvalue, hentries⟩ := readMembers_cases hread
  have hput := hearlier.put (h.value hvalue) name
  rcases hentries with rfl | ⟨later, hlater⟩
  · exact hput
  · exact h.members hput hlater

end Step

theorem readsShort (fuel : Nat) : ReadsShort fuel := by
  induction fuel with
  | zero => constructor <;> intros <;> contradiction
  | succ fuel ih => exact ⟨ih.readValue, ih.readItems, ih.readMembers⟩

/-- **A value that is read** is short. -/
theorem short_of_read {s : String} {value : Value} (h : read s = .ok value) : value.Short := by
  obtain ⟨rest, hvalue⟩ := exists_readValue_of_read h
  exact (readsShort _).value hvalue

end Invocation.Json

namespace Invocation.Settings

open Invocation.Number

/-! ## Layers -/

theorem short_of_sequence {value : Value} (h : value.Short) {items : List Value}
    (hitems : sequence? value = some items) : ∀ item ∈ items, item.Short := by
  unfold sequence? at hitems
  split at hitems
  · cases hitems
    intro item hitem
    obtain ⟨c, -, rfl⟩ := List.mem_map.1 hitem
    exact .text _
  · cases hitems
    cases h with
    | list h => exact h
  · cases hitems
    cases h with
    | tuple h => exact h
  · cases hitems
    intro item hitem
    obtain ⟨entry, -, rfl⟩ := List.mem_map.1 hitem
    exact .text _
  · cases hitems

theorem short_of_putPairs {items : List Value} {index : Nat} {entries after : Entries Value}
    (hentries : Value.Short (.map entries)) (hitems : ∀ item ∈ items, item.Short)
    (h : putPairs entries index items = .ok after) : Value.Short (.map after) := by
  induction items generalizing index entries with
  | nil =>
    cases h
    exact hentries
  | cons item rest ih =>
    have hrest : ∀ item ∈ rest, item.Short := fun other hother => hitems other (List.mem_cons_of_mem item hother)
    unfold putPairs at h
    split at h
    · cases h
    · next key value hpair =>
      have hvalue : value.Short := short_of_sequence (hitems item List.mem_cons_self) hpair value (by simp)
      split at h
      · split at h
        · exact ih (hentries.put hvalue _) hrest h
        · exact ih hentries hrest h
      · cases h
    · cases h

theorem short_of_merge {user project value : Value} (huser : user.Short) (hproject : project.Short)
    (h : merge user project = .ok value) : value.Short := by
  unfold merge at h
  split at h
  · next entries =>
    split at h
    · cases h
      exact huser.putAll hproject
    · split at h
      · next items hitems =>
        obtain ⟨after, hpairs, rfl⟩ := Json.map_eq_ok_iff.1 h
        exact short_of_putPairs huser (short_of_sequence hproject hitems) hpairs
      · cases h
  · split at h
    · cases h
      exact huser
    · cases h

theorem short_of_userLayer {contents : Option String} {value : Value} {warnings : List Warning}
    (h : userLayer contents = .ok (value, warnings)) : value.Short := by
  unfold userLayer at h
  split at h
  · cases h
    exact Value.short_nil
  · split at h
    · next hread =>
      cases h
      exact Json.short_of_read hread
    · cases h
      exact Value.short_nil
    · cases h

theorem short_of_projectLayer {user value : Value} (huser : user.Short) {contents : Option String}
    {warnings : List Warning} (h : projectLayer user contents = .ok (value, warnings)) : value.Short := by
  unfold projectLayer at h
  split at h
  · cases h
    exact huser
  · split at h
    · next project hread =>
      obtain ⟨merged, hmerge, hmerged⟩ := Json.map_eq_ok_iff.1 h
      cases hmerged
      exact short_of_merge huser (Json.short_of_read hread) (Json.mapError_eq_ok_iff.1 hmerge)
    · cases h
      exact huser
    · cases h

/-! ## Variables -/

theorem short_withFieldVariables (environment : Entries String) {entries : Entries Value}
    (h : Value.Short (.map entries)) : Value.Short (.map (withFieldVariables environment entries)) := by
  unfold withFieldVariables
  induction fieldVariables generalizing entries with
  | nil => exact h
  | cons entry rest ih =>
    obtain ⟨field, name⟩ := entry
    rw [List.foldl_cons]
    refine ih ?_
    dsimp only
    split
    · exact h.put (.text _) field
    · exact h

theorem short_of_withVariables {environment : Entries String} {entries after : Entries Value}
    (h : Value.Short (.map entries)) (hafter : withVariables environment entries = .ok after) :
    Value.Short (.map after) := by
  have hfields := short_withFieldVariables environment h
  unfold withVariables at hafter
  dsimp only at hafter
  split at hafter
  · cases hafter
    exact hfields
  · split at hafter
    · next hread =>
      cases hafter
      exact hfields.put (Json.short_of_read hread) _
    · cases hafter

/-! ## The level -/

theorem verbosity_of_ofEntries {entries : Entries Value} (h : Value.Short (.map entries)) {s : Settings}
    (hs : ofEntries entries = .ok s) : s.verbosity < Nat.pow 10 maxDigits := by
  have hreads := orDefault_eq_ok_iff.1 (ofEntries_eq_ok.1 hs).2.2.2.1
  rw [reads_single_iff] at hreads
  cases hget : entries.get? "output_verbosity" with
  | none =>
    rw [hget] at hreads
    have hsmall : Verbosity.info < Nat.pow 10 2 := by decide
    rw [hreads]
    exact lt_of_digits_le hsmall (by decide)
  | some value =>
    rw [hget] at hreads
    have hdenotes := Verbosity.resolve_eq_ok_iff.1 (Json.mapError_eq_ok_iff.1 hreads)
    exact hdenotes.lt_of_short (h.get? hget)

theorem verbosity_of_load {environment : Entries String} {userFile projectFile : Option String} {s : Settings}
    (h : (load environment userFile projectFile).2 = .ok s) : s.verbosity < Nat.pow 10 maxDigits := by
  unfold load at h
  split at h
  · cases h
  · next user warnings huser =>
    split at h
    · cases h
    · next value more hproject =>
      have hvalue := short_of_projectLayer (short_of_userLayer huser) hproject
      have hvalidate := Json.mapError_eq_ok_iff.1 h
      unfold validate at hvalidate
      split at hvalidate
      · next entries =>
        -- Variables put texts and what is read of a text over the layers.
        cases hwith : withVariables environment entries with
        | error issues =>
          rw [hwith] at hvalidate
          cases hvalidate
        | ok after =>
          rw [hwith] at hvalidate
          exact verbosity_of_ofEntries (short_of_withVariables hvalue hwith) hvalidate
      · cases hvalidate

end Invocation.Settings

namespace Invocation.Options

open Invocation.Entries Invocation.Number Invocation.Settings

/-- The level of options is short if their values are. -/
theorem verbosity_of_ofEntries {entries : Entries Value} (h : Value.Short (.map entries)) {o : Options}
    (ho : ofEntries entries = .ok o) {level : Verbosity.Level} (hlevel : o.verbosity = some level) :
    level < Nat.pow 10 maxDigits := by
  obtain ⟨-, -, -, -, -, -, hread, -⟩ := ofEntries_eq_ok.1 ho
  rw [readOption_eq_ok_iff List.mem_cons_self (by simp), hlevel] at hread
  cases hget : entries.get? "verbosity" with
  | none =>
    rw [hget] at hread
    cases hread
  | some value =>
    rw [hget] at hread
    have hread : readVerbosity value = .ok (some level) := hread
    unfold readVerbosity at hread
    split at hread
    · cases hread
    · obtain ⟨read, hfield, hsame⟩ := Json.map_eq_ok_iff.1 hread
      cases hsame
      have hdenotes := Verbosity.resolve_eq_ok_iff.1 (Json.mapError_eq_ok_iff.1 hfield)
      exact hdenotes.lt_of_short (h.get? hget)

end Invocation.Options

namespace Invocation.World

open Invocation.Number

/-- **The level of the settings in force** is short, unless they were configured with one that is not. -/
theorem verbosity_of_settings {world after : World} {s : Settings}
    (hloaded : ∀ s, world.loaded = some s → s.verbosity < Nat.pow 10 maxDigits)
    (h : settings.run world = (.ok s, after)) : s.verbosity < Nat.pow 10 maxDigits := by
  cases hcached : world.loaded with
  | some old =>
    rw [run_settings_of_some hcached] at h
    cases h
    exact hloaded s hcached
  | none =>
    rw [run_settings_of_none hcached] at h
    exact Settings.verbosity_of_load (Json.mapError_eq_ok_iff.1 (congrArg Prod.fst h))

end Invocation.World

namespace Invocation.Command

open Invocation.Number

/-- **The level of a command** is short if its options and the settings in force are. -/
theorem verbosity_of_create {args : List Value} {options : Entries Value} {world after : World} {command : Command}
    (hoptions : Value.Short (.map options))
    (hloaded : ∀ s, world.loaded = some s → s.verbosity < Nat.pow 10 maxDigits)
    (h : (create args options none).run world = (.ok command, after)) :
    command.verbosity < Nat.pow 10 maxDigits := by
  have hmaking := making_create args options none world
  rw [h] at hmaking
  cases hmaking with
  | @made _ _ o s _ _ _ _ given hsettings =>
    -- What the options leave open comes from the settings in force, since there are no others.
    cases hlevel : o.verbosity with
    | some level => exact Options.verbosity_of_ofEntries hoptions given hlevel
    | none =>
      rcases hsettings with ⟨hown, -⟩ | ⟨-, hsettings⟩
      · cases hown
      · exact World.verbosity_of_settings hloaded hsettings

end Invocation.Command

import Invocation.Proofs.Upper
import Invocation.Render.Environment

/-!
# Merged variables

What the merge of two maps of variables holds (`mergeValues_laws`): the upper-case keys of both,
each once and where it first came, with the text of the last value given to it; and the merge is
associative, with the empty map as its neutral element on maps that are merged.

The merge is one run of writes, those of the first map before those of the second
(`mergeEnvironment_eq`). So its laws are those of writing entries one after another: what is written
may be collected before it is written to something else (`putAll_putAll`), for collecting leaves
each key in its first place with its last value.
-/

namespace Invocation.Entries

variable {α : Type} {key : String}

/-! ## Writing entries one after another -/

theorem putAll_append (entries news others : Entries α) :
    putAll entries (news ++ others) = putAll (putAll entries news) others :=
  List.foldl_append

/-- Entries with keys of their own are written at the end. -/
theorem putAll_of_nodup {entries news : Entries α} (h : (keys (entries ++ news)).Nodup) :
    putAll entries news = entries ++ news := by
  induction news generalizing entries with
  | nil => exact (List.append_nil entries).symm
  | cons entry news ih =>
    have hsplit : entries ++ entry :: news = (entries ++ [entry]) ++ news := by simp
    have hput : put entry.1 entry.2 entries = entries ++ [entry] := put_of_nodup h
    rw [hsplit] at h ⊢
    rw [← ih h, ← hput]
    rfl

theorem putAll_concat (entries news : Entries α) (entry : String × α) :
    putAll entries (news ++ [entry]) = put entry.1 entry.2 (putAll entries news) :=
  putAll_append entries news [entry]

theorem put_put (a b : α) (entries : Entries α) :
    put key a (put key b entries) = put key a entries := by
  induction entries with
  | nil => simp [put]
  | cons entry rest ih =>
    obtain ⟨k, c⟩ := entry
    by_cases h : k = key
    · simp [put, h]
    · simp [put, h, ih]

/-- Writes to different keys may change places, if one of them moves nothing. -/
theorem put_comm_of_mem {other : String} (a b : α) {entries : Entries α} (h : key ∈ keys entries)
    (hne : key ≠ other) :
    put key a (put other b entries) = put other b (put key a entries) := by
  induction entries with
  | nil => cases h
  | cons entry rest ih =>
    obtain ⟨k, c⟩ := entry
    by_cases hkey : k = key
    · subst hkey
      simp [put, hne]
    · have hrest : key ∈ keys rest := (List.mem_cons.1 h).resolve_left fun he => hkey he.symm
      by_cases hother : k = other
      · subst hother
        simp [put, hkey]
      · simp [put, hkey, hother, ih hrest]

theorem mem_keys_put_self (a : α) (entries : Entries α) : key ∈ keys (put key a entries) := by
  rw [keys_put]
  split
  · assumption
  · exact List.mem_append_right _ List.mem_cons_self

theorem mem_keys_put {other : String} (a : α) {entries : Entries α} (h : key ∈ keys entries) :
    key ∈ keys (put other a entries) := by
  rw [keys_put]
  split
  · exact h
  · exact List.mem_append_left _ h

theorem putAll_put_of_mem (a : α) {entries news : Entries α} (h : key ∈ keys entries)
    (hnews : key ∉ keys news) :
    putAll (put key a entries) news = put key a (putAll entries news) := by
  induction news generalizing entries with
  | nil => rfl
  | cons entry rest ih =>
    obtain ⟨k, b⟩ := entry
    simp only [keys, List.map_cons, List.mem_cons, not_or] at hnews
    change putAll (put k b (put key a entries)) rest = put key a (putAll (put k b entries) rest)
    rw [← put_comm_of_mem a b h hnews.1]
    exact ih (mem_keys_put b h) hnews.2

/-- A write to entries that are themselves to be written comes last. -/
theorem putAll_put (a : α) (entries : Entries α) {news : Entries α} (h : (keys news).Nodup) :
    putAll entries (put key a news) = put key a (putAll entries news) := by
  induction news generalizing entries with
  | nil => rfl
  | cons entry rest ih =>
    obtain ⟨k, b⟩ := entry
    obtain ⟨hk, hrest⟩ := List.nodup_cons.1 h
    by_cases hkey : k = key
    · subst hkey
      rw [put, if_pos rfl]
      -- The value that is written over was the key's only one.
      change putAll (put k a entries) rest = put k a (putAll (put k b entries) rest)
      rw [← putAll_put_of_mem a (mem_keys_put_self b entries) hk, put_put]
    · rw [put, if_neg hkey]
      exact ih (put k b entries) hrest

/-- **Entries may be collected** before they are written to others. -/
theorem putAll_putAll (entries : Entries α) {first : Entries α} (news : Entries α)
    (h : (keys first).Nodup) :
    putAll entries (putAll first news) = putAll (putAll entries first) news := by
  induction news generalizing first with
  | nil => rfl
  | cons entry rest ih =>
    change putAll entries (putAll (put entry.1 entry.2 first) rest) =
      putAll (put entry.1 entry.2 (putAll entries first)) rest
    rw [ih (nodup_keys_put entry.1 entry.2 h), putAll_put entry.2 entries h]

theorem putAll_collected (entries news : Entries α) :
    putAll entries (putAll [] news) = putAll entries news :=
  putAll_putAll entries news List.nodup_nil

/-! ## What collected entries hold -/

theorem keys_collected (news : Entries α) : keys (putAll [] news) = (keys news).eraseDups := by
  induction news using List.reverseRecOn with
  | nil => rfl
  | append_singleton news entry ih =>
    have hkeys : keys (news ++ [entry]) = keys news ++ [entry.1] := List.map_append
    rw [putAll_concat, keys_put, ih, hkeys, List.eraseDups_append]
    by_cases h : entry.1 ∈ keys news
    · rw [if_pos (List.mem_eraseDups.2 h)]
      simp [List.removeAll, h]
    · rw [if_neg fun hmem => h (List.mem_eraseDups.1 hmem)]
      simp [List.removeAll, h, List.eraseDups_cons]

theorem get?_collected (news : Entries α) :
    get? key (putAll [] news) =
      ((news.filter fun entry => entry.1 = key).getLast?).map Prod.snd := by
  induction news using List.reverseRecOn with
  | nil => rfl
  | append_singleton news entry ih =>
    rw [putAll_concat, get?_put, List.filter_append]
    by_cases h : entry.1 = key
    · simp [h]
    · simp [h, ih]

end Invocation.Entries

namespace Invocation.Render

open Invocation.Text Entries

/-! ## A merge is one run of writes -/

/-- The entries under the upper case of their keys. -/
def upperKeys (source : Entries String) : Entries String :=
  source.map fun entry => (upper entry.1, entry.2)

theorem keys_upperKeys (source : Entries String) :
    keys (upperKeys source) = (keys source).map upper := by
  simp [keys, upperKeys]

theorem upperKeys_append (source other : Entries String) :
    upperKeys (source ++ other) = upperKeys source ++ upperKeys other :=
  List.map_append

theorem putUpper_eq (bindings source : Entries String) :
    putUpper bindings source = putAll bindings (upperKeys source) := by
  simp [putUpper, putAll, upperKeys, List.foldl_map]

theorem mergeEnvironment_eq (defaults overrides : Entries String) :
    mergeEnvironment defaults overrides = putAll [] (upperKeys (defaults ++ overrides)) := by
  rw [mergeEnvironment, putUpper_eq, putUpper_eq, upperKeys_append, putAll_append]

theorem putAll_mergeEnvironment (entries defaults overrides : Entries String) :
    putAll entries (mergeEnvironment defaults overrides) =
      putAll entries (upperKeys (defaults ++ overrides)) := by
  rw [mergeEnvironment_eq, putAll_collected]

/-- The keys of a merge are in upper case already. -/
theorem upperKeys_mergeEnvironment (defaults overrides : Entries String) :
    upperKeys (mergeEnvironment defaults overrides) = mergeEnvironment defaults overrides := by
  have hupper : ∀ key ∈ keys (mergeEnvironment defaults overrides), upper key = key := by
    intro key hkey
    rw [mergeEnvironment_eq, keys_collected, List.mem_eraseDups, keys_upperKeys] at hkey
    obtain ⟨name, -, rfl⟩ := List.mem_map.1 hkey
    exact upper_upper name
  refine (List.map_congr_left fun entry hentry => ?_).trans (List.map_id _)
  rw [hupper entry.1 (List.mem_map.2 ⟨entry, hentry, rfl⟩)]
  rfl

theorem mergeEnvironment_assoc (first second third : Entries String) :
    mergeEnvironment (mergeEnvironment first second) third =
      mergeEnvironment first (mergeEnvironment second third) := by
  calc mergeEnvironment (mergeEnvironment first second) third
      = putAll (putAll [] (mergeEnvironment first second)) (upperKeys third) := by
        rw [mergeEnvironment_eq, upperKeys_append, upperKeys_mergeEnvironment, putAll_append]
    _ = putAll [] (upperKeys (first ++ (second ++ third))) := by
        rw [putAll_mergeEnvironment, ← putAll_append, ← upperKeys_append, List.append_assoc]
    _ = putAll (putAll [] (upperKeys first)) (mergeEnvironment second third) := by
        rw [putAll_mergeEnvironment, ← putAll_append, ← upperKeys_append]
    _ = mergeEnvironment first (mergeEnvironment second third) := by
        rw [mergeEnvironment_eq first, upperKeys_append, upperKeys_mergeEnvironment, putAll_append]

theorem putAll_nil_mergeEnvironment (defaults overrides : Entries String) :
    putAll [] (mergeEnvironment defaults overrides) = mergeEnvironment defaults overrides := by
  rw [putAll_mergeEnvironment, ← mergeEnvironment_eq]

theorem mergeEnvironment_nil (defaults overrides : Entries String) :
    mergeEnvironment (mergeEnvironment defaults overrides) [] =
      mergeEnvironment defaults overrides := by
  rw [mergeEnvironment_eq, List.append_nil, upperKeys_mergeEnvironment,
    putAll_nil_mergeEnvironment]

theorem nil_mergeEnvironment (defaults overrides : Entries String) :
    mergeEnvironment [] (mergeEnvironment defaults overrides) =
      mergeEnvironment defaults overrides := by
  rw [mergeEnvironment_eq, List.nil_append, upperKeys_mergeEnvironment,
    putAll_nil_mergeEnvironment]

/-! ## Merges of values -/

/-- The text of a text is the text. -/
theorem toText_mapValues_text (bindings : Entries String) :
    (bindings.mapValues Value.text).mapValues Value.toText = bindings := by
  simp only [mapValues, List.map_map]
  exact List.map_id _

theorem get?_mergeValues (defaults overrides : Entries Value) (key : String) :
    get? key (mergeValues defaults overrides) =
      (((defaults ++ overrides).filter fun entry => upper entry.1 = key).getLast?).map
        fun entry => entry.2.toText := by
  rw [mergeValues, mergeEnvironment_eq, get?_collected, upperKeys, mapValues, mapValues,
    ← List.map_append, List.map_map, List.filter_map, List.getLast?_map, Option.map_map]
  rfl

/-- **The merge of two maps of values** holds the upper-case keys of both, in the order in which
they first come, each with the text of the last value that is given to it. Merging is associative,
and the empty map adds nothing to a map that is merged, on either side. Of an integer with more than
4300 digits there is no text to speak of (`Value.toText`). -/
theorem mergeValues_laws :
    (∀ defaults overrides : Entries Value,
      keys (mergeValues defaults overrides) =
          ((keys (defaults ++ overrides)).map upper).eraseDups ∧
        (keys (mergeValues defaults overrides)).Nodup ∧
        ∀ key, get? key (mergeValues defaults overrides) =
          (((defaults ++ overrides).filter fun entry => upper entry.1 = key).getLast?).map
            fun entry => entry.2.toText) ∧
    (∀ first second third : Entries Value,
      mergeValues ((mergeValues first second).mapValues .text) third =
        mergeValues first ((mergeValues second third).mapValues .text)) ∧
    ∀ first second : Entries Value,
      mergeValues ((mergeValues first second).mapValues .text) [] = mergeValues first second ∧
        mergeValues [] ((mergeValues first second).mapValues .text) =
          mergeValues first second := by
  refine ⟨fun defaults overrides => ⟨?_, ?_, get?_mergeValues defaults overrides⟩, ?_, ?_⟩
  · rw [mergeValues, mergeEnvironment_eq, keys_collected, keys_upperKeys]
    simp only [keys, mapValues, List.map_append, List.map_map]
    rfl
  · rw [mergeValues, mergeEnvironment_eq]
    exact nodup_keys_putAll _ List.nodup_nil
  · intro first second third
    rw [mergeValues, mergeValues, mergeValues, mergeValues, toText_mapValues_text,
      toText_mapValues_text, mergeEnvironment_assoc]
  · intro first second
    rw [mergeValues, mergeValues, mergeValues, toText_mapValues_text]
    exact ⟨mergeEnvironment_nil _ _, nil_mergeEnvironment _ _⟩

-- Keys that only upper case makes equal: the first place, the last value.
example : mergeValues [("straße", .text "a"), ("b", .null)] [("STRASSE", .bool true), ("ﬁ", .int 2)] =
    [("STRASSE", "True"), ("B", "None"), ("FI", "2")] := by decide +kernel

end Invocation.Render

import Invocation.CommandLine.Call
import Invocation.Proofs.Merged
import Invocation.Proofs.Pieces

/-!
# Items that are assignments

A text that does not begin with a brace is read item by item (`items`), and refused for the first item that
has no equals sign. A command line reads such items too, but it also refuses one that begins with the sign
(`isAssignment_iff`). A list of items does not: from an item that begins with the sign it makes a variable
with no name. So the two accept the same items exactly if none begins with the sign, or if both refuse
another one (`read_assignments`).
-/

namespace Invocation.EnvPairs

open Invocation.CommandLine Invocation.Entries Invocation.Text

/-! ## Items -/

/-- The items of a text: what stands between its commas, trimmed, unless nothing is left of it. -/
def items (s : String) : List String :=
  ((pieces ',' s).map trim).filter (· ≠ "")

/-- What is written to which variable for an item: the text after the first equals sign to the name before
it, both trimmed. -/
def assigned (item : String) : String × String :=
  (trim (cut '=' item).1, trim ((cut '=' item).2.getD ""))

/-- The item is a name that is not blank, an equals sign and a value. -/
def IsAssignment (item : String) : Prop :=
  ∃ key value, item = key ++ "=" ++ value ∧ '=' ∉ key.toList ∧ trim key ≠ ""

theorem items_trim (s : String) : items (trim s) = items s := by
  rw [items, items, map_trim_pieces (by decide)]

theorem trimmed_of_mem_items {s item : String} (h : item ∈ items s) : trim item = item ∧ item ≠ "" := by
  obtain ⟨hmem, hne⟩ := List.mem_filter.1 h
  obtain ⟨piece, -, rfl⟩ := List.mem_map.1 hmem
  exact ⟨trim_trim piece, by simpa using hne⟩

theorem exists_key {item : String} (h : '=' ∈ item.toList) :
    ∃ key value, item = key ++ "=" ++ value ∧ '=' ∉ key.toList := by
  obtain ⟨key, value, hchars, hkey⟩ := List.eq_append_cons_of_mem h
  refine ⟨String.ofList key, String.ofList value, ?_, by simpa using hkey⟩
  apply String.toList_inj.1
  simp [hchars]

section Item

variable {key value item : String}

theorem cut_assignment (hkey : '=' ∉ key.toList) (value : String) :
    cut '=' (key ++ "=" ++ value) = (key, some value) := by
  have hchars : (key ++ "=" ++ value).toList = key.toList ++ '=' :: value.toList := by simp
  rw [cut, hchars, cutChars_append hkey]
  simp

theorem cut_of_notMem (h : '=' ∉ item.toList) : cut '=' item = (item, none) := by
  have hcut := cutChars_append_of_notMem h []
  rw [List.append_nil] at hcut
  simp [cut, hcut, cutChars]

theorem assigned_assignment (hkey : '=' ∉ key.toList) (value : String) :
    assigned (key ++ "=" ++ value) = (trim key, trim value) := by
  rw [assigned, cut_assignment hkey]
  rfl

theorem readItem_assignment (hkey : '=' ∉ key.toList) (value : String) :
    readItem (key ++ "=" ++ value) = .ok (trim key, trim value) := by
  rw [readItem, cut_assignment hkey]

theorem readItem_of_mem (h : '=' ∈ item.toList) : readItem item = .ok (assigned item) := by
  obtain ⟨key, value, rfl, hkey⟩ := exists_key h
  rw [readItem_assignment hkey, assigned_assignment hkey]

theorem readItem_of_notMem (h : '=' ∉ item.toList) : readItem item = .error (.noEquals (trim item)) := by
  rw [readItem, cut_of_notMem h]

/-- Blanks around an item do not count. -/
theorem readItem_trim (item : String) : readItem (trim item) = readItem item := by
  obtain ⟨before, after, hitem, hbefore, hafter⟩ := exists_trimmed_text item
  by_cases hmem : '=' ∈ (trim item).toList
  · obtain ⟨key, value, htrim, hkey⟩ := exists_key hmem
    have hlong : '=' ∉ (before ++ key).toList := by
      rw [String.toList_append, List.mem_append, not_or]
      exact ⟨notMem_of_isAllBlank (by decide) hbefore, hkey⟩
    have hwhole : item = (before ++ key) ++ "=" ++ (value ++ after) := by
      rw [hitem, htrim]
      simp only [String.append_assoc]
    rw [htrim, hwhole, readItem_assignment hkey, readItem_assignment hlong, trim_append_left hbefore,
      trim_append_right hafter]
  · have hwhole : '=' ∉ item.toList := by
      rw [hitem, String.toList_append, String.toList_append, List.mem_append, List.mem_append]
      rintro ((hmem' | hmem') | hmem')
      · exact notMem_of_isAllBlank (by decide) hbefore hmem'
      · exact hmem hmem'
      · exact notMem_of_isAllBlank (by decide) hafter hmem'
    rw [readItem_of_notMem hmem, readItem_of_notMem hwhole, trim_trim]

/-- The name that an item assigns to is empty, if the item begins with the sign. -/
theorem assigned_fst_eq_empty_iff (htrim : trim item = item) (hne : item ≠ "") :
    (assigned item).1 = "" ↔ item.toList.head? = some '=' := by
  obtain ⟨c, rest, hchars, hsolid⟩ := (solid_of_trim htrim hne).1
  rw [hchars, List.head?_cons, Option.some.injEq]
  by_cases hc : c = '='
  · have hcut : (cut '=' item).1 = "" := by simp [cut, hchars, cutChars, hc]
    rw [assigned, hcut]
    exact iff_of_true rfl hc
  · have hmem : c ∈ (cut '=' item).1.toList := by simp [cut, hchars, cutChars, hc]
    refine iff_of_false (fun hempty => ?_) hc
    have hblank := List.all_eq_true.1 (trim_eq_empty_iff.1 hempty) c hmem
    rw [hsolid] at hblank
    cases hblank

theorem isAssignment_iff_assigned :
    IsAssignment item ↔ '=' ∈ item.toList ∧ (assigned item).1 ≠ "" := by
  constructor
  · rintro ⟨key, value, rfl, hkey, hname⟩
    rw [assigned_assignment hkey]
    exact ⟨by simp, hname⟩
  · rintro ⟨hmem, hname⟩
    obtain ⟨key, value, rfl, hkey⟩ := exists_key hmem
    rw [assigned_assignment hkey] at hname
    exact ⟨key, value, rfl, hkey, hname⟩

theorem isAssignment_iff (htrim : trim item = item) (hne : item ≠ "") :
    IsAssignment item ↔ '=' ∈ item.toList ∧ item.toList.head? ≠ some '=' := by
  rw [isAssignment_iff_assigned, Ne, assigned_fst_eq_empty_iff htrim hne]

/-- A command line takes an item for a pair if it is an assignment. -/
theorem exists_readPair_iff (htrim : trim item = item) (hne : item ≠ "") :
    (∃ pair, readPairs.readPair item = .ok pair) ↔ IsAssignment item := by
  rw [isAssignment_iff htrim hne]
  by_cases hmem : '=' ∈ item.toList
  · obtain ⟨key, value, rfl, hkey⟩ := exists_key hmem
    have hhead : (key ++ "=" ++ value).toList.head? = some '=' ↔ key = "" := by
      rw [← String.toList_eq_nil_iff]
      cases hchars : key.toList with
      | nil => simp [hchars]
      | cons c rest =>
        rw [hchars, List.mem_cons, not_or] at hkey
        simp [hchars, Ne.symm hkey.1]
    rw [Ne, hhead, and_iff_right hmem, readPairs.readPair, cut_assignment hkey]
    by_cases hempty : key = "" <;> simp [hempty]
  · rw [readPairs.readPair, cut_of_notMem hmem]
    simp [hmem]

end Item

/-! ## Reading item by item -/

section Items

variable {ε α β : Type} {f : α → Except ε β} {xs : List α}

theorem mapM_eq_ok {g : α → β} (h : ∀ x ∈ xs, f x = .ok (g x)) : xs.mapM f = .ok (xs.map g) := by
  induction xs with
  | nil => rfl
  | cons x xs ih =>
    rw [List.mapM_cons, h x List.mem_cons_self, ih fun y hy => h y (List.mem_cons_of_mem x hy)]
    rfl

/-- The first item that is refused is what all of them are refused for. -/
theorem mapM_eq_error {before after : List α} {x : α} {e : ε} (h : ∀ y ∈ before, ∃ b, f y = .ok b)
    (hx : f x = .error e) : (before ++ x :: after).mapM f = .error e := by
  induction before with
  | nil =>
    rw [List.nil_append, List.mapM_cons, hx]
    rfl
  | cons y before ih =>
    obtain ⟨b, hb⟩ := h y List.mem_cons_self
    rw [List.cons_append, List.mapM_cons, hb, ih fun z hz => h z (List.mem_cons_of_mem y hz)]
    rfl

theorem exists_mapM_iff : (∃ ys, xs.mapM f = .ok ys) ↔ ∀ x ∈ xs, ∃ y, f x = .ok y := by
  induction xs with
  | nil => exact iff_of_true ⟨[], rfl⟩ (List.forall_mem_nil _)
  | cons x xs ih =>
    rw [List.forall_mem_cons, ← ih, List.mapM_cons]
    cases hx : f x with
    | error e => simp [bind, Except.bind]
    | ok y => cases xs.mapM f <;> simp [bind, Except.bind, pure, Except.pure]

end Items

section Text

variable {s : String}

theorem readItems_eq (s : String) : readItems s = ((items s).mapM readItem).map (putAll []) := by
  have hitems : items s = ((pieces ',' s).filter (!isAllBlank ·)).map trim := by
    have hkept : (fun piece => decide (trim piece ≠ "")) = (!isAllBlank ·) := by
      funext piece
      rw [Bool.eq_iff_iff]
      simp [trim_eq_empty_iff]
    rw [items, List.filter_map, Function.comp_def, hkept]
  have hread : readItem ∘ trim = readItem := by
    funext item
    rw [Function.comp_apply, readItem_trim]
  rw [hitems, List.mapM_map, hread, readItems]
  generalize ((pieces ',' s).filter (!isAllBlank ·)).mapM readItem = found
  cases found <;> rfl

theorem read_eq_readItems (h : (trim s).toList.head? ≠ some '{') :
    read s = (((items s).mapM readItem).map (putAll [])).map (mapValues .text) := by
  rw [read, if_neg h, readItems_eq, items_trim]

theorem read_eq_ok (h : (trim s).toList.head? ≠ some '{') (hall : ∀ item ∈ items s, '=' ∈ item.toList) :
    read s = .ok ((putAll [] ((items s).map assigned)).mapValues .text) := by
  rw [read_eq_readItems h, mapM_eq_ok fun item hitem => readItem_of_mem (hall item hitem)]
  rfl

theorem read_eq_error (h : (trim s).toList.head? ≠ some '{') {before after : List String} {item : String}
    (hitems : items s = before ++ item :: after) (hbefore : ∀ other ∈ before, '=' ∈ other.toList)
    (hitem : '=' ∉ item.toList) : read s = .error (.noEquals item) := by
  have hmem : item ∈ items s := by simp [hitems]
  have htrim : trim item = item := (trimmed_of_mem_items hmem).1
  have hrefused : readItem item = .error (.noEquals item) := by
    rw [readItem_of_notMem hitem, htrim]
  rw [read_eq_readItems h, hitems,
    mapM_eq_error (fun other hother => ⟨_, readItem_of_mem (hbefore other hother)⟩) hrefused]
  rfl

/-- Either all items have the sign, or there is a first one that has none. -/
theorem all_or_first (items : List String) :
    (∀ item ∈ items, '=' ∈ item.toList) ∨ ∃ before item after, items = before ++ item :: after ∧
      (∀ other ∈ before, '=' ∈ other.toList) ∧ '=' ∉ item.toList := by
  induction items with
  | nil => exact .inl (List.forall_mem_nil _)
  | cons item rest ih =>
    by_cases hitem : '=' ∈ item.toList
    · rcases ih with hall | ⟨before, other, after, rfl, hbefore, hother⟩
      · exact .inl (List.forall_mem_cons.2 ⟨hitem, hall⟩)
      · exact .inr ⟨item :: before, other, after, rfl, List.forall_mem_cons.2 ⟨hitem, hbefore⟩, hother⟩
    · exact .inr ⟨[], item, rest, rfl, List.forall_mem_nil _, hitem⟩

theorem exists_read_iff (h : (trim s).toList.head? ≠ some '{') :
    (∃ entries, read s = .ok entries) ↔ ∀ item ∈ items s, '=' ∈ item.toList := by
  constructor
  · rintro ⟨entries, hread⟩
    rcases all_or_first (items s) with hall | ⟨before, item, after, hitems, hbefore, hitem⟩
    · exact hall
    · rw [read_eq_error h hitems hbefore hitem] at hread
      cases hread
  · intro hall
    exact ⟨_, read_eq_ok h hall⟩

theorem read_eq_error_iff (h : (trim s).toList.head? ≠ some '{') {fault : Fault} :
    read s = .error fault ↔ ∃ before item after, items s = before ++ item :: after ∧
      (∀ other ∈ before, '=' ∈ other.toList) ∧ '=' ∉ item.toList ∧ fault = .noEquals item := by
  constructor
  · intro hread
    rcases all_or_first (items s) with hall | ⟨before, item, after, hitems, hbefore, hitem⟩
    · rw [read_eq_ok h hall] at hread
      cases hread
    · rw [read_eq_error h hitems hbefore hitem] at hread
      exact ⟨before, item, after, hitems, hbefore, hitem, (Except.error.inj hread).symm⟩
  · rintro ⟨before, item, after, hitems, hbefore, hitem, rfl⟩
    exact read_eq_error h hitems hbefore hitem

theorem exists_readPairs_iff (s : String) :
    (∃ pairs, readPairs (items s) = .ok pairs) ↔ ∀ item ∈ items s, IsAssignment item := by
  have hpairs : (∃ pairs, readPairs (items s) = .ok pairs) ↔
      ∃ pairs, (items s).mapM readPairs.readPair = .ok pairs := by
    rw [readPairs]
    cases (items s).mapM readPairs.readPair <;> simp [bind, Except.bind, pure, Except.pure]
  rw [hpairs, exists_mapM_iff]
  refine forall₂_congr fun item hitem => ?_
  obtain ⟨htrim, hne⟩ := trimmed_of_mem_items hitem
  exact exists_readPair_iff htrim hne

theorem empty_mem_keys_iff (h : (trim s).toList.head? ≠ some '{') {entries : Entries Value}
    (hread : read s = .ok entries) :
    "" ∈ keys entries ↔ ∃ item ∈ items s, item.toList.head? = some '=' := by
  rw [read_eq_ok h ((exists_read_iff h).1 ⟨entries, hread⟩)] at hread
  rw [← Except.ok.inj hread, keys_mapValues, keys_collected, List.mem_eraseDups, keys, List.map_map]
  constructor
  · intro hmem
    obtain ⟨item, hitem, hname⟩ := List.mem_map.1 hmem
    obtain ⟨htrim, hne⟩ := trimmed_of_mem_items hitem
    exact ⟨item, hitem, (assigned_fst_eq_empty_iff htrim hne).1 hname⟩
  · rintro ⟨item, hitem, hhead⟩
    obtain ⟨htrim, hne⟩ := trimmed_of_mem_items hitem
    exact List.mem_map.2 ⟨item, hitem, (assigned_fst_eq_empty_iff htrim hne).2 hhead⟩

/-- **A list of assignments** is accepted exactly if every item has an equals sign, and is refused for the
first that has none. What a command line accepts as pairs is accepted, and an accepted text has a variable
with no name exactly if an item begins with the sign. So what is accepted are the lists of assignments,
exactly if an item without the sign is there to be refused or no item begins with it. -/
theorem read_assignments (h : (trim s).toList.head? ≠ some '{') :
    ((∃ entries, read s = .ok entries) ↔ ∀ item ∈ items s, '=' ∈ item.toList) ∧
    (∀ fault, read s = .error fault ↔ ∃ before item after, items s = before ++ item :: after ∧
      (∀ other ∈ before, '=' ∈ other.toList) ∧ '=' ∉ item.toList ∧ fault = .noEquals item) ∧
    ((∃ pairs, readPairs (items s) = .ok pairs) ↔ ∀ item ∈ items s, IsAssignment item) ∧
    ((∃ pairs, readPairs (items s) = .ok pairs) → ∃ entries, read s = .ok entries) ∧
    (∀ entries, read s = .ok entries →
      ("" ∈ keys entries ↔ ∃ item ∈ items s, item.toList.head? = some '=')) ∧
    (((∃ entries, read s = .ok entries) ↔ ∀ item ∈ items s, IsAssignment item) ↔
      (∃ item ∈ items s, '=' ∉ item.toList) ∨ ∀ item ∈ items s, item.toList.head? ≠ some '=') := by
  have hassigns (item : String) (hitem : item ∈ items s) :
      IsAssignment item ↔ '=' ∈ item.toList ∧ item.toList.head? ≠ some '=' :=
    (trimmed_of_mem_items hitem).elim isAssignment_iff
  refine ⟨exists_read_iff h, fun fault => read_eq_error_iff h, exists_readPairs_iff s, ?_,
    fun entries => empty_mem_keys_iff h, ?_⟩
  · rw [exists_readPairs_iff, exists_read_iff h]
    exact fun hall item hitem => ((hassigns item hitem).1 (hall item hitem)).1
  · rw [exists_read_iff h]
    constructor
    · intro hiff
      by_cases hall : ∀ item ∈ items s, '=' ∈ item.toList
      · exact .inr fun item hitem => ((hassigns item hitem).1 (hiff.1 hall item hitem)).2
      · push Not at hall
        exact .inl hall
    · rintro (⟨item, hitem, hmem⟩ | hnone)
      · exact iff_of_false (fun hall => hmem (hall item hitem)) fun hall =>
          hmem ((hassigns item hitem).1 (hall item hitem)).1
      · exact forall₂_congr fun item hitem => by
          rw [hassigns item hitem, and_iff_left (hnone item hitem)]

end Text

theorem read_assignments_unsigned :
    let s := "A=1,, b = 2=3 ,C"
    (trim s).toList.head? ≠ some '{' ∧ items s = ["A=1", "b = 2=3", "C"] ∧
      read s = .error (.noEquals "C") := by
  intro s
  have hhead : (trim s).toList.head? ≠ some '{' := by decide +kernel
  have hitems : items s = ["A=1", "b = 2=3"] ++ "C" :: [] := by decide +kernel
  obtain ⟨-, hrefused, -⟩ := read_assignments hhead
  exact ⟨hhead, hitems, (hrefused _).2 ⟨_, _, _, hitems, by decide, by decide, rfl⟩⟩

/-- An item that begins with the sign is accepted from a list, and refused on a command line. -/
theorem read_assignments_nameless :
    let s := "=x"
    items s = ["=x"] ∧ ¬IsAssignment "=x" ∧ readPairs (items s) = .error (.badPair "=x") ∧
      read s = .ok [("", .text "x")] ∧
      ¬((∃ entries, read s = .ok entries) ↔ ∀ item ∈ items s, IsAssignment item) ∧
      Render.withEnvironment (Render.mergeEnvironment [("", "x")] []) "/usr/bin/env ls" =
        "( =x /usr/bin/env ls )" := by
  intro s
  have hitems : items s = ["=x"] := by decide +kernel
  have hassigned : assigned "=x" = ("", "x") := by decide +kernel
  have hread : read s = .ok [("", .text "x")] := by
    rw [read_eq_ok (by decide +kernel) (by rw [hitems]; decide), hitems, List.map_singleton, hassigned]
    rfl
  have hnone : ¬IsAssignment "=x" := by
    rw [isAssignment_iff_assigned]
    decide +kernel
  refine ⟨hitems, hnone, ?_, hread, ?_, by decide +kernel⟩
  · rw [hitems]
    cbv
  · rw [hitems]
    exact fun hiff => hnone (hiff.1 ⟨_, hread⟩ "=x" List.mem_cons_self)

end Invocation.EnvPairs

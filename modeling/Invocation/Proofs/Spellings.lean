import Invocation.Proofs.Assignments
import Invocation.Proofs.Fields
import Invocation.Proofs.Layers
import Invocation.Proofs.Objects

/-!
# Spellings of the default environment

A map of texts has two kinds of spellings (`Spelling`): a JSON text of an object, and a list of assignments
with blanks and blank items anywhere between its parts, if the list can tell the parts from each other
(`Listable`). Either is read as the map (`read_spelling`). The first character that is no blank tells the
kinds apart (`head?_trim`). So settings come out alike, whether the variable of the default environment
holds a spelling of a map or a settings file holds the map (`loadSettings_spelling`).
-/

namespace Invocation.EnvPairs

open Invocation.Entries Invocation.Text

/-! ## Spellings -/

/-- A name or a value can stand in a list: there is no comma in it and no blank at its ends. -/
structure Plain (s : String) : Prop where
  comma : ',' ∉ s.toList
  trimmed : trim s = s

/-- A map that a list of assignments can spell. -/
structure Listable (m : Entries String) : Prop where
  nonempty : m ≠ []
  plain : ∀ entry ∈ m, Plain entry.1 ∧ Plain entry.2
  equals : ∀ entry ∈ m, '=' ∉ entry.1.toList
  brace : ∀ entry, m.head? = some entry → entry.1.toList.head? ≠ some '{'

/-- What stands between the commas of a list: the assignments in order and blank items, with blanks around
each name and value. -/
inductive Listing : Entries String → List String → Prop
  | nil : Listing [] []
  | blank {m : Entries String} {part : String} {parts : List String} (h : isAllBlank part = true)
    (hrest : Listing m parts) : Listing m (part :: parts)
  | item {m : Entries String} {key value before between behind after : String} {parts : List String}
    (hbefore : isAllBlank before = true) (hbetween : isAllBlank between = true)
    (hbehind : isAllBlank behind = true) (hafter : isAllBlank after = true) (hrest : Listing m parts) :
    Listing ((key, value) :: m)
      (((before ++ key ++ between) ++ "=" ++ (behind ++ value ++ after)) :: parts)

/-- A text that spells a map. -/
inductive Spelling (m : Entries String) : String → Prop
  | object {before after : String} {cs : List Char} (hbefore : isAllBlank before = true)
    (hafter : isAllBlank after = true) (h : Json.Object m cs) :
    Spelling m (before ++ String.ofList cs ++ after)
  | list {parts : List String} (hm : Listable m) (h : Listing m parts) : Spelling m (join "," parts)

/-! ## Objects -/

theorem trim_object {m : Entries String} {cs : List Char} (h : Json.Object m cs) :
    trim (String.ofList cs) = String.ofList cs := by
  obtain ⟨inner, rfl⟩ := h.braces
  have hstart : StartsSolid ('{' :: inner ++ ['}']) := ⟨'{', inner ++ ['}'], rfl, by decide⟩
  have hend : EndsSolid ('{' :: inner ++ ['}']) := ⟨'{' :: inner, '}', rfl, by decide⟩
  rw [trim, String.toList_ofList, trimChars, trimStartChars_of_startsSolid hstart,
    trimEndChars_of_endsSolid hend]

theorem read_of_object {m : Entries String} (hnames : (keys m).Nodup) {cs : List Char}
    (h : Json.Object m cs) {before after : String} (hbefore : isAllBlank before = true)
    (hafter : isAllBlank after = true) :
    read (before ++ String.ofList cs ++ after) = .ok (m.mapValues .text) := by
  have htrim : trim (before ++ String.ofList cs ++ after) = String.ofList cs := by
    rw [trim_append hbefore hafter, trim_object h]
  have hbrace : (String.ofList cs).toList.head? = some '{' := by
    obtain ⟨inner, rfl⟩ := h.braces
    rw [String.toList_ofList]
    rfl
  simp only [read, htrim, if_pos hbrace, Json.read_object h hnames]

/-! ## Lists -/

/-- A trimmed text begins with the first character that is no blank. -/
theorem head?_trim (s : String) : (trim s).toList.head? = s.toList.find? (!isBlank ·) := by
  have hnone {cs : List Char} (h : ∀ c ∈ cs, isBlank c = true) : cs.find? (!isBlank ·) = none := by
    rw [List.find?_eq_none]
    intro c hc
    simp [h c hc]
  by_cases hne : trim s = ""
  · rw [hne, hnone (List.all_eq_true.1 (trim_eq_empty_iff.1 hne))]
    rfl
  · obtain ⟨before, after, hs, hbefore, -⟩ := exists_trimmed_text s
    obtain ⟨c, rest, hchars, hc⟩ := (solid_of_trim (trim_trim s) hne).1
    have hall : s.toList = before.toList ++ (c :: (rest ++ after.toList)) := by
      rw [hs, String.toList_append, String.toList_append, hchars]
      simp
    rw [hall, hchars, List.find?_append, hnone (List.all_eq_true.1 hbefore)]
    simp [hc]

theorem toList_join_cons (sep part : String) (parts : List String) :
    ∃ rest, (join sep (part :: parts)).toList = part.toList ++ rest ∧
      (parts ≠ [] → ∃ more, rest = sep.toList ++ more) := by
  cases parts with
  | nil => exact ⟨[], by rw [join, List.append_nil], fun h => absurd rfl h⟩
  | cons next parts =>
    refine ⟨sep.toList ++ (join sep (next :: parts)).toList, ?_, fun _ => ⟨_, rfl⟩⟩
    rw [join, String.toList_append, String.toList_append, List.append_assoc]
    simp

section Lists

variable {m : Entries String} {parts : List String}

theorem Listing.ne_nil (h : Listing m parts) (hm : m ≠ []) : parts ≠ [] := by
  cases h with
  | nil => exact absurd rfl hm
  | blank => exact List.cons_ne_nil _ _
  | item => exact List.cons_ne_nil _ _

/-- There is no comma in what stands between the commas. -/
theorem Listing.comma_notMem (h : Listing m parts) (hplain : ∀ entry ∈ m, Plain entry.1 ∧ Plain entry.2) :
    ∀ part ∈ parts, ',' ∉ part.toList := by
  induction h with
  | nil => exact List.forall_mem_nil _
  | blank hblank hrest ih =>
    exact List.forall_mem_cons.2 ⟨notMem_of_isAllBlank (by decide) hblank, ih hplain⟩
  | @item m key value before between behind after parts hbefore hbetween hbehind hafter hrest ih =>
    obtain ⟨⟨hkey, hvalue⟩, hplain⟩ := List.forall_mem_cons.1 hplain
    refine List.forall_mem_cons.2 ⟨?_, ih hplain⟩
    have hequals : ',' ∉ "=".toList := by decide
    have hblank {blanks : String} (h : isAllBlank blanks = true) : ',' ∉ blanks.toList :=
      notMem_of_isAllBlank (by decide) h
    simp only [String.toList_append, List.mem_append, not_or]
    exact ⟨⟨⟨⟨hblank hbefore, hkey.comma⟩, hblank hbetween⟩, hequals⟩,
      ⟨hblank hbehind, hvalue.comma⟩, hblank hafter⟩

/-- The items that are not blank are read as the assignments in order. -/
theorem Listing.mapM_readItem (h : Listing m parts) (hplain : ∀ entry ∈ m, Plain entry.1 ∧ Plain entry.2)
    (hequals : ∀ entry ∈ m, '=' ∉ entry.1.toList) :
    (parts.filter (!isAllBlank ·)).mapM readItem = .ok m := by
  induction h with
  | nil => rfl
  | @blank m part parts hblank hrest ih =>
    rw [List.filter_cons_of_neg (by simp [hblank])]
    exact ih hplain hequals
  | @item m key value before between behind after parts hbefore hbetween hbehind hafter hrest ih =>
    obtain ⟨⟨hkey, hvalue⟩, hplain⟩ := List.forall_mem_cons.1 hplain
    obtain ⟨hsign, hequals⟩ := List.forall_mem_cons.1 hequals
    have hname : '=' ∉ (before ++ key ++ between).toList := by
      simp only [String.toList_append, List.mem_append, not_or]
      exact ⟨⟨notMem_of_isAllBlank (by decide) hbefore, hsign⟩, notMem_of_isAllBlank (by decide) hbetween⟩
    have hsolid : isAllBlank (before ++ key ++ between ++ "=" ++ (behind ++ value ++ after)) = false := by
      by_contra hblank
      have hnot := notMem_of_isAllBlank (c := '=') (by decide) (by simpa using hblank)
      exact hnot (by simp)
    rw [List.filter_cons_of_pos (by simp [hsolid]), List.mapM_cons, readItem_assignment hname,
      trim_append hbefore hbetween, trim_append hbehind hafter, hkey.trimmed, hvalue.trimmed,
      ih hplain hequals]
    rfl

/-- A list does not begin as an object does. -/
theorem Listing.head?_ne (h : Listing m parts) (hm : Listable m) :
    (trim (join "," parts)).toList.head? ≠ some '{' := by
  rw [head?_trim]
  have hnone {blanks : String} (hblank : isAllBlank blanks = true) :
      blanks.toList.find? (!isBlank ·) = none := by
    rw [← head?_trim, trim_eq_empty_iff.2 hblank]
    rfl
  cases h with
  | nil => exact absurd rfl hm.nonempty
  | @blank _ part parts hblank hrest =>
    obtain ⟨rest, hchars, hcomma⟩ := toList_join_cons "," part parts
    obtain ⟨more, rfl⟩ := hcomma (hrest.ne_nil hm.nonempty)
    rw [hchars, List.find?_append, hnone hblank]
    simp [isBlank]
  | @item m key value before between behind after parts hbefore hbetween hbehind hafter hrest =>
    obtain ⟨rest, hchars, -⟩ := toList_join_cons ","
      ((before ++ key ++ between) ++ "=" ++ (behind ++ value ++ after)) parts
    have hkey := (hm.plain (key, value) List.mem_cons_self).1.trimmed
    have hbrace := hm.brace (key, value) rfl
    rw [← hkey, head?_trim] at hbrace
    rw [hchars]
    simp only [String.toList_append, List.append_assoc, List.find?_append, hnone hbefore, hnone hbetween,
      Option.none_or]
    cases hfirst : key.toList.find? (!isBlank ·) with
    | none => simp [isBlank]
    | some c =>
      rw [hfirst] at hbrace
      simpa using hbrace

theorem Listing.pieces_join (h : Listing m parts) (hm : Listable m) : pieces ',' (join "," parts) = parts :=
  Text.pieces_join (h.ne_nil hm.nonempty) (h.comma_notMem hm.plain)

theorem read_of_listing (hnames : (keys m).Nodup) (hm : Listable m) (h : Listing m parts) :
    read (join "," parts) = .ok (m.mapValues .text) := by
  have hcollected : putAll [] m = [] ++ m := putAll_of_nodup hnames
  have hitems : readItems (trim (join "," parts)) = .ok m := by
    rw [readItems_eq, items_trim, ← readItems_eq, readItems, h.pieces_join hm,
      h.mapM_readItem hm.plain hm.equals]
    exact congrArg Except.ok hcollected
  simp only [read, if_neg (h.head?_ne hm), hitems]
  rfl

end Lists

/-- **A spelling of a map is read** as the map, in order. -/
theorem read_spelling {m : Entries String} (hnames : (keys m).Nodup) {s : String} (h : Spelling m s) :
    read s = .ok (m.mapValues .text) := by
  cases h with
  | object hbefore hafter h => exact read_of_object hnames h hbefore hafter
  | list hm h => exact read_of_listing hnames hm h

/-- What is written for a map of texts spells it. -/
theorem spelling_write (escaping : Json.Escaping) (m : Entries String) :
    Spelling m (Json.write escaping (.ofTexts m)) := by
  have hempty : isAllBlank "" = true := rfl
  have hspelling := Spelling.object hempty hempty (Json.object_valueChars escaping 0 m)
  rwa [String.empty_append, String.append_empty] at hspelling

theorem Spelling.ne_empty {m : Entries String} {s : String} (h : Spelling m s) : s ≠ "" := by
  rintro hs
  cases h with
  | object hbefore hafter h =>
    obtain ⟨inner, rfl⟩ := h.braces
    have hchars := congrArg String.toList hs
    simp at hchars
  | @list parts hm h =>
    have hitems := h.mapM_readItem hm.plain hm.equals
    rw [← h.pieces_join hm, hs] at hitems
    exact hm.nonempty (Except.ok.inj hitems).symm

end Invocation.EnvPairs

namespace Invocation.Settings

open Invocation.Entries

theorem defaultEnv_spelling {m : Entries String} (hnames : (keys m).Nodup) {s : String}
    (h : EnvPairs.Spelling m s) : Field.defaultEnv (.text s) = .ok m := by
  simp only [Field.defaultEnv, EnvPairs.read_spelling hnames h]
  exact Field.defaultEnv_ofTexts m

theorem nonEmpty?_of_ne {environment : Entries String} {name s : String} (h : environment.get? name = some s)
    (hne : s ≠ "") : nonEmpty? environment name = some s := by
  rw [nonEmpty?, h, Option.filter_some]
  simp [hne]

end Invocation.Settings

namespace Invocation.World

open Invocation.Entries Invocation.Settings

/-- **The spellings of a default environment agree.** A spelling of a map is read as the map, in order.
Settings have the map as their default environment, whether the variable holds a spelling or, where it is
unset or empty, the files have the map. Where the other fields are the same, the two load alike, with the
same issues if there are any. -/
theorem loadSettings_spelling {m : Entries String} (hnames : (keys m).Nodup) {s : String}
    (hs : EnvPairs.Spelling m s) :
    EnvPairs.read s = .ok (m.mapValues .text) ∧
    (∀ (world : World) (user project : Entries Value), HasMembers world.userFile user →
      HasMembers world.projectFile project →
      world.environment.get? "SHELLWRAP_DEFAULT_ENV" = some s ∨
        nonEmpty? world.environment "SHELLWRAP_DEFAULT_ENV" = none ∧
          inFiles user project "default_env" = some (.ofTexts m) →
      ∀ settings, (loadSettings.run world).1 = .ok settings → settings.defaultEnv = m) ∧
    ∀ (spelled filed : World) (user project user' project' : Entries Value),
      HasMembers spelled.userFile user → HasMembers spelled.projectFile project →
      HasMembers filed.userFile user' → HasMembers filed.projectFile project' →
      spelled.environment.get? "SHELLWRAP_DEFAULT_ENV" = some s →
      Raw.of filed.environment user' project' =
        { Raw.of spelled.environment user project with defaultEnv := some (.ofTexts m) } →
      (loadSettings.run spelled).1 = (loadSettings.run filed).1 := by
  have hread := defaultEnv_spelling hnames hs
  have hfile := Field.defaultEnv_ofTexts m
  have hvariable {environment : Entries String} (user project : Entries Value)
      (h : environment.get? "SHELLWRAP_DEFAULT_ENV" = some s) :
      (Raw.of environment user project).defaultEnv = some (.text s) := by
    simp only [Raw.of, highest, nonEmpty?_of_ne h hs.ne_empty]
    rfl
  refine ⟨EnvPairs.read_spelling hnames hs, ?_, ?_⟩
  · intro world user project huser hproject hlayer settings hload
    rw [run_loadSettings huser hproject, Json.mapError_eq_ok_iff,
      validate_eq_ok_iff hproject.nodup_keys] at hload
    have hreads := hload.defaultEnv
    rcases hlayer with hset | ⟨hunset, hfiled⟩
    · rw [hvariable user project hset, Reads, hread] at hreads
      exact (Except.ok.inj hreads).symm
    · have hraw : (Raw.of world.environment user project).defaultEnv = some (.ofTexts m) := by
        simp only [Raw.of, highest, hunset, hfiled]
        rfl
      rw [hraw, Reads, hfile] at hreads
      exact (Except.ok.inj hreads).symm
  · intro spelled filed user project user' project' huser hproject huser' hproject' hset hraw
    have hset := hvariable user project hset
    have hself : Raw.of spelled.environment user project =
        { Raw.of filed.environment user' project' with defaultEnv := some (.text s) } := by
      rw [hraw, ← hset]
    have hvalue : Reads Field.defaultEnv [] (Raw.of filed.environment user' project').defaultEnv m := by
      rw [hraw]
      exact hfile
    -- Both are the checking of the second world's layers, with the map as their default environment.
    have hfirst := validate_defaultEnv hproject.nodup_keys hproject'.nodup_keys hself hread hvalue
    have hsecond := validate_defaultEnv hproject'.nodup_keys hproject'.nodup_keys rfl hvalue hvalue
    rw [run_loadSettings huser hproject, run_loadSettings huser' hproject', hfirst, ← hsecond]

/-- A map with equals signs and braces in its values. -/
def marked : Entries String := [("A", "1=2"), ("b", "\x7bx\x7d")]

/-- A world with no files, where the variable of the default environment holds a text. -/
def withDefaultEnv (s : String) : World :=
  { fresh ⟨"/home/u/settings.json", "/work"⟩ with environment := [("SHELLWRAP_DEFAULT_ENV", s)] }

/-- A world without the variable, where the project's file has the map. -/
def filed : World :=
  { fresh ⟨"/home/u/settings.json", "/work"⟩ with
    projectFile := some "\x7b\"default_env\": \x7b\"A\": \"1=2\", \"b\": \"\x7bx\x7d\"\x7d\x7d" }

theorem loadSettings_spelling_marked :
    (loadSettings.run (withDefaultEnv " A =1=2,\t, b= \x7bx\x7d")).1 =
      .ok { defaults with defaultEnv := marked } ∧
    (loadSettings.run (withDefaultEnv (Json.write .plain (.ofTexts marked)))).1 =
      .ok { defaults with defaultEnv := marked } := by
  have hnames : (keys marked).Nodup := by decide
  have hm : EnvPairs.Listable marked := by
    refine ⟨by decide, ?_, by decide, ?_⟩
    · have hplain : ∀ s ∈ ["A", "1=2", "b", "\x7bx\x7d"], EnvPairs.Plain s := by
        have hboth : ∀ s ∈ ["A", "1=2", "b", "\x7bx\x7d"], ',' ∉ s.toList ∧ Text.trim s = s := by
          decide +kernel
        exact fun s hs => ⟨(hboth s hs).1, (hboth s hs).2⟩
      exact List.forall_mem_cons.2 ⟨⟨hplain _ (by decide), hplain _ (by decide)⟩,
        List.forall_mem_cons.2 ⟨⟨hplain _ (by decide), hplain _ (by decide)⟩, List.forall_mem_nil _⟩⟩
    · intro entry hentry
      cases hentry
      decide
  have hlisting : EnvPairs.Listing marked
      [((" " ++ "A" ++ " ") ++ "=" ++ ("" ++ "1=2" ++ "")), "\t",
        ((" " ++ "b" ++ "") ++ "=" ++ (" " ++ "\x7bx\x7d" ++ ""))] :=
    .item (by decide) (by decide) (by decide) (by decide) (.blank (by decide)
      (.item (by decide) (by decide) (by decide) (by decide) .nil))
  have hlist : EnvPairs.Spelling marked " A =1=2,\t, b= \x7bx\x7d" := .list hm hlisting
  have hwritten := EnvPairs.spelling_write .plain marked
  have hfile : HasMembers filed.projectFile [("default_env", .ofTexts marked)] := .object (by cbv)
  have hload : (loadSettings.run filed).1 = .ok { defaults with defaultEnv := marked } := by
    rw [run_loadSettings .absent hfile, Json.mapError_eq_ok_iff, validate_eq_ok_iff hfile.nodup_keys]
    exact ⟨rfl, rfl, ⟨none, rfl, rfl⟩, rfl, rfl, rfl⟩
  obtain ⟨-, -, hlisted⟩ := loadSettings_spelling hnames hlist
  obtain ⟨-, -, hobject⟩ := loadSettings_spelling hnames hwritten
  constructor
  · rw [hlisted (withDefaultEnv _) filed [] [] [] _ .absent .absent .absent hfile rfl (by cbv), hload]
  · rw [hobject (withDefaultEnv _) filed [] [] [] _ .absent .absent .absent hfile rfl (by cbv), hload]

end Invocation.World

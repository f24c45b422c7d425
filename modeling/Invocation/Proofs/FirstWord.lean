import Invocation.Proofs.ScriptLines

/-!
# The executable of a command

The first word of a command ends at a blank of any kind. The shell's own words are told by it, but the
command map is asked for the text before the first space. These are the same exactly if the first word
ends at a space or is the whole command (`cut_eq_firstWord_iff`). So a collapsed script is launched by its
first word, under every map, if that is so or the word is one of the shell's own, and else it is not
(`launched_firstWord`): the map has nothing for an executable that ends at another blank.
-/

namespace Invocation.Text

/-! ## The text after the first word -/

/-- The text after the first word, from the blank that ends the word. -/
def afterWord (s : String) : String :=
  String.ofList ((trimStartChars s.toList).dropWhile (!isBlank ·))

/-- Nothing follows the first word, or a space does. -/
def EndsAtSpace (s : String) : Prop :=
  afterWord s = "" ∨ (afterWord s).toList.head? = some ' '

section Trimmed

variable {s : String} (h : trim s = s)

include h in
theorem firstWord_append_afterWord : firstWord s ++ afterWord s = s := by
  have hstart : trimStartChars s.toList = s.toList := by
    by_cases hne : s = ""
    · rw [hne]
      rfl
    · exact trimStartChars_of_startsSolid (solid_of_trim h hne).1
  rw [firstWord, afterWord, firstWordChars, hstart, ← String.ofList_append,
    List.takeWhile_append_dropWhile, String.ofList_toList]

include h in
theorem endsSolid_afterWord (hne : afterWord s ≠ "") : EndsSolid (afterWord s).toList := by
  have hsplit := firstWord_append_afterWord h
  have hwhole : s ≠ "" := by
    rintro rfl
    exact hne (by decide)
  have hend := (solid_of_trim h hwhole).2
  rw [← hsplit, String.toList_append] at hend
  exact endsSolid_of_append hend fun hnil => hne (String.toList_eq_nil_iff.1 hnil)

theorem space_notMem_firstWord (s : String) : ' ' ∉ (firstWord s).toList := by
  intro hmem
  rw [firstWord, String.toList_ofList, firstWordChars] at hmem
  have hsolid := List.mem_takeWhile_imp hmem
  revert hsolid
  decide

include h in
theorem cut_firstWord : cut ' ' s =
    (firstWord s ++ (cut ' ' (afterWord s)).1, (cut ' ' (afterWord s)).2) := by
  have hchars : s.toList = (firstWord s).toList ++ (afterWord s).toList := by
    rw [← String.toList_append, firstWord_append_afterWord h]
  have hcut := cutChars_append_of_notMem (space_notMem_firstWord s) (afterWord s).toList
  rw [← hchars] at hcut
  simp only [cut, hcut, String.ofList_append, String.ofList_toList]

include h in
/-- **The text before the first space** is the first word if that ends at a space, or at the end. -/
theorem cut_eq_firstWord_iff : (cut ' ' s).1 = firstWord s ↔ EndsAtSpace s := by
  rw [cut_firstWord h, String.append_eq_left_iff]
  unfold EndsAtSpace cut
  rcases hafter : (afterWord s).toList with _ | ⟨c, rest⟩
  · have hempty : afterWord s = "" := String.toList_eq_nil_iff.1 hafter
    simp [cutChars, hempty]
  · have hne : afterWord s ≠ "" := by
      intro hempty
      simp [hempty] at hafter
    by_cases hc : c = ' '
    · simp [cutChars, hc]
    · simp [cutChars, hc, hne]

end Trimmed

end Invocation.Text

namespace Invocation.Render

open Invocation.Entries Invocation.Text

/-! ## Launching by the first word -/

/-- The command with another text in place of its first word. Where nothing follows the word, the text is
without the blanks at its end. -/
def replaceWord (replacement base : String) : String :=
  if afterWord base = "" then trimEnd replacement else replacement ++ afterWord base

/-- A command is launched by its first word: as it is if the shell has the word, with the text that the
map has for the word in its place, and through the launcher if the map has none. -/
structure ByFirstWord (map : Entries String) (base : String) (args : List String) : Prop where
  own : firstWord base ∈ builtins → launched map base args = join " " (base :: args)
  mapped : firstWord base ∉ builtins → ∀ replacement, map.get? (firstWord base) = some replacement →
    launched map base args = join " " (replaceWord replacement base :: args)
  unmapped : firstWord base ∉ builtins → map.get? (firstWord base) = none →
    launched map base args = join " " (launcher :: base :: args)

theorem isBuiltin_iff {base : String} : isBuiltin base = true ↔ firstWord base ∈ builtins :=
  decide_eq_true_iff

theorem launched_own {base : String} (h : firstWord base ∈ builtins) (map : Entries String)
    (args : List String) : launched map base args = join " " (base :: args) := by
  rw [launched, if_pos (isBuiltin_iff.2 h)]

theorem launched_of_mapped {map : Entries String} {base start : String}
    (h : firstWord base ∉ builtins) (hmapped : mapped? map base = some start) (args : List String) :
    launched map base args = join " " (start :: args) := by
  rw [launched, if_neg (isBuiltin_iff.not.2 h), hmapped]

theorem launched_of_unmapped {map : Entries String} {base : String} (h : firstWord base ∉ builtins)
    (hnone : map.get? (cut ' ' base).1 = none) (args : List String) :
    launched map base args = join " " (launcher :: base :: args) := by
  have hmapped : mapped? map base = none := Option.map_eq_none_iff.2 hnone
  rw [launched, if_neg (isBuiltin_iff.not.2 h), hmapped]

/-- A blank at the end of a text is trimmed. -/
theorem trimEnd_append_space (s : String) : trimEnd (s ++ " ") = trimEnd s := by
  have hspace : ∀ c ∈ " ".toList, isBlank c = true := by simp [isBlank]
  rw [trimEnd, trimEnd, String.toList_append, trimEndChars_append_of_blank hspace]

section Base

variable {base : String} (hbase : trim base = base)

include hbase in
/-- The map is asked for the first word, if that ends at a space. -/
theorem mapped?_of_endsAtSpace (h : EndsAtSpace base) (map : Entries String) :
    mapped? map base = (map.get? (firstWord base)).map (replaceWord · base) := by
  have hhead := (cut_eq_firstWord_iff hbase).2 h
  have hrest : (cut ' ' base).2 = (cut ' ' (afterWord base)).2 := by rw [cut_firstWord hbase]
  have hstart (replacement : String) :
      trimEnd (replacement ++ " " ++ (cut ' ' base).2.getD "") = replaceWord replacement base := by
    rw [hrest, replaceWord]
    rcases h with hnone | hspace
    · have hnothing : (cut ' ' "").2.getD "" = "" := by decide
      rw [if_pos hnone, hnone, hnothing, String.append_empty]
      exact trimEnd_append_space replacement
    · obtain ⟨rest, hafter⟩ := List.head?_eq_some_iff.1 hspace
      have hne : afterWord base ≠ "" := by
        intro hempty
        simp [hempty] at hafter
      have hwhole : replacement ++ " " ++ (cut ' ' (afterWord base)).2.getD "" =
          replacement ++ afterWord base := by
        apply String.toList_inj.1
        simp [cut, hafter, cutChars]
      have hend := (endsSolid_afterWord hbase hne).append replacement.toList
      rw [← String.toList_append] at hend
      rw [if_neg hne, hwhole, trimEnd, trimEndChars_of_endsSolid hend, String.ofList_toList]
  have hmapped : mapped? map base = (map.get? (cut ' ' base).1).map fun replacement =>
      trimEnd (replacement ++ " " ++ (cut ' ' base).2.getD "") := rfl
  rw [hmapped, hhead]
  simp only [hstart]

include hbase in
theorem byFirstWord_of_endsAtSpace (h : EndsAtSpace base) (map : Entries String) (args : List String) :
    ByFirstWord map base args := by
  have hmapped := mapped?_of_endsAtSpace hbase h map
  constructor
  · intro hown
    exact launched_own hown map args
  · intro hown replacement hget
    rw [hget] at hmapped
    exact launched_of_mapped hown hmapped args
  · intro hown hget
    rw [← (cut_eq_firstWord_iff hbase).2 h] at hget
    exact launched_of_unmapped hown hget args

include hbase in
/-- An executable that ends at another blank is given the launcher, if the map has only the word. -/
theorem not_byFirstWord (hown : firstWord base ∉ builtins) (h : ¬EndsAtSpace base) :
    ¬ByFirstWord [(firstWord base, "")] base [] := by
  intro hword
  have hne : afterWord base ≠ "" := fun hempty => h (.inl hempty)
  have hfound : get? (firstWord base) [(firstWord base, "")] = some "" := if_pos rfl
  have hnone : get? (cut ' ' base).1 [(firstWord base, "")] = none := by
    refine if_neg fun heq => h ?_
    exact (cut_eq_firstWord_iff hbase).1 heq.symm
  have hlines := hword.mapped hown "" hfound
  rw [launched_of_unmapped hown hnone, replaceWord, if_neg hne] at hlines
  -- The line through the launcher is longer than what follows the word.
  have hlength := congrArg String.length hlines
  have hsplit := congrArg String.length (firstWord_append_afterWord hbase)
  simp only [join, launcher, String.length_append] at hlength hsplit
  have hlauncher : "/usr/bin/env".length = 12 := by decide
  have hempty : "".length = 0 := by decide
  omega

end Base

/-! ## Collapsed scripts -/

/-- **A collapsed script is launched by its first word**, whatever the map and the arguments are, exactly if
the word is one of the shell's own, ends at a space or is the whole script. It is in any case under a map
that has nothing for the word nor for the text before the first space. Where the word ends at another blank,
the map is asked for that longer text, and what it has for the word does not count. -/
theorem launched_firstWord (body : String) :
    ((∀ map args, ByFirstWord map (collapse body) args) ↔
      firstWord (collapse body) ∈ builtins ∨ EndsAtSpace (collapse body)) ∧
    (∀ (map : Entries String) (args : List String), map.get? (firstWord (collapse body)) = none →
      map.get? (cut ' ' (collapse body)).1 = none → ByFirstWord map (collapse body) args) ∧
    (firstWord (collapse body) ∉ builtins → ¬EndsAtSpace (collapse body) →
      (cut ' ' (collapse body)).1 ≠ firstWord (collapse body) ∧
      ∀ (map : Entries String) (args : List String), map.get? (cut ' ' (collapse body)).1 = none →
        launched map (collapse body) args = join " " (launcher :: collapse body :: args)) := by
  have hbase := trim_collapse body
  generalize collapse body = base at hbase ⊢
  refine ⟨⟨?_, ?_⟩, ?_, ?_⟩
  · intro hall
    by_contra hnot
    obtain ⟨hown, hend⟩ := not_or.1 hnot
    exact not_byFirstWord hbase hown hend (hall _ _)
  · rintro (hown | hend) map args
    · exact ⟨fun _ => launched_own hown map args, fun hnot => absurd hown hnot,
        fun hnot => absurd hown hnot⟩
    · exact byFirstWord_of_endsAtSpace hbase hend map args
  · intro map args hword hhead
    constructor
    · intro hown
      exact launched_own hown map args
    · intro hown replacement hget
      rw [hword] at hget
      cases hget
    · intro hown hget
      exact launched_of_unmapped hown hhead args
  · intro hown hend
    refine ⟨(cut_eq_firstWord_iff hbase).not.2 hend, ?_⟩
    intro map args hhead
    exact launched_of_unmapped hown hhead args

/-- A tab ends the executable for the shell's own words, and not for the map. -/
theorem launched_firstWord_tab :
    let base := collapse "rake\tdb:migrate"
    let map : Entries String := [("rake", "bundle exec rake")]
    firstWord base ∉ builtins ∧ map.get? (firstWord base) = some "bundle exec rake" ∧
      launched map base [] = "/usr/bin/env rake\tdb:migrate" ∧ ¬ByFirstWord map base [] := by
  intro base map
  have hbase : base = "rake\tdb:migrate" :=
    (collapse_single (by decide) (by decide)).trans (by decide +kernel)
  have hown : firstWord base ∉ builtins := by
    rw [hbase]
    decide +kernel
  have hget : map.get? (firstWord base) = some "bundle exec rake" := by
    rw [hbase]
    decide +kernel
  have hline : launched map base [] = "/usr/bin/env rake\tdb:migrate" := by
    rw [hbase]
    decide +kernel
  refine ⟨hown, hget, hline, ?_⟩
  intro hword
  have hreplaced := hword.mapped hown "bundle exec rake" hget
  rw [hline, hbase] at hreplaced
  revert hreplaced
  decide +kernel

end Invocation.Render

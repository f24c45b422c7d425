import Invocation.Proofs.Collapsed
import Invocation.Proofs.Session

/-!
# Scripts on one line

A line feed between two texts ends the last line of the first text, or adds an empty line if there is a
break already, and a carriage return before it makes one break with it (`lineChars_append_lineFeed`). So
the lines of scripts that stand one under the other are the lines of the one and then those of the other
(`scriptLines_append`), where blank lines do not count.

A collapsed script has no line break in it and no blank at its ends (`oneLine_collapse`, `trim_collapse`),
so that it is its own single line. It is empty exactly for a script of blanks (`collapse_eq_empty_iff`),
and such a script makes no command. All this together is `collapse_laws`.
-/

namespace Invocation.Text

/-! ## Line breaks -/

/-- The characters that end a line. -/
def lineBreaks : List Char :=
  ['\n', '\x0b', '\x0c', '\r', '\x1c', '\x1d', '\x1e', '\u0085', '\u2028', '\u2029']

theorem isLineBreak_iff {c : Char} : isLineBreak c = true ↔ c ∈ lineBreaks := by
  simp only [isLineBreak, lineBreaks, List.mem_cons, List.not_mem_nil, or_false, ← Char.toNat_inj,
    Bool.or_eq_true, Bool.and_eq_true, decide_eq_true_eq, beq_iff_eq, Char.reduceToNat]
  omega

/-- What follows the first break of a text is followed by what stands under the text; only a carriage
return at the end takes the line feed. -/
theorem afterBreak_append {cs : List Char} (h : ∃ c ∈ cs, isLineBreak c = true) (ys : List Char) :
    afterBreak (cs ++ '\n' :: ys) = afterBreak cs ++ '\n' :: ys ∨
      afterBreak cs = [] ∧ afterBreak (cs ++ '\n' :: ys) = ys := by
  have hne : cs.dropWhile (!isLineBreak ·) ≠ [] := by
    intro hnil
    obtain ⟨c, hc, hbreak⟩ := h
    simpa [hbreak] using List.dropWhile_eq_nil_iff.1 hnil c hc
  have hdrop : (cs ++ '\n' :: ys).dropWhile (!isLineBreak ·) =
      cs.dropWhile (!isLineBreak ·) ++ '\n' :: ys := by
    rw [List.dropWhile_append, if_neg (by simpa using hne)]
  obtain ⟨b, more, hmore⟩ := List.exists_cons_of_ne_nil hne
  rw [afterBreak, afterBreak, hdrop, hmore, List.cons_append]
  by_cases hb : b = '\r'
  · subst hb
    cases more with
    | nil => exact .inr ⟨rfl, rfl⟩
    | cons d more =>
      by_cases hd : d = '\n'
      · subst hd
        exact .inl rfl
      · simp [hd]
  · simp [hb]

/-- A line feed between two texts adds an empty line at most. -/
theorem lineChars_append_lineFeed (xs ys : List Char) :
    lineChars (xs ++ '\n' :: ys) = lineChars xs ++ lineChars ys ∨
      lineChars (xs ++ '\n' :: ys) = lineChars xs ++ [] :: lineChars ys := by
  fun_induction lineChars xs with
  | case1 => exact .inr (lineChars_append (by simp) ys)
  | case2 c rest ih =>
    by_cases hbreak : ∃ d ∈ c :: rest, isLineBreak d = true
    · have hhead : headLine (c :: rest ++ '\n' :: ys) = headLine (c :: rest) := by
        obtain ⟨d, hd, hbreak⟩ := hbreak
        rw [headLine, headLine, List.takeWhile_append, if_neg]
        intro hlength
        have hall := (List.takeWhile_prefix fun c => !isLineBreak c).eq_of_length hlength
        simpa [hbreak] using List.takeWhile_eq_self_iff.1 hall d hd
      have hlines : lineChars (c :: rest ++ '\n' :: ys) =
          headLine (c :: rest) :: lineChars (afterBreak (c :: rest ++ '\n' :: ys)) := by
        rw [← hhead, List.cons_append, lineChars]
      rw [hlines]
      rcases afterBreak_append hbreak ys with hafter | ⟨hnil, hafter⟩
      · rw [hafter]
        rcases ih with hsame | hempty
        · exact .inl (by rw [hsame, List.cons_append])
        · exact .inr (by rw [hempty, List.cons_append])
      · -- The carriage return at the end of the first text and the line feed are one break.
        rw [hafter, hnil, lineChars]
        exact .inl rfl
    · have hkept : ∀ d ∈ c :: rest, isLineBreak d = false :=
        fun d hd => Bool.eq_false_iff.2 fun hb => hbreak ⟨d, hd, hb⟩
      have hsingle := lineChars_single hkept
      rw [lineChars] at hsingle
      rw [hsingle]
      exact .inl (lineChars_append hkept ys)

theorem afterBreak_subset (cs : List Char) : afterBreak cs ⊆ cs := by
  have hdrop := (List.dropWhile_suffix (l := cs) fun c => !isLineBreak c).subset
  unfold afterBreak
  split
  · next rest heq => exact fun c hc => hdrop (heq ▸ by simp [hc])
  · next b rest _ heq => exact fun c hc => hdrop (heq ▸ List.mem_cons_of_mem b hc)
  · simp

/-- The characters of a line are no line breaks, and stand in the text. -/
theorem mem_of_mem_lineChars {cs line : List Char} (h : line ∈ lineChars cs) {c : Char} (hc : c ∈ line) :
    c ∈ cs ∧ isLineBreak c = false := by
  fun_induction lineChars cs with
  | case1 => cases h
  | case2 d rest ih =>
    rcases List.mem_cons.1 h with rfl | h
    · exact ⟨(List.takeWhile_prefix _).subset hc, by simpa using List.mem_takeWhile_imp hc⟩
    · obtain ⟨hmem, hline⟩ := ih h
      exact ⟨afterBreak_subset _ hmem, hline⟩

/-! ## Trimmed texts -/

theorem trim_of_solid {s : String} (hstart : StartsSolid s.toList) (hend : EndsSolid s.toList) :
    trim s = s := by
  rw [trim, trimChars, trimStartChars_of_startsSolid hstart, trimEndChars_of_endsSolid hend,
    String.ofList_toList]

theorem trimChars_subset (cs : List Char) : trimChars cs ⊆ cs := by
  intro c hc
  have hstart := (List.rdropWhile_prefix isBlank (trimStartChars cs)).subset hc
  exact (List.dropWhile_suffix _).subset hstart

/-- A trimmed text is empty, or its first word begins it. -/
theorem firstWord_isPrefix {s : String} (h : StartsSolid s.toList) :
    firstWord s ≠ "" ∧ (firstWord s).toList <+: s.toList ∧ ∀ c ∈ (firstWord s).toList, isBlank c = false := by
  have hword : (firstWord s).toList = s.toList.takeWhile (!isBlank ·) := by
    rw [firstWord, String.toList_ofList, firstWordChars, trimStartChars_of_startsSolid h]
  refine ⟨fun hempty => ?_, hword ▸ List.takeWhile_prefix _, fun c hc => ?_⟩
  · obtain ⟨c, rest, hs, hc⟩ := h
    rw [hempty, hs, List.takeWhile_cons_of_pos (by simp [hc])] at hword
    cases hword
  · rw [hword] at hc
    simpa using List.mem_takeWhile_imp hc

theorem mem_join {sep : String} {xs : List String} {c : Char} (h : c ∈ (join sep xs).toList) :
    c ∈ sep.toList ∨ ∃ x ∈ xs, c ∈ x.toList := by
  induction xs with
  | nil => simp [join] at h
  | cons x xs ih =>
    cases xs with
    | nil => exact .inr ⟨x, List.mem_cons_self, h⟩
    | cons y ys =>
      rw [join, String.toList_append, String.toList_append, List.mem_append, List.mem_append] at h
      · rcases h with (hx | hsep) | hrest
        · exact .inr ⟨x, List.mem_cons_self, hx⟩
        · exact .inl hsep
        · rcases ih hrest with hsep | ⟨z, hz, hc⟩
          · exact .inl hsep
          · exact .inr ⟨z, List.mem_cons_of_mem x hz, hc⟩
      · simp

theorem join_append {sep : String} {xs ys : List String} (hxs : xs ≠ []) (hys : ys ≠ []) :
    join sep (xs ++ ys) = join sep xs ++ sep ++ join sep ys := by
  obtain ⟨y, more, rfl⟩ := List.exists_cons_of_ne_nil hys
  induction xs with
  | nil => exact absurd rfl hxs
  | cons x xs ih =>
    cases xs with
    | nil => rfl
    | cons x' xs =>
      have hrest := ih (by simp)
      simp only [List.cons_append, join] at hrest ⊢
      rw [hrest]
      simp only [String.append_assoc]

end Invocation.Text

namespace Invocation.Render

open Invocation.Text

/-! ## The lines of a script -/

section Script

variable {body : String}

/-- **Scripts one under the other** have the lines of the one and then those of the other. -/
theorem scriptLines_append (first rest : String) :
    scriptLines (first ++ "\n" ++ rest) = scriptLines first ++ scriptLines rest := by
  have hchars : (first ++ "\n" ++ rest).toList = first.toList ++ '\n' :: rest.toList := by simp
  unfold scriptLines lines
  rw [hchars]
  rcases lineChars_append_lineFeed first.toList rest.toList with hlines | hlines
  · simp only [hlines, List.map_append, List.filter_append]
  · have hempty : trim (String.ofList []) = "" := by decide
    simp [hlines, hempty]

theorem oneLine_of_mem_scriptLines {line : String} (h : line ∈ scriptLines body) : OneLine line := by
  obtain ⟨hmem, -⟩ := List.mem_filter.1 h
  obtain ⟨whole, hwhole, rfl⟩ := List.mem_map.1 hmem
  obtain ⟨cs, hcs, rfl⟩ := List.mem_map.1 hwhole
  intro c hc
  rw [trim, String.toList_ofList, String.toList_ofList] at hc
  exact (mem_of_mem_lineChars hcs (trimChars_subset cs hc)).2

theorem scriptLines_eq_nil_iff : scriptLines body = [] ↔ isAllBlank body = true := by
  constructor
  · intro hnil
    by_contra hsolid
    obtain ⟨c, hc, hblank⟩ := List.all_eq_false.1 (Bool.eq_false_iff.2 hsolid)
    exact scriptLines_ne_nil ⟨c, hc, by simpa using hblank⟩ hnil
  · intro hblank
    rw [List.eq_nil_iff_forall_not_mem]
    intro line hline
    obtain ⟨hmem, hne⟩ := List.mem_filter.1 hline
    obtain ⟨whole, hwhole, rfl⟩ := List.mem_map.1 hmem
    obtain ⟨cs, hcs, rfl⟩ := List.mem_map.1 hwhole
    obtain ⟨c, hc, hsolid⟩ := nonBlank_of_trim_ne (by simpa using hne)
    rw [String.toList_ofList] at hc
    have hall := List.all_eq_true.1 hblank c (mem_of_mem_lineChars hcs hc).1
    rw [hsolid] at hall
    cases hall

/-! ## Collapsed scripts -/

/-- There is no line break in a collapsed script. -/
theorem oneLine_collapse (body : String) : OneLine (collapse body) := by
  intro c hc
  rcases mem_join hc with hsep | ⟨line, hline, hmem⟩
  · exact (show OneLine "; " by decide) c hsep
  · exact oneLine_of_mem_scriptLines hline c hmem

theorem startsSolid_collapse (h : isAllBlank body = false) : StartsSolid (collapse body).toList := by
  have hne : scriptLines body ≠ [] := by
    rw [Ne, scriptLines_eq_nil_iff, h]
    decide
  obtain ⟨line, more, hlines⟩ := List.exists_cons_of_ne_nil hne
  have hline : line ∈ scriptLines body := by simp [hlines]
  obtain ⟨c, rest, hchars, hc⟩ := (solid_of_mem_scriptLines hline).1
  rw [collapse, hlines]
  cases more with
  | nil => exact ⟨c, rest, hchars, hc⟩
  | cons next more =>
    refine ⟨c, rest ++ ("; " ++ join "; " (next :: more)).toList, ?_, hc⟩
    simp [join, hchars]

theorem nonBlank_of_isAllBlank (h : isAllBlank body = false) : NonBlank body := by
  obtain ⟨c, hc, hsolid⟩ := List.all_eq_false.1 h
  exact ⟨c, hc, by simpa using hsolid⟩

theorem collapse_eq_empty_iff : collapse body = "" ↔ isAllBlank body = true := by
  constructor
  · intro hempty
    by_contra hsolid
    obtain ⟨c, rest, hchars, -⟩ := startsSolid_collapse (Bool.eq_false_iff.2 hsolid)
    rw [hempty] at hchars
    cases hchars
  · intro hblank
    rw [collapse, scriptLines_eq_nil_iff.2 hblank, join]

/-- There are no blanks at the ends of a collapsed script. -/
theorem trim_collapse (body : String) : trim (collapse body) = collapse body := by
  cases hblank : isAllBlank body with
  | true =>
    rw [collapse_eq_empty_iff.2 hblank]
    decide
  | false =>
    exact trim_of_solid (startsSolid_collapse hblank) (endsSolid_collapse (nonBlank_of_isAllBlank hblank))

/-- **A collapsed script stays as it is.** -/
theorem collapse_collapse (body : String) : collapse (collapse body) = collapse body := by
  cases hblank : isAllBlank body with
  | true =>
    rw [collapse_eq_empty_iff.2 hblank]
    exact collapse_eq_empty_iff.2 rfl
  | false =>
    obtain ⟨c, rest, hchars, hc⟩ := startsSolid_collapse hblank
    have hsolid : NonBlank (collapse body) := ⟨c, by simp [hchars], hc⟩
    rw [collapse_single (oneLine_collapse body) hsolid, trim_collapse]

/-- **Scripts one under the other** collapse to what they collapse to, the one after the other. -/
theorem collapse_append_lineFeed (first rest : String) :
    collapse (first ++ "\n" ++ rest) = join "; " ([collapse first, collapse rest].filter (· ≠ "")) := by
  have hempty (body : String) : collapse body = "" ↔ scriptLines body = [] := by
    rw [collapse_eq_empty_iff, scriptLines_eq_nil_iff]
  have hjoin (body : String) : join "; " (scriptLines body) = collapse body := rfl
  rw [← hjoin, scriptLines_append]
  by_cases hfirst : scriptLines first = []
  · rw [hfirst, List.nil_append, hjoin, (hempty first).2 hfirst]
    by_cases hrest : collapse rest = "" <;> simp [hrest, join]
  · have hne : collapse first ≠ "" := fun he => hfirst ((hempty first).1 he)
    by_cases hrest : scriptLines rest = []
    · rw [hrest, List.append_nil, hjoin, (hempty rest).2 hrest]
      simp [hne, join]
    · have hne' : collapse rest ≠ "" := fun he => hrest ((hempty rest).1 he)
      rw [join_append hfirst hrest, hjoin, hjoin]
      simp [hne, hne', join]

end Script

/-! ## Bases of commands -/

/-- The body of a command that is made is not blank. -/
theorem isAllBlank_of_executable {args : List Value} {body : String} {rest : List Value}
    (h : Command.executable? args = some (body, rest)) : isAllBlank body = false := by
  unfold Command.executable? at h
  split at h
  · cases h
  · cases h
  · split at h
    · cases h
    · next hblank =>
      cases h
      exact Bool.eq_false_iff.2 hblank

theorem executable?_text {body : String} (h : isAllBlank body = false) :
    Command.executable? [.text body] = some (body, []) := by
  simp [Command.executable?, Command.unpack, Value.toText, h]

/-- **Collapsing a script** gives a single line without blanks at its ends, which collapses to itself, and
nothing exactly for a script of blanks. Scripts one under the other collapse to what they collapse to,
without what is empty. So the base of a command that was made collapses to itself, and its first word
begins it. -/
theorem collapse_laws (first rest : String) :
    ((∀ c ∈ lineBreaks, c ∉ (collapse first).toList) ∧ trim (collapse first) = collapse first) ∧
    collapse (collapse first) = collapse first ∧
    collapse (first ++ "\n" ++ rest) = join "; " ([collapse first, collapse rest].filter (· ≠ "")) ∧
    (collapse first = "" ↔ isAllBlank first = true) ∧
    ∀ args options config scene, Created args options config scene →
      let base := scene.run.command.base
      base ≠ "" ∧ collapse base = base ∧
        firstWord base ≠ "" ∧ (firstWord base).toList <+: base.toList ∧
        ∀ c ∈ (firstWord base).toList, isBlank c = false := by
  refine ⟨⟨fun c hbreak hc => ?_, trim_collapse first⟩, collapse_collapse first,
    collapse_append_lineFeed first rest, collapse_eq_empty_iff, fun args options config scene h => ?_⟩
  · have hnone := oneLine_collapse first c hc
    rw [isLineBreak_iff.2 hbreak] at hnone
    cases hnone
  · obtain ⟨body, more, given, s, hexecutable, -, -, id, hcommand⟩ := h.cases
    have hblank := isAllBlank_of_executable hexecutable
    have hbase : scene.run.command.base = collapse body := by rw [hcommand]
    dsimp only
    rw [hbase]
    refine ⟨fun hempty => ?_, collapse_collapse body, firstWord_isPrefix (startsSolid_collapse hblank)⟩
    rw [collapse_eq_empty_iff, hblank] at hempty
    cases hempty

/-- The scene after a script of two lines was made a command with settings of its own. -/
def scripted : Scene where
  run := .ofCommand
    { id := ⟨0⟩, base := "cd /opt; ls -l", args := [], options := .none, verbosity := Verbosity.info,
      raises := true, config := some Settings.defaults }
  world :=
    { World.fresh ⟨"/home/u/settings.json", "/work"⟩ with
      made := 1
      log := [⟨Verbosity.debug, .created ⟨0⟩ "cd /opt; ls -l "⟩] }

theorem collapse_laws_scripted :
    Created [.text ("  cd /opt" ++ "\n" ++ " ls -l\t")] [] (some Settings.defaults) scripted ∧
      collapse "cd /opt; ls -l" = "cd /opt; ls -l" ∧ firstWord "cd /opt; ls -l" ≠ "" := by
  have hcollapse : collapse ("  cd /opt" ++ "\n" ++ " ls -l\t") = "cd /opt; ls -l" := by
    rw [collapse_append (by decide) (by decide) (by decide), collapse_single (by decide) (by decide),
      collapse_single (by decide) (by decide)]
    decide +kernel
  have hmade : Created [.text ("  cd /opt" ++ "\n" ++ " ls -l\t")] [] (some Settings.defaults) scripted := by
    have hblank : isAllBlank ("  cd /opt" ++ "\n" ++ " ls -l\t") = false := by decide +kernel
    refine ⟨rfl, .fresh ⟨"/home/u/settings.json", "/work"⟩, ?_⟩
    rw [Command.create, executable?_text hblank]
    dsimp only
    rw [hcollapse]
    rfl
  obtain ⟨-, hsame, hword, -⟩ := (collapse_laws "" "").2.2.2.2 _ _ _ _ hmade
  exact ⟨hmade, hsame, hword⟩

end Invocation.Render

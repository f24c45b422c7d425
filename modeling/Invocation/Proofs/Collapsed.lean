import Invocation.Proofs.Pieces
import Invocation.Render.Launcher
import Invocation.Render.Script

/-!
# Launching a collapsed script

A script is collapsed before it is launched, and launching reads the first word of the collapsed line.
Where the first line of the script is a single word, the semicolon after it has become a part of that word.
So the first line is launched as it is alone if its word ends inside of it (`Parted`), and else only if the
word with the semicolon starts like the word (`launched_collapse`). A builtin with no arguments does not.
-/

namespace Invocation.Text

/-! ## Lines -/

/-- The first line is followed by the lines of the rest. -/
theorem lineChars_append {first : List Char} (h : ∀ c ∈ first, isLineBreak c = false)
    (rest : List Char) : lineChars (first ++ '\n' :: rest) = first :: lineChars rest := by
  have hkept : ∀ c ∈ first, (!isLineBreak c) = true := fun c hc => by simp [h c hc]
  have hhead : headLine (first ++ '\n' :: rest) = first := by
    rw [headLine, List.takeWhile_append_of_pos hkept, List.takeWhile_cons_of_neg (by decide),
      List.append_nil]
  have hafter : afterBreak (first ++ '\n' :: rest) = rest := by
    rw [afterBreak, List.dropWhile_append_of_pos hkept, List.dropWhile_cons_of_neg (by decide)]
    rfl
  obtain ⟨c, cs, hcs⟩ : ∃ c cs, first ++ '\n' :: rest = c :: cs := by
    cases first <;> exact ⟨_, _, rfl⟩
  rw [hcs] at hhead hafter ⊢
  rw [lineChars, hhead, hafter]

theorem lineChars_single {c : Char} {rest : List Char}
    (h : ∀ d ∈ c :: rest, isLineBreak d = false) : lineChars (c :: rest) = [c :: rest] := by
  have hkept : ∀ d ∈ c :: rest, (!isLineBreak d) = true := fun d hd => by simp [h d hd]
  have hhead : headLine (c :: rest) = c :: rest := List.takeWhile_eq_self_iff.2 hkept
  have hafter : afterBreak (c :: rest) = [] := by
    rw [afterBreak, List.dropWhile_eq_nil_iff.2 hkept]
  rw [lineChars, hhead, hafter, lineChars]

/-- A character that is no line break stands in some line. -/
theorem exists_mem_lineChars {cs : List Char} {c : Char} (h : c ∈ cs) (hc : isLineBreak c = false) :
    ∃ line ∈ lineChars cs, c ∈ line := by
  fun_induction lineChars cs with
  | case1 => cases h
  | case2 d rest ih =>
    have hcut := List.takeWhile_append_dropWhile (p := fun c => !isLineBreak c) (l := d :: rest)
    rw [← hcut] at h
    rcases List.mem_append.1 h with hhead | htail
    · exact ⟨_, List.mem_cons_self, hhead⟩
    · have hafter : c ∈ afterBreak (d :: rest) := by
        unfold afterBreak
        split
        · next more hdrop =>
          rw [hdrop] at htail
          rcases List.mem_cons.1 htail with rfl | htail
          · cases hc
          · rcases List.mem_cons.1 htail with rfl | htail
            · cases hc
            · exact htail
        · next b more _ hdrop =>
          rw [hdrop] at htail
          rcases List.mem_cons.1 htail with rfl | htail
          · have hb := List.head_dropWhile_not (fun c => !isLineBreak c) (l := d :: rest)
              (by rw [hdrop]; simp)
            simp only [hdrop, List.head_cons, hc] at hb
            cases hb
          · exact htail
        · next hdrop =>
          rw [hdrop] at htail
          cases htail
      obtain ⟨line, hline, hmem⟩ := ih hafter
      exact ⟨line, List.mem_cons_of_mem _ hline, hmem⟩

/-! ## First words and cuts -/

/-- A first word with a blank after it does not depend on what follows. -/
theorem firstWordChars_append {cs : List Char} (hstart : StartsSolid cs)
    (hblank : ∃ c ∈ cs, isBlank c = true) (more : List Char) :
    firstWordChars (cs ++ more) = firstWordChars cs := by
  have hmore : StartsSolid (cs ++ more) := by
    obtain ⟨c, rest, rfl, hc⟩ := hstart
    exact ⟨c, rest ++ more, rfl, hc⟩
  rw [firstWordChars, firstWordChars, trimStartChars_of_startsSolid hmore,
    trimStartChars_of_startsSolid hstart, List.takeWhile_append, if_neg]
  intro hlength
  obtain ⟨c, hc, hblank⟩ := hblank
  have hall := (List.takeWhile_prefix fun c => !isBlank c).eq_of_length hlength
  have hsolid := List.takeWhile_eq_self_iff.1 hall c hc
  rw [hblank] at hsolid
  cases hsolid

theorem firstWordChars_of_blank {cs : List Char} (hstart : StartsSolid cs)
    (hsolid : ∀ c ∈ cs, isBlank c = false) {c : Char} (hc : isBlank c = true) (more : List Char) :
    firstWordChars (cs ++ c :: more) = cs := by
  have hmore : StartsSolid (cs ++ c :: more) := by
    obtain ⟨d, rest, rfl, hd⟩ := hstart
    exact ⟨d, rest ++ c :: more, rfl, hd⟩
  rw [firstWordChars, trimStartChars_of_startsSolid hmore,
    List.takeWhile_append_of_pos (fun d hd => by simp [hsolid d hd]),
    List.takeWhile_cons_of_neg (by simp [hc]), List.append_nil]

/-! ## Texts -/

/-- There is no line break in a text. -/
def OneLine (s : String) : Prop :=
  ∀ c ∈ s.toList, isLineBreak c = false

/-- There is something but blanks in a text. -/
def NonBlank (s : String) : Prop :=
  ∃ c ∈ s.toList, isBlank c = false

instance : DecidablePred OneLine :=
  fun s => List.decidableBAll _ s.toList

instance : DecidablePred NonBlank :=
  fun s => List.decidableBEx _ s.toList

end Invocation.Text

namespace Invocation.Render

open Invocation.Entries Invocation.Text

/-! ## Collapsing a first line -/

section Script

variable {first rest : String}

theorem lines_single (hbreak : OneLine first) (hne : first ≠ "") :
    lines first = [first] := by
  obtain ⟨c, cs, hcs⟩ : ∃ c cs, first.toList = c :: cs := by
    cases hchars : first.toList with
    | nil => exact absurd (String.toList_eq_nil_iff.1 hchars) hne
    | cons c cs => exact ⟨c, cs, rfl⟩
  rw [OneLine, hcs] at hbreak
  rw [lines, hcs, lineChars_single hbreak, ← hcs]
  simp

theorem lines_append (hbreak : OneLine first) (rest : String) :
    lines (first ++ "\n" ++ rest) = first :: lines rest := by
  have hchars : (first ++ "\n" ++ rest).toList = first.toList ++ '\n' :: rest.toList := by simp
  rw [lines, hchars, lineChars_append hbreak, List.map_cons, String.ofList_toList, lines]

theorem nonBlank_of_trim_ne {s : String} (h : trim s ≠ "") : NonBlank s := by
  by_contra hnone
  refine h ?_
  have hblank : ∀ c ∈ s.toList, isBlank c = true := by
    intro c hc
    by_contra hsolid
    exact hnone ⟨c, hc, Bool.eq_false_iff.2 hsolid⟩
  rw [trim, trimChars_of_blank hblank]

theorem trim_ne {s : String} (h : NonBlank s) : trim s ≠ "" := by
  obtain ⟨c, hc, hsolid⟩ := h
  obtain ⟨-, front, d, hchars, -⟩ := solid_trimChars hc hsolid
  intro he
  have hnil := congrArg String.toList he
  rw [trim, String.toList_ofList, hchars] at hnil
  simp at hnil

theorem solid_of_mem_scriptLines {body line : String} (h : line ∈ scriptLines body) :
    StartsSolid line.toList ∧ EndsSolid line.toList := by
  obtain ⟨hmem, hne⟩ := List.mem_filter.1 h
  obtain ⟨whole, -, rfl⟩ := List.mem_map.1 hmem
  obtain ⟨c, hc, hsolid⟩ := nonBlank_of_trim_ne (by simpa using hne)
  rw [trim, String.toList_ofList]
  exact solid_trimChars hc hsolid

theorem scriptLines_ne_nil (h : NonBlank rest) : scriptLines rest ≠ [] := by
  obtain ⟨c, hc, hsolid⟩ := h
  have hbreak : isLineBreak c = false := by
    by_contra hbreak
    rw [isBlank_of_isLineBreak (by simpa using hbreak)] at hsolid
    cases hsolid
  obtain ⟨line, hline, hmem⟩ := exists_mem_lineChars hc hbreak
  have htrim : trim (String.ofList line) ≠ "" := trim_ne ⟨c, by simpa using hmem, hsolid⟩
  have hkept : trim (String.ofList line) ∈ scriptLines rest :=
    List.mem_filter.2 ⟨List.mem_map_of_mem (List.mem_map_of_mem hline), by simpa using htrim⟩
  exact List.ne_nil_of_mem hkept

/-- A collapsed script ends with no blank, if there is anything in it. -/
theorem endsSolid_collapse (h : NonBlank rest) : EndsSolid (collapse rest).toList := by
  have hlines : ∀ line ∈ scriptLines rest, EndsSolid line.toList :=
    fun line hline => (solid_of_mem_scriptLines hline).2
  have hne := scriptLines_ne_nil h
  unfold collapse
  generalize scriptLines rest = kept at hlines hne
  induction kept with
  | nil => exact absurd rfl hne
  | cons line more ih =>
    cases more with
    | nil => exact hlines line List.mem_cons_self
    | cons next more =>
      have hrest := ih (fun other hother => hlines other (List.mem_cons_of_mem _ hother)) (by simp)
      rw [join, String.toList_append]
      · exact hrest.append _
      · simp

theorem collapse_single (hbreak : OneLine first) (hsolid : NonBlank first) :
    collapse first = trim first := by
  have hne : first ≠ "" := by
    rintro rfl
    obtain ⟨c, hc, -⟩ := hsolid
    simp at hc
  rw [collapse, scriptLines, lines_single hbreak hne, List.map_singleton,
    List.filter_cons_of_pos (by simpa using trim_ne hsolid)]
  rfl

theorem collapse_append (hbreak : OneLine first) (hfirst : NonBlank first) (hrest : NonBlank rest) :
    collapse (first ++ "\n" ++ rest) = collapse first ++ "; " ++ collapse rest := by
  have hlines : scriptLines (first ++ "\n" ++ rest) = trim first :: scriptLines rest := by
    rw [scriptLines, lines_append hbreak, List.map_cons,
      List.filter_cons_of_pos (by simpa using trim_ne hfirst), scriptLines]
  rw [collapse_single hbreak hfirst, collapse, hlines]
  obtain ⟨line, more, hmore⟩ := List.exists_cons_of_ne_nil (scriptLines_ne_nil hrest)
  rw [collapse, hmore]
  rfl

end Script

/-! ## Launching a line with more after it -/

/-- The first word ends inside of the line: there is a space in it, or it begins with a builtin and there
is some blank in it. -/
def Parted (line : String) : Prop :=
  ' ' ∈ line.toList ∨ isBuiltin line = true ∧ ∃ c ∈ line.toList, isBlank c = true

instance : DecidablePred Parted :=
  fun line =>
    have : Decidable (∃ c ∈ line.toList, isBlank c = true) := List.decidableBEx _ line.toList
    inferInstanceAs (Decidable (_ ∨ _ ∧ _))

/-- What an executable that ends at a space is started with. -/
def startOf (map : Entries String) (word : String) : String :=
  (map.get? word).getD (launcher ++ " " ++ word)

section Launch

variable {line more : String}

theorem mapped?_of_space (map : Entries String) {word rest base : String} (hword : ' ' ∉ word.toList)
    (hrest : EndsSolid rest.toList) (hbase : base = word ++ " " ++ rest) :
    mapped? map base = (map.get? word).map (· ++ " " ++ rest) := by
  have hchars : base.toList = word.toList ++ ' ' :: rest.toList := by simp [hbase]
  have hcut : cut ' ' base = (word, some rest) := by
    rw [cut, hchars, cutChars_append hword]
    simp
  have htrim : ∀ value : String, trimEnd (value ++ " " ++ rest) = value ++ " " ++ rest := by
    intro value
    have hends : EndsSolid (value ++ " " ++ rest).toList := by
      rw [String.toList_append]
      exact hrest.append _
    rw [trimEnd, trimEndChars_of_endsSolid hends, String.ofList_toList]
  rw [mapped?, hcut]
  simp only [Option.getD_some, htrim]

theorem isBuiltin_append (hstart : StartsSolid line.toList) (hblank : ∃ c ∈ line.toList, isBlank c = true)
    (more : String) : isBuiltin (line ++ more) = isBuiltin line := by
  rw [isBuiltin, isBuiltin, firstWord, firstWord, String.toList_append,
    firstWordChars_append hstart hblank]

/-- A line that is no builtin's starts as its word before the first space does. -/
theorem launched_of_space (map : Entries String) {word rest : String} (hword : ' ' ∉ word.toList)
    (hrest : EndsSolid rest.toList) (hplain : isBuiltin (word ++ " " ++ rest) = false) :
    launched map (word ++ " " ++ rest) [] = startOf map word ++ " " ++ rest := by
  rw [launched, if_neg (by simp [hplain]), mapped?_of_space map hword hrest rfl, startOf]
  cases map.get? word with
  | none => simp [join, String.append_assoc]
  | some value => rfl

theorem launched_of_builtin (map : Entries String) {base : String} (h : isBuiltin base = true) :
    launched map base [] = base := by
  rw [launched, if_pos h, join]

/-- Where the first word ends inside of a line, it does not matter for launching what follows the line. -/
theorem launched_append_of_parted (map : Entries String) (hstart : StartsSolid line.toList)
    (hend : EndsSolid line.toList) (hmore : EndsSolid more.toList) (h : Parted line) :
    launched map (line ++ more) [] = launched map line [] ++ more := by
  have hblank : ∃ c ∈ line.toList, isBlank c = true := by
    rcases h with hspace | ⟨-, hblank⟩
    · exact ⟨' ', hspace, by decide⟩
    · exact hblank
  have hsame := isBuiltin_append hstart hblank more
  cases hbuiltin : isBuiltin line with
  | true =>
    rw [launched_of_builtin map hbuiltin, launched_of_builtin map (hsame.trans hbuiltin)]
  | false =>
    have hspace : ' ' ∈ line.toList := by
      rcases h with hspace | ⟨hown, -⟩
      · exact hspace
      · rw [hbuiltin] at hown
        cases hown
    obtain ⟨word, after, hchars, hword⟩ := List.eq_append_cons_of_mem hspace
    have hafter : EndsSolid after := by
      rw [hchars] at hend
      exact hend.of_append (by decide)
    have hline : line = String.ofList word ++ " " ++ String.ofList after := by
      apply String.toList_inj.1
      simp [hchars]
    have hlonger : line ++ more = String.ofList word ++ " " ++ (String.ofList after ++ more) := by
      rw [hline, String.append_assoc]
    rw [hlonger] at hsame ⊢
    rw [hline] at hbuiltin hsame ⊢
    rw [launched_of_space map (by simpa using hword) (by simpa using hmore.append after)
      (hsame.trans hbuiltin), launched_of_space map (by simpa using hword) (by simpa using hafter) hbuiltin,
      ← String.append_assoc]

theorem append_separator (line : String) : line ++ "; " = line ++ ";" ++ " " :=
  String.toList_inj.1 (by simp)

/-- No builtin ends with a semicolon. -/
theorem append_semicolon_notMem_builtins (word : String) : word ++ ";" ∉ builtins := by
  intro hmem
  have hlast : ∀ own ∈ builtins, own.toList.getLast? ≠ some ';' := by decide
  exact hlast _ hmem (by simp)

/-- A line that is one word takes a semicolon into the word. -/
theorem launched_append_of_not_parted (map : Entries String) (hstart : StartsSolid line.toList)
    (hmore : EndsSolid more.toList) (h : ¬Parted line) :
    launched map (line ++ "; " ++ more) [] = startOf map (line ++ ";") ++ " " ++ more := by
  have hword : ' ' ∉ (line ++ ";").toList := by
    intro hmem
    rw [String.toList_append, List.mem_append] at hmem
    rcases hmem with hmem | hmem
    · exact h (.inl hmem)
    · revert hmem
      decide
  have hplain : isBuiltin (line ++ ";" ++ " " ++ more) = false := by
    by_cases hblank : ∃ c ∈ line.toList, isBlank c = true
    · rw [String.append_assoc, String.append_assoc, isBuiltin_append hstart hblank]
      by_contra hown
      exact h (.inr ⟨by simpa using hown, hblank⟩)
    · have hsolid : ∀ c ∈ line.toList ++ [';'], isBlank c = false := by
        intro c hc
        rcases List.mem_append.1 hc with hc | hc
        · exact Bool.eq_false_iff.2 fun hb => hblank ⟨c, hc, hb⟩
        · rw [List.mem_singleton.1 hc]
          decide
      have hlong : StartsSolid (line.toList ++ [';']) := by
        obtain ⟨c, rest, hchars, hc⟩ := hstart
        exact ⟨c, rest ++ [';'], by rw [hchars, List.cons_append], hc⟩
      have hfirst : firstWord (line ++ ";" ++ " " ++ more) = line ++ ";" := by
        have hchars : (line ++ ";" ++ " " ++ more).toList = line.toList ++ [';'] ++ ' ' :: more.toList := by
          simp
        rw [firstWord, hchars, firstWordChars_of_blank hlong hsolid (by decide)]
        simp
      rw [isBuiltin, hfirst]
      exact decide_eq_false (append_semicolon_notMem_builtins line)
  rw [append_separator, launched_of_space map hword hmore hplain]

end Launch

/-! ## Launching a collapsed script -/

/-- A script whose first line `first` is collapsed to a line that is parted is launched as the first line
is, with the rest after it. One whose first line is a single word is started by that word with the semicolon
in it. So the first line is launched as it is alone exactly if it is parted, or the word with the semicolon
starts like the word. -/
theorem launched_collapse (map : Entries String) (first rest : String)
    (hbreak : OneLine first) (hfirst : NonBlank first) (hrest : NonBlank rest) :
    let alone := launched map (collapse first) []
    let whole := launched map (collapse (first ++ "\n" ++ rest)) []
    (Parted (collapse first) → whole = alone ++ "; " ++ collapse rest) ∧
      (¬Parted (collapse first) → whole = startOf map (collapse first ++ ";") ++ " " ++ collapse rest) ∧
      (whole = alone ++ "; " ++ collapse rest ↔
        Parted (collapse first) ∨ startOf map (collapse first ++ ";") = alone ++ ";") := by
  intro alone whole
  have hsolid : StartsSolid (collapse first).toList ∧ EndsSolid (collapse first).toList := by
    obtain ⟨c, hc, hblank⟩ := hfirst
    rw [collapse_single hbreak ⟨c, hc, hblank⟩, trim, String.toList_ofList]
    exact solid_trimChars hc hblank
  have hmore := endsSolid_collapse hrest
  have hwhole : whole = launched map (collapse first ++ "; " ++ collapse rest) [] :=
    congrArg (launched map · []) (collapse_append hbreak hfirst hrest)
  have hparted : Parted (collapse first) → whole = alone ++ "; " ++ collapse rest := by
    intro h
    rw [hwhole, String.append_assoc, launched_append_of_parted map hsolid.1 hsolid.2 _ h,
      ← String.append_assoc]
    rw [String.toList_append]
    exact hmore.append _
  have hword : ¬Parted (collapse first) →
      whole = startOf map (collapse first ++ ";") ++ " " ++ collapse rest := by
    intro h
    rw [hwhole, launched_append_of_not_parted map hsolid.1 hmore h]
  refine ⟨hparted, hword, ?_⟩
  by_cases h : Parted (collapse first)
  · exact ⟨fun _ => .inl h, fun _ => hparted h⟩
  · rw [hword h, append_separator, String.append_left_inj, String.append_left_inj]
    exact ⟨fun he => .inr he, fun hor => hor.resolve_left h⟩

theorem launched_collapse_listing :
    launched [("ls", "exa")] (collapse ("ls -l" ++ "\n" ++ "  pwd")) [] = "exa -l; pwd" := by
  have hfirst : collapse "ls -l" = "ls -l" :=
    (collapse_single (by decide) (by decide)).trans (by decide +kernel)
  have hrest : collapse "  pwd" = "pwd" :=
    (collapse_single (by decide) (by decide)).trans (by decide +kernel)
  have hlisting := (launched_collapse [("ls", "exa")] "ls -l" "  pwd" (by decide) (by decide)
    (by decide)).1 (by rw [hfirst]; decide)
  rw [hlisting, hfirst, hrest]
  decide +kernel

/-- A builtin that is the whole first line is given the launcher. -/
theorem launched_collapse_exit :
    ¬launched [] (collapse ("exit" ++ "\n" ++ "echo hi")) [] =
      launched [] (collapse "exit") [] ++ "; " ++ collapse "echo hi" := by
  rw [collapse_append (by decide) (by decide) (by decide), collapse_single (by decide) (by decide),
    collapse_single (by decide) (by decide)]
  decide +kernel

end Invocation.Render

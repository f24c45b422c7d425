import Mathlib.Data.List.DropRight
import Invocation.Text.Split

/-!
# Trimming and cutting

Trimming leaves a text that begins and ends with no blank (`solid_trimChars`), and blanks at the ends of a
text do not count for what it leaves (`trimChars_append`). A separator
ends a piece, and any other character belongs to the first piece of what follows it (`pieceChars_cons`). So
blanks at the ends of a text are blanks at the ends of its first and its last piece, and the trimmed pieces
of a text are those of the trimmed text (`map_trim_pieces`).
-/

namespace Invocation.Text

/-! ## Trimming -/

/-- The first character is no blank. -/
def StartsSolid (cs : List Char) : Prop :=
  ∃ c rest, cs = c :: rest ∧ isBlank c = false

/-- The last character is no blank. -/
def EndsSolid (cs : List Char) : Prop :=
  ∃ front c, cs = front ++ [c] ∧ isBlank c = false

theorem EndsSolid.append {ys : List Char} (h : EndsSolid ys) (xs : List Char) :
    EndsSolid (xs ++ ys) := by
  obtain ⟨front, c, rfl, hc⟩ := h
  exact ⟨xs ++ front, c, (List.append_assoc ..).symm, hc⟩

/-- The last character stands after every blank. -/
theorem EndsSolid.of_cons {c : Char} {rest : List Char} (h : EndsSolid (c :: rest))
    (hc : isBlank c = true) : EndsSolid rest := by
  obtain ⟨front, d, heq, hd⟩ := h
  cases front with
  | nil =>
    obtain ⟨rfl, -⟩ := List.cons.inj heq
    rw [hc] at hd
    cases hd
  | cons _ front => exact ⟨front, d, (List.cons.inj heq).2, hd⟩

theorem EndsSolid.of_append {xs ys : List Char} {c : Char} (h : EndsSolid (xs ++ c :: ys))
    (hc : isBlank c = true) : EndsSolid ys := by
  induction xs with
  | nil => exact h.of_cons hc
  | cons x xs ih =>
    obtain ⟨front, d, heq, hd⟩ := h
    cases front with
    | nil => simp at heq
    | cons _ front => exact ih ⟨front, d, (List.cons.inj heq).2, hd⟩

theorem endsSolid_append_singleton {xs : List Char} {c : Char} :
    EndsSolid (xs ++ [c]) ↔ isBlank c = false := by
  constructor
  · rintro ⟨front, d, he, hd⟩
    obtain ⟨-, hc⟩ := List.append_inj' he rfl
    rwa [(List.cons.inj hc).1]
  · exact fun hc => ⟨xs, c, rfl, hc⟩

theorem endsSolid_of_append {xs ys : List Char} (h : EndsSolid (xs ++ ys)) (hne : ys ≠ []) : EndsSolid ys := by
  obtain ⟨front, c, rfl⟩ := (List.eq_nil_or_concat' ys).resolve_left hne
  rw [← List.append_assoc, endsSolid_append_singleton] at h
  exact endsSolid_append_singleton.2 h

theorem trimEndChars_subset (cs : List Char) : trimEndChars cs ⊆ cs :=
  (List.rdropWhile_prefix isBlank cs).subset

theorem trimStartChars_of_startsSolid {cs : List Char} (h : StartsSolid cs) : trimStartChars cs = cs := by
  obtain ⟨c, rest, rfl, hc⟩ := h
  exact List.dropWhile_cons_of_neg (by simp [hc])

theorem trimEndChars_of_endsSolid {cs : List Char} (h : EndsSolid cs) : trimEndChars cs = cs := by
  obtain ⟨front, c, rfl, hc⟩ := h
  exact List.rdropWhile_concat_neg isBlank front c (by simp [hc])

/-- What is left of characters that are trimmed begins and ends with no blank. -/
theorem solid_trimChars {cs : List Char} {c : Char} (h : c ∈ cs) (hc : isBlank c = false) :
    StartsSolid (trimChars cs) ∧ EndsSolid (trimChars cs) := by
  have hstart : trimStartChars cs ≠ [] := by
    intro hnil
    have hblank := List.dropWhile_eq_nil_iff.1 hnil c h
    rw [hc] at hblank
    cases hblank
  have hfirst := List.head_dropWhile_not isBlank hstart
  obtain ⟨d, rest, hd⟩ := List.exists_cons_of_ne_nil hstart
  have hsolid : isBlank d = false := by
    change isBlank ((trimStartChars cs).head hstart) = false at hfirst
    simpa only [hd, List.head_cons] using hfirst
  have htrim : trimChars cs = (d :: rest).rdropWhile isBlank := by
    rw [trimChars, hd]
    rfl
  have hne : (d :: rest).rdropWhile isBlank ≠ [] := by
    intro hnil
    have hblank := List.rdropWhile_eq_nil_iff.1 hnil d List.mem_cons_self
    rw [hsolid] at hblank
    cases hblank
  rw [htrim]
  constructor
  · obtain ⟨e, more, he⟩ := List.exists_cons_of_ne_nil hne
    obtain ⟨after, hafter⟩ := List.rdropWhile_prefix isBlank (d :: rest)
    rw [he] at hafter ⊢
    exact ⟨e, more, rfl, (List.cons.inj hafter).1 ▸ hsolid⟩
  · have hlast := List.rdropWhile_last_not isBlank _ hne
    exact ⟨_, _, (List.dropLast_concat_getLast hne).symm, Bool.eq_false_iff.2 hlast⟩

theorem notMem_of_blank {c : Char} (hc : isBlank c = false) {blanks : List Char}
    (h : ∀ d ∈ blanks, isBlank d = true) : c ∉ blanks := by
  intro hmem
  rw [h c hmem] at hc
  cases hc

theorem trimChars_of_blank {cs : List Char} (h : ∀ c ∈ cs, isBlank c = true) : trimChars cs = [] := by
  rw [trimChars, trimStartChars, List.dropWhile_eq_nil_iff.2 h]
  rfl

/-- Blanks stand after what is left of a text whose end is trimmed. -/
theorem exists_blanks (cs : List Char) :
    ∃ blanks, cs = trimEndChars cs ++ blanks ∧ ∀ c ∈ blanks, isBlank c = true := by
  refine ⟨(cs.reverse.takeWhile isBlank).reverse, ?_, ?_⟩
  · rw [trimEndChars, ← List.reverse_append, List.takeWhile_append_dropWhile, List.reverse_reverse]
  · intro c hc
    exact List.mem_takeWhile_imp (List.mem_reverse.1 hc)

theorem trimEndChars_append_of_blank {xs ys : List Char} (h : ∀ c ∈ ys, isBlank c = true) :
    trimEndChars (xs ++ ys) = trimEndChars xs := by
  have hnil : ys.reverse.dropWhile isBlank = [] :=
    List.dropWhile_eq_nil_iff.2 fun c hc => h c (List.mem_reverse.1 hc)
  rw [trimEndChars, List.reverse_append, List.dropWhile_append, hnil]
  rfl

theorem trimEndChars_append {ys : List Char} (h : trimEndChars ys ≠ []) (xs : List Char) :
    trimEndChars (xs ++ ys) = xs ++ trimEndChars ys := by
  have hne : (ys.reverse.dropWhile isBlank).isEmpty = false := by
    rw [List.isEmpty_eq_false_iff]
    exact fun hnil => h (by rw [trimEndChars, hnil, List.reverse_nil])
  rw [trimEndChars, List.reverse_append, List.dropWhile_append, hne]
  simp [trimEndChars]

theorem blank_of_trimEndChars_eq_nil {cs : List Char} (h : trimEndChars cs = []) :
    ∀ c ∈ cs, isBlank c = true :=
  List.rdropWhile_eq_nil_iff.1 h

theorem trimChars_append_left {before : List Char} (h : ∀ c ∈ before, isBlank c = true) (cs : List Char) :
    trimChars (before ++ cs) = trimChars cs := by
  rw [trimChars, trimStartChars, List.dropWhile_append_of_pos h]
  rfl

theorem trimChars_append_right {after : List Char} (h : ∀ c ∈ after, isBlank c = true) (cs : List Char) :
    trimChars (cs ++ after) = trimChars cs := by
  unfold trimChars trimStartChars
  rw [List.dropWhile_append]
  split
  · next hnil =>
    rw [List.dropWhile_eq_nil_iff.2 h, List.isEmpty_iff.1 hnil]
  · exact trimEndChars_append_of_blank h

theorem trimChars_append {before after : List Char} (hbefore : ∀ c ∈ before, isBlank c = true)
    (hafter : ∀ c ∈ after, isBlank c = true) (cs : List Char) :
    trimChars (before ++ cs ++ after) = trimChars cs := by
  rw [trimChars_append_right hafter, trimChars_append_left hbefore]

/-- Blanks stand around what is left of a text that is trimmed. -/
theorem exists_trimmed (cs : List Char) :
    ∃ before after, cs = before ++ trimChars cs ++ after ∧ (∀ c ∈ before, isBlank c = true) ∧
      ∀ c ∈ after, isBlank c = true := by
  obtain ⟨after, hstart, hafter⟩ := exists_blanks (trimStartChars cs)
  refine ⟨cs.takeWhile isBlank, after, ?_, ?_, hafter⟩
  · rw [List.append_assoc, trimChars, ← hstart, trimStartChars, List.takeWhile_append_dropWhile]
  · intro c hc
    exact List.mem_takeWhile_imp hc

theorem trimChars_trimChars (cs : List Char) : trimChars (trimChars cs) = trimChars cs := by
  obtain ⟨before, after, hcs, hbefore, hafter⟩ := exists_trimmed cs
  have htrim := trimChars_append hbefore hafter (trimChars cs)
  rw [← hcs] at htrim
  exact htrim.symm

theorem trim_trim (s : String) : trim (trim s) = trim s := by
  rw [trim, trim, String.toList_ofList, trimChars_trimChars]

theorem trim_eq_empty_iff {s : String} : trim s = "" ↔ isAllBlank s = true := by
  rw [isAllBlank, List.all_eq_true, ← String.toList_eq_nil_iff, trim, String.toList_ofList]
  constructor
  · intro hnil
    obtain ⟨before, after, hcs, hbefore, hafter⟩ := exists_trimmed s.toList
    rw [hnil, List.append_nil] at hcs
    rw [hcs]
    intro c hc
    rcases List.mem_append.1 hc with hc | hc
    · exact hbefore c hc
    · exact hafter c hc
  · exact trimChars_of_blank

theorem notMem_of_isAllBlank {c : Char} (hc : isBlank c = false) {blanks : String}
    (h : isAllBlank blanks = true) : c ∉ blanks.toList :=
  notMem_of_blank hc (List.all_eq_true.1 h)

/-- A text that trimming leaves alone has no blank at its ends. -/
theorem solid_of_trim {s : String} (h : trim s = s) (hne : s ≠ "") :
    StartsSolid s.toList ∧ EndsSolid s.toList := by
  have hchars : trimChars s.toList = s.toList := by
    rw [← String.toList_ofList (l := trimChars s.toList)]
    exact congrArg String.toList h
  have hsolid : ∃ c ∈ s.toList, isBlank c = false := by
    by_contra hnone
    push Not at hnone
    rw [trimChars_of_blank fun c hc => by simpa using hnone c hc] at hchars
    exact hne (String.toList_eq_nil_iff.1 hchars.symm)
  obtain ⟨c, hc, hblank⟩ := hsolid
  have hends := solid_trimChars hc hblank
  rwa [hchars] at hends

/-- Blanks stand around what is left of a text that is trimmed. -/
theorem exists_trimmed_text (s : String) :
    ∃ before after, s = before ++ trim s ++ after ∧ isAllBlank before = true ∧ isAllBlank after = true := by
  obtain ⟨before, after, hchars, hbefore, hafter⟩ := exists_trimmed s.toList
  refine ⟨String.ofList before, String.ofList after, ?_, ?_, ?_⟩
  · apply String.toList_inj.1
    simpa [trim] using hchars
  · simpa [isAllBlank] using hbefore
  · simpa [isAllBlank] using hafter

theorem trim_append_left {before : String} (h : isAllBlank before = true) (s : String) :
    trim (before ++ s) = trim s := by
  rw [trim, trim, String.toList_append, trimChars_append_left (List.all_eq_true.1 h)]

theorem trim_append_right {after : String} (h : isAllBlank after = true) (s : String) :
    trim (s ++ after) = trim s := by
  rw [trim, trim, String.toList_append, trimChars_append_right (List.all_eq_true.1 h)]

theorem trim_append {before after : String} (hbefore : isAllBlank before = true)
    (hafter : isAllBlank after = true) (s : String) : trim (before ++ s ++ after) = trim s := by
  rw [trim_append_right hafter, trim_append_left hbefore]

/-! ## Cutting -/

theorem cutChars_append_of_notMem {sep : Char} {xs : List Char} (h : sep ∉ xs) (ys : List Char) :
    cutChars sep (xs ++ ys) = (xs ++ (cutChars sep ys).1, (cutChars sep ys).2) := by
  induction xs with
  | nil => rfl
  | cons x xs ih =>
    rw [List.mem_cons, not_or] at h
    rw [List.cons_append, cutChars, if_neg (Ne.symm h.1), ih h.2]
    rfl

theorem cutChars_append {sep : Char} {before : List Char} (h : sep ∉ before) (after : List Char) :
    cutChars sep (before ++ sep :: after) = (before, some after) := by
  rw [cutChars_append_of_notMem h, cutChars, if_pos rfl, List.append_nil]

/-! ## Pieces -/

section Pieces

variable {sep c : Char} {cs : List Char}

theorem pieceChars_sep : pieceChars sep (sep :: cs) = [] :: pieceChars sep cs := by
  rw [pieceChars, if_pos rfl]

theorem pieceChars_ne_nil (sep : Char) (cs : List Char) : pieceChars sep cs ≠ [] := by
  cases cs with
  | nil => exact List.cons_ne_nil _ _
  | cons c cs =>
    rw [pieceChars]
    split
    · exact List.cons_ne_nil _ _
    · split <;> exact List.cons_ne_nil _ _

/-- A character that is no separator is added to the first piece. -/
theorem pieceChars_cons (h : c ≠ sep) (cs : List Char) :
    ∃ piece pieces, pieceChars sep cs = piece :: pieces ∧
      pieceChars sep (c :: cs) = (c :: piece) :: pieces := by
  obtain ⟨piece, pieces, hpieces⟩ := List.exists_cons_of_ne_nil (pieceChars_ne_nil sep cs)
  refine ⟨piece, pieces, hpieces, ?_⟩
  rw [pieceChars, if_neg h, hpieces]

theorem mem_of_mem_pieceChars {piece : List Char} (h : piece ∈ pieceChars sep cs) (hc : c ∈ piece) :
    c ∈ cs ∧ c ≠ sep := by
  induction cs generalizing piece with
  | nil =>
    obtain rfl := List.mem_singleton.1 h
    cases hc
  | cons d cs ih =>
    by_cases hd : d = sep
    · subst hd
      rw [pieceChars_sep] at h
      rcases List.mem_cons.1 h with rfl | h
      · cases hc
      · exact (ih h hc).imp_left (List.mem_cons_of_mem d)
    · obtain ⟨first, pieces, hpieces, hcons⟩ := pieceChars_cons hd cs
      rw [hpieces] at ih
      rw [hcons] at h
      rcases List.mem_cons.1 h with rfl | h
      · rcases List.mem_cons.1 hc with rfl | hc
        · exact ⟨List.mem_cons_self, hd⟩
        · exact (ih List.mem_cons_self hc).imp_left (List.mem_cons_of_mem d)
      · exact (ih (List.mem_cons_of_mem first h) hc).imp_left (List.mem_cons_of_mem d)

theorem pieceChars_append (h : sep ∉ cs) (rest : List Char) :
    pieceChars sep (cs ++ sep :: rest) = cs :: pieceChars sep rest := by
  induction cs with
  | nil => exact pieceChars_sep
  | cons c cs ih =>
    rw [List.mem_cons, not_or] at h
    obtain ⟨piece, pieces, hpieces, hcons⟩ := pieceChars_cons (Ne.symm h.1) (cs ++ sep :: rest)
    rw [ih h.2] at hpieces
    obtain ⟨rfl, rfl⟩ := List.cons.inj hpieces
    exact hcons

theorem pieceChars_single (h : sep ∉ cs) : pieceChars sep cs = [cs] := by
  induction cs with
  | nil => rfl
  | cons c cs ih =>
    rw [List.mem_cons, not_or] at h
    obtain ⟨piece, pieces, hpieces, hcons⟩ := pieceChars_cons (Ne.symm h.1) cs
    rw [ih h.2] at hpieces
    obtain ⟨rfl, rfl⟩ := List.cons.inj hpieces
    exact hcons

theorem pieceChars_append_left {first : List Char} {pieces : List (List Char)} (h : sep ∉ cs)
    {rest : List Char} (hrest : pieceChars sep rest = first :: pieces) :
    pieceChars sep (cs ++ rest) = (cs ++ first) :: pieces := by
  induction cs with
  | nil => exact hrest
  | cons c cs ih =>
    rw [List.mem_cons, not_or] at h
    obtain ⟨piece, more, hpieces, hcons⟩ := pieceChars_cons (Ne.symm h.1) (cs ++ rest)
    rw [ih h.2] at hpieces
    obtain ⟨rfl, rfl⟩ := List.cons.inj hpieces
    exact hcons

theorem pieceChars_append_right {after : List Char} (h : sep ∉ after) (cs : List Char) :
    ∃ front last, pieceChars sep cs = front ++ [last] ∧
      pieceChars sep (cs ++ after) = front ++ [last ++ after] := by
  induction cs with
  | nil => exact ⟨[], [], rfl, pieceChars_single h⟩
  | cons c cs ih =>
    obtain ⟨front, last, hcs, happend⟩ := ih
    by_cases hc : c = sep
    · subst hc
      refine ⟨[] :: front, last, ?_, ?_⟩
      · rw [pieceChars_sep, hcs, List.cons_append]
      · rw [List.cons_append, pieceChars_sep, happend, List.cons_append]
    · have hcons : ∀ xs piece pieces, pieceChars sep xs = piece :: pieces →
          pieceChars sep (c :: xs) = (c :: piece) :: pieces := by
        intro xs piece pieces hxs
        rw [pieceChars, if_neg hc, hxs]
      cases front with
      | nil => exact ⟨[], c :: last, hcons _ _ _ hcs, hcons _ _ _ happend⟩
      | cons piece front => exact ⟨(c :: piece) :: front, last, hcons _ _ _ hcs, hcons _ _ _ happend⟩

/-- The trimmed pieces of a text are those of the trimmed text. -/
theorem map_trimChars_pieceChars (hsep : isBlank sep = false) (cs : List Char) :
    (pieceChars sep (trimChars cs)).map trimChars = (pieceChars sep cs).map trimChars := by
  obtain ⟨before, after, hcs, hbefore, hafter⟩ := exists_trimmed cs
  obtain ⟨front, last, hleft, hright⟩ :=
    pieceChars_append_right (notMem_of_blank hsep hafter) (before ++ trimChars cs)
  obtain ⟨first, rest, hfirst⟩ := List.exists_cons_of_ne_nil (pieceChars_ne_nil sep (trimChars cs))
  have hboth := pieceChars_append_left (notMem_of_blank hsep hbefore) hfirst
  calc (pieceChars sep (trimChars cs)).map trimChars
      = (pieceChars sep (before ++ trimChars cs)).map trimChars := by
        rw [hboth, hfirst, List.map_cons, List.map_cons, trimChars_append_left hbefore]
    _ = (pieceChars sep (before ++ trimChars cs ++ after)).map trimChars := by
        rw [hleft, hright, List.map_append, List.map_append, List.map_singleton, List.map_singleton,
          trimChars_append_right hafter]
    _ = (pieceChars sep cs).map trimChars := by rw [← hcs]

end Pieces

theorem map_trim_pieces {sep : Char} (hsep : isBlank sep = false) (s : String) :
    (pieces sep (trim s)).map trim = (pieces sep s).map trim := by
  have htrim : trim ∘ String.ofList = String.ofList ∘ trimChars := by
    funext cs
    rw [Function.comp_apply, Function.comp_apply, trim, String.toList_ofList]
  rw [pieces, pieces, List.map_map, List.map_map, htrim, ← List.map_map, ← List.map_map, trim,
    String.toList_ofList, map_trimChars_pieceChars hsep]

/-- Texts without the separator are found again where they are joined with it. -/
theorem pieces_join {sep : Char} {parts : List String} (hne : parts ≠ [])
    (h : ∀ part ∈ parts, sep ∉ part.toList) : pieces sep (join (String.singleton sep) parts) = parts := by
  induction parts with
  | nil => exact absurd rfl hne
  | cons part parts ih =>
    have hpart := h part List.mem_cons_self
    cases parts with
    | nil =>
      rw [join, pieces, pieceChars_single hpart, List.map_singleton, String.ofList_toList]
    | cons next more =>
      have hrest := ih (List.cons_ne_nil next more) fun other hother => h other (List.mem_cons_of_mem part hother)
      have hchars : (join (String.singleton sep) (part :: next :: more)).toList =
          part.toList ++ sep :: (join (String.singleton sep) (next :: more)).toList := by
        simp [join]
      rw [pieces] at hrest ⊢
      rw [hchars, pieceChars_append hpart, List.map_cons, hrest, String.ofList_toList]

end Invocation.Text

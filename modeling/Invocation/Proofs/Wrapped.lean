import Mathlib.Data.List.DropRight
import Invocation.Display.Console
import Invocation.Proofs.Cells
import Invocation.Proofs.Collapsed
import Invocation.Proofs.Pieces

/-!
# What wrapping keeps

Wrapping a text looks at its characters only (`map_wrapText`). In a steady text the parts of a line fit the
room for them but for the blanks at their ends (`fits_breaks`), so that nothing but blanks is lost
(`solid_linesFor`). Blanks are lost where a line is broken, and at its end where they stand beyond the edge: a
line is kept if it is not wider than the room and no blanks at its end stand beyond it (`kept_iff`), and a
text is shown as it is exactly if each of its lines is kept (`setOff_linesFor_iff`, `ended_linesFor_iff`).
-/

namespace Invocation.Display

open Invocation.Text

/-! ## Characters of wrapped texts -/

section Characters

variable {α β : Type}

theorem map_cutAt (f : α → β) (offset : Nat) (places : List Nat) (xs : List α) :
    (cutAt offset places xs).map (List.map f) = cutAt offset places (xs.map f) := by
  induction places generalizing offset xs with
  | nil => rfl
  | cons place places ih => rw [cutAt, cutAt, List.map_cons, ih, List.map_take, List.map_drop]

variable {charOf : α → Char} {space : α → α} {charOf' : β → Char} {space' : β → β} {f : α → β}

theorem map_trimBeyond (hchar : ∀ x, charOf' (f x) = charOf x) (room : Nat) (line : List α) :
    (trimBeyond charOf room line).map f = trimBeyond charOf' room (line.map f) := by
  have hblank : ((fun y => isBlank (charOf' y)) ∘ f) = fun x => isBlank (charOf x) := by
    funext x
    exact congrArg isBlank (hchar x)
  unfold trimBeyond
  rw [← List.map_reverse, List.takeWhile_map, List.length_map, List.length_map, List.map_take, hblank]

theorem map_fill (hspace : ∀ x, f (space x) = space' (f x)) (room : Nat) (line : List α)
    (list : List Cluster) :
    (fill space room line list).map f = fill space' room (line.map f) list := by
  induction list generalizing room line with
  | nil => rfl
  | cons cluster rest ih =>
    rw [fill, fill]
    split
    · rfl
    · split
      · rw [List.map_append, ih, List.map_take, List.map_drop]
      · rw [← List.map_take, List.map_map, List.map_map]
        exact List.map_congr_left fun x _ => hspace x

section Natural

variable (hchar : ∀ x, charOf' (f x) = charOf x) (hspace : ∀ x, f (space x) = space' (f x))

include hchar in
theorem map_charOf (line : List α) : (line.map f).map charOf' = line.map charOf := by
  rw [List.map_map]
  exact List.map_congr_left fun x _ => hchar x

include hchar hspace in
theorem map_truncate (room : Nat) (line : List α) :
    (truncate charOf space room line).map f = truncate charOf' space' room (line.map f) := by
  unfold truncate
  dsimp only
  rw [map_charOf hchar]
  split
  · rfl
  · exact map_fill hspace room line _

include hchar hspace in
theorem map_wrapLine (room : Nat) (line : List α) :
    (wrapLine charOf space room line).map (List.map f) =
      wrapLine charOf' space' room (line.map f) := by
  unfold wrapLine
  rw [map_charOf hchar, ← map_cutAt, List.map_map, List.map_map]
  refine List.map_congr_left fun part _ => ?_
  exact (map_truncate hchar hspace room _).trans (congrArg _ (map_trimBeyond hchar room part))

include hchar in
theorem map_splitLines (text : List α) :
    (splitLines charOf text).map (List.map f) = splitLines charOf' (text.map f) := by
  induction text with
  | nil => rfl
  | cons x rest ih =>
    rw [List.map_cons, splitLines, splitLines, ← ih, hchar]
    split
    · rfl
    · cases splitLines charOf rest <;> rfl

include hchar hspace in
/-- **Wrapping** commutes with whatever keeps the characters. -/
theorem map_wrapText (room : Nat) (text : List α) :
    (wrapText charOf space room text).map (List.map f) = wrapText charOf' space' room (text.map f) := by
  unfold wrapText
  rw [← map_splitLines hchar, List.map_flatMap, List.flatMap_map]
  exact List.flatMap_congr fun line _ => map_wrapLine hchar hspace room line

end Natural

theorem splitLines_id (cs : List Char) : splitLines id cs = pieceChars '\n' cs := by
  induction cs with
  | nil => rfl
  | cons c rest ih =>
    rw [splitLines, pieceChars, ih]
    cases pieceChars '\n' rest <;> rfl

/-- The lines of characters for some room. -/
def linesFor (room : Nat) (cs : List Char) : List (List Char) :=
  (pieceChars '\n' cs).flatMap (wrapLine id (fun _ => ' ') room)

theorem wrapText_id (room : Nat) (cs : List Char) : wrapText id (fun _ => ' ') room cs = linesFor room cs := by
  rw [wrapText, splitLines_id, linesFor]

end Characters

/-! ## Characters that are no blanks -/

/-- The characters of a text that are no blanks. -/
def solid (cs : List Char) : List Char :=
  cs.filter (!isBlank ·)

theorem solid_append (xs ys : List Char) : solid (xs ++ ys) = solid xs ++ solid ys :=
  List.filter_append ..

theorem solid_cons_of_blank {c : Char} (h : isBlank c = true) (cs : List Char) : solid (c :: cs) = solid cs :=
  List.filter_cons_of_neg (by simp [h])

theorem solid_eq_nil {cs : List Char} (h : ∀ c ∈ cs, isBlank c = true) : solid cs = [] :=
  List.filter_eq_nil_iff.2 fun c hc => by simp [h c hc]

theorem solid_flatten_map {f : List Char → List Char} {lines : List (List Char)}
    (h : ∀ line ∈ lines, solid (f line) = solid line) :
    solid (lines.map f).flatten = solid lines.flatten := by
  induction lines with
  | nil => rfl
  | cons line lines ih =>
    rw [List.map_cons, List.flatten_cons, List.flatten_cons, solid_append, solid_append,
      h line List.mem_cons_self, ih fun other hother => h other (List.mem_cons_of_mem line hother)]

theorem steady_append_trimEndChars {xs ys : List Char} (h : Steady (xs ++ ys)) :
    Steady (xs ++ trimEndChars ys) := by
  have hxs : Steady xs := h.mono (List.subset_append_left xs ys)
  have hys : Steady ys := h.mono (List.subset_append_right xs ys)
  exact hxs.append (hys.mono (trimEndChars_subset ys))

/-! ## Lines between line feeds -/

theorem setOff_pieceChars (cs : List Char) : Console.setOff (pieceChars '\n' cs) = cs := by
  induction cs with
  | nil => rfl
  | cons c cs ih =>
    by_cases hc : c = '\n'
    · subst hc
      rw [pieceChars_sep, Console.setOff, ih]
      · rfl
      · exact pieceChars_ne_nil _ cs
    · obtain ⟨piece, pieces, hpieces, hcons⟩ := pieceChars_cons hc cs
      rw [hpieces] at ih
      rw [hcons]
      cases pieces with
      | nil => exact congrArg (c :: ·) ih
      | cons other more => exact congrArg (c :: ·) ih

/-- Lines without line feeds are found again where they are set off. -/
theorem pieceChars_setOff {lines : List (List Char)} (hne : lines ≠ [])
    (h : ∀ line ∈ lines, '\n' ∉ line) : pieceChars '\n' (Console.setOff lines) = lines := by
  induction lines with
  | nil => exact absurd rfl hne
  | cons line lines ih =>
    have hline := h line List.mem_cons_self
    cases lines with
    | nil => exact pieceChars_single hline
    | cons next more =>
      rw [Console.setOff, pieceChars_append hline,
        ih (List.cons_ne_nil next more) fun other hother => h other (List.mem_cons_of_mem line hother)]
      exact List.cons_ne_nil next more

theorem ended_eq_setOff {lines : List (List Char)} (h : lines ≠ []) :
    Console.ended lines = Console.setOff lines ++ ['\n'] := by
  induction lines with
  | nil => exact absurd rfl h
  | cons line lines ih =>
    cases lines with
    | nil => exact List.append_nil _
    | cons next more =>
      have hrest := ih (List.cons_ne_nil next more)
      rw [Console.setOff, List.append_assoc, List.cons_append, ← hrest]
      · simp [Console.ended]
      · exact List.cons_ne_nil next more

theorem solid_pieceChars (cs : List Char) : solid (pieceChars '\n' cs).flatten = solid cs := by
  induction cs with
  | nil => rfl
  | cons c cs ih =>
    by_cases hc : c = '\n'
    · subst hc
      rw [pieceChars_sep]
      exact ih
    · obtain ⟨piece, pieces, hpieces, hcons⟩ := pieceChars_cons hc cs
      rw [hpieces] at ih
      rw [hcons]
      change solid ([c] ++ (piece :: pieces).flatten) = solid ([c] ++ cs)
      rw [solid_append, solid_append, ih]

theorem solid_setOff (lines : List (List Char)) : solid (Console.setOff lines) = solid lines.flatten := by
  induction lines with
  | nil => rfl
  | cons line lines ih =>
    cases lines with
    | nil => exact congrArg solid (List.append_nil line).symm
    | cons next more =>
      rw [Console.setOff, List.flatten_cons, solid_append, solid_append, ← ih]
      · rfl
      · exact List.cons_ne_nil next more

/-! ## Fitting -/

/-- A part of a line fits the room for it but for the blanks at its end. -/
def Fits (room : Nat) (part : List Char) : Prop :=
  width (trimEndChars part) ≤ room

section Fits

variable {room : Nat} {xs ys : List Char}

theorem width_trimEndChars_le (h : Steady xs) : width (trimEndChars xs) ≤ width xs := by
  obtain ⟨blanks, hsplit, -⟩ := exists_blanks xs
  have hwidth : width xs = width (trimEndChars xs) + width blanks := by
    rw [← width_append (hsplit ▸ h), ← hsplit]
  omega

theorem fits_of_width_le (hsteady : Steady xs) (h : width xs ≤ room) : Fits room xs :=
  Nat.le_trans (width_trimEndChars_le hsteady) h

theorem Fits.append (hsteady : Steady (xs ++ ys)) (hxs : Fits room xs)
    (hys : width xs + width (trimEndChars ys) ≤ room) : Fits room (xs ++ ys) := by
  unfold Fits
  by_cases hnil : trimEndChars ys = []
  · rw [trimEndChars_append_of_blank (blank_of_trimEndChars_eq_nil hnil)]
    exact hxs
  · rw [trimEndChars_append hnil, width_append (steady_append_trimEndChars hsteady)]
    exact hys

/-- What fits after the start of a line. -/
theorem Fits.of_append (hsteady : Steady (xs ++ ys)) (h : Fits room (xs ++ ys)) :
    Fits (room - width xs) ys := by
  unfold Fits at *
  by_cases hnil : trimEndChars ys = []
  · rw [hnil]
    exact Nat.zero_le _
  · rw [trimEndChars_append hnil, width_append (steady_append_trimEndChars hsteady)] at h
    omega

/-- A line fits only with its first character if that is to be seen. -/
theorem solid_of_lt {c : Char} (hsteady : Steady (c :: xs)) (hfits : Fits room (c :: xs))
    (hlt : room < charWidth c) : solid (c :: xs) = [] := by
  refine solid_eq_nil (blank_of_trimEndChars_eq_nil ?_)
  obtain ⟨blanks, hsplit, -⟩ := exists_blanks (c :: xs)
  unfold Fits at hfits
  cases htrim : trimEndChars (c :: xs) with
  | nil => rfl
  | cons d more =>
    rw [htrim] at hsplit hfits
    obtain ⟨rfl, -⟩ := List.cons.inj hsplit
    have hkept : Steady (c :: more) := hsteady.mono (htrim ▸ trimEndChars_subset (c :: xs))
    rw [width_cons hkept] at hfits
    omega

end Fits

/-! ## Filling -/

section Fill

variable {room : Nat} {line : List Char} {list : List Cluster}

theorem mem_fill {c : Char} (h : c ∈ fill (fun _ => ' ') room line list) : c ∈ line ∨ c = ' ' := by
  induction list generalizing room line with
  | nil => cases h
  | cons cluster rest ih =>
    rw [fill] at h
    split at h
    · cases h
    · split at h
      · rcases List.mem_append.1 h with htake | hrest
        · exact .inl (List.mem_of_mem_take htake)
        · exact (ih hrest).imp_left List.mem_of_mem_drop
      · obtain ⟨-, -, rfl⟩ := List.mem_map.1 h
        exact .inr rfl

theorem length_fill_le (room : Nat) (line : List Char) (list : List Cluster) :
    (fill (fun _ => ' ') room line list).length ≤ line.length := by
  induction list generalizing room line with
  | nil => exact Nat.zero_le _
  | cons cluster rest ih =>
    rw [fill]
    split
    · exact Nat.zero_le _
    · split
      · have hrest := ih (room - cluster.cells) (line.drop cluster.chars.length)
        rw [List.length_drop] at hrest
        rw [List.length_append, List.length_take]
        omega
      · rw [List.length_map]
        exact List.length_take_le' 1 line

/-- A filled line that ends with no blank is the start of the line. -/
theorem fill_isPrefix (h : EndsSolid (fill (fun _ => ' ') room line list)) :
    fill (fun _ => ' ') room line list <+: line := by
  induction list generalizing room line with
  | nil => exact List.nil_prefix
  | cons cluster rest ih =>
    rw [fill] at h ⊢
    split
    · exact List.nil_prefix
    · next hroom =>
      rw [if_neg hroom] at h
      split
      · next hle =>
        rw [if_pos hle] at h
        by_cases hnil : fill (fun _ => ' ') (room - cluster.cells) (line.drop cluster.chars.length) rest = []
        · rw [hnil, List.append_nil]
          exact List.take_prefix ..
        · have hstart := ih (endsSolid_of_append h hnil)
          have hwhole := (List.prefix_append_right_inj (line.take cluster.chars.length)).2 hstart
          rwa [List.take_append_drop] at hwhole
      · next hwide =>
        rw [if_neg hwide] at h
        obtain ⟨front, c, hfront, hc⟩ := h
        obtain ⟨-, -, rfl⟩ := List.mem_map.1 (hfront ▸ List.mem_append_right front List.mem_cons_self)
        cases hc

/-- What fits is not lost where a line is filled. -/
theorem solid_fill (hsteady : Steady line) (hlist : Clustered line list)
    (hroom : 0 < room ∨ ∀ cluster ∈ list, 0 < cluster.cells) (hfits : Fits room line) :
    solid (fill (fun _ => ' ') room line list) = solid line := by
  induction list generalizing room line with
  | nil =>
    obtain rfl : [] = line := hlist.chars
    rfl
  | cons cluster rest ih =>
    obtain rfl : cluster.chars ++ rest.flatMap Cluster.chars = line := hlist.chars
    have hled := hlist.led cluster List.mem_cons_self
    have hwidth := hled.width_eq (hsteady.mono (List.subset_append_left ..))
    -- A cluster that is not taken is wider than the room, so that only blanks are left.
    have hlost (hlt : room < cluster.cells) : solid (cluster.chars ++ rest.flatMap Cluster.chars) = [] := by
      obtain ⟨c, marks, hchars, hcells, -⟩ := hled
      rw [hchars] at hsteady hfits ⊢
      exact solid_of_lt hsteady hfits (hcells ▸ hlt)
    rw [fill]
    split
    · next hzero =>
      have hcells : 0 < cluster.cells :=
        hroom.elim (fun h => absurd hzero (Nat.ne_of_gt h)) fun h => h cluster List.mem_cons_self
      rw [hlost (hzero ▸ hcells)]
      rfl
    · split
      · have hrest : Fits (room - cluster.cells) (rest.flatMap Cluster.chars) :=
          hwidth ▸ hfits.of_append hsteady
        rw [List.take_left, List.drop_left, solid_append, solid_append,
          ih (hsteady.mono (List.subset_append_right ..)) hlist.tail (.inr hlist.filled) hrest]
      · next hwide =>
        have hspaces :
            solid (((cluster.chars ++ rest.flatMap Cluster.chars).take 1).map fun _ => ' ') = [] := by
          refine solid_eq_nil fun c hc => ?_
          obtain ⟨-, -, rfl⟩ := List.mem_map.1 hc
          decide
        rw [hlost (Nat.lt_of_not_le hwide), hspaces]

theorem width_fill_le (room : Nat) (hsteady : Steady line) (hlist : Clustered line list) :
    width (fill (fun _ => ' ') room line list) ≤ room := by
  have hspace : Steady [' '] := by decide
  induction list generalizing room line with
  | nil => exact Nat.zero_le _
  | cons cluster rest ih =>
    obtain rfl : cluster.chars ++ rest.flatMap Cluster.chars = line := hlist.chars
    have hfirst : Steady cluster.chars := hsteady.mono (List.subset_append_left ..)
    have hrest : Steady (rest.flatMap Cluster.chars) := hsteady.mono (List.subset_append_right ..)
    obtain ⟨c, marks, hchars, -⟩ := hlist.led cluster List.mem_cons_self
    have hwidth := (hlist.led cluster List.mem_cons_self).width_eq hfirst
    rw [fill]
    split
    · exact Nat.zero_le _
    · next hroom =>
      split
      · next hle =>
        have hfilled : Steady (cluster.chars ++
            fill (fun _ => ' ') (room - cluster.cells) (rest.flatMap Cluster.chars) rest) := by
          refine hfirst.append fun c hc => ?_
          rcases mem_fill hc with hmem | rfl
          · exact hrest c hmem
          · exact hspace ' ' List.mem_cons_self
        have hle' := ih (room - cluster.cells) hrest hlist.tail
        rw [List.take_left, List.drop_left, width_append hfilled, hwidth]
        omega
      · rw [hchars]
        exact Nat.pos_of_ne_zero hroom

theorem solid_truncate (hsteady : Steady line) (hroom : 0 < room) (hfits : Fits room line) :
    solid (truncate id (fun _ => ' ') room line) = solid line := by
  unfold truncate
  dsimp only
  rw [List.map_id]
  split
  · rfl
  · exact solid_fill hsteady (clustered_clusters hsteady) (.inl hroom) hfits

theorem exists_trimBeyond (room : Nat) (line : List Char) :
    ∃ blanks, line = trimBeyond id room line ++ blanks ∧ ∀ c ∈ blanks, isBlank c = true := by
  have hlength : (line.reverse.takeWhile isBlank).length ≤ line.length := by
    have hle := (List.takeWhile_sublist isBlank (l := line.reverse)).length_le
    rwa [List.length_reverse] at hle
  refine ⟨_, (List.take_append_drop (line.length -
    min (line.reverse.takeWhile isBlank).length (line.length - room)) line).symm, fun c hc => ?_⟩
  -- What is dropped is the start of the reversed line, and no longer than the blanks there.
  rw [← List.mem_reverse, List.reverse_drop, Nat.sub_sub_self (by omega)] at hc
  have hstart : line.reverse.take (min (line.reverse.takeWhile isBlank).length (line.length - room)) <+:
      line.reverse.takeWhile isBlank := by
    refine List.prefix_of_prefix_length_le (List.take_prefix ..) (List.takeWhile_prefix isBlank) ?_
    rw [List.length_take]
    omega
  exact List.mem_takeWhile_imp (hstart.subset hc)

theorem length_truncate_le : (truncate id (fun _ => ' ') room line).length ≤ line.length := by
  unfold truncate
  dsimp only
  split
  · exact Nat.le_refl _
  · exact length_fill_le room line _

theorem mem_truncate {c : Char} (h : c ∈ truncate id (fun _ => ' ') room line) : c ∈ line ∨ c = ' ' := by
  unfold truncate at h
  dsimp only at h
  split at h
  · exact .inl h
  · exact mem_fill h

theorem truncate_isPrefix (h : EndsSolid (truncate id (fun _ => ' ') room line)) :
    truncate id (fun _ => ' ') room line <+: line := by
  unfold truncate at h ⊢
  dsimp only at h ⊢
  split
  · exact List.prefix_refl line
  · next hwide =>
    rw [if_neg hwide] at h
    exact fill_isPrefix h

/-- A line keeps the blanks at its end if none of them stands beyond the edge. -/
theorem trimBeyond_eq_self_iff : trimBeyond id room line = line ↔ line.length ≤ room ∨ EndsSolid line := by
  obtain rfl | ⟨front, c, rfl⟩ := List.eq_nil_or_concat' line
  · simp [trimBeyond]
  · have hblanks : ((front ++ [c]).reverse.takeWhile isBlank).length = 0 ↔ EndsSolid (front ++ [c]) := by
      rw [endsSolid_append_singleton, List.reverse_append, List.reverse_singleton, List.singleton_append,
        List.takeWhile_cons]
      cases isBlank c <;> simp
    rw [← hblanks]
    change (front ++ [c]).take ((front ++ [c]).length -
      min ((front ++ [c]).reverse.takeWhile isBlank).length ((front ++ [c]).length - room)) = _ ↔ _
    rw [List.take_eq_self_iff]
    have hpos : 0 < (front ++ [c]).length := by simp
    omega

end Fill

/-! ## Breaks -/

section Breaks

variable {room : Nat}

theorem flatten_cutAt {α : Type} (offset : Nat) (places : List Nat) (xs : List α) :
    (cutAt offset places xs).flatten = xs := by
  induction places generalizing offset xs with
  | nil => exact List.append_nil xs
  | cons place places ih => rw [cutAt, List.flatten_cons, ih, List.take_append_drop]

/-- A break right after the open part of a line. -/
theorem cutAt_cons {α : Type} (offset : Nat) (places : List Nat) (first rest : List α) :
    cutAt offset ((offset + first.length) :: places) (first ++ rest) =
      first :: cutAt (offset + first.length) places rest := by
  rw [cutAt, Nat.add_sub_cancel_left, List.take_left, List.drop_left]

/-- Breaks at the starts of pieces leave the last of them open. -/
theorem cutAt_pieceStarts (pieces : List (List Char)) (offset : Nat) (first : List Char) (more : List Nat)
    (rest : List Char) :
    ∃ before offset', cutAt offset (pieceStarts (offset + first.length) pieces ++ more)
        (first ++ (pieces.flatten ++ rest)) =
      before ++ cutAt offset' more (pieces.getLast?.getD first ++ rest) ∧
      (∀ part ∈ before, part = first ∨ part ∈ pieces) ∧
      offset' + (pieces.getLast?.getD first).length = offset + first.length + pieces.flatten.length := by
  induction pieces generalizing offset first with
  | nil => exact ⟨[], offset, rfl, by simp, rfl⟩
  | cons piece pieces ih =>
    rw [pieceStarts, List.flatten_cons, List.getLast?_cons, List.append_assoc, Option.getD_some]
    by_cases hzero : offset + first.length = 0
    · obtain ⟨rfl, hlength⟩ := Nat.add_eq_zero_iff.1 hzero
      obtain rfl := List.length_eq_zero_iff.1 hlength
      obtain ⟨before, offset', heq, hbefore, hlength⟩ := ih 0 piece
      refine ⟨before, offset', ?_, fun part hpart => .inr ?_, ?_⟩
      · rw [if_pos hzero, List.nil_append, List.nil_append, List.append_assoc]
        exact heq
      · rcases hbefore part hpart with rfl | hmem
        · exact List.mem_cons_self
        · exact List.mem_cons_of_mem piece hmem
      · rw [hlength, List.length_append]
        simp
    · obtain ⟨before, offset', heq, hbefore, hlength⟩ := ih (offset + first.length) piece
      refine ⟨first :: before, offset', ?_, fun part hpart => ?_, ?_⟩
      · rw [if_neg hzero, List.append_assoc, List.singleton_append, cutAt_cons, heq, List.cons_append]
      · rcases List.mem_cons.1 hpart with rfl | hpart
        · exact .inl rfl
        · rcases hbefore part hpart with rfl | hmem
          · exact .inr List.mem_cons_self
          · exact .inr (List.mem_cons_of_mem piece hmem)
      · rw [hlength, List.length_append]
        omega

/-- A text that fills cells is made up of the pieces it is chopped into, and these are no wider than the
room. -/
theorem chopAfter_pieces (hroom : 2 ≤ room) {list : List Cluster} {line : List Char}
    (hsteady : Steady (line ++ list.flatMap Cluster.chars)) (hled : ∀ cluster ∈ list, cluster.Led)
    (hline : width line ≤ room) (hwidth : 0 < width (line ++ list.flatMap Cluster.chars)) :
    (chopAfter room line (width line) list).flatten = line ++ list.flatMap Cluster.chars ∧
      ∀ piece ∈ chopAfter room line (width line) list, width piece ≤ room := by
  induction list generalizing line with
  | nil =>
    rw [List.flatMap_nil, List.append_nil] at hwidth ⊢
    rw [chopAfter, if_neg (Nat.ne_of_gt hwidth)]
    simpa using hline
  | cons cluster rest ih =>
    rw [List.flatMap_cons] at hsteady hwidth ⊢
    have hfirst := hled cluster List.mem_cons_self
    have hrest : ∀ other ∈ rest, other.Led := fun other hother => hled other (List.mem_cons_of_mem _ hother)
    have hafter : Steady (cluster.chars ++ rest.flatMap Cluster.chars) :=
      hsteady.mono (List.subset_append_right ..)
    have hcells := hfirst.width_eq (hafter.mono (List.subset_append_left ..))
    have hle := hfirst.cells_le
    rw [← List.append_assoc] at hsteady hwidth ⊢
    have hjoined : width (line ++ cluster.chars) = width line + cluster.cells := by
      rw [width_append (hsteady.mono (List.subset_append_left ..)), hcells]
    rw [chopAfter]
    split
    · have hpos : 0 < width (cluster.chars ++ rest.flatMap Cluster.chars) := by
        rw [width_append hafter, hcells]
        omega
      obtain ⟨hflatten, hpieces⟩ := ih hafter hrest (by omega) hpos
      rw [hcells] at hflatten hpieces
      refine ⟨by rw [List.flatten_cons, hflatten, List.append_assoc], fun piece hpiece => ?_⟩
      rcases List.mem_cons.1 hpiece with rfl | hpiece
      · exact hline
      · exact hpieces piece hpiece
    · rw [← hjoined]
      exact ih hsteady hrest (by omega) hwidth

theorem chop_pieces (hroom : 2 ≤ room) {word : List Char} (hsteady : Steady word) (hwidth : 0 < width word) :
    (chop room word).flatten = word ∧ ∀ piece ∈ chop room word, width piece ≤ room := by
  have hlist := clustered_clusters hsteady
  have hpieces := @chopAfter_pieces room hroom (clusters word) []
  rw [List.nil_append, hlist.chars] at hpieces
  exact hpieces hsteady hlist.led (Nat.zero_le _) hwidth

theorem wordsWithin_nil (fuel : Nat) : wordsWithin fuel [] = [] := by
  cases fuel <;> rfl

/-- The words of a line that is no run of blanks make it up. -/
theorem flatten_wordsWithin {fuel : Nat} {cs : List Char} (hfuel : cs.length ≤ fuel)
    (hsolid : cs.dropWhile isBlank ≠ []) : (wordsWithin fuel cs).flatten = cs := by
  induction fuel generalizing cs with
  | zero =>
    obtain rfl := List.length_eq_zero_iff.1 (Nat.le_zero.1 hfuel)
    rfl
  | succ fuel ih =>
    obtain ⟨c, more, hrest⟩ := List.exists_cons_of_ne_nil hsolid
    have hc : isBlank c = false := by
      have hhead := List.head?_dropWhile_not isBlank cs
      rw [hrest] at hhead
      simpa using hhead
    have hcs : cs.takeWhile isBlank ++ c :: more = cs := hrest ▸ List.takeWhile_append_dropWhile
    have hmore : more.takeWhile (!isBlank ·) ++ more.dropWhile (!isBlank ·) = more :=
      List.takeWhile_append_dropWhile
    have hafter := List.takeWhile_append_dropWhile (p := isBlank) (l := more.dropWhile (!isBlank ·))
    have htail : (wordsWithin fuel ((more.dropWhile (!isBlank ·)).dropWhile isBlank)).flatten =
        (more.dropWhile (!isBlank ·)).dropWhile isBlank := by
      by_cases hnil : (more.dropWhile (!isBlank ·)).dropWhile isBlank = []
      · rw [hnil, wordsWithin_nil]
        rfl
      · refine ih ?_ ?_
        · have hsub := ((List.dropWhile_sublist isBlank).trans
            (List.dropWhile_sublist (l := more) (!isBlank ·))).length_le
          have hlength := congrArg List.length hcs
          rw [List.length_append, List.length_cons] at hlength
          omega
        · rwa [List.dropWhile_idempotent]
    rw [wordsWithin]
    dsimp only
    rw [hrest, if_neg (by simp), List.flatten_cons, List.takeWhile_cons_of_pos (by simp [hc]),
      List.dropWhile_cons_of_pos (by simp [hc]), htail]
    simp only [List.append_assoc, List.cons_append]
    rw [hafter, hmore, hcs]

theorem flatten_words {cs : List Char} (h : cs.dropWhile isBlank ≠ []) : (words cs).flatten = cs :=
  flatten_wordsWithin (Nat.le_refl _) h

theorem words_of_blank {cs : List Char} (h : cs.dropWhile isBlank = []) : words cs = [] := by
  unfold words
  cases cs with
  | nil => rfl
  | cons c cs =>
    rw [List.length_cons, wordsWithin]
    dsimp only
    rw [h]
    rfl

/-- **The parts of a line fit.** The first of them is open and has begun; its cells are counted. -/
theorem fits_breaksFrom (hroom : 2 ≤ room) {words : List (List Char)} {offset : Nat} {first : List Char}
    (hsteady : Steady (first ++ words.flatten)) (hfits : Fits room first) :
    ∀ part ∈ cutAt offset (breaksFrom room (offset + first.length) (width first) words)
      (first ++ words.flatten), Fits room part := by
  induction words generalizing offset first with
  | nil =>
    intro part hpart
    rw [List.flatten_nil, List.append_nil] at hpart
    obtain rfl := List.mem_singleton.1 hpart
    exact hfits
  | cons word rest ih =>
    rw [List.flatten_cons] at hsteady ⊢
    have hafter : Steady (word ++ rest.flatten) := hsteady.mono (List.subset_append_right ..)
    have hword : Steady word := hafter.mono (List.subset_append_left ..)
    have hjoined : Steady (first ++ word) := by
      rw [← List.append_assoc] at hsteady
      exact hsteady.mono (List.subset_append_left ..)
    have hneeded : width (trimEndChars word) ≤ width word := width_trimEndChars_le hword
    rw [breaksFrom]
    dsimp only
    change ∀ part ∈ cutAt offset (if width first + width (trimEndChars word) ≤ room then _
      else if room < width (trimEndChars word) then _ else _) _, _
    split
    · next hle =>
      -- The word is added to the open part.
      rw [Nat.add_assoc, ← List.length_append, ← width_append hjoined, ← List.append_assoc]
      rw [← List.append_assoc] at hsteady
      exact ih hsteady (hfits.append hjoined hle)
    · next hgt =>
      split
      · next hwide =>
        -- The word is chopped, and its last piece is open.
        obtain ⟨hflatten, hpieces⟩ := chop_pieces hroom hword (by omega)
        have hpiece (piece : List Char) (hmem : piece = first ∨ piece ∈ chop room word) :
            Steady piece ∧ Fits room piece := by
          rcases hmem with rfl | hmem
          · exact ⟨hsteady.mono (List.subset_append_left ..), hfits⟩
          · have hsub : piece ⊆ word := by
              rw [← hflatten]
              exact fun c hc => List.mem_flatten_of_mem hmem hc
            exact ⟨hword.mono hsub, fits_of_width_le (hword.mono hsub) (hpieces piece hmem)⟩
        have hopen : (chop room word).getLast?.getD first = first ∨
            (chop room word).getLast?.getD first ∈ chop room word := by
          cases hlast : (chop room word).getLast? with
          | none => exact .inl rfl
          | some last => exact .inr (List.mem_of_getLast? hlast)
        have hused : ((chop room word).getLast?.map width).getD (width first) =
            width ((chop room word).getLast?.getD first) := by
          cases (chop room word).getLast? <;> rfl
        intro part hpart
        rw [hused] at hpart
        obtain ⟨before, offset', hcut, hbefore, hlength⟩ := cutAt_pieceStarts (chop room word) offset first
          (breaksFrom room (offset + first.length + word.length)
            (width ((chop room word).getLast?.getD first)) rest) rest.flatten
        rw [hflatten] at hcut hlength
        rw [hcut, ← hlength] at hpart
        obtain ⟨hsteadyOpen, hfitsOpen⟩ := hpiece _ hopen
        rcases List.mem_append.1 hpart with hpart | hpart
        · exact (hpiece part (hbefore part hpart)).2
        · exact ih (hsteadyOpen.append (hafter.mono (List.subset_append_right ..))) hfitsOpen part hpart
      · next hnarrow =>
        split
        · -- The word begins a part.
          intro part hpart
          rw [cutAt_cons] at hpart
          rcases List.mem_cons.1 hpart with rfl | hpart
          · exact hfits
          · exact ih hafter (Nat.le_of_not_lt hnarrow) part hpart
        · next hbegun =>
          -- A word that fits alone has a part before it, or it would have been added.
          have hused : width first ≠ 0 := by omega
          have hstart : offset + first.length ≠ 0 := by
            intro hzero
            obtain rfl := List.length_eq_zero_iff.1 (Nat.add_eq_zero_iff.1 hzero).2
            exact hused rfl
          exact absurd ⟨hused, hstart⟩ hbegun

theorem fits_breaks (hroom : 2 ≤ room) {line : List Char} (hsteady : Steady line) :
    ∀ part ∈ cutAt 0 (breaks room line) line, Fits room part := by
  unfold breaks
  by_cases hblank : line.dropWhile isBlank = []
  · rw [words_of_blank hblank]
    intro part hpart
    obtain rfl := List.mem_singleton.1 hpart
    have htrim : trimEndChars part = [] :=
      List.rdropWhile_eq_nil_iff.2 (List.dropWhile_eq_nil_iff.1 hblank)
    unfold Fits
    rw [htrim]
    exact Nat.zero_le _
  · have hflatten := flatten_words hblank
    have hparts := @fits_breaksFrom room hroom (words line) 0 []
    rw [List.nil_append, hflatten] at hparts
    exact hparts hsteady (Nat.zero_le _)

end Breaks

/-! ## What is shown of lines -/

section Lines

variable {room : Nat}

/-- **Nothing but blanks is lost** of a line that is wrapped. -/
theorem solid_wrapLine (hroom : 2 ≤ room) {line : List Char} (hsteady : Steady line) :
    solid (wrapLine id (fun _ => ' ') room line).flatten = solid line := by
  have hflatten := flatten_cutAt 0 (breaks room line) line
  have hkept : ∀ part ∈ cutAt 0 (breaks room line) line,
      solid (truncate id (fun _ => ' ') room (trimBeyond id room part)) = solid part := by
    intro part hpart
    have hpartSteady : Steady part := by
      refine hsteady.mono fun c hc => ?_
      rw [← hflatten]
      exact List.mem_flatten_of_mem hpart hc
    have hfits := fits_breaks hroom hsteady part hpart
    obtain ⟨blanks, hsplit, hblank⟩ := exists_trimBeyond room part
    have htrim : trimEndChars part = trimEndChars (trimBeyond id room part) := by
      rw [hsplit, trimEndChars_append_of_blank hblank, ← hsplit]
    unfold Fits at hfits
    rw [htrim] at hfits
    have hleft : Steady (trimBeyond id room part) := by
      rw [hsplit] at hpartSteady
      exact hpartSteady.mono (List.subset_append_left ..)
    calc solid (truncate id (fun _ => ' ') room (trimBeyond id room part))
        = solid (trimBeyond id room part) := solid_truncate hleft (by omega) hfits
      _ = solid (trimBeyond id room part ++ blanks) := by
          rw [solid_append, solid_eq_nil hblank, List.append_nil]
      _ = solid part := by rw [← hsplit]
  rw [wrapLine, List.map_id, solid_flatten_map hkept, hflatten]

/-- **Nothing but blanks is lost** of a text that is wrapped. -/
theorem solid_linesFor (hroom : 2 ≤ room) {cs : List Char} (hsteady : Steady cs) :
    solid (linesFor room cs).flatten = solid cs := by
  have hlines : ∀ line ∈ pieceChars '\n' cs,
      solid (wrapLine id (fun _ => ' ') room line).flatten = solid line := fun line hline =>
    solid_wrapLine hroom (hsteady.mono fun c hc => (mem_of_mem_pieceChars hline hc).1)
  calc solid (linesFor room cs).flatten
      = solid ((pieceChars '\n' cs).map fun line =>
          (wrapLine id (fun _ => ' ') room line).flatten).flatten := by
        rw [linesFor, List.flatMap_def, List.flatten_flatten, List.map_map]
        rfl
    _ = solid (pieceChars '\n' cs).flatten := solid_flatten_map hlines
    _ = solid cs := solid_pieceChars cs

theorem mem_wrapLine {line part : List Char} {c : Char} (h : part ∈ wrapLine id (fun _ => ' ') room line)
    (hc : c ∈ part) : c ∈ line ∨ c = ' ' := by
  rw [wrapLine, List.map_id] at h
  obtain ⟨piece, hpiece, rfl⟩ := List.mem_map.1 h
  refine (mem_truncate hc).imp_left fun hmem => ?_
  rw [← flatten_cutAt 0 (breaks room line) line]
  obtain ⟨blanks, hsplit, -⟩ := exists_trimBeyond room piece
  refine List.mem_flatten_of_mem hpiece ?_
  rw [hsplit]
  exact List.mem_append_left blanks hmem

theorem wrapLine_ne_nil (room : Nat) (line : List Char) : wrapLine id (fun _ => ' ') room line ≠ [] := by
  rw [wrapLine, Ne, List.map_eq_nil_iff]
  cases breaks room (line.map id) <;> exact List.cons_ne_nil _ _

end Lines

/-! ## Lines that are kept -/

/-- A line is shown as it is. -/
def Kept (room : Nat) (line : List Char) : Prop :=
  wrapLine id (fun _ => ' ') room line = [line]

instance (room : Nat) : DecidablePred (Kept room) :=
  fun line => inferInstanceAs (Decidable (wrapLine id (fun _ => ' ') room line = [line]))

section Kept

variable {room : Nat}

/-- A line in one part is cut at its end only. -/
theorem wrapLine_eq_singleton {line shown : List Char} (h : wrapLine id (fun _ => ' ') room line = [shown]) :
    shown = truncate id (fun _ => ' ') room (trimBeyond id room line) := by
  rw [wrapLine, List.map_id] at h
  cases hbreaks : breaks room line with
  | nil =>
    rw [hbreaks] at h
    exact (List.cons.inj h).1.symm
  | cons place places =>
    rw [hbreaks, cutAt, List.map_cons] at h
    have hnil := List.map_eq_nil_iff.1 (List.cons.inj h).2
    cases places <;> cases hnil

theorem breaksFrom_of_le {words : List (List Char)} {start used : Nat} (hsteady : Steady words.flatten)
    (h : used + width words.flatten ≤ room) : breaksFrom room start used words = [] := by
  induction words generalizing start used with
  | nil => rfl
  | cons word rest ih =>
    rw [List.flatten_cons] at hsteady h
    rw [width_append hsteady] at h
    have hneeded : width (trimEndChars word) ≤ width word :=
      width_trimEndChars_le (hsteady.mono (List.subset_append_left ..))
    rw [breaksFrom]
    dsimp only
    change (if used + width (trimEndChars word) ≤ room then _ else _) = _
    rw [if_pos (by omega)]
    exact ih (hsteady.mono (List.subset_append_right ..)) (by omega)

theorem breaks_of_le {line : List Char} (hsteady : Steady line) (h : width line ≤ room) :
    breaks room line = [] := by
  unfold breaks
  by_cases hblank : line.dropWhile isBlank = []
  · rw [words_of_blank hblank]
    rfl
  · have hflatten := flatten_words hblank
    refine breaksFrom_of_le ?_ ?_
    · rwa [hflatten]
    · rwa [hflatten, Nat.zero_add]

/-- **A steady line is kept** exactly if it is not wider than the room, and no blanks at its end stand beyond
as many characters. -/
theorem kept_iff {line : List Char} (hsteady : Steady line) :
    Kept room line ↔ width line ≤ room ∧ (line.length ≤ room ∨ EndsSolid line) := by
  rw [← trimBeyond_eq_self_iff]
  constructor
  · intro hkept
    have hwhole := wrapLine_eq_singleton hkept
    have htrim : trimBeyond id room line = line := by
      obtain ⟨blanks, hsplit, -⟩ := exists_trimBeyond room line
      have hle : line.length ≤ (trimBeyond id room line).length :=
        Nat.le_trans (Nat.le_of_eq (congrArg List.length hwhole)) length_truncate_le
      have hlength := congrArg List.length hsplit
      rw [List.length_append] at hlength
      obtain rfl := List.length_eq_zero_iff.1 (show blanks.length = 0 by omega)
      rw [List.append_nil] at hsplit
      exact hsplit.symm
    refine ⟨?_, htrim⟩
    rw [htrim] at hwhole
    by_contra hwide
    have hfill : line = fill (fun _ => ' ') room line (clusters line) := by
      unfold truncate at hwhole
      dsimp only at hwhole
      rwa [List.map_id, if_neg hwide] at hwhole
    have hle := width_fill_le room hsteady (clustered_clusters hsteady)
    rw [← hfill] at hle
    exact hwide hle
  · rintro ⟨hwidth, htrim⟩
    unfold Kept
    rw [wrapLine, List.map_id, breaks_of_le hsteady hwidth, cutAt, List.map_singleton, htrim]
    unfold truncate
    dsimp only
    rw [List.map_id, if_pos hwidth]

theorem flatMap_eq_self_iff {α : Type} {f : α → List α} (h : ∀ x, f x ≠ []) {xs : List α} :
    xs.flatMap f = xs ↔ ∀ x ∈ xs, f x = [x] := by
  have hle (xs : List α) : xs.length ≤ (xs.flatMap f).length := by
    induction xs with
    | nil => exact Nat.zero_le _
    | cons x xs ih =>
      have hpos := List.length_pos_iff.2 (h x)
      rw [List.flatMap_cons, List.length_append, List.length_cons]
      omega
  induction xs with
  | nil => simp
  | cons x xs ih =>
    rw [List.flatMap_cons, List.forall_mem_cons]
    constructor
    · intro he
      obtain ⟨y, more, hx⟩ := List.exists_cons_of_ne_nil (h x)
      have hlength := congrArg List.length he
      have hrest := hle xs
      rw [hx, List.length_append, List.length_cons, List.length_cons] at hlength
      obtain rfl := List.length_eq_zero_iff.1 (show more.length = 0 by omega)
      rw [hx] at he ⊢
      obtain ⟨rfl, hxs⟩ := List.cons.inj he
      exact ⟨rfl, ih.1 hxs⟩
    · rintro ⟨hx, hxs⟩
      rw [hx, ih.2 hxs, List.singleton_append]

theorem linesFor_ne_nil (room : Nat) (cs : List Char) : linesFor room cs ≠ [] := by
  obtain ⟨line, lines, hlines⟩ := List.exists_cons_of_ne_nil (pieceChars_ne_nil '\n' cs)
  rw [linesFor, hlines, List.flatMap_cons]
  exact List.append_ne_nil_of_left_ne_nil (wrapLine_ne_nil room line) _

/-- **A text is shown as it is** exactly if each of its lines is kept. -/
theorem setOff_linesFor_iff {cs : List Char} :
    Console.setOff (linesFor room cs) = cs ↔ ∀ line ∈ pieceChars '\n' cs, Kept room line := by
  have hlines : Console.setOff (linesFor room cs) = cs ↔ linesFor room cs = pieceChars '\n' cs := by
    constructor
    · intro he
      rw [← he, pieceChars_setOff (linesFor_ne_nil room cs), he]
      intro part hpart hmem
      obtain ⟨line, hline, hpart⟩ := List.mem_flatMap.1 hpart
      rcases mem_wrapLine hpart hmem with hmem | hspace
      · exact (mem_of_mem_pieceChars hline hmem).2 rfl
      · cases hspace
    · intro he
      rw [he, setOff_pieceChars]
  rw [hlines]
  exact flatMap_eq_self_iff (wrapLine_ne_nil room)

theorem ended_linesFor_iff {cs : List Char} :
    Console.ended (linesFor room cs) = cs ++ ['\n'] ↔ ∀ line ∈ pieceChars '\n' cs, Kept room line := by
  rw [ended_eq_setOff (linesFor_ne_nil room cs), List.append_left_inj, setOff_linesFor_iff]

/-- A line whose end is shown is shown up to there. -/
theorem eq_of_ended_linesFor {line shown : List Char} (hline : '\n' ∉ line) (hshown : '\n' ∉ shown)
    (hsolid : EndsSolid shown) (h : Console.ended (linesFor room line) = shown ++ ['\n']) :
    wrapLine id (fun _ => ' ') room line = [shown] ∧ shown <+: line := by
  have hlines : linesFor room line = wrapLine id (fun _ => ' ') room line := by
    rw [linesFor, pieceChars_single hline, List.flatMap_singleton]
  have hbreaks : ∀ part ∈ wrapLine id (fun _ => ' ') room line, '\n' ∉ part := by
    intro part hpart hmem
    rcases mem_wrapLine hpart hmem with hmem | hspace
    · exact hline hmem
    · cases hspace
  have hne := wrapLine_ne_nil room line
  rw [hlines, ended_eq_setOff hne, List.append_left_inj] at h
  have hpart : wrapLine id (fun _ => ' ') room line = [shown] := by
    rw [← pieceChars_setOff hne hbreaks, h, pieceChars_single hshown]
  refine ⟨hpart, ?_⟩
  obtain ⟨blanks, hsplit, -⟩ := exists_trimBeyond room line
  have hwhole := wrapLine_eq_singleton hpart
  rw [hwhole] at hsolid ⊢
  refine (truncate_isPrefix hsolid).trans ⟨blanks, hsplit.symm⟩

end Kept

end Invocation.Display

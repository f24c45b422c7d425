import Mathlib.Algebra.BigOperators.Group.List.Basic
import Mathlib.Algebra.GroupWithZero.Nat
import Invocation.Text.Cluster
import Invocation.Text.Split

/-!
# Cells of steady texts

The width of a text is not the sum of the widths of its characters where joiners and emoji selectors stand
in it. In a steady text there are none, so that widths add up (`width_append`), and each cluster is a
character with others that fill no cell (`clustered_clusters`).
-/

namespace Invocation.Text

/-! ## Widths -/

/-- No character of a text changes the width of another one. -/
def Steady (cs : List Char) : Prop :=
  ∀ c ∈ cs, c ≠ joiner ∧ c ≠ emojiSelector

instance : DecidablePred Steady :=
  fun cs => List.decidableBAll _ cs

theorem Steady.mono {cs ds : List Char} (h : Steady ds) (hsub : cs ⊆ ds) : Steady cs :=
  fun c hc => h c (hsub hc)

theorem Steady.append {xs ys : List Char} (hxs : Steady xs) (hys : Steady ys) : Steady (xs ++ ys) := by
  intro c hc
  rcases List.mem_append.1 hc with hc | hc
  · exact hxs c hc
  · exact hys c hc

theorem charWidth_le (c : Char) : charWidth c ≤ 2 := by
  unfold charWidth
  dsimp only
  split
  · omega
  · split
    · omega
    · split <;> omega

theorem widthAfter_steady {cs : List Char} (h : Steady cs) (last : Option Char) :
    widthAfter last cs = (cs.map charWidth).sum := by
  induction cs generalizing last with
  | nil => rfl
  | cons c cs ih =>
    obtain ⟨hjoiner, hselector⟩ := h c List.mem_cons_self
    have hcs : Steady cs := h.mono (List.subset_cons_self c cs)
    unfold widthAfter
    rw [if_neg hjoiner, if_neg hselector, List.map_cons, List.sum_cons]
    cases hwidth : charWidth c with
    | zero => rw [Nat.zero_add, ← ih hcs last]
    | succ w => rw [← ih hcs (some c)]

theorem width_steady {cs : List Char} (h : Steady cs) : width cs = (cs.map charWidth).sum :=
  widthAfter_steady h none

theorem width_cons {c : Char} {cs : List Char} (h : Steady (c :: cs)) :
    width (c :: cs) = charWidth c + width cs := by
  rw [width_steady h, width_steady (h.mono (List.subset_cons_self c cs)), List.map_cons, List.sum_cons]

theorem width_append {xs ys : List Char} (h : Steady (xs ++ ys)) :
    width (xs ++ ys) = width xs + width ys := by
  rw [width_steady h, width_steady (h.mono (List.subset_append_left xs ys)),
    width_steady (h.mono (List.subset_append_right xs ys)), List.map_append, List.sum_append]

/-! ## Clusters -/

/-- A cluster begins with a character that fills its cells. -/
def Cluster.Led (cluster : Cluster) : Prop :=
  ∃ c marks, cluster.chars = c :: marks ∧ cluster.cells = charWidth c ∧ ∀ mark ∈ marks, charWidth mark = 0

theorem Cluster.Led.width_eq {cluster : Cluster} (h : cluster.Led) (hsteady : Steady cluster.chars) :
    width cluster.chars = cluster.cells := by
  obtain ⟨c, marks, hchars, hcells, hmarks⟩ := h
  have hzero : (marks.map charWidth).sum = 0 := by
    rw [List.sum_eq_zero]
    intro w hw
    obtain ⟨mark, hmark, rfl⟩ := List.mem_map.1 hw
    exact hmarks mark hmark
  rw [width_steady hsteady, hchars, hcells, List.map_cons, List.sum_cons, hzero, Nat.add_zero]

theorem Cluster.Led.cells_le {cluster : Cluster} (h : cluster.Led) : cluster.cells ≤ 2 := by
  obtain ⟨c, -, -, hcells, -⟩ := h
  rw [hcells]
  exact charWidth_le c

/-- Clusters make up a text; but for the first one they fill cells. -/
structure Clustered (cs : List Char) (list : List Cluster) : Prop where
  chars : list.flatMap Cluster.chars = cs
  led : ∀ cluster ∈ list, cluster.Led
  filled : ∀ cluster ∈ list.tail, 0 < cluster.cells

theorem Clustered.tail {cs : List Char} {cluster : Cluster} {rest : List Cluster}
    (h : Clustered cs (cluster :: rest)) : Clustered (rest.flatMap Cluster.chars) rest where
  chars := rfl
  led := fun other hother => h.led other (List.mem_cons_of_mem _ hother)
  filled := fun other hother => h.filled other (List.mem_of_mem_tail hother)

/-- A character that fills no cell joins the cluster before it. -/
theorem Clustered.addToLast {cs : List Char} {done : List Cluster} (h : Clustered cs done.reverse) {c : Char}
    (hc : charWidth c = 0) : Clustered (cs ++ [c]) (Text.addToLast [c] 0 done).reverse := by
  cases done with
  | nil =>
    obtain rfl : [] = cs := h.chars
    refine ⟨rfl, ?_, ?_⟩
    · intro cluster hcluster
      obtain rfl := List.mem_singleton.1 hcluster
      exact ⟨c, [], rfl, hc.symm, by simp⟩
    · intro cluster hcluster
      cases hcluster
  | cons last rest =>
    have hled := h.led
    have hfilled := h.filled
    rw [List.reverse_cons] at hled hfilled
    refine ⟨?_, ?_, ?_⟩
    · rw [← h.chars, Text.addToLast]
      simp
    · intro cluster hcluster
      rw [Text.addToLast, List.reverse_cons] at hcluster
      rcases List.mem_append.1 hcluster with hrest | hlast
      · exact hled cluster (List.mem_append_left _ hrest)
      · obtain rfl := List.mem_singleton.1 hlast
        obtain ⟨d, marks, hchars, hcells, hmarks⟩ := hled last (by simp)
        refine ⟨d, marks ++ [c], by simp [hchars], hcells, ?_⟩
        intro mark hmark
        rcases List.mem_append.1 hmark with hmark | hmark
        · exact hmarks mark hmark
        · obtain rfl := List.mem_singleton.1 hmark
          exact hc
    · intro cluster hcluster
      rw [Text.addToLast, List.reverse_cons] at hcluster
      cases hreverse : rest.reverse with
      | nil =>
        rw [hreverse] at hcluster
        cases hcluster
      | cons first more =>
        rw [hreverse, List.cons_append, List.tail_cons] at hcluster hfilled
        rcases List.mem_append.1 hcluster with hmore | hlast
        · exact hfilled cluster (List.mem_append_left _ hmore)
        · obtain rfl := List.mem_singleton.1 hlast
          exact hfilled last (by simp)

/-- A character that fills cells begins a cluster. -/
theorem Clustered.push {cs : List Char} {done : List Cluster} (h : Clustered cs done.reverse) {c : Char}
    {w : Nat} (hc : charWidth c = w + 1) : Clustered (cs ++ [c]) (⟨[c], w + 1⟩ :: done).reverse := by
  rw [List.reverse_cons]
  refine ⟨?_, ?_, ?_⟩
  · rw [List.flatMap_append, h.chars]
    rfl
  · intro cluster hcluster
    rcases List.mem_append.1 hcluster with hdone | hlast
    · exact h.led cluster hdone
    · obtain rfl := List.mem_singleton.1 hlast
      exact ⟨c, [], rfl, hc.symm, by simp⟩
  · intro cluster hcluster
    have hmem : cluster ∈ done.reverse.tail ∨ cluster = ⟨[c], w + 1⟩ := by
      cases hreverse : done.reverse with
      | nil =>
        rw [hreverse] at hcluster
        cases hcluster
      | cons first more =>
        rw [hreverse] at hcluster
        simpa using hcluster
    rcases hmem with hdone | rfl
    · exact h.filled cluster hdone
    · exact Nat.succ_pos w

theorem clustered_clustersAfter {cs before : List Char} (hsteady : Steady cs) {done : List Cluster}
    (hdone : Clustered before done.reverse) (last : Option Char) :
    Clustered (before ++ cs) (clustersAfter last done cs) := by
  induction cs generalizing before done last with
  | nil =>
    rw [List.append_nil]
    exact hdone
  | cons c cs ih =>
    obtain ⟨hjoiner, hselector⟩ := hsteady c List.mem_cons_self
    have hcs : Steady cs := hsteady.mono (List.subset_cons_self c cs)
    unfold clustersAfter
    rw [if_neg hjoiner, if_neg hselector, List.append_cons]
    cases hwidth : charWidth c with
    | zero => exact ih hcs (hdone.addToLast hwidth) last
    | succ w => exact ih hcs (hdone.push hwidth) (some c)

/-- **The clusters of a steady text** make it up. -/
theorem clustered_clusters {cs : List Char} (h : Steady cs) : Clustered cs (clusters cs) := by
  have hnone : Clustered [] ([] : List Cluster).reverse := by
    refine ⟨rfl, ?_, ?_⟩
    · simp
    · simp
  exact clustered_clustersAfter h hnone none

end Invocation.Text

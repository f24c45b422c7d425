import Invocation.Text.Width

/-!
# Clusters

Characters that are kept together when a text is cut: one that fills cells and what combines with
it. The clusters of a text are its characters in order, and the widths of the clusters add up to the
width of the text.
-/

namespace Invocation.Text

/-- Characters that are kept together, and the cells they fill. -/
structure Cluster where
  chars : List Char
  cells : Nat

/-- Adds characters to the last cluster, or starts the first. The clusters are in reverse order. -/
def addToLast (chars : List Char) (extra : Nat) : List Cluster → List Cluster
  | [] => [⟨chars, 0⟩]
  | last :: rest => ⟨last.chars ++ chars, last.cells + extra⟩ :: rest

/-- The clusters of the rest of a text after `done`, which are in reverse order, where `last` is the
last character that filled a cell. -/
def clustersAfter (last : Option Char) (done : List Cluster) : List Char → List Cluster
  | [] => done.reverse
  | c :: rest =>
    if c = joiner then
      match done, rest with
      | [], rest => clustersAfter last [⟨[c], 0⟩] rest
      | done, [] => (addToLast [c] 0 done).reverse
      | done, d :: rest => clustersAfter last (addToLast [c, d] 0 done) rest
    else if c = emojiSelector then
      match last with
      | some d =>
        if done.isEmpty || !Range.mem widenable d.toNat then
          clustersAfter last (addToLast [c] 0 done) rest
        else clustersAfter none (addToLast [c] 1 done) rest
      | none => clustersAfter none (addToLast [c] 0 done) rest
    else
      match charWidth c with
      | 0 => clustersAfter last (addToLast [c] 0 done) rest
      | w + 1 => clustersAfter (some c) (⟨[c], w + 1⟩ :: done) rest

/-- The clusters of a text. -/
def clusters (cs : List Char) : List Cluster :=
  clustersAfter none [] cs

end Invocation.Text

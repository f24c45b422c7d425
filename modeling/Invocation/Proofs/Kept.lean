import Invocation.Proofs.Encoded

/-!
# What a reader keeps back

Between two reads the reader has handed on the text of all bytes but a few (`textSoFar_keeps`). Those
it keeps back are at most three. They begin a character without completing it, or they are the first
two bytes of a surrogate, which are kept back although no character begins with them
(`not_unfinished_surrogate`). What has been handed on stays, whatever comes.

`Decoder.Keeps` says which bytes a decoder stands after: where it owes bytes, all that it may still
take complete a character. A byte is kept with the others, or completes what was kept, or ends it and
is kept alone (`Decoder.Keeps.step`); from this the bytes of any input are followed one by one
(`Decoder.exists_kept`).
-/

namespace Invocation.Utf8

/-- The bytes begin a character and do not complete it; no bytes at all do so too. -/
def Unfinished (bytes : List UInt8) : Prop :=
  ∃ c : Char, bytes <+: encodeChar c ∧ bytes ≠ encodeChar c

/-- The bytes are the first two of a surrogate. -/
def SurrogateStart (bytes : List UInt8) : Prop :=
  ∃ b : UInt8, bytes = [0xed, b] ∧ 0xa0 ≤ b ∧ b ≤ 0xbf

theorem Unfinished.length_le {bytes : List UInt8} (h : Unfinished bytes) : bytes.length ≤ 3 := by
  obtain ⟨c, hstart, hne⟩ := h
  have hle := hstart.length_le
  have hlength : bytes.length ≠ (encodeChar c).length := fun he => hne (hstart.eq_of_length he)
  have hfour := (sequence_encodeChar c).length_le
  omega

theorem Sequence.unfinished {kept rest : List UInt8} {n : Nat} (h : Sequence (kept ++ rest) n)
    (hrest : rest ≠ []) : Unfinished kept := by
  refine ⟨Char.ofNat n, ?_, ?_⟩
  · rw [h.encodeChar_ofNat]
    exact List.prefix_append kept rest
  · rw [h.encodeChar_ofNat]
    intro he
    exact hrest (List.append_right_eq_self.1 he.symm)

theorem secondLow_le (a : UInt8) : secondLow a ≤ secondHigh a := by
  unfold secondLow secondHigh
  by_cases h1 : a = 0xe0
  · subst h1; decide
  by_cases h2 : a = 0xf0
  · subst h2; decide
  rw [if_neg h1, if_neg h2]
  split
  · decide
  split <;> decide

namespace Decoder

/-! ## What a decoder keeps -/

/-- The bytes that a decoder stands after and has said nothing about. -/
def Keeps : Decoder → List UInt8 → Prop
  | ready, kept => kept = []
  | owing more low high _, kept =>
    low ≤ high ∧ ∀ (b : UInt8) (tails : List UInt8), (low ≤ b && b ≤ high) = true →
      tails.length = more → (∀ t ∈ tails, isTail t = true) → ∃ n, Sequence (kept ++ b :: tails) n
  | afterED, kept => kept = [0xed]
  | surrogate, kept => SurrogateStart kept

theorem Keeps.unfinished {d : Decoder} {kept : List UInt8} (h : d.Keeps kept) :
    Unfinished kept ∧ d.finish.length ≤ 1 ∨ SurrogateStart kept ∧ d.finish.length = 2 := by
  cases d with
  | ready =>
    obtain rfl : kept = [] := h
    have hseq : Sequence ([] ++ [0x61]) 0x61 := .one rfl
    exact Or.inl ⟨hseq.unfinished (by simp), by simp [finish]⟩
  | owing more low high code =>
    obtain ⟨hle, hseq⟩ := h
    have htails : ∀ t ∈ List.replicate more (0x80 : UInt8), isTail t = true := by
      intro t ht
      rw [List.eq_of_mem_replicate ht]
      rfl
    obtain ⟨n, hn⟩ := hseq low (List.replicate more 0x80) (by simp [hle]) List.length_replicate htails
    exact Or.inl ⟨hn.unfinished (by simp), by simp [finish]⟩
  | afterED =>
    obtain rfl : kept = [0xed] := h
    have hseq : Sequence ([0xed] ++ [0x80, 0x80]) 0xd000 := .three rfl rfl rfl
    exact Or.inl ⟨hseq.unfinished (by simp), by simp [finish]⟩
  | surrogate => exact Or.inr ⟨h, rfl⟩

/-- A first byte is kept alone, unless nothing is. -/
theorem begin_keeps (a : UInt8) :
    (begin a).1 = ready ∨ (begin a).2 = [] ∧ (begin a).1.Keeps [a] := by
  rcases sequenceLength_cases a with h | h | h | h | h
  · simp [begin_eq, h]
  · simp [begin_eq, h]
  · rw [begin_eq, h]
    refine Or.inr ⟨rfl, secondLow_le a, fun b tails hb hlen _ => ?_⟩
    rw [← isSecond_eq] at hb
    obtain rfl := List.length_eq_zero_iff.1 hlen
    exact ⟨_, .two h hb⟩
  · simp only [begin_eq, h]
    by_cases ha : a = 0xed
    · rw [if_pos ha]
      exact Or.inr ⟨rfl, by rw [ha]; rfl⟩
    · rw [if_neg ha]
      refine Or.inr ⟨rfl, secondLow_le a, fun b tails hb hlen ht => ?_⟩
      rw [← isSecond_eq] at hb
      obtain ⟨c, rfl⟩ := List.length_eq_one_iff.1 hlen
      exact ⟨_, .three h hb (ht c (by simp))⟩
  · rw [begin_eq, h]
    refine Or.inr ⟨rfl, secondLow_le a, fun b tails hb hlen ht => ?_⟩
    rw [← isSecond_eq] at hb
    obtain ⟨c, d, rfl⟩ := List.length_eq_two.1 hlen
    exact ⟨_, .four h hb (ht c (by simp)) (ht d (by simp))⟩

theorem giveUp_keeps (count : Nat) (b : UInt8) :
    (giveUp count b).1 = ready ∨
      (giveUp count b).2 = List.replicate count replacement ∧ (giveUp count b).1.Keeps [b] := by
  refine (begin_keeps b).imp_right fun ⟨htext, hkeeps⟩ => ⟨?_, hkeeps⟩
  simp only [giveUp, htext, List.append_nil]

/-- **One byte more**: the decoder keeps nothing, or it keeps the byte with the others and says
nothing, or it gives the others up and keeps the byte alone. -/
theorem Keeps.step {d : Decoder} {kept : List UInt8} (h : d.Keeps kept) (b : UInt8) :
    (d.step b).1 = ready ∨
      (d.step b).2 = [] ∧ (d.step b).1.Keeps (kept ++ [b]) ∨
        (d.step b).2 = d.finish ∧ (d.step b).1.Keeps [b] := by
  cases d with
  | ready =>
    obtain rfl : kept = [] := h
    exact (begin_keeps b).imp_right Or.inl
  | owing more low high code =>
    obtain ⟨-, hseq⟩ := h
    by_cases hb : (low ≤ b && b ≤ high) = true
    · rw [Decoder.step, if_pos hb]
      cases more with
      | zero => exact Or.inl rfl
      | succ more =>
        refine Or.inr (Or.inl ⟨rfl, by decide, fun c tails hc hlen ht => ?_⟩)
        rw [List.append_assoc]
        refine hseq b (c :: tails) hb (by rw [List.length_cons, hlen]) ?_
        intro t htail
        rcases List.mem_cons.1 htail with rfl | htail
        · exact hc
        · exact ht t htail
    · rw [Decoder.step, if_neg hb]
      exact (giveUp_keeps 1 b).imp_right Or.inr
  | afterED =>
    obtain rfl : kept = [0xed] := h
    rw [Decoder.step]
    by_cases hb : (0x80 ≤ b && b ≤ 0x9f) = true
    · rw [if_pos hb]
      refine Or.inr (Or.inl ⟨rfl, by decide, fun c tails hc hlen _ => ?_⟩)
      obtain rfl := List.length_eq_zero_iff.1 hlen
      exact ⟨_, .three rfl hb hc⟩
    · rw [if_neg hb]
      by_cases hs : (0xa0 ≤ b && b ≤ 0xbf) = true
      · rw [if_pos hs]
        rw [Bool.and_eq_true, decide_eq_true_eq, decide_eq_true_eq] at hs
        exact Or.inr (Or.inl ⟨rfl, b, rfl, hs⟩)
      · rw [if_neg hs]
        exact (giveUp_keeps 1 b).imp_right Or.inr
  | surrogate => exact (giveUp_keeps 2 b).imp_right Or.inr

/-- **Any input** is what the decoder has given the text of, and what it keeps. -/
theorem exists_kept (bytes : List UInt8) :
    ∃ whole kept, bytes = whole ++ kept ∧ (ready.feed bytes).2 = decode whole ∧
      (ready.feed bytes).1.Keeps kept := by
  induction bytes using List.reverseRecOn with
  | nil => exact ⟨[], [], rfl, rfl, rfl⟩
  | append_singleton bytes b ih =>
    obtain ⟨whole, kept, heq, htext, hkeeps⟩ := ih
    have hfeed : ready.feed (bytes ++ [b]) =
        (((ready.feed bytes).1.step b).1,
          (ready.feed bytes).2 ++ ((ready.feed bytes).1.step b).2) := by
      rw [feed_append]
      simp [feed]
    rcases hkeeps.step b with hready | ⟨hnone, hkept⟩ | ⟨hfinish, hkept⟩
    · -- Nothing is kept, so the text is that of all bytes.
      refine ⟨bytes ++ [b], [], (List.append_nil _).symm, ?_, ?_⟩
      · rw [← toEnd_ready, toEnd, hfeed]
        simp only [hready, finish, List.append_nil]
      · rw [hfeed]
        simp only [hready, Keeps]
    · refine ⟨whole, kept ++ [b], by rw [heq, List.append_assoc], ?_, ?_⟩
      · rw [hfeed, hnone, List.append_nil, htext]
      · rw [hfeed]
        exact hkept
    · refine ⟨bytes, [b], rfl, ?_, ?_⟩
      · rw [← toEnd_ready, toEnd, hfeed, hfinish]
      · rw [hfeed]
        exact hkept

end Decoder

end Invocation.Utf8

namespace Invocation.Capture

open Invocation.Utf8

/-- The text that some reads have handed on, while the stream goes on. -/
def textSoFar (reads : List (List UInt8)) : List Char :=
  (handed .ready reads).2.flatMap String.toList

theorem textSoFar_eq (reads : List (List UInt8)) :
    textSoFar reads = (Decoder.ready.feed reads.flatten).2 :=
  (handed_eq_feed .ready reads).2

theorem textSoFar_isPrefix_append (reads more : List (List UInt8)) :
    textSoFar reads <+: textSoFar (reads ++ more) := by
  rw [textSoFar_eq, textSoFar_eq, List.flatten_append, Decoder.feed_append]
  exact List.prefix_append _ _

theorem textSoFar_isPrefix_texts (reads : List (List UInt8)) :
    textSoFar reads <+: (texts reads).flatMap String.toList := by
  simp only [texts, List.flatMap_append]
  exact List.prefix_append _ _

/-- **Between two reads** the text of all bytes but a few has been handed on. Those that are kept
back are at most three, and begin a character or a surrogate without completing it; if the stream
ended here they would add at most one character to the text, and two for a surrogate. What has been
handed on stays, whatever is read. -/
theorem textSoFar_keeps (reads : List (List UInt8)) :
    (∃ whole kept lost, reads.flatten = whole ++ kept ∧ textSoFar reads = decode whole ∧
      decode reads.flatten = textSoFar reads ++ lost ∧ kept.length ≤ 3 ∧
        (Unfinished kept ∧ lost.length ≤ 1 ∨ SurrogateStart kept ∧ lost.length = 2)) ∧
    ∀ more, textSoFar reads <+: textSoFar (reads ++ more) ∧
      textSoFar reads <+: (texts (reads ++ more)).flatMap String.toList := by
  refine ⟨?_, fun more => ?_⟩
  · obtain ⟨whole, kept, heq, htext, hkeeps⟩ := Decoder.exists_kept reads.flatten
    refine ⟨whole, kept, (Decoder.ready.feed reads.flatten).1.finish, heq, ?_, ?_, ?_, ?_⟩
    · rw [textSoFar_eq, htext]
    · rw [textSoFar_eq, ← Decoder.toEnd_ready, Decoder.toEnd]
    · rcases hkeeps.unfinished with ⟨h, -⟩ | ⟨⟨b, rfl, -⟩, -⟩
      · exact h.length_le
      · simp
    · exact hkeeps.unfinished
  · have hmore := textSoFar_isPrefix_append reads more
    exact ⟨hmore, hmore.trans (textSoFar_isPrefix_texts (reads ++ more))⟩

/-- The first two bytes of a surrogate are kept back, and begin no character. -/
theorem not_unfinished_surrogate :
    ¬∃ whole kept, [[0xed, 0xa0]].flatten = whole ++ kept ∧
      textSoFar [[0xed, 0xa0]] = decode whole ∧ kept.length ≤ 3 ∧ Unfinished kept := by
  rintro ⟨whole, kept, heq, htext, -, c, hstart, -⟩
  cases whole with
  | cons a rest =>
    have hcons := Decoder.toEnd_ready_cons a rest
    rw [Decoder.toEnd_ready, ← htext] at hcons
    cases hcons
  | nil =>
    obtain rfl : kept = [0xed, 0xa0] := heq.symm
    obtain ⟨later, hlater⟩ := hstart
    have hseq := sequence_encodeChar c
    rw [← hlater] at hseq
    generalize c.toNat = n at hseq
    cases hseq with
    | two ha => exact absurd ha (by decide)
    | three _ hb => exact absurd hb (by decide)
    | four ha => exact absurd ha (by decide)

end Invocation.Capture

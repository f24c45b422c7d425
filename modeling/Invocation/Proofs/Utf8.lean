import Invocation.Utf8.Decoder
import Invocation.Utf8.Replace

/-!
# The decoder byte by byte decodes as a whole

`Decoder.toEnd d bytes` is the text of some bytes and of the end of the input after them, from where
`d` stands. Between characters it is what reading the bytes as a whole gives (`toEnd_ready`): both
take the same first unit from the bytes and go on after it (`toEnd_ready_cons`).

The first unit depends on the number of bytes that its first byte asks for. Each such byte but one
leads to a state that owes continuation bytes (`begin_eq`). The exception is the byte that surrogates
begin with: the decoder keeps back the first two bytes of a surrogate, which are two units of the
whole. Up to the end of the input that makes no difference (`toEnd_afterED`).
-/

namespace Invocation.Utf8

/-! ## First and second bytes -/

/-- The least byte that may follow the first byte `a` of a sequence of two or more. -/
def secondLow (a : UInt8) : UInt8 :=
  if a = 0xe0 then 0xa0 else if a = 0xf0 then 0x90 else 0x80

/-- The greatest such byte. -/
def secondHigh (a : UInt8) : UInt8 :=
  if a = 0xed then 0x9f else if a = 0xf4 then 0x8f else 0xbf

theorem isSecond_eq (a b : UInt8) : isSecond a b = (secondLow a ≤ b && b ≤ secondHigh a) := by
  unfold isSecond secondLow secondHigh isTail
  by_cases h1 : a = 0xe0
  · subst h1; rfl
  by_cases h2 : a = 0xed
  · subst h2; rfl
  by_cases h3 : a = 0xf0
  · subst h3; rfl
  by_cases h4 : a = 0xf4
  · subst h4; rfl
  simp only [h1, h2, h3, h4, ite_false]

theorem sequenceLength_cases (a : UInt8) :
    sequenceLength a = 0 ∨ sequenceLength a = 1 ∨ sequenceLength a = 2 ∨ sequenceLength a = 3 ∨
      sequenceLength a = 4 := by
  unfold sequenceLength
  grind

/-- The second byte of a surrogate begins no sequence. -/
theorem sequenceLength_surrogate {b : UInt8} (h : (0xa0 ≤ b && b ≤ 0xbf) = true) :
    sequenceLength b = 0 := by
  simp only [Bool.and_eq_true, decide_eq_true_eq, UInt8.le_iff_toNat_le] at h
  simp only [sequenceLength, UInt8.lt_iff_toNat_lt, UInt8.le_iff_toNat_le]
  grind

namespace Decoder

theorem begin_eq (a : UInt8) :
    begin a =
      match sequenceLength a with
      | 1 => (ready, [Char.ofNat a.toNat])
      | 2 => (owing 0 (secondLow a) (secondHigh a) (a.toNat - 0xc0), [])
      | 3 =>
        if a = 0xed then (afterED, [])
        else (owing 1 (secondLow a) (secondHigh a) (a.toNat - 0xe0), [])
      | 4 => (owing 2 (secondLow a) (secondHigh a) (a.toNat - 0xf0), [])
      | _ => (ready, [replacement]) := by
  simp only [begin, sequenceLength, secondLow, secondHigh, UInt8.lt_iff_toNat_lt,
    UInt8.le_iff_toNat_le, ← UInt8.toNat_inj]
  grind

/-! ## Text up to the end of the input -/

/-- The text of some bytes and of the end of the input after them. -/
def toEnd (d : Decoder) (bytes : List UInt8) : List Char :=
  (d.feed bytes).2 ++ (d.feed bytes).1.finish

@[simp] theorem toEnd_nil (d : Decoder) : d.toEnd [] = d.finish := by
  simp [toEnd, feed]

theorem toEnd_cons (d : Decoder) (b : UInt8) (rest : List UInt8) :
    d.toEnd (b :: rest) = (d.step b).2 ++ (d.step b).1.toEnd rest := by
  simp [toEnd, feed, List.append_assoc]

theorem toEnd_giveUp (kept : Nat) (b : UInt8) (rest : List UInt8) :
    (giveUp kept b).2 ++ (giveUp kept b).1.toEnd rest =
      List.replicate kept replacement ++ ready.toEnd (b :: rest) := by
  simp [giveUp, toEnd_cons, step, List.append_assoc]

/-- A byte that is owed goes into the character; any other ends the sequence and is read anew. -/
theorem toEnd_owing (more : Nat) (low high : UInt8) (code : Nat) (b : UInt8) (rest : List UInt8) :
    (owing more low high code).toEnd (b :: rest) =
      if low ≤ b && b ≤ high then
        match more with
        | 0 => Char.ofNat (code * 0x40 + tailBits b) :: ready.toEnd rest
        | more + 1 => (owing more 0x80 0xbf (code * 0x40 + tailBits b)).toEnd rest
      else replacement :: ready.toEnd (b :: rest) := by
  rw [toEnd_cons]
  by_cases hb : (low ≤ b && b ≤ high) = true
  · rw [if_pos hb]
    cases more with
    | zero => rw [step, if_pos hb]; rfl
    | succ more => rw [step, if_pos hb]; rfl
  · rw [if_neg hb, step, if_neg hb]
    exact toEnd_giveUp 1 b rest

theorem toEnd_second (more : Nat) (a : UInt8) (code : Nat) (b : UInt8) (rest : List UInt8) :
    (owing more (secondLow a) (secondHigh a) code).toEnd (b :: rest) =
      if isSecond a b then
        match more with
        | 0 => Char.ofNat (code * 0x40 + tailBits b) :: ready.toEnd rest
        | more + 1 => (owing more 0x80 0xbf (code * 0x40 + tailBits b)).toEnd rest
      else replacement :: ready.toEnd (b :: rest) := by
  rw [isSecond_eq]
  exact toEnd_owing ..

theorem toEnd_tail (more code : Nat) (b : UInt8) (rest : List UInt8) :
    (owing more 0x80 0xbf code).toEnd (b :: rest) =
      if isTail b then
        match more with
        | 0 => Char.ofNat (code * 0x40 + tailBits b) :: ready.toEnd rest
        | more + 1 => (owing more 0x80 0xbf (code * 0x40 + tailBits b)).toEnd rest
      else replacement :: ready.toEnd (b :: rest) :=
  toEnd_owing ..

/-- Both bytes that a surrogate began with are replaced, whatever follows. -/
theorem toEnd_surrogate (rest : List UInt8) :
    surrogate.toEnd rest = replacement :: replacement :: ready.toEnd rest := by
  cases rest with
  | nil => rfl
  | cons b rest =>
    rw [toEnd_cons]
    exact toEnd_giveUp 2 b rest

/-- Up to the end of the input, `0xed` begins a sequence like any other first byte. -/
theorem toEnd_afterED (bytes : List UInt8) :
    afterED.toEnd bytes =
      (owing 1 (secondLow 0xed) (secondHigh 0xed) (UInt8.toNat 0xed - 0xe0)).toEnd bytes := by
  cases bytes with
  | nil => rfl
  | cons b rest =>
    rw [toEnd_second, toEnd_cons]
    by_cases hb : isSecond 0xed b = true
    · rw [if_pos hb, step, if_pos (show (0x80 ≤ b && b ≤ 0x9f) = true from hb)]
      rfl
    · rw [if_neg hb, step, if_neg (show ¬(0x80 ≤ b && b ≤ 0x9f) = true from hb)]
      -- A second byte of a surrogate is kept back too, and would be a unit of its own.
      by_cases hs : (0xa0 ≤ b && b ≤ 0xbf) = true
      · rw [if_pos hs, toEnd_cons, step, begin_eq, sequenceLength_surrogate hs]
        exact toEnd_surrogate rest
      · rw [if_neg hs]
        exact toEnd_giveUp 1 b rest

/-! ## The first unit -/

theorem toEnd_ready_none {a : UInt8} (rest : List UInt8) (h : sequenceLength a = 0) :
    ready.toEnd (a :: rest) = replacement :: ready.toEnd rest := by
  rw [toEnd_cons, step, begin_eq, h]
  rfl

theorem toEnd_ready_one {a : UInt8} (rest : List UInt8) (h : sequenceLength a = 1) :
    ready.toEnd (a :: rest) = Char.ofNat a.toNat :: ready.toEnd rest := by
  rw [toEnd_cons, step, begin_eq, h]
  rfl

theorem toEnd_ready_two {a : UInt8} (rest : List UInt8) (h : sequenceLength a = 2) :
    ready.toEnd (a :: rest) =
      (owing 0 (secondLow a) (secondHigh a) (a.toNat - 0xc0)).toEnd rest := by
  rw [toEnd_cons, step, begin_eq, h]
  rfl

theorem toEnd_ready_three {a : UInt8} (rest : List UInt8) (h : sequenceLength a = 3) :
    ready.toEnd (a :: rest) =
      (owing 1 (secondLow a) (secondHigh a) (a.toNat - 0xe0)).toEnd rest := by
  rw [toEnd_cons, step, begin_eq, h]
  by_cases ha : a = 0xed
  · subst ha
    exact toEnd_afterED rest
  · simp only [ha, ite_false, List.nil_append]

theorem toEnd_ready_four {a : UInt8} (rest : List UInt8) (h : sequenceLength a = 4) :
    ready.toEnd (a :: rest) =
      (owing 2 (secondLow a) (secondHigh a) (a.toNat - 0xf0)).toEnd rest := by
  rw [toEnd_cons, step, begin_eq, h]
  rfl

/-- **The decoder takes the first unit** that reading as a whole takes, and goes on after it. -/
theorem toEnd_ready_cons (a : UInt8) (rest : List UInt8) :
    ready.toEnd (a :: rest) =
      (unitAt (a :: rest)).1.getD replacement ::
        ready.toEnd ((a :: rest).drop (unitAt (a :: rest)).2) := by
  rcases sequenceLength_cases a with h | h | h | h | h
  · simp [toEnd_ready_none rest h, unitAt, h]
  · simp [toEnd_ready_one rest h, unitAt, h]
  · rw [toEnd_ready_two rest h]
    rcases rest with _ | ⟨b, rest⟩
    · simp [unitAt, h, finish]
    · by_cases hb : isSecond a b = true <;> simp [toEnd_second, unitAt, h, hb]
  · rw [toEnd_ready_three rest h]
    rcases rest with _ | ⟨b, _ | ⟨c, rest⟩⟩
    · simp [unitAt, h, finish]
    · by_cases hb : isSecond a b = true <;> simp [toEnd_second, unitAt, h, hb, finish]
    · by_cases hb : isSecond a b = true <;> by_cases hc : isTail c = true <;>
        simp [toEnd_second, toEnd_tail, unitAt, h, hb, hc]
  · rw [toEnd_ready_four rest h]
    rcases rest with _ | ⟨b, _ | ⟨c, _ | ⟨d, rest⟩⟩⟩
    · simp [unitAt, h, finish]
    · by_cases hb : isSecond a b = true <;> simp [toEnd_second, unitAt, h, hb, finish]
    · by_cases hb : isSecond a b = true <;> by_cases hc : isTail c = true <;>
        simp [toEnd_second, toEnd_tail, unitAt, h, hb, hc, finish]
    · by_cases hb : isSecond a b = true <;> by_cases hc : isTail c = true <;>
        by_cases hd : isTail d = true <;>
        simp [toEnd_second, toEnd_tail, unitAt, h, hb, hc, hd]

/-! ## The whole -/

theorem unitAt_pos (bytes : List UInt8) : 0 < (unitAt bytes).2 := by
  unfold unitAt
  grind

theorem decodeWithin_eq_toEnd {fuel : Nat} {bytes : List UInt8} (h : bytes.length ≤ fuel) :
    decodeWithin fuel bytes = ready.toEnd bytes := by
  induction fuel generalizing bytes with
  | zero =>
    obtain rfl := List.length_eq_zero_iff.1 (Nat.le_zero.1 h)
    rfl
  | succ fuel ih =>
    cases bytes with
    | nil => rfl
    | cons a rest =>
      have hpos := unitAt_pos (a :: rest)
      have hlen : ((a :: rest).drop (unitAt (a :: rest)).2).length ≤ fuel := by
        rw [List.length_drop]
        omega
      rw [toEnd_ready_cons, ← ih hlen]
      rfl

/-- **Byte by byte up to the end** is as a whole. -/
theorem toEnd_ready (bytes : List UInt8) : ready.toEnd bytes = decode bytes :=
  (decodeWithin_eq_toEnd (Nat.le_refl _)).symm

end Decoder

end Invocation.Utf8

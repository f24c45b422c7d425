import Invocation.Proofs.Encoded

/-!
# No byte of ASCII is lost

Whatever bytes are captured, the characters of ASCII in their text are the bytes of ASCII among them,
and every other character is the replacement character or stands in the bytes as a well-formed
sequence (`texts_ascii`).

Reading as a whole cuts the bytes into units (`units_decode`). A unit is a well-formed sequence, or
it is replaced; a unit that is replaced holds no byte of ASCII (`takesFirst`), for each of its bytes
after the first is one that may continue a sequence. Both laws are then inductions on the units.
-/

namespace Invocation.Utf8

/-! ## The first unit -/

/-- The bytes are none of ASCII. -/
def High (bytes : List UInt8) : Prop :=
  ∀ b ∈ bytes, 0x80 ≤ b.toNat

theorem high_first {a : UInt8} (h : sequenceLength a ≠ 1) : High [a] := by
  intro b hb
  obtain rfl := List.mem_singleton.1 hb
  rw [Ne, sequenceLength_eq_one] at h
  omega

theorem High.append_tail {bytes : List UInt8} {b : UInt8} (h : High bytes) (hb : isTail b = true) :
    High (bytes ++ [b]) := by
  intro c hc
  rcases List.mem_append.1 hc with hc | hc
  · exact h c hc
  · rw [List.mem_singleton.1 hc]
    rw [isTail_iff] at hb
    omega

theorem high_pair {a b : UInt8} (ha : sequenceLength a ≠ 1) (hb : isSecond a b = true) :
    High [a, b] :=
  (high_first ha).append_tail (isSecond_iff.1 hb).1

/-- What bytes are taken for: a well-formed sequence for its character, or bytes none of which is of
ASCII for no character. -/
inductive Taken : List UInt8 → Option Char → Prop where
  | char {s : List UInt8} {n : Nat} (h : Sequence s n) : Taken s (some (Char.ofNat n))
  | broken {s : List UInt8} (hne : s ≠ []) (h : High s) : Taken s none

/-- The first unit of the bytes is what some of them are taken for. -/
def TakesFirst (bytes : List UInt8) : Prop :=
  ∃ s later char, bytes = s ++ later ∧ unitAt bytes = (char, s.length) ∧ Taken s char

theorem Sequence.takesFirst {s : List UInt8} {n : Nat} (h : Sequence s n) (later : List UInt8) :
    TakesFirst (s ++ later) :=
  ⟨s, later, _, rfl, h.unitAt_append later, .char h⟩

theorem High.takesFirst {s t : List UInt8} (h : High s) (hne : s ≠ [])
    (hunit : unitAt (s ++ t) = (none, s.length)) : TakesFirst (s ++ t) :=
  ⟨s, t, none, rfl, hunit, .broken hne h⟩

/-- A first byte that no second byte follows is given up alone. -/
theorem takesFirst_of_not_second {a : UInt8} (h : sequenceLength a ≠ 1) {rest : List UInt8}
    (hrest : ∀ b ∈ rest.head?, isSecond a b = false) : TakesFirst (a :: rest) := by
  apply High.takesFirst (s := [a]) (high_first h) (List.cons_ne_nil a [])
  rcases sequenceLength_cases a with h' | h' | h' | h' | h'
  · simp [unitAt, h']
  · exact absurd h' h
  · rcases rest with _ | ⟨b, rest⟩
    · simp [unitAt, h']
    · simp [unitAt, h', hrest b rfl]
  · rcases rest with _ | ⟨b, _ | ⟨c, rest⟩⟩
    · simp [unitAt, h']
    · simp [unitAt, h', hrest b rfl]
    · simp [unitAt, h', hrest b rfl]
  · rcases rest with _ | ⟨b, _ | ⟨c, _ | ⟨d, rest⟩⟩⟩
    · simp [unitAt, h']
    · simp [unitAt, h', hrest b rfl]
    · simp [unitAt, h', hrest b rfl]
    · simp [unitAt, h', hrest b rfl]

theorem takesFirst (a : UInt8) (rest : List UInt8) : TakesFirst (a :: rest) := by
  by_cases hone : sequenceLength a = 1
  · exact (Sequence.one hone).takesFirst rest
  have ha := high_first hone
  rcases rest with _ | ⟨b, rest⟩
  · exact takesFirst_of_not_second hone (by simp)
  by_cases hb : isSecond a b = true
  · have hab := high_pair hone hb
    rcases sequenceLength_cases a with h | h | h | h | h
    · exact High.takesFirst (s := [a]) ha (by simp) (by simp [unitAt, h])
    · exact absurd h hone
    · exact (Sequence.two h hb).takesFirst rest
    · rcases rest with _ | ⟨c, rest⟩
      · exact High.takesFirst (s := [a, b]) (t := []) hab (by simp) (by simp [unitAt, h, hb])
      by_cases hc : isTail c = true
      · exact (Sequence.three h hb hc).takesFirst rest
      · exact High.takesFirst (s := [a, b]) hab (by simp) (by simp [unitAt, h, hb, hc])
    · rcases rest with _ | ⟨c, rest⟩
      · exact High.takesFirst (s := [a, b]) (t := []) hab (by simp) (by simp [unitAt, h, hb])
      by_cases hc : isTail c = true
      · have habc := hab.append_tail hc
        rcases rest with _ | ⟨d, rest⟩
        · exact High.takesFirst (s := [a, b, c]) (t := []) habc (by simp)
            (by simp [unitAt, h, hb, hc])
        by_cases hd : isTail d = true
        · exact (Sequence.four h hb hc hd).takesFirst rest
        · exact High.takesFirst (s := [a, b, c]) habc (by simp) (by simp [unitAt, h, hb, hc, hd])
      · rcases rest with _ | ⟨d, rest⟩
        · exact High.takesFirst (s := [a, b]) (t := [c]) hab (by simp)
            (by simp [unitAt, h, hb, hc])
        · exact High.takesFirst (s := [a, b]) hab (by simp) (by simp [unitAt, h, hb, hc])
  · exact takesFirst_of_not_second hone (by simpa using hb)

/-! ## Unit by unit -/

/-- The bytes are units one after another, and the text is what they are taken for. -/
inductive Units : List UInt8 → List Char → Prop where
  | nil : Units [] []
  | cons {s later : List UInt8} {char : Option Char} {text : List Char} (h : Taken s char)
    (hlater : Units later text) : Units (s ++ later) (char.getD replacement :: text)

theorem Taken.ne_nil {s : List UInt8} {char : Option Char} (h : Taken s char) : s ≠ [] := by
  cases h with
  | char h => rw [← h.encodeChar_ofNat]; exact encodeChar_ne_nil _
  | broken hne _ => exact hne

/-- **Reading as a whole** is reading unit by unit. -/
theorem units_decode (bytes : List UInt8) : Units bytes (decode bytes) := by
  induction hlen : bytes.length using Nat.strong_induction_on generalizing bytes with
  | _ len ih =>
    cases bytes with
    | nil => exact .nil
    | cons a rest =>
      obtain ⟨s, later, char, heq, hunit, htaken⟩ := takesFirst a rest
      have hpos := List.length_pos_iff.2 htaken.ne_nil
      rw [heq] at hlen hunit ⊢
      rw [List.length_append] at hlen
      rw [decode_append htaken.ne_nil later hunit]
      exact .cons htaken (ih later.length (by omega) later rfl)

/-! ## What a unit holds of ASCII -/

/-- The characters of ASCII in a text, by their codes. -/
def asciiChars (text : List Char) : List Nat :=
  (text.filter fun c => c.toNat < 0x80).map Char.toNat

/-- The bytes of ASCII among some bytes. -/
def asciiBytes (bytes : List UInt8) : List Nat :=
  (bytes.filter fun b => b.toNat < 0x80).map UInt8.toNat

theorem asciiChars_cons (c : Char) (text : List Char) :
    asciiChars (c :: text) = asciiChars [c] ++ asciiChars text := by
  rw [asciiChars, asciiChars, asciiChars, ← List.map_append, ← List.filter_append]
  rfl

theorem asciiBytes_append (bytes later : List UInt8) :
    asciiBytes (bytes ++ later) = asciiBytes bytes ++ asciiBytes later := by
  rw [asciiBytes, asciiBytes, asciiBytes, List.filter_append, List.map_append]

theorem asciiChars_of_high {c : Char} (h : 0x80 ≤ c.toNat) : asciiChars [c] = [] := by
  have hc : ¬c.toNat < 0x80 := by omega
  simp [asciiChars, hc]

theorem High.asciiBytes_eq {bytes : List UInt8} (h : High bytes) : asciiBytes bytes = [] := by
  have hnone : bytes.filter (fun b => b.toNat < 0x80) = [] := by
    rw [List.filter_eq_nil_iff]
    intro b hb hlt
    have hhigh := h b hb
    rw [decide_eq_true_eq] at hlt
    omega
  rw [asciiBytes, hnone]
  rfl

theorem Sequence.ascii_cases {s : List UInt8} {n : Nat} (h : Sequence s n) :
    (∃ a : UInt8, a.toNat < 0x80 ∧ s = [a] ∧ n = a.toNat) ∨ High s ∧ 0x80 ≤ n := by
  cases h with
  | @one a ha => exact Or.inl ⟨a, sequenceLength_eq_one.1 ha, rfl, rfl⟩
  | two ha hb =>
    have hhigh := high_pair (ha.trans_ne (by decide)) hb
    rw [sequenceLength_eq_two] at ha
    exact Or.inr ⟨hhigh, by omega⟩
  | three ha hb hc =>
    have hhigh := (high_pair (ha.trans_ne (by decide)) hb).append_tail hc
    rw [sequenceLength_eq_three] at ha
    rw [isSecond_iff] at hb
    exact Or.inr ⟨hhigh, by omega⟩
  | four ha hb hc hd =>
    have hhigh := ((high_pair (ha.trans_ne (by decide)) hb).append_tail hc).append_tail hd
    rw [sequenceLength_eq_four] at ha
    rw [isSecond_iff] at hb
    exact Or.inr ⟨hhigh, by omega⟩

theorem Taken.ascii {s : List UInt8} {char : Option Char} (h : Taken s char) :
    asciiChars [char.getD replacement] = asciiBytes s := by
  cases h with
  | broken _ h => rw [h.asciiBytes_eq]; rfl
  | @char n h =>
    have hcode : (Char.ofNat n).toNat = n := by rw [Char.toNat_ofNat, if_pos h.isValidChar]
    rcases h.ascii_cases with ⟨a, ha, rfl, rfl⟩ | ⟨hhigh, hn⟩
    · simp [asciiChars, asciiBytes, ha, hcode]
    · rw [hhigh.asciiBytes_eq]
      exact asciiChars_of_high (by rw [Option.getD_some, hcode]; exact hn)

/-! ## What all units hold -/

theorem Units.ascii {bytes : List UInt8} {text : List Char} (h : Units bytes text) :
    asciiChars text = asciiBytes bytes := by
  induction h with
  | nil => rfl
  | cons h _ ih => rw [asciiChars_cons, asciiBytes_append, h.ascii, ih]

/-- A character that replaces nothing stands in the bytes. -/
theorem Units.encodeChar_infix {bytes : List UInt8} {text : List Char} (h : Units bytes text) :
    ∀ c ∈ text, c = replacement ∨ encodeChar c <:+: bytes := by
  induction h with
  | nil => simp
  | @cons s later char text h _ ih =>
    intro c hc
    rcases List.mem_cons.1 hc with rfl | hc
    · cases h with
      | broken => exact Or.inl rfl
      | char h =>
        right
        rw [Option.getD_some, h.encodeChar_ofNat]
        exact (List.prefix_append s later).isInfix
    · exact (ih c hc).imp_right fun hinfix => hinfix.trans (List.suffix_append s later).isInfix

/-- The bytes of a character outside ASCII are more than one. -/
theorem one_lt_length_encodeChar {c : Char} (h : 0x80 ≤ c.toNat) : 1 < (encodeChar c).length := by
  have hseq := sequence_encodeChar c
  generalize encodeChar c = s at hseq
  generalize hn : c.toNat = n at hseq
  cases hseq with
  | one ha =>
    rw [sequenceLength_eq_one] at ha
    omega
  | two | three | four => simp

end Invocation.Utf8

namespace Invocation.Capture

open Invocation.Utf8

/-- **No byte of ASCII is lost** or added by capturing, wherever the reads are cut and whatever
stands before it; and what is captured beyond ASCII is the replacement character, or stands in the
stream as a well-formed sequence of more than one byte. -/
theorem texts_ascii (reads : List (List UInt8)) :
    asciiChars ((texts reads).flatMap String.toList) = asciiBytes reads.flatten ∧
      ∀ c ∈ (texts reads).flatMap String.toList, 0x80 ≤ c.toNat →
        c = replacement ∨ 1 < (encodeChar c).length ∧ encodeChar c <:+: reads.flatten := by
  have hunits := units_decode reads.flatten
  rw [flatMap_texts]
  refine ⟨hunits.ascii, fun c hc hhigh => ?_⟩
  exact (hunits.encodeChar_infix c hc).imp_right fun h => ⟨one_lt_length_encodeChar hhigh, h⟩

/-- A sign cut short by a line break, a letter across two reads and half a surrogate. -/
theorem texts_ascii_broken :
    let reads : List (List UInt8) := [[0xe2, 0x82], [0x0a, 0xc3], [0xa9, 0xed], [0xa0, 0x41]]
    let text := (texts reads).flatMap String.toList
    ('é' ∈ text ∧ 0x80 ≤ 'é'.toNat) ∧
      asciiChars text = asciiBytes reads.flatten ∧ asciiBytes reads.flatten = [0x0a, 0x41] ∧
        ('é' = replacement ∨ 1 < (encodeChar 'é').length ∧ encodeChar 'é' <:+: reads.flatten) := by
  intro reads text
  have hmem : 'é' ∈ text := by decide
  have hhigh : 0x80 ≤ 'é'.toNat := by decide
  obtain ⟨hascii, hinfix⟩ := texts_ascii reads
  exact ⟨⟨hmem, hhigh⟩, hascii, by decide, hinfix 'é' hmem hhigh⟩

end Invocation.Capture

import Mathlib
import Invocation.Proofs.Capture
import Invocation.Utf8.Encode

/-!
# Encoded text is read back

The well-formed sequences of bytes are given by a table (`Sequence`): how many bytes a first byte
asks for, and which may follow it. They are the bytes of characters, and only those
(`sequence_encodeChar`, `Sequence.encodeChar_ofNat`). Reading bytes as a whole takes such a sequence
for its character, whatever follows (`Sequence.unitAt_append`). So the text of encoded text is that
text (`decode_encode`), and it is captured without loss, however its bytes are cut into reads
(`join_texts_of_encoded`).
-/

namespace Invocation.Utf8

/-! ## Ranges of bytes -/

section Ranges

variable {a b : UInt8}

theorem sequenceLength_eq_one : sequenceLength a = 1 ↔ a.toNat < 0x80 := by
  simp only [sequenceLength, UInt8.lt_iff_toNat_lt, UInt8.le_iff_toNat_le]
  grind

theorem sequenceLength_eq_two : sequenceLength a = 2 ↔ 0xc2 ≤ a.toNat ∧ a.toNat ≤ 0xdf := by
  simp only [sequenceLength, UInt8.lt_iff_toNat_lt, UInt8.le_iff_toNat_le]
  grind

theorem sequenceLength_eq_three : sequenceLength a = 3 ↔ 0xe0 ≤ a.toNat ∧ a.toNat ≤ 0xef := by
  simp only [sequenceLength, UInt8.lt_iff_toNat_lt, UInt8.le_iff_toNat_le]
  grind

theorem sequenceLength_eq_four : sequenceLength a = 4 ↔ 0xf0 ≤ a.toNat ∧ a.toNat ≤ 0xf4 := by
  simp only [sequenceLength, UInt8.lt_iff_toNat_lt, UInt8.le_iff_toNat_le]
  grind

theorem tailBits_eq (b : UInt8) : tailBits b = b.toNat - 0x80 :=
  rfl

/-- A continuation byte is determined by its six low bits. -/
theorem isTail_iff : isTail b = true ↔ b.toNat = 0x80 + tailBits b ∧ tailBits b < 0x40 := by
  have htail := tailBits_eq b
  simp only [isTail, UInt8.le_iff_toNat_le, Bool.and_eq_true, decide_eq_true_eq]
  grind

/-- A second byte is a continuation byte, with fewer possibilities after four of the first bytes. -/
theorem isSecond_iff :
    isSecond a b = true ↔
      isTail b = true ∧ (a.toNat = 0xe0 → 0x20 ≤ tailBits b) ∧ (a.toNat = 0xed → tailBits b < 0x20) ∧
        (a.toNat = 0xf0 → 0x10 ≤ tailBits b) ∧ (a.toNat = 0xf4 → tailBits b < 0x10) := by
  have htail := tailBits_eq b
  simp only [isSecond, isTail, UInt8.le_iff_toNat_le, ← UInt8.toNat_inj]
  grind

theorem ofNat_eq {n : Nat} (h : n = a.toNat) : UInt8.ofNat n = a := by
  rw [h, UInt8.ofNat_toNat]

theorem tailByte_eq {n : Nat} (h : n % 0x40 = tailBits b) (hb : isTail b = true) :
    tailByte n = b := by
  rw [isTail_iff] at hb
  apply ofNat_eq
  omega

theorem toNat_tailByte (n : Nat) : (tailByte n).toNat = 0x80 + n % 0x40 := by
  simp only [tailByte, UInt8.toNat_ofNat']
  omega

theorem tailBits_tailByte (n : Nat) : tailBits (tailByte n) = n % 0x40 := by
  rw [tailBits_eq, toNat_tailByte]
  omega

theorem isTail_tailByte (n : Nat) : isTail (tailByte n) = true := by
  rw [isTail_iff, tailBits_tailByte, toNat_tailByte]
  omega

end Ranges

/-! ## Well-formed sequences -/

/-- The bytes are a well-formed sequence, and the number is its code. -/
inductive Sequence : List UInt8 → Nat → Prop where
  | one {a : UInt8} (ha : sequenceLength a = 1) : Sequence [a] a.toNat
  | two {a b : UInt8} (ha : sequenceLength a = 2) (hb : isSecond a b = true) :
    Sequence [a, b] ((a.toNat - 0xc0) * 0x40 + tailBits b)
  | three {a b c : UInt8} (ha : sequenceLength a = 3) (hb : isSecond a b = true)
    (hc : isTail c = true) :
    Sequence [a, b, c] (((a.toNat - 0xe0) * 0x40 + tailBits b) * 0x40 + tailBits c)
  | four {a b c d : UInt8} (ha : sequenceLength a = 4) (hb : isSecond a b = true)
    (hc : isTail c = true) (hd : isTail d = true) :
    Sequence [a, b, c, d]
      ((((a.toNat - 0xf0) * 0x40 + tailBits b) * 0x40 + tailBits c) * 0x40 + tailBits d)

namespace Sequence

variable {s : List UInt8} {n : Nat}

theorem isValidChar (h : Sequence s n) : n.isValidChar := by
  unfold Nat.isValidChar
  cases h with
  | one ha =>
    rw [sequenceLength_eq_one] at ha
    omega
  | two ha hb =>
    rw [sequenceLength_eq_two] at ha
    rw [isSecond_iff, isTail_iff] at hb
    omega
  | three ha hb hc =>
    rw [sequenceLength_eq_three] at ha
    rw [isSecond_iff, isTail_iff] at hb
    rw [isTail_iff] at hc
    omega
  | four ha hb hc hd =>
    rw [sequenceLength_eq_four] at ha
    rw [isSecond_iff, isTail_iff] at hb
    rw [isTail_iff] at hc hd
    omega

theorem length_le (h : Sequence s n) : s.length ≤ 4 := by
  cases h <;> simp

/-- A well-formed sequence is the bytes of the character with its code. -/
theorem encodeChar_ofNat (h : Sequence s n) : encodeChar (Char.ofNat n) = s := by
  have hcode : (Char.ofNat n).toNat = n := by rw [Char.toNat_ofNat, if_pos h.isValidChar]
  simp only [encodeChar, hcode]
  cases h with
  | one ha =>
    rw [sequenceLength_eq_one] at ha
    rw [if_pos ha, ofNat_eq rfl]
  | @two a b ha hb =>
    rw [sequenceLength_eq_two] at ha
    rw [isSecond_iff] at hb
    have hb' := isTail_iff.1 hb.1
    rw [if_neg (by omega), if_pos (by omega), ofNat_eq (a := a) (by omega),
      tailByte_eq (b := b) (by omega) hb.1]
  | @three a b c ha hb hc =>
    rw [sequenceLength_eq_three] at ha
    rw [isSecond_iff] at hb
    have hb' := isTail_iff.1 hb.1
    have hc' := isTail_iff.1 hc
    rw [if_neg (by omega), if_neg (by omega), if_pos (by omega), ofNat_eq (a := a) (by omega),
      tailByte_eq (b := b) (by omega) hb.1, tailByte_eq (b := c) (by omega) hc]
  | @four a b c d ha hb hc hd =>
    rw [sequenceLength_eq_four] at ha
    rw [isSecond_iff] at hb
    have hb' := isTail_iff.1 hb.1
    have hc' := isTail_iff.1 hc
    have hd' := isTail_iff.1 hd
    rw [if_neg (by omega), if_neg (by omega), if_neg (by omega), ofNat_eq (a := a) (by omega),
      tailByte_eq (b := b) (by omega) hb.1, tailByte_eq (b := c) (by omega) hc,
      tailByte_eq (b := d) (by omega) hd]

end Sequence

/-- The bytes of a character are a well-formed sequence with its code. -/
theorem sequence_encodeChar (c : Char) : Sequence (encodeChar c) c.toNat := by
  have hvalid : c.toNat < 0xd800 ∨ 0xdfff < c.toNat ∧ c.toNat < 0x110000 := c.valid
  simp only [encodeChar]
  generalize c.toNat = n at hvalid
  split
  · have hfirst : (UInt8.ofNat n).toNat = n :=
      UInt8.toNat_ofNat_of_lt' (show n < 256 by omega)
    have hseq := Sequence.one (a := UInt8.ofNat n) (sequenceLength_eq_one.2 (by omega))
    rwa [hfirst] at hseq
  split
  · have hfirst : (UInt8.ofNat (0xc0 + n / 0x40)).toNat = 0xc0 + n / 0x40 :=
      UInt8.toNat_ofNat_of_lt' (show 0xc0 + n / 0x40 < 256 by omega)
    have hseq := Sequence.two (a := UInt8.ofNat (0xc0 + n / 0x40)) (b := tailByte n)
      (sequenceLength_eq_two.2 (by omega))
      (isSecond_iff.2 ⟨isTail_tailByte n, by omega, by omega, by omega, by omega⟩)
    have hcode : (0xc0 + n / 0x40 - 0xc0) * 0x40 + n % 0x40 = n := by omega
    rwa [hfirst, tailBits_tailByte, hcode] at hseq
  split
  · have hfirst : (UInt8.ofNat (0xe0 + n / 0x1000)).toNat = 0xe0 + n / 0x1000 :=
      UInt8.toNat_ofNat_of_lt' (show 0xe0 + n / 0x1000 < 256 by omega)
    have hsecond := tailBits_tailByte (n / 0x40)
    have hseq := Sequence.three (a := UInt8.ofNat (0xe0 + n / 0x1000)) (b := tailByte (n / 0x40))
      (c := tailByte n) (sequenceLength_eq_three.2 (by omega))
      (isSecond_iff.2 ⟨isTail_tailByte _, by omega, by omega, by omega, by omega⟩)
      (isTail_tailByte n)
    have hcode : ((0xe0 + n / 0x1000 - 0xe0) * 0x40 + n / 0x40 % 0x40) * 0x40 + n % 0x40 = n := by
      omega
    rwa [hfirst, tailBits_tailByte, tailBits_tailByte, hcode] at hseq
  · have hfirst : (UInt8.ofNat (0xf0 + n / 0x40000)).toNat = 0xf0 + n / 0x40000 :=
      UInt8.toNat_ofNat_of_lt' (show 0xf0 + n / 0x40000 < 256 by omega)
    have hsecond := tailBits_tailByte (n / 0x1000)
    have hseq := Sequence.four (a := UInt8.ofNat (0xf0 + n / 0x40000))
      (b := tailByte (n / 0x1000)) (c := tailByte (n / 0x40)) (d := tailByte n)
      (sequenceLength_eq_four.2 (by omega))
      (isSecond_iff.2 ⟨isTail_tailByte _, by omega, by omega, by omega, by omega⟩)
      (isTail_tailByte _) (isTail_tailByte n)
    have hcode : (((0xf0 + n / 0x40000 - 0xf0) * 0x40 + n / 0x1000 % 0x40) * 0x40 +
        n / 0x40 % 0x40) * 0x40 + n % 0x40 = n := by
      omega
    rwa [hfirst, tailBits_tailByte, tailBits_tailByte, tailBits_tailByte, hcode] at hseq

/-! ## The first unit -/

/-- A well-formed sequence is taken for its character, whatever follows it. -/
theorem Sequence.unitAt_append {s : List UInt8} {n : Nat} (h : Sequence s n) (rest : List UInt8) :
    unitAt (s ++ rest) = (some (Char.ofNat n), s.length) := by
  cases h with
  | one ha => simp [unitAt, ha]
  | two ha hb => simp [unitAt, ha, hb]
  | three ha hb hc => simp [unitAt, ha, hb, hc]
  | four ha hb hc hd => simp [unitAt, ha, hb, hc, hd]

/-! ## The text of encoded text -/

/-- Bytes that are taken as their first unit come first in the text. -/
theorem decode_append {s : List UInt8} {char : Option Char} (hne : s ≠ []) (later : List UInt8)
    (h : unitAt (s ++ later) = (char, s.length)) :
    decode (s ++ later) = char.getD replacement :: decode later := by
  obtain ⟨a, rest, rfl⟩ := List.exists_cons_of_ne_nil hne
  have hcons := Decoder.toEnd_ready_cons a (rest ++ later)
  rw [← List.cons_append, h, List.drop_left] at hcons
  rw [← Decoder.toEnd_ready, hcons, Decoder.toEnd_ready]

theorem encodeChar_ne_nil (c : Char) : encodeChar c ≠ [] := by
  intro h
  have hseq := sequence_encodeChar c
  rw [h] at hseq
  cases hseq

theorem decode_encodeChar_append (c : Char) (later : List UInt8) :
    decode (encodeChar c ++ later) = c :: decode later := by
  have hunit := (sequence_encodeChar c).unitAt_append later
  rw [Char.ofNat_toNat] at hunit
  exact decode_append (encodeChar_ne_nil c) later hunit

/-- **Encoded text** is read back. -/
theorem decode_encode (cs : List Char) : decode (encode cs) = cs := by
  induction cs with
  | nil => rfl
  | cons c rest ih =>
    have hcons : encode (c :: rest) = encodeChar c ++ encode rest := List.flatMap_cons
    rw [hcons, decode_encodeChar_append, ih]

/-! ## Captured text -/

/-- The bytes of a character are those that the standard library encodes it with. -/
theorem encodeChar_eq (c : Char) : encodeChar c = String.utf8EncodeChar c := by
  have hcode : c.val.toNat = c.toNat := rfl
  have hlt : c.toNat < 0x110000 := by
    have hvalid : c.toNat < 0xd800 ∨ 0xdfff < c.toNat ∧ c.toNat < 0x110000 := c.valid
    omega
  simp only [encodeChar, String.utf8EncodeChar, tailByte, hcode]
  generalize c.toNat = n at hlt
  by_cases h1 : n < 0x80
  · rw [if_pos h1, if_pos (by omega)]
  by_cases h2 : n < 0x800
  · rw [if_neg h1, if_pos h2, if_neg (by omega), if_pos (by omega),
      Nat.mod_eq_of_lt (b := 32) (by omega), Nat.add_comm 0xc0, Nat.add_comm 0x80]
  by_cases h3 : n < 0x10000
  · rw [if_neg h1, if_neg h2, if_pos h3, if_neg (by omega), if_neg (by omega), if_pos (by omega),
      Nat.mod_eq_of_lt (b := 16) (by omega), Nat.add_comm 0xe0, Nat.add_comm 0x80,
      Nat.add_comm 0x80]
  · rw [if_neg h1, if_neg h2, if_neg h3, if_neg (by omega), if_neg (by omega), if_neg (by omega),
      Nat.mod_eq_of_lt (b := 8) (by omega), Nat.add_comm 0xf0, Nat.add_comm 0x80,
      Nat.add_comm 0x80, Nat.add_comm 0x80]

theorem toUTF8_eq_encode (s : String) : s.toUTF8.data.toList = encode s.toList := by
  have hbytes : s.toUTF8 = (s.toList.flatMap String.utf8EncodeChar).toByteArray :=
    String.utf8Encode_toList.symm
  rw [hbytes, List.toList_data_toByteArray, encode, funext encodeChar_eq]

end Invocation.Utf8

namespace Invocation.Capture

open Invocation.Utf8

/-- **Text is captured without loss**: if the reads of a stream make up the bytes of a text, however
they are cut, then what is handed on makes up the text. -/
theorem join_texts_of_encoded (s : String) (reads : List (List UInt8))
    (h : reads.flatten = s.toUTF8.data.toList) : String.join (texts reads) = s := by
  rw [← String.toList_inj, String.toList_join, flatMap_texts, h, toUTF8_eq_encode, decode_encode]

/-- The first and the last characters of each length, cut within every one of them. -/
theorem join_texts_of_encoded_boundaries :
    let s := String.ofList
      ([0x7f, 0x80, 0x7ff, 0x800, 0xd7ff, 0xe000, 0xfffd, 0xffff, 0x10000, 0x10ffff].map Char.ofNat)
    let reads := [[0x7f, 0xc2], [0x80, 0xdf], [0xbf, 0xe0], [0xa0], [0x80, 0xed, 0x9f],
      [0xbf, 0xee], [0x80, 0x80, 0xef], [0xbf], [0xbd, 0xef, 0xbf], [0xbf, 0xf0], [0x90], [0x80],
      [0x80, 0xf4, 0x8f, 0xbf], [0xbf]]
    reads.flatten = s.toUTF8.data.toList ∧ String.join (texts reads) = s := by
  intro s reads
  have h : reads.flatten = s.toUTF8.data.toList := by decide
  exact ⟨h, join_texts_of_encoded s reads h⟩

end Invocation.Capture

import Invocation.Json.Printer
import Invocation.Json.Reader

/-!
# Texts are read back

What stands for a character within quotes is of one of four kinds (`Stands`), and each kind is read as the
character (`Stands.textTail`). So a text is read from between its quotes, whichever of its characters are
escaped (`readText_spelled`), and a text that was written is read back (`readText_textChars`). The
hexadecimal escapes are read as the codes that their digits are (`hexQuad?_quad`), of which no character has
one of a surrogate.
-/

namespace Invocation.Json

open Invocation.Text

variable {escaping : Escaping}

/-! ## Hexadecimal digits -/

theorem hexValue?_hexDigit {d : Nat} (h : d < 16) : hexValue? (hexDigit d) = some d := by
  revert d
  decide

/-- Four hexadecimal digits, of either case, and the number that they are. -/
inductive Quad : Nat → List Char → Prop
  | digits {a b c d : Char} {i j k l : Nat} (ha : hexValue? a = some i) (hb : hexValue? b = some j)
    (hc : hexValue? c = some k) (hd : hexValue? d = some l) :
    Quad ((i * 16 + j) * 256 + (k * 16 + l)) [a, b, c, d]

theorem quad_hexChars {n : Nat} (h : n < 0x10000) : Quad n (hexChars 4 n) := by
  have hdigit (m : Nat) : hexValue? (hexDigit (m % 16)) = some (m % 16) :=
    hexValue?_hexDigit (Nat.mod_lt _ (by decide))
  have hquad := Quad.digits (hdigit (n / 16 / 16 / 16)) (hdigit (n / 16 / 16)) (hdigit (n / 16)) (hdigit n)
  have hsum : (n / 16 / 16 / 16 % 16 * 16 + n / 16 / 16 % 16) * 256 + (n / 16 % 16 * 16 + n % 16) = n := by
    omega
  rw [hsum] at hquad
  exact hquad

theorem Quad.length {n : Nat} {cs : List Char} (h : Quad n cs) : cs.length = 4 := by
  cases h
  rfl

/-- **Four hexadecimal digits are read**, if they do not end the text. -/
theorem hexQuad?_quad {n : Nat} {cs : List Char} (h : Quad n cs) (e : Char) (rest : List Char) :
    hexQuad? (cs ++ e :: rest) = some (n, e :: rest) := by
  cases h with
  | digits ha hb hc hd =>
    simp only [List.cons_append, List.nil_append, hexQuad?, ha, hb, hc, hd, Option.bind_eq_bind,
      Option.bind_some, Option.pure_def]

/-! ## Characters -/

theorem codeChar_toNat (c : Char) : codeChar c.toNat = c := by
  have hvalid : c.toNat < 0xd800 ∨ 0xdfff < c.toNat ∧ c.toNat < 0x110000 := c.valid
  have hsurrogate : ¬(isHighSurrogate c.toNat || isLowSurrogate c.toNat) = true := by
    simp only [isHighSurrogate, isLowSurrogate, Bool.or_eq_true, Bool.and_eq_true, decide_eq_true_eq]
    omega
  rw [codeChar, if_neg hsurrogate, Char.ofNat_toNat]

section Escapes

variable {cs ds : List Char}

/-- The escape of a character is read as the character. -/
theorem unicodeEscape_code {c d : Char} (h : Quad c.toNat cs) (rest : List Char) :
    unicodeEscape (cs ++ d :: rest) = .ok (c, d :: rest) := by
  have hvalid : c.toNat < 0xd800 ∨ 0xdfff < c.toNat ∧ c.toNat < 0x110000 := c.valid
  have hhigh : isHighSurrogate c.toNat = false := by
    simp only [isHighSurrogate, Bool.and_eq_false_iff, decide_eq_false_iff_not]
    omega
  simp only [unicodeEscape, hexQuad?_quad h, hhigh, codeChar_toNat]

/-- Two escapes that form a surrogate pair are read as one character. -/
theorem unicodeEscape_pair {high low : Nat} {d : Char} (hhigh : isHighSurrogate high = true)
    (hlow : isLowSurrogate low = true) (hcs : Quad high cs) (hds : Quad low ds) (rest : List Char) :
    unicodeEscape (cs ++ '\\' :: 'u' :: ds ++ d :: rest) = .ok (pairChar high low, d :: rest) := by
  have hlong : ¬(ds ++ d :: rest).length < 5 := by
    rw [List.length_append, hds.length, List.length_cons]
    omega
  simp only [List.append_assoc, List.cons_append]
  rw [unicodeEscape, hexQuad?_quad hcs]
  simp only [hhigh, if_neg hlong, hexQuad?_quad hds, hlow, if_true]

end Escapes

theorem lt_of_isHighSurrogate {n : Nat} (h : isHighSurrogate n = true) : n < 0x10000 := by
  simp only [isHighSurrogate, Bool.and_eq_true, decide_eq_true_eq] at h
  omega

theorem lt_of_isLowSurrogate {n : Nat} (h : isLowSurrogate n = true) : n < 0x10000 := by
  simp only [isLowSurrogate, Bool.and_eq_true, decide_eq_true_eq] at h
  omega

/-- A character above the 16-bit codes is escaped as a surrogate pair. -/
theorem exists_pair {c : Char} (h : 0x10000 ≤ c.toNat) :
    ∃ high low, wideEscape c.toNat = codeEscape high ++ codeEscape low ∧
      isHighSurrogate high = true ∧ isLowSurrogate low = true ∧ pairChar high low = c := by
  have hvalid : c.toNat < 0xd800 ∨ 0xdfff < c.toNat ∧ c.toNat < 0x110000 := c.valid
  refine ⟨0xd800 + (c.toNat - 0x10000) / 0x400, 0xdc00 + (c.toNat - 0x10000) % 0x400, ?_, ?_, ?_, ?_⟩
  · rw [wideEscape, if_neg (Nat.not_lt.2 h)]
  · simp only [isHighSurrogate, Bool.and_eq_true, decide_eq_true_eq]
    omega
  · simp only [isLowSurrogate, Bool.and_eq_true, decide_eq_true_eq]
    omega
  · have hcode (n : Nat) : 0x10000 + (0xd800 + n / 0x400 - 0xd800) * 0x400 +
        (0xdc00 + n % 0x400 - 0xdc00) = 0x10000 + n := by omega
    rw [pairChar, hcode, Nat.add_sub_cancel' h, Char.ofNat_toNat]

/-- What may stand for a character within quotes. -/
inductive Stands (c : Char) : List Char → Prop
  | letter {e : Char} (h : escapeLetter? e = some c) : Stands c ['\\', e]
  | code {cs : List Char} (h : Quad c.toNat cs) : Stands c ('\\' :: 'u' :: cs)
  | pair {high low : Nat} {cs ds : List Char} (hhigh : isHighSurrogate high = true)
    (hlow : isLowSurrogate low = true) (hcs : Quad high cs) (hds : Quad low ds)
    (h : pairChar high low = c) : Stands c ('\\' :: 'u' :: cs ++ '\\' :: 'u' :: ds)
  | itself (hquote : c ≠ '"') (hslash : c ≠ '\\') (h : 32 ≤ c.toNat) : Stands c [c]

/-- Every character is written as what may stand for it. -/
theorem stands_escapedChar (escaping : Escaping) (c : Char) :
    Stands c (escapedChar escaping c) := by
  by_cases hquote : c = '"'
  · subst hquote; exact .letter rfl
  by_cases hslash : c = '\\'
  · subst hslash; exact .letter rfl
  by_cases h₁ : c = '\n'
  · subst h₁; exact .letter rfl
  by_cases h₂ : c = '\r'
  · subst h₂; exact .letter rfl
  by_cases h₃ : c = '\t'
  · subst h₃; exact .letter rfl
  by_cases h₄ : c = '\x08'
  · subst h₄; exact .letter rfl
  by_cases h₅ : c = '\x0c'
  · subst h₅; exact .letter rfl
  rw [escapedChar.eq_def, if_neg hquote, if_neg hslash, if_neg h₁, if_neg h₂, if_neg h₃, if_neg h₄,
    if_neg h₅]
  by_cases hcontrol : c.toNat < 32
  · rw [if_pos hcontrol]
    exact .code (quad_hexChars (by omega))
  · rw [if_neg hcontrol]
    have hself : Stands c [c] := .itself hquote hslash (Nat.not_lt.1 hcontrol)
    cases escaping with
    | plain => exact hself
    | ascii =>
      by_cases hprintable : c.toNat < 127
      · simp only [if_pos hprintable]
        exact hself
      · simp only [if_neg hprintable]
        rcases Nat.lt_or_ge c.toNat 0x10000 with hcode | hcode
        · rw [wideEscape, if_pos hcode]
          exact .code (quad_hexChars hcode)
        · obtain ⟨high, low, hpair, hhigh, hlow, h⟩ := exists_pair hcode
          rw [hpair]
          exact .pair hhigh hlow (quad_hexChars (lt_of_isHighSurrogate hhigh))
            (quad_hexChars (lt_of_isLowSurrogate hlow)) h

namespace Stands

variable {c : Char} {cs : List Char}

theorem ne_nil (h : Stands c cs) : cs ≠ [] := by
  cases h <;> exact List.cons_ne_nil _ _

/-- A character is read from what stands for it. -/
theorem textTail (h : Stands c cs) (opened fuel : Nat) {rest : List Char} (hrest : rest ≠ []) :
    Json.textTail opened (fuel + 1) (cs ++ rest) =
      (Json.textTail opened fuel rest).map fun found => (c :: found.1, found.2) := by
  obtain ⟨d, rest, rfl⟩ := List.exists_cons_of_ne_nil hrest
  have hread {es : List Char} (hescape : escape opened es = .ok (c, d :: rest)) :
      Json.textTail opened (fuel + 1) ('\\' :: es) =
        (Json.textTail opened fuel (d :: rest)).map fun found => (c :: found.1, found.2) := by
    rw [Json.textTail, if_neg (by decide), if_pos rfl, hescape]
    simp only [bind, Except.bind]
    cases Json.textTail opened fuel (d :: rest) <;> rfl
  cases h with
  | @letter e h =>
    have hu : e ≠ 'u' := by
      rintro rfl
      cases h
    have hescape : escape opened (e :: d :: rest) = .ok (c, d :: rest) := by
      rw [escape, h]
      exact hu
    exact hread hescape
  | code h => exact hread (unicodeEscape_code h rest)
  | pair hhigh hlow hcs hds h =>
    subst h
    exact hread (unicodeEscape_pair hhigh hlow hcs hds rest)
  | itself hquote hslash h =>
    rw [List.cons_append, List.nil_append, Json.textTail, if_neg hquote, if_neg hslash,
      if_neg (Nat.not_lt.2 h)]
    simp only [bind, Except.bind]
    cases Json.textTail opened fuel (d :: rest) <;> rfl

end Stands

/-! ## Texts -/

/-- What stands for the characters of a text, one after another. -/
inductive Spelled : List Char → List Char → Prop
  | nil : Spelled [] []
  | cons {c : Char} {cs text rest : List Char} (hc : Stands c cs) (h : Spelled text rest) :
    Spelled (c :: text) (cs ++ rest)

theorem spelled_flatMap (escaping : Escaping) (text : List Char) :
    Spelled text (text.flatMap (escapedChar escaping)) := by
  induction text with
  | nil => exact .nil
  | cons c text ih => exact .cons (stands_escapedChar escaping c) ih

namespace Spelled

variable {text cs : List Char}

theorem length_le (h : Spelled text cs) : text.length ≤ cs.length := by
  induction h with
  | nil => exact Nat.le_refl _
  | cons hc h ih =>
    have hpos := List.length_pos_iff.2 hc.ne_nil
    rw [List.length_append, List.length_cons]
    omega

theorem textTail (h : Spelled text cs) {opened fuel : Nat} (hfuel : text.length < fuel) (rest : List Char) :
    Json.textTail opened fuel (cs ++ '"' :: rest) = .ok (text, rest) := by
  induction h generalizing fuel with
  | nil =>
    obtain ⟨fuel, rfl⟩ : ∃ n, fuel = n + 1 := ⟨fuel - 1, by simp at hfuel; omega⟩
    rfl
  | cons hc h ih =>
    obtain ⟨fuel, rfl⟩ : ∃ n, fuel = n + 1 := ⟨fuel - 1, by simp at hfuel; omega⟩
    rw [List.append_assoc, hc.textTail opened fuel (by simp), ih (Nat.lt_of_succ_lt_succ hfuel)]
    rfl

end Spelled

/-- **A text is read** from between its quotes, however it is escaped. -/
theorem readText_spelled {s : String} {cs : List Char} (h : Spelled s.toList cs) (rest : List Char) :
    readText (cs ++ '"' :: rest) = .ok (s, rest) := by
  have hfuel : s.toList.length < (cs ++ '"' :: rest).length + 1 := by
    have hle := h.length_le
    rw [List.length_append]
    omega
  rw [readText, h.textTail hfuel]
  simp only [bind, Except.bind, pure, Except.pure, String.ofList_toList]

/-- A text that was written is read back. -/
theorem readText_textChars (s : String) (rest : List Char) :
    readText (s.toList.flatMap (escapedChar escaping) ++ '"' :: rest) = .ok (s, rest) :=
  readText_spelled (spelled_flatMap escaping s.toList) rest

end Invocation.Json

import Invocation.Proofs.Checked
import Invocation.Proofs.Numeral
import Invocation.Proofs.Pieces

/-!
# Levels

Which values are levels (`Denotes`): an integer that is not negative, and a text that, trimmed and in upper
case, is one of the seven names or a numeral, up to 4300 decimal digits of any script. The digits that have no
place value are digits as well, so that a text with one of them is taken for a number; it is not read as one,
because no digit is a blank, and only blanks may stand after an integer (`isBlank_eq_false`,
`readIntegerChars_eq_ok_iff`). A level is its own level, and so is its decimal notation (`resolve_closed`).
-/

namespace Invocation.Text

open Invocation.Number

/-! ## Digits of every script -/

theorem exists_zero_of_decimalValue {c : Char} {d : Nat} (h : decimalValue? c = some d) :
    ∃ z ∈ decimalZeros, c.toNat = z + d ∧ d < 10 := by
  obtain ⟨z, hz, rfl⟩ := Option.map_eq_some_iff.1 h
  have hcovers := List.find?_some hz
  simp only [Bool.and_eq_true, decide_eq_true_eq] at hcovers
  refine ⟨z, List.mem_of_find?_eq_some hz, ?_, ?_⟩ <;> omega

/-- The codes of the blanks. -/
def blankCodes : List Nat :=
  List.range' 9 5 ++ List.range' 28 5 ++ List.range' 0x2000 11 ++
    [0x85, 0xa0, 0x1680, 0x2028, 0x2029, 0x202f, 0x205f, 0x3000]

theorem mem_blankCodes {c : Char} (h : isBlank c = true) : c.toNat ∈ blankCodes := by
  simp only [isBlank, Bool.or_eq_true, Bool.and_eq_true, decide_eq_true_eq, beq_iff_eq] at h
  simp only [blankCodes, List.mem_append, List.mem_range'_1, List.mem_cons, List.not_mem_nil, or_false]
  omega

theorem isDigit_of_mem_blankCodes : ∀ n ∈ blankCodes, isDigit (Char.ofNat n) = false := by
  decide +kernel

/-- No digit, of whatever kind, is a blank. -/
theorem isBlank_eq_false {c : Char} (h : isDigit c = true) : isBlank c = false := by
  by_contra hblank
  have hcode := isDigit_of_mem_blankCodes c.toNat (mem_blankCodes (by simpa using hblank))
  rw [Char.ofNat_toNat, h] at hcode
  cases hcode

theorem isDigit_of_decimalValue {c : Char} (h : (decimalValue? c).isSome) : isDigit c = true := by
  rw [isDigit, h]
  rfl

theorem decimalValue?_digitChar {d : Nat} (h : d < 10) : decimalValue? (digitChar d) = some d := by
  revert d
  decide

/-! ## Case -/

theorem toNat_lowerAscii {c : Char} (h : 'A' ≤ c ∧ c ≤ 'Z') :
    65 ≤ c.toNat ∧ c.toNat ≤ 90 ∧ (lowerAscii c).toNat = c.toNat + 32 := by
  have hcode : 65 ≤ c.toNat ∧ c.toNat ≤ 90 := by
    simpa [Char.le_def, UInt32.le_iff_toNat_le] using h
  refine ⟨hcode.1, hcode.2, ?_⟩
  rw [lowerAscii, if_pos h, Char.toNat_ofNat, if_pos]
  exact Or.inl (by omega)

theorem isBlank_lowerAscii (c : Char) : isBlank (lowerAscii c) = isBlank c := by
  by_cases h : 'A' ≤ c ∧ c ≤ 'Z'
  · obtain ⟨hlow, hhigh, hcode⟩ := toNat_lowerAscii h
    simp only [isBlank, hcode]
    grind
  · rw [lowerAscii, if_neg h]

theorem upperChar_lowerAscii (c : Char) : upperChar (lowerAscii c) = upperChar c := by
  by_cases h : 'A' ≤ c ∧ c ≤ 'Z'
  · obtain ⟨hlow, hhigh, hcode⟩ := toNat_lowerAscii h
    have hlower : 97 ≤ (lowerAscii c).toNat ∧ (lowerAscii c).toNat ≤ 122 := by omega
    have hupper : ¬(97 ≤ c.toNat ∧ c.toNat ≤ 122) := by omega
    simp only [upperChar, Bool.and_eq_true, decide_eq_true_eq]
    rw [if_pos (by omega), if_pos hlower, if_pos (by omega), if_neg hupper, hcode, Nat.add_sub_cancel,
      Char.ofNat_toNat]
  · rw [lowerAscii, if_neg h]

theorem trimChars_lowerAscii (cs : List Char) :
    trimChars (cs.map lowerAscii) = (trimChars cs).map lowerAscii := by
  have hblank : isBlank ∘ lowerAscii = isBlank := funext isBlank_lowerAscii
  simp only [trimChars, trimEndChars, trimStartChars, List.dropWhile_map, ← List.map_reverse, hblank]

theorem upperChars_lowerAscii (cs : List Char) : upperChars (cs.map lowerAscii) = upperChars cs := by
  rw [upperChars, List.flatMap_map]
  exact congrArg (cs.flatMap ·) (funext upperChar_lowerAscii)

theorem trimChars_of_solid {cs : List Char} (h : ∀ c ∈ cs, isBlank c = false) : trimChars cs = cs := by
  have hdrop {cs : List Char} (h : ∀ c ∈ cs, isBlank c = false) : cs.dropWhile isBlank = cs := by
    rw [List.dropWhile_eq_self_iff]
    intro hpos
    simp [h _ (List.getElem_mem hpos)]
  rw [trimChars, trimStartChars, hdrop h, trimEndChars, hdrop, List.reverse_reverse]
  exact fun c hc => h c (List.mem_reverse.1 hc)

/-- The case of ASCII letters and the blanks around a text do not count for its name. -/
theorem upper_trim_congr {s t before after before' after' : String}
    (hbefore : isAllBlank before = true) (hafter : isAllBlank after = true)
    (hbefore' : isAllBlank before' = true) (hafter' : isAllBlank after' = true)
    (h : s.toList.map lowerAscii = t.toList.map lowerAscii) :
    upper (trim (before ++ s ++ after)) = upper (trim (before' ++ t ++ after')) := by
  have hcase (s : String) : upper (trim s) = String.ofList (upperChars (trimChars (s.toList.map lowerAscii))) := by
    rw [trimChars_lowerAscii, upperChars_lowerAscii, upper, trim, String.toList_ofList]
  rw [trim_append hbefore hafter, trim_append hbefore' hafter', hcase, h, ← hcase]

end Invocation.Text

namespace Invocation.Number

open Invocation.Text

/-! ## Numerals -/

/-- The text is one to 4300 decimal digits, of any script, and nothing else; they denote the number. -/
structure Numeral (s : String) (n : Nat) : Prop where
  digits : ∀ c ∈ s.toList, (decimalValue? c).isSome
  nonempty : 0 < s.toList.length
  short : s.toList.length ≤ maxDigits
  value : natOfDigits (s.toList.filterMap decimalValue?) = n

theorem natOfDigits_lt {ds : List Nat} (h : ∀ d ∈ ds, d < 10) : natOfDigits ds < Nat.pow 10 ds.length := by
  induction ds using List.reverseRecOn with
  | nil => exact Nat.one_pos
  | append_singleton ds d ih =>
    have hd := h d (List.mem_append_right ds List.mem_cons_self)
    have hds := ih fun e he => h e (List.mem_append_left _ he)
    rw [natOfDigits_append_singleton, List.length_append]
    change _ < Nat.pow 10 ds.length * 10
    omega

theorem lt_of_digits_le {n k m : Nat} (h : n < Nat.pow 10 k) (hkm : k ≤ m) : n < Nat.pow 10 m :=
  Nat.lt_of_lt_of_le h (Nat.pow_le_pow_right (Nat.succ_pos 9) hkm)

theorem length_filterMap_decimalValue {cs : List Char} (h : ∀ c ∈ cs, (decimalValue? c).isSome) :
    (cs.filterMap decimalValue?).length = cs.length := by
  rw [List.length_filterMap_eq_countP, List.countP_eq_length]
  exact h

theorem Numeral.lt {s : String} {n : Nat} (h : Numeral s n) : n < Nat.pow 10 maxDigits := by
  have hdigits : ∀ d ∈ s.toList.filterMap decimalValue?, d < 10 := by
    intro d hd
    obtain ⟨c, -, hc⟩ := List.mem_filterMap.1 hd
    obtain ⟨-, -, -, hlt⟩ := exists_zero_of_decimalValue hc
    exact hlt
  have hlt := natOfDigits_lt hdigits
  rw [h.value, length_filterMap_decimalValue h.digits] at hlt
  exact lt_of_digits_le hlt h.short

theorem numeral_showNat {n : Nat} (h : n < Nat.pow 10 maxDigits) : Numeral (showNat n) n := by
  have hdigits : ∀ d ∈ natDigits n, decimalValue? (digitChar d) = some d :=
    fun d hd => decimalValue?_digitChar (lt_ten_of_mem_natDigits hd)
  have hchars : (showNat n).toList = (natDigits n).map digitChar := by
    rw [showNat, String.toList_ofList, natChars]
  constructor <;> rw [hchars]
  · intro c hc
    obtain ⟨d, hd, rfl⟩ := List.mem_map.1 hc
    rw [hdigits d hd]
    rfl
  · rw [List.length_map]
    exact List.length_pos_iff.2 (natDigits_ne_nil n)
  · rw [List.length_map]
    exact length_natDigits_le (Nat.succ_pos _) h
  · have hvalues : (natDigits n).filterMap (decimalValue? ∘ digitChar) = natDigits n :=
      (List.filterMap_congr hdigits).trans List.filterMap_some
    rw [List.filterMap_map, hvalues, natOfDigits_natDigits]

/-- Digits without underscores are read one by one. -/
theorem groupedDigits?_of_decimal {cs : List Char} (hne : cs ≠ []) (h : ∀ c ∈ cs, (decimalValue? c).isSome) :
    groupedDigits? cs = some (cs.filterMap decimalValue?) := by
  induction cs with
  | nil => exact absurd rfl hne
  | cons c rest ih =>
    obtain ⟨d, hd⟩ := Option.isSome_iff_exists.1 (h c List.mem_cons_self)
    cases rest with
    | nil => simp [groupedDigits?, hd]
    | cons c' rest =>
      have hrest := ih (List.cons_ne_nil c' rest) fun e he => h e (List.mem_cons_of_mem c he)
      have hc' : c' ≠ '_' := by
        rintro rfl
        exact absurd (h '_' (by simp)) (by decide)
      rw [List.filterMap_cons_some hd, groupedDigits?, hrest, hd]
      · rfl
      · exact List.cons_ne_nil c' rest
      · intro rest' heq
        exact hc' (List.cons.inj heq).1

section Digits

variable {cs : List Char}

/-- Digits have no blank and no sign in front, so that they are read from the first one on. -/
theorem readIntegerChars_digits (h : ∀ c ∈ cs, isDigit c = true) :
    readIntegerChars cs =
      match groupedDigits? (cs.takeWhile isDigitOrUnderscore) with
      | none => .error (.malformed (String.ofList cs))
      | some ds =>
        if maxDigits < ds.length then .error (.tooManyDigits ds.length)
        else if (cs.dropWhile isDigitOrUnderscore).all isNumberBlank then .ok (natOfDigits ds)
        else .error (.malformed (String.ofList cs)) := by
  have hstart : cs.dropWhile isNumberBlank = cs := by
    rw [List.dropWhile_eq_self_iff]
    intro hpos
    rw [isNumberBlank, isBlank_eq_false (h _ (List.getElem_mem hpos)), Bool.false_and]
    exact Bool.false_ne_true
  have hsign : signAndRest cs = (false, cs) := by
    unfold signAndRest
    split
    · exact absurd (h '-' List.mem_cons_self) (by decide)
    · exact absurd (h '+' List.mem_cons_self) (by decide)
    · rfl
  simp only [readIntegerChars, hstart, hsign]
  cases groupedDigits? (cs.takeWhile isDigitOrUnderscore) with
  | none => rfl
  | some ds =>
    dsimp only
    split
    · rfl
    · split <;> rfl

theorem isDigitOrUnderscore_of_isDigit {c : Char} (h : isDigit c = true) :
    isDigitOrUnderscore c = (decimalValue? c).isSome := by
  have hunderscore : c ≠ '_' := by
    rintro rfl
    exact absurd h (by decide)
  rw [isDigitOrUnderscore, beq_eq_false_iff_ne.2 hunderscore, Bool.or_false]

/-- **An integer is read from digits** exactly if all of them have a place value and they are not too many. -/
theorem readIntegerChars_eq_ok_iff (hne : cs ≠ []) (h : ∀ c ∈ cs, isDigit c = true) {n : Int} :
    readIntegerChars cs = .ok n ↔
      (∀ c ∈ cs, (decimalValue? c).isSome) ∧ cs.length ≤ maxDigits ∧
        natOfDigits (cs.filterMap decimalValue?) = n := by
  rw [readIntegerChars_digits h]
  by_cases hall : ∀ c ∈ cs, (decimalValue? c).isSome
  · have hrun : ∀ c ∈ cs, isDigitOrUnderscore c = true :=
      fun c hc => (isDigitOrUnderscore_of_isDigit (h c hc)).trans (hall c hc)
    rw [List.takeWhile_eq_self_iff.2 hrun, List.dropWhile_eq_nil_iff.2 hrun, groupedDigits?_of_decimal hne hall]
    dsimp only
    rw [length_filterMap_decimalValue hall]
    by_cases hlong : maxDigits < cs.length
    · simp [hlong]
    · rw [if_neg hlong]
      refine ⟨fun hok => ⟨hall, Nat.not_lt.1 hlong, ?_⟩, fun hok => congrArg Except.ok hok.2.2⟩
      exact Except.ok.inj hok
  · -- A digit without place value ends the run, and no blank stands for it.
    have hrest : (cs.dropWhile isDigitOrUnderscore).all isNumberBlank = false := by
      by_contra hblank
      have hrest : cs.dropWhile isDigitOrUnderscore = [] := by
        refine List.eq_nil_iff_forall_not_mem.2 fun c hc => ?_
        have hcblank := List.all_eq_true.1 (by simpa using hblank) c hc
        rw [isNumberBlank, isBlank_eq_false (h c ((List.dropWhile_suffix _).subset hc))] at hcblank
        cases hcblank
      refine hall fun c hc => ?_
      rw [← isDigitOrUnderscore_of_isDigit (h c hc)]
      exact List.dropWhile_eq_nil_iff.1 hrest c hc
    rw [hrest]
    refine ⟨fun hread => ?_, fun hok => absurd hok.1 hall⟩
    split at hread
    · cases hread
    · split at hread <;> cases hread

end Digits

end Invocation.Number

namespace Invocation.Verbosity

open Invocation.Number Invocation.Text

/-- The levels that values denote. -/
inductive Denotes : Value → Level → Prop where
  | int (n : Nat) : Denotes (.int n) n
  | name {s : String} {level : Level} (h : (upper (trim s), level) ∈ names) : Denotes (.text s) level
  | numeral {s : String} {n : Nat} (h : Numeral (upper (trim s)) n) : Denotes (.text s) n

theorem nodup_keys_names : names.keys.Nodup := by
  decide

theorem name_not_digits : ∀ entry ∈ names, (!entry.1.isEmpty && entry.1.toList.all isDigit) = false := by
  decide +kernel

/-- **A text denotes a level** exactly if it is a name or a numeral, trimmed and in upper case. -/
theorem ofText_eq_ok_iff {s : String} {level : Level} :
    ofText s = .ok level ↔ (upper (trim s), level) ∈ names ∨ Numeral (upper (trim s)) level := by
  rw [ofText]
  generalize upper (trim s) = name
  cases hdigits : !name.isEmpty && name.toList.all isDigit with
  | true =>
    -- A text of digits is read as an integer, whether its digits have place values or not.
    have hname : (name, level) ∉ names := fun hmem => by
      rw [name_not_digits _ hmem] at hdigits
      cases hdigits
    obtain ⟨hne, hall⟩ := Bool.and_eq_true_iff.1 hdigits
    have hne : name.toList ≠ [] := by
      rw [Ne, String.toList_eq_nil_iff]
      simpa using hne
    have hread {n : Int} := readIntegerChars_eq_ok_iff hne (List.all_eq_true.1 hall) (n := n)
    constructor
    · intro hok
      rw [if_pos rfl, readInteger] at hok
      split at hok
      · next n hn =>
        obtain ⟨hdecimal, hshort, rfl⟩ := hread.1 hn
        refine .inr ⟨hdecimal, List.length_pos_iff.2 hne, hshort, ?_⟩
        exact Except.ok.inj hok
      · cases hok
    · intro hdenotes
      obtain ⟨hdecimal, -, hshort, hvalue⟩ := hdenotes.resolve_left hname
      rw [if_pos rfl, readInteger, hread.2 ⟨hdecimal, hshort, rfl⟩, hvalue]
      rfl
  | false =>
    have hnumeral : ¬Numeral name level := by
      intro h
      have hne : name.isEmpty = false := by
        rw [Bool.eq_false_iff, Ne, String.isEmpty_iff, ← String.toList_eq_nil_iff]
        exact List.length_pos_iff.1 h.nonempty
      have hall : name.toList.all isDigit = true :=
        List.all_eq_true.2 fun c hc => isDigit_of_decimalValue (h.digits c hc)
      rw [hne, hall] at hdigits
      cases hdigits
    rw [if_neg Bool.false_ne_true, or_iff_left hnumeral, ← Entries.get?_eq_some_iff nodup_keys_names]
    cases names.get? name with
    | some found => exact ⟨fun h => congrArg some (Except.ok.inj h), fun h => congrArg Except.ok (Option.some.inj h)⟩
    | none => exact ⟨nofun, nofun⟩

/-- A dotless `ı` has the upper case of an `i`, and a raised two is a digit without place value. -/
example : ofText " ınfo " = .ok info ∧ ofText "²" = .error (.integer (.malformed "²")) := by
  decide +kernel

theorem resolve_eq_ok_iff {value : Value} {level : Level} :
    resolve value = .ok level ↔ Denotes value level := by
  cases value with
  | text s =>
    rw [resolve, ofText_eq_ok_iff]
    constructor
    · rintro (hname | hnumeral)
      · exact .name hname
      · exact .numeral hnumeral
    · intro h
      cases h with
      | name hname => exact .inl hname
      | numeral hnumeral => exact .inr hnumeral
  | int n =>
    rw [resolve, ofInt]
    constructor
    · intro hok
      split at hok
      · cases hok
      · next hn =>
        obtain rfl := Except.ok.inj hok
        obtain ⟨n, rfl⟩ := Int.eq_ofNat_of_zero_le (Int.not_lt.1 hn)
        exact .int n
    · rintro ⟨⟩
      rfl
  | null | bool _ | float _ | list _ | tuple _ | map _ => constructor <;> intro h <;> cases h

/-- A level that a text denotes has at most 4300 digits. -/
theorem Denotes.lt {s : String} {level : Level} (h : Denotes (.text s) level) :
    level < Nat.pow 10 maxDigits := by
  cases h with
  | numeral h => exact h.lt
  | name h =>
    have hsmall : ∀ entry ∈ names, entry.2 < Nat.pow 10 2 := by decide
    exact lt_of_digits_le (hsmall _ h) (by decide)

theorem denotes_showNat {level : Level} (h : level < Nat.pow 10 maxDigits) :
    Denotes (.text (showNat level)) level := by
  have hascii : ∀ c ∈ natChars level, upperChar c = [c] := by
    intro c hc
    obtain ⟨hlow, hhigh⟩ := toNat_of_isDigit (isDigit_of_mem_natChars hc)
    simp only [upperChar, Bool.and_eq_true, decide_eq_true_eq]
    rw [if_pos (by omega), if_neg (by omega)]
  have hnumeral := numeral_showNat h
  have hsolid : ∀ c ∈ (showNat level).toList, isBlank c = false :=
    fun c hc => isBlank_eq_false (isDigit_of_decimalValue (hnumeral.digits c hc))
  have hname : upper (trim (showNat level)) = showNat level := by
    rw [trim, trimChars_of_solid hsolid, String.ofList_toList, upper, showNat, String.toList_ofList, upperChars,
      List.flatMap_congr hascii, List.flatMap_singleton']
  refine .numeral ?_
  rwa [hname]

/-- **Resolving is closed and idempotent.** -/
theorem resolve_closed :
    (∀ value level, resolve value = .ok level ↔ Denotes value level) ∧
    (∀ value, (∃ level, Denotes value level ∧ Field.verbosity value = .ok level) ∨
      (¬∃ level, Denotes value level) ∧ ∃ fault, resolve value = .error fault ∧
        Field.verbosity value = .error (.refused (.verbosity fault))) ∧
    (∀ value level, resolve value = .ok level →
      resolve (.int level) = .ok level ∧
        (level < Nat.pow 10 maxDigits → resolve (.text (showNat level)) = .ok level)) ∧
    ∀ before after before' after' s t level, isAllBlank before = true → isAllBlank after = true →
      isAllBlank before' = true → isAllBlank after' = true →
      s.toList.map lowerAscii = t.toList.map lowerAscii →
      (resolve (.text (before ++ s ++ after)) = .ok level ↔ resolve (.text (before' ++ t ++ after')) = .ok level) := by
  refine ⟨fun value level => resolve_eq_ok_iff, fun value => ?_, fun value level hok => ⟨?_, fun hsmall => ?_⟩, ?_⟩
  · cases hvalue : resolve value with
    | ok level => exact .inl ⟨level, resolve_eq_ok_iff.1 hvalue, by rw [Field.verbosity, hvalue]; rfl⟩
    | error fault =>
      refine .inr ⟨?_, fault, rfl, by rw [Field.verbosity, hvalue]; rfl⟩
      rintro ⟨level, hlevel⟩
      rw [resolve_eq_ok_iff.2 hlevel] at hvalue
      cases hvalue
  · exact resolve_eq_ok_iff.2 (.int level)
  · exact resolve_eq_ok_iff.2 (denotes_showNat hsmall)
  · intro before after before' after' s t level hbefore hafter hbefore' hafter' hcase
    rw [resolve, resolve, ofText_eq_ok_iff, ofText_eq_ok_iff,
      upper_trim_congr hbefore hafter hbefore' hafter' hcase]

end Invocation.Verbosity

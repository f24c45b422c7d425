import Invocation.Json.Printer
import Invocation.Json.Reader

/-!
# Numbers are read back

The decimal digits of a number are read back up to a character that is none (`leadingDigits_natChars`).
Only zero begins with a zero (`tail_natDigits_of_zero`), and a number below `10 ^ k` has at most `k`
digits (`length_natDigits_le`), which decides whether it is written (`isWritable_iff`). A JSON text that begins with an integer is read as the integer, if it is
not too long and what follows does not go on with it (`readNumber_intChars`).
-/

namespace Invocation.Number

/-! ## Decimal digits -/

theorem natDigits_ne_nil (n : Nat) : natDigits n ≠ [] := by
  rw [natDigits]
  split <;> simp

theorem lt_ten_of_mem_natDigits {n d : Nat} (h : d ∈ natDigits n) : d < 10 := by
  induction n using natDigits.induct with
  | case1 n hn =>
    rw [natDigits, if_pos hn, List.mem_singleton] at h
    omega
  | case2 n hn ih =>
    rw [natDigits, if_neg hn, List.mem_append, List.mem_singleton] at h
    rcases h with h | h
    · exact ih h
    · omega

theorem length_natDigits_le {n k : Nat} (hk : 0 < k) (h : n < Nat.pow 10 k) :
    (natDigits n).length ≤ k := by
  induction n using natDigits.induct generalizing k with
  | case1 n hn =>
    rw [natDigits, if_pos hn]
    exact hk
  | case2 n hn ih =>
    obtain ⟨k, rfl⟩ : ∃ j, k = j + 1 := ⟨k - 1, by omega⟩
    have hlower : n / 10 < Nat.pow 10 k := by
      change n < Nat.pow 10 k * 10 at h
      omega
    have hk' : 0 < k := by
      rcases Nat.eq_zero_or_pos k with rfl | hpos
      · simp at h
        omega
      · exact hpos
    rw [natDigits, if_neg hn, List.length_append]
    exact Nat.succ_le_succ (ih hk' hlower)

theorem fitsDigits_iff (count n : Nat) : fitsDigits count n = true ↔ n < Nat.pow 10 count := by
  induction count generalizing n with
  | zero => exact beq_iff_eq.trans Nat.lt_one_iff.symm
  | succ count ih =>
    have hpositive : 0 < Nat.pow 10 count := Nat.pow_pos (by decide)
    change _ ↔ n < Nat.pow 10 count * 10
    rw [fitsDigits]
    split
    · next hsmall => exact iff_of_true rfl (by omega)
    · rw [ih]
      omega

theorem isWritable_iff (n : Int) : isWritable n = true ↔ n.natAbs < Nat.pow 10 maxDigits :=
  fitsDigits_iff maxDigits n.natAbs

theorem isWritable_of_le {n : Nat} (h : Nat.pow 10 maxDigits ≤ n) : isWritable n = false := by
  rw [← Bool.not_eq_true, isWritable_iff, Int.natAbs_natCast]
  exact Nat.not_lt.2 h

/-- Digits that begin with a zero are a zero alone. -/
theorem tail_natDigits_of_zero {n : Nat} {ds : List Nat} (h : natDigits n = 0 :: ds) : ds = [] := by
  induction n using natDigits.induct generalizing ds with
  | case1 n hn =>
    rw [natDigits, if_pos hn] at h
    exact (List.cons.inj h).2.symm
  | case2 n hn ih =>
    rw [natDigits, if_neg hn] at h
    obtain ⟨d, es, he⟩ := List.exists_cons_of_ne_nil (natDigits_ne_nil (n / 10))
    rw [he, List.cons_append] at h
    obtain ⟨rfl, -⟩ := List.cons.inj h
    -- The digits of the tenth part are a zero alone as well, so that it is zero.
    have hzero : natOfDigits (natDigits (n / 10)) = 0 := by
      rw [he, ih he]
      rfl
    rw [natOfDigits_natDigits] at hzero
    omega

theorem isDigit_digitChar {d : Nat} (h : d < 10) : (digitChar d).isDigit = true := by
  revert d
  decide

theorem toNat_digitChar {d : Nat} (h : d < 10) : (digitChar d).toNat - 48 = d := by
  revert d
  decide

theorem isDigit_of_mem_natChars {n : Nat} {c : Char} (h : c ∈ natChars n) : c.isDigit = true := by
  obtain ⟨d, hd, rfl⟩ := List.mem_map.1 h
  exact isDigit_digitChar (lt_ten_of_mem_natDigits hd)

theorem toNat_of_isDigit {c : Char} (h : c.isDigit = true) : 48 ≤ c.toNat ∧ c.toNat ≤ 57 := by
  simpa [Char.isDigit, Char.le_def, UInt32.le_iff_toNat_le] using h

theorem mem_intChars {n : Int} {c : Char} (h : c ∈ intChars n) : c.isDigit = true ∨ c = '-' := by
  cases n with
  | ofNat n => exact .inl (isDigit_of_mem_natChars h)
  | negSucc n =>
    rcases List.mem_cons.1 h with rfl | h
    · exact .inr rfl
    · exact .inl (isDigit_of_mem_natChars h)

/-- The characters of a number begin with a digit. -/
theorem natChars_eq_cons (n : Nat) : ∃ c cs, natChars n = c :: cs ∧ c.isDigit = true := by
  obtain ⟨d, ds, hd⟩ := List.exists_cons_of_ne_nil (natDigits_ne_nil n)
  refine ⟨digitChar d, ds.map digitChar, ?_, ?_⟩
  · rw [natChars, hd, List.map_cons]
  · exact isDigit_digitChar (lt_ten_of_mem_natDigits (hd ▸ List.mem_cons_self))

/-- **Decimal digits are read back**, up to a character that is none. -/
theorem leadingDigits_natChars (n : Nat) {rest : List Char}
    (h : ∀ c ∈ rest.head?, c.isDigit = false) :
    leadingDigits (natChars n ++ rest) = (natDigits n, rest) := by
  have hall : ∀ c ∈ natChars n, c.isDigit = true := fun c hc => isDigit_of_mem_natChars hc
  have htake : rest.takeWhile Char.isDigit = [] := by
    cases rest with
    | nil => rfl
    | cons c rest => simp [h c rfl]
  have hdrop : rest.dropWhile Char.isDigit = rest := by
    cases rest with
    | nil => rfl
    | cons c rest => simp [h c rfl]
  have hvalues : (natChars n).map (·.toNat - 48) = natDigits n := by
    rw [natChars, List.map_map]
    refine (List.map_congr_left fun d hd => ?_).trans (List.map_id _)
    exact toNat_digitChar (lt_ten_of_mem_natDigits hd)
  rw [leadingDigits, List.takeWhile_append_of_pos hall, List.dropWhile_append_of_pos hall, htake,
    hdrop, List.append_nil, hvalues]

end Invocation.Number

namespace Invocation.Json

open Invocation.Number

/-! ## Integers in JSON texts -/

/-- What follows a value does not go on with a number. -/
def Stops (rest : List Char) : Prop :=
  ∀ c ∈ rest.head?, c.isDigit = false ∧ c ≠ '.' ∧ c ≠ 'e' ∧ c ≠ 'E'

theorem stops_cons {c : Char} (h : c.isDigit = false ∧ c ≠ '.' ∧ c ≠ 'e' ∧ c ≠ 'E')
    (rest : List Char) : Stops (c :: rest) := by
  intro d hd
  obtain rfl : c = d := Option.some.inj hd
  exact h

theorem wholeDigits?_natChars (n : Nat) {rest : List Char} (h : Stops rest) :
    wholeDigits? (natChars n ++ rest) = some (natDigits n, rest) := by
  have hleading := leadingDigits_natChars n fun c hc => (h c hc).1
  unfold wholeDigits?
  rw [hleading]
  split
  · next heq => exact absurd (Prod.mk.inj heq).1 (natDigits_ne_nil n)
  · next heq =>
    obtain ⟨hdigits, -⟩ := Prod.mk.inj heq
    obtain rfl := tail_natDigits_of_zero hdigits
    rw [natChars, hdigits]
    rfl
  · rfl

theorem placesAndRest_of_stops {rest : List Char} (h : Stops rest) :
    placesAndRest rest = ([], rest) := by
  unfold placesAndRest
  split
  · exact absurd rfl (h '.' rfl).2.1
  · rfl

theorem powerAndRest_of_stops {rest : List Char} (h : Stops rest) :
    powerAndRest rest = (none, rest) := by
  cases rest with
  | nil => rfl
  | cons c rest =>
    obtain ⟨-, -, he, hE⟩ := h c rfl
    rw [powerAndRest, if_neg (not_or.2 ⟨he, hE⟩)]

/-- **An integer is read back**, with its sign. -/
theorem readNumber_intChars {n : Int} (hn : (natDigits n.natAbs).length ≤ maxDigits)
    {rest : List Char} (h : Stops rest) :
    readNumber (intChars n ++ rest) = .ok (.int n, rest) := by
  have hshort : ¬maxDigits < (natDigits n.natAbs).length := Nat.not_lt.2 hn
  cases n with
  | ofNat n =>
    obtain ⟨c, cs, hcs, hc⟩ := natChars_eq_cons n
    have hsign : minusAndRest (natChars n ++ rest) = (false, natChars n ++ rest) := by
      rw [hcs, List.cons_append]
      unfold minusAndRest
      split
      · next heq =>
        obtain ⟨rfl, -⟩ := List.cons.inj heq
        cases hc
      · rfl
    simp only [Int.ofNat_eq_natCast, Int.natAbs_natCast] at hshort
    rw [intChars, readNumber, hsign]
    simp only [wholeDigits?_natChars n h, placesAndRest_of_stops h, powerAndRest_of_stops h,
      if_neg hshort, natOfDigits_natDigits]
    rfl
  | negSucc n =>
    have hsign : minusAndRest ('-' :: natChars (n + 1) ++ rest) = (true, natChars (n + 1) ++ rest) :=
      rfl
    simp only [Int.natAbs_negSucc] at hshort
    rw [intChars, readNumber, hsign]
    simp only [wholeDigits?_natChars (n + 1) h, placesAndRest_of_stops h, powerAndRest_of_stops h,
      if_neg hshort, natOfDigits_natDigits]
    rfl

/-- A name begins with a letter, or with a sign and a letter. -/
theorem names_start : ∀ entry ∈ names, ∃ c cs, entry.1 = c :: cs ∧ c.isDigit = false ∧
    (c = '-' → ∃ d ds, cs = d :: ds ∧ d.isDigit = false) := by
  intro entry hentry
  simp only [names, List.mem_cons, List.not_mem_nil, or_false] at hentry
  rcases hentry with rfl | rfl | rfl | rfl | rfl | rfl
  · exact ⟨'n', _, rfl, rfl, by simp⟩
  · exact ⟨'t', _, rfl, rfl, by simp⟩
  · exact ⟨'f', _, rfl, rfl, by simp⟩
  · exact ⟨'N', _, rfl, rfl, by simp⟩
  · exact ⟨'I', _, rfl, rfl, by simp⟩
  · exact ⟨'-', _, rfl, rfl, fun _ => ⟨'I', _, rfl, rfl⟩⟩

/-- A number is not the start of a name. -/
theorem readScalar_intChars (n : Int) (rest : List Char) :
    readScalar (intChars n ++ rest) = readNumber (intChars n ++ rest) := by
  have hstart (entry : List Char × Value) (hentry : entry ∈ names) :
      dropStart? entry.1 (intChars n ++ rest) = none := by
    obtain ⟨p, ps, hname, hp, hsign⟩ := names_start entry hentry
    rw [hname]
    cases n with
    | ofNat n =>
      obtain ⟨c, cs, hcs, hc⟩ := natChars_eq_cons n
      rw [intChars, hcs, List.cons_append, dropStart?, if_neg]
      rintro rfl
      rw [hp] at hc
      cases hc
    | negSucc n =>
      obtain ⟨c, cs, hcs, hc⟩ := natChars_eq_cons (n + 1)
      rw [intChars, hcs, List.cons_append, dropStart?]
      split
      · next heq =>
        obtain ⟨q, qs, rfl, hq⟩ := hsign heq
        rw [List.cons_append, dropStart?, if_neg]
        rintro rfl
        rw [hq] at hc
        cases hc
      · rfl
  unfold readScalar
  split
  · next hfound =>
    obtain ⟨⟨name, value⟩, hentry, hname⟩ := List.exists_of_findSome?_eq_some hfound
    dsimp only at hname
    rw [hstart (name, value) hentry] at hname
    cases hname
  · rfl

end Invocation.Json

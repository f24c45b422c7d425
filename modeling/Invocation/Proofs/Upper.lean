import Mathlib
import Invocation.Text.Case

/-!
# Upper case is reached at once

An upper-case text is its own upper case (`upper_upper`), whatever became of its length.

A character changes only if its code is in one of the two tables (`upperChar_of_notMem`), and what
it changes to is given by the tables as well (`upperChar_cases`). So it is enough that no code that
the tables lead to (`upperCodes`) is one that they lead from (`lowerCodes`). Both lists are long;
they are compared as sets of bits of one number each (`disjoint_codes`).
-/

namespace Invocation.Text

/-! ## Codes as bits -/

/-- The number whose bits are at the given places. -/
def bitsAt (places : List Nat) : Nat :=
  places.foldr (fun n bits => bits ||| 2 ^ n) 0

theorem testBit_bitsAt {n : Nat} {places : List Nat} (h : n ∈ places) :
    (bitsAt places).testBit n = true := by
  induction places with
  | nil => cases h
  | cons m rest ih =>
    change (bitsAt rest ||| 2 ^ m).testBit n = true
    rw [Nat.testBit_or, Bool.or_eq_true]
    rcases List.mem_cons.1 h with rfl | h
    · exact Or.inr (Nat.testBit_two_pow_self)
    · exact Or.inl (ih h)

theorem notMem_of_bitsAt {places others : List Nat} (h : bitsAt places &&& bitsAt others = 0)
    {n : Nat} (hn : n ∈ others) : n ∉ places := by
  intro hp
  have hboth : (bitsAt places &&& bitsAt others).testBit n = true := by
    rw [Nat.testBit_and, testBit_bitsAt hp, testBit_bitsAt hn]
    rfl
  rw [h, Nat.zero_testBit] at hboth
  cases hboth

/-! ## Where the tables lead from and to -/

/-- The codes of the characters that a run moves. -/
def CaseRun.codes (run : CaseRun) : List Nat :=
  (List.range' run.first (run.last + 1 - run.first)).filter fun n => run.covers n

theorem CaseRun.mem_codes {run : CaseRun} {n : Nat} (h : run.covers n = true) :
    n ∈ run.codes := by
  refine List.mem_filter.2 ⟨?_, h⟩
  simp only [CaseRun.covers, Bool.and_eq_true, decide_eq_true_eq] at h
  rw [List.mem_range'_1]
  omega

/-- The codes that have another upper case. -/
def lowerCodes : List Nat :=
  caseRuns.flatMap CaseRun.codes ++ caseExpansions.map Prod.fst

/-- The codes that are in the upper case of others. -/
def upperCodes : List Nat :=
  caseRuns.flatMap (fun run => run.codes.map fun (n : Nat) => (n + run.shift).toNat) ++
    caseExpansions.flatMap Prod.snd

theorem disjoint_codes : bitsAt lowerCodes &&& bitsAt (0 :: upperCodes) = 0 := by
  decide +kernel

theorem mem_codes_of_covers {run : CaseRun} {n : Nat} (hrun : run ∈ caseRuns)
    (h : run.covers n = true) : n ∈ lowerCodes ∧ (n + run.shift).toNat ∈ upperCodes := by
  have hn := CaseRun.mem_codes h
  constructor
  · exact List.mem_append_left _ (List.mem_flatMap.2 ⟨run, hrun, hn⟩)
  · refine List.mem_append_left _ (List.mem_flatMap.2 ⟨run, hrun, ?_⟩)
    exact List.mem_map.2 ⟨n, hn, rfl⟩

theorem mem_codes_of_lookup {n : Nat} {codes : List Nat}
    (h : caseExpansions.lookup n = some codes) :
    n ∈ lowerCodes ∧ ∀ m ∈ codes, m ∈ upperCodes := by
  obtain ⟨before, after, heq, -⟩ := List.lookup_eq_some_iff.1 h
  have hmem : (n, codes) ∈ caseExpansions := by
    rw [heq]
    exact List.mem_append_right _ List.mem_cons_self
  constructor
  · exact List.mem_append_right _ (List.mem_map.2 ⟨_, hmem, rfl⟩)
  · intro m hm
    exact List.mem_append_right _ (List.mem_flatMap.2 ⟨_, hmem, hm⟩)

/-- The letters of ASCII are the first run of the table. -/
theorem mem_codes_of_ascii {n : Nat} (h : 97 ≤ n ∧ n ≤ 122) :
    n ∈ lowerCodes ∧ n - 32 ∈ upperCodes := by
  have hcovers : (CaseRun.mk 0x61 0x7a 1 (-32)).covers n = true := by
    simp only [CaseRun.covers, Nat.mod_one, beq_self_eq_true, Bool.and_true, Bool.and_eq_true,
      decide_eq_true_eq]
    exact h
  have hmem := mem_codes_of_covers List.mem_cons_self hcovers
  have hmoved : ((n : Int) + -32).toNat = n - 32 := by omega
  rwa [hmoved] at hmem

/-! ## The upper case of a character -/

/-- A character is its own upper case, or the tables lead from it to all characters of its upper
case. -/
theorem upperChar_cases (c : Char) :
    upperChar c = [c] ∨
      c.toNat ∈ lowerCodes ∧
        ∃ codes : List Nat, upperChar c = codes.map Char.ofNat ∧ ∀ m ∈ codes, m ∈ upperCodes := by
  unfold upperChar
  by_cases hascii : c.toNat < 128
  · simp only [if_pos hascii, Bool.and_eq_true, decide_eq_true_eq]
    by_cases hlower : 97 ≤ c.toNat ∧ c.toNat ≤ 122
    · obtain ⟨hmem, hmoved⟩ := mem_codes_of_ascii hlower
      rw [if_pos hlower]
      refine Or.inr ⟨hmem, [c.toNat - 32], rfl, ?_⟩
      intro m hm
      rwa [List.mem_singleton.1 hm]
    · rw [if_neg hlower]
      exact Or.inl rfl
  · simp only [if_neg hascii]
    cases hexp : caseExpansions.lookup c.toNat with
    | some codes =>
      obtain ⟨hmem, hcodes⟩ := mem_codes_of_lookup hexp
      exact Or.inr ⟨hmem, codes, rfl, hcodes⟩
    | none =>
      cases hrun : caseRuns.find? fun run => run.covers c.toNat with
      | none => exact Or.inl rfl
      | some run =>
        have hcovers := (List.find?_eq_some_iff_append.1 hrun).1
        obtain ⟨hmem, hmoved⟩ := mem_codes_of_covers (List.mem_of_find?_eq_some hrun) hcovers
        refine Or.inr ⟨hmem, [_], rfl, ?_⟩
        intro m hm
        rwa [List.mem_singleton.1 hm]

theorem upperChar_of_notMem {c : Char} (h : c.toNat ∉ lowerCodes) : upperChar c = [c] := by
  rcases upperChar_cases c with heq | ⟨hmem, -⟩
  · exact heq
  · exact absurd hmem h

theorem upperChar_ofNat {m : Nat} (h : m ∈ upperCodes) :
    upperChar (Char.ofNat m) = [Char.ofNat m] := by
  apply upperChar_of_notMem
  rw [Char.toNat_ofNat]
  split
  · exact notMem_of_bitsAt disjoint_codes (List.mem_cons_of_mem 0 h)
  · exact notMem_of_bitsAt disjoint_codes List.mem_cons_self

/-! ## The upper case of a text -/

theorem upperChars_upperChar (c : Char) : upperChars (upperChar c) = upperChar c := by
  rcases upperChar_cases c with heq | ⟨-, codes, heq, hcodes⟩
  · rw [heq]
    simp only [upperChars, List.flatMap_cons, List.flatMap_nil, List.append_nil, heq]
  · rw [heq]
    clear heq
    induction codes with
    | nil => rfl
    | cons m rest ih =>
      have hm := upperChar_ofNat (hcodes m List.mem_cons_self)
      have hrest := ih fun n hn => hcodes n (List.mem_cons_of_mem m hn)
      rw [List.map_cons, upperChars, List.flatMap_cons, hm]
      exact congrArg (Char.ofNat m :: ·) hrest

theorem upperChars_append (xs ys : List Char) :
    upperChars (xs ++ ys) = upperChars xs ++ upperChars ys :=
  List.flatMap_append

theorem upperChars_upperChars (cs : List Char) : upperChars (upperChars cs) = upperChars cs := by
  induction cs with
  | nil => rfl
  | cons c rest ih =>
    change upperChars (upperChar c ++ upperChars rest) = upperChar c ++ upperChars rest
    rw [upperChars_append, upperChars_upperChar, ih]

/-- **An upper-case text** is its own upper case. -/
theorem upper_upper (s : String) : upper (upper s) = upper s := by
  simp only [upper, String.toList_ofList, upperChars_upperChars]

end Invocation.Text

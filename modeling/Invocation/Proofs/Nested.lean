import Invocation.Proofs.Json

/-!
# Reading nested values

Every step of reading leaves an end of the characters it was given (`readValue_suffix`). So a list or a map that
is opened takes at least its bracket, and twice as many steps as there are characters are enough for all that is
opened, also in a text that ends before it is closed. More steps read the same, the fault included
(`readValue_congr`, `readValue_of_fuelFor_le`).
-/

namespace Invocation.Json

open Invocation.Number

/-! ## What is left -/

section Texts

variable {cs rest : List Char}

theorem skipBlanks_suffix (cs : List Char) : skipBlanks cs <:+ cs :=
  List.dropWhile_suffix _

theorem hexQuad?_suffix {n : Nat} (h : hexQuad? cs = some (n, rest)) : rest <:+ cs := by
  unfold hexQuad? at h
  split at h
  · next a b c d e more =>
    simp only [Option.bind_eq_bind, Option.bind_eq_some_iff, Option.pure_def, Option.some.injEq,
      Prod.mk.injEq] at h
    obtain ⟨-, -, -, -, -, -, -, -, -, rfl⟩ := h
    exact ⟨[a, b, c, d], rfl⟩
  · cases h

theorem unicodeEscape_suffix {c : Char} (h : unicodeEscape cs = .ok (c, rest)) : rest <:+ cs := by
  unfold unicodeEscape at h
  split at h
  · cases h
  · next n more hquad =>
    have hmore := hexQuad?_suffix hquad
    split at h
    · next after =>
      split at h
      · cases h
        exact hmore
      · split at h
        · cases h
        · next hpair =>
          split at h
          · obtain ⟨-, rfl⟩ := Prod.mk.inj (Except.ok.inj h)
            exact (((hexQuad?_suffix hpair).trans (List.suffix_cons 'u' _)).trans (List.suffix_cons '\\' _)).trans hmore
          · cases h
            exact hmore
    · cases h
      exact hmore

theorem escape_suffix {opened : Nat} {c : Char} (h : escape opened cs = .ok (c, rest)) : rest <:+ cs := by
  unfold escape at h
  split at h
  · cases h
  · exact (unicodeEscape_suffix h).trans (List.suffix_cons _ _)
  · split at h
    · cases h
      exact List.suffix_cons _ _
    · cases h

theorem textTail_suffix {opened fuel : Nat} {text : List Char} (h : textTail opened fuel cs = .ok (text, rest)) :
    rest <:+ cs := by
  induction fuel generalizing cs text with
  | zero => cases h
  | succ fuel ih =>
    cases cs with
    | nil => cases h
    | cons c cs =>
      have hcons := List.suffix_cons c cs
      rw [textTail] at h
      split at h
      · cases h
        exact hcons
      · split at h
        · obtain ⟨⟨e, after⟩, hescape, h⟩ := bind_eq_ok_iff.1 h
          obtain ⟨⟨tail, left⟩, htail, h⟩ := bind_eq_ok_iff.1 h
          cases h
          exact ((ih htail).trans (escape_suffix hescape)).trans hcons
        · split at h
          · cases h
          · obtain ⟨⟨tail, left⟩, htail, h⟩ := bind_eq_ok_iff.1 h
            cases h
            exact (ih htail).trans hcons

theorem readText_suffix {text : String} (h : readText cs = .ok (text, rest)) : rest <:+ cs := by
  obtain ⟨⟨chars, left⟩, htail, h⟩ := bind_eq_ok_iff.1 h
  cases h
  exact textTail_suffix htail

end Texts

section Scalars

variable {cs rest : List Char}

theorem leadingDigits_suffix (cs : List Char) : (leadingDigits cs).2 <:+ cs :=
  List.dropWhile_suffix _

theorem minusAndRest_suffix (cs : List Char) : (minusAndRest cs).2 <:+ cs := by
  unfold minusAndRest
  split
  · exact List.suffix_cons _ _
  · exact List.suffix_refl _

theorem signAndRest_suffix (cs : List Char) : (signAndRest cs).2 <:+ cs := by
  unfold signAndRest
  split
  · exact List.suffix_cons _ _
  · exact List.suffix_cons _ _
  · exact List.suffix_refl _

theorem wholeDigits?_suffix {ds : List Nat} (h : wholeDigits? cs = some (ds, rest)) : rest <:+ cs := by
  have hleading := leadingDigits_suffix cs
  unfold wholeDigits? at h
  split at h
  · cases h
  · cases h
    exact List.drop_suffix 1 cs
  · rw [Option.some.inj h] at hleading
    exact hleading

theorem placesAndRest_suffix (cs : List Char) : (placesAndRest cs).2 <:+ cs := by
  unfold placesAndRest
  split
  · next rest =>
    split
    · exact List.suffix_refl _
    · exact (leadingDigits_suffix rest).trans (List.suffix_cons _ _)
  · exact List.suffix_refl _

theorem powerAndRest_suffix (cs : List Char) : (powerAndRest cs).2 <:+ cs := by
  unfold powerAndRest
  split
  · exact List.suffix_refl _
  · next c rest =>
    split
    · dsimp only
      split
      · exact List.suffix_refl _
      · next digits after _ hleading =>
        have hafter := leadingDigits_suffix (signAndRest rest).2
        rw [hleading] at hafter
        exact (hafter.trans (signAndRest_suffix rest)).trans (List.suffix_cons _ _)
    · exact List.suffix_refl _

theorem readNumber_suffix {value : Value} (h : readNumber cs = .ok (value, rest)) : rest <:+ cs := by
  unfold readNumber at h
  dsimp only at h
  split at h
  · cases h
  · next whole after hwhole =>
    have hplaces := (placesAndRest_suffix after).trans
      ((wholeDigits?_suffix hwhole).trans (minusAndRest_suffix cs))
    have hpower := (powerAndRest_suffix (placesAndRest after).2).trans hplaces
    split at h
    · next hmatch =>
      rw [hmatch] at hpower
      split at h
      · cases h
      · cases h
        exact hpower
    · next hmatch _ =>
      cases h
      rwa [hmatch] at hpower

theorem dropStart?_suffix {name : List Char} (h : dropStart? name cs = some rest) : rest <:+ cs := by
  fun_induction dropStart? name cs with
  | case1 cs =>
    cases h
    exact List.suffix_refl _
  | case2 p ps cs ih => exact (ih h).trans (List.suffix_cons _ _)
  | case3 => cases h
  | case4 => cases h

theorem readScalar_suffix {value : Value} (h : readScalar cs = .ok (value, rest)) : rest <:+ cs := by
  unfold readScalar at h
  split at h
  · next found hfound =>
    cases h
    obtain ⟨entry, -, hsome⟩ := List.exists_of_findSome?_eq_some hfound
    obtain ⟨after, hdrop, heq⟩ := Option.map_eq_some_iff.1 hsome
    cases heq
    exact dropStart?_suffix hdrop
  · exact readNumber_suffix h

end Scalars

/-- What is read with some fuel leaves an end of the characters. -/
structure LeavesEnd (fuel : Nat) : Prop where
  value : ∀ {cs rest value}, readValue fuel cs = .ok (value, rest) → rest <:+ cs
  items : ∀ {cs rest items}, readItems fuel cs = .ok (items, rest) → rest <:+ cs
  members : ∀ {earlier cs rest entries}, readMembers fuel earlier cs = .ok (entries, rest) → rest <:+ cs

section Step

variable {fuel : Nat} {cs rest : List Char}

/-- What stands after the blanks and a mark that comes first after them. -/
theorem suffix_of_skipBlanks {c : Char} (h : skipBlanks cs = c :: rest) : rest <:+ cs :=
  (List.suffix_cons c rest).trans (h ▸ skipBlanks_suffix cs)

theorem LeavesEnd.readValue (h : LeavesEnd fuel) {value : Value}
    (hread : readValue (fuel + 1) cs = .ok (value, rest)) : rest <:+ cs := by
  unfold Json.readValue at hread
  split at hread
  · next inner =>
    obtain ⟨⟨text, after⟩, htext, hread⟩ := bind_eq_ok_iff.1 hread
    cases hread
    exact (readText_suffix htext).trans (List.suffix_cons _ _)
  · next inner =>
    split at hread
    · next hclose =>
      cases hread
      exact (suffix_of_skipBlanks hclose).trans (List.suffix_cons _ _)
    · obtain ⟨⟨items, after⟩, hitems, hread⟩ := bind_eq_ok_iff.1 hread
      cases hread
      exact ((h.items hitems).trans (skipBlanks_suffix inner)).trans (List.suffix_cons _ _)
  · next inner =>
    split at hread
    · next hclose =>
      cases hread
      exact (suffix_of_skipBlanks hclose).trans (List.suffix_cons _ _)
    · obtain ⟨⟨entries, after⟩, hmembers, hread⟩ := bind_eq_ok_iff.1 hread
      cases hread
      exact ((h.members hmembers).trans (skipBlanks_suffix inner)).trans (List.suffix_cons _ _)
  · exact readScalar_suffix hread

theorem LeavesEnd.readItems (h : LeavesEnd fuel) {items : List Value}
    (hread : readItems (fuel + 1) cs = .ok (items, rest)) : rest <:+ cs := by
  unfold Json.readItems at hread
  obtain ⟨⟨first, after⟩, hfirst, hread⟩ := bind_eq_ok_iff.1 hread
  have hafter := h.value hfirst
  dsimp only at hread
  split at hread
  · next hclose =>
    cases hread
    exact (suffix_of_skipBlanks hclose).trans hafter
  · next more hcomma =>
    obtain ⟨⟨others, left⟩, hothers, hread⟩ := bind_eq_ok_iff.1 hread
    cases hread
    exact (((h.items hothers).trans (skipBlanks_suffix more)).trans (suffix_of_skipBlanks hcomma)).trans hafter
  · cases hread

theorem LeavesEnd.readMembers (h : LeavesEnd fuel) {earlier entries : Entries Value}
    (hread : readMembers (fuel + 1) earlier cs = .ok (entries, rest)) : rest <:+ cs := by
  unfold Json.readMembers at hread
  split at hread
  · next inner =>
    obtain ⟨⟨name, afterName⟩, hname, hread⟩ := bind_eq_ok_iff.1 hread
    have hafterName := (readText_suffix hname).trans (List.suffix_cons '"' inner)
    dsimp only at hread
    split at hread
    · next afterColon hcolon =>
      obtain ⟨⟨value, afterValue⟩, hvalue, hread⟩ := bind_eq_ok_iff.1 hread
      have hafterValue := (((h.value hvalue).trans (skipBlanks_suffix afterColon)).trans
        (suffix_of_skipBlanks hcolon)).trans hafterName
      dsimp only at hread
      split at hread
      · next hclose =>
        cases hread
        exact (suffix_of_skipBlanks hclose).trans hafterValue
      · next more hcomma =>
        exact (((h.members hread).trans (skipBlanks_suffix more)).trans
          (suffix_of_skipBlanks hcomma)).trans hafterValue
      · cases hread
    · cases hread
  · cases hread

end Step

theorem leavesEnd (fuel : Nat) : LeavesEnd fuel := by
  induction fuel with
  | zero => constructor <;> intros <;> contradiction
  | succ fuel ih => exact ⟨ih.readValue, ih.readItems, ih.readMembers⟩

/-- **A value that is read** leaves an end of the characters. -/
theorem readValue_suffix {fuel : Nat} {cs rest : List Char} {value : Value}
    (h : readValue fuel cs = .ok (value, rest)) : rest <:+ cs :=
  (leavesEnd fuel).value h

/-! ## Enough steps -/

/-- Readers with two amounts of fuel agree on what is short enough for both. -/
structure Agree (fuel more : Nat) : Prop where
  value : ∀ cs : List Char, 2 * cs.length < fuel → 2 * cs.length < more → readValue fuel cs = readValue more cs
  items : ∀ cs : List Char, 2 * cs.length + 1 < fuel → 2 * cs.length + 1 < more →
    readItems fuel cs = readItems more cs
  members : ∀ (earlier : Entries Value) (cs : List Char), 2 * cs.length < fuel → 2 * cs.length < more →
    readMembers fuel earlier cs = readMembers more earlier cs

section Step

variable {fuel more : Nat}

theorem Agree.readValue (h : Agree fuel more) (cs : List Char) (hfuel : 2 * cs.length < fuel + 1)
    (hmore : 2 * cs.length < more + 1) : readValue (fuel + 1) cs = readValue (more + 1) cs := by
  have hinside (c : Char) (rest : List Char) (hcs : cs = c :: rest) :
      2 * (skipBlanks rest).length + 1 < fuel ∧ 2 * (skipBlanks rest).length + 1 < more := by
    have hle := (skipBlanks_suffix rest).length_le
    have hlength := congrArg List.length hcs
    rw [List.length_cons] at hlength
    omega
  unfold Json.readValue
  split
  · rfl
  · next rest =>
    split
    · rfl
    · obtain ⟨hitems, hitems'⟩ := hinside _ rest rfl
      rw [h.items _ hitems hitems']
  · next rest =>
    split
    · rfl
    · obtain ⟨hmembers, hmembers'⟩ := hinside _ rest rfl
      rw [h.members [] _ (by omega) (by omega)]
  · rfl

theorem Agree.readItems (h : Agree fuel more) (cs : List Char) (hfuel : 2 * cs.length + 1 < fuel + 1)
    (hmore : 2 * cs.length + 1 < more + 1) : readItems (fuel + 1) cs = readItems (more + 1) cs := by
  unfold Json.readItems
  rw [h.value cs (by omega) (by omega)]
  cases hfirst : Json.readValue more cs with
  | error halt => rfl
  | ok first =>
    obtain ⟨item, after⟩ := first
    dsimp only [bind, Except.bind]
    split
    · rfl
    · next rest hcomma =>
      have hshorter := ((suffix_of_skipBlanks hcomma).trans (readValue_suffix hfirst)).length_le
      have hafter := congrArg List.length hcomma
      have hblanks := (skipBlanks_suffix rest).length_le
      have hvalue := (skipBlanks_suffix after).length_le
      have hfirstLength := (readValue_suffix hfirst).length_le
      rw [List.length_cons] at hafter
      rw [h.items _ (by omega) (by omega)]
    · rfl

theorem Agree.readMembers (h : Agree fuel more) (earlier : Entries Value) (cs : List Char)
    (hfuel : 2 * cs.length < fuel + 1) (hmore : 2 * cs.length < more + 1) :
    readMembers (fuel + 1) earlier cs = readMembers (more + 1) earlier cs := by
  unfold Json.readMembers
  split
  · next inner =>
    rw [List.length_cons] at hfuel hmore
    cases hname : readText inner with
    | error halt => rfl
    | ok named =>
      obtain ⟨name, afterName⟩ := named
      have hafterName := (readText_suffix hname).length_le
      dsimp only [bind, Except.bind]
      split
      · next afterColon hcolon =>
        have hshorter := ((skipBlanks_suffix afterColon).trans (suffix_of_skipBlanks hcolon)).length_le
        rw [h.value _ (by omega) (by omega)]
        cases hvalue : Json.readValue more (skipBlanks afterColon) with
        | error halt => rfl
        | ok found =>
          obtain ⟨value, afterValue⟩ := found
          have hafterValue := (readValue_suffix hvalue).length_le
          dsimp only
          split
          · rfl
          · next rest hcomma =>
            have hleft := ((skipBlanks_suffix rest).trans (suffix_of_skipBlanks hcomma)).length_le
            rw [h.members _ _ (by omega) (by omega)]
          · rfl
      · rfl
  · rfl

end Step

/-- Readers agree if both have fuel enough, however much. -/
theorem agree (fuel more : Nat) : Agree fuel more := by
  induction fuel generalizing more with
  | zero =>
    constructor <;> intros <;> omega
  | succ fuel ih =>
    cases more with
    | zero => constructor <;> intros <;> omega
    | succ more => exact ⟨(ih more).readValue, (ih more).readItems, (ih more).readMembers⟩

theorem readValue_congr {fuel more : Nat} {cs : List Char} (hfuel : 2 * cs.length < fuel)
    (hmore : 2 * cs.length < more) : readValue fuel cs = readValue more cs :=
  (agree fuel more).value cs hfuel hmore

/-- **The fuel for a text is enough**: with more of it the same comes of the text, be it a value or a fault. -/
theorem readValue_of_fuelFor_le {fuel : Nat} {cs : List Char} (h : fuelFor cs ≤ fuel) :
    readValue fuel (skipBlanks cs) = readValue (fuelFor cs) (skipBlanks cs) := by
  have hle := (skipBlanks_suffix cs).length_le
  unfold fuelFor at h ⊢
  exact readValue_congr (by omega) (by omega)

/-- A value is missing behind brackets that are not closed. -/
example : read "[[[" = .error (.malformed (Fault.locate .expectingValue "[[[".toList 3)) := by
  rfl

end Invocation.Json

import Invocation.Json.Reader

/-!
# Names in JSON objects

An object that is read has every name once (`nodup_keys_of_read`): a member with the name of an
earlier one is written in its place.
-/

namespace Invocation.Json

open Invocation.Entries

/-! ## Steps that can fail -/

/-- A change of the errors keeps what succeeds. -/
theorem mapError_eq_ok_iff {ε ε' α : Type} {f : ε → ε'} {x : Except ε α} {a : α} :
    x.mapError f = .ok a ↔ x = .ok a := by
  cases x with
  | error e => constructor <;> intro h <;> cases h
  | ok b =>
    constructor <;> intro h
    · exact congrArg _ (Except.ok.inj (h : Except.ok b = Except.ok a))
    · exact congrArg _ (Except.ok.inj h)

/-- Two steps succeed if the first does and the second does after it. -/
theorem bind_eq_ok_iff {ε α β : Type} {x : Except ε α} {f : α → Except ε β} {b : β} :
    x >>= f = .ok b ↔ ∃ a, x = .ok a ∧ f a = .ok b := by
  cases x with
  | error e => exact ⟨fun h => (by cases h), fun ⟨_, h, _⟩ => (by cases h)⟩
  | ok a => exact ⟨fun h => ⟨a, rfl, h⟩, fun ⟨_, h, hb⟩ => Except.ok.inj h ▸ hb⟩

theorem map_eq_ok_iff {ε α β : Type} {x : Except ε α} {f : α → β} {b : β} :
    x.map f = .ok b ↔ ∃ a, x = .ok a ∧ f a = b := by
  cases x with
  | error e => exact ⟨fun h => (by cases h), fun ⟨_, h, _⟩ => (by cases h)⟩
  | ok a => exact ⟨fun h => ⟨a, rfl, Except.ok.inj h⟩, fun ⟨_, h, hb⟩ => Except.ok.inj h ▸ congrArg _ hb⟩

/-! ## Objects -/

/-- The first member of the rest of an object is put to the members before it, and it is the last or the others
come after it. -/
theorem readMembers_cases {fuel : Nat} {earlier entries : Entries Value} {cs rest : List Char}
    (h : readMembers (fuel + 1) earlier cs = .ok (entries, rest)) :
    ∃ name value start afterValue, readValue fuel start = .ok (value, afterValue) ∧
      (entries = put name value earlier ∨
        ∃ later, readMembers fuel (put name value earlier) later = .ok (entries, rest)) := by
  unfold readMembers at h
  split at h
  · obtain ⟨⟨name, afterName⟩, -, h⟩ := bind_eq_ok_iff.1 h
    dsimp only at h
    split at h
    · obtain ⟨⟨value, afterValue⟩, hvalue, h⟩ := bind_eq_ok_iff.1 h
      refine ⟨name, value, _, afterValue, hvalue, ?_⟩
      dsimp only at h
      split at h
      · cases h
        exact .inl rfl
      · exact .inr ⟨_, h⟩
      · cases h
    · cases h
  · cases h

/-- The rest of an object adds to the members before it, each name once. -/
theorem nodup_keys_of_readMembers {fuel : Nat} {earlier entries : Entries Value}
    {cs rest : List Char} (h : readMembers fuel earlier cs = .ok (entries, rest))
    (hearlier : (keys earlier).Nodup) : (keys entries).Nodup := by
  induction fuel generalizing earlier cs with
  | zero => cases h
  | succ fuel ih =>
    obtain ⟨name, value, -, -, -, hentries⟩ := readMembers_cases h
    have hput := nodup_keys_put name value hearlier
    rcases hentries with rfl | ⟨later, hlater⟩
    · exact hput
    · exact ih hlater hput

/-- A name or a number is no object. -/
theorem readScalar_ne_map {cs rest : List Char} {entries : Entries Value} :
    readScalar cs ≠ .ok (.map entries, rest) := by
  intro h
  unfold readScalar at h
  split at h
  · rename_i found hfound
    obtain ⟨⟨name, value⟩, hmem, hsome⟩ := List.exists_of_findSome?_eq_some hfound
    obtain ⟨after, -, rfl⟩ := Option.map_eq_some_iff.1 hsome
    cases h
    simp [names] at hmem
  · unfold readNumber at h
    dsimp only at h
    split at h
    · cases h
    · split at h
      · split at h <;> cases h
      · cases h

theorem nodup_keys_of_readValue {fuel : Nat} {cs rest : List Char} {entries : Entries Value}
    (h : readValue fuel cs = .ok (.map entries, rest)) : (keys entries).Nodup := by
  cases fuel with
  | zero => cases h
  | succ fuel =>
    unfold readValue at h
    split at h
    · obtain ⟨⟨text, after⟩, -, h⟩ := bind_eq_ok_iff.1 h
      cases h
    · split at h
      · cases h
      · obtain ⟨⟨items, after⟩, -, h⟩ := bind_eq_ok_iff.1 h
        cases h
    · split at h
      · cases h
        exact List.nodup_nil
      · obtain ⟨⟨members, after⟩, hmembers, h⟩ := bind_eq_ok_iff.1 h
        cases h
        exact nodup_keys_of_readMembers hmembers List.nodup_nil
    · exact absurd h readScalar_ne_map

/-- A text is read as the value at its start. -/
theorem exists_readValue_of_read {s : String} {value : Value} (h : read s = .ok value) :
    ∃ rest, readValue (fuelFor s.toList) (skipBlanks s.toList) = .ok (value, rest) := by
  have hwhole := mapError_eq_ok_iff.1 h
  unfold readWhole at hwhole
  by_cases hmark : s.toList.head? = some (Char.ofNat 0xfeff)
  · rw [if_pos hmark] at hwhole
    cases hwhole
  · rw [if_neg hmark] at hwhole
    obtain ⟨⟨value, rest⟩, hvalue, hwhole⟩ := bind_eq_ok_iff.1 hwhole
    dsimp only at hwhole
    split at hwhole
    · cases hwhole
      exact ⟨rest, hvalue⟩
    · cases hwhole

/-- **An object that is read** has every name once. -/
theorem nodup_keys_of_read {s : String} {entries : Entries Value}
    (h : read s = .ok (.map entries)) : (keys entries).Nodup := by
  obtain ⟨rest, hvalue⟩ := exists_readValue_of_read h
  exact nodup_keys_of_readValue hvalue

end Invocation.Json

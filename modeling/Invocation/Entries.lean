/-!
# Ordered entries

A map from texts that remembers the order in which its keys first came. Writing to a key that is
present keeps the key's place (`keys_put`); the last write to a key wins (`get?_put`).
-/

namespace Invocation

/-- A map from texts, as its entries in order. -/
abbrev Entries (α : Type) := List (String × α)

namespace Entries

variable {α β : Type}

/-- The keys in order. -/
def keys (entries : Entries α) : List String :=
  entries.map Prod.fst

/-- The value at a key. -/
def get? (key : String) : Entries α → Option α
  | [] => none
  | (k, a) :: rest => if k = key then some a else get? key rest

/-- The entries with `a` at the key: in the key's place, or at the end if it is new. -/
def put (key : String) (a : α) : Entries α → Entries α
  | [] => [(key, a)]
  | (k, b) :: rest => if k = key then (key, a) :: rest else (k, b) :: put key a rest

/-- The entries without those of the key. -/
def erase (key : String) : Entries α → Entries α
  | [] => []
  | (k, b) :: rest => if k = key then erase key rest else (k, b) :: erase key rest

/-- The entries with every one of `news` written to them in turn. -/
def putAll (entries news : Entries α) : Entries α :=
  news.foldl (fun acc entry => put entry.1 entry.2 acc) entries

/-- The entries with each value replaced. -/
def mapValues (f : α → β) (entries : Entries α) : Entries β :=
  entries.map fun entry => (entry.1, f entry.2)

theorem get?_put_self (key : String) (a : α) (entries : Entries α) :
    get? key (put key a entries) = some a := by
  induction entries with
  | nil => simp [put, get?]
  | cons entry rest ih =>
    obtain ⟨k, b⟩ := entry
    by_cases h : k = key <;> simp [put, get?, h, ih]

theorem get?_put_of_ne {key other : String} (h : key ≠ other) (a : α) (entries : Entries α) :
    get? other (put key a entries) = get? other entries := by
  induction entries with
  | nil => simp [put, get?, h]
  | cons entry rest ih =>
    obtain ⟨k, b⟩ := entry
    by_cases hk : k = key
    · subst hk; simp [put, get?, h]
    · simp [put, get?, hk, ih]

theorem get?_put (key other : String) (a : α) (entries : Entries α) :
    get? other (put key a entries) = if key = other then some a else get? other entries := by
  by_cases h : key = other
  · subst h; rw [if_pos rfl, get?_put_self]
  · rw [if_neg h, get?_put_of_ne h]

theorem keys_put (key : String) (a : α) (entries : Entries α) :
    keys (put key a entries) =
      if key ∈ keys entries then keys entries else keys entries ++ [key] := by
  induction entries with
  | nil => simp [put, keys]
  | cons entry rest ih =>
    obtain ⟨k, b⟩ := entry
    by_cases hk : k = key
    · simp [put, keys, hk]
    · have hk' : ¬ key = k := fun h => hk h.symm
      simp only [keys] at ih
      simp only [put, if_neg hk, keys, List.map_cons, ih, List.mem_cons, hk', false_or]
      split <;> simp [*]

theorem put_of_notMem {key : String} (a : α) {entries : Entries α} (h : key ∉ keys entries) :
    put key a entries = entries ++ [(key, a)] := by
  induction entries with
  | nil => rfl
  | cons entry rest ih =>
    obtain ⟨k, b⟩ := entry
    simp only [keys, List.map_cons, List.mem_cons, not_or] at h
    rw [put, if_neg (Ne.symm h.1), ih h.2, List.cons_append]

/-- A key that comes after others and differs from them is written at the end. -/
theorem put_of_nodup {key : String} {a : α} {earlier later : Entries α}
    (h : (keys (earlier ++ (key, a) :: later)).Nodup) : put key a earlier = earlier ++ [(key, a)] := by
  refine put_of_notMem a fun hkey => ?_
  rw [keys, List.map_append, List.map_cons] at h
  exact (List.nodup_append.1 h).2.2 key hkey key List.mem_cons_self rfl

theorem nodup_keys_put (key : String) (a : α) {entries : Entries α} (h : (keys entries).Nodup) :
    (keys (put key a entries)).Nodup := by
  rw [keys_put]
  split
  · exact h
  · rename_i hkey
    refine List.nodup_append.2 ⟨h, by simp, fun k hk k' hk' he => hkey ?_⟩
    rwa [← List.mem_singleton.1 hk', ← he]

theorem nodup_keys_putAll {entries : Entries α} (news : Entries α) (h : (keys entries).Nodup) :
    (keys (putAll entries news)).Nodup := by
  induction news generalizing entries with
  | nil => exact h
  | cons entry rest ih => exact ih (nodup_keys_put entry.1 entry.2 h)

theorem keys_mapValues (f : α → β) (entries : Entries α) :
    keys (mapValues f entries) = keys entries := by
  rw [keys, mapValues, List.map_map]
  rfl

theorem get?_eq_none {key : String} {entries : Entries α} (h : key ∉ keys entries) :
    get? key entries = none := by
  induction entries with
  | nil => rfl
  | cons entry rest ih =>
    obtain ⟨k, b⟩ := entry
    simp only [keys, List.map_cons, List.mem_cons, not_or] at h
    rw [get?, if_neg (Ne.symm h.1)]
    exact ih h.2

/-- Of entries that are written to others, the new ones count first. -/
theorem get?_putAll (key : String) (entries : Entries α) {news : Entries α}
    (h : (keys news).Nodup) :
    get? key (putAll entries news) = (get? key news).or (get? key entries) := by
  induction news generalizing entries with
  | nil => rfl
  | cons entry rest ih =>
    obtain ⟨k, a⟩ := entry
    obtain ⟨hk, hrest⟩ := List.nodup_cons.1 h
    change get? key (putAll (put k a entries) rest) = _
    rw [ih _ hrest, get?_put]
    by_cases hkey : k = key
    · subst hkey
      simp [get?, get?_eq_none hk]
    · simp [get?, hkey]

end Entries

end Invocation

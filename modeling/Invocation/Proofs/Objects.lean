import Invocation.Proofs.Written

/-!
# Objects of texts

A JSON text of an object whose members are texts is a pair of braces around names and texts, with a colon
between a name and its text and commas between the members (`Object`). Around each of these there may be
blanks, and within quotes any character may be escaped. Whatever the layout is, reading gives the members in
order (`read_object`), for there is one way only to read each part: what is left of a member begins with
the comma or the brace that ends it (`readMembers_token`).
-/

namespace Invocation.Json

open Invocation.Entries

/-! ## Layouts -/

/-- A text between its quotes, with blanks around it. -/
inductive Token (s : String) : List Char → Prop
  | quoted {before cs after : List Char} (hbefore : ∀ c ∈ before, isBlank c = true)
    (hcs : Spelled s.toList cs) (hafter : ∀ c ∈ after, isBlank c = true) :
    Token s (before ++ '"' :: cs ++ '"' :: after)

/-- Members that are texts, in order. -/
inductive Members : Entries String → List Char → Prop
  | last {key value : String} {name text : List Char} (hname : Token key name) (htext : Token value text) :
    Members [(key, value)] (name ++ ':' :: text)
  | more {key value : String} {name text cs : List Char} {m : Entries String} (hname : Token key name)
    (htext : Token value text) (hrest : Members m cs) :
    Members ((key, value) :: m) (name ++ ':' :: text ++ ',' :: cs)

/-- A JSON text of an object whose members are texts. -/
inductive Object : Entries String → List Char → Prop
  | empty {blanks : List Char} (h : ∀ c ∈ blanks, isBlank c = true) : Object [] ('{' :: blanks ++ ['}'])
  | members {m : Entries String} {cs : List Char} (h : Members m cs) : Object m ('{' :: cs ++ ['}'])

/-! ## Reading members -/

theorem skipBlanks_cons {c : Char} (h : isBlank c = false) (cs : List Char) :
    skipBlanks (c :: cs) = c :: cs :=
  List.dropWhile_cons_of_neg (by simp [h])

section Tokens

variable {key value : String} {name text cs : List Char} {m : Entries String}

/-- A quoted text is found behind the blanks, and read up to the blanks after it. -/
theorem Token.read (h : Token key name) (rest : List Char) :
    ∃ quoted after, skipBlanks (name ++ rest) = '"' :: quoted ∧
      readText quoted = .ok (key, after ++ rest) ∧ ∀ c ∈ after, isBlank c = true := by
  cases h with
  | @quoted before cs after hbefore hcs hafter =>
    refine ⟨cs ++ '"' :: (after ++ rest), after, ?_, readText_spelled hcs _, hafter⟩
    simp only [List.append_assoc, List.cons_append]
    rw [skipBlanks_append hbefore, skipBlanks_cons (by decide)]

/-- A member is read, and what ends it decides how reading goes on. -/
theorem readMembers_token (hname : Token key name) (htext : Token value text) {c : Char}
    (hc : isBlank c = false) (fuel : Nat) (earlier : Entries Value) (rest : List Char) :
    readMembers (fuel + 2) earlier (skipBlanks (name ++ ':' :: text ++ c :: rest)) =
      match c :: rest with
      | '}' :: rest => .ok (earlier.put key (.text value), rest)
      | ',' :: rest => readMembers (fuel + 1) (earlier.put key (.text value)) (skipBlanks rest)
      | rest => .error (.fault .expectingComma rest.length) := by
  obtain ⟨name', afterName, hskip, hread, hblank⟩ := hname.read (':' :: (text ++ c :: rest))
  obtain ⟨text', afterText, hskip', hread', hblank'⟩ := htext.read (c :: rest)
  have hcolon : skipBlanks (afterName ++ ':' :: (text ++ c :: rest)) = ':' :: (text ++ c :: rest) := by
    rw [skipBlanks_append hblank, skipBlanks_cons (by decide)]
  have hend : skipBlanks (afterText ++ c :: rest) = c :: rest := by
    rw [skipBlanks_append hblank', skipBlanks_cons hc]
  have hvalue : readValue (fuel + 1) (skipBlanks (text ++ c :: rest)) =
      .ok (.text value, afterText ++ c :: rest) := by
    rw [hskip', readValue, hread']
    rfl
  simp only [List.append_assoc, List.cons_append]
  rw [hskip, readMembers, hread]
  simp only [bind, Except.bind, hcolon, hvalue, hend]
  rfl

theorem Members.length_lt (h : Members m cs) : m.length < cs.length := by
  have hpos {key : String} {name : List Char} (hname : Token key name) : 0 < name.length := by
    cases hname
    simp only [List.length_append, List.length_cons]
    omega
  induction h with
  | last hname htext =>
    have hname := hpos hname
    simp only [List.length_append, List.length_cons, List.length_nil]
    omega
  | more hname htext hrest ih =>
    simp only [List.length_append, List.length_cons]
    omega

/-- The members of an object are read up to its closing brace, and written to those before them. -/
theorem readMembers_members (h : Members m cs) {earlier : Entries Value}
    (hnames : (keys (earlier ++ m.mapValues .text)).Nodup) {fuel : Nat} (hfuel : m.length < fuel)
    (rest : List Char) :
    readMembers fuel earlier (skipBlanks (cs ++ '}' :: rest)) =
      .ok (earlier ++ m.mapValues .text, rest) := by
  induction h generalizing earlier fuel with
  | last hname htext =>
    simp only [List.length_cons, List.length_nil] at hfuel
    obtain ⟨fuel, rfl⟩ : ∃ n, fuel = n + 2 := ⟨fuel - 2, by omega⟩
    rw [readMembers_token hname htext (by decide)]
    simp only [put_of_nodup hnames]
    rfl
  | @more key value name text cs m hname htext hrest ih =>
    simp only [List.length_cons] at hfuel
    have hpos : 0 < m.length := by
      cases hrest <;> exact Nat.succ_pos _
    obtain ⟨fuel, rfl⟩ : ∃ n, fuel = n + 2 := ⟨fuel - 2, by omega⟩
    have hsplit : earlier ++ mapValues .text ((key, value) :: m) =
        (earlier ++ [(key, .text value)]) ++ m.mapValues .text := by
      simp [mapValues]
    have hput : earlier.put key (.text value) = earlier ++ [(key, .text value)] := put_of_nodup hnames
    rw [hsplit] at hnames ⊢
    rw [List.append_assoc, List.cons_append, readMembers_token hname htext (by decide)]
    simp only [hput]
    exact ih hnames (by omega)

end Tokens

/-! ## Reading objects -/

theorem readValue_object {m : Entries String} {cs : List Char} (h : Object m cs)
    (hnames : (keys m).Nodup) {fuel : Nat} (hfuel : cs.length ≤ fuel) :
    readValue (fuel + 1) cs = .ok (.map (m.mapValues .text), []) := by
  cases h with
  | empty hblanks =>
    have hskip := skipBlanks_append hblanks ['}']
    rw [skipBlanks_cons (by decide)] at hskip
    rw [List.cons_append, readValue]
    simp only [hskip]
    rfl
  | @members _ cs hmembers =>
    have hlength := hmembers.length_lt
    simp only [List.length_append, List.length_cons, List.length_nil] at hfuel
    have hfuel' : m.length < fuel := by omega
    have hnames' : (keys ([] ++ m.mapValues Value.text)).Nodup := by
      rwa [List.nil_append, keys_mapValues]
    have hread := readMembers_members hmembers hnames' hfuel' []
    rw [List.cons_append, readValue]
    dsimp only
    split
    · next hbrace =>
      -- Members begin with a quote.
      rw [hbrace] at hread
      cases fuel <;> cases hread
    · rw [hread]
      rfl

theorem Object.braces {m : Entries String} {cs : List Char} (h : Object m cs) :
    ∃ inner, cs = '{' :: inner ++ ['}'] := by
  cases h <;> exact ⟨_, rfl⟩

/-- **An object of texts is read** as its members in order. -/
theorem read_object {m : Entries String} {cs : List Char} (h : Object m cs) (hnames : (keys m).Nodup) :
    read (String.ofList cs) = .ok (.map (m.mapValues .text)) := by
  obtain ⟨inner, hcs⟩ := h.braces
  have hmark : cs.head? ≠ some (Char.ofNat 0xfeff) := by
    rw [hcs, List.cons_append, List.head?_cons]
    decide
  have hskip : skipBlanks cs = cs := by
    rw [hcs]
    exact skipBlanks_cons (by decide) _
  have hend : skipBlanks [] = [] := rfl
  have hread : readValue (fuelFor cs) cs = .ok (.map (m.mapValues .text), []) :=
    readValue_object h hnames (show cs.length ≤ 2 * cs.length + 1 by omega)
  rw [read, String.toList_ofList, mapError_eq_ok_iff, readWhole, if_neg hmark, hskip, hread]
  simp only [bind, Except.bind, hend]
  rfl

/-! ## Written objects -/

section Written

variable (escaping : Escaping)

theorem token_textChars {before after : List Char} (hbefore : ∀ c ∈ before, isBlank c = true)
    (hafter : ∀ c ∈ after, isBlank c = true) (s : String) :
    Token s (before ++ textChars escaping s ++ after) := by
  have htoken := Token.quoted hbefore (spelled_flatMap escaping s.toList) hafter
  simpa [textChars] using htoken

theorem token_before {before : List Char} (h : ∀ c ∈ before, isBlank c = true) (s : String) :
    Token s (before ++ textChars escaping s) := by
  have htoken := token_textChars escaping h (List.forall_mem_nil _) s
  rwa [List.append_nil] at htoken

theorem members_membersChars (depth outer : Nat) (key value : String) (m : Entries String) :
    Members ((key, value) :: m) (newLine depth ++ textChars escaping key ++ ':' ::
      ([' '] ++ textChars escaping value ++ (membersChars escaping depth (m.mapValues .text) ++
        newLine outer))) := by
  have hspace : ∀ c ∈ [' '], isBlank c = true := by simp [isBlank]
  have hname (key : String) : Token key (newLine depth ++ textChars escaping key) :=
    token_before escaping (blank_newLine depth) key
  induction m generalizing key value with
  | nil =>
    rw [mapValues, List.map_nil, membersChars, List.nil_append]
    exact .last (hname key) (token_textChars escaping hspace (blank_newLine outer) value)
  | cons entry m ih =>
    obtain ⟨name, other⟩ := entry
    have hmembers := Members.more (hname key) (token_before escaping hspace value) (ih name other)
    simpa [mapValues, membersChars, valueChars] using hmembers

/-- What is written for a map of texts is an object of texts. -/
theorem object_valueChars (depth : Nat) (m : Entries String) :
    Object m (valueChars escaping depth (.ofTexts m)) := by
  cases m with
  | nil =>
    rw [Value.ofTexts, mapValues, List.map_nil, valueChars]
    exact .empty (List.forall_mem_nil _)
  | cons entry m =>
    obtain ⟨key, value⟩ := entry
    have hobject := Object.members (members_membersChars escaping (depth + 1) depth key value m)
    simpa [Value.ofTexts, mapValues, valueChars] using hobject

end Written

end Invocation.Json

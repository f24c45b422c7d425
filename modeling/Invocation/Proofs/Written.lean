import Invocation.Proofs.Escape
import Invocation.Proofs.Json
import Invocation.Proofs.Numeral

/-!
# Written JSON is read back

Reading gives back what was written (`read_write`), for either way of escaping: nothing, flags, texts,
integers that are not too long, and lists and maps of such values, where a map has every name once
(`Storable`).

A value is read from any text that begins with it (`Readable`), if what follows does not go on with a
number (`Stops`). Lists and maps are read item by item; the blanks of the layout are skipped, since a
value begins with none (`opens_valueChars`). The layout has no control characters but line feeds, and
texts have none that is not escaped (`printed_valueChars`).
-/

namespace Invocation.Json

open Invocation.Number Invocation.Text Invocation.Entries

variable {escaping : Escaping}

/-! ## Values -/

/-- JSON keeps all of the value: there are no fractions and no tuples in it, its integers are not too
long to be read, and its maps have every name once. -/
inductive Storable : Value → Prop
  | null : Storable .null
  | bool (b : Bool) : Storable (.bool b)
  | int {n : Int} (short : (natDigits n.natAbs).length ≤ maxDigits) : Storable (.int n)
  | text (s : String) : Storable (.text s)
  | list {items : List Value} (h : ∀ item ∈ items, Storable item) : Storable (.list items)
  | map {entries : Entries Value} (names : (keys entries).Nodup)
    (h : ∀ entry ∈ entries, Storable entry.2) : Storable (.map entries)

/-- The characters begin as a value does: with no blank, no closing bracket and no mark. -/
def Opens (cs : List Char) : Prop :=
  ∃ c rest, cs = c :: rest ∧ isBlank c = false ∧ c ≠ ']' ∧ c.toNat < 128

theorem Opens.append {cs : List Char} (h : Opens cs) (more : List Char) : Opens (cs ++ more) := by
  obtain ⟨c, rest, rfl, hc⟩ := h
  exact ⟨c, rest ++ more, rfl, hc⟩

theorem Opens.skipBlanks {cs : List Char} (h : Opens cs) : skipBlanks cs = cs := by
  obtain ⟨c, rest, rfl, hc, -⟩ := h
  rw [Json.skipBlanks, List.dropWhile_cons_of_neg (by simp [hc])]

theorem opens_of_isDigit {c : Char} (h : c.isDigit = true) (rest : List Char) :
    Opens (c :: rest) := by
  have hrange := toNat_of_isDigit h
  refine ⟨c, rest, rfl, ?_, ?_, by omega⟩
  · simp only [isBlank, Bool.or_eq_false_iff, beq_eq_false_iff_ne]
    refine ⟨⟨⟨?_, ?_⟩, ?_⟩, ?_⟩ <;> rintro rfl <;> simp at hrange
  · rintro rfl
    simp at hrange

theorem opens_intChars (n : Int) : Opens (intChars n) := by
  cases n with
  | ofNat n =>
    obtain ⟨c, cs, hcs, hc⟩ := natChars_eq_cons n
    rw [intChars, hcs]
    exact opens_of_isDigit hc cs
  | negSucc n => exact ⟨'-', _, rfl, rfl, by decide, by decide⟩

theorem opens_valueChars {value : Value} (h : Storable value) (depth : Nat) :
    Opens (valueChars escaping depth value) := by
  cases h with
  | null => exact ⟨'n', _, by rw [valueChars], rfl, by decide, by decide⟩
  | bool b =>
    cases b with
    | true => exact ⟨'t', _, by rw [valueChars], rfl, by decide, by decide⟩
    | false => exact ⟨'f', _, by rw [valueChars], rfl, by decide, by decide⟩
  | int => rw [valueChars]; exact opens_intChars _
  | text s => exact ⟨'"', _, by rw [valueChars, textChars]; rfl, rfl, by decide, by decide⟩
  | @list items =>
    cases items with
    | nil => exact ⟨'[', _, by rw [valueChars], rfl, by decide, by decide⟩
    | cons item rest => exact ⟨'[', _, by rw [valueChars]; rfl, rfl, by decide, by decide⟩
  | @map entries =>
    cases entries with
    | nil => exact ⟨'{', _, by rw [valueChars], rfl, by decide, by decide⟩
    | cons entry rest => exact ⟨'{', _, by rw [valueChars]; rfl, rfl, by decide, by decide⟩

theorem skipBlanks_append {blanks : List Char} (h : ∀ c ∈ blanks, isBlank c = true) (cs : List Char) :
    skipBlanks (blanks ++ cs) = skipBlanks cs :=
  List.dropWhile_append_of_pos h

theorem blank_newLine (depth : Nat) : ∀ c ∈ newLine depth, isBlank c = true := by
  intro c hc
  rcases List.mem_cons.1 hc with rfl | hc
  · rfl
  · rw [List.eq_of_mem_replicate hc]
    rfl

theorem skipBlanks_newLine (depth : Nat) (cs : List Char) :
    skipBlanks (newLine depth ++ cs) = skipBlanks cs :=
  skipBlanks_append (blank_newLine depth) cs

/-- The value is read from any text that begins with it. -/
def Readable (escaping : Escaping) (value : Value) : Prop :=
  ∀ (depth fuel : Nat) (rest : List Char), (valueChars escaping depth value).length < fuel →
    Stops rest →
    readValue fuel (valueChars escaping depth value ++ rest) = .ok (value, rest)

/-- There is fuel for the value itself, and it is enough for what is in it. -/
theorem Readable.of_succ {value : Value}
    (h : ∀ (depth fuel : Nat) (rest : List Char),
      (valueChars escaping depth value).length < fuel + 1 → Stops rest →
      readValue (fuel + 1) (valueChars escaping depth value ++ rest) = .ok (value, rest)) :
    Readable escaping value := by
  intro depth fuel rest hfuel hrest
  cases fuel with
  | zero => exact absurd hfuel (Nat.not_lt_zero _)
  | succ fuel => exact h depth fuel rest hfuel hrest

theorem stops_newLine (depth : Nat) (cs : List Char) : Stops (newLine depth ++ cs) :=
  stops_cons (by decide) _

section Items

variable {depth outer fuel : Nat} {item : Value}

theorem readItems_last (hread : Readable escaping item)
    (hfuel : (valueChars escaping depth item).length < fuel) (rest : List Char) :
    readItems (fuel + 1) (valueChars escaping depth item ++ (newLine outer ++ ']' :: rest)) =
      .ok ([item], rest) := by
  have hblanks : skipBlanks (newLine outer ++ ']' :: rest) = ']' :: rest := by
    rw [skipBlanks_newLine]
    rfl
  rw [readItems, hread depth fuel _ hfuel (stops_newLine outer _)]
  simp only [bind, Except.bind, hblanks]
  rfl

theorem readItems_more (hread : Readable escaping item)
    (hfuel : (valueChars escaping depth item).length < fuel) (rest : List Char) :
    readItems (fuel + 1) (valueChars escaping depth item ++ ',' :: rest) =
      (readItems fuel (skipBlanks rest)).map fun found => (item :: found.1, found.2) := by
  have hblanks : skipBlanks (',' :: rest) = ',' :: rest := rfl
  rw [readItems, hread depth fuel _ hfuel (stops_cons (by decide) rest)]
  simp only [bind, Except.bind, hblanks]
  cases readItems fuel (skipBlanks rest) <;> rfl

/-- The items of a list are read up to its closing bracket. -/
theorem readItems_itemsChars {items : List Value}
    (hread : ∀ value ∈ item :: items, Readable escaping value)
    (hopens : ∀ value ∈ items, Opens (valueChars escaping depth value))
    (hfuel : (valueChars escaping depth item).length +
      (itemsChars escaping depth items).length + 1 < fuel) (rest : List Char) :
    readItems fuel (valueChars escaping depth item ++
      (itemsChars escaping depth items ++ (newLine outer ++ ']' :: rest))) =
        .ok (item :: items, rest) := by
  obtain ⟨fuel, rfl⟩ : ∃ n, fuel = n + 1 := ⟨fuel - 1, by omega⟩
  induction items generalizing item fuel with
  | nil =>
    rw [itemsChars]
    exact readItems_last (hread item List.mem_cons_self) (by omega) rest
  | cons next items ih =>
    rw [itemsChars] at hfuel ⊢
    simp only [List.length_append, List.length_cons] at hfuel
    obtain ⟨fuel, rfl⟩ : ∃ n, fuel = n + 1 := ⟨fuel - 1, by omega⟩
    have hread' : ∀ value ∈ next :: items, Readable escaping value :=
      fun value hvalue => hread value (List.mem_cons_of_mem item hvalue)
    have hnext := ih hread' (fun value hvalue => hopens value (List.mem_cons_of_mem next hvalue)) fuel
      (by omega)
    have hblanks (cs : List Char) : skipBlanks (newLine depth ++ (valueChars escaping depth next ++
        cs)) = valueChars escaping depth next ++ cs := by
      rw [skipBlanks_newLine]
      exact ((hopens next List.mem_cons_self).append cs).skipBlanks
    simp only [List.append_assoc, List.cons_append]
    rw [readItems_more (hread item List.mem_cons_self) (by omega), hblanks, hnext]
    rfl

end Items

section Members

variable {depth outer fuel : Nat} {key : String} {value : Value} {earlier : Entries Value}

/-- A member at the place where it is written. -/
def memberChars (escaping : Escaping) (depth : Nat) (key : String) (value : Value) : List Char :=
  textChars escaping key ++ ':' :: ' ' :: valueChars escaping depth value

/-- The name of a member is read, and its value after it. -/
theorem readMembers_memberChars (hread : Readable escaping value)
    (hopens : Opens (valueChars escaping depth value))
    (hfuel : (valueChars escaping depth value).length < fuel) {rest : List Char} (h : Stops rest) :
    readMembers (fuel + 1) earlier (memberChars escaping depth key value ++ rest) =
      match skipBlanks rest with
      | '}' :: rest => .ok (earlier.put key value, rest)
      | ',' :: rest => readMembers fuel (earlier.put key value) (skipBlanks rest)
      | rest => .error (.fault .expectingComma rest.length) := by
  have hcolon (cs : List Char) : skipBlanks (':' :: cs) = ':' :: cs := rfl
  have hspace (cs : List Char) : skipBlanks (' ' :: cs) = skipBlanks cs := rfl
  simp only [memberChars, textChars, List.append_assoc, List.cons_append, List.nil_append]
  rw [readMembers, readText_textChars]
  simp only [bind, Except.bind, hcolon, hspace]
  rw [(hopens.append rest).skipBlanks, hread depth fuel rest hfuel h]
  rfl

/-- The members of a map are read up to its closing brace, and written to those before them. -/
theorem readMembers_membersChars {entries : Entries Value}
    (hread : ∀ entry ∈ (key, value) :: entries, Readable escaping entry.2)
    (hopens : ∀ entry ∈ (key, value) :: entries, Opens (valueChars escaping depth entry.2))
    (hnames : (keys (earlier ++ (key, value) :: entries)).Nodup)
    (hfuel : (valueChars escaping depth value).length +
      (membersChars escaping depth entries).length + 1 < fuel) (rest : List Char) :
    readMembers fuel earlier (memberChars escaping depth key value ++
      (membersChars escaping depth entries ++ (newLine outer ++ '}' :: rest))) =
        .ok (earlier ++ (key, value) :: entries, rest) := by
  obtain ⟨fuel, rfl⟩ : ∃ n, fuel = n + 1 := ⟨fuel - 1, by omega⟩
  induction entries generalizing key value earlier fuel with
  | nil =>
    have hvalue : (valueChars escaping depth value).length < fuel := by omega
    have hblanks : skipBlanks (newLine outer ++ '}' :: rest) = '}' :: rest := by
      rw [skipBlanks_newLine]
      rfl
    rw [membersChars, List.nil_append, readMembers_memberChars (hread (key, value) List.mem_cons_self)
      (hopens (key, value) List.mem_cons_self) hvalue (stops_newLine outer _), hblanks]
    simp only [put_of_nodup hnames]
  | cons next entries ih =>
    obtain ⟨name, other⟩ := next
    rw [membersChars] at hfuel ⊢
    simp only [List.length_append, List.length_cons] at hfuel
    obtain ⟨fuel, rfl⟩ : ∃ n, fuel = n + 1 := ⟨fuel - 1, by omega⟩
    have hvalue : (valueChars escaping depth value).length < fuel + 1 := by omega
    have hsplit : earlier ++ (key, value) :: (name, other) :: entries =
        (earlier ++ [(key, value)]) ++ (name, other) :: entries := by simp
    have hnames' : (keys (earlier ++ [(key, value)] ++ (name, other) :: entries)).Nodup :=
      hsplit ▸ hnames
    have hnext := ih (fun entry hentry => hread entry (List.mem_cons_of_mem _ hentry))
      (fun entry hentry => hopens entry (List.mem_cons_of_mem _ hentry)) hnames' fuel (by omega)
    have hcomma : skipBlanks (',' :: (newLine depth ++ (memberChars escaping depth name other ++
        (membersChars escaping depth entries ++ (newLine outer ++ '}' :: rest))))) =
        ',' :: (newLine depth ++ (memberChars escaping depth name other ++
        (membersChars escaping depth entries ++ (newLine outer ++ '}' :: rest)))) := rfl
    have hblanks (cs : List Char) : skipBlanks (newLine depth ++ (memberChars escaping depth name
        other ++ cs)) = memberChars escaping depth name other ++ cs := by
      rw [skipBlanks_newLine, memberChars, textChars]
      rfl
    have hchars : ',' :: newLine depth ++ textChars escaping name ++ [':', ' '] ++
        valueChars escaping depth other ++ membersChars escaping depth entries ++
        (newLine outer ++ '}' :: rest) =
        ',' :: (newLine depth ++ (memberChars escaping depth name other ++
        (membersChars escaping depth entries ++ (newLine outer ++ '}' :: rest)))) := by
      simp only [memberChars, List.append_assoc, List.cons_append, List.nil_append]
    rw [hchars, readMembers_memberChars (hread (key, value) List.mem_cons_self)
      (hopens (key, value) List.mem_cons_self) hvalue (stops_cons (by decide) _), hcomma]
    simp only [put_of_nodup hnames]
    rw [hblanks, hnext, hsplit]

end Members

theorem readValue_list {cs : List Char} (h : Opens cs) (fuel depth : Nat) :
    readValue (fuel + 1) ('[' :: (newLine depth ++ cs)) =
      (readItems fuel cs).map fun found => (.list found.1, found.2) := by
  have hblanks : skipBlanks (newLine depth ++ cs) = cs := by
    rw [skipBlanks_newLine, h.skipBlanks]
  obtain ⟨c, rest, rfl, -, hbracket, -⟩ := h
  simp only [readValue, hblanks]
  split
  · next heq => exact absurd (List.cons.inj heq).1 hbracket
  · cases readItems fuel (c :: rest) <;> rfl

theorem readValue_map (fuel depth : Nat) (key : String) (value : Value) (rest : List Char) :
    readValue (fuel + 1) ('{' :: (newLine depth ++ (memberChars escaping depth key value ++ rest))) =
      (readMembers fuel [] (memberChars escaping depth key value ++ rest)).map
        fun found => (.map found.1, found.2) := by
  have hblanks : skipBlanks (newLine depth ++ (memberChars escaping depth key value ++ rest)) =
      memberChars escaping depth key value ++ rest := by
    rw [skipBlanks_newLine, memberChars, textChars]
    rfl
  simp only [readValue, hblanks]
  split
  · next heq =>
    rw [memberChars, textChars] at heq
    cases (List.cons.inj heq).1
  · cases readMembers fuel [] (memberChars escaping depth key value ++ rest) <;> rfl

theorem readValue_intChars (fuel : Nat) (n : Int) (rest : List Char) :
    readValue (fuel + 1) (intChars n ++ rest) = readScalar (intChars n ++ rest) := by
  obtain ⟨c, cs, hcs, hc⟩ : ∃ c cs, intChars n = c :: cs ∧ (c.isDigit = true ∨ c = '-') := by
    cases n with
    | ofNat n =>
      obtain ⟨c, cs, hcs, hc⟩ := natChars_eq_cons n
      exact ⟨c, cs, hcs, .inl hc⟩
    | negSucc n => exact ⟨'-', _, rfl, .inr rfl⟩
  have hother (d : Char) (hd : d.isDigit = false ∧ d ≠ '-') : c ≠ d := by
    rintro rfl
    rcases hc with hc | hc
    · rw [hd.1] at hc
      cases hc
    · exact hd.2 hc
  rw [hcs, List.cons_append, readValue]
  · exact fun _ h => hother '"' (by decide) (List.cons.inj h).1
  · exact fun _ h => hother '[' (by decide) (List.cons.inj h).1
  · exact fun _ h => hother '{' (by decide) (List.cons.inj h).1

theorem readable_list {items : List Value} (hitems : ∀ item ∈ items, Storable item)
    (hread : ∀ item ∈ items, Readable escaping item) : Readable escaping (.list items) := by
  refine .of_succ fun depth fuel rest hfuel hrest => ?_
  cases items with
  | nil =>
    rw [valueChars]
    rfl
  | cons item items =>
    have hopens : ∀ value ∈ item :: items, Opens (valueChars escaping (depth + 1) value) :=
      fun value hvalue => opens_valueChars (hitems value hvalue) (depth + 1)
    rw [valueChars] at hfuel ⊢
    simp only [List.append_assoc, List.cons_append, List.nil_append, List.length_append,
      List.length_cons] at hfuel ⊢
    rw [readValue_list ((hopens item List.mem_cons_self).append _), readItems_itemsChars hread
      (fun value hvalue => hopens value (List.mem_cons_of_mem _ hvalue)) (by omega)]
    rfl

theorem readable_map {entries : Entries Value} (hnames : (keys entries).Nodup)
    (hentries : ∀ entry ∈ entries, Storable entry.2)
    (hread : ∀ entry ∈ entries, Readable escaping entry.2) : Readable escaping (.map entries) := by
  refine .of_succ fun depth fuel rest hfuel hrest => ?_
  cases entries with
  | nil =>
    rw [valueChars]
    rfl
  | cons entry entries =>
    obtain ⟨key, value⟩ := entry
    have hopens : ∀ entry ∈ (key, value) :: entries,
        Opens (valueChars escaping (depth + 1) entry.2) :=
      fun entry hentry => opens_valueChars (hentries entry hentry) (depth + 1)
    rw [valueChars] at hfuel ⊢
    simp only [List.length_append, List.length_cons] at hfuel
    have hchars : '{' :: newLine (depth + 1) ++ textChars escaping key ++ [':', ' '] ++
        valueChars escaping (depth + 1) value ++ membersChars escaping (depth + 1) entries ++
        newLine depth ++ ['}'] ++ rest =
        '{' :: (newLine (depth + 1) ++ (memberChars escaping (depth + 1) key value ++
          (membersChars escaping (depth + 1) entries ++ (newLine depth ++ '}' :: rest)))) := by
      simp only [memberChars, List.append_assoc, List.cons_append, List.nil_append]
    rw [hchars, readValue_map, readMembers_membersChars hread hopens hnames (by omega)]
    rfl

/-- **Values are read back** from any text that begins with them. -/
theorem readable_of_storable {value : Value} (h : Storable value) : Readable escaping value := by
  induction h with
  | null =>
    refine .of_succ fun depth fuel rest hfuel hrest => ?_
    rw [valueChars]
    rfl
  | bool b =>
    refine .of_succ fun depth fuel rest hfuel hrest => ?_
    cases b <;> rw [valueChars] <;> rfl
  | int hshort =>
    refine .of_succ fun depth fuel rest hfuel hrest => ?_
    rw [valueChars, readValue_intChars, readScalar_intChars, readNumber_intChars hshort hrest]
  | text s =>
    refine .of_succ fun depth fuel rest hfuel hrest => ?_
    rw [valueChars, textChars]
    simp only [List.append_assoc, List.cons_append, List.nil_append]
    rw [readValue, readText_textChars]
    rfl
  | list hitems ih => exact readable_list hitems ih
  | map hnames hentries ih => exact readable_map hnames hentries ih

/-- What is written is read back, with blanks after it. -/
theorem read_write_append {value : Value} (h : Storable value) {blanks : List Char}
    (hblanks : ∀ c ∈ blanks, isBlank c = true) :
    read (String.ofList (valueChars escaping 0 value ++ blanks)) = .ok value := by
  have hopens : Opens (valueChars escaping 0 value ++ blanks) := (opens_valueChars h 0).append blanks
  have hmark : ¬(valueChars escaping 0 value ++ blanks).head? = some (Char.ofNat 0xfeff) := by
    obtain ⟨c, rest, hcs, -, -, hascii⟩ := hopens
    rw [hcs, List.head?_cons, Option.some.injEq]
    rintro rfl
    exact absurd hascii (by decide)
  have hstops : Stops blanks := by
    intro c hc
    have hblank := hblanks c (List.mem_of_mem_head? hc)
    simp only [isBlank, Bool.or_eq_true, beq_iff_eq] at hblank
    rcases hblank with ((rfl | rfl) | rfl) | rfl <;> decide
  have hfuel : (valueChars escaping 0 value).length < fuelFor (valueChars escaping 0 value ++ blanks) := by
    rw [fuelFor, List.length_append]
    omega
  have hread := readable_of_storable h 0 _ blanks hfuel hstops
  have hend : skipBlanks blanks = [] := by
    rw [← List.append_nil blanks, skipBlanks_append hblanks]
    rfl
  rw [read, String.toList_ofList, mapError_eq_ok_iff, readWhole, if_neg hmark, hopens.skipBlanks, hread]
  simp only [bind, Except.bind, hend]
  rfl

/-- **What is written is read back.** -/
theorem read_write {value : Value} (h : Storable value) : read (write escaping value) = .ok value := by
  rw [write, ← List.append_nil (valueChars escaping 0 value)]
  exact read_write_append h fun _ hc => by cases hc

/-! ## Control characters -/

/-- The only control characters are line feeds. -/
def Printed (cs : List Char) : Prop :=
  ∀ c ∈ cs, c = '\n' ∨ 32 ≤ c.toNat

theorem printed_nil : Printed [] :=
  fun _ hc => by cases hc

theorem Printed.append {cs ds : List Char} (hc : Printed cs) (hd : Printed ds) :
    Printed (cs ++ ds) := by
  intro c h
  rcases List.mem_append.1 h with h | h
  · exact hc c h
  · exact hd c h

theorem Printed.cons {c : Char} {cs : List Char} (hc : c = '\n' ∨ 32 ≤ c.toNat) (h : Printed cs) :
    Printed (c :: cs) := by
  intro d hd
  rcases List.mem_cons.1 hd with rfl | hd
  · exact hc
  · exact h d hd

theorem printed_of_forall {cs : List Char} (h : cs.all (32 ≤ ·.toNat) = true) : Printed cs :=
  fun c hc => .inr (of_decide_eq_true (List.all_eq_true.1 h c hc))

theorem Quad.printed {n : Nat} {cs : List Char} (h : Quad n cs) : Printed ('\\' :: 'u' :: cs) := by
  have hdigit {c : Char} {i : Nat} (hc : hexValue? c = some i) : c = '\n' ∨ 32 ≤ c.toNat := by
    refine .inr (Nat.le_of_not_lt fun hcontrol => ?_)
    have hbelow : ∀ n < 32, hexValue? (Char.ofNat n) = none := by decide
    rw [← Char.ofNat_toNat c, hbelow c.toNat hcontrol] at hc
    cases hc
  cases h with
  | digits ha hb hc hd =>
    exact .cons (.inr (by decide)) (.cons (.inr (by decide)) (.cons (hdigit ha) (.cons (hdigit hb)
      (.cons (hdigit hc) (.cons (hdigit hd) printed_nil)))))

theorem Stands.printed {c : Char} {cs : List Char} (h : Stands c cs) : Printed cs := by
  cases h with
  | @letter e h =>
    have he : 32 ≤ e.toNat := by
      unfold escapeLetter? at h
      split at h <;> first | decide | cases h
    exact .cons (.inr (by decide)) (.cons (.inr he) printed_nil)
  | code h => exact h.printed
  | pair _ _ hcs hds => exact hcs.printed.append hds.printed
  | itself hquote hslash h => exact .cons (.inr h) printed_nil

theorem printed_textChars (s : String) : Printed (textChars escaping s) := by
  refine .append (.cons (.inr (by decide)) fun c hc => ?_) (printed_of_forall rfl)
  obtain ⟨d, -, hd⟩ := List.mem_flatMap.1 hc
  exact (stands_escapedChar escaping d).printed c hd

theorem printed_natChars (n : Nat) : Printed (natChars n) := by
  intro c hc
  have hdigit := toNat_of_isDigit (isDigit_of_mem_natChars hc)
  exact .inr (by omega)

theorem printed_intChars (n : Int) : Printed (intChars n) := by
  cases n with
  | ofNat n => exact printed_natChars n
  | negSucc n => exact .cons (.inr (by decide)) (printed_natChars _)

theorem printed_newLine (depth : Nat) : Printed (newLine depth) := by
  refine .cons (.inl rfl) fun c hc => .inr ?_
  rw [List.eq_of_mem_replicate hc]
  decide

theorem printed_itemsChars {depth : Nat} {items : List Value}
    (h : ∀ item ∈ items, Printed (valueChars escaping depth item)) :
    Printed (itemsChars escaping depth items) := by
  induction items with
  | nil => rw [itemsChars]; exact printed_nil
  | cons item items ih =>
    rw [itemsChars]
    have hrest := ih fun value hvalue => h value (List.mem_cons_of_mem _ hvalue)
    exact ((Printed.cons (.inr (by decide)) (printed_newLine depth)).append
      (h item List.mem_cons_self)).append hrest

theorem printed_member {depth : Nat} {key : String} {value : Value}
    (h : Printed (valueChars escaping depth value)) {before : List Char} (hbefore : Printed before) :
    Printed (before ++ textChars escaping key ++ [':', ' '] ++ valueChars escaping depth value) :=
  ((hbefore.append (printed_textChars key)).append (printed_of_forall rfl)).append h

theorem printed_membersChars {depth : Nat} {entries : Entries Value}
    (h : ∀ entry ∈ entries, Printed (valueChars escaping depth entry.2)) :
    Printed (membersChars escaping depth entries) := by
  induction entries with
  | nil => rw [membersChars]; exact printed_nil
  | cons entry entries ih =>
    obtain ⟨key, value⟩ := entry
    rw [membersChars]
    have hrest := ih fun entry hentry => h entry (List.mem_cons_of_mem _ hentry)
    exact (printed_member (h (key, value) List.mem_cons_self)
      (.cons (.inr (by decide)) (printed_newLine depth))).append hrest

/-- The only control characters that are written are the line feeds of the layout. -/
theorem printed_valueChars {value : Value} (h : Storable value) (depth : Nat) :
    Printed (valueChars escaping depth value) := by
  induction h generalizing depth with
  | null => rw [valueChars]; exact printed_of_forall rfl
  | bool b => cases b <;> rw [valueChars] <;> exact printed_of_forall rfl
  | int => rw [valueChars]; exact printed_intChars _
  | text s => rw [valueChars]; exact printed_textChars s
  | @list items hitems ih =>
    cases items with
    | nil => rw [valueChars]; exact printed_of_forall rfl
    | cons item items =>
      rw [valueChars]
      have hrest := printed_itemsChars fun value hvalue =>
        ih value (List.mem_cons_of_mem item hvalue) (depth + 1)
      exact ((((Printed.cons (.inr (by decide)) (printed_newLine _)).append
        (ih item List.mem_cons_self _)).append hrest).append (printed_newLine depth)).append
          (printed_of_forall rfl)
  | @map entries hnames hentries ih =>
    cases entries with
    | nil => rw [valueChars]; exact printed_of_forall rfl
    | cons entry entries =>
      obtain ⟨key, value⟩ := entry
      rw [valueChars]
      have hrest := printed_membersChars fun entry hentry =>
        ih entry (List.mem_cons_of_mem (key, value) hentry) (depth + 1)
      exact (((printed_member (ih (key, value) List.mem_cons_self _)
        (.cons (.inr (by decide)) (printed_newLine _))).append hrest).append
          (printed_newLine depth)).append (printed_of_forall rfl)

end Invocation.Json

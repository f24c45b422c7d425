import Invocation.Proofs.Markup

/-!
# What is read of escaped texts

The characters that are read of a text with tags are told by its tokens (`readMarkup_chars`): a tag gives
none, two backslashes before a tag are one, and a backslash before a bracket that begins no tag is dropped.

Escaping guards the tags of a text. It does not guard the brackets that begin no tag, so that a text is
read again but for the backslashes in front of these (`readChars_escape`, `unslashed_eq_self_iff`), and of
the backslashes at the end of a text only a single one is guarded against a closing tag that follows
(`readChars_element`, `read_eq_iff`).
-/

namespace Invocation.Display

open Invocation.Number Invocation.Text

/-! ## Characters that are read -/

/-- The characters that are read of tokens. -/
def readChars : List Token → List Char
  | [] => []
  | .char '\\' :: .char '[' :: rest => '[' :: readChars rest
  | .char c :: rest => c :: readChars rest
  | .tag count body :: rest =>
    slashes (count / 2) ++ (if count % 2 = 1 then '[' :: body ++ [']'] else []) ++ readChars rest

theorem Reading.append_nil (reading : Reading) : reading.append [] = reading := by
  simp [append, shownChars]

theorem Reading.append_append (xs ys : List Char) (reading : Reading) :
    (reading.append xs).append ys = reading.append (xs ++ ys) := by
  simp [append, shownChars]

section Handled

variable [Handlers]

namespace Reading

variable {position : Nat} {body : List Char} {reading next : Reading}

theorem chars_tag (h : reading.tag position body = .ok next) : next.chars = reading.chars := by
  obtain ⟨-, opening, -, -, rfl⟩ | ⟨-, tag, others, -, -, rfl⟩ := tag_cases h
  · rfl
  · rfl

/-- **Tokens are read** as their characters. -/
theorem chars_run {ts : List Token} (h : run position reading ts = .ok next) :
    next.chars = reading.chars ++ shownChars (readChars ts) := by
  fun_induction run position reading ts with
  | case1 position reading =>
    cases h
    exact (List.append_nil _).symm
  | case2 position reading rest ih =>
    rw [ih h, append, readChars, shownChars, shownChars, List.append_assoc, ← List.filter_append]
    rfl
  | case3 position reading c rest hbracket ih =>
    have hread : readChars (.char c :: rest) = c :: readChars rest := by
      rw [readChars]
      exact hbracket
    rw [ih h, append, hread, shownChars, shownChars, List.append_assoc, ← List.filter_append]
    rfl
  | case4 position reading count body rest next shown hodd ih =>
    rw [ih h, readChars, if_pos hodd]
    simp only [shown, append, shownChars, slashes, List.append_assoc, List.filter_append]
  | case5 position reading count body rest next shown heven ih =>
    obtain ⟨after, htag, hrun⟩ : ∃ after, shown.tag (position + count) body = .ok after ∧
        run next after rest = .ok _ := by
      cases htag : shown.tag (position + count) body with
      | error fault =>
        rw [htag] at h
        cases h
      | ok after =>
        rw [htag] at h
        exact ⟨after, rfl, h⟩
    rw [ih after hrun, chars_tag htag, readChars, if_neg heven]
    simp only [shown, append, shownChars, slashes, List.append_assoc, List.filter_append, List.nil_append]

/-- Quiet tokens are read as their characters, if no character follows that could belong to the last of
them. -/
theorem run_quiet {ts more : List Token} (h : ∀ token ∈ ts, token.Quiet)
    (hmore : ∀ c, more.head? ≠ some (.char c)) (position : Nat) (reading : Reading) :
    ∃ next, run position reading (ts ++ more) = run next (reading.append (readChars ts)) more := by
  fun_induction readChars ts generalizing position reading with
  | case1 => exact ⟨position, by rw [append_nil]; rfl⟩
  | case2 rest ih =>
    have hrest : ∀ token ∈ rest, token.Quiet := by
      intro token hmem
      exact h token (List.mem_cons_of_mem _ (List.mem_cons_of_mem _ hmem))
    obtain ⟨next, hnext⟩ := ih hrest (position + 2) (reading.append ['['])
    refine ⟨next, ?_⟩
    rw [List.cons_append, List.cons_append, run, hnext, append_append]
    rfl
  | case3 c rest hbracket ih =>
    have hrest : ∀ token ∈ rest, token.Quiet := fun token hmem => h token (List.mem_cons_of_mem _ hmem)
    obtain ⟨next, hnext⟩ := ih hrest (position + 1) (reading.append [c])
    refine ⟨next, ?_⟩
    rw [List.cons_append, run, hnext, append_append]
    · rfl
    · intro after hafter hc
      cases rest with
      | nil =>
        rw [List.nil_append] at hafter
        exact hmore '[' (congrArg List.head? hafter)
      | cons token rest =>
        obtain ⟨rfl, -⟩ := List.cons.inj hafter
        exact hbracket rest rfl hc
  | case4 count body rest ih =>
    have hodd : count % 2 = 1 := h _ List.mem_cons_self
    have hrest : ∀ token ∈ rest, token.Quiet := fun token hmem => h token (List.mem_cons_of_mem _ hmem)
    obtain ⟨next, hnext⟩ := ih hrest (position + (Token.tag count body).chars.length)
      ((reading.append (slashes (count / 2))).append ('[' :: body ++ [']']))
    refine ⟨next, ?_⟩
    rw [List.cons_append, run, if_pos hodd, if_pos hodd]
    rw [append_append, append_append] at hnext
    rw [append_append]
    exact hnext

end Reading

theorem readMarkup_chars {s : String} {styled : Styled} (h : readMarkup s = .ok styled) :
    styled.chars = shownChars (readChars (tokens s.toList)) := by
  unfold readMarkup at h
  cases hrun : Reading.run 0 ⟨[], [], []⟩ (tokens s.toList) with
  | error fault =>
    rw [hrun] at h
    cases h
  | ok next =>
    rw [hrun] at h
    cases h
    exact Reading.chars_run hrun

end Handled

/-! ## Backslashes before brackets -/

/-- A bracket comes first that begins no tag. -/
def isLooseBracket : List Char → Bool
  | '[' :: rest => (tagBody? rest).isNone
  | _ => false

/-- A text without the backslash in front of each bracket that begins no tag. -/
def unslashed : List Char → List Char
  | [] => []
  | c :: rest => if c = '\\' ∧ isLooseBracket rest = true then unslashed rest else c :: unslashed rest

/-- A backslash stands in front of a bracket that begins no tag. -/
def Loose (cs : List Char) : Prop :=
  ∃ before after, cs = before ++ '\\' :: '[' :: after ∧ tagBody? after = none

theorem isLooseBracket_iff {cs : List Char} :
    isLooseBracket cs = true ↔ ∃ after, cs = '[' :: after ∧ tagBody? after = none := by
  unfold isLooseBracket
  split
  · next rest => simp [Option.isNone_iff_eq_none]
  · next hnot => simpa using fun after he => absurd he (hnot after)

theorem not_loose_nil : ¬Loose [] := by
  rintro ⟨before, after, he, -⟩
  simp at he

theorem loose_cons {c : Char} {cs : List Char} :
    Loose (c :: cs) ↔ (c = '\\' ∧ isLooseBracket cs = true) ∨ Loose cs := by
  rw [isLooseBracket_iff]
  constructor
  · rintro ⟨before, after, he, hafter⟩
    cases before with
    | nil =>
      obtain ⟨rfl, rfl⟩ := List.cons.inj he
      exact .inl ⟨rfl, after, rfl, hafter⟩
    | cons d before => exact .inr ⟨before, after, (List.cons.inj he).2, hafter⟩
  · rintro (⟨rfl, after, rfl, hafter⟩ | ⟨before, after, rfl, hafter⟩)
    · exact ⟨[], after, rfl, hafter⟩
    · exact ⟨c :: before, after, rfl, hafter⟩

theorem unslashed_of_not_loose {cs : List Char} (h : ¬Loose cs) : unslashed cs = cs := by
  induction cs with
  | nil => rfl
  | cons c cs ih =>
    rw [loose_cons, not_or] at h
    rw [unslashed, if_neg h.1, ih h.2]

/-- The backslashes and opening brackets of a text, a backslash counting twice. What is read of a text is
never heavier, and lighter where a mark of it is taken for markup. -/
def weight (cs : List Char) : Nat :=
  2 * cs.count '\\' + cs.count '['

theorem weight_append (xs ys : List Char) : weight (xs ++ ys) = weight xs + weight ys := by
  simp only [weight, List.count_append]
  omega

theorem weight_cons (c : Char) (cs : List Char) : weight (c :: cs) = weight [c] + weight cs :=
  weight_append [c] cs

theorem weight_slashes (count : Nat) : weight (slashes count) = 2 * count := by
  rw [weight, slashes, List.count_replicate_self, List.count_replicate]
  simp

theorem weight_unslashed_le (cs : List Char) : weight (unslashed cs) ≤ weight cs := by
  induction cs with
  | nil => exact Nat.le_refl _
  | cons c cs ih =>
    rw [unslashed, weight_cons c cs]
    split
    · omega
    · rw [weight_cons c (unslashed cs)]
      omega

theorem weight_unslashed_lt {cs : List Char} (h : Loose cs) : weight (unslashed cs) < weight cs := by
  induction cs with
  | nil => exact absurd h not_loose_nil
  | cons c cs ih =>
    have hle := weight_unslashed_le cs
    rw [unslashed, weight_cons c cs]
    split
    · next hfirst =>
      have hslash : weight [c] = 2 := by
        rw [hfirst.1]
        rfl
      omega
    · next hfirst =>
      have hrest := ih ((loose_cons.1 h).resolve_left hfirst)
      rw [weight_cons c (unslashed cs)]
      omega

/-- **A text is read as it is** exactly if no backslash stands in front of a bracket that begins no tag. -/
theorem unslashed_eq_self_iff {cs : List Char} : unslashed cs = cs ↔ ¬Loose cs := by
  refine ⟨fun he hloose => ?_, unslashed_of_not_loose⟩
  have hlt := weight_unslashed_lt hloose
  rw [he] at hlt
  omega

instance : DecidablePred Loose :=
  fun _ => decidable_of_iff _ (not_congr unslashed_eq_self_iff |>.trans not_not)

theorem unslashed_sublist (cs : List Char) : List.Sublist (unslashed cs) cs := by
  induction cs with
  | nil => exact .slnil
  | cons c cs ih =>
    rw [unslashed]
    split
    · exact ih.cons c
    · exact ih.cons_cons c

theorem isSome_closeTag?_slashes (cs : List Char) (count : Nat) :
    (closeTag? (cs ++ slashes count)).isSome = (closeTag? cs).isSome := by
  induction cs with
  | nil =>
    rw [List.nil_append, ← List.append_nil (slashes count), (closeTag?_slashes count []).2 rfl]
    rfl
  | cons c cs ih =>
    rw [List.cons_append, closeTag?, closeTag?]
    split
    · rfl
    · split
      · rfl
      · rw [Option.isSome_map, Option.isSome_map, ih]

theorem isLooseBracket_slashes (cs : List Char) (count : Nat) :
    isLooseBracket (cs ++ slashes count) = isLooseBracket cs := by
  have hbody (cs : List Char) : (tagBody? (cs ++ slashes count)).isNone = (tagBody? cs).isNone := by
    cases cs with
    | nil => cases count <;> rfl
    | cons c cs =>
      rw [List.cons_append, tagBody?, tagBody?]
      split
      · have hsome := isSome_closeTag?_slashes cs count
        rw [← Option.not_isSome, ← Option.not_isSome, Option.isSome_map, Option.isSome_map, hsome]
      · rfl
  cases cs with
  | nil => cases count <;> rfl
  | cons c cs =>
    by_cases hc : c = '['
    · subst hc
      exact hbody cs
    · have hloose (cs : List Char) : isLooseBracket (c :: cs) = false := by
        rw [Bool.eq_false_iff, Ne, isLooseBracket_iff]
        rintro ⟨after, he, -⟩
        exact hc (List.cons.inj he).1
      rw [List.cons_append, hloose, hloose]

/-- Backslashes at the end of a text stand before no bracket. -/
theorem unslashed_append_slashes (cs : List Char) (count : Nat) :
    unslashed (cs ++ slashes count) = unslashed cs ++ slashes count := by
  induction cs with
  | nil =>
    rw [List.nil_append, unslashed, List.nil_append, unslashed_eq_self_iff]
    rintro ⟨before, after, he, -⟩
    have hmem : '[' ∈ slashes count := by simp [he]
    cases (List.mem_replicate.1 hmem).2
  | cons c cs ih =>
    rw [List.cons_append, unslashed, unslashed, isLooseBracket_slashes, ih]
    split <;> rfl

/-! ## Escaped texts -/

theorem readChars_char {c : Char} (h : c ≠ '\\') (ts : List Token) :
    readChars (.char c :: ts) = c :: readChars ts := by
  rw [readChars]
  simp [h]

/-- Of backslashes before another character one is dropped if that is a bracket. -/
theorem readChars_slashes (count : Nat) {c : Char} (h : c ≠ '\\') (ts : List Token) :
    readChars ((slashes count).map .char ++ .char c :: ts) =
      slashes (if c = '[' then count - 1 else count) ++ c :: readChars ts := by
  induction count with
  | zero =>
    rw [Nat.zero_sub, ite_self]
    exact readChars_char h ts
  | succ count ih =>
    cases count with
    | zero =>
      change readChars (.char '\\' :: .char c :: ts) = _
      by_cases hc : c = '['
      · subst hc
        rfl
      · rw [if_neg hc, readChars]
        · rw [readChars_char h]
          rfl
        · simp [hc]
    | succ count =>
      change readChars (.char '\\' :: .char '\\' :: _) = _
      rw [readChars]
      · change '\\' :: readChars ((slashes (count + 1)).map .char ++ .char c :: ts) = _
        rw [ih]
        split <;> rfl
      · simp

theorem unslashed_slashes (count : Nat) {c : Char} (h : c ≠ '\\') (rest : List Char) :
    unslashed (slashes count ++ c :: rest) =
      slashes (if isLooseBracket (c :: rest) = true then count - 1 else count) ++ c :: unslashed rest := by
  induction count with
  | zero =>
    rw [Nat.zero_sub, ite_self]
    exact if_neg fun hboth => h hboth.1
  | succ count ih =>
    change unslashed ('\\' :: (slashes count ++ c :: rest)) = _
    rw [unslashed, ih]
    cases count with
    | zero =>
      change (if '\\' = '\\' ∧ isLooseBracket (c :: rest) = true then _ else _) = _
      by_cases hloose : isLooseBracket (c :: rest) = true
      · simp [hloose]
      · simp [hloose, slashes]
    | succ count =>
      rw [if_neg (fun hboth => by cases hboth.2)]
      split <;> rfl

theorem unslashed_closeTag? {cs body rest : List Char} (h : closeTag? cs = some (body, rest)) :
    unslashed cs = body ++ ']' :: unslashed rest := by
  induction cs generalizing body with
  | nil => cases h
  | cons c cs ih =>
    rw [closeTag?] at h
    split at h
    · next hc =>
      cases h
      subst hc
      exact if_neg fun hboth => by cases hboth.1
    · split at h
      · cases h
      · obtain ⟨⟨body', rest'⟩, hcs, he⟩ := Option.map_eq_some_iff.1 h
        cases he
        rw [unslashed, if_neg, ih hcs, List.cons_append]
        -- A bracket that opens would end the body.
        rintro ⟨-, hloose⟩
        obtain ⟨after, rfl, -⟩ := isLooseBracket_iff.1 hloose
        cases hcs

theorem unslashed_tagBody? {cs body rest : List Char} (h : tagBody? cs = some (body, rest)) :
    unslashed cs = body ++ ']' :: unslashed rest := by
  cases cs with
  | nil => cases h
  | cons c cs =>
    rw [tagBody?] at h
    split at h
    · next hopens =>
      obtain ⟨⟨body', rest'⟩, hcs, he⟩ := Option.map_eq_some_iff.1 h
      cases he
      rw [unslashed, if_neg, unslashed_closeTag? hcs, List.cons_append]
      rintro ⟨rfl, -⟩
      cases hopens
    · cases h

/-- Tags that are made quiet are read as they stand in the text. -/
theorem Lexed.readChars_scaled {cs : List Char} {ts : List Token} (h : Lexed cs ts) (hcs : Guarded cs)
    (later : List Token) :
    readChars (ts.map (Token.scale fun count => 2 * count + 1) ++ later) =
      unslashed cs ++ readChars later := by
  induction h, hcs using Lexed.guarded_induction with
  | nil => rfl
  | @char c rest ts count hc hopen later hrest hcs ih =>
    have hchars : ((slashes count).map Token.char).map (Token.scale fun count => 2 * count + 1) =
        (slashes count).map .char := by
      rw [List.map_map]
      rfl
    have hloose : isLooseBracket (c :: rest) = true ↔ c = '[' := by
      rw [isLooseBracket_iff]
      constructor
      · rintro ⟨after, he, -⟩
        exact (List.cons.inj he).1
      · rintro rfl
        exact ⟨rest, rfl, hopen rfl⟩
    rw [List.map_append, hchars, List.append_assoc, List.map_cons, List.cons_append, Token.scale,
      readChars_slashes count hc, ih, unslashed_slashes count hc]
    simp only [hloose, List.append_assoc, List.cons_append]
  | @tag inside body rest ts count hbody later hrest hcs ih =>
    have hloose : isLooseBracket ('[' :: inside) = false := by
      change (tagBody? inside).isNone = false
      rw [hbody]
      rfl
    have hhalf : (2 * count + 1) / 2 = count := by omega
    rw [List.map_cons, List.cons_append, Token.scale, readChars, ih,
      unslashed_slashes count (by decide), unslashed_tagBody? hbody, hhalf,
      if_pos (Nat.mul_add_mod 2 count 1), hloose, if_neg (by decide)]
    simp only [List.append_assoc, List.cons_append, List.nil_append]

/-- **An escaped text is read** without the backslashes in front of brackets that begin no tag; how
backslashes at its end are read depends on what follows. -/
theorem readChars_escape {front post : List Char} (h : Guarded front) (count : Nat)
    (hpost : closeTag? post = none) :
    readChars (tokens (escapeChars (front ++ slashes count) ++ post)) =
      unslashed front ++ readChars (tokens (slashes (endSlashes count) ++ post)) := by
  rw [tokens_escape h count hpost, (lexed_tokens front).readChars_scaled h]

/-! ## Elements -/

/-- What is read of backslashes at the end of an escaped text with a closing tag right after it. An odd
number of them hides the tag. -/
def endRead (closing : List Char) (count : Nat) : List Char :=
  slashes (endSlashes count / 2) ++ if endSlashes count % 2 = 1 then closing else []

theorem weight_endRead {closing : List Char} (h : weight closing = 1) (count : Nat) :
    weight (endRead closing count) ≤ 2 * count ∧
      (weight (endRead closing count) = 2 * count → count ≤ 1) := by
  have hclosing : weight (if endSlashes count % 2 = 1 then closing else []) = endSlashes count % 2 := by
    split
    · next hodd => rw [h, hodd]
    · next heven =>
      rw [Nat.mod_two_not_eq_one.1 heven]
      rfl
  rw [endRead, weight_append, weight_slashes, hclosing, endSlashes]
  split <;> omega

theorem endRead_of_le {count : Nat} (h : count ≤ 1) (closing : List Char) :
    endRead closing count = slashes count := by
  match count with
  | 0 => rfl
  | 1 => rfl

/-- A text is read as it is where it is escaped: in it no backslash stands in front of a bracket that begins
no tag, and at its end there is at most one. -/
def ReadsBack (cs : List Char) : Prop :=
  ¬Loose cs ∧ ¬['\\', '\\'] <:+ cs

instance : DecidablePred ReadsBack :=
  fun cs => inferInstanceAs (Decidable (¬Loose cs ∧ ¬['\\', '\\'] <:+ cs))

section ReadsBack

variable {front : List Char} {count : Nat}

theorem loose_append_slashes : Loose (front ++ slashes count) ↔ Loose front := by
  rw [← not_iff_not, ← unslashed_eq_self_iff, ← unslashed_eq_self_iff, unslashed_append_slashes,
    List.append_left_inj]

theorem twoSlashes_suffix_iff (h : Guarded front) : ['\\', '\\'] <:+ front ++ slashes count ↔ 2 ≤ count := by
  constructor
  · rintro ⟨before, he⟩
    match count with
    | 0 =>
      refine absurd ?_ h
      rw [slashes, List.replicate_zero, List.append_nil] at he
      rw [← he]
      simp
    | 1 =>
      refine absurd ?_ h
      have hfront : before ++ ['\\'] = front := by
        refine @List.append_cancel_right _ (before ++ ['\\']) ['\\'] front ?_
        rw [List.append_assoc]
        exact he
      rw [← hfront]
      simp
    | count + 2 => omega
  · intro hle
    refine ⟨front ++ slashes (count - 2), ?_⟩
    rw [List.append_assoc, show ['\\', '\\'] = slashes 2 from rfl, slashes, slashes, slashes,
      List.replicate_append_replicate, Nat.sub_add_cancel hle]

theorem readsBack_iff (h : Guarded front) :
    ReadsBack (front ++ slashes count) ↔ ¬Loose front ∧ count ≤ 1 := by
  rw [ReadsBack, loose_append_slashes, twoSlashes_suffix_iff h, Nat.not_le, Nat.lt_succ_iff]

variable {closing : List Char}

theorem weight_read_le (h : weight closing = 1) :
    weight (unslashed front ++ endRead closing count) ≤ weight (front ++ slashes count) := by
  rw [weight_append, weight_append, weight_slashes]
  exact Nat.add_le_add (weight_unslashed_le front) (weight_endRead h count).1

theorem readsBack_of_weight (h : weight closing = 1) (hfront : Guarded front)
    (hle : weight (front ++ slashes count) ≤ weight (unslashed front ++ endRead closing count)) :
    ReadsBack (front ++ slashes count) := by
  rw [weight_append, weight_append, weight_slashes] at hle
  have hunslashed := weight_unslashed_le front
  obtain ⟨hend, hcount⟩ := weight_endRead h count
  refine (readsBack_iff hfront).2 ⟨fun hloose => ?_, hcount (by omega)⟩
  have hlt := weight_unslashed_lt hloose
  omega

theorem ReadsBack.read_eq (h : ReadsBack (front ++ slashes count)) (hfront : Guarded front)
    (closing : List Char) : unslashed front ++ endRead closing count = front ++ slashes count := by
  obtain ⟨hloose, hcount⟩ := (readsBack_iff hfront).1 h
  rw [unslashed_of_not_loose hloose, endRead_of_le hcount]

/-- **An escaped text is read as it is** before a closing tag exactly if it reads back. -/
theorem read_eq_iff (h : weight closing = 1) (hfront : Guarded front) :
    unslashed front ++ endRead closing count = front ++ slashes count ↔ ReadsBack (front ++ slashes count) :=
  ⟨fun he => readsBack_of_weight h hfront (Nat.le_of_eq (congrArg weight he.symm)),
    fun hreads => hreads.read_eq hfront closing⟩

end ReadsBack

theorem readChars_literal {cs : List Char} (h : Literal cs) (rest : List Char) :
    readChars (tokens (cs ++ rest)) = cs ++ readChars (tokens rest) := by
  rw [tokens_literal h]
  induction cs with
  | nil => rfl
  | cons c cs ih =>
    obtain ⟨-, -, hslash⟩ := h c List.mem_cons_self
    rw [List.map_cons, List.cons_append, readChars_char hslash, ih fun d hd => h d (List.mem_cons_of_mem c hd),
      List.cons_append]

section Elements

variable {name : String} {before after front : List Char}

/-- The characters of a closing tag. -/
def closingTag (name : String) : List Char :=
  '[' :: '/' :: name.toList ++ [']']

theorem readChars_opening (h : IsTagName name) (rest : List Char) :
    readChars (tokens ('[' :: name.toList ++ ']' :: rest)) = readChars (tokens rest) := by
  rw [tokens_opening h, readChars]
  rfl

theorem readChars_closing (h : IsTagName name) (count : Nat) (rest : List Char) :
    readChars (tokens (slashes count ++ '[' :: '/' :: name.toList ++ ']' :: rest)) =
      slashes (count / 2) ++ (if count % 2 = 1 then closingTag name else []) ++ readChars (tokens rest) := by
  rw [tokens_closing h, readChars]
  rfl

/-- **An element is read** as the text that was escaped in it, but for backslashes in front of brackets that
begin no tag, and at the end. -/
theorem readChars_element (h : IsTagName name) (hbefore : Literal before) (hfront : Guarded front)
    (count : Nat) (rest : List Char) :
    readChars (tokens ('[' :: name.toList ++ ']' :: (before ++ (escapeChars (front ++ slashes count) ++
      '[' :: '/' :: name.toList ++ ']' :: rest)))) =
      before ++ unslashed front ++ endRead (closingTag name) count ++ readChars (tokens rest) := by
  have hclose : closeTag? ('[' :: '/' :: name.toList ++ ']' :: rest) = none := rfl
  rw [readChars_opening h, readChars_literal hbefore, List.append_assoc (escapeChars _),
    readChars_escape hfront count hclose, ← List.append_assoc (slashes _), readChars_closing h, endRead]
  simp only [List.append_assoc]

/-- An element in which something stands after the escaped text: a single backslash has become two. -/
theorem readChars_element_literal (h : IsTagName name) (hbefore : Literal before) (hfront : Guarded front)
    (count : Nat) (hafter : Literal after) (hne : after ≠ []) (rest : List Char) :
    readChars (tokens ('[' :: name.toList ++ ']' :: (before ++ (escapeChars (front ++ slashes count) ++
      (after ++ '[' :: '/' :: name.toList ++ ']' :: rest))))) =
      before ++ unslashed front ++ slashes (endSlashes count) ++ after ++ readChars (tokens rest) := by
  obtain ⟨c, more, rfl⟩ := List.exists_cons_of_ne_nil hne
  obtain ⟨hopen, -, hslash⟩ := hafter c List.mem_cons_self
  have hmore : Literal more := fun d hd => hafter d (List.mem_cons_of_mem c hd)
  have hclose : closeTag? (c :: more ++ '[' :: '/' :: name.toList ++ ']' :: rest) = none := by
    rw [List.append_assoc]
    exact closeTag?_of_unclosed (fun hmem => (hafter _ hmem).2.1 rfl) _
  have hend := readChars_closing h 0 rest
  rw [readChars_opening h, readChars_literal hbefore, readChars_escape hfront count hclose,
    List.cons_append, List.cons_append, tokens_char _ hslash hopen, readChars_slashes _ hslash, if_neg hopen,
    List.append_assoc more, readChars_literal hmore]
  rw [slashes, List.replicate_zero, List.nil_append] at hend
  rw [hend]
  simp [slashes]

end Elements

end Invocation.Display

import Mathlib.Data.List.Basic
import Invocation.Display.Markup

/-!
# Tokens of escaped texts

A text is cut into tokens at its tags, each with the backslashes in front of it (`Lexed`), and in one way
only (`Lexed.tokens`). What is put after a text leaves its tokens as they are, if it closes no bracket and
the text does not end with a backslash (`Lexed.scaled_append`). That holds for other numbers of backslashes
before the tags too, and escaping changes nothing else but a single backslash at the end (`tokens_escape`).
So an escaped text is quiet, wherever it stands (`tokens_escape_append`).
-/

namespace Invocation.Display

open Invocation.Number Invocation.Text

/-! ## Tokens -/

/-- A row of backslashes. -/
def slashes (count : Nat) : List Char :=
  List.replicate count '\\'

/-- Characters and their tokens. Each backslash stands before a tag, and then belongs to it, or is a token
of its own. -/
inductive Lexed : List Char → List Token → Prop
  | last (count : Nat) : Lexed (slashes count) ((slashes count).map .char)
  | char {c : Char} {rest : List Char} {ts : List Token} (count : Nat) (hc : c ≠ '\\')
      (hopen : c = '[' → tagBody? rest = none) (later : Lexed rest ts) :
      Lexed (slashes count ++ c :: rest) ((slashes count).map .char ++ .char c :: ts)
  | tag {inside body rest : List Char} {ts : List Token} (count : Nat)
      (hbody : tagBody? inside = some (body, rest)) (later : Lexed rest ts) :
      Lexed (slashes count ++ '[' :: inside) (.tag count body :: ts)

theorem closeTag?_eq_some {cs body rest : List Char} (h : closeTag? cs = some (body, rest)) :
    cs = body ++ ']' :: rest ∧ ∀ more, closeTag? (body ++ ']' :: more) = some (body, more) := by
  induction cs generalizing body with
  | nil => cases h
  | cons c cs ih =>
    unfold closeTag? at h
    split at h
    · next hc =>
      cases h
      subst hc
      exact ⟨rfl, fun more => rfl⟩
    · next hc =>
      split at h
      · cases h
      · next hopen =>
        obtain ⟨⟨body', rest'⟩, hcs, he⟩ := Option.map_eq_some_iff.1 h
        cases he
        obtain ⟨rfl, hmore⟩ := ih hcs
        refine ⟨rfl, fun more => ?_⟩
        rw [List.cons_append, closeTag?, if_neg hc, if_neg hopen, hmore]
        rfl

theorem tagBody?_eq_some {cs body rest : List Char} (h : tagBody? cs = some (body, rest)) :
    cs = body ++ ']' :: rest ∧ ∀ more, tagBody? (body ++ ']' :: more) = some (body, more) := by
  cases cs with
  | nil => cases h
  | cons c cs =>
    by_cases hopens : opensTag c = true
    · rw [tagBody?, if_pos hopens] at h
      obtain ⟨⟨body', rest'⟩, hcs, he⟩ := Option.map_eq_some_iff.1 h
      cases he
      obtain ⟨rfl, hmore⟩ := closeTag?_eq_some hcs
      refine ⟨rfl, fun more => ?_⟩
      rw [List.cons_append, tagBody?, if_pos hopens, hmore]
      rfl
    · rw [tagBody?, if_neg hopens] at h
      cases h

theorem exists_slashes (cs : List Char) :
    ∃ count rest, cs = slashes count ++ rest ∧ rest.head? ≠ some '\\' := by
  induction cs with
  | nil => exact ⟨0, [], rfl, by simp⟩
  | cons c cs ih =>
    by_cases hc : c = '\\'
    · obtain ⟨count, rest, rfl, hrest⟩ := ih
      exact ⟨count + 1, rest, by rw [hc]; rfl, hrest⟩
    · exact ⟨0, c :: cs, rfl, by simpa using hc⟩

/-- Every text has tokens. -/
theorem exists_lexed (cs : List Char) : ∃ ts, Lexed cs ts := by
  induction hlength : cs.length using Nat.strongRecOn generalizing cs with
  | _ n ih =>
    obtain ⟨count, rest, rfl, hrest⟩ := exists_slashes cs
    cases rest with
    | nil => exact ⟨_, by rw [List.append_nil]; exact .last count⟩
    | cons c rest =>
      have hc : c ≠ '\\' := by simpa using hrest
      have hshorter : rest.length < n := by
        simp only [List.length_append, List.length_cons] at hlength
        omega
      have hplain (hopen : c = '[' → tagBody? rest = none) : ∃ ts, Lexed (slashes count ++ c :: rest) ts := by
        obtain ⟨ts, hts⟩ := ih _ hshorter rest rfl
        exact ⟨_, .char count hc hopen hts⟩
      cases hbody : tagBody? rest with
      | none => exact hplain fun _ => hbody
      | some found =>
        obtain ⟨body, after⟩ := found
        by_cases hopen : c = '['
        · subst hopen
          obtain ⟨rfl, -⟩ := tagBody?_eq_some hbody
          have hafter : after.length < n := by
            simp only [List.length_append, List.length_cons] at hshorter
            omega
          obtain ⟨ts, hts⟩ := ih _ hafter after rfl
          exact ⟨_, .tag count hbody hts⟩
        · exact hplain fun he => absurd he hopen

theorem takeWhile_slashes (count : Nat) {cs : List Char} (h : cs.head? ≠ some '\\') :
    (slashes count ++ cs).takeWhile (· == '\\') = slashes count := by
  induction count with
  | zero =>
    cases cs with
    | nil => rfl
    | cons c cs =>
      have hc : c ≠ '\\' := by simpa using h
      exact List.takeWhile_cons_of_neg (by simpa using hc)
  | succ count ih => exact congrArg ('\\' :: ·) ih

theorem dropWhile_slashes (count : Nat) {cs : List Char} (h : cs.head? ≠ some '\\') :
    (slashes count ++ cs).dropWhile (· == '\\') = cs := by
  have hcut := List.takeWhile_append_dropWhile (p := (· == '\\')) (l := slashes count ++ cs)
  rw [takeWhile_slashes count h] at hcut
  exact List.append_cancel_left hcut

theorem tagAt?_of_plain (count : Nat) {cs : List Char} (h : cs.head? ≠ some '\\')
    (hopen : ∀ inside, cs = '[' :: inside → tagBody? inside = none) :
    tagAt? (slashes count ++ cs) = none := by
  rw [tagAt?, dropWhile_slashes count h]
  split
  · next inside => rw [hopen inside rfl, Option.map_none]
  · rfl

theorem tagAt?_of_tag (count : Nat) {inside body rest : List Char}
    (h : tagBody? inside = some (body, rest)) :
    tagAt? (slashes count ++ '[' :: inside) = some (.tag count body, rest) := by
  have hhead : ('[' :: inside).head? ≠ some '\\' := by simp
  rw [tagAt?, dropWhile_slashes count hhead, takeWhile_slashes count hhead]
  simp [h, slashes]

theorem tokensWithin_nil (fuel : Nat) : tokensWithin fuel [] = [] := by
  cases fuel <;> rfl

/-- Backslashes that stand before no tag are tokens, and so is the character after them. -/
theorem tokensWithin_of_plain (fuel count : Nat) {cs : List Char} (h : cs.head? ≠ some '\\')
    (hopen : ∀ inside, cs = '[' :: inside → tagBody? inside = none)
    (hfuel : (slashes count ++ cs).length ≤ fuel) :
    ∃ less, cs.length ≤ less ∧
      tokensWithin fuel (slashes count ++ cs) = (slashes count).map .char ++ tokensWithin less cs := by
  cases count with
  | zero => exact ⟨fuel, hfuel, rfl⟩
  | succ count =>
    cases fuel with
    | zero => cases hfuel
    | succ fuel =>
      refine ⟨fuel, ?_, ?_⟩
      · simp only [List.length_append, slashes, List.length_replicate] at hfuel
        omega
      · have hnone := tagAt?_of_plain (count + 1) h hopen
        change tokensWithin (fuel + 1) ('\\' :: (slashes count ++ cs)) = _
        change tagAt? ('\\' :: (slashes count ++ cs)) = none at hnone
        rw [tokensWithin, hnone]
        dsimp only
        rw [if_pos rfl, takeWhile_slashes count h, dropWhile_slashes count h]
        rfl

theorem Lexed.tokensWithin {cs : List Char} {ts : List Token} (h : Lexed cs ts) {fuel : Nat}
    (hfuel : cs.length ≤ fuel) : tokensWithin fuel cs = ts := by
  induction h generalizing fuel with
  | last count =>
    have hhead : ([] : List Char).head? ≠ some '\\' := by simp
    obtain ⟨less, -, htokens⟩ := tokensWithin_of_plain fuel count hhead (by simp) (by rwa [List.append_nil])
    rwa [List.append_nil, tokensWithin_nil, List.append_nil] at htokens
  | @char c rest ts count hc hopen later ih =>
    have hinside : ∀ inside, c :: rest = '[' :: inside → tagBody? inside = none := by
      intro inside he
      cases he
      exact hopen rfl
    have hhead : (c :: rest).head? ≠ some '\\' := by simpa using hc
    obtain ⟨less, hless, htokens⟩ := tokensWithin_of_plain fuel count hhead hinside hfuel
    rw [htokens]
    cases less with
    | zero => cases hless
    | succ less =>
      have hnone : tagAt? (c :: rest) = none := tagAt?_of_plain 0 hhead hinside
      rw [Display.tokensWithin, hnone]
      dsimp only
      rw [if_neg hc, ih (by simpa using hless)]
  | @tag inside body rest ts count hbody later ih =>
    have hfound := tagAt?_of_tag count hbody
    obtain ⟨rfl, -⟩ := tagBody?_eq_some hbody
    generalize hcs : slashes count ++ '[' :: (body ++ ']' :: rest) = cs at hfuel hfound ⊢
    have hlength := congrArg List.length hcs
    simp only [List.length_append, List.length_cons] at hlength
    cases cs with
    | nil => simp at hlength
    | cons c cs =>
      cases fuel with
      | zero => cases hfuel
      | succ fuel =>
        rw [Display.tokensWithin, hfound]
        dsimp only
        rw [ih (by simp only [List.length_cons] at hlength hfuel; omega)]

theorem Lexed.tokens {cs : List Char} {ts : List Token} (h : Lexed cs ts) : tokens cs = ts :=
  h.tokensWithin (Nat.le_refl _)

theorem lexed_tokens (cs : List Char) : Lexed cs (tokens cs) := by
  obtain ⟨ts, h⟩ := exists_lexed cs
  rw [h.tokens]
  exact h

/-! ## What is put after a text -/

/-- The characters of a token with another number of backslashes before a tag. -/
def Token.scaled (f : Nat → Nat) : Token → List Char
  | .char c => [c]
  | .tag count body => slashes (f count) ++ '[' :: body ++ [']']

/-- A token with another number of backslashes before a tag. -/
def Token.scale (f : Nat → Nat) : Token → Token
  | .char c => .char c
  | .tag count body => .tag (f count) body

/-- The last character is no backslash. -/
def Guarded (cs : List Char) : Prop :=
  cs.getLast? ≠ some '\\'

theorem Guarded.of_append {front rest : List Char} (h : Guarded (front ++ rest)) : Guarded rest := by
  intro hlast
  refine h ?_
  rw [List.getLast?_append, hlast]
  rfl

/-- The induction over the tokens of a guarded text. No backslashes are left at its end, and what follows a token is
guarded as well. -/
@[elab_as_elim]
theorem Lexed.guarded_induction {motive : ∀ cs ts, Lexed cs ts → Guarded cs → Prop}
    (nil : ∀ hcs, motive [] [] (.last 0) hcs)
    (char : ∀ {c rest ts} (count : Nat) (hc : c ≠ '\\') (hopen : c = '[' → tagBody? rest = none)
      (later : Lexed rest ts) (hrest : Guarded rest) (hcs : Guarded (slashes count ++ c :: rest)),
      motive rest ts later hrest → motive _ _ (.char count hc hopen later) hcs)
    (tag : ∀ {inside body rest ts} (count : Nat) (hbody : tagBody? inside = some (body, rest))
      (later : Lexed rest ts) (hrest : Guarded rest) (hcs : Guarded (slashes count ++ '[' :: inside)),
      motive rest ts later hrest → motive _ _ (.tag count hbody later) hcs)
    {cs : List Char} {ts : List Token} (h : Lexed cs ts) (hcs : Guarded cs) : motive cs ts h hcs := by
  induction h with
  | last count =>
    cases count with
    | zero => exact nil hcs
    | succ count =>
      refine absurd ?_ hcs
      simp [slashes, List.getLast?_replicate]
  | @char c rest ts count hc hopen later ih =>
    have hrest : Guarded rest := Guarded.of_append (show Guarded ([c] ++ rest) from hcs.of_append)
    exact char count hc hopen later hrest hcs (ih hrest)
  | @tag inside body rest ts count hbody later ih =>
    have hsplit : slashes count ++ '[' :: inside = (slashes count ++ '[' :: body ++ [']']) ++ rest := by
      rw [(tagBody?_eq_some hbody).1]
      simp only [List.append_assoc, List.cons_append, List.nil_append]
    have hrest : Guarded rest := Guarded.of_append (hsplit ▸ hcs)
    exact tag count hbody later hrest hcs (ih hrest)

theorem closeTag?_slashes (count : Nat) (cs : List Char) :
    closeTag? (slashes count ++ cs) = none ↔ closeTag? cs = none := by
  induction count with
  | zero => exact Iff.rfl
  | succ count ih =>
    change closeTag? ('\\' :: (slashes count ++ cs)) = none ↔ _
    rw [closeTag?, if_neg (by decide), if_neg (by decide), Option.map_eq_none_iff, ih]

theorem tagBody?_of_closeTag? {cs : List Char} (h : closeTag? cs = none) : tagBody? cs = none := by
  cases cs with
  | nil => rfl
  | cons c cs =>
    rw [closeTag?] at h
    split at h
    · cases h
    · split at h
      · next hopen =>
        subst hopen
        rfl
      · rw [tagBody?, Option.map_eq_none_iff.1 h]
        simp

theorem flatMap_scaled_slashes (f : Nat → Nat) (count : Nat) :
    ((slashes count).map Token.char).flatMap (Token.scaled f) = slashes count := by
  induction count with
  | zero => rfl
  | succ count ih => exact congrArg ('\\' :: ·) ih

section Scaled

variable {f : Nat → Nat} {cs post : List Char} {ts later : List Token}

/-- A bracket that is not closed in a text is not closed by what is put after it, if that closes none
itself. -/
theorem Lexed.closeTag?_scaled (h : Lexed cs ts) (hpost : closeTag? post = none) (hcs : closeTag? cs = none) :
    closeTag? (ts.flatMap (Token.scaled f) ++ post) = none := by
  induction h with
  | last count =>
    rw [flatMap_scaled_slashes, closeTag?_slashes]
    exact hpost
  | @char c rest ts count hc hopen later ih =>
    rw [closeTag?_slashes, closeTag?] at hcs
    rw [List.flatMap_append, flatMap_scaled_slashes, List.append_assoc, closeTag?_slashes, List.flatMap_cons,
      Token.scaled, List.singleton_append, List.cons_append, closeTag?]
    split at hcs
    · cases hcs
    · next hclose =>
      rw [if_neg hclose]
      split at hcs
      · next hbracket => rw [if_pos hbracket]
      · next hbracket =>
        rw [if_neg hbracket, ih (Option.map_eq_none_iff.1 hcs)]
        rfl
  | @tag inside body rest ts count hbody later ih =>
    simp only [List.flatMap_cons, Token.scaled, List.append_assoc, closeTag?_slashes]
    rfl

theorem Lexed.tagBody?_scaled (h : Lexed cs ts) (hpost : closeTag? post = none) (hcs : tagBody? cs = none) :
    tagBody? (ts.flatMap (Token.scaled f) ++ post) = none := by
  cases h with
  | last count =>
    rw [flatMap_scaled_slashes]
    cases count with
    | zero => exact tagBody?_of_closeTag? hpost
    | succ count => rfl
  | @char c rest ts count hc hopen later =>
    rw [List.flatMap_append, flatMap_scaled_slashes, List.append_assoc, List.flatMap_cons, Token.scaled,
      List.singleton_append, List.cons_append]
    cases count with
    | zero =>
      change tagBody? (c :: rest) = none at hcs
      change tagBody? (c :: (ts.flatMap (Token.scaled f) ++ post)) = none
      rw [tagBody?] at hcs ⊢
      split at hcs
      · next hopens =>
        rw [if_pos hopens, later.closeTag?_scaled hpost (Option.map_eq_none_iff.1 hcs)]
        rfl
      · next hopens => rw [if_neg hopens]
    | succ count => rfl
  | @tag inside body rest ts count hbody later =>
    simp only [List.flatMap_cons, Token.scaled, List.append_assoc]
    cases f count <;> rfl

/-- The tokens of a text stay, when the backslashes before its tags become others and something is put
after it. -/
theorem Lexed.scaled_append (h : Lexed cs ts) (hcs : Guarded cs) (hpost : closeTag? post = none)
    (h' : Lexed post later) :
    Lexed (ts.flatMap (Token.scaled f) ++ post) (ts.map (Token.scale f) ++ later) := by
  have hchars (count : Nat) : ((slashes count).map Token.char).map (Token.scale f) =
      (slashes count).map Token.char := by
    rw [List.map_map]
    rfl
  induction h, hcs using Lexed.guarded_induction with
  | nil => exact h'
  | @char c rest ts count hc hopen later hrest hcs ih =>
    have hmore : c = '[' → tagBody? (ts.flatMap (Token.scaled f) ++ post) = none :=
      fun he => later.tagBody?_scaled hpost (hopen he)
    have hplain := Lexed.char count hc hmore ih
    simpa only [List.flatMap_append, flatMap_scaled_slashes, List.flatMap_cons, Token.scaled, List.map_append,
      hchars, List.map_cons, Token.scale, List.append_assoc, List.cons_append, List.nil_append] using hplain
  | tag count hbody later hrest hcs ih =>
    obtain ⟨rfl, hmore⟩ := tagBody?_eq_some hbody
    have htag := Lexed.tag (f count) (hmore _) ih
    simpa only [List.flatMap_cons, Token.scaled, List.map_cons, Token.scale, List.append_assoc,
      List.cons_append, List.nil_append] using htag

end Scaled

theorem scaled_id : Token.scaled id = Token.chars := by
  funext token
  cases token <;> rfl

theorem scaled_escaped : Token.scaled (fun count => 2 * count + 1) = Token.escaped := by
  funext token
  cases token <;> rfl

theorem scale_id : Token.scale id = id := by
  funext token
  cases token <;> rfl

theorem Lexed.flatMap_chars {cs : List Char} {ts : List Token} (h : Lexed cs ts) :
    ts.flatMap Token.chars = cs := by
  rw [← scaled_id]
  induction h with
  | last count => exact flatMap_scaled_slashes id count
  | @char c rest ts count hc hopen later ih =>
    rw [List.flatMap_append, flatMap_scaled_slashes, List.flatMap_cons, ih]
    rfl
  | @tag inside body rest ts count hbody later ih =>
    obtain ⟨rfl, -⟩ := tagBody?_eq_some hbody
    rw [List.flatMap_cons, ih, Token.scaled]
    simp

theorem closeTag?_of_unclosed {cs : List Char} (h : ']' ∉ cs) (inside : List Char) :
    closeTag? (cs ++ '[' :: inside) = none := by
  induction cs with
  | nil => rfl
  | cons c cs ih =>
    have hc : c ≠ ']' := fun he => h (he ▸ List.mem_cons_self)
    rw [List.cons_append, closeTag?, if_neg hc, ih (List.not_mem_of_not_mem_cons h)]
    split <;> rfl

/-- Where nothing is closed by what is put after a text, the tokens of both stand in order. -/
theorem tokens_append {front post : List Char} (hfront : Guarded front) (hpost : closeTag? post = none) :
    tokens (front ++ post) = tokens front ++ tokens post := by
  have hboth := (lexed_tokens front).scaled_append (f := id) hfront hpost (lexed_tokens post)
  rw [scaled_id, (lexed_tokens front).flatMap_chars, scale_id, List.map_id] at hboth
  exact hboth.tokens

theorem tokens_slashes (count : Nat) : tokens (slashes count) = (slashes count).map .char :=
  (Lexed.last count).tokens

theorem tokens_char {c : Char} (count : Nat) (hslash : c ≠ '\\') (hopen : c ≠ '[') (rest : List Char) :
    tokens (slashes count ++ c :: rest) = (slashes count).map .char ++ .char c :: tokens rest :=
  (Lexed.char count hslash (fun he => absurd he hopen) (lexed_tokens rest)).tokens

theorem tokens_tag {inside body rest : List Char} (count : Nat) (h : tagBody? inside = some (body, rest)) :
    tokens (slashes count ++ '[' :: inside) = .tag count body :: tokens rest :=
  (Lexed.tag count h (lexed_tokens rest)).tokens

/-- A text without its last backslashes. -/
theorem exists_guarded (cs : List Char) : ∃ front count, cs = front ++ slashes count ∧ Guarded front := by
  obtain ⟨count, rest, hrest, hhead⟩ := exists_slashes cs.reverse
  refine ⟨rest.reverse, count, ?_, ?_⟩
  · have hcs := congrArg List.reverse hrest
    rwa [List.reverse_reverse, List.reverse_append, slashes, List.reverse_replicate] at hcs
  · rwa [Guarded, List.getLast?_reverse]

/-! ## Quiet tokens -/

/-- A token that opens and closes nothing: there is an odd number of backslashes before a tag. -/
def Token.Quiet : Token → Prop
  | .char _ => True
  | .tag count _ => count % 2 = 1

theorem quiet_chars (cs : List Char) : ∀ token ∈ cs.map Token.char, token.Quiet := by
  intro token htoken
  obtain ⟨c, -, rfl⟩ := List.mem_map.1 htoken
  trivial

/-- Without an opening bracket there is no tag. -/
theorem quiet_of_unopened {cs : List Char} (h : '[' ∉ cs) : ∀ token ∈ tokens cs, token.Quiet := by
  intro token htoken
  cases token with
  | char c => trivial
  | tag count body =>
    refine absurd ?_ h
    rw [← (lexed_tokens cs).flatMap_chars]
    exact List.mem_flatMap.2 ⟨_, htoken, by simp [Token.chars]⟩

/-! ## Escaped texts -/

/-- The last character stays, whatever the backslashes before tags become. -/
theorem getLast?_flatMap_scaled (f : Nat → Nat) (ts : List Token) :
    (ts.flatMap (Token.scaled f)).getLast? = (ts.flatMap Token.chars).getLast? := by
  rcases List.eq_nil_or_concat ts with rfl | ⟨front, token, rfl⟩
  · rfl
  · cases token <;> simp [Token.scaled, Token.chars, List.getLast?_append, List.getLast?_cons]

/-- The number of backslashes that an escaped text ends with: one that stands alone is doubled. -/
def endSlashes (count : Nat) : Nat :=
  if count = 1 then 2 else count

theorem guardEnd_slashes {cs : List Char} (h : Guarded cs) (count : Nat) :
    guardEnd (cs ++ slashes count) = cs ++ slashes (endSlashes count) := by
  have hhead : cs.reverse.head? ≠ some '\\' := by rwa [List.head?_reverse]
  rw [guardEnd, List.reverse_append, slashes, List.reverse_replicate]
  match count with
  | 0 =>
    cases hcs : cs.reverse with
    | nil => rfl
    | cons c rest =>
      have hc : c ≠ '\\' := by simpa [hcs] using hhead
      simp [endSlashes, slashes, hc]
  | 1 =>
    cases hcs : cs.reverse with
    | nil => simp [endSlashes, slashes]
    | cons c rest =>
      have hc : c ≠ '\\' := by simpa [hcs] using hhead
      simp [endSlashes, slashes, hc]
  | count + 2 => rfl

theorem escapeChars_slashes {front : List Char} (h : Guarded front) (count : Nat) :
    escapeChars (front ++ slashes count) =
      (tokens front).flatMap Token.escaped ++ slashes (endSlashes count) := by
  have hslashes : closeTag? (slashes count) = none := by
    rw [← List.append_nil (slashes count), closeTag?_slashes]
    rfl
  have hfront : Guarded ((tokens front).flatMap (Token.scaled fun count => 2 * count + 1)) := by
    rwa [Guarded, getLast?_flatMap_scaled, (lexed_tokens front).flatMap_chars]
  rw [escapeChars, tokens_append h hslashes, tokens_slashes, List.flatMap_append, ← scaled_escaped,
    flatMap_scaled_slashes, guardEnd_slashes hfront]

/-- **The tokens of an escaped text** are those of the text with an odd number of backslashes before each
tag; backslashes at its end may come to stand before a tag. -/
theorem tokens_escape {front post : List Char} (h : Guarded front) (count : Nat)
    (hpost : closeTag? post = none) :
    tokens (escapeChars (front ++ slashes count) ++ post) =
      (tokens front).map (Token.scale fun count => 2 * count + 1) ++
        tokens (slashes (endSlashes count) ++ post) := by
  have hclose : closeTag? (slashes (endSlashes count) ++ post) = none := (closeTag?_slashes _ post).2 hpost
  have hlexed := (lexed_tokens front).scaled_append h hclose (lexed_tokens (slashes (endSlashes count) ++ post))
    (f := fun count => 2 * count + 1)
  rw [escapeChars_slashes h, List.append_assoc, ← scaled_escaped]
  exact hlexed.tokens

/-- **An escaped text is quiet**, but for backslashes at its end. -/
theorem tokens_escape_append (cs : List Char) : ∃ quiet count, (∀ token ∈ quiet, token.Quiet) ∧
    ∀ post, closeTag? post = none →
      tokens (escapeChars cs ++ post) = quiet ++ tokens (slashes count ++ post) := by
  obtain ⟨front, count, rfl, hfront⟩ := exists_guarded cs
  refine ⟨_, endSlashes count, ?_, fun post hpost => tokens_escape hfront count hpost⟩
  intro token htoken
  obtain ⟨original, -, rfl⟩ := List.mem_map.1 htoken
  cases original with
  | char c => trivial
  | tag count body => exact Nat.mul_add_mod 2 count 1

end Invocation.Display

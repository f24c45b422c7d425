import Invocation.Proofs.Shown

/-!
# Errors in a panel

An error is shown in a panel with its hint. The message is escaped, the hint is not: a tag in the hint that
cannot be read, or whose style cannot be, keeps the error from being shown, and other tags and backslashes in it
are read as markup. So an error is shown with all of its message and its hint exactly if the message reads back
and the hint is bare (`showError_faithful`).
-/

namespace Invocation.Display

open Invocation.Text

/-! ## Texts that are not escaped -/

/-- A text in which nothing is read as markup, nor hides a tag that follows. -/
structure Bare (cs : List Char) : Prop where
  untagged : ∀ count body, .tag count body ∉ tokens cs
  tight : ¬Loose cs
  guarded : Guarded cs

theorem Bare.of_literal {cs : List Char} (h : Literal cs) : Bare cs := by
  refine ⟨fun count body hmem => ?_, ?_, fun hlast => ?_⟩
  · have hopen : '[' ∈ (tokens cs).flatMap Token.chars :=
      List.mem_flatMap.2 ⟨_, hmem, by simp [Token.chars]⟩
    rw [(lexed_tokens cs).flatMap_chars] at hopen
    exact (h _ hopen).1 rfl
  · rintro ⟨before, after, rfl, -⟩
    exact (h '[' (by simp)).1 rfl
  · exact (h _ (List.mem_of_getLast? hlast)).2.2 rfl

/-- Without tags a text is read as if it were escaped. -/
theorem readChars_of_untagged {cs : List Char} (hcs : Guarded cs)
    (h : ∀ count body, .tag count body ∉ tokens cs) (later : List Token) :
    readChars (tokens cs ++ later) = unslashed cs ++ readChars later := by
  have hscale : (tokens cs).map (Token.scale fun count => 2 * count + 1) = tokens cs := by
    rw [List.map_congr_left (g := id), List.map_id]
    intro token htoken
    cases token with
    | char c => rfl
    | tag count body => exact absurd htoken (h count body)
  rw [← hscale]
  exact (lexed_tokens cs).readChars_scaled hcs later

/-- What is read of a text is no heavier than the text, and lighter if there is a tag in it. -/
theorem Lexed.weight_readChars {cs : List Char} {ts : List Token} (h : Lexed cs ts) (hcs : Guarded cs)
    (later : List Token) :
    weight (readChars (ts ++ later)) ≤ weight cs + weight (readChars later) ∧
      (weight (readChars (ts ++ later)) = weight cs + weight (readChars later) →
        ∀ count body, .tag count body ∉ ts) := by
  induction h, hcs using Lexed.guarded_induction with
  | nil => exact ⟨Nat.le_of_eq (Nat.zero_add _).symm, fun _ _ _ => List.not_mem_nil⟩
  | @char c rest ts count hc hopen _ hrest hcs ih =>
    obtain ⟨hle, htags⟩ := ih
    have hslashes : (if c = '[' then count - 1 else count) ≤ count := by
      split
      · exact Nat.sub_le count 1
      · exact Nat.le_refl count
    rw [List.append_assoc, List.cons_append, readChars_slashes count hc, weight_append, weight_cons,
      weight_slashes, weight_append, weight_slashes, weight_cons c rest]
    refine ⟨by omega, fun he number body hmem => ?_⟩
    rcases List.mem_append.1 hmem with hmem | hmem
    · obtain ⟨_, _, hchar⟩ := List.mem_map.1 hmem
      cases hchar
    · rcases List.mem_cons.1 hmem with hchar | hmem
      · cases hchar
      · exact htags (by omega) number body hmem
  | @tag inside body rest ts count hbody _ hrest hcs ih =>
    have hsplit : slashes count ++ '[' :: inside = (slashes count ++ '[' :: body ++ [']']) ++ rest := by
      rw [(tagBody?_eq_some hbody).1]
      simp only [List.append_assoc, List.cons_append, List.nil_append]
    rw [hsplit]
    obtain ⟨hle, -⟩ := ih
    have hopening : weight ['['] = 1 := rfl
    have hclosing : weight [']'] = 0 := rfl
    have htext : weight ((slashes count ++ '[' :: body ++ [']']) ++ rest) =
        2 * count + 1 + weight body + weight rest := by
      rw [weight_append, weight_append, weight_append, weight_slashes, weight_cons, hopening, hclosing]
      omega
    -- Of a tag half of the backslashes are read, and the tag itself only after an odd number of them.
    have hlt : weight (readChars (.tag count body :: ts ++ later)) <
        2 * count + 1 + weight body + weight rest + weight (readChars later) := by
      rw [List.cons_append, readChars, weight_append, weight_append, weight_slashes]
      split
      · next hodd =>
        rw [List.cons_append, weight_cons, weight_append, hopening, hclosing]
        omega
      · change _ + 0 + _ < _
        omega
    rw [htext]
    exact ⟨Nat.le_of_lt hlt, fun he => absurd he (Nat.ne_of_lt hlt)⟩

section Hints

variable {name : String} {hint : List Char}

/-- A hint is read in front of the closing tag of its element. -/
theorem tokens_hint (hname : IsTagName name) {front : List Char} (hfront : Guarded front) (count : Nat) :
    tokens (front ++ slashes count ++ closingTag name) =
      tokens front ++ [.tag count ('/' :: name.toList)] := by
  have hclose : closeTag? (slashes count ++ closingTag name) = none := (closeTag?_slashes count _).2 rfl
  have hclosing := tokens_closing hname count []
  have hnil : tokens [] = [] := rfl
  rw [List.append_assoc, hnil] at hclosing
  rw [List.append_assoc, tokens_append hfront hclose]
  exact congrArg _ hclosing

/-- What is read of a hint is no heavier than the hint, and lighter unless it is bare. -/
theorem weight_hint (hname : IsTagName name) (hclosing : weight (closingTag name) = 1) (hint : List Char) :
    weight (readChars (tokens (hint ++ closingTag name))) ≤ weight hint ∧
      (weight (readChars (tokens (hint ++ closingTag name))) = weight hint → Bare hint) := by
  obtain ⟨front, count, rfl, hfront⟩ := exists_guarded hint
  have hend : weight (readChars [.tag count ('/' :: name.toList)]) = 2 * (count / 2) + count % 2 := by
    rw [readChars, readChars, List.append_nil, weight_append, weight_slashes]
    split
    · next hodd =>
      rw [hodd]
      exact congrArg _ hclosing
    · next heven =>
      rw [Nat.mod_two_not_eq_one.1 heven]
      rfl
  obtain ⟨hle, htags⟩ := (lexed_tokens front).weight_readChars hfront [.tag count ('/' :: name.toList)]
  rw [tokens_hint hname hfront, weight_append, weight_slashes]
  refine ⟨by omega, fun he => ?_⟩
  obtain rfl : count = 0 := by omega
  have huntagged := htags (by omega)
  rw [readChars_of_untagged hfront huntagged, weight_append, hend] at he
  rw [slashes, List.replicate_zero, List.append_nil]
  refine ⟨huntagged, fun hloose => ?_, hfront⟩
  have hlt := weight_unslashed_lt hloose
  omega

/-- A bare hint is read as it is. -/
theorem Bare.read_eq (h : Bare hint) (hname : IsTagName name) :
    readChars (tokens (hint ++ closingTag name)) = hint := by
  have htokens := tokens_hint hname h.guarded 0
  rw [slashes, List.replicate_zero, List.append_nil] at htokens
  rw [htokens, readChars_of_untagged h.guarded h.untagged, unslashed_of_not_loose h.tight]
  exact List.append_nil hint

end Hints

/-! ## Texts of errors -/

/-- The text of an error is read: the message as it was escaped, the hint as it stands. -/
theorem readChars_errorText {front : List Char} (hfront : Guarded front) (count : Nat) {message : String}
    (hmessage : message.toList = front ++ slashes count) (hint : String) :
    readChars (tokens (errorText message hint).toList) =
      errorMark.toList ++ ' ' :: (unslashed front ++ endRead (closingTag "bold red") count) ++
        '\n' :: readChars (tokens (hint.toList ++ closingTag "dim")) := by
  have hmark : Literal (errorMark ++ " ").toList := by decide
  have hbreak := readChars_literal (show Literal ['\n'] by decide)
  have hopened := readChars_opening isTagName_dim (hint.toList ++ closingTag "dim")
  have hwhole := (readChars_element isTagName_boldRed hmark hfront count _).trans
    (congrArg _ ((hbreak _).trans (congrArg _ hopened)))
  have hopening : "[bold red]".toList = '[' :: "bold red".toList ++ [']'] := by decide
  have hclosing : "[/bold red]".toList = '[' :: '/' :: "bold red".toList ++ [']'] := by decide
  have hdim : "\n[dim]".toList = '\n' :: '[' :: "dim".toList ++ [']'] := by decide
  have hdimClosing : "[/dim]".toList = closingTag "dim" := by decide
  have hspace : " ".toList = [' '] := rfl
  simp only [String.toList_append, hspace, List.append_assoc, List.cons_append, List.nil_append] at hwhole
  simp only [errorText, String.toList_append, escape, String.toList_ofList, hmessage, hopening, hclosing,
    hdim, hdimClosing, hspace, List.append_assoc, List.cons_append, List.nil_append]
  exact hwhole

theorem weight_solid (cs : List Char) : weight (solid cs) = weight cs := by
  have hslash : isBlank '\\' = false := by decide
  have hopen : isBlank '[' = false := by decide
  rw [weight, weight, solid, List.count_filter (by simp [hslash]), List.count_filter (by simp [hopen])]

/-- **An error is read as its message and its hint** exactly if the one reads back and the other is bare. -/
theorem solid_errorText_iff (message hint : String) :
    solid (readChars (tokens (errorText message hint).toList)) =
      solid (errorMark.toList ++ message.toList ++ hint.toList) ↔
    ReadsBack message.toList ∧ Bare hint.toList := by
  obtain ⟨front, count, hmessage, hfront⟩ := exists_guarded message.toList
  have hread := readChars_errorText hfront count hmessage hint
  have hbold : weight (closingTag "bold red") = 1 := by decide
  obtain ⟨hle, hbare⟩ := weight_hint isTagName_dim (show weight (closingTag "dim") = 1 by decide) hint.toList
  rw [hread]
  constructor
  · intro he
    have hweight := congrArg weight he
    have hspace : weight [' '] = 0 := rfl
    have hbreak : weight ['\n'] = 0 := rfl
    rw [weight_solid, weight_solid, weight_append, weight_append, weight_cons ' ', weight_cons '\n', hspace,
      hbreak, weight_append (errorMark.toList ++ message.toList), weight_append errorMark.toList, hmessage]
      at hweight
    have hread : weight _ ≤ weight (front ++ slashes count) := weight_read_le hbold
    refine ⟨?_, hbare (by omega)⟩
    rw [hmessage]
    exact readsBack_of_weight hbold hfront (by omega)
  · rintro ⟨hreads, hbareHint⟩
    rw [hmessage] at hreads
    rw [hreads.read_eq hfront, ← hmessage, hbareHint.read_eq isTagName_dim]
    simp only [solid_append, solid_cons_of_blank (show isBlank ' ' = true by decide),
      solid_cons_of_blank (show isBlank '\n' = true by decide), List.append_assoc]

/-- An error whose hint is bare can be shown. -/
theorem canShow_of_bare [Handlers] (console : Console) (room : Nat) (message : String) {hint : String}
    (h : Bare hint.toList) : CanShow console room (errorText message hint) := by
  have hquiet : ∀ token ∈ tokens hint.toList, token.Quiet := by
    intro token htoken
    cases token with
    | char c => trivial
    | tag count body => exact absurd htoken (h.untagged count body)
  have htokens := tokens_hint isTagName_dim h.guarded 0
  rw [slashes, List.replicate_zero, List.append_nil, closingTag, ← List.append_assoc] at htokens
  exact canShow_errorText_of_quiet console room message hquiet htokens

theorem mem_readChars {ts : List Token} {c : Char} (h : c ∈ readChars ts) : c ∈ ts.flatMap Token.chars := by
  fun_induction readChars ts with
  | case1 => exact h
  | case2 rest ih =>
    rcases List.mem_cons.1 h with rfl | h
    · simp [Token.chars]
    · simp [Token.chars, ih h]
  | case3 rest d hbracket ih =>
    rcases List.mem_cons.1 h with rfl | h
    · simp [Token.chars]
    · simp [Token.chars, ih h]
  | case4 rest count body ih =>
    rw [List.flatMap_cons, Token.chars]
    rcases List.mem_append.1 h with h | h
    · refine List.mem_append_left _ ?_
      rcases List.mem_append.1 h with h | h
      · obtain ⟨hcount, rfl⟩ := List.mem_replicate.1 h
        exact List.mem_append_left _ (List.mem_append_left _ (List.mem_replicate.2 ⟨by omega, rfl⟩))
      · split at h
        · rw [List.append_assoc]
          exact List.mem_append_right _ h
        · cases h
    · exact List.mem_append_right _ (ih h)

/-- The characters that stand around the message and the hint of an error, as far as they are read. -/
def errorChars : List Char :=
  errorMark.toList ++ [' ', '\n', '\\'] ++ closingTag "bold red" ++ closingTag "dim"

theorem mem_readChars_errorText {message hint : String} {c : Char}
    (h : c ∈ readChars (tokens (errorText message hint).toList)) :
    c ∈ message.toList ∨ c ∈ hint.toList ∨ c ∈ errorChars := by
  have hfixed : errorMark.toList ⊆ errorChars ∧ ' ' ∈ errorChars ∧ '\n' ∈ errorChars ∧ '\\' ∈ errorChars ∧
      closingTag "bold red" ⊆ errorChars ∧ closingTag "dim" ⊆ errorChars := by decide
  obtain ⟨hmark, hspace, hbreak, hslash, hbold, hdim⟩ := hfixed
  obtain ⟨front, count, hmessage, hfront⟩ := exists_guarded message.toList
  rw [readChars_errorText hfront count hmessage hint] at h
  rcases List.mem_append.1 h with h | h
  · rcases List.mem_append.1 h with h | h
    · exact .inr (.inr (hmark h))
    · rcases List.mem_cons.1 h with rfl | h
      · exact .inr (.inr hspace)
      · rcases List.mem_append.1 h with h | h
        · left
          rw [hmessage]
          exact List.mem_append_left _ ((unslashed_sublist front).subset h)
        · right; right
          rcases List.mem_append.1 h with h | h
          · rw [(List.mem_replicate.1 h).2]
            exact hslash
          · split at h
            · exact hbold h
            · cases h
  · rcases List.mem_cons.1 h with rfl | h
    · exact .inr (.inr hbreak)
    · have hmem := mem_readChars h
      rw [(lexed_tokens _).flatMap_chars] at hmem
      rcases List.mem_append.1 hmem with hmem | hmem
      · exact .inr (.inl hmem)
      · exact .inr (.inr (hdim hmem))

/-! ## Panels -/

namespace Console

/-- A panel around lines of segments. -/
def framed (console : Console) (title borderStyle : String) (lines : List (List Segment)) : List Char :=
  let border := Style.named console.theme borderStyle
  ended <| List.map console.paintLine <|
    console.upperEdge title border :: lines.map (sideLine border (console.width - 4)) ++
      [[⟨('╰' :: stroke (console.width - 2) ++ ['╯']).take console.width, border⟩]]

theorem panel_of_read [Handlers] {console : Console} (hroom : 4 < console.width) (title borderStyle : String)
    {body : String} {text : Styled} (h : readMarkup body = .ok text)
    (hlegible : text.Legible console.theme (wrapText Glyph.char Glyph.blank (console.width - 4) text.glyphs)) :
    console.panel title borderStyle body =
      .ok (console.framed title borderStyle (console.wrapped (console.width - 4) text)) := by
  have hwidth : console.width ≠ 0 := by omega
  have hinside : console.width - 4 ≠ 0 := by omega
  unfold panel
  dsimp only
  rw [if_neg hwidth, if_neg hinside, h]
  dsimp only [bind, Except.bind]
  rw [hlegible.wrappedIfSound_eq]
  rfl

/-- In a narrow panel no text is shown. -/
theorem panel_of_narrow [Handlers] {console : Console} (hroom : ¬4 < console.width) (title borderStyle body : String) :
    ∃ cs, console.panel title borderStyle body = .ok cs := by
  have hinside : console.width - 4 = 0 := by omega
  unfold panel
  dsimp only
  rw [if_pos hinside]
  by_cases hwidth : console.width = 0
  · rw [if_pos hwidth]
    exact ⟨_, rfl⟩
  · rw [if_neg hwidth]
    exact ⟨_, rfl⟩

end Console

/-! ## Errors -/

/-- The text of an error inside its panel, as lines of segments. -/
structure ErrorShown (console : Console) (message hint : String) (lines : List (List Segment)) : Prop where
  /-- The lines are those of the text as it is read. -/
  read : lines.map (·.flatMap Segment.chars) =
    linesFor (console.width - 4) (readChars (tokens (errorText message hint).toList))
  /-- Nothing but blanks is lost of it where there is room for every character. -/
  kept : 5 < console.width → Steady message.toList → Steady hint.toList →
    solid (lines.flatMap (·.flatMap Segment.chars)) =
      solid (readChars (tokens (errorText message hint).toList))
  /-- So the lines hold the message and the hint exactly if these are read as they are. -/
  faithful : 5 < console.width → Steady message.toList → Steady hint.toList →
    (solid (lines.flatMap (·.flatMap Segment.chars)) =
        solid (errorMark.toList ++ message.toList ++ hint.toList) ↔
      ReadsBack message.toList ∧ Bare hint.toList)

theorem errorShown_wrapped [Handlers] (console : Console) {message hint : String} (hmessage : Shown message.toList)
    (hhint : Shown hint.toList) {text : Styled} (h : readMarkup (errorText message hint) = .ok text) :
    ErrorShown console message hint (console.wrapped (console.width - 4) text) := by
  have hread : text.chars = readChars (tokens (errorText message hint).toList) := by
    rw [readMarkup_chars h]
    refine shownChars_of_shown fun c hc => ?_
    rcases mem_readChars_errorText hc with hc | hc | hc
    · exact hmessage c hc
    · exact hhint c hc
    · exact (show Shown errorChars by decide) c hc
  have hlines := console.chars_wrapped (console.width - 4) text
  rw [hread] at hlines
  have hkept (hroom : 5 < console.width) (hm : Steady message.toList) (hh : Steady hint.toList) :
      solid ((console.wrapped (console.width - 4) text).flatMap (·.flatMap Segment.chars)) =
        solid (readChars (tokens (errorText message hint).toList)) := by
    rw [List.flatMap_def, hlines]
    refine solid_linesFor (by omega) fun c hc => ?_
    rcases mem_readChars_errorText hc with hc | hc | hc
    · exact hm c hc
    · exact hh c hc
    · exact (show Steady errorChars by decide) c hc
  refine ⟨hlines, hkept, fun hroom hm hh => ?_⟩
  rw [hkept hroom hm hh]
  exact solid_errorText_iff message hint

/-- **An error is shown with its hint**, unless its text, in which the hint is not escaped, cannot be: a tag in it
cannot be read, since it closes nothing that is open, its parameters cannot be evaluated or its name is no style
that can be read, or something of it stands in a stretch whose style cannot be read. It is shown with every
character that is no blank exactly if the message reads back and the hint is bare. -/
theorem showError_faithful [Handlers] (console : Console) {message hint : String} (hne : hint ≠ "")
    (hmessage : Shown message.toList) (hhint : Shown hint.toList) :
    let room := console.width - 4
    ((∃ fault, showError console message (some hint) = .error fault) ↔
      4 < console.width ∧ ¬CanShow console room (errorText message hint)) ∧
    (Bare hint.toList → CanShow console room (errorText message hint)) ∧
    (4 < console.width → CanShow console room (errorText message hint) →
      ∃ lines, showError console message (some hint) = .ok (console.framed "Error" "red" lines) ∧
        ErrorShown console message hint lines) := by
  intro room
  refine ⟨?_, canShow_of_bare console room message, fun hroom hcan => ?_⟩
  · by_cases hroom : 4 < console.width
    · obtain ⟨hcan, cs, hcs⟩ | ⟨hnot, hfault⟩ := showError_cases hroom message hne
      · rw [hcs]
        exact iff_of_false (fun ⟨fault, hfault⟩ => nomatch hfault) fun hnot => hnot.2 hcan
      · exact iff_of_true hfault ⟨hroom, hnot⟩
    · obtain ⟨cs, hcs⟩ := Console.panel_of_narrow hroom "Error" "red" (errorText message hint)
      rw [showError_hint console message hne, hcs]
      exact iff_of_false (fun ⟨fault, hfault⟩ => nomatch hfault) fun hnot => hroom hnot.1
  · obtain ⟨text, htext⟩ := exists_read_of_readable hcan.readable
    refine ⟨console.wrapped room text, ?_, errorShown_wrapped console hmessage hhint htext⟩
    rw [showError_hint console message hne]
    exact Console.panel_of_read hroom "Error" "red" htext (hcan.legible text htext)

theorem showError_faithful_octal :
    ∃ lines, showError plainConsole "bad umask [999]" (some "use octal digits") =
        .ok (plainConsole.framed "Error" "red" lines) ∧
      solid (lines.flatMap (·.flatMap Segment.chars)) = "✖badumask[999]useoctaldigits".toList := by
  have hbare : Bare "use octal digits".toList := .of_literal (by decide +kernel)
  obtain ⟨-, hcan, hshown⟩ := showError_faithful plainConsole (show "use octal digits" ≠ "" by decide)
    (show Shown "bad umask [999]".toList by decide +kernel) (by decide +kernel)
  obtain ⟨lines, hlines, hread⟩ := hshown (by decide) (hcan hbare)
  refine ⟨lines, hlines, ?_⟩
  rw [(hread.faithful (by decide) (by decide +kernel) (by decide +kernel)).2 ⟨by decide +kernel, hbare⟩]
  decide +kernel

/-- A hint in which a tag is closed that is not open keeps the error from being shown. -/
theorem showError_closing : ∃ fault, showError plainConsole "m" (some "a [/b]") = .error fault := by
  have hunopened (below : List Label) (h : below = [] ∨ below = [(Style.normalName "bold red", none)]) :
      openAfter ((Style.normalName "dim", none) :: below)
        (tokens ("a [/b]".toList ++ '[' :: '/' :: "dim".toList ++ [']'])) = none := by
    rcases h with rfl | rfl
    · decide +kernel
    · decide +kernel
  rcases showError_cases (show 4 < plainConsole.width by decide) "m" (show "a [/b]" ≠ "" by decide) with
    ⟨hcan, -⟩ | ⟨-, hfault⟩
  · obtain ⟨labels, hlabels⟩ := hcan.readable
    obtain ⟨below, hbelow, hhint⟩ := openAfter_errorText "m"
    rw [hhint, hunopened below hbelow] at hlabels
    cases hlabels
  · exact hfault

end Invocation.Display

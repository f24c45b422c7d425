import Invocation.Proofs.Markup

/-!
# Styles that can be read

A text that was read is shown unless something on its lines stands in a stretch whose colours cannot be read
(`check_eq_ok_iff`). Every stretch has the style of a tag that opens it, or none (`sound_of_readMarkup`), so that
a text is shown on any console if its tags have styles that can be read (`canShow_of_sound`). Those of the texts
that are written for commands have (`exists_showLine`, `showOutput_cases`); only a status may be too long to be
written.

The hint of an error is not escaped. The error is shown exactly if its text can be (`showError_cases`), as it can
if in a name that stands in the hint no tag is closed, and every tag has a style that can be read
(`canShow_errorText_of_opening`).
-/

namespace Invocation.Display

open Invocation.Number Invocation.Text

/-! ## Styles of tags -/

/-- The colours of a style can be read under every theme. -/
def Sound (style : String) : Prop :=
  ∀ theme, Style.namedFault? theme style = none

instance : DecidablePred Sound := fun style =>
  decidable_of_iff (Style.namedFault? .dark style = none ∧ Style.namedFault? .light style = none)
    ⟨fun h theme => match theme with
      | .dark => h.1
      | .light => h.2, fun h => ⟨h .dark, h .light⟩⟩

/-- The style of a stretch that a tag opens. -/
def tagStyle (body : List Char) : String :=
  OpenTag.style ⟨0, Style.normalName (Reading.nameAndParameters body).1, (Reading.nameAndParameters body).2⟩

/-- The token opens no stretch, or one whose style can be read. -/
def Token.Sound : Token → Prop
  | .char _ => True
  | .tag count body => count % 2 = 1 ∨ body.head? = some '/' ∨ Display.Sound (tagStyle body)

theorem Token.Quiet.sound {token : Token} (h : token.Quiet) : token.Sound := by
  cases token with
  | char c => trivial
  | tag count body => exact .inl h

theorem sound_closing (count : Nat) (name : List Char) : (Token.tag count ('/' :: name)).Sound :=
  .inr (.inl rfl)

theorem sound_opening {name : String} (h : IsTagName name) (hsound : Sound (Style.normalName name)) :
    (Token.tag 0 name.toList).Sound := by
  refine .inr (.inr ?_)
  simp only [tagStyle, h.whole, OpenTag.style]
  exact hsound

/-- An element is sound if its tag is and the tokens in it are quiet. -/
theorem sound_element {name : String} (h : IsTagName name) (hsound : Sound (Style.normalName name))
    {quiet : List Token} (hquiet : ∀ token ∈ quiet, token.Quiet) (count : Nat) {rest : List Token}
    (hrest : ∀ token ∈ rest, token.Sound) :
    ∀ token ∈ .tag 0 name.toList :: (quiet ++ .tag count ('/' :: name.toList) :: rest), token.Sound := by
  refine List.forall_mem_cons.2 ⟨sound_opening h hsound, List.forall_mem_append.2 ⟨?_, ?_⟩⟩
  · exact fun token htoken => (hquiet token htoken).sound
  · exact List.forall_mem_cons.2 ⟨sound_closing count _, hrest⟩

/-! ## Styles of stretches -/

/-- The styles of what is open and of what is complete can be read. -/
structure Reading.Sound (reading : Reading) : Prop where
  opened : ∀ tag ∈ reading.opened, Display.Sound tag.style
  closed : ∀ span ∈ reading.closed, Display.Sound span.style

namespace Reading

variable {reading : Reading}

theorem sound_spanOf {tag : OpenTag} (h : Display.Sound tag.style) : Display.Sound (reading.spanOf tag).style := by
  unfold spanOf
  dsimp only
  split
  · decide +kernel
  · exact h

section Steps

variable [Handlers]

theorem Sound.tag {next : Reading} {position : Nat} {body : List Char} (h : reading.Sound)
    (hbody : body.head? = some '/' ∨ Display.Sound (tagStyle body))
    (htag : reading.tag position body = .ok next) : next.Sound := by
  obtain ⟨hslash, opening, hname, hparameters, rfl⟩ | ⟨-, tag, others, hmem, hsub, rfl⟩ := tag_cases htag
  · have hstyle : opening.style = tagStyle body := by
      rw [OpenTag.style, tagStyle, OpenTag.style, hname, hparameters]
    exact ⟨List.forall_mem_cons.2 ⟨hstyle ▸ hbody.resolve_left hslash, h.opened⟩, h.closed⟩
  · exact ⟨fun t ht => h.opened t (hsub ht), List.forall_mem_cons.2 ⟨sound_spanOf (h.opened tag hmem), h.closed⟩⟩

theorem Sound.run {next : Reading} {ts : List Token} {position : Nat} (h : reading.Sound)
    (hts : ∀ token ∈ ts, token.Sound) (hrun : run position reading ts = .ok next) : next.Sound := by
  fun_induction Reading.run position reading ts with
  | case1 position reading =>
    cases hrun
    exact h
  | case2 position reading rest ih => exact ih ⟨h.opened, h.closed⟩ (fun t ht => hts t (by simp [ht])) hrun
  | case3 position reading c rest hbracket ih =>
    exact ih ⟨h.opened, h.closed⟩ (fun t ht => hts t (by simp [ht])) hrun
  | case4 position reading count body rest next shown hodd ih =>
    exact ih ⟨h.opened, h.closed⟩ (fun t ht => hts t (by simp [ht])) hrun
  | case5 position reading count body rest next shown heven ih =>
    have hshown : shown.Sound := ⟨h.opened, h.closed⟩
    have hbody := (hts _ List.mem_cons_self).resolve_left heven
    rcases htag : shown.tag (position + count) body with fault | after
    · rw [htag] at hrun
      cases hrun
    · rw [htag] at hrun
      exact ih after (hshown.tag hbody htag) (fun t ht => hts t (by simp [ht])) hrun

end Steps

theorem Sound.finish (h : reading.Sound) : ∀ span ∈ reading.finish.spans, Display.Sound span.style := by
  intro span hspan
  rcases List.mem_append.1 (List.mem_mergeSort.1 hspan) with hopen | hclosed
  · obtain ⟨tag, htag, rfl⟩ := List.mem_map.1 (List.mem_reverse.1 hopen)
    exact sound_spanOf (h.opened tag htag)
  · exact h.closed span hclosed

end Reading

/-- **A stretch has the style of a tag**, so that it can be read if that of every tag can. -/
theorem sound_of_readMarkup [Handlers] {s : String} {text : Styled} (hread : readMarkup s = .ok text)
    (h : ∀ token ∈ tokens s.toList, token.Sound) : ∀ span ∈ text.spans, Sound span.style := by
  unfold readMarkup at hread
  rcases hrun : Reading.run 0 ⟨[], [], []⟩ (tokens s.toList) with fault | next
  · rw [hrun] at hread
    cases hread
  · rw [hrun] at hread
    cases hread
    have hnothing : Reading.Sound ⟨[], [], []⟩ :=
      ⟨fun tag htag => (by cases htag), fun span hspan => (by cases hspan)⟩
    exact (hnothing.run h hrun).finish

/-! ## Texts that are shown -/

/-- Everything on some lines of a text stands in stretches whose styles can be read. -/
def Styled.Legible (theme : Theme) (text : Styled) (lines : List (List Glyph)) : Prop :=
  ∀ line ∈ lines, ∀ glyph ∈ line, ∀ number ∈ glyph.spans, ∀ span, text.spans[number]? = some span →
    Style.namedFault? theme span.style = none

theorem Styled.check_eq_ok_iff (theme : Theme) (text : Styled) (lines : List (List Glyph)) :
    text.check theme lines = .ok () ↔ text.Legible theme lines := by
  have hline (line : List Glyph) : text.lineFault? theme line = none ↔
      ∀ glyph ∈ line, ∀ number ∈ glyph.spans, ∀ span, text.spans[number]? = some span →
        Style.namedFault? theme span.style = none := by
    unfold lineFault?
    rw [List.findSome?_eq_none_iff]
    constructor
    · intro h glyph hglyph number hnumber span hspan
      have hfound := h (span, number) (List.mem_zipIdx_iff_getElem?.2 hspan)
      have hany : line.any (number ∈ ·.spans) = true :=
        List.any_eq_true.2 ⟨glyph, hglyph, decide_eq_true hnumber⟩
      dsimp only at hfound
      rw [if_pos hany] at hfound
      exact hfound
    · rintro h ⟨span, number⟩ hspan
      dsimp only
      split
      · next hany =>
        obtain ⟨glyph, hglyph, hnumber⟩ := List.any_eq_true.1 hany
        exact h glyph hglyph number (of_decide_eq_true hnumber) span (List.mem_zipIdx_iff_getElem?.1 hspan)
      · rfl
  have hlines : lines.findSome? (text.lineFault? theme) = none ↔ text.Legible theme lines := by
    rw [List.findSome?_eq_none_iff]
    exact forall₂_congr fun line _ => hline line
  rw [← hlines, check]
  cases lines.findSome? (text.lineFault? theme) with
  | none => exact iff_of_true rfl rfl
  | some fault => exact iff_of_false nofun nofun

/-- If all styles of a text can be read, everything in it can be shown. -/
theorem Styled.legible_of_sound {text : Styled} (h : ∀ span ∈ text.spans, Sound span.style) (theme : Theme)
    (lines : List (List Glyph)) : text.Legible theme lines :=
  fun _ _ _ _ _ _ span hspan => h span (List.mem_of_getElem? hspan) theme

theorem Console.wrappedIfSound_cases (console : Console) (room : Nat) (text : Styled) :
    let lines := wrapText Glyph.char Glyph.blank room text.glyphs
    (text.Legible console.theme lines ∧ console.wrappedIfSound room text = .ok (console.wrapped room text)) ∨
      ¬text.Legible console.theme lines ∧ ∃ fault, console.wrappedIfSound room text = .error fault := by
  intro lines
  have hcheck := Styled.check_eq_ok_iff console.theme text lines
  unfold wrappedIfSound
  change _ ∨ _ ∧ ∃ fault, (text.check console.theme lines >>= _) = _
  cases hresult : text.check console.theme lines with
  | error fault =>
    rw [hresult] at hcheck
    exact .inr ⟨fun h => (nomatch hcheck.2 h), fault, rfl⟩
  | ok =>
    rw [hresult] at hcheck
    exact .inl ⟨hcheck.1 rfl, rfl⟩

theorem Styled.Legible.wrappedIfSound_eq {console : Console} {room : Nat} {text : Styled}
    (h : text.Legible console.theme (wrapText Glyph.char Glyph.blank room text.glyphs)) :
    console.wrappedIfSound room text = .ok (console.wrapped room text) := by
  obtain ⟨-, hlines⟩ | ⟨hnot, -⟩ := console.wrappedIfSound_cases room text
  · exact hlines
  · exact absurd h hnot

section Shows

variable [Handlers] {console : Console} {room : Nat} {markup : String}

variable (console room markup) in
/-- A text with tags can be shown: every tag can be read, and so can the styles of all that is shown of it in
some room. -/
structure CanShow : Prop where
  readable : Readable markup
  legible : ∀ text, readMarkup markup = .ok text →
    text.Legible console.theme (wrapText Glyph.char Glyph.blank room text.glyphs)

theorem canShow_of_sound (hreadable : Readable markup) (hsound : ∀ token ∈ tokens markup.toList, token.Sound) :
    CanShow console room markup :=
  ⟨hreadable, fun _ hread => Styled.legible_of_sound (sound_of_readMarkup hread hsound) _ _⟩

theorem exists_read_of_readable (h : Readable markup) : ∃ text, readMarkup markup = .ok text := by
  obtain ⟨-, hread⟩ | ⟨hnot, -⟩ := readMarkup_cases markup
  · exact hread
  · exact absurd h hnot

/-- A panel with room for its text is shown if the text can be. -/
theorem panel_cases (hroom : 4 < console.width) (title border : String) :
    (CanShow console (console.width - 4) markup ∧ ∃ cs, console.panel title border markup = .ok cs) ∨
      ¬CanShow console (console.width - 4) markup ∧
        ∃ fault, console.panel title border markup = .error fault := by
  have hwidth : console.width ≠ 0 := by omega
  have hinside : console.width - 4 ≠ 0 := by omega
  unfold Console.panel
  dsimp only
  rw [if_neg hwidth, if_neg hinside]
  obtain ⟨hreadable, text, hread⟩ | ⟨hnot, fault, hread⟩ := readMarkup_cases markup
  · rw [hread]
    dsimp only [bind, Except.bind]
    obtain ⟨hlegible, hlines⟩ | ⟨hnot, fault, hlines⟩ := console.wrappedIfSound_cases (console.width - 4) text
    · rw [hlines]
      refine .inl ⟨⟨hreadable, fun other hother => ?_⟩, _, rfl⟩
      cases hread.symm.trans hother
      exact hlegible
    · rw [hlines]
      exact .inr ⟨fun hcan => hnot (hcan.legible text hread), fault, rfl⟩
  · rw [hread]
    exact .inr ⟨fun hcan => hnot hcan.readable, _, rfl⟩

end Shows

section Sound

variable [Handlers] {console : Console} {markup : String} {text : Styled}

/-- A text that was read is shown in lines for the width, if all its styles can be read. -/
theorem Console.markedText_eq (hread : readMarkup markup = .ok text)
    (hsound : ∀ span ∈ text.spans, Sound span.style) :
    console.markedText markup = .ok (if console.width = 0 then []
      else ended ((console.wrapped console.width text).map console.paintLine)) := by
  have hlines : console.wrappedIfSound console.width text = .ok (console.wrapped console.width text) :=
    (Styled.legible_of_sound hsound console.theme _).wrappedIfSound_eq
  unfold markedText
  rw [hread]
  dsimp only [bind, Except.bind]
  rw [hlines]
  split <;> rfl

theorem Console.unwrappedText_eq (hread : readMarkup markup = .ok text)
    (hsound : ∀ span ∈ text.spans, Sound span.style) :
    console.unwrappedText markup = .ok (if console.width = 0 then []
      else ended ((splitLines Glyph.char text.glyphs).map fun line =>
        console.paintLine (text.segments console.theme line))) := by
  have hcheck := (text.check_eq_ok_iff console.theme (splitLines Glyph.char text.glyphs)).2
    (Styled.legible_of_sound hsound _ _)
  unfold unwrappedText
  rw [hread]
  dsimp only [bind, Except.bind]
  rw [hcheck]
  split <;> rfl

end Sound

/-! ## What is shown of commands -/

theorem sound_accent : Sound (Style.normalName "accent") := by
  decide +kernel

theorem sound_shell : Sound (Style.normalName "shell") := by
  decide +kernel

theorem sound_statusTag (status : Int) : Sound (Style.normalName (statusTag status)) := by
  unfold statusTag
  split <;> decide +kernel

theorem sound_boldRed : Sound (Style.normalName "bold red") := by
  decide +kernel

theorem sound_dim : Sound (Style.normalName "dim") := by
  decide +kernel

theorem sound_line (line : String) :
    ∀ token ∈ tokens ("[accent]$[/accent] [shell]" ++ escape line ++ "[/shell]").toList, token.Sound := by
  obtain ⟨quiet, count, hquiet, htokens⟩ := tokens_line line
  rw [htokens]
  refine sound_element isTagName_accent sound_accent (quiet_chars ['$']) 0 ?_
  refine List.forall_mem_cons.2 ⟨trivial, ?_⟩
  exact sound_element isTagName_shell sound_shell hquiet count fun token htoken => (by cases htoken)

theorem sound_statusLine (name : String) (status : Int) :
    ∀ token ∈ tokens (statusLine name status).toList, token.Sound := by
  obtain ⟨quiet, count, hquiet, htokens⟩ := tokens_statusLine name status
  rw [htokens]
  exact sound_element (isTagName_statusTag status) (sound_statusTag status) hquiet count
    fun token htoken => (by cases htoken)

/-- The text of an error is sound if its hint is. -/
theorem sound_errorText (message : String) {hint : String}
    (hhint : ∀ token ∈ tokens (hint.toList ++ '[' :: '/' :: "dim".toList ++ [']']), token.Sound) :
    ∀ token ∈ tokens (errorText message hint).toList, token.Sound := by
  obtain ⟨quiet, count, hquiet, htokens⟩ := tokens_errorText message
  rw [htokens]
  refine sound_element isTagName_boldRed sound_boldRed hquiet count ?_
  exact List.forall_mem_cons.2 ⟨trivial, List.forall_mem_cons.2 ⟨sound_opening isTagName_dim sound_dim, hhint⟩⟩

/-- No tag is closed in a text, and every tag has a name and a style that can be read. -/
def Opening (s : String) : Prop :=
  ∀ count body, .tag count body ∈ tokens s.toList → count % 2 = 1 ∨ body.head? ≠ some '/' ∧
    Style.fault? (Reading.nameAndParameters body).1 = none ∧ Sound (tagStyle body)

/-- The status of an outcome, if there is one, has a decimal text: it has at most 4300 digits. -/
def StatusWritable (o : Outcome) : Prop :=
  ∀ status, o.exitStatus = some status → isWritable status = true

theorem statusWritable_iff {o : Outcome} {status : Int} (h : o.exitStatus = some status) :
    StatusWritable o ↔ isWritable status = true := by
  constructor
  · intro hall
    exact hall status h
  · intro hwritable other hother
    cases h.symm.trans hother
    exact hwritable

section Commands

variable [Handlers]

/-- A name in a hint does no harm if its tags do not. -/
theorem canShow_errorText_of_opening (console : Console) (room : Nat) (message : String) {name after : String}
    (hname : Opening name) (hafter : Literal after.toList) (hne : after ≠ "") :
    CanShow console room (errorText message (name ++ after)) := by
  refine canShow_of_sound (readable_errorText_of_opening message (fun count body hmem => ?_) hafter hne) ?_
  · exact (hname count body hmem).imp_right fun ⟨hopening, hfaultless, _⟩ => ⟨hopening, hfaultless⟩
  · have hchars : after.toList ≠ [] := fun he => hne (String.toList_eq_nil_iff.1 he)
    obtain ⟨front, quiet, count, hquiet, hboth, halone⟩ := tokens_append_literal hafter name.toList
    refine sound_errorText message ?_
    rw [String.toList_append, List.append_assoc name.toList, List.append_assoc name.toList,
      tokens_unescaped isTagName_dim hafter hchars, hboth]
    refine List.forall_mem_append.2 ⟨List.forall_mem_append.2 ⟨fun token htoken => ?_, ?_⟩, ?_⟩
    · cases token with
      | char c => trivial
      | tag count body =>
        have hmem : .tag count body ∈ tokens name.toList := by
          rw [halone]
          exact List.mem_append_left _ htoken
        exact (hname count body hmem).imp_right fun ⟨_, _, hsound⟩ => .inr hsound
    · exact fun token htoken => (hquiet token htoken).sound
    · exact List.forall_mem_singleton.2 (sound_closing 0 _)

/-- A hint without a tag does no harm. -/
theorem canShow_errorText_of_quiet (console : Console) (room : Nat) (message : String) {hint : String}
    {quiet : List Token} {count : Nat} (hquiet : ∀ token ∈ quiet, token.Quiet) (htokens :
      tokens (hint.toList ++ '[' :: '/' :: "dim".toList ++ [']']) = quiet ++ [.tag count ('/' :: "dim".toList)]) :
    CanShow console room (errorText message hint) := by
  refine canShow_of_sound (readable_errorText_of_quiet message hquiet htokens) (sound_errorText message ?_)
  rw [htokens]
  refine List.forall_mem_append.2 ⟨?_, List.forall_mem_singleton.2 (sound_closing count _)⟩
  exact fun token htoken => (hquiet token htoken).sound

theorem canShow_errorText_literal (console : Console) (room : Nat) (message : String) {hint : String}
    (h : Literal hint.toList) : CanShow console room (errorText message hint) := by
  have htokens : tokens (hint.toList ++ '[' :: '/' :: "dim".toList ++ [']']) =
      hint.toList.map .char ++ [.tag 0 ('/' :: "dim".toList)] := by
    rw [List.append_assoc, tokens_literal h]
    exact congrArg _ (tokens_closing isTagName_dim 0 [])
  exact canShow_errorText_of_quiet console room message (quiet_chars hint.toList) htokens

/-- **The line of a command is shown** whatever is in it. -/
theorem exists_showLine (console : Console) (line : String) : ∃ cs, showLine console line = .ok cs := by
  obtain ⟨text, hread⟩ := exists_read_of_readable (readable_line line)
  exact ⟨_, Console.unwrappedText_eq hread (sound_of_readMarkup hread (sound_line line))⟩

theorem exists_markedText_statusLine (console : Console) (name : String) (status : Int) :
    ∃ cs, console.markedText (statusLine name status) = .ok cs := by
  obtain ⟨text, hread⟩ := exists_read_of_readable (readable_statusLine name status)
  exact ⟨_, Console.markedText_eq hread (sound_of_readMarkup hread (sound_statusLine name status))⟩

theorem showOutput_of_unwritable (console : Console) {run : Run} (h : ¬StatusWritable run.outcome) :
    showOutput console run = .error (.integer .unwritable) := by
  unfold showOutput
  dsimp only
  cases hstatus : run.outcome.exitStatus with
  | none => exact absurd (fun status hsome => nomatch hstatus.symm.trans hsome) h
  | some status =>
    rw [statusWritable_iff hstatus, Bool.not_eq_true] at h
    dsimp only
    rw [h]
    rfl

theorem showOutput_of_writable (console : Console) {run : Run} {status : Int} {cs : List Char}
    (h : StatusWritable run.outcome) (hstatus : run.outcome.exitStatus = some status)
    (hshown : console.markedText (statusLine run.command.base status) = .ok cs) :
    showOutput console run = .ok (showStream console "none" run.outcome.stdout ++
      showStream console "stderr" run.outcome.stderr ++ cs) := by
  unfold showOutput
  dsimp only
  rw [hstatus]
  dsimp only
  rw [h status hstatus, hshown]
  rfl

/-- **The outputs of a command are shown** whatever is in them and in its name, unless its status is too long to
be written. -/
theorem showOutput_cases (console : Console) (run : Run) :
    (StatusWritable run.outcome ∧ ∃ cs, showOutput console run = .ok cs) ∨
      ¬StatusWritable run.outcome ∧ showOutput console run = .error (.integer .unwritable) := by
  by_cases h : StatusWritable run.outcome
  · cases hstatus : run.outcome.exitStatus with
    | none =>
      unfold showOutput
      rw [hstatus]
      exact .inl ⟨h, _, rfl⟩
    | some status =>
      obtain ⟨cs, hcs⟩ := exists_markedText_statusLine console run.command.base status
      exact .inl ⟨h, _, showOutput_of_writable console h hstatus hcs⟩
  · exact .inr ⟨h, showOutput_of_unwritable console h⟩

theorem showError_hint (console : Console) (message : String) {hint : String} (hne : hint ≠ "") :
    showError console message (some hint) = console.panel "Error" "red" (errorText message hint) := by
  have hkept : (some hint).filter (· ≠ "") = some hint := by simp [Option.filter, hne]
  unfold showError
  dsimp only
  rw [hkept]
  simp only [errorText, String.append_assoc]

/-- **An error is shown with a hint** exactly if its text can be shown. -/
theorem showError_cases {console : Console} (hroom : 4 < console.width) (message : String) {hint : String}
    (hne : hint ≠ "") :
    (CanShow console (console.width - 4) (errorText message hint) ∧
        ∃ cs, showError console message (some hint) = .ok cs) ∨
      ¬CanShow console (console.width - 4) (errorText message hint) ∧
        ∃ fault, showError console message (some hint) = .error fault := by
  rw [showError_hint console message hne]
  exact panel_cases hroom "Error" "red"

end Commands

end Invocation.Display

import Invocation.Proofs.Spans

/-!
# The style of every character

A terminal reads the codes between the characters that it shows, and each character it shows stands under the
codes that are in force (`cells`). What a console writes for a segment is shown under the codes of its style
alone, whatever was written before it and is written after it (`shownAs_paint`).

The line of a command and how it ended have fixed stretches (`spans_line`, `spans_statusLine`), so that every
character of a command's own text stands in the style that is meant for it and in no other, on any console
(`shows_painted`).
-/

namespace Invocation.Display

open Invocation.Number Invocation.Text

/-! ## A terminal -/

/-- A character on a terminal and the codes it stands under. -/
structure Cell where
  char : Char
  codes : List String
  deriving DecidableEq, Repr

/-- What a terminal is reading: text, what follows an escape, or the codes of a sequence. -/
inductive Scan where
  | text
  | escape
  | codes (read : List Char)

/-- The codes in force after a sequence. The code `0` ends all of them. -/
def afterCodes (inForce : List String) (read : List Char) : List String :=
  if read = ['0'] then [] else inForce ++ [String.ofList read]

/-- The cells that a terminal shows, where some codes are in force. -/
def cellsFrom : List String → Scan → List Char → List Cell
  | _, _, [] => []
  | inForce, .text, c :: cs =>
    if c = '\x1b' then cellsFrom inForce .escape cs else ⟨c, inForce⟩ :: cellsFrom inForce .text cs
  | inForce, .escape, c :: cs => cellsFrom inForce (if c = '[' then .codes [] else .text) cs
  | inForce, .codes read, c :: cs =>
    if c = 'm' then cellsFrom (afterCodes inForce read) .text cs
    else cellsFrom inForce (.codes (read ++ [c])) cs

/-- The cells that a terminal shows of some characters, where no codes are in force. -/
def cells (cs : List Char) : List Cell :=
  cellsFrom [] .text cs

theorem cellsFrom_text {cs : List Char} (h : '\x1b' ∉ cs) (inForce : List String) (rest : List Char) :
    cellsFrom inForce .text (cs ++ rest) = cs.map (⟨·, inForce⟩) ++ cellsFrom inForce .text rest := by
  induction cs with
  | nil => rfl
  | cons c cs ih =>
    obtain ⟨hc, hcs⟩ := not_or.1 (mt List.mem_cons.2 h)
    rw [List.cons_append, cellsFrom, if_neg (Ne.symm hc), ih hcs]
    rfl

theorem cellsFrom_codes {cs : List Char} (h : 'm' ∉ cs) (inForce : List String) (read rest : List Char) :
    cellsFrom inForce (.codes read) (cs ++ 'm' :: rest) =
      cellsFrom (afterCodes inForce (read ++ cs)) .text rest := by
  induction cs generalizing read with
  | nil => rw [List.nil_append, List.append_nil, cellsFrom, if_pos rfl]
  | cons c cs ih =>
    obtain ⟨hc, hcs⟩ := not_or.1 (mt List.mem_cons.2 h)
    rw [List.cons_append, cellsFrom, if_neg (Ne.symm hc), ih hcs, List.append_assoc]
    rfl

/-! ## What is written by itself -/

/-- Characters are shown as some cells, whatever follows them. No code stays in force. -/
def ShownAs (cs : List Char) (row : List Cell) : Prop :=
  ∀ rest, cells (cs ++ rest) = row ++ cells rest

section ShownAs

variable {cs more : List Char} {row next : List Cell}

theorem ShownAs.cells_eq (h : ShownAs cs row) : cells cs = row := by
  have hcells := h []
  have hnothing : cells [] = [] := rfl
  rwa [List.append_nil, hnothing, List.append_nil] at hcells

theorem shownAs_nil : ShownAs [] [] :=
  fun _ => rfl

theorem ShownAs.append (h : ShownAs cs row) (hmore : ShownAs more next) : ShownAs (cs ++ more) (row ++ next) := by
  intro rest
  rw [List.append_assoc, h, hmore, List.append_assoc]

theorem shownAs_chars (h : '\x1b' ∉ cs) : ShownAs cs (cs.map (⟨·, []⟩)) :=
  cellsFrom_text h []

/-- Characters between a sequence of codes and the one that ends all codes stand under the first one. -/
theorem shownAs_between {codes : List Char} (hcodes : 'm' ∉ codes) (hset : codes ≠ ['0']) (h : '\x1b' ∉ cs) :
    ShownAs ('\x1b' :: '[' :: codes ++ 'm' :: cs ++ ['\x1b', '[', '0', 'm'])
      (cs.map (⟨·, [String.ofList codes]⟩)) := by
  intro rest
  have hset : afterCodes [] ([] ++ codes) = [String.ofList codes] := if_neg hset
  have hend : cellsFrom [String.ofList codes] .text (['\x1b', '[', '0', 'm'] ++ rest) = cells rest := rfl
  simp only [List.cons_append, List.append_assoc]
  rw [cells, cellsFrom, if_pos rfl, cellsFrom, if_pos rfl, cellsFrom_codes hcodes, hset, cellsFrom_text h]
  exact congrArg _ hend

end ShownAs

namespace Console

/-- The codes that the characters of a style stand under: all in one sequence, if there are any. -/
def worn (console : Console) (style : Style) : List String :=
  if console.colour = true ∧ style.codes ≠ [] then [join ";" style.codes] else []

/-- The codes of a style are one sequence, and not the one that ends all codes. -/
def Wearable (style : Style) : Prop :=
  'm' ∉ (join ";" style.codes).toList ∧ (join ";" style.codes).toList ≠ ['0']

/-- **A segment stands under the codes of its style** and under no other. -/
theorem shownAs_paint (console : Console) {style : Style} (hstyle : Wearable style) {cs : List Char}
    (h : '\x1b' ∉ cs) : ShownAs (console.paint ⟨cs, style⟩) (cs.map (⟨·, console.worn style⟩)) := by
  obtain ⟨hcodes, hset⟩ := hstyle
  unfold paint worn
  dsimp only
  by_cases hworn : console.colour = true ∧ style.codes ≠ []
  · rw [if_pos hworn]
    split
    · next hplain =>
      -- No codes are written for no characters.
      have hnil : cs = [] := by simpa [hworn.1, hworn.2] using hplain
      rw [hnil]
      exact shownAs_nil
    · have hbetween := shownAs_between hcodes hset h
      rwa [String.ofList_toList] at hbetween
  · rw [if_neg hworn, if_pos]
    · exact shownAs_chars h
    · rw [not_and_or, Bool.not_eq_true, not_not] at hworn
      rcases hworn with hcolour | hnone
      · rw [hcolour]
        rfl
      · rw [hnone, List.isEmpty_nil, Bool.or_true, Bool.true_or]

end Console

/-! ## Glyphs of stretches -/

/-- Characters that all stand in the same stretches. -/
def Glyph.inSpans (spans : List Nat) (cs : List Char) : List Glyph :=
  cs.map fun c => ⟨c, spans⟩

theorem Glyph.runs_inSpans (spans : List Nat) (cs : List Char) :
    runs (inSpans spans cs) = if cs = [] then [] else [(spans, cs)] := by
  induction cs with
  | nil => rfl
  | cons c cs ih =>
    have hcons : inSpans spans (c :: cs) = ⟨c, spans⟩ :: inSpans spans cs := rfl
    rw [hcons, runs, ih, if_neg (List.cons_ne_nil c cs)]
    by_cases hnil : cs = []
    · rw [if_pos hnil, hnil]
    · rw [if_neg hnil]
      exact if_pos rfl

/-- Where the stretches change, a run ends. -/
theorem Glyph.runs_cons_of_ne {glyph next : Glyph} (h : next.spans ≠ glyph.spans) (rest : List Glyph) :
    runs (glyph :: next :: rest) = (glyph.spans, [glyph.char]) :: runs (next :: rest) := by
  obtain ⟨cs, more, hnext⟩ : ∃ cs more, runs (next :: rest) = (next.spans, cs) :: more := by
    rw [runs]
    split
    · split
      · next heq =>
        rw [heq]
        exact ⟨_, _, rfl⟩
      · exact ⟨_, _, rfl⟩
    · exact ⟨_, _, rfl⟩
  rw [runs, hnext]
  exact if_neg h

theorem Glyph.splitLines_inSpans (spans : List Nat) (cs : List Char) :
    splitLines char (inSpans spans cs) = (pieceChars '\n' cs).map (inSpans spans) := by
  rw [← splitLines_id]
  exact (@map_splitLines Char Glyph id char (⟨·, spans⟩) (fun _ => rfl) cs).symm

theorem Glyph.wrapText_inSpans (room : Nat) (spans : List Nat) (cs : List Char) :
    wrapText char blank room (inSpans spans cs) = (linesFor room cs).map (inSpans spans) := by
  rw [← wrapText_id]
  exact (@map_wrapText Char Glyph id (fun _ => ' ') char blank (⟨·, spans⟩) (fun _ => rfl) (fun _ => rfl)
    room cs).symm

theorem Style.under_plain (style : Style) : style.under plain = style := by
  obtain ⟨switches, front, behind, link⟩ := style
  simp [under, plain]

namespace Styled

variable {text : Styled} {style : String}

theorem glyphs_inSpans {spans : List Nat} {cs : List Char} {first : Nat}
    (h : ∀ place, first ≤ place → place < first + cs.length → text.spansAt place = spans) :
    ((cs.zipIdx first).map fun (c, place) => (⟨c, text.spansAt place⟩ : Glyph)) =
      Glyph.inSpans spans cs := by
  induction cs generalizing first with
  | nil => rfl
  | cons c cs ih =>
    rw [List.length_cons] at h
    have hrest := @ih (first + 1) fun place hfirst hlast => h place (by omega) (by omega)
    rw [List.zipIdx_cons, List.map_cons, hrest]
    dsimp only
    rw [h first (Nat.le_refl first) (by omega)]
    rfl

theorem glyphs_single (h : text.spans = [⟨0, text.chars.length, style⟩]) :
    text.glyphs = Glyph.inSpans [0] text.chars := by
  refine glyphs_inSpans fun place _ hlast => ?_
  have hplace : place < text.chars.length := by omega
  simp [spansAt, h, hplace]

theorem paintLine_inSpans (console : Console) (spans : List Nat) (cs : List Char) :
    console.paintLine (text.segments console.theme (Glyph.inSpans spans cs)) =
      console.paint ⟨cs, text.styleOf console.theme spans⟩ := by
  rw [segments, Glyph.runs_inSpans]
  by_cases hnil : cs = []
  · rw [if_pos hnil, hnil]
    simp [Console.paintLine, Console.paint]
  · rw [if_neg hnil]
    exact List.append_nil _

theorem paintLine_prompted (console : Console) (cs : List Char) :
    console.paintLine (text.segments console.theme (⟨'$', [0]⟩ :: ⟨' ', []⟩ :: Glyph.inSpans [1] cs)) =
      console.paint ⟨['$'], text.styleOf console.theme [0]⟩ ++
        ' ' :: console.paint ⟨cs, text.styleOf console.theme [1]⟩ := by
  have hspace : console.paint ⟨[' '], text.styleOf console.theme []⟩ = [' '] := by
    unfold Console.paint
    exact if_pos (by simp [styleOf, Style.codes, Style.plain, Style.switch?])
  have hcons (glyph next : Glyph) (rest : List Glyph) (h : next.spans ≠ glyph.spans) :
      console.paintLine (text.segments console.theme (glyph :: next :: rest)) =
        console.paint ⟨[glyph.char], text.styleOf console.theme glyph.spans⟩ ++
          console.paintLine (text.segments console.theme (next :: rest)) := by
    rw [segments, Glyph.runs_cons_of_ne h]
    rfl
  -- The space ends a run of its own, at the end of the line or at the first character in the second stretch.
  cases cs with
  | nil =>
    have hnone : console.paint ⟨[], text.styleOf console.theme [1]⟩ = [] := by simp [Console.paint]
    have hlast := @paintLine_inSpans text console [] [' ']
    rw [hcons _ _ _ (by decide), hnone]
    exact congrArg _ (hlast.trans hspace)
  | cons c cs =>
    have hlast := @paintLine_inSpans text console [1] (c :: cs)
    rw [hcons _ _ _ (by decide), ← hlast]
    exact congrArg _ ((hcons _ _ _ (by simp)).trans (congrArg (· ++ _) hspace))

end Styled

/-! ## What a console writes -/

namespace Console

/-- Characters as they are written in a style that is named. -/
def paintIn (console : Console) (style : String) (cs : List Char) : List Char :=
  console.paint ⟨cs, Style.named console.theme style⟩

variable (console : Console)

theorem plainText_eq (style text : String) :
    console.plainText style text = if console.width = 0 then []
      else setOff ((linesFor console.width (shownChars text.toList)).map (console.paintIn style)) := by
  have hglyphs : Glyph.ofChars (shownChars text.toList) = Glyph.inSpans [] (shownChars text.toList) := rfl
  have hchars (cs : List Char) : (Glyph.inSpans [] cs).map Glyph.char = cs := by
    rw [Glyph.inSpans, List.map_map]
    exact List.map_id _
  unfold plainText
  dsimp only
  rw [hglyphs, Glyph.wrapText_inSpans, List.map_map]
  simp only [Function.comp_def, hchars]
  rfl

theorem markedText_single [Handlers] {markup style : String} {text : Styled} (hread : readMarkup markup = .ok text)
    (hspans : text.spans = [⟨0, text.chars.length, style⟩]) (hsound : ∀ span ∈ text.spans, Sound span.style) :
    console.markedText markup = .ok (if console.width = 0 then []
      else ended ((linesFor console.width text.chars).map (console.paintIn style))) := by
  have hstyle : text.styleOf console.theme [0] = Style.named console.theme style := by
    simp [Styled.styleOf, hspans, Style.under_plain]
  have hlines : (console.wrapped console.width text).map console.paintLine =
      (linesFor console.width text.chars).map (console.paintIn style) := by
    rw [wrapped, Styled.glyphs_single hspans, Glyph.wrapText_inSpans, List.map_map, List.map_map]
    refine List.map_congr_left fun line _ => ?_
    rw [Function.comp_apply, Function.comp_apply, Styled.paintLine_inSpans, hstyle]
    rfl
  rw [markedText_eq hread hsound, hlines]

theorem unwrappedText_prompted [Handlers] {markup first last : String} {text : Styled} {cs : List Char}
    (hread : readMarkup markup = .ok text) (hchars : text.chars = '$' :: ' ' :: cs)
    (hspans : text.spans = [⟨0, 1, first⟩, ⟨2, text.chars.length, last⟩])
    (hsound : ∀ span ∈ text.spans, Sound span.style) :
    console.unwrappedText markup = .ok (if console.width = 0 then []
      else console.paintIn first ['$'] ++ ' ' :: ended ((pieceChars '\n' cs).map (console.paintIn last))) := by
  have hfirst : text.styleOf console.theme [0] = Style.named console.theme first := by
    simp [Styled.styleOf, hspans, Style.under_plain]
  have hlast : text.styleOf console.theme [1] = Style.named console.theme last := by
    simp [Styled.styleOf, hspans, Style.under_plain]
  have hglyphs : text.glyphs = ⟨'$', [0]⟩ :: ⟨' ', []⟩ :: Glyph.inSpans [1] cs := by
    have hrest := @Styled.glyphs_inSpans text [1] cs 2 fun place hlow hhigh => by
      have hplace : place < cs.length + 1 + 1 := by omega
      have hnot : ¬place < 1 := by omega
      simp [Styled.spansAt, hspans, hchars, hplace, hlow, hnot]
    rw [Styled.glyphs, hchars, List.zipIdx_cons, List.zipIdx_cons, List.map_cons, List.map_cons, hrest]
    simp [Styled.spansAt, hspans]
  have hlines : ended ((splitLines Glyph.char text.glyphs).map fun line =>
      console.paintLine (text.segments console.theme line)) =
        console.paintIn first ['$'] ++ ' ' :: ended ((pieceChars '\n' cs).map (console.paintIn last)) := by
    have hline (line : List Char) :
        console.paintLine (text.segments console.theme (Glyph.inSpans [1] line)) = console.paintIn last line := by
      rw [Styled.paintLine_inSpans, hlast]
      rfl
    -- The prompt is in front of the first piece only.
    obtain ⟨piece, pieces, hpieces⟩ := List.exists_cons_of_ne_nil (pieceChars_ne_nil '\n' cs)
    have hmore : pieces.map ((fun line => console.paintLine (text.segments console.theme line)) ∘
        Glyph.inSpans [1]) = pieces.map (console.paintIn last) := List.map_congr_left fun line _ => hline line
    rw [hglyphs, splitLines, if_neg (by decide), splitLines, if_neg (by decide), Glyph.splitLines_inSpans,
      hpieces, List.map_cons]
    dsimp only
    rw [List.map_cons, Styled.paintLine_prompted, hfirst, hlast, List.map_map, hmore]
    simp only [ended, paintIn, List.map_cons, List.flatMap_cons, List.append_assoc, List.cons_append]
  rw [unwrappedText_eq hread hsound, hlines]

/-! ## Cells of styled lines -/

/-- The styles of what is shown of commands. -/
def commandStyles : List String :=
  ["accent", "none", "shell", "stderr", "success", "error"]

theorem wearable_named (theme : Theme) {style : String} (h : style ∈ commandStyles) :
    Wearable (Style.named theme style) := by
  have hall : ∀ style ∈ commandStyles, 'm' ∉ (join ";" (Style.named theme style).codes).toList ∧
      (join ";" (Style.named theme style).codes).toList ≠ ['0'] := by
    cases theme <;> decide +kernel
  exact hall style h

/-- Characters in a style, where line feeds are in none. -/
def inStyle (style : String) (cs : List Char) : List Cell :=
  cs.map fun c => ⟨c, if c = '\n' then [] else console.worn (Style.named console.theme style)⟩

theorem inStyle_append (style : String) (cs more : List Char) :
    console.inStyle style (cs ++ more) = console.inStyle style cs ++ console.inStyle style more :=
  List.map_append

theorem inStyle_none (cs : List Char) : console.inStyle "none" cs = cs.map (⟨·, []⟩) := by
  have hnone : (Style.named console.theme "none").codes = [] := by
    cases console.theme <;> decide +kernel
  refine List.map_congr_left fun c _ => ?_
  simp [worn, hnone]

variable {console} {style : String} (hstyle : style ∈ commandStyles)

include hstyle

theorem shownAs_paintIn {cs : List Char} (hcs : '\x1b' ∉ cs) (hline : '\n' ∉ cs) :
    ShownAs (console.paintIn style cs) (console.inStyle style cs) := by
  have hrow : console.inStyle style cs = cs.map (⟨·, console.worn (Style.named console.theme style)⟩) := by
    refine List.map_congr_left fun c hc => ?_
    rw [if_neg]
    rintro rfl
    exact hline hc
  rw [hrow]
  exact console.shownAs_paint (wearable_named console.theme hstyle) hcs

theorem shownAs_setOff {lines : List (List Char)} (h : ∀ line ∈ lines, '\x1b' ∉ line ∧ '\n' ∉ line) :
    ShownAs (setOff (lines.map (console.paintIn style))) (console.inStyle style (setOff lines)) := by
  induction lines with
  | nil => exact shownAs_nil
  | cons line rest ih =>
    obtain ⟨hcs, hline⟩ := h line List.mem_cons_self
    have hfirst : ShownAs (console.paintIn style line) (console.inStyle style line) :=
      shownAs_paintIn hstyle hcs hline
    have hrest := ih fun line hmem => h line (List.mem_cons_of_mem _ hmem)
    cases rest with
    | nil => exact hfirst
    | cons next more =>
      have hfeed : ShownAs ['\n'] (console.inStyle style ['\n']) := shownAs_chars (by decide)
      have hboth := hfirst.append (hfeed.append hrest)
      rw [← inStyle_append, ← inStyle_append] at hboth
      exact hboth

theorem shownAs_ended {lines : List (List Char)} (hne : lines ≠ [])
    (h : ∀ line ∈ lines, '\x1b' ∉ line ∧ '\n' ∉ line) :
    ShownAs (ended (lines.map (console.paintIn style))) (console.inStyle style (ended lines)) := by
  have hfeed : ShownAs ['\n'] (console.inStyle style ['\n']) := shownAs_chars (by decide)
  rw [ended_eq_setOff hne, ended_eq_setOff (mt List.map_eq_nil_iff.1 hne), inStyle_append]
  exact (shownAs_setOff hstyle h).append hfeed

theorem shownAs_ended_pieceChars {cs : List Char} (h : '\x1b' ∉ cs) :
    ShownAs (ended ((pieceChars '\n' cs).map (console.paintIn style))) (console.inStyle style (cs ++ ['\n'])) := by
  have hpieces : ∀ piece ∈ pieceChars '\n' cs, '\x1b' ∉ piece ∧ '\n' ∉ piece := by
    intro piece hpiece
    constructor
    · intro hmem
      exact h (mem_of_mem_pieceChars hpiece hmem).1
    · intro hmem
      exact (mem_of_mem_pieceChars hpiece hmem).2 rfl
  have hended : ended (pieceChars '\n' cs) = cs ++ ['\n'] := by
    rw [ended_eq_setOff (pieceChars_ne_nil '\n' cs), setOff_pieceChars]
  rw [← hended]
  exact shownAs_ended hstyle (pieceChars_ne_nil '\n' cs) hpieces

end Console

/-! ## Commands -/

/-- What is shown of a text that was escaped: it is split before the backslashes at its end, of which `ending`
shows some, perhaps with what follows them. -/
def ShownEscaped (ending : Nat → List Char) (cs shown : List Char) : Prop :=
  ∃ front count, cs = front ++ slashes count ∧ Guarded front ∧
    shown = shownChars (unslashed front ++ ending count)

section Clean

variable {ending : Nat → List Char} {cs shown : List Char}

theorem ShownEscaped.notMem (h : ShownEscaped ending cs shown) (hending : ∀ count, '\x1b' ∉ ending count)
    (hcs : '\x1b' ∉ cs) : '\x1b' ∉ shown := by
  obtain ⟨front, count, rfl, -, rfl⟩ := h
  intro hmem
  rcases List.mem_append.1 (List.mem_filter.1 hmem).1 with hmem | hmem
  · exact hcs (List.mem_append_left _ ((unslashed_sublist front).subset hmem))
  · exact hending count hmem

/-- A text is shown as it is if no backslash in it stands at its end or in front of a bracket that begins no
tag. -/
theorem ShownEscaped.eq_self (h : ShownEscaped ending cs shown) (hending : ending 0 = []) (hcs : Guarded cs)
    (hloose : ¬Loose cs) : shown = shownChars cs := by
  obtain ⟨front, count, rfl, -, rfl⟩ := h
  have hnone : count = 0 := by
    by_contra hne
    refine hcs ?_
    simp [slashes, List.getLast?_append, List.getLast?_replicate, hne]
  subst hnone
  rw [loose_append_slashes] at hloose
  rw [unslashed_of_not_loose hloose, hending]
  rfl

theorem notMem_slashes {c : Char} (h : c ≠ '\\') (count : Nat) : c ∉ slashes count := by
  intro hmem
  exact h (List.mem_replicate.1 hmem).2

theorem notMem_endRead {c : Char} {closing : List Char} (hc : c ≠ '\\') (h : c ∉ closing) (count : Nat) :
    c ∉ endRead closing count := by
  intro hmem
  rcases List.mem_append.1 hmem with hmem | hmem
  · exact notMem_slashes hc _ hmem
  · split at hmem
    · exact h hmem
    · cases hmem

/-- Wrapping adds nothing but blanks. -/
theorem notMem_of_mem_linesFor (room : Nat) (h : '\x1b' ∉ cs) :
    ∀ line ∈ linesFor room cs, '\x1b' ∉ line ∧ '\n' ∉ line := by
  intro line hline
  obtain ⟨piece, hpiece, hline⟩ := List.mem_flatMap.1 hline
  constructor
  · intro hmem
    rcases mem_wrapLine hline hmem with hmem | he
    · exact h (mem_of_mem_pieceChars hpiece hmem).1
    · cases he
  · intro hmem
    rcases mem_wrapLine hline hmem with hmem | he
    · exact (mem_of_mem_pieceChars hpiece hmem).2 rfl
    · cases he

end Clean

/-- **The line of a command** stands in its own style, from the first of its characters to the last. -/
theorem showLine_cells [Handlers] (console : Console) (line : String) :
    ∃ written shown, showLine console line = .ok written ∧
      ShownEscaped (endRead (closingTag "shell")) line.toList shown ∧
      ('\x1b' ∉ line.toList → cells written = if console.width = 0 then [] else
        console.inStyle "accent" ['$'] ++ console.inStyle "none" [' '] ++
          console.inStyle "shell" (shown ++ ['\n'])) := by
  obtain ⟨front, count, hline, hfront⟩ := exists_guarded line.toList
  obtain ⟨text, hread, hspans⟩ := spans_line line
  have hchars : text.chars = '$' :: ' ' :: shownChars (unslashed front ++ endRead (closingTag "shell") count) := by
    rw [readMarkup_chars hread, readChars_line hfront count hline, shownChars_append]
    rfl
  have hshown : ShownEscaped (endRead (closingTag "shell")) line.toList
      (shownChars (unslashed front ++ endRead (closingTag "shell") count)) := ⟨front, count, hline, hfront, rfl⟩
  have hsound := sound_of_readMarkup hread (sound_line line)
  refine ⟨_, _, console.unwrappedText_prompted hread hchars hspans hsound, hshown, fun hclean => ?_⟩
  generalize shownChars (unslashed front ++ endRead (closingTag "shell") count) = shown at hshown
  by_cases hzero : console.width = 0
  · rw [if_pos hzero, if_pos hzero]
    rfl
  · have hclean := hshown.notMem (notMem_endRead (by decide) (by decide)) hclean
    have hprompt : ShownAs (console.paintIn "accent" ['$']) (console.inStyle "accent" ['$']) :=
      Console.shownAs_paintIn (by decide) (by decide) (by decide)
    have hspace : ShownAs [' '] (console.inStyle "none" [' ']) := by
      rw [Console.inStyle_none]
      exact shownAs_chars (by decide)
    have hshell : ShownAs _ (console.inStyle "shell" (shown ++ ['\n'])) :=
      Console.shownAs_ended_pieceChars (by decide) hclean
    rw [if_neg hzero, if_neg hzero, List.append_assoc]
    exact (hprompt.append (hspace.append hshell)).cells_eq

theorem setOff_linesFor_nil (room : Nat) : Console.setOff (linesFor room []) = [] := by
  have hwidth : width [] = 0 := rfl
  simp [linesFor, pieceChars, wrapLine, breaks, words, wordsWithin, breaksFrom, cutAt, trimBeyond, truncate,
    Console.setOff, hwidth]

theorem shownAs_showStream (console : Console) {style : String} (hstyle : style ∈ Console.commandStyles)
    {output : String} (h : '\x1b' ∉ output.toList) :
    ShownAs (showStream console style output) (if console.width = 0 then [] else
      console.inStyle style (Console.setOff (linesFor console.width (shownChars output.toList)))) := by
  have hclean : '\x1b' ∉ shownChars output.toList := fun hmem => h (List.mem_filter.1 hmem).1
  have hshown : ShownAs _ (console.inStyle style _) :=
    Console.shownAs_setOff hstyle (notMem_of_mem_linesFor console.width hclean)
  unfold showStream
  rw [Console.plainText_eq]
  by_cases hzero : console.width = 0
  · rw [if_pos hzero, if_pos hzero, ite_self]
    exact shownAs_nil
  · rw [if_neg hzero, if_neg hzero]
    split
    · next hempty =>
      have hnone : shownChars output.toList = [] := by
        rw [hempty]
        rfl
      rw [hnone, setOff_linesFor_nil]
      exact shownAs_nil
    · exact hshown

theorem statusTag_mem (status : Int) : statusTag status ∈ Console.commandStyles := by
  unfold statusTag
  split <;> decide

/-- **How a command ended** stands in one style with the name of the command. -/
theorem shownAs_statusLine [Handlers] (console : Console) (name : String) (status : Int) :
    ∃ written shown, console.markedText (statusLine name status) = .ok written ∧
      ShownEscaped (fun count => slashes (endSlashes count)) name.toList shown ∧
      ('\x1b' ∉ name.toList → ShownAs written (if console.width = 0 then [] else
        console.inStyle (statusTag status)
          (Console.ended (linesFor console.width (endingChars shown status))))) := by
  obtain ⟨front, count, hname, hfront⟩ := exists_guarded name.toList
  obtain ⟨text, hread, hspans⟩ := spans_statusLine name status
  have hchars : text.chars = endingChars (shownChars (unslashed front ++ slashes (endSlashes count))) status := by
    rw [readMarkup_chars hread, readChars_statusLine hfront hname, shownChars_endingChars]
  have hshown : ShownEscaped (fun count => slashes (endSlashes count)) name.toList
      (shownChars (unslashed front ++ slashes (endSlashes count))) := ⟨front, count, hname, hfront, rfl⟩
  have hsound := sound_of_readMarkup hread (sound_statusLine name status)
  refine ⟨_, _, console.markedText_single hread hspans hsound, hshown, fun hclean => ?_⟩
  rw [hchars]
  by_cases hzero : console.width = 0
  · rw [if_pos hzero, if_pos hzero]
    exact shownAs_nil
  · have hslashes (count : Nat) : '\x1b' ∉ slashes (endSlashes count) := notMem_slashes (by decide) _
    have hending := notMem_endingChars (by decide) (hshown.notMem hslashes hclean) status
    rw [if_neg hzero, if_neg hzero]
    exact Console.shownAs_ended (statusTag_mem status) (linesFor_ne_nil _ _)
      (notMem_of_mem_linesFor console.width hending)

end Invocation.Display

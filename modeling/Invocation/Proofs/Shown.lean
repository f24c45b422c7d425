import Invocation.Proofs.Legible
import Invocation.Proofs.Unescaped
import Invocation.Proofs.Wrapped

/-!
# What a plain console writes

A console without colours writes the characters of a text and nothing else. So a text with tags is written as
it is read, in its own lines (`unwrappedText_plain`) or in lines for the width (`markedText_plain`).

The line of a command is escaped before it is shown. Escaping guards tags, not the other brackets, and at the
end of the line the closing tag takes backslashes for its own. So the line is shown as it is exactly if it
reads back (`showLine_verbatim`).
-/

namespace Invocation.Display

open Invocation.Text

/-! ## Characters that are shown -/

/-- Every character of a text is shown. -/
def Shown (cs : List Char) : Prop :=
  ∀ c ∈ cs, isActed c = false

instance : DecidablePred Shown :=
  fun cs => List.decidableBAll _ cs

section Shown

variable {cs more : List Char}

theorem Shown.mono (h : Shown more) (hsub : cs ⊆ more) : Shown cs :=
  fun c hc => h c (hsub hc)

theorem Shown.append (h : Shown cs) (hmore : Shown more) : Shown (cs ++ more) := by
  intro c hc
  rcases List.mem_append.1 hc with hc | hc
  · exact h c hc
  · exact hmore c hc

theorem shown_slashes (count : Nat) : Shown (slashes count) := by
  intro c hc
  rw [(List.mem_replicate.1 hc).2]
  decide

theorem shownChars_of_shown (h : Shown cs) : shownChars cs = cs :=
  List.filter_eq_self.2 fun c hc => by simp [h c hc]

theorem shownChars_append (cs more : List Char) :
    shownChars (cs ++ more) = shownChars cs ++ shownChars more :=
  List.filter_append ..

theorem Shown.unslashed (h : Shown (cs ++ more)) : Shown (unslashed cs) :=
  fun c hc => h c (List.mem_append_left more ((unslashed_sublist cs).subset hc))

theorem shown_endRead {closing : List Char} (h : Shown closing) (count : Nat) :
    Shown (endRead closing count) := by
  refine (shown_slashes _).append ?_
  split
  · exact h
  · exact fun c hc => absurd hc List.not_mem_nil

end Shown

/-- A text that can be read is read as its characters, if all of them are shown. -/
theorem exists_readMarkup [Handlers] {s : String} (h : Readable s) (hshown : Shown (readChars (tokens s.toList))) :
    ∃ text, readMarkup s = .ok text ∧ text.chars = readChars (tokens s.toList) := by
  obtain ⟨text, hread⟩ := exists_read_of_readable h
  exact ⟨text, hread, (readMarkup_chars hread).trans (shownChars_of_shown hshown)⟩

/-! ## Segments -/

theorem Glyph.chars_runs (line : List Glyph) : (runs line).flatMap (·.2) = line.map char := by
  induction line with
  | nil => rfl
  | cons glyph rest ih =>
    rw [runs, List.map_cons, ← ih]
    split
    · next spans cs more hruns =>
      rw [hruns]
      split <;> rfl
    · next hruns =>
      rw [hruns]
      rfl

theorem Glyph.chars_wrapText (room : Nat) (text : List Glyph) :
    (wrapText char blank room text).map (List.map char) = linesFor room (text.map char) := by
  rw [← wrapText_id]
  exact @map_wrapText Glyph Char char blank id (fun _ => ' ') char (fun _ => rfl) (fun _ => rfl) room text

namespace Styled

theorem chars_segments (theme : Theme) (text : Styled) (line : List Glyph) :
    (text.segments theme line).flatMap Segment.chars = line.map Glyph.char := by
  rw [segments, List.flatMap_map]
  exact Glyph.chars_runs line

theorem chars_glyphs (text : Styled) : text.glyphs.map Glyph.char = text.chars := by
  rw [glyphs, List.map_map]
  exact List.zipIdx_map_fst 0 text.chars

end Styled

namespace Console

/-- The segments of a wrapped text have the characters of its lines. -/
theorem chars_wrapped (console : Console) (room : Nat) (text : Styled) :
    (console.wrapped room text).map (·.flatMap Segment.chars) = linesFor room text.chars := by
  rw [wrapped, List.map_map, ← text.chars_glyphs, ← Glyph.chars_wrapText]
  exact List.map_congr_left fun line _ => text.chars_segments console.theme line

section Plain

variable {console : Console}

theorem paint_plain (hplain : console.colour = false) (segment : Segment) :
    console.paint segment = segment.chars := by
  unfold paint
  rw [hplain]
  rfl

theorem paintLine_plain (hplain : console.colour = false) (line : List Segment) :
    console.paintLine line = line.flatMap Segment.chars :=
  List.flatMap_congr fun segment _ => paint_plain hplain segment

/-- A text with tags is written as it is read. -/
theorem unwrappedText_plain [Handlers] (hplain : console.colour = false) {markup : String} {text : Styled}
    (h : readMarkup markup = .ok text) (hsound : ∀ span ∈ text.spans, Sound span.style) :
    console.unwrappedText markup = .ok (if console.width = 0 then [] else text.chars ++ ['\n']) := by
  have hlines : (splitLines Glyph.char text.glyphs).map
      (fun line => console.paintLine (text.segments console.theme line)) = pieceChars '\n' text.chars := by
    have hchar (glyph : Glyph) : id glyph.char = glyph.char := rfl
    rw [← text.chars_glyphs, ← splitLines_id, ← map_splitLines hchar]
    exact List.map_congr_left fun line _ =>
      (paintLine_plain hplain _).trans (text.chars_segments console.theme line)
  have hended : ended (pieceChars '\n' text.chars) = text.chars ++ ['\n'] := by
    rw [ended_eq_setOff (pieceChars_ne_nil '\n' text.chars), setOff_pieceChars]
  rw [unwrappedText_eq h hsound, hlines, hended]

/-- A text with tags is written as it is read, in lines for the width. -/
theorem markedText_plain [Handlers] (hplain : console.colour = false) {markup : String} {text : Styled}
    (h : readMarkup markup = .ok text) (hsound : ∀ span ∈ text.spans, Sound span.style) :
    console.markedText markup =
      .ok (if console.width = 0 then [] else ended (linesFor console.width text.chars)) := by
  have hlines : (console.wrapped console.width text).map console.paintLine =
      linesFor console.width text.chars := by
    rw [← chars_wrapped]
    exact List.map_congr_left fun line _ => paintLine_plain hplain line
  rw [markedText_eq h hsound, hlines]

/-- A text in one style is written in lines for the width. -/
theorem plainText_plain (hplain : console.colour = false) (style text : String) :
    console.plainText style text =
      if console.width = 0 then [] else setOff (linesFor console.width (shownChars text.toList)) := by
  have hchars : (Glyph.ofChars (shownChars text.toList)).map Glyph.char = shownChars text.toList := by
    rw [Glyph.ofChars, List.map_map]
    exact List.map_id _
  unfold plainText
  dsimp only
  simp only [paint_plain hplain]
  rw [Glyph.chars_wrapText, hchars]

end Plain

end Console

/-! ## Lines of commands -/

/-- The line of a command is read as it was escaped, after the prompt. -/
theorem readChars_line {front : List Char} (hfront : Guarded front) (count : Nat) {line : String}
    (hline : line.toList = front ++ slashes count) :
    readChars (tokens ("[accent]$[/accent] [shell]" ++ escape line ++ "[/shell]").toList) =
      "$ ".toList ++ (unslashed front ++ endRead (closingTag "shell") count) := by
  have hprompt := readChars_element isTagName_accent (show Literal ['$'] by decide)
    (show Guarded [] by simp [Guarded]) 0
  have hspace := readChars_literal (show Literal [' '] by decide)
  have hshell := readChars_element isTagName_shell literal_nil hfront count []
  have hwhole := (hprompt _).trans (congrArg _ ((hspace _).trans (congrArg _ hshell)))
  have hnone : slashes 0 = [] := rfl
  have hread : readChars (tokens []) = [] := rfl
  have hend : ['$'] ++ unslashed [] ++ endRead (closingTag "accent") 0 = ['$'] := rfl
  rw [hend, hread, ← hline] at hwhole
  simp only [List.nil_append, List.append_nil, List.append_assoc, List.cons_append] at hwhole
  rw [toList_line, hnone]
  simp only [List.nil_append, List.cons_append]
  exact hwhole

section Lines

variable [Handlers] {console : Console}

/-- A line is shown after a prompt as it is read: without the backslashes in front of brackets that begin no
tag, and at its end with half the backslashes if there are more than one, where after an odd number of them
the closing tag is shown as well. -/
theorem showLine_plain (hplain : console.colour = false) {line : String}
    {front : List Char} {count : Nat} (hline : line.toList = front ++ slashes count) (hfront : Guarded front)
    (hshown : Shown line.toList) :
    showLine console line = .ok (if console.width = 0 then [] else
      "$ ".toList ++ (unslashed front ++ endRead (closingTag "shell") count) ++ ['\n']) := by
  have hchars := readChars_line hfront count hline
  have hread : Shown ("$ ".toList ++ (unslashed front ++ endRead (closingTag "shell") count)) := by
    rw [hline] at hshown
    exact (show Shown "$ ".toList by decide).append
      (hshown.unslashed.append (shown_endRead (show Shown (closingTag "shell") by decide) count))
  rw [← hchars] at hread
  obtain ⟨text, htext, hwritten⟩ := exists_readMarkup (readable_line line) hread
  have hshow := Console.unwrappedText_plain hplain htext (sound_of_readMarkup htext (sound_line line))
  rwa [hwritten, hchars] at hshow

/-- **The line of a command is shown** on a plain console as it is exactly if it reads back: no backslash in
it stands in front of a bracket that begins no tag, and at its end there is at most one. -/
theorem showLine_verbatim (hplain : console.colour = false) (command : Command)
    (s : Settings) (hshown : Shown (command.lineUnder s).toList) :
    (∃ front count, (command.lineUnder s).toList = front ++ slashes count ∧ Guarded front ∧
      showLine console (command.lineUnder s) = .ok (if console.width = 0 then [] else
        "$ ".toList ++ (unslashed front ++ endRead (closingTag "shell") count) ++ ['\n'])) ∧
    (showLine console (command.lineUnder s) = .ok ("$ ".toList ++ (command.lineUnder s).toList ++ ['\n']) ↔
      0 < console.width ∧ ReadsBack (command.lineUnder s).toList) := by
  obtain ⟨front, count, hline, hfront⟩ := exists_guarded (command.lineUnder s).toList
  have hshow := showLine_plain hplain hline hfront hshown
  refine ⟨⟨front, count, hline, hfront, hshow⟩, ?_⟩
  have hverbatim : _ ↔ ReadsBack (front ++ slashes count) :=
    read_eq_iff (show weight (closingTag "shell") = 1 by decide) hfront
  rw [hshow, hline, ← hverbatim]
  by_cases hzero : console.width = 0
  · rw [if_pos hzero]
    constructor
    · intro he
      have hnil := Except.ok.inj he
      simp at hnil
    · rintro ⟨hpos, -⟩
      exact absurd hzero (Nat.ne_of_gt hpos)
  · rw [if_neg hzero, Except.ok.injEq, List.append_left_inj, List.append_right_inj]
    exact ⟨fun he => ⟨Nat.pos_of_ne_zero hzero, he⟩, And.right⟩

end Lines

/-- A console of eighty columns without colours. -/
def plainConsole : Console :=
  ⟨80, false, .light⟩

/-- A command with an argument, as it is made. -/
def argumentCommand (base argument : String) : Command where
  id := ⟨0⟩
  base := base
  args := [argument]
  options := .none
  verbosity := Verbosity.info
  raises := true
  config := some Settings.defaults

theorem showLine_verbatim_range :
    showLine plainConsole ((argumentCommand "grep" "\\[a-z]").lineUnder Settings.defaults) =
      .ok "$ /usr/bin/env grep \\[a-z]\n".toList := by
  have hline : (argumentCommand "grep" "\\[a-z]").lineUnder Settings.defaults =
      "/usr/bin/env grep \\[a-z]" := by decide +kernel
  obtain ⟨-, hverbatim⟩ := showLine_verbatim (show plainConsole.colour = false from rfl)
    (argumentCommand "grep" "\\[a-z]") Settings.defaults (by decide +kernel)
  rw [hverbatim.2 ⟨by decide, by decide +kernel⟩, hline]
  decide +kernel

/-- A backslash in front of a bracket that begins no tag is not shown. -/
theorem showLine_bracket :
    let line := (argumentCommand "grep" "\\[0-9]").lineUnder Settings.defaults
    showLine plainConsole line ≠ .ok ("$ ".toList ++ line.toList ++ ['\n']) := by
  have hline : (argumentCommand "grep" "\\[0-9]").lineUnder Settings.defaults =
      "/usr/bin/env grep \\[0-9]" := by decide +kernel
  have hfront : "/usr/bin/env grep \\[0-9]".toList = "/usr/bin/env grep \\[0-9]".toList ++ slashes 0 := rfl
  have hshow := showLine_plain (show plainConsole.colour = false from rfl) hfront
    (show _ ≠ _ by decide +kernel) (by decide +kernel)
  dsimp only
  rw [hline, hshow, if_neg (by decide)]
  decide +kernel

end Invocation.Display

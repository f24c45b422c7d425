import Invocation.Proofs.Numeral
import Invocation.Proofs.Shown

/-!
# Outputs that are shown

What a command wrote is shown by a console that wraps. Each output is shown as it was written exactly if every
line of it is kept, and else only blanks are lost (`showStream_eq_iff`, `solid_showStream`). The name of a
command in front of its status is escaped: a backslash in front of a bracket that begins no tag is lost, and a
single one at the end of the name is doubled (`showOutput_verbatim`).
-/

namespace Invocation.Display

open Invocation.Number Invocation.Text

/-! ## Streams -/

section Streams

variable {console : Console} {output : String}

theorem showStream_plain (hplain : console.colour = false) (style : String) (hshown : Shown output.toList) :
    showStream console style output = if output = "" ∨ console.width = 0 then []
      else Console.setOff (linesFor console.width output.toList) := by
  unfold showStream
  rw [Console.plainText_plain hplain, shownChars_of_shown hshown]
  by_cases hempty : output = ""
  · rw [if_pos hempty, if_pos (.inl hempty)]
  · by_cases hzero : console.width = 0 <;> simp [hempty, hzero]

/-- An output is shown as it was written exactly if its lines are kept. -/
theorem showStream_eq_iff (hplain : console.colour = false) (style : String) (hshown : Shown output.toList) :
    showStream console style output = output.toList ↔
      output = "" ∨ 0 < console.width ∧ ∀ line ∈ pieceChars '\n' output.toList, Kept console.width line := by
  rw [showStream_plain hplain style hshown]
  by_cases hempty : output = ""
  · rw [if_pos (.inl hempty), hempty]
    exact ⟨fun _ => .inl rfl, fun _ => rfl⟩
  · by_cases hzero : console.width = 0
    · rw [if_pos (.inr hzero)]
      constructor
      · intro hnil
        exact absurd (String.toList_eq_nil_iff.1 hnil.symm) hempty
      · rintro (he | ⟨hpos, -⟩)
        · exact absurd he hempty
        · exact absurd hzero (Nat.ne_of_gt hpos)
    · rw [if_neg (not_or.2 ⟨hempty, hzero⟩), setOff_linesFor_iff]
      exact ⟨fun h => .inr ⟨Nat.pos_of_ne_zero hzero, h⟩, fun h => (h.resolve_left hempty).2⟩

/-- Nothing but blanks is lost of an output. -/
theorem solid_showStream (hplain : console.colour = false) (style : String) (hshown : Shown output.toList)
    (hroom : 2 ≤ console.width) (hsteady : Steady output.toList) :
    solid (showStream console style output) = solid output.toList := by
  rw [showStream_plain hplain style hshown]
  by_cases hempty : output = ""
  · rw [if_pos (.inl hempty), hempty]
    rfl
  · have hwidth : console.width ≠ 0 := by omega
    rw [if_neg (not_or.2 ⟨hempty, hwidth⟩), solid_setOff, solid_linesFor hroom hsteady]

end Streams

/-! ## Statuses -/

theorem isBlank_of_isDigit {c : Char} (h : c.isDigit = true) : isBlank c = false := by
  obtain ⟨hlow, hhigh⟩ := toNat_of_isDigit h
  simp only [isBlank]
  grind

theorem isActed_of_isDigit {c : Char} (h : c.isDigit = true) : isActed c = false := by
  obtain ⟨hlow, hhigh⟩ := toNat_of_isDigit h
  simp only [isActed, List.mem_cons, List.not_mem_nil, or_false, decide_eq_false_iff_not, not_or]
  omega

theorem mem_showInt {n : Int} {c : Char} (h : c ∈ (showInt n).toList) : c.isDigit = true ∨ c = '-' := by
  rw [showInt, String.toList_ofList] at h
  exact mem_intChars h

theorem endsSolid_showInt (n : Int) : EndsSolid (showInt n).toList := by
  have hdigits (n : Nat) : EndsSolid (natChars n) := by
    obtain ⟨c, cs, hcons, -⟩ := natChars_eq_cons n
    obtain ⟨front, d, hsplit⟩ := (List.eq_nil_or_concat' (natChars n)).resolve_left (by simp [hcons])
    refine ⟨front, d, hsplit, isBlank_of_isDigit (isDigit_of_mem_natChars (?_ : d ∈ natChars n))⟩
    rw [hsplit]
    exact List.mem_append_right front List.mem_cons_self
  rw [showInt, String.toList_ofList]
  cases n with
  | ofNat n => exact hdigits n
  | negSucc n => exact (hdigits (n + 1)).append ['-']

/-- How a command with some name ended. -/
def endingChars (name : List Char) (status : Int) : List Char :=
  (if status = 0 then successMark else errorMark).toList ++ ' ' ::
    (name ++ (" exited " ++ showInt status).toList)

section Endings

variable {front : List Char} {name : String} {status : Int}

/-- How a command ended is read with the name as it was escaped. -/
theorem readChars_statusLine (hfront : Guarded front) {count : Nat}
    (hname : name.toList = front ++ slashes count) (status : Int) :
    readChars (tokens (statusLine name status).toList) =
      endingChars (unslashed front ++ slashes (endSlashes count)) status := by
  have hne : (" exited " ++ showInt status).toList ≠ [] := by simp
  have hread : readChars (tokens []) = [] := rfl
  rw [toList_statusLine, hname, readChars_element_literal (isTagName_statusTag status)
    (literal_statusMark status) hfront count (literal_exited status) hne, hread, endingChars]
  simp only [List.append_assoc, List.cons_append, List.nil_append, List.append_nil]

/-- What stands after the name is shown. -/
theorem shown_exited (status : Int) : Shown (" exited " ++ showInt status).toList := by
  intro c hc
  rw [String.toList_append] at hc
  rcases List.mem_append.1 hc with hc | hc
  · exact (show Shown " exited ".toList by decide) c hc
  · rcases mem_showInt hc with hdigit | rfl
    · exact isActed_of_isDigit hdigit
    · decide

theorem shownChars_endingChars (name : List Char) (status : Int) :
    shownChars (endingChars name status) = endingChars (shownChars name) status := by
  have hmark : Shown (if status = 0 then successMark else errorMark).toList := by
    split <;> decide
  unfold endingChars
  rw [shownChars_append, shownChars_of_shown hmark, ← List.singleton_append, shownChars_append,
    shownChars_append, shownChars_of_shown (show Shown [' '] by decide),
    shownChars_of_shown (shown_exited status)]
  rfl

/-- A control stands in the end of a command only if it stands in its name. -/
theorem notMem_endingChars {c : Char} (hc : c.toNat < 32) {name : List Char} (h : c ∉ name) (status : Int) :
    c ∉ endingChars name status := by
  have hother (d : Char) (hd : 32 ≤ d.toNat) : c ≠ d := by
    rintro rfl
    omega
  have hmark : c ∉ (if status = 0 then successMark else errorMark).toList := by
    split
    · exact List.not_mem_cons_of_ne_of_not_mem (hother '✦' (by decide)) List.not_mem_nil
    · exact List.not_mem_cons_of_ne_of_not_mem (hother '✖' (by decide)) List.not_mem_nil
  have hexited : c ∉ (" exited " ++ showInt status).toList := by
    rw [String.toList_append, List.mem_append, not_or]
    constructor
    · intro hmem
      have hall : ∀ d ∈ " exited ".toList, 32 ≤ d.toNat := by simp
      exact hother c (hall c hmem) rfl
    · intro hmem
      rcases mem_showInt hmem with hdigit | rfl
      · have hlow := (toNat_of_isDigit hdigit).1
        omega
      · exact absurd hc (by decide)
  intro hmem
  rcases List.mem_append.1 hmem with hmem | hmem
  · exact hmark hmem
  · rcases List.mem_cons.1 hmem with he | hmem
    · exact hother ' ' (by decide) he
    · exact (List.mem_append.1 hmem).elim h hexited

theorem endsSolid_endingChars (name : List Char) (status : Int) : EndsSolid (endingChars name status) := by
  obtain ⟨front, c, hdigits, hc⟩ := endsSolid_showInt status
  refine ⟨(if status = 0 then successMark else errorMark).toList ++ ' ' ::
    (name ++ (" exited ".toList ++ front)), c, ?_, hc⟩
  rw [endingChars, String.toList_append, hdigits]
  simp only [List.append_assoc, List.cons_append]

/-- The name in front of a status stands for itself exactly if it is read as it is. -/
theorem endingChars_isPrefix_iff (hfront : Guarded front) (count : Nat) (status : Int) :
    endingChars (front ++ slashes count) status <+:
      endingChars (shownChars (unslashed front ++ slashes (endSlashes count))) status ↔
      Shown (front ++ slashes count) ∧ ¬Loose front ∧ count ≠ 1 := by
  have hafter : (" exited " ++ showInt status).toList = ' ' :: ("exited " ++ showInt status).toList := by
    rw [String.toList_append, String.toList_append]
    rfl
  unfold endingChars
  rw [List.prefix_append_right_inj, List.cons_prefix_cons]
  constructor
  · rintro ⟨-, hstart⟩
    have hshown : Shown (front ++ slashes count) := by
      intro c hc
      rcases List.mem_append.1 (hstart.subset (List.mem_append_left _ hc)) with hmem | hmem
      · simpa using (List.mem_filter.1 hmem).2
      · exact shown_exited status c hmem
    have hunslashed : Shown (unslashed front ++ slashes (endSlashes count)) :=
      hshown.unslashed.append (shown_slashes _)
    rw [shownChars_of_shown hunslashed] at hstart
    have hloose : ¬Loose front := by
      intro hloose
      have hlt : (unslashed front).length < front.length :=
        Nat.lt_of_le_of_ne (unslashed_sublist front).length_le fun he =>
          unslashed_eq_self_iff.1 ((unslashed_sublist front).eq_of_length he) hloose
      have hle := hstart.length_le
      simp only [List.length_append, slashes, List.length_replicate] at hle
      -- A backslash is lost, so that a single one must have been added at the end.
      have hone : count = 1 := by
        by_contra hne
        rw [endSlashes, if_neg hne] at hle
        omega
      subst hone
      have hend : endSlashes 1 = 2 := rfl
      rw [hend] at hstart hle
      have hsame := hstart.eq_of_length (by
        simp only [List.length_append, slashes, List.length_replicate]
        omega)
      have hname : front ++ ['\\'] = unslashed front ++ ['\\'] ++ ['\\'] := by
        rw [List.append_assoc (unslashed front)]
        exact List.append_cancel_right hsame
      refine hfront ?_
      rw [List.append_cancel_right hname]
      simp
    refine ⟨hshown, hloose, fun hone => ?_⟩
    -- The backslash that is added stands where a space follows the name.
    subst hone
    rw [unslashed_of_not_loose hloose, List.append_assoc, List.append_assoc, List.prefix_append_right_inj,
      hafter] at hstart
    cases (List.cons_prefix_cons.1 (List.cons_prefix_cons.1 hstart).2).1
  · rintro ⟨hshown, hloose, hone⟩
    rw [unslashed_of_not_loose hloose, endSlashes, if_neg hone, shownChars_of_shown hshown]
    exact ⟨rfl, List.prefix_refl _⟩

end Endings

/-! ## Outputs and statuses together -/

/-- An output as it is shown in some width. -/
structure OutputShown (width : Nat) (output : String) (shown : List Char) : Prop where
  written : shown = if output = "" ∨ width = 0 then [] else Console.setOff (linesFor width output.toList)
  /-- It is shown as it was written exactly if each line of it is kept. -/
  verbatim : shown = output.toList ↔
    output = "" ∨ 0 < width ∧ ∀ line ∈ pieceChars '\n' output.toList, Kept width line
  /-- A steady line is kept exactly if it is not wider than the console and no blanks at its end stand beyond
  as many characters. -/
  kept : Steady output.toList → ∀ line ∈ pieceChars '\n' output.toList,
    (Kept width line ↔ Text.width line ≤ width ∧ (line.length ≤ width ∨ EndsSolid line))
  /-- Nothing but blanks is lost where there is room for every character. -/
  solid : 2 ≤ width → Steady output.toList → solid shown = solid output.toList

/-- How a command ended, if it did, as it is shown in some width. -/
inductive StatusShown (width : Nat) (name : String) : Option Int → List Char → Prop
  | pending : StatusShown width name none []
  | complete {status : Int} {shown front : List Char} {count : Nat}
    (named : name.toList = front ++ slashes count) (guarded : Guarded front)
    (written : shown = if width = 0 then [] else Console.ended (linesFor width
      (endingChars (shownChars (unslashed front ++ slashes (endSlashes count))) status)))
    (verbatim : shown = endingChars name.toList status ++ ['\n'] ↔
      0 < width ∧ Shown name.toList ∧ ¬Loose name.toList ∧ count ≠ 1 ∧
        Kept width (endingChars name.toList status)) :
    StatusShown width name (some status) shown

theorem outputShown_showStream {console : Console} (hplain : console.colour = false) (style : String)
    {output : String} (hshown : Shown output.toList) :
    OutputShown console.width output (showStream console style output) where
  written := showStream_plain hplain style hshown
  verbatim := showStream_eq_iff hplain style hshown
  kept := fun hsteady _ hline => kept_iff (hsteady.mono fun _ hc => (mem_of_mem_pieceChars hline hc).1)
  solid := solid_showStream hplain style hshown

/-- How a command ended is shown with its name as it was escaped. -/
theorem statusShown_markedText [Handlers] {console : Console} (hplain : console.colour = false) {name : String}
    (hname : '\n' ∉ name.toList) (status : Int) :
    ∃ shown, console.markedText (statusLine name status) = .ok shown ∧
      StatusShown console.width name (some status) shown := by
  obtain ⟨front, count, hsplit, hfront⟩ := exists_guarded name.toList
  obtain ⟨text, hread⟩ := exists_read_of_readable (readable_statusLine name status)
  have hsound := sound_of_readMarkup hread (sound_statusLine name status)
  have hchars : text.chars =
      endingChars (shownChars (unslashed front ++ slashes (endSlashes count))) status := by
    rw [readMarkup_chars hread, readChars_statusLine hfront hsplit, shownChars_endingChars]
  refine ⟨_, Console.markedText_plain hplain hread hsound, ?_⟩
  rw [hchars]
  refine .complete hsplit hfront rfl ?_
  have hread : '\n' ∉ shownChars (unslashed front ++ slashes (endSlashes count)) := by
    intro hmem
    rcases List.mem_append.1 (List.mem_filter.1 hmem).1 with hmem | hmem
    · refine hname ?_
      rw [hsplit]
      exact List.mem_append_left _ ((unslashed_sublist front).subset hmem)
    · cases (List.mem_replicate.1 hmem).2
  -- Where the name is read as it is, it is the name that is wrapped.
  have hsame (hshown : Shown name.toList) (hloose : ¬Loose front) (hone : count ≠ 1) :
      shownChars (unslashed front ++ slashes (endSlashes count)) = name.toList := by
    rw [unslashed_of_not_loose hloose, endSlashes, if_neg hone, ← hsplit, shownChars_of_shown hshown]
  have hline := notMem_endingChars (by decide) hname status
  have hlooseName : Loose name.toList ↔ Loose front := by
    rw [hsplit, loose_append_slashes]
  rw [hlooseName]
  by_cases hzero : console.width = 0
  · rw [if_pos hzero]
    constructor
    · intro hnil
      simp at hnil
    · rintro ⟨hpos, -⟩
      exact absurd hzero (Nat.ne_of_gt hpos)
  · rw [if_neg hzero]
    constructor
    · intro hended
      obtain ⟨hkept, hstart⟩ := eq_of_ended_linesFor (notMem_endingChars (by decide) hread status) hline
        (endsSolid_endingChars name.toList status) hended
      have hiff := endingChars_isPrefix_iff hfront count status
      rw [← hsplit] at hiff
      obtain ⟨hshown, hloose, hone⟩ := hiff.1 hstart
      rw [hsame hshown hloose hone] at hkept
      exact ⟨Nat.pos_of_ne_zero hzero, hshown, hloose, hone, hkept⟩
    · rintro ⟨-, hshown, hloose, hone, hkept⟩
      rw [hsame hshown hloose hone, ended_linesFor_iff, pieceChars_single hline]
      intro line hmem
      rw [List.mem_singleton.1 hmem]
      exact hkept

/-- **The outputs of a command are shown** one after the other, and after them how it ended if it is complete.
The name of a command that was made is one line. Only a status of more than 4300 digits is not shown: there is
no text of it, and nothing is shown then. -/
theorem showOutput_verbatim [Handlers] {console : Console} (hplain : console.colour = false) (run : Run)
    (hstdout : Shown run.outcome.stdout.toList) (hstderr : Shown run.outcome.stderr.toList)
    (hname : '\n' ∉ run.command.base.toList) :
    ∃ stdout stderr status,
      (StatusWritable run.outcome → showOutput console run = .ok (stdout ++ stderr ++ status)) ∧
      (¬StatusWritable run.outcome → showOutput console run = .error (.integer .unwritable)) ∧
      OutputShown console.width run.outcome.stdout stdout ∧
      OutputShown console.width run.outcome.stderr stderr ∧
      StatusShown console.width run.command.base run.outcome.exitStatus status := by
  have hout := outputShown_showStream hplain "none" hstdout
  have herr := outputShown_showStream hplain "stderr" hstderr
  have hfault : ¬StatusWritable run.outcome → showOutput console run = .error (.integer .unwritable) :=
    showOutput_of_unwritable console
  cases hstatus : run.outcome.exitStatus with
  | none =>
    refine ⟨_, _, [], fun _ => ?_, hfault, hout, herr, .pending⟩
    unfold showOutput
    rw [hstatus, List.append_nil]
    rfl
  | some status =>
    obtain ⟨shown, hmarked, hshown⟩ := statusShown_markedText hplain hname status
    exact ⟨_, _, shown, fun h => showOutput_of_writable console h hstatus hmarked, hfault, hout, herr, hshown⟩

/-- A command without arguments and what came of it. -/
def endedRun (base stdout stderr : String) (status : Option Int) : Run where
  command :=
    { id := ⟨0⟩, base, args := [], options := .none, verbosity := Verbosity.info, raises := false,
      config := some Settings.defaults }
  outcome := { Outcome.pending with stdout, stderr, exitStatus := status }

theorem showOutput_verbatim_make :
    showOutput plainConsole (endedRun "make" "building\n" "warning: [deprecated]\n" (some 2)) =
      .ok "building\nwarning: [deprecated]\n✖ make exited 2\n".toList := by
  obtain ⟨stdout, stderr, status, hshow, -, hout, herr, hstatus⟩ :=
    showOutput_verbatim (show plainConsole.colour = false from rfl)
      (endedRun "make" "building\n" "warning: [deprecated]\n" (some 2)) (by decide) (by decide) (by decide)
  have hstatus : StatusShown 80 "make" (some 2) status := hstatus
  have hwritable : StatusWritable (endedRun "make" "building\n" "warning: [deprecated]\n" (some 2)).outcome :=
    (statusWritable_iff (show _ = some 2 from rfl)).2 rfl
  rw [hshow hwritable, hout.verbatim.2 (.inr ⟨by decide, by decide +kernel⟩),
    herr.verbatim.2 (.inr ⟨by decide, by decide +kernel⟩)]
  cases hstatus with
  | @complete _ _ front count named guarded written verbatim =>
    have hone : count ≠ 1 := by
      rintro rfl
      have hlast := congrArg List.getLast? named
      simp [slashes] at hlast
    rw [verbatim.2 ⟨by decide, by decide, by decide, hone, by decide +kernel⟩]
    decide +kernel

/-- A line that is wider than the console is broken, and the blanks at the break are lost. -/
theorem showOutput_wide :
    showOutput { plainConsole with width := 20 }
      (endedRun "m" "one two three four five six seven eight\n" "" none) ≠
      .ok "one two three four five six seven eight\n".toList := by
  have hshown : Shown "one two three four five six seven eight\n".toList := by decide +kernel
  have hstream := showStream_plain (show ({ plainConsole with width := 20 } : Console).colour = false from rfl)
    "none" hshown
  have hnone : showStream { plainConsole with width := 20 } "stderr" "" = [] := rfl
  have hshow : showOutput { plainConsole with width := 20 }
      (endedRun "m" "one two three four five six seven eight\n" "" none) =
      .ok (showStream { plainConsole with width := 20 } "none" "one two three four five six seven eight\n" ++
        showStream { plainConsole with width := 20 } "stderr" "") := rfl
  rw [hshow, hnone, hstream, if_neg (by decide)]
  decide +kernel

end Invocation.Display

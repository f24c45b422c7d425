import Invocation.Proofs.Outputs

/-!
# Stretches of escaped texts

Quiet tokens open and close nothing, so that an element with an escaped text in it is one stretch. Backslashes
at the end of the text may hide the closing tag; if the element is the last one it is open to the end, which is
the same stretch (`run_element_last`). The line of a command has the stretches of its prompt and of the line
(`spans_line`), and the end of a command has one (`spans_statusLine`).
-/

namespace Invocation.Display

open Invocation.Number Invocation.Text

/-! ## Elements -/

/-- A tag name that names a style as it stands. -/
structure IsStyleName (name : String) : Prop extends IsTagName name where
  normal : Style.normalName name = name

theorem Reading.spanOf_openTag {name : String} (h : IsStyleName name) (reading : Reading) (first : Nat) :
    reading.spanOf ⟨first, Style.normalName name, none⟩ = ⟨first, reading.chars.length, name⟩ := by
  have hstyled := h.styling
  rw [h.normal] at hstyled
  rw [spanOf, h.normal]
  exact congrArg _ (if_neg hstyled)

section Elements

variable [Handlers]

namespace Reading

variable {name : String}

theorem tag_openTag (h : IsTagName name) (position : Nat) (reading : Reading) :
    reading.tag position name.toList = .ok { reading with
      opened := ⟨reading.chars.length, Style.normalName name, none⟩ :: reading.opened } := by
  have hnot : ∀ rest, (nameAndParameters name.toList).1.toList ≠ '/' :: rest :=
    fun rest hrest => h.unslashed (exists_slash_iff.1 ⟨rest, hrest⟩)
  rw [tag_opening hnot, h.whole, tagName_of_faultless h.faultless]
  rfl

theorem tag_closeTag (h : IsTagName name) (position : Nat) {reading : Reading} {tag : OpenTag}
    {opened : List OpenTag} (hopened : reading.opened = tag :: opened)
    (hname : tag.name = Style.normalName name) :
    reading.tag position ('/' :: name.toList) =
      .ok { reading with opened, closed := reading.spanOf tag :: reading.closed } := by
  have hbody : (nameAndParameters ('/' :: name.toList)).1.toList = '/' :: name.toList := by
    rw [h.wholeClosing, String.toList_ofList]
  have hcloses : closingFault? tag = none := by
    unfold closingFault?
    rw [hname]
    exact if_neg h.styling
  rw [tag_closing hbody, String.ofList_toList, h.trimmed, close, if_neg h.nonempty,
    tagName_of_faultless h.faultless]
  dsimp only [bind, Except.bind]
  rw [hopened, takeTag?, if_pos hname]
  dsimp only
  rw [endTag, hcloses]

/-- Between its two tags an element is read as quiet tokens. -/
theorem run_element (h : IsTagName name) {quiet : List Token} (hquiet : ∀ token ∈ quiet, token.Quiet)
    (position count : Nat) (reading : Reading) (more : List Token) :
    ∃ between, run position reading (.tag 0 name.toList :: (quiet ++ .tag count ('/' :: name.toList) :: more)) =
      run between { (reading.append (readChars quiet)) with
        opened := ⟨reading.chars.length, Style.normalName name, none⟩ :: reading.opened }
        (.tag count ('/' :: name.toList) :: more) := by
  have hmore : ∀ c, (Token.tag count ('/' :: name.toList) :: more).head? ≠ some (.char c) := by
    intro c hc
    cases hc
  have hnone : reading.append (List.replicate (0 / 2) '\\') = reading := append_nil reading
  rw [run]
  dsimp only
  rw [if_neg (by decide), hnone, tag_openTag h]
  exact run_quiet hquiet hmore _ _

theorem run_element_closed (h : IsStyleName name) {quiet : List Token} (hquiet : ∀ token ∈ quiet, token.Quiet)
    (position : Nat) {count : Nat} (hcount : count % 2 ≠ 1) (reading : Reading) (more : List Token) :
    ∃ next chars, run position reading (.tag 0 name.toList :: (quiet ++ .tag count ('/' :: name.toList) :: more)) =
        run next ⟨chars, reading.opened, ⟨reading.chars.length, chars.length, name⟩ :: reading.closed⟩ more ∧
      chars = reading.chars ++ shownChars (readChars quiet ++ slashes (count / 2)) := by
  obtain ⟨between, hbetween⟩ := run_element h.toIsTagName hquiet position count reading more
  refine ⟨between + (Token.tag count ('/' :: name.toList)).chars.length, _, ?_, rfl⟩
  rw [hbetween, run]
  dsimp only
  rw [if_neg hcount, tag_closeTag h.toIsTagName _ rfl rfl]
  dsimp only [bind, Except.bind]
  rw [spanOf_openTag h]
  simp [append, shownChars, slashes]

/-- **The last element is a stretch up to the end**, whether or not its closing tag is hidden. -/
theorem run_element_last (h : IsStyleName name) {quiet : List Token} (hquiet : ∀ token ∈ quiet, token.Quiet)
    (position count : Nat) {reading : Reading} (hopened : reading.opened = []) :
    ∃ text, (run position reading (.tag 0 name.toList :: (quiet ++ [.tag count ('/' :: name.toList)]))).map finish =
        .ok text ∧
      text.spans = (⟨reading.chars.length, text.chars.length, name⟩ :: reading.closed).mergeSort
        fun a b => a.first ≤ b.first := by
  -- An odd number of backslashes hides the closing tag. Then the element is open until the text ends.
  by_cases hodd : count % 2 = 1
  · obtain ⟨between, hbetween⟩ := run_element h.toIsTagName hquiet position count reading []
    rw [hbetween, run]
    dsimp only
    rw [if_pos hodd, run]
    refine ⟨_, rfl, ?_⟩
    simp only [finish, append, hopened, List.map_cons, List.map_nil, List.reverse_cons, List.reverse_nil,
      List.nil_append, List.cons_append, spanOf_openTag h]
  · obtain ⟨next, chars, hnext, -⟩ := run_element_closed h hquiet position hodd reading []
    rw [hnext, run]
    refine ⟨_, rfl, ?_⟩
    simp only [finish, hopened, List.map_nil, List.reverse_nil, List.nil_append]

end Reading

end Elements

/-! ## Lines and ends of commands -/

theorem isStyleName_accent : IsStyleName "accent" :=
  ⟨isTagName_accent, by decide +kernel⟩

theorem isStyleName_shell : IsStyleName "shell" :=
  ⟨isTagName_shell, by decide +kernel⟩

theorem isStyleName_statusTag (status : Int) : IsStyleName (statusTag status) := by
  refine ⟨isTagName_statusTag status, ?_⟩
  unfold statusTag
  split <;> decide +kernel

section Spans

variable [Handlers]

/-- The line of a command is read as two stretches, the prompt and the whole line after it. -/
theorem spans_line (line : String) :
    ∃ text, readMarkup ("[accent]$[/accent] [shell]" ++ escape line ++ "[/shell]") = .ok text ∧
      text.spans = [⟨0, 1, "accent"⟩, ⟨2, text.chars.length, "shell"⟩] := by
  obtain ⟨quiet, count, hquiet, htokens⟩ := tokens_line line
  have hprompt : ∀ token ∈ [Token.char '$'], token.Quiet := quiet_chars ['$']
  obtain ⟨next, chars, hnext, rfl⟩ := Reading.run_element_closed isStyleName_accent hprompt 0
    (show 0 % 2 ≠ 1 by decide) ⟨[], [], []⟩
    (.char ' ' :: .tag 0 "shell".toList :: (quiet ++ [.tag count ('/' :: "shell".toList)]))
  obtain ⟨text, htext, hspans⟩ := Reading.run_element_last isStyleName_shell hquiet (next + 1) count
    (show (⟨['$', ' '], [], [⟨0, 1, "accent"⟩]⟩ : Reading).opened = [] from rfl)
  refine ⟨text, ?_, ?_⟩
  · rw [readMarkup, htokens, hnext, Reading.run]
    · exact htext
    · intro rest _ hc
      cases hc
  · rw [hspans]
    simp [List.mergeSort, List.MergeSort.Internal.splitInTwo]

theorem spans_statusLine (name : String) (status : Int) :
    ∃ text, readMarkup (statusLine name status) = .ok text ∧
      text.spans = [⟨0, text.chars.length, statusTag status⟩] := by
  obtain ⟨quiet, count, hquiet, htokens⟩ := tokens_statusLine name status
  obtain ⟨text, htext, hspans⟩ := Reading.run_element_last (isStyleName_statusTag status) hquiet 0 count
    (show (⟨[], [], []⟩ : Reading).opened = [] from rfl)
  refine ⟨text, ?_, ?_⟩
  · rw [readMarkup, htokens, htext]
  · rw [hspans, List.mergeSort_singleton]
    rfl

end Spans

end Invocation.Display

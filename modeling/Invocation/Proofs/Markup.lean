import Invocation.Display.Show
import Invocation.Proofs.Numeral
import Invocation.Proofs.Tokens

/-!
# Markup that can be read

Reading a text with tags fails at a closing tag that closes nothing, at a tag that names a colour whose parts
are no integers, and where a tag for a handler is closed whose parameters cannot be evaluated. The open tags
tell (`openAfter`, `readMarkup_cases`), whatever is said of the parameters of handlers. Around an escaped text
a tag is closed, or left open where backslashes at the end of the text hide its closing tag
(`openAfter_element`). So the line of a command and how it ended can always be read (`readable_line`,
`readable_statusLine`).

The hint of an error is not escaped. The error can be read if no tag is closed in a name that stands in the
hint, and every tag in it has a name that can be read (`readable_errorText_of_opening`).
-/

namespace Invocation.Display

open Invocation.Number Invocation.Text

/-! ## Open tags -/

/-- What matters of an open tag for closing it: its normal name and its parameters. -/
abbrev Label := String × Option String

theorem Reading.tagName_of_faultless {name : String} (h : Style.fault? name = none) :
    tagName name = .ok (Style.normalName name) := by
  unfold tagName
  rw [h]

theorem Reading.tagName_cases (name : String) :
    (Style.fault? name = none ∧ tagName name = .ok (Style.normalName name)) ∨
      Style.fault? name ≠ none ∧ ∃ fault, tagName name = .error fault := by
  cases hfault : Style.fault? name with
  | none => exact .inl ⟨rfl, tagName_of_faultless hfault⟩
  | some fault =>
    unfold tagName
    rw [hfault]
    exact .inr ⟨nofun, _, rfl⟩

/-- A tag closes another one exactly if a slash comes first in it. -/
theorem Reading.exists_slash_iff {body : List Char} :
    (∃ rest, (nameAndParameters body).1.toList = '/' :: rest) ↔ body.head? = some '/' := by
  constructor
  · rintro ⟨rest, hrest⟩
    have hcut : (cutChars '=' body).1 = '/' :: rest := by
      simpa [nameAndParameters, cut] using hrest
    cases body with
    | nil => cases hcut
    | cons c body =>
      rw [cutChars] at hcut
      split at hcut
      · cases hcut
      · cases hcut
        rfl
  · intro h
    cases body with
    | nil => cases h
    | cons c body =>
      obtain rfl := Option.some.inj h
      exact ⟨(cutChars '=' body).1, by simp [nameAndParameters, cut, cutChars]⟩

theorem Reading.takeTag?_subset {name : String} {opened left : List OpenTag} {tag : OpenTag}
    (h : takeTag? name opened = some (tag, left)) : tag ∈ opened ∧ left ⊆ opened := by
  induction opened generalizing left with
  | nil => cases h
  | cons first rest ih =>
    rw [takeTag?] at h
    split at h
    · cases h
      exact ⟨List.mem_cons_self, List.subset_cons_self _ _⟩
    · obtain ⟨⟨found, rest'⟩, hrest, he⟩ := Option.map_eq_some_iff.1 h
      cases he
      obtain ⟨hmem, hleft⟩ := ih hrest
      exact ⟨List.mem_cons_of_mem _ hmem, List.cons_subset_cons _ hleft⟩

section Opened

variable [Handlers]

/-- The tag can be closed: it is for no handler, or its parameters can be evaluated. -/
def Label.closes (label : Label) : Bool :=
  label.1.toList.head? != some '@' || label.2.all fun parameters =>
    parameters == "" || (Handlers.fault? parameters).isNone

/-- The open tags, the last opened first, without the last one of a name; none if there is none or it cannot
be closed. -/
def closeNamed? (name : String) : List Label → Option (List Label)
  | [] => none
  | label :: rest =>
    if label.1 = name then if label.closes then some rest else none
    else (closeNamed? name rest).map (label :: ·)

/-- The open tags after one is closed by its name, or the last one by no name; none if there is nothing to
close, or it cannot be closed or named. -/
def openAfterClosing (name : String) (labels : List Label) : Option (List Label) :=
  if name = "" then
    match labels with
    | [] => none
    | label :: rest => if label.closes then some rest else none
  else if Style.fault? name = none then closeNamed? (Style.normalName name) labels
  else none

/-- The open tags after a tag. -/
def openAfterTag (body : List Char) (labels : List Label) : Option (List Label) :=
  let (name, parameters) := Reading.nameAndParameters body
  match name.toList with
  | '/' :: rest => openAfterClosing (trim (String.ofList rest)) labels
  | _ => if Style.fault? name = none then some ((Style.normalName name, parameters) :: labels) else none

theorem openAfterTag_closing {body rest : List Char}
    (h : (Reading.nameAndParameters body).1.toList = '/' :: rest) (labels : List Label) :
    openAfterTag body labels = openAfterClosing (trim (String.ofList rest)) labels := by
  unfold openAfterTag
  dsimp only
  split
  · next more hmore =>
    cases h.symm.trans hmore
    rfl
  · next hnot => exact absurd h (hnot rest)

theorem openAfterTag_opening {body : List Char}
    (h : ∀ rest, (Reading.nameAndParameters body).1.toList ≠ '/' :: rest) (labels : List Label) :
    openAfterTag body labels =
      let (name, parameters) := Reading.nameAndParameters body
      if Style.fault? name = none then some ((Style.normalName name, parameters) :: labels) else none := by
  unfold openAfterTag
  dsimp only
  split
  · next rest hrest => exact absurd hrest (h rest)
  · rfl

/-- The open tags after some tokens; none if one of them cannot be read. -/
def openAfter (labels : List Label) : List Token → Option (List Label)
  | [] => some labels
  | .char _ :: rest => openAfter labels rest
  | .tag count body :: rest =>
    if count % 2 = 1 then openAfter labels rest
    else (openAfterTag body labels).bind (openAfter · rest)

/-- Every tag in a text can be read. -/
def Readable (s : String) : Prop :=
  ∃ labels, openAfter [] (tokens s.toList) = some labels

namespace Reading

/-- What matters of a tag for closing it. -/
def labelOf (tag : OpenTag) : Label :=
  (tag.name, tag.parameters)

/-- The tags that are open. -/
def labels (reading : Reading) : List Label :=
  reading.opened.map labelOf

theorem closingFault?_eq_none (tag : OpenTag) : closingFault? tag = none ↔ (labelOf tag).closes = true := by
  obtain ⟨first, name, parameters⟩ := tag
  unfold closingFault? labelOf Label.closes
  dsimp only
  by_cases hhandler : name.toList.head? = some '@'
  · rw [if_pos hhandler, hhandler]
    cases parameters with
    | none => exact iff_of_true rfl rfl
    | some parameters =>
      by_cases hempty : parameters = ""
      · simp [hempty]
      · simp [hempty]
  · rw [if_neg hhandler]
    simp [hhandler]

theorem labels_endTag (tag : OpenTag) (others : List OpenTag) (reading : Reading) :
    (reading.endTag tag others).toOption.map labels =
      if (labelOf tag).closes = true then some (others.map labelOf) else none := by
  have hcloses := closingFault?_eq_none tag
  unfold endTag
  cases hfault : closingFault? tag with
  | none =>
    rw [if_pos (hcloses.1 hfault)]
    rfl
  | some fault =>
    rw [hfault] at hcloses
    rw [if_neg fun h => nomatch hcloses.2 h]
    rfl

theorem closeNamed?_labels (name : String) (opened : List OpenTag) :
    closeNamed? name (opened.map labelOf) =
      (takeTag? name opened).bind fun (tag, rest) =>
        if (labelOf tag).closes = true then some (rest.map labelOf) else none := by
  induction opened with
  | nil => rfl
  | cons tag rest ih =>
    have hlabel : (labelOf tag).1 = tag.name := rfl
    rw [List.map_cons, closeNamed?, takeTag?, hlabel]
    by_cases hname : tag.name = name
    · rw [if_pos hname, if_pos hname]
      rfl
    · rw [if_neg hname, if_neg hname, ih]
      cases takeTag? name rest with
      | none => rfl
      | some found =>
        change Option.map _ (ite ..) = ite ..
        split <;> rfl

theorem labels_close (position : Nat) (body : List Char) (name : String) (reading : Reading) :
    (reading.close position body name).toOption.map labels = openAfterClosing name reading.labels := by
  unfold close openAfterClosing
  by_cases hname : name = ""
  · rw [if_pos hname, if_pos hname, labels]
    cases hopened : reading.opened with
    | nil => rfl
    | cons tag rest => exact labels_endTag tag rest reading
  · rw [if_neg hname, if_neg hname]
    obtain ⟨hsound, htag⟩ | ⟨hfault, fault, htag⟩ := tagName_cases name
    · rw [htag, if_pos hsound, labels, closeNamed?_labels]
      generalize Style.normalName name = normal
      dsimp only [bind, Except.bind]
      cases takeTag? normal reading.opened with
      | none => rfl
      | some found => exact labels_endTag found.1 found.2 reading
    · rw [htag, if_neg hfault]
      rfl

theorem tag_closing {body rest : List Char} (h : (nameAndParameters body).1.toList = '/' :: rest)
    (position : Nat) (reading : Reading) :
    reading.tag position body = reading.close position body (trim (String.ofList rest)) := by
  unfold tag
  dsimp only
  split
  · next more hmore =>
    cases h.symm.trans hmore
    rfl
  · next hnot => exact absurd h (hnot rest)

theorem tag_opening {body : List Char} (h : ∀ rest, (nameAndParameters body).1.toList ≠ '/' :: rest)
    (position : Nat) (reading : Reading) :
    reading.tag position body = (tagName (nameAndParameters body).1).map fun name =>
      { reading with
        opened := ⟨reading.chars.length, name, (nameAndParameters body).2⟩ :: reading.opened } := by
  unfold tag
  dsimp only
  split
  · next rest hrest => exact absurd hrest (h rest)
  · cases tagName (nameAndParameters body).1 <;> rfl

theorem eq_of_endTag {tag : OpenTag} {others : List OpenTag} {reading next : Reading}
    (h : reading.endTag tag others = .ok next) :
    next = { reading with opened := others, closed := reading.spanOf tag :: reading.closed } := by
  unfold endTag at h
  split at h
  · cases h
  · exact (Except.ok.inj h).symm

theorem close_cases {position : Nat} {body : List Char} {name : String} {reading next : Reading}
    (h : reading.close position body name = .ok next) :
    ∃ tag others, tag ∈ reading.opened ∧ others ⊆ reading.opened ∧
      next = { reading with opened := others, closed := reading.spanOf tag :: reading.closed } := by
  unfold close at h
  split at h
  · cases hopened : reading.opened with
    | nil =>
      rw [hopened] at h
      cases h
    | cons tag rest =>
      rw [hopened] at h
      exact ⟨tag, rest, List.mem_cons_self, List.subset_cons_self _ _, eq_of_endTag h⟩
  · obtain ⟨-, htag⟩ | ⟨-, fault, htag⟩ := tagName_cases name
    · rw [htag] at h
      generalize Style.normalName name = normal at h
      dsimp only [bind, Except.bind] at h
      split at h
      · cases h
      · next tag rest htake =>
        obtain ⟨hmem, hsub⟩ := takeTag?_subset htake
        exact ⟨tag, rest, hmem, hsub, eq_of_endTag h⟩
    · rw [htag] at h
      cases h

/-- **What a tag that is read does**: it opens, or it ends one that is open. The characters stay. -/
theorem tag_cases {position : Nat} {body : List Char} {reading next : Reading}
    (h : reading.tag position body = .ok next) :
    (body.head? ≠ some '/' ∧ ∃ opening : OpenTag, opening.name = Style.normalName (nameAndParameters body).1 ∧
      opening.parameters = (nameAndParameters body).2 ∧
      next = { reading with opened := opening :: reading.opened }) ∨
    body.head? = some '/' ∧ ∃ tag others, tag ∈ reading.opened ∧ others ⊆ reading.opened ∧
      next = { reading with opened := others, closed := reading.spanOf tag :: reading.closed } := by
  by_cases hslash : body.head? = some '/'
  · obtain ⟨rest, hrest⟩ := exists_slash_iff.2 hslash
    rw [tag_closing hrest] at h
    exact .inr ⟨hslash, close_cases h⟩
  · rw [tag_opening fun rest hrest => hslash (exists_slash_iff.1 ⟨rest, hrest⟩)] at h
    obtain ⟨-, hname⟩ | ⟨-, fault, hname⟩ := tagName_cases (nameAndParameters body).1
    · rw [hname] at h
      generalize Style.normalName (nameAndParameters body).1 = normal at h ⊢
      exact .inl ⟨hslash, _, rfl, rfl, (Except.ok.inj h).symm⟩
    · rw [hname] at h
      cases h

/-- A tag is read as the open tags say. -/
theorem labels_tag (position : Nat) (body : List Char) (reading : Reading) :
    (reading.tag position body).toOption.map labels = openAfterTag body reading.labels := by
  by_cases hclosing : ∃ rest, (nameAndParameters body).1.toList = '/' :: rest
  · obtain ⟨rest, hrest⟩ := hclosing
    rw [tag_closing hrest, openAfterTag_closing hrest]
    exact labels_close position body (trim (String.ofList rest)) reading
  · have hopening : ∀ rest, (nameAndParameters body).1.toList ≠ '/' :: rest :=
      fun rest hrest => hclosing ⟨rest, hrest⟩
    rw [tag_opening hopening, openAfterTag_opening hopening]
    dsimp only
    obtain ⟨hsound, htag⟩ | ⟨hfault, fault, htag⟩ := tagName_cases (nameAndParameters body).1
    · rw [htag, if_pos hsound]
      generalize Style.normalName (nameAndParameters body).1 = name
      rfl
    · rw [htag, if_neg hfault]
      rfl

/-- Tokens are read as the open tags say. -/
theorem labels_run (position : Nat) (reading : Reading) (ts : List Token) :
    (run position reading ts).toOption.map labels = openAfter reading.labels ts := by
  fun_induction run position reading ts with
  | case1 position reading => rfl
  | case2 position reading rest ih => exact ih
  | case3 position reading c rest hbracket ih => exact ih
  | case4 position reading count body rest next shown hodd ih =>
    rw [openAfter, if_pos hodd]
    exact ih
  | case5 position reading count body rest next shown heven ih =>
    -- Only the characters differ in what is read before the tag.
    have hlabels : shown.labels = reading.labels := rfl
    rw [openAfter, if_neg heven, ← hlabels, ← labels_tag (position + count)]
    cases shown.tag (position + count) body with
    | error fault => rfl
    | ok after => exact ih after

end Reading

/-- **A text with tags can be read** exactly if every tag in it can be. -/
theorem readMarkup_cases (s : String) :
    (Readable s ∧ ∃ styled, readMarkup s = .ok styled) ∨
      ¬Readable s ∧ ∃ fault, readMarkup s = .error fault := by
  have hlabels := Reading.labels_run 0 ⟨[], [], []⟩ (tokens s.toList)
  unfold readMarkup Readable
  cases hrun : Reading.run 0 ⟨[], [], []⟩ (tokens s.toList) with
  | ok next =>
    rw [hrun] at hlabels
    exact .inl ⟨⟨_, hlabels.symm⟩, _, rfl⟩
  | error fault =>
    rw [hrun] at hlabels
    refine .inr ⟨?_, _, rfl⟩
    rintro ⟨labels, hsome⟩
    cases hlabels.trans hsome

end Opened

/-! ## Elements -/

/-- There are no brackets and no backslashes in a text. -/
def Literal (cs : List Char) : Prop :=
  ∀ c ∈ cs, c ≠ '[' ∧ c ≠ ']' ∧ c ≠ '\\'

instance : DecidablePred Literal :=
  fun cs => List.decidableBAll _ cs

theorem literal_nil : Literal [] :=
  fun _ hc => absurd hc List.not_mem_nil

theorem literal_append {cs more : List Char} (h : Literal cs) (h' : Literal more) : Literal (cs ++ more) := by
  intro c hc
  rcases List.mem_append.1 hc with hc | hc
  · exact h c hc
  · exact h' c hc

theorem closeTag?_of_literal {cs : List Char} (h : Literal cs) : closeTag? cs = none := by
  induction cs with
  | nil => rfl
  | cons c cs ih =>
    obtain ⟨hopen, hclose, -⟩ := h c List.mem_cons_self
    rw [closeTag?, if_neg hclose, if_neg hopen, ih fun d hd => h d (List.mem_cons_of_mem c hd)]
    rfl

theorem tokens_literal {cs : List Char} (h : Literal cs) (rest : List Char) :
    tokens (cs ++ rest) = cs.map .char ++ tokens rest := by
  induction cs with
  | nil => rfl
  | cons c cs ih =>
    obtain ⟨hopen, -, hslash⟩ := h c List.mem_cons_self
    have hplain : tokens (c :: (cs ++ rest)) = .char c :: tokens (cs ++ rest) :=
      tokens_char 0 hslash hopen (cs ++ rest)
    rw [List.cons_append, hplain, ih fun d hd => h d (List.mem_cons_of_mem c hd)]
    rfl

/-- A text that names a tag: it is read as a name without parameters, and with a slash before it as the
closing tag of that name. -/
structure IsTagName (name : String) : Prop where
  opening : tagBody? (name.toList ++ [']']) = some (name.toList, [])
  closing : tagBody? ('/' :: name.toList ++ [']']) = some ('/' :: name.toList, [])
  whole : Reading.nameAndParameters name.toList = (name, none)
  wholeClosing : Reading.nameAndParameters ('/' :: name.toList) = (String.ofList ('/' :: name.toList), none)
  trimmed : trim name = name
  nonempty : name ≠ ""
  unslashed : name.toList.head? ≠ some '/'
  /-- Its colours can be read. -/
  faultless : Style.fault? name = none
  /-- It is for no handler. -/
  styling : (Style.normalName name).toList.head? ≠ some '@'

section Elements

variable {name : String}

theorem tokens_opening (h : IsTagName name) (rest : List Char) :
    tokens ('[' :: name.toList ++ ']' :: rest) = .tag 0 name.toList :: tokens rest :=
  tokens_tag 0 ((tagBody?_eq_some h.opening).2 rest)

theorem tokens_closing (h : IsTagName name) (count : Nat) (rest : List Char) :
    tokens (slashes count ++ '[' :: '/' :: name.toList ++ ']' :: rest) =
      .tag count ('/' :: name.toList) :: tokens rest := by
  rw [List.append_assoc]
  exact tokens_tag count ((tagBody?_eq_some h.closing).2 rest)

/-- **An element with an escaped text in it** is its two tags with quiet tokens between them. Backslashes at
the end of the text may come to stand before the closing tag. -/
theorem tokens_element (h : IsTagName name) {before after : List Char} (hbefore : Literal before)
    (hafter : Literal after) (cs : List Char) :
    ∃ quiet count, (∀ token ∈ quiet, token.Quiet) ∧ ∀ rest,
      tokens ('[' :: name.toList ++ ']' ::
        (before ++ (escapeChars cs ++ (after ++ '[' :: '/' :: name.toList ++ ']' :: rest)))) =
      .tag 0 name.toList :: (quiet ++ .tag count ('/' :: name.toList) :: tokens rest) := by
  obtain ⟨quiet, count, hquiet, htokens⟩ := tokens_escape_append cs
  have hclose (rest : List Char) : closeTag? (after ++ '[' :: '/' :: name.toList ++ ']' :: rest) = none := by
    rw [List.append_assoc]
    exact closeTag?_of_unclosed (fun hmem => (hafter _ hmem).2.1 rfl) _
  obtain ⟨more, hidden, hmore, hend⟩ : ∃ more hidden, (∀ token ∈ more, token.Quiet) ∧ ∀ rest,
      tokens (slashes count ++ (after ++ '[' :: '/' :: name.toList ++ ']' :: rest)) =
        more ++ .tag hidden ('/' :: name.toList) :: tokens rest := by
    cases after with
    | nil =>
      refine ⟨[], count, fun token hmem => absurd hmem List.not_mem_nil, fun rest => ?_⟩
      rw [List.nil_append, List.nil_append, ← tokens_closing h, List.append_assoc]
    | cons c after =>
      obtain ⟨hopen, -, hslash⟩ := hafter c List.mem_cons_self
      have hrest : Literal after := fun d hd => hafter d (List.mem_cons_of_mem c hd)
      refine ⟨(slashes count ++ c :: after).map .char, 0, quiet_chars _, fun rest => ?_⟩
      have hclosing := tokens_closing h 0 rest
      rw [slashes, List.replicate_zero, List.nil_append] at hclosing
      rw [List.cons_append, List.cons_append, tokens_char count hslash hopen, List.append_assoc,
        tokens_literal hrest, hclosing]
      simp only [List.map_append, List.map_cons, List.append_assoc, List.cons_append]
  refine ⟨before.map .char ++ (quiet ++ more), hidden, ?_, fun rest => ?_⟩
  · intro token htoken
    rcases List.mem_append.1 htoken with hmem | hmem
    · exact quiet_chars before token hmem
    · exact (List.mem_append.1 hmem).elim (hquiet token) (hmore token)
  · rw [tokens_opening h, tokens_literal hbefore, htokens _ (hclose rest), hend]
    simp only [List.append_assoc]

end Elements

section OpenAfter

variable [Handlers]

theorem closes_plain (name : String) : Label.closes (name, none) = true :=
  Bool.or_true _

theorem closeNamed?_head (name : String) (labels : List Label) :
    closeNamed? name ((name, none) :: labels) = some labels := by
  rw [closeNamed?, if_pos rfl, if_pos (closes_plain name)]

/-- A tag for no handler can be closed if it is open. -/
theorem exists_closeNamed? {name : String} (hname : name.toList.head? ≠ some '@') {labels : List Label}
    (h : name ∈ labels.map Prod.fst) : ∃ left, closeNamed? name labels = some left := by
  induction labels with
  | nil => cases h
  | cons label rest ih =>
    rw [closeNamed?]
    by_cases hlabel : label.1 = name
    · have hcloses : label.closes = true := by simp [Label.closes, hlabel, hname]
      rw [if_pos hlabel, if_pos hcloses]
      exact ⟨_, rfl⟩
    · obtain ⟨left, hleft⟩ := ih ((List.mem_cons.1 h).resolve_left (Ne.symm hlabel))
      rw [if_neg hlabel, hleft]
      exact ⟨_, rfl⟩

variable {name : String} {ts : List Token}

theorem openAfter_append (labels : List Label) (xs ys : List Token) :
    openAfter labels (xs ++ ys) = (openAfter labels xs).bind (openAfter · ys) := by
  induction xs generalizing labels with
  | nil => rfl
  | cons token xs ih =>
    cases token with
    | char c => exact ih labels
    | tag count body =>
      rw [List.cons_append, openAfter, openAfter]
      split
      · exact ih labels
      · cases openAfterTag body labels with
        | none => rfl
        | some next => exact ih next

theorem openAfter_quiet (h : ∀ token ∈ ts, token.Quiet) (labels : List Label) :
    openAfter labels ts = some labels := by
  induction ts with
  | nil => rfl
  | cons token ts ih =>
    have hrest := ih fun other hother => h other (List.mem_cons_of_mem _ hother)
    cases token with
    | char c => exact hrest
    | tag count body =>
      have hodd : count % 2 = 1 := h _ List.mem_cons_self
      rw [openAfter, if_pos hodd, hrest]

theorem openAfter_quiet_append (h : ∀ token ∈ ts, token.Quiet) (labels : List Label) (more : List Token) :
    openAfter labels (ts ++ more) = openAfter labels more := by
  rw [openAfter_append, openAfter_quiet h]
  rfl

theorem openAfter_openTag (h : IsTagName name) (labels : List Label) (ts : List Token) :
    openAfter labels (.tag 0 name.toList :: ts) = openAfter ((Style.normalName name, none) :: labels) ts := by
  have hopened : openAfterTag name.toList labels = some ((Style.normalName name, none) :: labels) := by
    rw [openAfterTag_opening, h.whole]
    · exact if_pos h.faultless
    · intro more hmore
      refine h.unslashed ?_
      rw [h.whole] at hmore
      rw [hmore]
      rfl
  rw [openAfter, if_neg (by decide), hopened]
  rfl

/-- Backslashes before a closing tag may hide it. -/
theorem openAfter_closeTag (h : IsTagName name) (count : Nat) (labels : List Label) (ts : List Token) :
    openAfter labels (.tag count ('/' :: name.toList) :: ts) =
      if count % 2 = 1 then openAfter labels ts
      else (closeNamed? (Style.normalName name) labels).bind (openAfter · ts) := by
  have hname : (Reading.nameAndParameters ('/' :: name.toList)).1.toList = '/' :: name.toList := by
    rw [h.wholeClosing, String.toList_ofList]
  have hclosed : openAfterTag ('/' :: name.toList) labels = closeNamed? (Style.normalName name) labels := by
    rw [openAfterTag_closing hname, String.ofList_toList, h.trimmed]
    unfold openAfterClosing
    rw [if_neg h.nonempty, if_pos h.faultless]
  rw [openAfter, hclosed]

/-- After quiet tokens between its two tags an element is closed, or still open where backslashes hide its
closing tag. -/
theorem openAfter_element (h : IsTagName name) {quiet : List Token} (hquiet : ∀ token ∈ quiet, token.Quiet)
    (count : Nat) (labels : List Label) :
    ∃ left, (left = labels ∨ left = (Style.normalName name, none) :: labels) ∧ ∀ rest,
      openAfter labels (.tag 0 name.toList :: (quiet ++ .tag count ('/' :: name.toList) :: rest)) =
        openAfter left rest := by
  by_cases hodd : count % 2 = 1
  · refine ⟨(Style.normalName name, none) :: labels, .inr rfl, fun rest => ?_⟩
    rw [openAfter_openTag h, openAfter_quiet_append hquiet, openAfter_closeTag h, if_pos hodd]
  · refine ⟨labels, .inl rfl, fun rest => ?_⟩
    rw [openAfter_openTag h, openAfter_quiet_append hquiet, openAfter_closeTag h, if_neg hodd, closeNamed?_head]
    rfl

end OpenAfter

/-! ## Texts with names in them -/

/-- A text without brackets and backslashes adds no tag to another text. -/
theorem tokens_append_literal {after : List Char} (h : Literal after) (cs : List Char) :
    ∃ front quiet count, (∀ token ∈ quiet, token.Quiet) ∧ tokens (cs ++ after) = front ++ quiet ∧
      tokens cs = front ++ (slashes count).map .char := by
  obtain ⟨front, count, rfl, hfront⟩ := exists_guarded cs
  have hunclosed {after : List Char} (h : Literal after) : closeTag? (slashes count ++ after) = none :=
    (closeTag?_slashes count after).2 (closeTag?_of_literal h)
  have hquiet : ∀ token ∈ tokens (slashes count ++ after), token.Quiet := by
    refine quiet_of_unopened fun hmem => ?_
    rcases List.mem_append.1 hmem with hslash | hafter
    · cases (List.mem_replicate.1 hslash).2
    · exact (h _ hafter).1 rfl
  have hnone := hunclosed literal_nil
  rw [List.append_nil] at hnone
  refine ⟨tokens front, _, count, hquiet, ?_, ?_⟩
  · rw [List.append_assoc, tokens_append hfront (hunclosed h)]
  · rw [tokens_append hfront hnone, tokens_slashes]

/-- Where a text stands unescaped in front of a closing tag, with something else between them, it is read as it
is by itself. -/
theorem tokens_unescaped {name : String} (h : IsTagName name) {after : List Char} (hafter : Literal after)
    (hne : after ≠ []) (cs : List Char) :
    tokens (cs ++ (after ++ '[' :: '/' :: name.toList ++ [']'])) =
      tokens (cs ++ after) ++ [.tag 0 ('/' :: name.toList)] := by
  have hguarded : Guarded (cs ++ after) := by
    intro hlast
    rw [List.getLast?_append_of_ne_nil cs hne] at hlast
    exact (hafter _ (List.mem_of_getLast? hlast)).2.2 rfl
  have hsplit : cs ++ (after ++ '[' :: '/' :: name.toList ++ [']']) =
      cs ++ after ++ (slashes 0 ++ '[' :: '/' :: name.toList ++ [']']) := by
    simp [slashes]
  have hclose : closeTag? (slashes 0 ++ '[' :: '/' :: name.toList ++ [']']) = none := rfl
  have hnone : tokens [] = [] := rfl
  rw [hsplit, tokens_append hguarded hclose, tokens_closing h, hnone]

section Unescaped

variable [Handlers]

theorem openAfter_append_literal {after : List Char} (h : Literal after) (cs : List Char)
    (labels : List Label) :
    openAfter labels (tokens (cs ++ after)) = openAfter labels (tokens cs) := by
  obtain ⟨front, quiet, count, hquiet, hboth, halone⟩ := tokens_append_literal h cs
  rw [hboth, halone, openAfter_append, openAfter_append]
  simp only [openAfter_quiet hquiet, openAfter_quiet (quiet_chars (slashes count))]

/-- Tags that are opened stay open where nothing is closed. -/
theorem openAfter_of_opening {ts : List Token}
    (h : ∀ count body, .tag count body ∈ ts → count % 2 = 1 ∨ body.head? ≠ some '/' ∧
      Style.fault? (Reading.nameAndParameters body).1 = none) (labels : List Label) :
    ∃ more, openAfter labels ts = some (more ++ labels) := by
  induction ts generalizing labels with
  | nil => exact ⟨[], rfl⟩
  | cons token ts ih =>
    have hrest := ih fun count body hmem => h count body (List.mem_cons_of_mem _ hmem)
    cases token with
    | char c => exact hrest labels
    | tag count body =>
      rw [openAfter]
      split
      · exact hrest labels
      · next heven =>
        obtain ⟨hbody, hsound⟩ := (h count body List.mem_cons_self).resolve_left heven
        obtain ⟨more, hmore⟩ := hrest
          ((Style.normalName (Reading.nameAndParameters body).1, (Reading.nameAndParameters body).2) :: labels)
        refine ⟨more ++ [(Style.normalName (Reading.nameAndParameters body).1,
          (Reading.nameAndParameters body).2)], ?_⟩
        rw [openAfterTag_opening fun rest hslash => hbody (Reading.exists_slash_iff.1 ⟨rest, hslash⟩)]
        dsimp only
        rw [if_pos hsound, Option.bind_some, hmore, List.append_assoc]
        rfl

/-- Where a name stands unescaped in front of a closing tag, the tags in the name count. -/
theorem openAfter_unescaped {name : String} (h : IsTagName name) {after : List Char} (hafter : Literal after)
    (hne : after ≠ []) (cs : List Char) (labels : List Label) :
    openAfter labels (tokens (cs ++ (after ++ '[' :: '/' :: name.toList ++ [']']))) =
      (openAfter labels (tokens cs)).bind (closeNamed? (Style.normalName name)) := by
  rw [tokens_unescaped h hafter hne, openAfter_append, openAfter_append_literal hafter]
  cases openAfter labels (tokens cs) with
  | none => rw [Option.bind_none, Option.bind_none]
  | some opened =>
    rw [Option.bind_some, Option.bind_some, openAfter_closeTag h, if_neg (by decide)]
    generalize closeNamed? (Style.normalName name) opened = left
    cases left <;> rfl

end Unescaped

/-! ## What is shown of commands -/

theorem isTagName_accent : IsTagName "accent" := by
  constructor <;> decide +kernel

theorem isTagName_shell : IsTagName "shell" := by
  constructor <;> decide +kernel

theorem isTagName_success : IsTagName "success" := by
  constructor <;> decide +kernel

theorem isTagName_error : IsTagName "error" := by
  constructor <;> decide +kernel

theorem isTagName_boldRed : IsTagName "bold red" := by
  constructor <;> decide +kernel

theorem isTagName_dim : IsTagName "dim" := by
  constructor <;> decide +kernel

theorem literal_showInt (n : Int) : Literal (showInt n).toList := by
  intro c hc
  rw [showInt, String.toList_ofList] at hc
  rcases mem_intChars hc with hdigit | rfl
  · refine ⟨?_, ?_, ?_⟩
    · rintro rfl
      cases hdigit
    · rintro rfl
      cases hdigit
    · rintro rfl
      cases hdigit
  · decide

theorem literal_exited (status : Int) : Literal (" exited " ++ showInt status).toList := by
  rw [String.toList_append]
  exact literal_append (by decide) (literal_showInt status)

/-- The line of a command between its tags. -/
theorem toList_line (line : String) :
    ("[accent]$[/accent] [shell]" ++ escape line ++ "[/shell]").toList =
      '[' :: "accent".toList ++ ']' :: (['$'] ++ (slashes 0 ++ '[' :: '/' :: "accent".toList ++ ']' ::
        ([' '] ++ '[' :: "shell".toList ++ ']' :: ([] ++ (escapeChars line.toList ++
          ([] ++ '[' :: '/' :: "shell".toList ++ ']' :: [])))))) := by
  have hprompt : "[accent]$[/accent] [shell]".toList =
      '[' :: "accent".toList ++ ']' :: (['$'] ++ (slashes 0 ++ '[' :: '/' :: "accent".toList ++ ']' ::
        ([' '] ++ '[' :: "shell".toList ++ [']']))) := by decide +kernel
  have hclosing : "[/shell]".toList = '[' :: '/' :: "shell".toList ++ [']'] := by decide +kernel
  simp only [String.toList_append, escape, String.toList_ofList, hprompt, hclosing, List.nil_append,
    List.append_assoc, List.cons_append]

theorem tokens_line (line : String) : ∃ quiet count, (∀ token ∈ quiet, token.Quiet) ∧
    tokens ("[accent]$[/accent] [shell]" ++ escape line ++ "[/shell]").toList =
      .tag 0 "accent".toList :: ([.char '$'] ++ .tag 0 ('/' :: "accent".toList) ::
        (.char ' ' :: .tag 0 "shell".toList :: (quiet ++ [.tag count ('/' :: "shell".toList)]))) := by
  obtain ⟨quiet, count, hquiet, hshell⟩ :=
    tokens_element isTagName_shell literal_nil literal_nil line.toList
  refine ⟨quiet, count, hquiet, ?_⟩
  have hrest : tokens [] = [] := rfl
  rw [toList_line, tokens_opening isTagName_accent, tokens_literal (by decide),
    tokens_closing isTagName_accent, List.append_assoc, tokens_literal (by decide), hshell, hrest]
  rfl

/-- The tag around the end of a command. -/
def statusTag (status : Int) : String :=
  if status = 0 then "success" else "error"

theorem isTagName_statusTag (status : Int) : IsTagName (statusTag status) := by
  unfold statusTag
  split
  · exact isTagName_success
  · exact isTagName_error

/-- The end of a command between its tags. -/
theorem toList_statusLine (name : String) (status : Int) :
    (statusLine name status).toList =
      '[' :: (statusTag status).toList ++ ']' ::
        (((if status = 0 then successMark else errorMark).toList ++ [' ']) ++ (escapeChars name.toList ++
          ((" exited " ++ showInt status).toList ++ '[' :: '/' :: (statusTag status).toList ++ ']' :: []))) := by
  unfold statusLine statusTag
  split
  · next hzero =>
    subst hzero
    have hopening : "[success]".toList = '[' :: "success".toList ++ [']'] := by decide
    have hclosing : " exited 0[/success]".toList =
        (" exited " ++ showInt 0).toList ++ '[' :: '/' :: "success".toList ++ [']'] := by decide +kernel
    have hspace : " ".toList = [' '] := rfl
    simp only [String.toList_append, escape, String.toList_ofList, hopening, hclosing, hspace,
      List.append_assoc, List.cons_append, List.nil_append]
  · have hopening : "[error]".toList = '[' :: "error".toList ++ [']'] := by decide
    have hclosing : "[/error]".toList = '[' :: '/' :: "error".toList ++ [']'] := by decide
    have hspace : " ".toList = [' '] := rfl
    simp only [String.toList_append, escape, String.toList_ofList, hopening, hclosing, hspace,
      List.append_assoc, List.cons_append, List.nil_append]

theorem literal_statusMark (status : Int) :
    Literal ((if status = 0 then successMark else errorMark).toList ++ [' ']) := by
  split <;> decide

theorem tokens_statusLine (name : String) (status : Int) : ∃ quiet count, (∀ token ∈ quiet, token.Quiet) ∧
    tokens (statusLine name status).toList =
      .tag 0 (statusTag status).toList :: (quiet ++ [.tag count ('/' :: (statusTag status).toList)]) := by
  obtain ⟨quiet, count, hquiet, htokens⟩ := tokens_element (isTagName_statusTag status)
    (literal_statusMark status) (literal_exited status) name.toList
  refine ⟨quiet, count, hquiet, ?_⟩
  rw [toList_statusLine, htokens]
  rfl

section Readable

variable [Handlers]

/-- Texts that are escaped stand in elements that are closed. -/
theorem readable_line (line : String) :
    Readable ("[accent]$[/accent] [shell]" ++ escape line ++ "[/shell]") := by
  obtain ⟨quiet, count, hquiet, htokens⟩ := tokens_line line
  have hprompt : ∀ token ∈ [Token.char '$'], token.Quiet := quiet_chars ['$']
  obtain ⟨first, -, hfirst⟩ := openAfter_element isTagName_accent hprompt 0 []
  obtain ⟨left, -, hleft⟩ := openAfter_element isTagName_shell hquiet count first
  refine ⟨left, ?_⟩
  rw [htokens, hfirst, openAfter]
  exact hleft []

/-- The end of a command is shown in an element with an escaped text. -/
theorem readable_statusLine (name : String) (status : Int) : Readable (statusLine name status) := by
  obtain ⟨quiet, count, hquiet, htokens⟩ := tokens_statusLine name status
  obtain ⟨left, -, hleft⟩ := openAfter_element (isTagName_statusTag status) hquiet count []
  exact ⟨left, (congrArg _ htokens).trans (hleft [])⟩

end Readable

/-! ## Errors -/

/-- The text of an error and its hint, with tags. -/
def errorText (message hint : String) : String :=
  "[bold red]" ++ errorMark ++ " " ++ escape message ++ "[/bold red]" ++ ("\n[dim]" ++ hint ++ "[/dim]")

theorem tokens_errorText (message : String) : ∃ quiet count, (∀ token ∈ quiet, token.Quiet) ∧ ∀ hint,
    tokens (errorText message hint).toList =
      .tag 0 "bold red".toList :: (quiet ++ .tag count ('/' :: "bold red".toList) :: (.char '\n' ::
        .tag 0 "dim".toList :: tokens (hint.toList ++ '[' :: '/' :: "dim".toList ++ [']']))) := by
  obtain ⟨quiet, count, hquiet, hmessage⟩ := tokens_element isTagName_boldRed
    (show Literal "✖ ".toList by decide) literal_nil message.toList
  refine ⟨quiet, count, hquiet, fun hint => ?_⟩
  have hbreak := tokens_literal (show Literal ['\n'] by decide)
    ('[' :: "dim".toList ++ ']' :: (hint.toList ++ "[/dim]".toList))
  rw [tokens_opening isTagName_dim] at hbreak
  have hwhole := (hmessage _).trans (congrArg (fun rest => Token.tag 0 "bold red".toList ::
    (quiet ++ .tag count ('/' :: "bold red".toList) :: rest)) hbreak)
  simp only [List.nil_append, List.cons_append] at hwhole
  simp only [errorText, String.toList_append, escape, String.toList_ofList, List.append_assoc]
  exact hwhole

section Errors

variable [Handlers]

/-- Before the hint of an error, its own tag is open, and that of the message at most. -/
theorem openAfter_errorText (message : String) :
    ∃ below : List Label, (below = [] ∨ below = [(Style.normalName "bold red", none)]) ∧ ∀ hint,
      openAfter [] (tokens (errorText message hint).toList) =
        openAfter ((Style.normalName "dim", none) :: below)
          (tokens (hint.toList ++ '[' :: '/' :: "dim".toList ++ [']'])) := by
  obtain ⟨quiet, count, hquiet, htokens⟩ := tokens_errorText message
  obtain ⟨below, hbelow, hleft⟩ := openAfter_element isTagName_boldRed hquiet count []
  refine ⟨below, hbelow, fun hint => ?_⟩
  rw [htokens, hleft]
  exact openAfter_openTag isTagName_dim below _

/-- An error whose hint has no tag can be read. -/
theorem readable_errorText_of_quiet (message : String) {hint : String} {quiet : List Token} {count : Nat}
    (hquiet : ∀ token ∈ quiet, token.Quiet) (hhint :
      tokens (hint.toList ++ '[' :: '/' :: "dim".toList ++ [']']) = quiet ++ [.tag count ('/' :: "dim".toList)]) :
    Readable (errorText message hint) := by
  obtain ⟨below, -, hbelow⟩ := openAfter_errorText message
  obtain ⟨left, -, hleft⟩ := openAfter_element isTagName_dim hquiet count below
  refine ⟨left, ?_⟩
  rw [hbelow, hhint, ← openAfter_openTag isTagName_dim]
  exact hleft []

/-- A name in the hint of an error can be read if nothing in it closes a tag and its tags have names whose colours
can be read. -/
theorem readable_errorText_of_opening (message : String) {name after : String}
    (hname : ∀ count body, .tag count body ∈ tokens name.toList → count % 2 = 1 ∨ body.head? ≠ some '/' ∧
      Style.fault? (Reading.nameAndParameters body).1 = none)
    (hafter : Literal after.toList) (hne : after ≠ "") :
    Readable (errorText message (name ++ after)) := by
  obtain ⟨below, -, hbelow⟩ := openAfter_errorText message
  obtain ⟨more, hmore⟩ := openAfter_of_opening hname ((Style.normalName "dim", none) :: below)
  have hchars : after.toList ≠ [] := fun he => hne (String.toList_eq_nil_iff.1 he)
  have hunescaped := openAfter_unescaped isTagName_dim hafter hchars name.toList
    ((Style.normalName "dim", none) :: below)
  have hdim : Style.normalName "dim" ∈ (more ++ (Style.normalName "dim", none) :: below).map Prod.fst :=
    List.mem_map.2 ⟨_, List.mem_append_right more List.mem_cons_self, rfl⟩
  obtain ⟨left, hleft⟩ := exists_closeNamed? isTagName_dim.styling hdim
  rw [hmore, Option.bind_some, hleft] at hunescaped
  refine ⟨left, ?_⟩
  rw [hbelow, String.toList_append, List.append_assoc name.toList, List.append_assoc name.toList]
  exact hunescaped

end Errors

end Invocation.Display

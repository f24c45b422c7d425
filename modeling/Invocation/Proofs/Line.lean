import Invocation.Command.Basic

/-!
# Lines are uniquely decodable

Two commands that render to one line have the same wraps with the same names in them, the same
variables and the same words (`eq_of_lineUnder_eq`). Every wrap puts a word of its own and a space in
front of the line (`headWord`), and none of the wraps inside it begins with that word, so that the
outermost wrap is known from the line; its name ends at the next space, and what follows the inner
line is fixed by the wrap (`wrapWith_cancel`). The variables are read one by one, since the line inside
them begins with a word without an equals sign (`assigned_cancel`).

An empty name is written like no name, so that names are compared as `given`.
-/

namespace Invocation.Render

open Invocation.Text

/-! ## Reading up to a separator -/

/-- A text without the separator is read off up to the separator. -/
theorem append_cons_cancel {c : Char} {xs ys as bs : List Char} (hx : c ∉ xs) (hy : c ∉ ys)
    (h : xs ++ c :: as = ys ++ c :: bs) : xs = ys ∧ as = bs := by
  induction xs generalizing ys with
  | nil =>
    cases ys with
    | nil => exact ⟨rfl, (List.cons.inj h).2⟩
    | cons y ys =>
      have hc : c = y := (List.cons.inj h).1
      exact absurd (hc ▸ List.mem_cons_self) hy
  | cons x xs ih =>
    cases ys with
    | nil =>
      have hc : x = c := (List.cons.inj h).1
      exact absurd (hc ▸ List.mem_cons_self) hx
    | cons y ys =>
      obtain ⟨rfl, hrest⟩ := List.cons.inj h
      obtain ⟨rfl, rfl⟩ := ih (List.not_mem_of_not_mem_cons hx) (List.not_mem_of_not_mem_cons hy)
        hrest
      exact ⟨rfl, rfl⟩

/-- The characters of a line up to its first space. -/
def headWord (line : List Char) : List Char :=
  line.takeWhile (· ≠ ' ')

theorem headWord_append {word : List Char} (h : ' ' ∉ word) (rest : List Char) :
    headWord (word ++ ' ' :: rest) = word := by
  unfold headWord
  rw [List.takeWhile_append_of_pos]
  · simp
  · intro c hc
    simpa using fun he : c = ' ' => h (he ▸ hc)

/-! ## Wraps with a name -/

/-- A name, if it is not empty. -/
def given (name : Option String) : Option String :=
  name.filter (· ≠ "")

/-- The fixed texts of a wrap: its first word, what stands between that and the name, between the
name and the line, and after the line. -/
structure Frame where
  word : List Char
  lead : List Char
  middle : List Char
  close : List Char

/-- The wrap writes the texts of the frame, with spaces after the word and the name. -/
structure Frame.Fits (frame : Frame) (wrap : String → String → String) : Prop where
  noSpace : ' ' ∉ frame.word
  toList : ∀ name line : String, (wrap name line).toList =
    frame.word ++ ' ' :: (frame.lead ++ (name.toList ++ ' ' ::
      (frame.middle ++ (line.toList ++ frame.close))))

/-- The frame of the directory. -/
def Frame.directory : Frame :=
  ⟨['c', 'd'], [], ['&', '&', ' '], []⟩

/-- The frame of the mask. -/
def Frame.mask : Frame :=
  ⟨['u', 'm', 'a', 's', 'k'], [], ['&', '&', ' '], []⟩

/-- The frame of the user. -/
def Frame.user : Frame :=
  ⟨['s', 'u', 'd', 'o'], ['s', 'u', ' '], ['-', 'c', ' ', '"'], ['"']⟩

/-- The frame of the group. -/
def Frame.group : Frame :=
  ⟨['s', 'g'], [], ['-', 'c', ' ', '\\', '"'], ['\\', '"']⟩

theorem Frame.fits_directory :
    directory.Fits fun name line => "cd " ++ name ++ " && " ++ line :=
  ⟨by decide, fun _ _ => by simp [directory]⟩

theorem Frame.fits_mask : mask.Fits fun name line => "umask " ++ name ++ " && " ++ line :=
  ⟨by decide, fun _ _ => by simp [mask]⟩

theorem Frame.fits_user :
    user.Fits fun name line => "sudo su " ++ name ++ " -c \"" ++ line ++ "\"" :=
  ⟨by decide, fun _ _ => by simp [user]⟩

theorem Frame.fits_group :
    group.Fits fun name line => "sg " ++ name ++ " -c \\\"" ++ line ++ "\\\"" :=
  ⟨by decide, fun _ _ => by simp [group]⟩

theorem wrapWith_of_given_eq_none {wrap : String → String → String} {name : Option String}
    (h : given name = none) (line : String) : wrapWith wrap name line = line := by
  cases name with
  | none => rfl
  | some s =>
    have hs : s = "" := by simpa [given, Option.filter_eq_none_iff] using h
    simp [wrapWith, hs]

theorem wrapWith_of_given_eq_some {wrap : String → String → String} {name : Option String}
    {s : String} (h : given name = some s) (line : String) :
    wrapWith wrap name line = wrap s line := by
  obtain ⟨rfl, hs⟩ := Option.filter_eq_some_iff.1 h
  have hne : s ≠ "" := by simpa using hs
  exact if_neg hne

section Wrap

variable {frame : Frame} {wrap : String → String → String} (fits : frame.Fits wrap)
  {name name' : Option String} {line line' : String}

include fits in
/-- A wrapped line begins with the word of its wrap, any other with its own. -/
theorem headWord_wrapWith :
    headWord (wrapWith wrap name line).toList =
      if given name = none then headWord line.toList else frame.word := by
  cases h : given name with
  | none => rw [wrapWith_of_given_eq_none h, if_pos rfl]
  | some s =>
    rw [wrapWith_of_given_eq_some h, fits.toList, if_neg (by simp)]
    exact headWord_append fits.noSpace _

include fits in
theorem headWord_wrapWith_mem {words : List (List Char)} (h : headWord line.toList ∈ words) :
    headWord (wrapWith wrap name line).toList ∈ frame.word :: words := by
  rw [headWord_wrapWith fits]
  split
  · exact List.mem_cons_of_mem _ h
  · exact List.mem_cons_self

include fits in
/-- **A wrap can be taken off**: the line tells whether there is one, which name it has and which line
is inside it, if the lines inside begin with other words. -/
theorem wrapWith_cancel (hn : ∀ s ∈ name, ' ' ∉ s.toList) (hn' : ∀ s ∈ name', ' ' ∉ s.toList)
    (hl : headWord line.toList ≠ frame.word) (hl' : headWord line'.toList ≠ frame.word)
    (h : wrapWith wrap name line = wrapWith wrap name' line') :
    given name = given name' ∧ line = line' := by
  have hword := congrArg (fun s : String => headWord s.toList) h
  simp only [headWord_wrapWith fits] at hword
  cases hg : given name with
  | none =>
    cases hg' : given name' with
    | none =>
      rw [wrapWith_of_given_eq_none hg, wrapWith_of_given_eq_none hg'] at h
      exact ⟨rfl, h⟩
    | some s' =>
      rw [hg, hg', if_pos rfl, if_neg (by simp)] at hword
      exact absurd hword hl
  | some s =>
    cases hg' : given name' with
    | none =>
      rw [hg, hg', if_pos rfl, if_neg (by simp)] at hword
      exact absurd hword.symm hl'
    | some s' =>
      have hs : ' ' ∉ s.toList := hn s (Option.filter_eq_some_iff.1 hg).1
      have hs' : ' ' ∉ s'.toList := hn' s' (Option.filter_eq_some_iff.1 hg').1
      rw [wrapWith_of_given_eq_some hg, wrapWith_of_given_eq_some hg'] at h
      have hchars := congrArg String.toList h
      rw [fits.toList, fits.toList] at hchars
      have hname := List.append_cancel_left (List.cons.inj (List.append_cancel_left hchars)).2
      obtain ⟨hss, hrest⟩ := append_cons_cancel hs hs' hname
      have hline := List.append_cancel_right (List.append_cancel_left hrest)
      exact ⟨congrArg some (String.toList_inj.1 hss), String.toList_inj.1 hline⟩

end Wrap

/-! ## Variables -/

/-- The name and the value of a variable can be told apart and end at a space. -/
def Legible (binding : String × String) : Prop :=
  '=' ∉ binding.1.toList ∧ ' ' ∉ binding.1.toList ∧ ' ' ∉ binding.2.toList

instance : DecidablePred Legible :=
  fun _ => inferInstanceAs (Decidable (_ ∧ _ ∧ _))

/-- The characters of the assignments with a line after them. -/
def assigned : Entries String → List Char → List Char
  | [], line => line
  | (key, value) :: rest, line =>
    key.toList ++ '=' :: (value.toList ++ ' ' :: assigned rest line)

theorem toList_assignments (binding : String × String) (rest : Entries String) (line : String) :
    (assignments (binding :: rest) ++ " " ++ line).toList =
      assigned (binding :: rest) line.toList := by
  induction rest generalizing binding with
  | nil => simp [assignments, assigned, join]
  | cons next rest ih =>
    have hjoin : assignments (binding :: next :: rest) =
        binding.1 ++ "=" ++ binding.2 ++ " " ++ assignments (next :: rest) := rfl
    have hchars : (assignments (binding :: next :: rest) ++ " " ++ line).toList =
        binding.1.toList ++ '=' ::
          (binding.2.toList ++ ' ' :: (assignments (next :: rest) ++ " " ++ line).toList) := by
      simp [hjoin]
    rw [hchars, ih next]
    rfl

theorem toList_withEnvironment (binding : String × String) (rest : Entries String) (line : String) :
    (withEnvironment (binding :: rest) line).toList =
      ['('] ++ ' ' :: (assigned (binding :: rest) line.toList ++ [' ', ')']) := by
  rw [← toList_assignments]
  simp [withEnvironment]

theorem headWord_withEnvironment (bindings : Entries String) (line : String) :
    headWord (withEnvironment bindings line).toList =
      if bindings = [] then headWord line.toList else ['('] := by
  cases bindings with
  | nil => rfl
  | cons binding rest =>
    rw [toList_withEnvironment, if_neg (by simp)]
    exact headWord_append (by decide) _

/-- The first word of assignments has an equals sign. -/
theorem mem_headWord_assigned {binding : String × String} (h : Legible binding)
    (rest : Entries String) (line : List Char) :
    '=' ∈ headWord (assigned (binding :: rest) line) := by
  obtain ⟨key, value⟩ := binding
  have hkey : ' ' ∉ key.toList ++ '=' :: value.toList := by
    simp [h.2.1, h.2.2]
  have hassigned : assigned ((key, value) :: rest) line =
      (key.toList ++ '=' :: value.toList) ++ ' ' :: assigned rest line := by
    simp [assigned]
  rw [hassigned, headWord_append hkey]
  simp

/-- Assignments are read off one by one, up to the first word without an equals sign. -/
theorem assigned_cancel {bindings bindings' : Entries String} {line line' : List Char}
    (hb : ∀ binding ∈ bindings, Legible binding) (hb' : ∀ binding ∈ bindings', Legible binding)
    (hl : '=' ∉ headWord line) (hl' : '=' ∉ headWord line')
    (h : assigned bindings line = assigned bindings' line') :
    bindings = bindings' ∧ line = line' := by
  induction bindings generalizing bindings' with
  | nil =>
    cases bindings' with
    | nil => exact ⟨rfl, h⟩
    | cons binding' rest' =>
      have hmem := mem_headWord_assigned (hb' binding' List.mem_cons_self) rest' line'
      rw [← h] at hmem
      exact absurd hmem hl
  | cons binding rest ih =>
    cases bindings' with
    | nil =>
      have hmem := mem_headWord_assigned (hb binding List.mem_cons_self) rest line
      rw [h] at hmem
      exact absurd hmem hl'
    | cons binding' rest' =>
      obtain ⟨key, value⟩ := binding
      obtain ⟨key', value'⟩ := binding'
      obtain ⟨hk, -, hv⟩ := hb (key, value) List.mem_cons_self
      obtain ⟨hk', -, hv'⟩ := hb' (key', value') List.mem_cons_self
      obtain ⟨hkey, hafter⟩ := append_cons_cancel hk hk' h
      obtain ⟨hvalue, hrest⟩ := append_cons_cancel hv hv' hafter
      obtain ⟨rfl, hline⟩ := ih (fun b hm => hb b (List.mem_cons_of_mem _ hm))
        (fun b hm => hb' b (List.mem_cons_of_mem _ hm)) hrest
      obtain rfl : key = key' := String.toList_inj.1 hkey
      obtain rfl : value = value' := String.toList_inj.1 hvalue
      exact ⟨rfl, hline⟩

/-- **The variables can be taken off**, if the lines inside begin with words that assign nothing and
open no parenthesis. -/
theorem withEnvironment_cancel {bindings bindings' : Entries String} {line line' : String}
    (hb : ∀ binding ∈ bindings, Legible binding) (hb' : ∀ binding ∈ bindings', Legible binding)
    (hl : '=' ∉ headWord line.toList ∧ headWord line.toList ≠ ['('])
    (hl' : '=' ∉ headWord line'.toList ∧ headWord line'.toList ≠ ['('])
    (h : withEnvironment bindings line = withEnvironment bindings' line') :
    bindings = bindings' ∧ line = line' := by
  have hword := congrArg (fun s : String => headWord s.toList) h
  simp only [headWord_withEnvironment] at hword
  cases bindings with
  | nil =>
    cases bindings' with
    | nil => exact ⟨rfl, h⟩
    | cons binding' rest' => exact absurd hword hl.2
  | cons binding rest =>
    cases bindings' with
    | nil => exact absurd hword.symm hl'.2
    | cons binding' rest' =>
      have hchars := congrArg String.toList h
      rw [toList_withEnvironment, toList_withEnvironment] at hchars
      have hassigned := List.append_cancel_right
        (List.cons.inj (List.append_cancel_left hchars)).2
      obtain ⟨hbindings, hline⟩ := assigned_cancel hb hb' hl.1 hl'.1 hassigned
      exact ⟨hbindings, String.toList_inj.1 hline⟩

/-! ## The background -/

/-- The first word of a line that runs in the background. -/
def detachWord : List Char :=
  ['n', 'o', 'h', 'u', 'p']

theorem headWord_inBackground (enabled : Bool) (line : String) :
    headWord (inBackground enabled line).toList =
      if enabled then detachWord else headWord line.toList := by
  cases enabled with
  | false => rfl
  | true =>
    have hchars : (inBackground true line).toList =
        detachWord ++ ' ' :: (line.toList ++ " > /dev/null &".toList) := by
      simp [inBackground, detachWord]
    rw [hchars, headWord_append (by decide)]
    rfl

theorem inBackground_cancel {enabled enabled' : Bool} {line line' : String}
    (hl : headWord line.toList ≠ detachWord)
    (hl' : headWord line'.toList ≠ detachWord)
    (h : inBackground enabled line = inBackground enabled' line') :
    enabled = enabled' ∧ line = line' := by
  have hword := congrArg (fun s : String => headWord s.toList) h
  simp only [headWord_inBackground] at hword
  cases enabled with
  | false =>
    cases enabled' with
    | false => exact ⟨rfl, h⟩
    | true => exact absurd hword hl
  | true =>
    cases enabled' with
    | false => exact absurd hword.symm hl'
    | true =>
      have hchars := congrArg String.toList h
      simp only [inBackground, ite_true, String.toList_append] at hchars
      have hline := List.append_cancel_left (List.append_cancel_right hchars)
      exact ⟨rfl, String.toList_inj.1 hline⟩

end Invocation.Render

namespace Invocation

open Invocation.Render Invocation.Text

/-! ## The lines inside a line -/

namespace Command

/-- The variables that a command is run with. -/
def environmentUnder (settings : Settings) (command : Command) : Entries String :=
  mergeEnvironment settings.defaultEnv command.options.environment

/-- The mask that a command is run with. -/
def umaskUnder (settings : Settings) (command : Command) : Option Umask :=
  command.options.umask <|> settings.umask

/-- The launched command, detached if it is to run in the background. -/
def detachedUnder (settings : Settings) (command : Command) : String :=
  inBackground command.options.runInBackground
    (launched settings.commandMap command.base command.args)

/-- The line with the group around it. -/
def groupedUnder (settings : Settings) (command : Command) : String :=
  asGroup command.options.group (command.detachedUnder settings)

/-- The line with the user around that. -/
def ownedUnder (settings : Settings) (command : Command) : String :=
  asUser command.options.user (command.groupedUnder settings)

/-- The line with the variables around that. -/
def boundUnder (settings : Settings) (command : Command) : String :=
  withEnvironment (command.environmentUnder settings) (command.ownedUnder settings)

/-- The line with the mask around that. -/
def maskedUnder (settings : Settings) (command : Command) : String :=
  withUmask ((command.umaskUnder settings).map (·.text)) (command.boundUnder settings)

theorem lineUnder_eq (settings : Settings) (command : Command) :
    command.lineUnder settings =
      within command.options.workingDirectory (command.maskedUnder settings) :=
  rfl

/-- The executable is started through the launcher, and what ends at a space in the line holds no
space. -/
structure Delimited (settings : Settings) (command : Command) : Prop where
  notBuiltin : isBuiltin command.base = false
  notMapped : mapped? settings.commandMap command.base = none
  directory : ∀ s ∈ command.options.workingDirectory, ' ' ∉ s.toList
  user : ∀ s ∈ command.options.user, ' ' ∉ s.toList
  group : ∀ s ∈ command.options.group, ' ' ∉ s.toList
  environment : ∀ binding ∈ command.environmentUnder settings, Legible binding

end Command

theorem Umask.noSpace (mask : Umask) : ' ' ∉ mask.text.toList := by
  intro h
  have hall := mask.isOctal
  simp only [isOctalMask, Bool.and_eq_true, List.all_eq_true] at hall
  exact absurd (hall.2 ' ' h) (by decide)

theorem Umask.given_text (mask : Option Umask) :
    given (mask.map (·.text)) = mask.map (·.text) := by
  cases mask with
  | none => rfl
  | some mask =>
    have hne : mask.text ≠ "" := by
      intro h
      have hall := mask.isOctal
      rw [h] at hall
      cases hall
    simp [given, hne]

theorem Umask.text_injective {mask mask' : Option Umask}
    (h : mask.map (·.text) = mask'.map (·.text)) : mask = mask' := by
  cases mask with
  | none => cases mask' with
    | none => rfl
    | some mask' => cases h
  | some mask => cases mask' with
    | none => cases h
    | some mask' =>
      obtain ⟨text, isOctal⟩ := mask
      obtain ⟨text', isOctal'⟩ := mask'
      obtain rfl : text = text' := Option.some.inj h
      rfl

namespace Command.Delimited

variable {settings settings' : Settings} {command command' : Command}

theorem launched_eq (h : Delimited settings command) :
    launched settings.commandMap command.base command.args =
      launcher ++ " " ++ command.words := by
  simp only [launched, h.notBuiltin, h.notMapped]
  rfl

theorem headWord_launched (h : Delimited settings command) :
    headWord (launched settings.commandMap command.base command.args).toList =
      launcher.toList := by
  have hchars : (launcher ++ " " ++ command.words).toList =
      launcher.toList ++ ' ' :: command.words.toList := by simp
  rw [h.launched_eq, hchars, headWord_append (by decide)]

theorem headWord_detached (h : Delimited settings command) :
    headWord (command.detachedUnder settings).toList ∈ [detachWord, launcher.toList] := by
  rw [detachedUnder, headWord_inBackground, h.headWord_launched]
  split <;> simp

theorem headWord_grouped (h : Delimited settings command) :
    headWord (command.groupedUnder settings).toList ∈
      [Frame.group.word, detachWord, launcher.toList] :=
  headWord_wrapWith_mem Frame.fits_group h.headWord_detached

theorem headWord_owned (h : Delimited settings command) :
    headWord (command.ownedUnder settings).toList ∈
      [Frame.user.word, Frame.group.word, detachWord, launcher.toList] :=
  headWord_wrapWith_mem Frame.fits_user h.headWord_grouped

theorem headWord_bound (h : Delimited settings command) :
    headWord (command.boundUnder settings).toList ∈
      [['('], Frame.user.word, Frame.group.word, detachWord, launcher.toList] := by
  rw [boundUnder, headWord_withEnvironment]
  split
  · exact List.mem_cons_of_mem _ h.headWord_owned
  · exact List.mem_cons_self

theorem headWord_masked (h : Delimited settings command) :
    headWord (command.maskedUnder settings).toList ∈
      [Frame.mask.word, ['('], Frame.user.word, Frame.group.word, detachWord, launcher.toList] :=
  headWord_wrapWith_mem Frame.fits_mask h.headWord_bound

theorem masked_ne (h : Delimited settings command) :
    headWord (command.maskedUnder settings).toList ≠ Frame.directory.word :=
  ne_of_mem_of_not_mem h.headWord_masked (by decide)

theorem bound_ne (h : Delimited settings command) :
    headWord (command.boundUnder settings).toList ≠ Frame.mask.word :=
  ne_of_mem_of_not_mem h.headWord_bound (by decide)

theorem owned_ne (h : Delimited settings command) :
    '=' ∉ headWord (command.ownedUnder settings).toList ∧
      headWord (command.ownedUnder settings).toList ≠ ['('] := by
  have hwords : ∀ word ∈ [Frame.user.word, Frame.group.word, detachWord,
      launcher.toList], '=' ∉ word ∧ word ≠ ['('] := by decide
  exact hwords _ h.headWord_owned

theorem grouped_ne (h : Delimited settings command) :
    headWord (command.groupedUnder settings).toList ≠ Frame.user.word :=
  ne_of_mem_of_not_mem h.headWord_grouped (by decide)

theorem detached_ne (h : Delimited settings command) :
    headWord (command.detachedUnder settings).toList ≠ Frame.group.word :=
  ne_of_mem_of_not_mem h.headWord_detached (by decide)

theorem launched_ne (h : Delimited settings command) :
    headWord (launched settings.commandMap command.base command.args).toList ≠ detachWord := by
  rw [h.headWord_launched]
  decide

/-- The mask can be taken off like a name. -/
theorem umask_cancel (h : Delimited settings command) (h' : Delimited settings' command')
    (heq : command.maskedUnder settings = command'.maskedUnder settings') :
    command.umaskUnder settings = command'.umaskUnder settings' ∧
      command.boundUnder settings = command'.boundUnder settings' := by
  have noSpace : ∀ (mask : Option Umask), ∀ s ∈ mask.map (·.text), ' ' ∉ s.toList := by
    intro mask s hs
    obtain ⟨mask, -, rfl⟩ := Option.map_eq_some_iff.1 hs
    exact mask.noSpace
  obtain ⟨hmask, hline⟩ :=
    wrapWith_cancel Frame.fits_mask (noSpace _) (noSpace _) h.bound_ne h'.bound_ne heq
  rw [Umask.given_text, Umask.given_text] at hmask
  exact ⟨Umask.text_injective hmask, hline⟩

theorem words_cancel (h : Delimited settings command) (h' : Delimited settings' command')
    (heq : launched settings.commandMap command.base command.args =
      launched settings'.commandMap command'.base command'.args) :
    command.words = command'.words := by
  rw [h.launched_eq, h'.launched_eq] at heq
  have hchars := congrArg String.toList heq
  simp only [String.toList_append] at hchars
  exact String.toList_inj.1 (List.append_cancel_left hchars)

end Command.Delimited

/-- **Lines are uniquely decodable**: commands with one line have the same directory, mask,
variables, user, group and background, and the same words. -/
theorem eq_of_lineUnder_eq {settings settings' : Settings} {command command' : Command}
    (h : command.Delimited settings) (h' : command'.Delimited settings')
    (heq : command.lineUnder settings = command'.lineUnder settings') :
    given command.options.workingDirectory = given command'.options.workingDirectory ∧
      command.umaskUnder settings = command'.umaskUnder settings' ∧
      command.environmentUnder settings = command'.environmentUnder settings' ∧
      given command.options.user = given command'.options.user ∧
      given command.options.group = given command'.options.group ∧
      command.options.runInBackground = command'.options.runInBackground ∧
      command.words = command'.words := by
  rw [Command.lineUnder_eq, Command.lineUnder_eq] at heq
  obtain ⟨hdirectory, hmasked⟩ :=
    wrapWith_cancel Frame.fits_directory h.directory h'.directory h.masked_ne h'.masked_ne heq
  obtain ⟨humask, hbound⟩ := h.umask_cancel h' hmasked
  obtain ⟨henvironment, howned⟩ :=
    withEnvironment_cancel h.environment h'.environment h.owned_ne h'.owned_ne hbound
  obtain ⟨huser, hgrouped⟩ :=
    wrapWith_cancel Frame.fits_user h.user h'.user h.grouped_ne h'.grouped_ne howned
  obtain ⟨hgroup, hdetached⟩ :=
    wrapWith_cancel Frame.fits_group h.group h'.group h.detached_ne h'.detached_ne hgrouped
  obtain ⟨hbackground, hlaunched⟩ :=
    inBackground_cancel h.launched_ne h'.launched_ne hdetached
  exact ⟨hdirectory, humask, henvironment, huser, hgroup, hbackground, h.words_cancel h' hlaunched⟩

/-! ## Two ways to ask for one line -/

/-- A command of a base, arguments and options. -/
def plainCommand (base : String) (args : List String) (options : Options) : Command :=
  ⟨⟨0⟩, base, args, options, Verbosity.info, true, none⟩

/-- Options with every wrap but the mask. -/
def wrappedOptions : Options :=
  { Options.none with
    environment := [("A", "1")], workingDirectory := some "/srv", user := some "deploy"
    group := some "www", runInBackground := true }

/-- Settings with a mask and a variable. -/
def maskedSettings : Settings :=
  { Settings.defaults with umask := some ⟨"022", by decide⟩, defaultEnv := [("path", "/bin")] }

/-- A command whose base holds an argument. -/
def pushWhole : Command :=
  plainCommand "git push" ["origin"] wrappedOptions

/-- A command with a mask and variables of its own. -/
def pushCut : Command :=
  plainCommand "git" ["push", "origin"]
    { wrappedOptions with
      environment := [("PATH", "/bin"), ("a", "1")], umask := some ⟨"022", by decide⟩ }

theorem delimited_pushWhole : pushWhole.Delimited maskedSettings where
  notBuiltin := by decide
  notMapped := by decide
  directory := by simp [pushWhole, plainCommand, wrappedOptions]
  user := by simp [pushWhole, plainCommand, wrappedOptions]
  group := by simp [pushWhole, plainCommand, wrappedOptions]
  environment := by decide

theorem delimited_pushCut : pushCut.Delimited .defaults where
  notBuiltin := by decide
  notMapped := by decide
  directory := by simp [pushCut, plainCommand, wrappedOptions]
  user := by simp [pushCut, plainCommand, wrappedOptions]
  group := by simp [pushCut, plainCommand, wrappedOptions]
  environment := by decide

/-- The mask and the variable come from the settings or from the command, and the words are cut in
one way or another. -/
theorem eq_of_lineUnder_eq_push :
    pushWhole.lineUnder maskedSettings = pushCut.lineUnder .defaults ∧
      pushWhole.umaskUnder maskedSettings = pushCut.umaskUnder .defaults ∧
      pushWhole.environmentUnder maskedSettings = pushCut.environmentUnder .defaults ∧
      pushWhole.words = pushCut.words := by
  have heq : pushWhole.lineUnder maskedSettings = pushCut.lineUnder .defaults := by decide
  obtain ⟨-, humask, henvironment, -, -, -, hwords⟩ :=
    eq_of_lineUnder_eq delimited_pushWhole delimited_pushCut heq
  exact ⟨heq, humask, henvironment, hwords⟩

/-- An empty user is written like no user. -/
theorem lineUnder_empty_user :
    ¬∀ (settings settings' : Settings) (command command' : Command),
      command.Delimited settings → command'.Delimited settings' →
        command.lineUnder settings = command'.lineUnder settings' →
          command.options.user = command'.options.user := by
  intro h
  have huser := h .defaults .defaults (plainCommand "ls" [] { Options.none with user := some "" })
    (plainCommand "ls" [] .none)
    ⟨by decide, by decide, by decide, by decide, by decide, by decide⟩
    ⟨by decide, by decide, by decide, by decide, by decide, by decide⟩ (by decide)
  cases huser

end Invocation

import Invocation.Proofs.Collapsed
import Invocation.Proofs.Line

/-!
# Quotes in a line

The line of a command with a user is read back as the shell reads double quotes (`quotedWord?`). The word
that is opened by the user's wrap ends at the last quote of that wrap, and is the line inside the wrap,
where the quotes of a group are plain ones; the word that is opened by those is the innermost line
(`layered_of_given`). What stands around the wrap ends before the word and begins after it
(`lineUnder_eq_around`), so that it does not matter what it is.

The words of the command must be plain (`Command.PlainWords`): the wraps escape nothing in them.
-/

namespace Invocation.Render

open Invocation.Entries Invocation.Text

/-! ## Reading double quotes -/

/-- The characters that do not stand for themselves between double quotes. -/
def isQuoteActive (c : Char) : Bool :=
  c = '"' || c = '\\' || c = '$' || c = '`'

/-- What a word in double quotes holds, read after its opening quote, and what follows its closing quote.
A backslash takes the meaning from an active character after it, joins a line to the next one, and else
stands for itself. Nothing, if the word has no end or is no fixed text. -/
def quotedWord? : List Char → Option (List Char × List Char)
  | [] => none
  | '"' :: rest => some ([], rest)
  | '\\' :: c :: rest =>
    if c = '\n' then quotedWord? rest
    else (quotedWord? rest).map fun (word, after) =>
      (if isQuoteActive c then c :: word else '\\' :: c :: word, after)
  | c :: rest =>
    if isQuoteActive c then none
    else (quotedWord? rest).map fun (word, after) => (c :: word, after)

/-- Every character of the text stands for itself between double quotes. -/
def Plain (cs : List Char) : Prop :=
  ∀ c ∈ cs, isQuoteActive c = false

instance : DecidablePred Plain :=
  fun cs => List.decidableBAll _ cs

theorem Plain.append {cs ds : List Char} (hc : Plain cs) (hd : Plain ds) : Plain (cs ++ ds) := by
  intro c h
  rcases List.mem_append.1 h with h | h
  · exact hc c h
  · exact hd c h

theorem Plain.of_subset {cs ds : List Char} (hd : Plain ds) (h : cs ⊆ ds) : Plain cs :=
  fun c hc => hd c (h hc)

theorem quotedWord?_cons {c : Char} (h : isQuoteActive c = false) (rest : List Char) :
    quotedWord? (c :: rest) =
      (quotedWord? rest).map fun (word, after) => (c :: word, after) := by
  have hquote : c ≠ '"' := by rintro rfl; cases h
  have hbackslash : c ≠ '\\' := by rintro rfl; cases h
  rw [quotedWord?.eq_def]
  split
  · next he => cases he
  · next he => exact absurd (List.cons.inj he).1 hquote
  · next he => exact absurd (List.cons.inj he).1 hbackslash
  · next he =>
    obtain ⟨rfl, rfl⟩ := List.cons.inj he
    rw [h]
    rfl

/-- Plain characters are read as they are. -/
theorem quotedWord?_append {cs : List Char} (h : Plain cs) (rest : List Char) :
    quotedWord? (cs ++ rest) =
      (quotedWord? rest).map fun (word, after) => (cs ++ word, after) := by
  induction cs with
  | nil => simp
  | cons c cs ih =>
    have hrest : Plain cs := fun c' hc' => h c' (List.mem_cons_of_mem _ hc')
    rw [List.cons_append, quotedWord?_cons (h c List.mem_cons_self), ih hrest, Option.map_map]
    rfl

theorem quotedWord?_quote (rest : List Char) : quotedWord? ('"' :: rest) = some ([], rest) :=
  rfl

theorem quotedWord?_escaped_quote (rest : List Char) :
    quotedWord? ('\\' :: '"' :: rest) =
      (quotedWord? rest).map fun (word, after) => ('"' :: word, after) :=
  rfl

/-- A plain word ends at the next quote. -/
theorem quotedWord?_plain {cs : List Char} (h : Plain cs) (rest : List Char) :
    quotedWord? (cs ++ '"' :: rest) = some (cs, rest) := by
  rw [quotedWord?_append h, quotedWord?_quote]
  exact congrArg (fun word => some (word, rest)) (List.append_nil cs)

/-- Escaped quotes do not end a word. -/
theorem quotedWord?_nested {front inner : List Char} (hfront : Plain front) (hinner : Plain inner)
    (rest : List Char) :
    quotedWord? (front ++ '\\' :: '"' :: (inner ++ '\\' :: '"' :: '"' :: rest)) =
      some (front ++ '"' :: (inner ++ ['"']), rest) := by
  rw [quotedWord?_append hfront, quotedWord?_escaped_quote, quotedWord?_append hinner,
    quotedWord?_escaped_quote, quotedWord?_quote]
  rfl

example : quotedWord? "sg www -c \\\"ls\\\"\" )".toList =
    some ("sg www -c \"ls\"".toList, " )".toList) := by decide

/-! ## Plain words -/

theorem plain_join {sep : String} (hsep : Plain sep.toList) {words : List String}
    (h : ∀ word ∈ words, Plain word.toList) : Plain (join sep words).toList := by
  induction words with
  | nil => exact fun c hc => by cases hc
  | cons word rest ih =>
    have hrest := ih fun other hother => h other (List.mem_cons_of_mem _ hother)
    have hword := h word List.mem_cons_self
    cases rest with
    | nil => exact hword
    | cons next rest =>
      rw [join, String.toList_append, String.toList_append]
      · exact (hword.append hsep).append hrest
      · simp

theorem cutChars_subset (sep : Char) (cs : List Char) : ((cutChars sep cs).2.getD []) ⊆ cs := by
  induction cs with
  | nil => exact List.Subset.refl _
  | cons c rest ih =>
    rw [cutChars]
    split
    · exact List.subset_cons_self c rest
    · exact List.Subset.trans ih (List.subset_cons_self c rest)

theorem plain_mapped? {map : Entries String} {base start : String} (hbase : Plain base.toList)
    (hvalue : ∀ value, map.get? (cut ' ' base).1 = some value → Plain value.toList)
    (h : mapped? map base = some start) : Plain start.toList := by
  obtain ⟨value, hfound, rfl⟩ := Option.map_eq_some_iff.1 h
  have hrest : Plain ((cut ' ' base).2.getD "").toList := by
    have hchars : ((cut ' ' base).2.getD "").toList = (cutChars ' ' base.toList).2.getD [] := by
      cases hcut : (cutChars ' ' base.toList).2 <;> simp [cut, hcut]
    rw [hchars]
    exact hbase.of_subset (cutChars_subset ' ' _)
  have hspace : Plain " ".toList := by decide
  have hwhole : Plain (value ++ " " ++ (cut ' ' base).2.getD "").toList := by
    rw [String.toList_append, String.toList_append]
    exact ((hvalue value hfound).append hspace).append hrest
  rw [trimEnd, String.toList_ofList]
  exact hwhole.of_subset (trimEndChars_subset _)

theorem plain_launched {map : Entries String} {base : String} {args : List String}
    (hbase : Plain base.toList) (hargs : ∀ arg ∈ args, Plain arg.toList)
    (hvalue : isBuiltin base = false →
      ∀ value, map.get? (cut ' ' base).1 = some value → Plain value.toList) :
    Plain (launched map base args).toList := by
  have hspace : Plain " ".toList := by decide
  have hwords {first : String} (hfirst : Plain first.toList) {rest : List String}
      (hrest : ∀ word ∈ rest, Plain word.toList) : Plain (join " " (first :: rest)).toList :=
    plain_join hspace fun word hword => by
      rcases List.mem_cons.1 hword with rfl | hword
      · exact hfirst
      · exact hrest word hword
  unfold launched
  split
  · exact hwords hbase hargs
  · next hbuiltin =>
    have hvalue := hvalue (Bool.eq_false_iff.2 hbuiltin)
    split
    · next hmapped => exact hwords (plain_mapped? hbase hvalue hmapped) hargs
    · have hlauncher : Plain launcher.toList := by decide
      refine hwords hlauncher fun word hword => ?_
      rcases List.mem_cons.1 hword with rfl | hword
      · exact hbase
      · exact hargs word hword

theorem plain_inBackground (enabled : Bool) {line : String} (h : Plain line.toList) :
    Plain (inBackground enabled line).toList := by
  cases enabled with
  | false => exact h
  | true =>
    have hfront : Plain "nohup ".toList := by decide
    have hback : Plain " > /dev/null &".toList := by decide
    rw [inBackground, if_pos rfl, String.toList_append, String.toList_append]
    exact (hfront.append h).append hback

/-! ## What stands around a line -/

/-- Wraps that write in front of a line only leave what follows it where it is. -/
theorem wrapWith_append {wrap : String → String → String}
    (hwrap : ∀ name line more, wrap name (line ++ more) = wrap name line ++ more)
    (name : Option String) (line more : String) :
    wrapWith wrap name (line ++ more) = wrapWith wrap name line ++ more := by
  cases name with
  | none => rfl
  | some s =>
    unfold wrapWith
    dsimp only
    split
    · rfl
    · exact hwrap s line more

theorem within_append (directory : Option String) (line more : String) :
    within directory (line ++ more) = within directory line ++ more :=
  wrapWith_append (fun _ _ _ => by simp only [String.append_assoc]) directory line more

theorem withUmask_append (mask : Option String) (line more : String) :
    withUmask mask (line ++ more) = withUmask mask line ++ more :=
  wrapWith_append (fun _ _ _ => by simp only [String.append_assoc]) mask line more

end Invocation.Render

namespace Invocation

open Invocation.Render Invocation.Text

namespace Command

/-- What the directory, the mask and the variables write in front of a line. -/
def opening (settings : Settings) (command : Command) : String :=
  within command.options.workingDirectory <|
    withUmask ((command.umaskUnder settings).map (·.text)) <|
      match command.environmentUnder settings with
      | [] => ""
      | bindings => "( " ++ assignments bindings ++ " "

/-- What the variables write after a line. -/
def closing (settings : Settings) (command : Command) : String :=
  match command.environmentUnder settings with
  | [] => ""
  | _ => " )"

/-- The command without user, group, variables, mask and directory. -/
def bare (command : Command) : Command :=
  { command with
    options.environment := []
    options.workingDirectory := none
    options.user := none
    options.group := none
    options.umask := none }

end Command

/-- The settings without variables and mask. -/
def Settings.bare (settings : Settings) : Settings :=
  { settings with defaultEnv := [], umask := none }

namespace Command

/-- The characters of a command's words, of its group and of what the map has for its executable, if that
is used, stand for themselves between double quotes. -/
structure PlainWords (settings : Settings) (command : Command) : Prop where
  base : Plain command.base.toList
  args : ∀ arg ∈ command.args, Plain arg.toList
  mapped : isBuiltin command.base = false →
    ∀ value, settings.commandMap.get? (cut ' ' command.base).1 = some value → Plain value.toList
  group : ∀ group ∈ command.options.group, Plain group.toList

variable {settings : Settings} {command : Command}

theorem lineUnder_eq_around (settings : Settings) (command : Command) :
    command.lineUnder settings =
      command.opening settings ++ command.ownedUnder settings ++ command.closing settings := by
  rw [lineUnder_eq, maskedUnder, boundUnder, opening, closing]
  cases command.environmentUnder settings with
  | nil =>
    have hempty (line : String) : line = "" ++ line := by simp
    rw [String.append_empty]
    change within _ (withUmask _ (command.ownedUnder settings)) = _
    rw [hempty (command.ownedUnder settings), withUmask_append, within_append]
    simp
  | cons binding rest =>
    change within _ (withUmask _ ("( " ++ assignments (binding :: rest) ++ " " ++
      command.ownedUnder settings ++ " )")) = _
    rw [withUmask_append, within_append, withUmask_append, within_append]

theorem lineUnder_bare (settings : Settings) (command : Command) :
    command.bare.lineUnder settings.bare = command.detachedUnder settings :=
  rfl

theorem PlainWords.detached (h : command.PlainWords settings) :
    Plain (command.detachedUnder settings).toList :=
  plain_inBackground _ (plain_launched h.base h.args h.mapped)

/-- The line opens a word after the words that start a shell as the user, and closes it right before what
follows the wrap. The word is the innermost line, or the words that start a shell under the group with the
innermost line in plain quotes, which are read back to it and end the word. -/
def Layered (settings : Settings) (command : Command) (user : String) (group : Option String) : Prop :=
  let innermost := (command.bare.lineUnder settings.bare).toList
  let after := (command.closing settings).toList
  ∃ body word,
    (command.lineUnder settings).toList =
      (command.opening settings).toList ++ ("sudo su " ++ user ++ " -c ").toList ++
        '"' :: (body ++ '"' :: after) ∧
    quotedWord? (body ++ '"' :: after) = some (word, after) ∧
    match group with
    | none => word = innermost
    | some group =>
      word = ("sg " ++ group ++ " -c ").toList ++ '"' :: (innermost ++ ['"']) ∧
        quotedWord? (innermost ++ ['"']) = some (innermost, [])

end Command

/-- **Quotes are layered right**: in the line of a command with a user, the quotes of the user's wrap hold
the innermost line, or the group's wrap with the innermost line in its quotes. Variables, mask, directory
and background may be any. -/
theorem layered_of_given {settings : Settings} {command : Command} {user : String}
    (huser : given command.options.user = some user) (hplain : command.PlainWords settings) :
    command.Layered settings user (given command.options.group) := by
  have howned : command.ownedUnder settings =
      "sudo su " ++ user ++ " -c \"" ++ command.groupedUnder settings ++ "\"" := by
    rw [Command.ownedUnder, asUser, wrapWith_of_given_eq_some huser]
  have hline : (command.lineUnder settings).toList =
      (command.opening settings).toList ++ ("sudo su " ++ user ++ " -c ").toList ++
        '"' :: ((command.groupedUnder settings).toList ++ '"' :: (command.closing settings).toList) := by
    rw [Command.lineUnder_eq_around, howned]
    simp
  have hinnermost := hplain.detached
  unfold Command.Layered
  rw [Command.lineUnder_bare]
  refine ⟨(command.groupedUnder settings).toList, ?_⟩
  rw [Command.groupedUnder, asGroup] at hline ⊢
  cases hgroup : given command.options.group with
  | none =>
    rw [wrapWith_of_given_eq_none hgroup] at hline ⊢
    exact ⟨_, hline, quotedWord?_plain hinnermost _, rfl⟩
  | some group =>
    have hgiven : group ∈ command.options.group := (Option.filter_eq_some_iff.1 hgroup).1
    have hsg : Plain "sg ".toList := by decide
    have hflag : Plain " -c ".toList := by decide
    have hfront : Plain ("sg " ++ group ++ " -c ").toList := by
      rw [String.toList_append, String.toList_append]
      exact (hsg.append (hplain.group group hgiven)).append hflag
    rw [wrapWith_of_given_eq_some hgroup] at hline ⊢
    refine ⟨_, hline, ?_, rfl, quotedWord?_plain hinnermost []⟩
    have hread := quotedWord?_nested hfront hinnermost (command.closing settings).toList
    simpa using hread

/-- A wrap of each kind, with quotes and dollar signs in what stands outside of the user's. -/
def quotedPush : Command :=
  plainCommand "git push" ["origin"]
    { wrappedOptions with
      environment := [("A", "\"$HOME\"")], workingDirectory := some "/srv/\"x" }

theorem layered_quotedPush :
    given quotedPush.options.user = some "deploy" ∧ quotedPush.PlainWords maskedSettings ∧
      quotedPush.Layered maskedSettings "deploy" (some "www") := by
  have huser : given quotedPush.options.user = some "deploy" := rfl
  have hplain : quotedPush.PlainWords maskedSettings :=
    { base := by decide
      args := by decide
      mapped := fun _ value hvalue => by cases hvalue
      group := by simp [quotedPush, plainCommand, wrappedOptions]; decide }
  exact ⟨huser, hplain, layered_of_given huser hplain⟩

/-- With an empty user there are no quotes, as it is written like no user. -/
theorem not_layered_empty_user :
    ¬∀ (settings : Settings) (command : Command) (user : String),
      command.options.user = some user → command.PlainWords settings →
        command.Layered settings user command.options.group := by
  intro h
  have hplain : (plainCommand "ls" [] { Options.none with user := some "" }).PlainWords .defaults :=
    { base := by decide
      args := by decide
      mapped := fun _ value hvalue => by cases hvalue
      group := fun group hgroup => by cases hgroup }
  obtain ⟨body, word, hline, -⟩ := h _ _ "" rfl hplain
  have hhead : some '/' = some 's' := congrArg List.head? hline
  cases hhead

end Invocation

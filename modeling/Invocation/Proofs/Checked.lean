import Invocation.Proofs.Made

/-!
# Checking options

Options are read one by one, each from the value under its name (`issues_ofEntries`). If no option is given under
two names, the issues are those that each option has by itself, in the order of the options, and after them those
of the names that are none (`issues_eq`). So the order of the entries counts for the latter only, and a second name
counts as the first one. Of an option that is given under both of its names one name is not used, and no options
come of it (`ofEntries_laws`).
-/

namespace Invocation

/-! ## Entries by their keys -/

namespace Entries

variable {α : Type} {entries others : Entries α} {key : String} {a : α}

theorem isSome_get?_iff : (entries.get? key).isSome ↔ key ∈ entries.keys := by
  induction entries with
  | nil => simp [get?, keys]
  | cons entry rest ih =>
    obtain ⟨k, b⟩ := entry
    have hkeys : key ∈ keys ((k, b) :: rest) ↔ key = k ∨ key ∈ keys rest := List.mem_cons
    rw [hkeys, get?]
    by_cases hk : k = key
    · simp [hk]
    · rw [if_neg hk, ih]
      exact ⟨.inr, fun h => h.resolve_left (Ne.symm hk)⟩

theorem get?_eq_some_iff (h : entries.keys.Nodup) : entries.get? key = some a ↔ (key, a) ∈ entries := by
  induction entries with
  | nil => simp [get?]
  | cons entry rest ih =>
    obtain ⟨k, b⟩ := entry
    obtain ⟨hk, hrest⟩ := List.nodup_cons.1 h
    rw [get?, List.mem_cons, Prod.mk.injEq]
    by_cases he : k = key
    · subst he
      have hnot : (k, a) ∉ rest := fun hmem => hk (List.mem_map.2 ⟨(k, a), hmem, rfl⟩)
      simp [hnot, eq_comm]
    · rw [if_neg he, ih hrest]
      exact ⟨.inr, fun h => h.resolve_left fun hboth => he hboth.1.symm⟩

theorem get?_perm (h : entries.keys.Nodup) (hperm : entries.Perm others) (key : String) :
    others.get? key = entries.get? key := by
  have hothers : others.keys.Nodup := (hperm.map Prod.fst).nodup_iff.1 h
  refine Option.ext fun a => ?_
  rw [get?_eq_some_iff hothers, get?_eq_some_iff h, hperm.mem_iff]

end Entries

/-- The issue in a place whose names are changed. -/
def Issue.renamed (rename : String → String) (issue : Issue) : Issue :=
  { issue with place := issue.place.map rename }

theorem Issue.renamed_id : Issue.renamed id = id := by
  funext issue
  rw [Issue.renamed, List.map_id]
  rfl

namespace Options

open Invocation.Entries

/-! ## What is wrong with an option -/

/-- What is wrong with a value for a reader, if anything is. -/
def complaint? {α : Type} (reader : Value → Except Complaint α) (value : Value) : Option Complaint :=
  match reader value with
  | .ok _ => .none
  | .error complaint => some complaint

/-- The options in order, each with its names and what is wrong with a value of it. -/
def checks : List (List String × (Value → Option Complaint)) := [
  (["environment", "env"], complaint? readEnvironment), (["working_directory", "cd"], complaint? readText),
  (["user"], complaint? readText), (["group"], complaint? readText),
  (["run_in_background"], complaint? Field.flag), (["umask"], complaint? Field.umask),
  (["verbosity"], complaint? readVerbosity),
  (["raise_on_non_zero_exit", "raise_on_nonzero_exit"], complaint? readFlag), (["host"], complaint? readHost)]

/-- The issues with the value of an option under the first of its names that is given. -/
def optionIssues (entries : Entries Value) (choices : List String) (check : Value → Option Complaint) :
    List Issue :=
  match nameIn? entries choices with
  | .none => []
  | some name => ((entries.get? name).bind check).toList.map (.atField name)

section Readings

variable {α : Type} (reader : Value → Except Complaint α) (default : α) (choices : List String)
  (entries : Entries Value)

theorem readOption_cases : (∃ a, readOption reader default choices entries = .ok a) ∧
      optionIssues entries choices (complaint? reader) = [] ∨
    ∃ issue, readOption reader default choices entries = .error [issue] ∧
      optionIssues entries choices (complaint? reader) = [issue] := by
  unfold readOption optionIssues Field.orDefault Field.single complaint?
  cases nameIn? entries choices with
  | none => exact .inl ⟨⟨default, rfl⟩, rfl⟩
  | some name =>
    dsimp only
    cases entries.get? name with
    | none => exact .inl ⟨⟨default, rfl⟩, rfl⟩
    | some value =>
      dsimp only [Option.bind_some]
      cases reader value with
      | ok a => exact .inl ⟨⟨a, rfl⟩, rfl⟩
      | error complaint => exact .inr ⟨.atField name complaint, rfl, rfl⟩

theorem issues_readOption :
    Field.issues (readOption reader default choices entries) =
      optionIssues entries choices (complaint? reader) := by
  obtain ⟨⟨a, hread⟩, hissues⟩ | ⟨issue, hread, hissues⟩ := readOption_cases reader default choices entries
  · rw [hread, hissues]
    rfl
  · rw [hread, hissues]
    rfl

variable {reader choices entries} in
theorem exists_readOption (h : optionIssues entries choices (complaint? reader) = []) :
    ∃ a, readOption reader default choices entries = .ok a := by
  obtain ⟨hread, -⟩ | ⟨issue, -, hissues⟩ := readOption_cases reader default choices entries
  · exact hread
  · rw [h] at hissues
    cases hissues

end Readings

/-- An option that is given under one of its names at most is read from the value under it. -/
theorem readOption_eq_ok_iff {α : Type} {reader : Value → Except Complaint α} {default a : α}
    {choices : List String} {entries : Entries Value} {name : String} (hname : name ∈ choices)
    (hothers : ∀ other ∈ choices, other ≠ name → entries.get? other = Option.none) :
    readOption reader default choices entries = .ok a ↔
      Settings.Reads reader default (entries.get? name) a := by
  have hused : nameIn? entries choices = (entries.get? name).map fun _ => name := by
    cases hget : entries.get? name with
    | none =>
      refine List.find?_eq_none.2 fun other hother => ?_
      by_cases hsame : other = name
      · simp [hsame, hget]
      · simp [hothers other hother hsame]
    | some value =>
      have hfound : (nameIn? entries choices).isSome :=
        List.find?_isSome.2 ⟨name, hname, by simp [hget]⟩
      obtain ⟨other, hother⟩ := Option.isSome_iff_exists.1 hfound
      have hgiven := List.find?_some hother
      by_cases hsame : other = name
      · rw [hother, hsame]
        rfl
      · rw [hothers other (List.mem_of_find?_eq_some hother) hsame] at hgiven
        cases hgiven
  rw [readOption, hused]
  cases hget : entries.get? name with
  | none => exact ⟨fun h => (Except.ok.inj h).symm, fun h => congrArg _ (Eq.symm h)⟩
  | some value =>
    rw [Option.map_some]
    dsimp only
    rw [Settings.orDefault_eq_ok_iff, Settings.reads_single_iff, hget]

section OfEntries

variable {entries : Entries Value}

theorem ofEntries_eq_ok {o : Options} :
    ofEntries entries = .ok o ↔
      readOption readEnvironment [] ["environment", "env"] entries = .ok o.environment ∧
      readOption readText .none ["working_directory", "cd"] entries = .ok o.workingDirectory ∧
      readOption readText .none ["user"] entries = .ok o.user ∧
      readOption readText .none ["group"] entries = .ok o.group ∧
      readOption Field.flag false ["run_in_background"] entries = .ok o.runInBackground ∧
      readOption Field.umask .none ["umask"] entries = .ok o.umask ∧
      readOption readVerbosity .none ["verbosity"] entries = .ok o.verbosity ∧
      readOption readFlag .none ["raise_on_non_zero_exit", "raise_on_nonzero_exit"] entries = .ok o.raises ∧
      readOption readHost .null ["host"] entries = .ok o.host ∧ unknownIssues entries = [] := by
  unfold ofEntries
  dsimp only
  split
  · rename_i h₁ h₂ h₃ h₄ h₅ h₆ h₇ h₈ h₉ h₁₀
    rw [h₁, h₂, h₃, h₄, h₅, h₆, h₇, h₈, h₉, h₁₀]
    obtain ⟨environment, workingDirectory, user, group, runInBackground, umask, verbosity, raises, host⟩ := o
    simp
  · rename_i hfails
    constructor
    · intro he
      cases he
    · rintro ⟨h₁, h₂, h₃, h₄, h₅, h₆, h₇, h₈, h₉, h₁₀⟩
      exact (hfails _ _ _ _ _ _ _ _ _ h₁ h₂ h₃ h₄ h₅ h₆ h₇ h₈ h₉ h₁₀).elim

/-- **The issues with options** are those with each of them in order, and then those with unused names. -/
theorem issues_ofEntries :
    Field.issues (ofEntries entries) =
      (checks.flatMap fun (choices, check) => optionIssues entries choices check) ++ unknownIssues entries := by
  have hnone {α : Type} {reader : Value → Except Complaint α} {default a : α} {choices : List String}
      (h : readOption reader default choices entries = .ok a) :
      optionIssues entries choices (complaint? reader) = [] :=
    (issues_readOption reader default choices entries).symm.trans (congrArg Field.issues h)
  unfold ofEntries checks
  dsimp only
  split
  · rename_i h₁ h₂ h₃ h₄ h₅ h₆ h₇ h₈ h₉ h₁₀
    simp only [List.flatMap_cons, List.flatMap_nil, hnone h₁, hnone h₂, hnone h₃, hnone h₄, hnone h₅, hnone h₆,
      hnone h₇, hnone h₈, hnone h₉, h₁₀, List.append_nil, Field.issues]
  · have herror (issues : List Issue) : Field.issues (.error issues : Except (List Issue) Options) = issues := rfl
    rw [herror]
    simp only [issues_readOption, List.flatMap_cons, List.flatMap_nil, List.append_assoc, List.nil_append]

theorem exists_ofEntries_iff : (∃ o, ofEntries entries = .ok o) ↔ Field.issues (ofEntries entries) = [] := by
  constructor
  · rintro ⟨o, ho⟩
    rw [ho]
    rfl
  · intro hissues
    simp only [issues_ofEntries, checks, List.flatMap_cons, List.flatMap_nil, List.append_eq_nil_iff,
      List.append_nil] at hissues
    obtain ⟨⟨h₁, h₂, h₃, h₄, h₅, h₆, h₇, h₈, h₉⟩, hunknown⟩ := hissues
    obtain ⟨environment, h₁⟩ := exists_readOption [] h₁
    obtain ⟨workingDirectory, h₂⟩ := exists_readOption .none h₂
    obtain ⟨user, h₃⟩ := exists_readOption .none h₃
    obtain ⟨group, h₄⟩ := exists_readOption .none h₄
    obtain ⟨runInBackground, h₅⟩ := exists_readOption false h₅
    obtain ⟨umask, h₆⟩ := exists_readOption .none h₆
    obtain ⟨verbosity, h₇⟩ := exists_readOption .none h₇
    obtain ⟨raises, h₈⟩ := exists_readOption .none h₈
    obtain ⟨host, h₉⟩ := exists_readOption .null h₉
    exact ⟨⟨environment, workingDirectory, user, group, runInBackground, umask, verbosity, raises, host⟩,
      ofEntries_eq_ok.2 ⟨h₁, h₂, h₃, h₄, h₅, h₆, h₇, h₈, h₉, hunknown⟩⟩

end OfEntries

/-! ## Names that are given -/

/-- No option is given under two of its names. -/
def GivenOnce (entries : Entries Value) : Prop :=
  ∀ choices ∈ names, ∀ name ∈ choices, ∀ other ∈ choices,
    name ∈ entries.keys → other ∈ entries.keys → name = other

section Names

variable {entries : Entries Value} {choices : List String} {name : String}

theorem nameIn?_eq_none_iff : nameIn? entries choices = .none ↔ ∀ name ∈ choices, name ∉ entries.keys := by
  unfold nameIn?
  rw [List.find?_eq_none]
  exact forall₂_congr fun name _ => not_congr isSome_get?_iff

theorem mem_of_nameIn? (h : nameIn? entries choices = some name) : name ∈ choices ∧ name ∈ entries.keys :=
  ⟨List.mem_of_find?_eq_some h,
    isSome_get?_iff.1 (List.find?_some (p := fun name => (entries.get? name).isSome) h)⟩

theorem nameIn?_eq_some_iff (h : GivenOnce entries) (hchoices : choices ∈ names) :
    nameIn? entries choices = some name ↔ name ∈ choices ∧ name ∈ entries.keys := by
  refine ⟨mem_of_nameIn?, fun ⟨hname, hkey⟩ => ?_⟩
  cases hused : nameIn? entries choices with
  | none => exact absurd hkey (nameIn?_eq_none_iff.1 hused name hname)
  | some used =>
    obtain ⟨hchoice, hgiven⟩ := mem_of_nameIn? hused
    rw [h choices hchoices used hchoice name hname hgiven hkey]

theorem eq_of_mem_names {others : List String} (hchoices : choices ∈ names) (hothers : others ∈ names)
    (h : name ∈ choices) (hother : name ∈ others) : others = choices := by
  have hall : ∀ choices ∈ names, ∀ others ∈ names, ∀ name ∈ choices, name ∈ others → others = choices := by
    decide
  exact hall choices hchoices others hothers name h hother

theorem ne_of_mem_names {main second : String} (h : [main, second] ∈ names) : main ≠ second := by
  have hall : ∀ choices ∈ names, choices.Nodup := by decide
  simpa using hall _ h

theorem mem_namesUsed : name ∈ namesUsed entries ↔ ∃ choices ∈ names, nameIn? entries choices = some name :=
  List.mem_filterMap

/-- The issues with the names of entries that are no options, in the order of the entries. -/
def strangeIssues (entries : Entries Value) : List Issue :=
  (entries.keys.filter (· ∉ names.flatten)).map (Issue.atField · .unknownOption)

theorem unknownIssues_eq (h : GivenOnce entries) : unknownIssues entries = strangeIssues entries := by
  have hused : ∀ name ∈ entries.keys, (name ∉ namesUsed entries ↔ name ∉ names.flatten) := by
    intro name hkey
    rw [mem_namesUsed, List.mem_flatten]
    refine not_congr (exists_congr fun choices => and_congr_right fun hchoices => ?_)
    rw [nameIn?_eq_some_iff h hchoices]
    exact and_iff_left hkey
  exact congrArg (List.map _) (List.filter_congr fun name hkey => decide_eq_decide.2 (hused name hkey))

/-- Of an option that is given under both of its names one name is not used. -/
theorem unknown_of_both {main second : String} (hnames : [main, second] ∈ names) (hmain : main ∈ entries.keys)
    (hsecond : second ∈ entries.keys) : Issue.atField second .unknownOption ∈ unknownIssues entries := by
  have hused : nameIn? entries [main, second] = some main := by
    rw [nameIn?, List.find?_cons_of_pos]
    exact isSome_get?_iff.2 hmain
  refine List.mem_map.2 ⟨second, List.mem_filter.2 ⟨hsecond, ?_⟩, rfl⟩
  rw [decide_eq_true_iff, mem_namesUsed]
  rintro ⟨choices, hchoices, hname⟩
  obtain rfl := eq_of_mem_names hnames hchoices (List.mem_cons_of_mem _ List.mem_cons_self)
    (mem_of_nameIn? hname).1
  exact ne_of_mem_names hnames (Option.some.inj (hused.symm.trans hname))

end Names

/-! ## Options by themselves -/

/-- The issues that each option has by itself, in the order of the options. -/
def issuesAlone (entries : Entries Value) : List Issue :=
  names.flatMap fun choices =>
    (entries.filter fun entry => entry.1 ∈ choices).flatMap fun entry => Field.issues (ofEntries [entry])

section Alone

variable {entries : Entries Value} {choices : List String} {check : Value → Option Complaint} {name : String}

theorem map_fst_checks : checks.map Prod.fst = names :=
  rfl

theorem checks_disjoint : checks.Pairwise fun a b => ∀ name ∈ a.1, name ∉ b.1 := by
  have hnames : names.Pairwise fun a b => ∀ name ∈ a, name ∉ b := by decide
  rw [← map_fst_checks] at hnames
  exact List.pairwise_map.1 hnames

theorem flatMap_checks {β : Type} {f : List String × (Value → Option Complaint) → List β}
    (hf : ∀ option, name ∉ option.1 → f option = []) (h : (choices, check) ∈ checks) (hname : name ∈ choices) :
    checks.flatMap f = f (choices, check) := by
  -- No two options share a name, so that those before and after this one do not have it.
  obtain ⟨front, back, hsplit⟩ := List.append_of_mem h
  have hdisjoint := checks_disjoint
  rw [hsplit, List.pairwise_append, List.pairwise_cons] at hdisjoint
  obtain ⟨-, ⟨hback, -⟩, hfront⟩ := hdisjoint
  have hbefore : front.flatMap f = [] := by
    refine List.flatMap_eq_nil_iff.2 fun option hoption => hf option fun hmem => ?_
    exact hfront option hoption _ List.mem_cons_self name hmem hname
  have hafter : back.flatMap f = [] :=
    List.flatMap_eq_nil_iff.2 fun option hoption => hf option (hback option hoption name hname)
  rw [hsplit, List.flatMap_append, List.flatMap_cons, hbefore, hafter, List.append_nil, List.nil_append]

theorem nameIn?_single (value : Value) :
    nameIn? [(name, value)] choices = if name ∈ choices then some name else .none := by
  have hkeys : keys [(name, value)] = [name] := rfl
  cases hused : nameIn? [(name, value)] choices with
  | none =>
    rw [if_neg fun hname => nameIn?_eq_none_iff.1 hused name hname (hkeys ▸ List.mem_cons_self)]
  | some used =>
    obtain ⟨hchoice, hgiven⟩ := mem_of_nameIn? hused
    rw [hkeys, List.mem_singleton] at hgiven
    subst hgiven
    rw [if_pos hchoice]

theorem issues_single (h : (choices, check) ∈ checks) (hname : name ∈ choices) (value : Value) :
    Field.issues (ofEntries [(name, value)]) = (check value).toList.map (.atField name) := by
  have hchoices : choices ∈ names := map_fst_checks ▸ List.mem_map_of_mem h
  have hused : nameIn? [(name, value)] choices = some name := by rw [nameIn?_single, if_pos hname]
  have hunknown : unknownIssues [(name, value)] = [] := by
    refine List.map_eq_nil_iff.2 (List.filter_eq_nil_iff.2 fun key hkey => ?_)
    rw [List.mem_singleton.1 hkey, decide_eq_true_iff, not_not, mem_namesUsed]
    exact ⟨choices, hchoices, hused⟩
  have hother (option : List String × (Value → Option Complaint)) (hnot : name ∉ option.1) :
      optionIssues [(name, value)] option.1 option.2 = [] := by
    rw [optionIssues, nameIn?_single, if_neg hnot]
  have hget : get? name [(name, value)] = some value := if_pos rfl
  rw [issues_ofEntries, hunknown, List.append_nil]
  refine (flatMap_checks hother h hname).trans ?_
  rw [optionIssues, hused]
  dsimp only
  rw [hget]
  rfl

theorem filter_choices (hkeys : entries.keys.Nodup) (honce : GivenOnce entries) (hchoices : choices ∈ names)
    (hname : name ∈ choices) {value : Value} (hentry : (name, value) ∈ entries) :
    entries.filter (fun entry => entry.1 ∈ choices) = [(name, value)] := by
  -- Every entry that is left is this one, and it is left once since no key is there twice.
  have hsame : ∀ entry ∈ entries.filter (fun entry => entry.1 ∈ choices), entry = (name, value) := by
    rintro ⟨other, value'⟩ hmem
    obtain ⟨hother, hchoice⟩ := List.mem_filter.1 hmem
    obtain rfl : other = name := honce choices hchoices other (of_decide_eq_true hchoice) name hname
      (List.mem_map_of_mem hother) (List.mem_map_of_mem hentry)
    have hvalue := (get?_eq_some_iff hkeys).2 hother
    rw [(get?_eq_some_iff hkeys).2 hentry, Option.some.injEq] at hvalue
    rw [hvalue]
  have hmem : (name, value) ∈ entries.filter fun entry => entry.1 ∈ choices :=
    List.mem_filter.2 ⟨hentry, decide_eq_true hname⟩
  have hnodup : (entries.filter fun entry => entry.1 ∈ choices).Nodup := (List.Nodup.of_map _ hkeys).filter _
  have hreplicate := List.eq_replicate_of_mem hsame
  rw [hreplicate, List.nodup_replicate] at hnodup
  have hlength := Nat.le_antisymm hnodup (List.length_pos_of_mem hmem)
  rw [hreplicate, hlength]
  rfl

theorem optionIssues_eq (hkeys : entries.keys.Nodup) (honce : GivenOnce entries) (h : (choices, check) ∈ checks) :
    optionIssues entries choices check =
      (entries.filter fun entry => entry.1 ∈ choices).flatMap fun entry => Field.issues (ofEntries [entry]) := by
  have hchoices : choices ∈ names := map_fst_checks ▸ List.mem_map_of_mem h
  cases hused : nameIn? entries choices with
  | none =>
    have hnone : entries.filter (fun entry => entry.1 ∈ choices) = [] := by
      refine List.filter_eq_nil_iff.2 fun entry hentry => ?_
      rw [decide_eq_true_iff]
      exact fun hname => nameIn?_eq_none_iff.1 hused entry.1 hname (List.mem_map_of_mem hentry)
    rw [optionIssues, hused, hnone]
    rfl
  | some name =>
    obtain ⟨hname, hkey⟩ := mem_of_nameIn? hused
    obtain ⟨⟨name, value⟩, hentry, rfl⟩ := List.mem_map.1 hkey
    rw [optionIssues, hused, filter_choices hkeys honce hchoices hname hentry]
    dsimp only
    rw [(get?_eq_some_iff hkeys).2 hentry, List.flatMap_singleton, issues_single h hname]
    rfl

theorem issuesAlone_eq (hkeys : entries.keys.Nodup) (honce : GivenOnce entries) :
    (checks.flatMap fun (choices, check) => optionIssues entries choices check) = issuesAlone entries := by
  rw [issuesAlone, ← map_fst_checks, List.flatMap_map]
  exact List.flatMap_congr fun ⟨choices, check⟩ h => optionIssues_eq hkeys honce h

/-- **The issues with options that are given once** are those of each option by itself, and then those with
the names that are none. -/
theorem issues_eq (hkeys : entries.keys.Nodup) (honce : GivenOnce entries) :
    Field.issues (ofEntries entries) = issuesAlone entries ++ strangeIssues entries := by
  rw [issues_ofEntries, issuesAlone_eq hkeys honce, unknownIssues_eq honce]

end Alone

/-! ## Other names and other orders -/

/-- Other entries give each option the same value, perhaps under another name. -/
structure Renamed (rename : String → String) (entries others : Entries Value) : Prop where
  used : ∀ choices ∈ names, nameIn? others choices = (nameIn? entries choices).map rename
  value : ∀ choices ∈ names, ∀ name, nameIn? entries choices = some name →
    others.get? (rename name) = entries.get? name

section Renamed

variable {rename : String → String} {entries others : Entries Value} {choices : List String}

theorem Renamed.optionIssues (h : Renamed rename entries others) (hchoices : choices ∈ names)
    (check : Value → Option Complaint) :
    optionIssues others choices check = (optionIssues entries choices check).map (Issue.renamed rename) := by
  unfold Options.optionIssues
  rw [h.used choices hchoices]
  cases hused : nameIn? entries choices with
  | none => rfl
  | some name =>
    dsimp only [Option.map_some]
    rw [h.value choices hchoices name hused, List.map_map]
    rfl

theorem Renamed.readOption (h : Renamed rename entries others) (hchoices : choices ∈ names) {α : Type}
    {reader : Value → Except Complaint α} {default a : α} :
    readOption reader default choices others = .ok a ↔ readOption reader default choices entries = .ok a := by
  unfold Options.readOption
  rw [h.used choices hchoices]
  cases hused : nameIn? entries choices with
  | none => exact Iff.rfl
  | some name =>
    dsimp only [Option.map_some]
    unfold Field.orDefault
    rw [h.value choices hchoices name hused]
    cases entries.get? name with
    | none => exact Iff.rfl
    | some value =>
      dsimp only
      unfold Field.single
      cases reader value <;> simp [Except.mapError]

theorem Renamed.ofEntries_eq_ok (h : Renamed rename entries others)
    (hunknown : unknownIssues others = [] ↔ unknownIssues entries = []) {o : Options} :
    ofEntries others = .ok o ↔ ofEntries entries = .ok o := by
  simp (disch := decide) only [Options.ofEntries_eq_ok, h.readOption, hunknown]

theorem Renamed.issues_checks (h : Renamed rename entries others) :
    (checks.flatMap fun (choices, check) => Options.optionIssues others choices check) =
      (checks.flatMap fun (choices, check) => Options.optionIssues entries choices check).map
        (Issue.renamed rename) := by
  rw [List.map_flatMap]
  refine List.flatMap_congr fun ⟨choices, check⟩ hoption => ?_
  exact h.optionIssues (map_fst_checks ▸ List.mem_map_of_mem hoption) check

end Renamed

/-! ### Other orders -/

section Orders

variable {entries others : Entries Value}

theorem renamed_perm (hkeys : entries.keys.Nodup) (hperm : entries.Perm others) : Renamed id entries others where
  used := by
    intro choices _
    unfold nameIn?
    simp only [get?_perm hkeys hperm, Option.map_id, id_eq]
  value := by
    intro choices _ name _
    exact get?_perm hkeys hperm name

theorem GivenOnce.perm (h : GivenOnce entries) (hperm : entries.Perm others) : GivenOnce others := by
  intro choices hchoices name hname other hother hkey hkey'
  have hsame (key : String) : key ∈ entries.keys ↔ key ∈ others.keys := (hperm.map Prod.fst).mem_iff
  exact h choices hchoices name hname other hother ((hsame name).2 hkey) ((hsame other).2 hkey')

theorem strangeIssues_perm (hperm : entries.Perm others) : (strangeIssues entries).Perm (strangeIssues others) :=
  ((hperm.map Prod.fst).filter _).map _

/-- **The order of options** counts for the issues with names that are none, and for nothing else. -/
theorem ofEntries_perm (hkeys : entries.keys.Nodup) (honce : GivenOnce entries) (hperm : entries.Perm others) :
    (∀ o, ofEntries others = .ok o ↔ ofEntries entries = .ok o) ∧
      Field.issues (ofEntries others) = issuesAlone entries ++ strangeIssues others := by
  have hrenamed := renamed_perm hkeys hperm
  have hstrange : unknownIssues others = [] ↔ unknownIssues entries = [] := by
    rw [unknownIssues_eq honce, unknownIssues_eq (honce.perm hperm), ← List.length_eq_zero_iff,
      ← List.length_eq_zero_iff, (strangeIssues_perm hperm).length_eq]
  refine ⟨fun o => hrenamed.ofEntries_eq_ok hstrange, ?_⟩
  rw [issues_ofEntries, hrenamed.issues_checks, Issue.renamed_id, List.map_id, issuesAlone_eq hkeys honce,
    unknownIssues_eq (honce.perm hperm)]

end Orders

/-! ### Second names -/

/-- The first name of an option in place of its second one. -/
def firstFor (first second key : String) : String :=
  if key = second then first else key

/-- The entries with the first name of an option for its second one. -/
def underFirst (first second : String) (entries : Entries Value) : Entries Value :=
  entries.map fun (key, value) => (firstFor first second key, value)

section SecondNames

variable {first second : String} (hnames : [first, second] ∈ names) {entries : Entries Value}

theorem keys_underFirst : (underFirst first second entries).keys = entries.keys.map (firstFor first second) := by
  rw [underFirst, keys, keys, List.map_map, List.map_map]
  rfl

include hnames

theorem firstFor_mem_iff {choices : List String} (hchoices : choices ∈ names) (key : String) :
    firstFor first second key ∈ choices ↔ key ∈ choices := by
  unfold firstFor
  split
  · next hkey =>
    subst hkey
    constructor
    · intro hfirst
      rw [eq_of_mem_names hnames hchoices List.mem_cons_self hfirst]
      exact List.mem_cons_of_mem _ List.mem_cons_self
    · intro hsecond
      rw [eq_of_mem_names hnames hchoices (List.mem_cons_of_mem _ List.mem_cons_self) hsecond]
      exact List.mem_cons_self
  · exact Iff.rfl

/-- Where the option is given once, no two keys become one. -/
theorem firstFor_inj (honce : GivenOnce entries) {key other : String} (hkey : key ∈ entries.keys)
    (hother : other ∈ entries.keys) (h : firstFor first second key = firstFor first second other) :
    key = other := by
  have hsecond : second ∈ entries.keys → first ∉ entries.keys := fun hsecond hfirst =>
    ne_of_mem_names hnames (honce _ hnames first List.mem_cons_self second
      (List.mem_cons_of_mem _ List.mem_cons_self) hfirst hsecond)
  unfold firstFor at h
  split at h
  · next hk =>
    subst hk
    split at h
    · next ho => exact ho.symm
    · exact absurd (h ▸ hother) (hsecond hkey)
  · split at h
    · next ho =>
      subst ho
      exact absurd (h ▸ hkey) (hsecond hother)
    · exact h

theorem nodup_keys_underFirst (hkeys : entries.keys.Nodup) (honce : GivenOnce entries) :
    (underFirst first second entries).keys.Nodup := by
  rw [keys_underFirst]
  exact hkeys.map_on fun key hkey other hother => firstFor_inj hnames honce hkey hother

theorem givenOnce_underFirst (honce : GivenOnce entries) : GivenOnce (underFirst first second entries) := by
  intro choices hchoices name hname other hother hkey hkey'
  rw [keys_underFirst] at hkey hkey'
  obtain ⟨key, hgiven, rfl⟩ := List.mem_map.1 hkey
  obtain ⟨key', hgiven', rfl⟩ := List.mem_map.1 hkey'
  rw [firstFor_mem_iff hnames hchoices] at hname hother
  rw [honce choices hchoices key hname key' hother hgiven hgiven']

theorem renamed_underFirst (hkeys : entries.keys.Nodup) (honce : GivenOnce entries) :
    Renamed (firstFor first second) entries (underFirst first second entries) where
  used := by
    intro choices hchoices
    cases hused : nameIn? entries choices with
    | none =>
      refine nameIn?_eq_none_iff.2 fun name hname hkey => ?_
      rw [keys_underFirst] at hkey
      obtain ⟨key, hgiven, rfl⟩ := List.mem_map.1 hkey
      rw [firstFor_mem_iff hnames hchoices] at hname
      exact nameIn?_eq_none_iff.1 hused key hname hgiven
    | some name =>
      obtain ⟨hname, hkey⟩ := mem_of_nameIn? hused
      refine (nameIn?_eq_some_iff (givenOnce_underFirst hnames honce) hchoices).2 ⟨?_, ?_⟩
      · exact (firstFor_mem_iff hnames hchoices name).2 hname
      · rw [keys_underFirst]
        exact List.mem_map_of_mem hkey
  value := by
    intro choices _ name hused
    obtain ⟨-, hkey⟩ := mem_of_nameIn? hused
    refine Option.ext fun value => ?_
    rw [get?_eq_some_iff (nodup_keys_underFirst hnames hkeys honce), get?_eq_some_iff hkeys]
    constructor
    · intro hmem
      obtain ⟨⟨key, value'⟩, hentry, he⟩ := List.mem_map.1 hmem
      obtain ⟨hsame, rfl⟩ := Prod.mk.inj he
      obtain rfl : key = name := firstFor_inj hnames honce (List.mem_map_of_mem hentry) hkey hsame
      exact hentry
    · intro hentry
      exact List.mem_map.2 ⟨(name, value), hentry, rfl⟩

theorem strangeIssues_underFirst :
    strangeIssues (underFirst first second entries) =
      (strangeIssues entries).map (Issue.renamed (firstFor first second)) := by
  have hflat (key : String) : firstFor first second key ∈ names.flatten ↔ key ∈ names.flatten := by
    simp only [List.mem_flatten]
    exact exists_congr fun choices => and_congr_right fun hchoices => firstFor_mem_iff hnames hchoices key
  rw [strangeIssues, strangeIssues, keys_underFirst, List.filter_map, List.map_map, List.map_map]
  simp only [Function.comp_def, hflat]
  rfl

/-- **An option under its second name** is the option under its first name, and its issue is told under that. -/
theorem ofEntries_underFirst (hkeys : entries.keys.Nodup) (honce : GivenOnce entries) :
    ofEntries (underFirst first second entries) =
      (ofEntries entries).mapError (List.map (Issue.renamed (firstFor first second))) := by
  have hrenamed := renamed_underFirst hnames hkeys honce
  have hstrange : unknownIssues (underFirst first second entries) =
      (unknownIssues entries).map (Issue.renamed (firstFor first second)) := by
    rw [unknownIssues_eq honce, unknownIssues_eq (givenOnce_underFirst hnames honce),
      strangeIssues_underFirst hnames]
  have hissues : Field.issues (ofEntries (underFirst first second entries)) =
      (Field.issues (ofEntries entries)).map (Issue.renamed (firstFor first second)) := by
    rw [issues_ofEntries, issues_ofEntries, hrenamed.issues_checks, hstrange, List.map_append]
  have hok {o : Options} := hrenamed.ofEntries_eq_ok (o := o) (by rw [hstrange, List.map_eq_nil_iff])
  -- Options come of both or of neither, and equal issues are equal errors.
  cases hentries : ofEntries entries with
  | ok o => exact hok.2 hentries
  | error issues =>
    cases hothers : ofEntries (underFirst first second entries) with
    | ok o => cases hentries.symm.trans (hok.1 hothers)
    | error issues' =>
      rw [hentries, hothers] at hissues
      exact congrArg Except.error hissues

theorem create_underFirst (hkeys : entries.keys.Nodup) (honce : GivenOnce entries) {o : Options}
    (ho : ofEntries entries = .ok o) (args : List Value) (config : Option Settings) :
    Command.create args (underFirst first second entries) config = Command.create args entries config := by
  have hothers : ofEntries (underFirst first second entries) = .ok o := by
    rw [ofEntries_underFirst hnames hkeys honce, ho]
    rfl
  unfold Command.create
  rw [hothers, ho]

end SecondNames

/-- **Options are checked one by one.** If none is given under two names, the issues are those that each has by
itself, in the order of the options, and then one for each name that is none, in the order of the entries, and
options come of the entries exactly if there are no issues. Another order changes the order of the latter issues
only, and a second name changes the name only that issues are told under. Of an option that is given under both
of its names the second one is an issue. -/
theorem ofEntries_laws {entries : Entries Value} (hkeys : entries.keys.Nodup) :
    (GivenOnce entries →
      (Field.issues (ofEntries entries) = issuesAlone entries ++ strangeIssues entries ∧
        ((∃ o, ofEntries entries = .ok o) ↔ issuesAlone entries ++ strangeIssues entries = [])) ∧
      (∀ others, entries.Perm others →
        (∀ o, ofEntries others = .ok o ↔ ofEntries entries = .ok o) ∧
          Field.issues (ofEntries others) = issuesAlone entries ++ strangeIssues others ∧
          (strangeIssues entries).Perm (strangeIssues others)) ∧
      ∀ first second, [first, second] ∈ names →
        ofEntries (underFirst first second entries) =
            (ofEntries entries).mapError (List.map (Issue.renamed (firstFor first second))) ∧
          ∀ o, ofEntries entries = .ok o → ∀ args config,
            Command.create args (underFirst first second entries) config =
              Command.create args entries config) ∧
    ∀ first second, [first, second] ∈ names → first ∈ entries.keys → second ∈ entries.keys →
      ∃ issues, ofEntries entries = .error issues ∧ Issue.atField second .unknownOption ∈ issues := by
  refine ⟨fun honce => ⟨⟨issues_eq hkeys honce, ?_⟩, fun others hperm => ?_, fun first second hnames => ?_⟩, ?_⟩
  · rw [← issues_eq hkeys honce]
    exact exists_ofEntries_iff
  · obtain ⟨hok, hissues⟩ := ofEntries_perm hkeys honce hperm
    exact ⟨hok, hissues, strangeIssues_perm hperm⟩
  · exact ⟨ofEntries_underFirst hnames hkeys honce, fun o ho => create_underFirst hnames hkeys honce ho⟩
  · intro first second hnames hfirst hsecond
    have hunknown := unknown_of_both hnames hfirst hsecond
    cases hentries : ofEntries entries with
    | ok o =>
      rw [(ofEntries_eq_ok.1 hentries).2.2.2.2.2.2.2.2.2] at hunknown
      cases hunknown
    | error issues =>
      have hissues : issues = _ := (congrArg Field.issues hentries).symm.trans issues_ofEntries
      refine ⟨issues, rfl, ?_⟩
      rw [hissues]
      exact List.mem_append_right _ hunknown

/-- Two options at fault between two names that are none. -/
def misread : Entries Value :=
  [("zone", .int 1), ("verbosity", .bool true), ("env", .map [("PATH", .list [])]), ("shell", .null)]

theorem ofEntries_laws_misread :
    Field.issues (ofEntries misread) =
        [⟨["env"], .refused (.notScalar "PATH" "list")⟩, ⟨["verbosity"], .refused (.verbosity (.boolean true))⟩,
          ⟨["zone"], .unknownOption⟩, ⟨["shell"], .unknownOption⟩] ∧
      Field.issues (ofEntries misread.reverse) =
        [⟨["env"], .refused (.notScalar "PATH" "list")⟩, ⟨["verbosity"], .refused (.verbosity (.boolean true))⟩,
          ⟨["shell"], .unknownOption⟩, ⟨["zone"], .unknownOption⟩] ∧
      Field.issues (ofEntries (underFirst "environment" "env" misread)) =
        [⟨["environment"], .refused (.notScalar "PATH" "list")⟩,
          ⟨["verbosity"], .refused (.verbosity (.boolean true))⟩, ⟨["zone"], .unknownOption⟩,
          ⟨["shell"], .unknownOption⟩] := by
  have honce : GivenOnce misread := by
    unfold GivenOnce
    decide
  obtain ⟨⟨hissues, -⟩, horders, hnames⟩ := (ofEntries_laws (show misread.keys.Nodup by decide)).1 honce
  obtain ⟨-, hreverse, -⟩ := horders misread.reverse misread.reverse_perm.symm
  obtain ⟨hfirst, -⟩ := hnames "environment" "env" (by decide)
  rw [hissues, hreverse, hfirst]
  decide +kernel

end Options

end Invocation

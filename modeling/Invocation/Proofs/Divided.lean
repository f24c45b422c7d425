import Invocation.Proofs.Checked
import Invocation.Proofs.Collapsed
import Invocation.Proofs.Layers
import Invocation.Proofs.Merged

/-!
# Dividing the variables

The variables of a line come of two maps, the default environment of the settings and the environment of the
command. Each is checked by its own reader, and both readers write scalars as their texts
(`readEnvironment_scalars`). Neither map counts for what else is checked (`validate_defaultEnv`,
`ofEntries_environment`), and the line has the variables of one map after those of the other
(`mergeEnvironment_eq`). So it does not matter where a map of variables is divided into the two
(`lineMade_divided`).
-/

namespace Invocation

open Invocation.Entries

/-! ## Entries with one more among them -/

namespace Entries

variable {α : Type}

theorem keys_append (entries others : Entries α) : keys (entries ++ others) = keys entries ++ keys others :=
  List.map_append

theorem get?_append (key : String) (entries others : Entries α) :
    get? key (entries ++ others) = (get? key entries).or (get? key others) := by
  induction entries with
  | nil => rfl
  | cons entry rest ih =>
    obtain ⟨k, a⟩ := entry
    rw [List.cons_append, get?, get?]
    split
    · rfl
    · exact ih

theorem get?_middle_self {key : String} {before : Entries α} (h : key ∉ keys before) (a : α)
    (after : Entries α) : get? key (before ++ (key, a) :: after) = some a := by
  rw [get?_append, get?_eq_none h, get?, if_pos rfl]
  rfl

theorem get?_middle_of_ne {key name : String} (h : name ≠ key) (a : α) (before after : Entries α) :
    get? key (before ++ (name, a) :: after) = get? key (before ++ after) := by
  rw [get?_append, get?_append, get?, if_neg h]

end Entries

namespace Options

/-! ## The environment among the options -/

theorem readEnvironment_scalars {own : Entries Value} (h : ∀ entry ∈ own, entry.2.isScalar = true) :
    readEnvironment (.map own) = .ok (own.mapValues Value.toText) := by
  change environmentEntries own = _
  induction own with
  | nil => rfl
  | cons entry rest ih =>
    obtain ⟨key, value⟩ := entry
    obtain ⟨hvalue, hrest⟩ := List.forall_mem_cons.1 h
    rw [environmentEntries, if_pos hvalue, ih hrest]
    rfl

section Congr

variable {entries others : Entries Value} {choices : List String}

theorem nameIn?_congr (h : ∀ name ∈ choices, others.get? name = entries.get? name) :
    nameIn? others choices = nameIn? entries choices := by
  unfold nameIn?
  induction choices with
  | nil => rfl
  | cons name choices ih =>
    obtain ⟨hname, hrest⟩ := List.forall_mem_cons.1 h
    rw [List.find?_cons, List.find?_cons, hname, ih hrest]

theorem readOption_congr {α : Type} (reader : Value → Except Complaint α) (default : α)
    (h : ∀ name ∈ choices, others.get? name = entries.get? name) :
    readOption reader default choices others = readOption reader default choices entries := by
  rw [readOption, readOption, nameIn?_congr h]
  cases hused : nameIn? entries choices with
  | none => rfl
  | some name =>
    simp only [Field.orDefault, h name (mem_of_nameIn? hused).1]

end Congr

section Environment

variable {before after own : Entries Value} {name : String} (hname : name ∈ ["environment", "env"])
  (hother : ∀ key ∈ ["environment", "env"], key ∉ keys (before ++ after))

include hname hother in
theorem get?_environment (value : Value) :
    get? name (before ++ (name, value) :: after) = some value := by
  refine get?_middle_self (fun hmem => hother name hname ?_) value after
  rw [keys_append]
  exact List.mem_append_left _ hmem

include hname hother in
theorem nameIn?_environment (value : Value) :
    nameIn? (before ++ (name, value) :: after) ["environment", "env"] = some name := by
  have hself := get?_environment hname hother value
  unfold nameIn?
  simp only [List.mem_cons, List.not_mem_nil, or_false] at hname
  rcases hname with rfl | rfl
  · rw [List.find?_cons_of_pos (by simp [hself])]
  · have hne : "env" ≠ "environment" := by decide
    have hfirst : get? "environment" (before ++ ("env", value) :: after) = .none := by
      rw [get?_middle_of_ne hne]
      exact get?_eq_none (hother "environment" List.mem_cons_self)
    rw [List.find?_cons_of_neg (by simp [hfirst]), List.find?_cons_of_pos (by simp [hself])]

include hname hother in
/-- The name of the environment is used, and it is no other option's. -/
theorem unknownIssues_environment (value : Value) :
    unknownIssues (before ++ (name, value) :: after) = unknownIssues (before ++ after) := by
  have hused : name ∈ namesUsed (before ++ (name, value) :: after) :=
    mem_namesUsed.2 ⟨_, List.mem_cons_self, nameIn?_environment hname hother value⟩
  have hsame : ∀ key ∈ keys (before ++ after),
      (key ∉ namesUsed (before ++ (name, value) :: after) ↔ key ∉ namesUsed (before ++ after)) := by
    intro key hkey
    rw [mem_namesUsed, mem_namesUsed]
    refine not_congr (exists_congr fun choices => and_congr_right fun hchoices => ?_)
    by_cases hmem : name ∈ choices
    · have henv : choices = ["environment", "env"] := eq_of_mem_names List.mem_cons_self hchoices hname hmem
      subst henv
      have hnot : key ∉ ["environment", "env"] := fun h => hother key h hkey
      exact iff_of_false (fun h => hnot (mem_of_nameIn? h).1) fun h => hnot (mem_of_nameIn? h).1
    · have hget : ∀ other ∈ choices,
          get? other (before ++ (name, value) :: after) = get? other (before ++ after) := by
        intro other hchoice
        have hne : name ≠ other := by
          rintro rfl
          exact hmem hchoice
        exact get?_middle_of_ne hne value before after
      rw [nameIn?_congr hget]
  have hkeys : (keys (before ++ (name, value) :: after)).filter
        (· ∉ namesUsed (before ++ (name, value) :: after)) =
      (keys (before ++ after)).filter (· ∉ namesUsed (before ++ (name, value) :: after)) := by
    have hcons : keys ((name, value) :: after) = name :: keys after := rfl
    rw [keys_append, keys_append, hcons, List.filter_append, List.filter_append,
      List.filter_cons_of_neg (by simp [hused])]
  rw [unknownIssues, unknownIssues, hkeys]
  exact congrArg (List.map _) (List.filter_congr fun key hkey => decide_eq_decide.2 (hsame key hkey))

include hname hother in
/-- An environment of scalars among the options counts for nothing else. -/
theorem ofEntries_environment (hscalar : ∀ entry ∈ own, entry.2.isScalar = true) :
    ofEntries (before ++ (name, .map own) :: after) =
      (ofEntries (before ++ after)).map ({ · with environment := own.mapValues Value.toText }) := by
  have hread : readOption readEnvironment [] ["environment", "env"] (before ++ (name, .map own) :: after) =
      .ok (own.mapValues Value.toText) := by
    rw [readOption, nameIn?_environment hname hother]
    simp only [Field.orDefault, get?_environment hname hother, Field.single, readEnvironment_scalars hscalar]
    rfl
  have hnone : readOption readEnvironment [] ["environment", "env"] (before ++ after) = .ok [] := by
    rw [readOption, nameIn?_eq_none_iff.2 hother]
  have hrest {α : Type} (reader : Value → Except Complaint α) (default : α) {choices : List String}
      (hchoices : ∀ key ∈ choices, key ∉ ["environment", "env"]) :
      readOption reader default choices (before ++ (name, .map own) :: after) =
        readOption reader default choices (before ++ after) := by
    refine readOption_congr reader default fun key hkey => ?_
    have hne : name ≠ key := by
      rintro rfl
      exact hchoices name hkey hname
    exact get?_middle_of_ne hne _ before after
  unfold ofEntries
  rw [hread, hnone, hrest readText .none (by decide), hrest readText .none (by decide),
    hrest readText .none (by decide), hrest Field.flag false (by decide), hrest Field.umask .none (by decide),
    hrest readVerbosity .none (by decide), hrest readFlag .none (by decide), hrest readHost .null (by decide),
    unknownIssues_environment hname hother]
  dsimp only
  -- The options that are left are read alike on both sides, or refused alike.
  split
  · next h₁ h₂ h₃ h₄ h₅ h₆ h₇ h₈ h₉ h₁₀ =>
    cases h₁
    rw [h₂, h₃, h₄, h₅, h₆, h₇, h₈, h₉, h₁₀]
    rfl
  · next hfails =>
    split
    · next h₁ h₂ h₃ h₄ h₅ h₆ h₇ h₈ h₉ h₁₀ =>
      exact (hfails _ _ _ _ _ _ _ _ _ rfl h₂ h₃ h₄ h₅ h₆ h₇ h₈ h₉ h₁₀).elim
    · rfl

include hother in
theorem ofEntries_noEnvironment :
    ofEntries (before ++ after) = (ofEntries (before ++ after)).map ({ · with environment := [] }) := by
  cases hread : ofEntries (before ++ after) with
  | error issues => rfl
  | ok o =>
    have henvironment := (ofEntries_eq_ok.1 hread).1
    rw [readOption, nameIn?_eq_none_iff.2 hother] at henvironment
    rw [Except.map, Except.ok.inj henvironment]

end Environment

end Options

/-! ## The line -/

open Invocation.Text

/-- The line of a command that is made with settings of its own, both from what is given for them. -/
def lineMade (given asked : Entries Value) (args : List Value) : Action String := do
  let command ← Command.create args asked (← World.settingsOf (.map given))
  command.line none

/-- What a line comes to, once the settings and the options are checked, and the world after it. -/
def lineChecked (settings : Except (List Issue) Settings) (options : Except (List Issue) Options)
    (args : List Value) (world : World) : Except Failure String × World :=
  match settings, Command.executable? args, options with
  | .error issues, _, _ => (.error (.invalid issues), world)
  | .ok _, none, _ => (.error .noExecutable, world)
  | .ok _, some _, .error issues => (.error (.invalidOptions issues), world)
  | .ok settings, some (body, rest), .ok options =>
    let base := Render.collapse body
    let words := rest.map Value.toText
    (.ok (Render.commandLine settings options base words),
      { world with made := world.made + 1 }.logged Verbosity.debug
        (.created ⟨world.made⟩ (base ++ " " ++ join " " words)))

theorem run_lineMade (given asked : Entries Value) (args : List Value) (world : World) :
    (lineMade given asked args).run world =
      lineChecked (Settings.validate world.environment (.map given)) (Options.ofEntries asked) args world := by
  unfold lineMade lineChecked World.settingsOf Command.create
  have hget : (get : Action World).run world = (.ok world, world) := rfl
  rw [run_bind, run_bind_of_ok hget]
  cases Settings.validate world.environment (.map given) with
  | error issues => rfl
  | ok settings =>
    cases Command.executable? args with
    | none => rfl
    | some executable =>
      cases Options.ofEntries asked <;> rfl

/-- The variables of a line are those of the settings, and then those of the command. -/
theorem commandLine_congr {d o d' o' : Entries String} (h : d ++ o = d' ++ o') (settings : Settings)
    (options : Options) (base : String) (args : List String) :
    Render.commandLine { settings with defaultEnv := d } { options with environment := o } base args =
      Render.commandLine { settings with defaultEnv := d' } { options with environment := o' } base args := by
  simp only [Render.commandLine, Render.mergeEnvironment_eq, h]

theorem lineChecked_congr {d o d' o' : Entries String} (h : d ++ o = d' ++ o')
    (settings : Except (List Issue) Settings) (options : Except (List Issue) Options) (args : List Value)
    (world : World) :
    lineChecked (settings.map ({ · with defaultEnv := d })) (options.map ({ · with environment := o })) args
        world =
      lineChecked (settings.map ({ · with defaultEnv := d' })) (options.map ({ · with environment := o' })) args
        world := by
  cases settings with
  | error issues => rfl
  | ok settings =>
    unfold lineChecked
    cases Command.executable? args with
    | none => rfl
    | some executable =>
      cases options with
      | error issues => rfl
      | ok options =>
        obtain ⟨body, rest⟩ := executable
        simp only [Except.map, commandLine_congr h]

theorem validate_put_defaultEnv {environment : Entries String}
    (hunset : Settings.nonEmpty? environment "SHELLWRAP_DEFAULT_ENV" = none) (given defaults : Entries Value) :
    Settings.validate environment (.map (given.put "default_env" (.map defaults))) =
      (Settings.validate environment (.map (given.put "default_env" (.map [])))).map
        ({ · with defaultEnv := defaults.mapValues Value.toText }) := by
  have hraw (value : Value) : Settings.Raw.of environment given [("default_env", value)] =
      { Settings.Raw.of environment given [] with defaultEnv := some value } := by
    simp [Settings.Raw.of, Settings.highest, Settings.inFiles, hunset, get?]
  have hnodup (value : Value) : (keys [("default_env", value)]).Nodup := List.nodup_singleton _
  have hdefaults : Settings.Raw.of environment given [("default_env", .map defaults)] =
      { Settings.Raw.of environment given [("default_env", .map [])] with
        defaultEnv := some (.map defaults) } := by
    rw [hraw, hraw]
  have hread : Settings.Reads Field.defaultEnv [] (some (.map defaults)) (defaults.mapValues Value.toText) := rfl
  have hempty : Settings.Reads Field.defaultEnv []
      (Settings.Raw.of environment given [("default_env", .map [])]).defaultEnv [] := by
    rw [hraw]
    rfl
  exact Settings.validate_defaultEnv (hnodup _) (hnodup _) hdefaults hread hempty

/-- **It does not matter where variables are divided** into a default environment and the environment of a
command, if their values are scalars: a line is the same with all of them in either. This is so of any
settings and any command, and of what comes of making these, where the variable of the default environment is
unset or empty: the line or the failure, and the world after it. With an integer of more than 4300 digits among
the values there is no line on either side (`Value.toText`). -/
theorem lineMade_divided {defaults own : Entries Value}
    (hscalar : ∀ entry ∈ defaults ++ own, entry.2.isScalar = true) :
    let whole := defaults ++ own
    (∀ (settings : Settings) (command : Command),
      let under (d o : Entries Value) :=
        Command.lineUnder { settings with defaultEnv := d.mapValues Value.toText }
          { command with options := { command.options with environment := o.mapValues Value.toText } }
      under defaults own = under [] whole ∧ under defaults own = under whole []) ∧
    ∀ (given before after : Entries Value) (name : String) (args : List Value) (world : World),
      name ∈ ["environment", "env"] → (∀ key ∈ ["environment", "env"], key ∉ keys (before ++ after)) →
      Settings.nonEmpty? world.environment "SHELLWRAP_DEFAULT_ENV" = none →
      let settingsWith (d : Entries Value) := given.put "default_env" (.map d)
      let optionsWith (o : Entries Value) := before ++ (name, .map o) :: after
      let divided := (lineMade (settingsWith defaults) (optionsWith own) args).run world
      divided = (lineMade (settingsWith []) (optionsWith whole) args).run world ∧
        divided = (lineMade (settingsWith whole) (before ++ after) args).run world := by
  intro whole
  have htexts : defaults.mapValues Value.toText ++ own.mapValues Value.toText = whole.mapValues Value.toText :=
    List.map_append.symm
  have hleft : defaults.mapValues Value.toText ++ own.mapValues Value.toText =
      [] ++ whole.mapValues Value.toText := htexts
  have hright : defaults.mapValues Value.toText ++ own.mapValues Value.toText =
      whole.mapValues Value.toText ++ [] := by
    rw [htexts, List.append_nil]
  constructor
  · intro settings command under
    exact ⟨commandLine_congr hleft _ _ _ _, commandLine_congr hright _ _ _ _⟩
  · intro given before after name args world hname hother hunset settingsWith optionsWith divided
    have hown : ∀ entry ∈ own, entry.2.isScalar = true :=
      fun entry hentry => hscalar entry (List.mem_append_right _ hentry)
    have hchecked (d o : Entries Value) (ho : ∀ entry ∈ o, entry.2.isScalar = true) :
        (lineMade (settingsWith d) (optionsWith o) args).run world =
          lineChecked ((Settings.validate world.environment (.map (settingsWith []))).map
              ({ · with defaultEnv := d.mapValues Value.toText }))
            ((Options.ofEntries (before ++ after)).map ({ · with environment := o.mapValues Value.toText }))
            args world := by
      rw [run_lineMade, validate_put_defaultEnv hunset, Options.ofEntries_environment hname hother ho]
    constructor
    · calc divided = _ := hchecked defaults own hown
        _ = _ := lineChecked_congr hleft _ _ _ _
        _ = _ := (hchecked [] whole hscalar).symm
    · have hnone : (lineMade (settingsWith whole) (before ++ after) args).run world =
          lineChecked ((Settings.validate world.environment (.map (settingsWith []))).map
              ({ · with defaultEnv := whole.mapValues Value.toText }))
            ((Options.ofEntries (before ++ after)).map ({ · with environment := [] })) args world := by
        rw [run_lineMade, validate_put_defaultEnv hunset, ← Options.ofEntries_noEnvironment hother]
      calc divided = _ := hchecked defaults own hown
        _ = _ := lineChecked_congr hright _ _ _ _
        _ = _ := hnone.symm

/-- The keys of the two maps are the same in upper case. -/
theorem lineMade_divided_upper :
    let world := World.fresh ⟨"/home/u/settings.json", "/work"⟩
    let line (given asked : Entries Value) := ((lineMade given asked [.text "ls"]).run world).1
    line [("default_env", .map [("a", .int 1), ("B", .text "x")])] [("env", .map [("A", .bool true)])] =
      .ok "( A=True B=x /usr/bin/env ls )" ∧
    line [("default_env", .map [])]
        [("env", .map [("a", .int 1), ("B", .text "x"), ("A", .bool true)])] =
      .ok "( A=True B=x /usr/bin/env ls )" ∧
    line [("default_env", .map [("a", .int 1), ("B", .text "x"), ("A", .bool true)])] [] =
      .ok "( A=True B=x /usr/bin/env ls )" := by
  intro world line
  have hscalar : ∀ entry ∈ [("a", Value.int 1), ("B", .text "x")] ++ [("A", .bool true)],
      entry.2.isScalar = true := by
    simp [Value.isScalar]
  obtain ⟨-, hmade⟩ := lineMade_divided hscalar
  obtain ⟨hoption, hdefault⟩ := hmade [] [] [] "env" [.text "ls"] world (by decide) (by decide) rfl
  have hvalid : Settings.validate [] (.map [("default_env", .map [("a", .int 1), ("B", .text "x")])]) =
      .ok { Settings.defaults with defaultEnv := [("a", "1"), ("B", "x")] } := by cbv
  have hoptions : Options.ofEntries [("env", .map [("A", .bool true)])] =
      .ok { Options.none with environment := [("A", "True")] } := by cbv
  have hbase : Render.collapse "ls" = "ls" :=
    (Render.collapse_single (by decide) (by decide)).trans (by decide +kernel)
  have hwhole : Render.commandLine { Settings.defaults with defaultEnv := [("a", "1"), ("B", "x")] }
      { Options.none with environment := [("A", "True")] } "ls" [] = "( A=True B=x /usr/bin/env ls )" := by
    decide +kernel
  have hline : line [("default_env", .map [("a", .int 1), ("B", .text "x")])]
      [("env", .map [("A", .bool true)])] = .ok "( A=True B=x /usr/bin/env ls )" := by
    have hunset : world.environment = [] := rfl
    have hchecked := run_lineMade [("default_env", .map [("a", .int 1), ("B", .text "x")])]
      [("env", .map [("A", .bool true)])] [.text "ls"] world
    rw [hunset, hvalid, hoptions] at hchecked
    rw [← hwhole, ← hbase]
    exact congrArg Prod.fst hchecked
  exact ⟨hline, (congrArg Prod.fst hoption).symm.trans hline, (congrArg Prod.fst hdefault).symm.trans hline⟩

end Invocation

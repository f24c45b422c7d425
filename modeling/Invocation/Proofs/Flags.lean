import Invocation.Proofs.Assignments
import Invocation.Proofs.Divided

/-!
# Flags

What the flags of a command line say of a command. A flag that is given several times counts as given last,
except for variables: all assignments count, each key where it first comes and with its last value (`Collected`,
`collected_of_readPairs`). The options of the command are those that were given, and the others are left open
(`Flagged`, `flagged_of_entries`). The flag that asks for JSON says nothing of the command (`readCall_json`,
`Described.Alike`).
-/

namespace Invocation.CommandLine

open Invocation.Entries Invocation.Settings

/-! ## Arguments -/

section Arguments

variable {declared : List Declared}

/-- The first argument that is no option is found again, whatever comes after it. -/
theorem exists_front {arguments : List String} {given : List (String × Option String)} {name : String}
    {rest : List String} (h : readArguments declared false arguments = .ok ⟨given, name :: rest⟩) :
    ∃ front, arguments = front ++ name :: rest ∧
      ∀ others, readArguments declared false (front ++ name :: others) = .ok ⟨given, name :: others⟩ := by
  -- The options of the argument that is read first come before those of the rest.
  have hmap {first : List (String × Option String)} {later : Except Usage Arguments}
      {given : List (String × Option String)}
      (h : later.map (Arguments.withGiven first) = .ok ⟨given, name :: rest⟩) :
      ∃ more, given = first ++ more ∧ later = .ok ⟨more, name :: rest⟩ := by
    obtain ⟨⟨more, positional⟩, hlater, hsame⟩ := Json.map_eq_ok_iff.1 h
    cases hsame
    exact ⟨more, rfl, hlater⟩
  generalize hmode : false = interspersed at h ⊢
  fun_induction readArguments declared interspersed arguments generalizing given with
  | case1 => cases h
  | case2 rest' =>
    cases h
    refine ⟨["--"], rfl, fun others => ?_⟩
    rw [List.cons_append, readArguments, if_pos rfl]
    rfl
  | case3 argument rest' hdashes hoption fault hfault => cases h
  | case4 argument rest' hdashes hoption first hfirst ih =>
    obtain ⟨more, rfl, hlater⟩ := hmap h
    obtain ⟨front, rfl, hfront⟩ := ih hlater
    refine ⟨argument :: front, rfl, fun others => ?_⟩
    rw [List.cons_append, readArguments, if_neg hdashes, if_pos hoption, hfirst]
    simp only [hfront]
    rfl
  | case5 argument hdashes hoption first lacking hfirst => cases h
  | case6 argument hdashes hoption first lacking hfirst value rest' ih =>
    obtain ⟨more, rfl, hlater⟩ := hmap h
    obtain ⟨front, rfl, hfront⟩ := ih hlater
    refine ⟨argument :: value :: front, rfl, fun others => ?_⟩
    rw [List.cons_append, readArguments, if_neg hdashes, if_pos hoption, hfirst]
    simp only [List.cons_append, hfront]
    rfl
  | case7 argument rest' hdashes hoption hmode' ih =>
    rw [← hmode] at hmode'
    cases hmode'
  | case8 argument rest' hdashes hoption hmode' =>
    cases h
    refine ⟨[], rfl, fun others => ?_⟩
    rw [List.nil_append, readArguments, if_neg hdashes, if_neg hoption, if_neg hmode']

end Arguments

/-! ## The flag for JSON -/

theorem readArguments_json (arguments : List String) :
    readArguments renderOptions true ("--json" :: arguments) =
      (readArguments renderOptions true arguments).map (Arguments.withGiven [("json", none)]) := by
  have hrecognised : recognise renderOptions "--json" = .ok ⟨[("json", none)], none⟩ := rfl
  rw [readArguments, if_neg (by decide), if_pos (by decide), hrecognised]

/-- Only under its own name a call shows a command. -/
theorem name_of_render {name : String} {arguments : List String} {described : Described} {asJson : Bool}
    (h : readCall name arguments = .ok (.render described asJson)) : name = "render" := by
  unfold readCall at h
  split at h
  · rfl
  · obtain ⟨given, -, h⟩ := Json.bind_eq_ok_iff.1 h
    obtain ⟨limit, -, h⟩ := Json.bind_eq_ok_iff.1 h
    obtain ⟨command, -, h⟩ := Json.bind_eq_ok_iff.1 h
    cases h
  · obtain ⟨given, -, h⟩ := Json.bind_eq_ok_iff.1 h
    split at h <;> cases h
  · cases h

/-- With the flag for JSON in front the same command is described. -/
theorem readCall_json {arguments : List String} {described : Described}
    (h : readCall "render" arguments = .ok (.render described false)) :
    readCall "render" ("--json" :: arguments) =
      .ok (.render { described with options := described.options.withGiven [("json", none)] } true) := by
  unfold readCall argumentsOf at h ⊢
  rw [readArguments_json]
  cases hread : readArguments renderOptions true arguments with
  | error fault =>
    rw [hread] at h
    cases h
  | ok found =>
    obtain ⟨given, positional⟩ := found
    rw [hread] at h
    cases positional with
    | nil => cases h
    | cons executable rest =>
      obtain ⟨rfl, -⟩ := Call.render.inj (Except.ok.inj h)
      rfl

/-- The descriptions differ in the flag for JSON at most. -/
structure Described.Alike (described other : Described) : Prop where
  executable : other.executable = described.executable
  arguments : other.arguments = described.arguments
  given : other.options.given.filter (·.1 ≠ "json") = described.options.given.filter (·.1 ≠ "json")

namespace Described.Alike

variable {described other : Described}

theorem withGiven (described : Described) :
    described.Alike { described with options := described.options.withGiven [("json", none)] } :=
  ⟨rfl, rfl, rfl⟩

theorem values (h : described.Alike other) {name : String} (hname : name ≠ "json") :
    other.options.values name = described.options.values name := by
  have hothers (arguments : CommandLine.Arguments) : arguments.values name =
      Arguments.values name ⟨arguments.given.filter (·.1 ≠ "json"), []⟩ := by
    unfold Arguments.values
    rw [List.filterMap_filter]
    refine List.filterMap_congr fun entry _ => ?_
    by_cases hjson : entry.1 = "json"
    · simp [hjson, hname.symm]
    · simp [hjson]
  rw [hothers, h.given, ← hothers]

theorem has (h : described.Alike other) {name : String} (hname : name ≠ "json") :
    other.options.has name = described.options.has name := by
  have hothers (arguments : CommandLine.Arguments) : arguments.has name =
      Arguments.has name ⟨arguments.given.filter (·.1 ≠ "json"), []⟩ := by
    unfold Arguments.has
    rw [List.any_filter]
    congr 1
    funext entry
    by_cases hgiven : entry.1 = name
    · simp [hgiven, hname]
    · simp [hgiven]
  rw [hothers, h.given, ← hothers]

/-- Descriptions that are alike make the same command. -/
theorem create (h : described.Alike other) (neverRaises : Bool) :
    other.create neverRaises = described.create neverRaises := by
  have hentry (name : String) {option : String} (hoption : option ≠ "json") :
      optionEntry name option other.options = optionEntry name option described.options := by
    unfold optionEntry Arguments.last?
    rw [h.values hoption]
  have hentries (environment : Entries String) :
      other.entries environment neverRaises = described.entries environment neverRaises := by
    unfold Described.entries
    rw [hentry _ (by decide), hentry _ (by decide), hentry _ (by decide), hentry _ (by decide),
      hentry _ (by decide), h.has (by decide)]
  unfold Described.create
  rw [h.values (by decide), h.executable, h.arguments]
  simp only [hentries]

end Described.Alike

/-! ## Options -/

theorem get?_optionEntry (key name option : String) (given : Arguments) :
    get? key (optionEntry name option given) = if name = key then (given.last? option).map .text else none := by
  unfold optionEntry
  cases given.last? option with
  | none => simp [get?]
  | some value => simp [get?]

/-- The options of a command as flags say it. -/
structure Flagged (given : Arguments) (environment : Entries String) (o : Options) : Prop where
  environment : o.environment = environment
  workingDirectory : o.workingDirectory = given.last? "in"
  user : o.user = given.last? "user"
  group : o.group = given.last? "group"
  runInBackground : o.runInBackground = given.has "background"
  umask : Reads Field.umask none ((given.last? "umask").map .text) o.umask
  verbosity : Reads Options.readVerbosity none ((given.last? "verbosity").map .text) o.verbosity
  raises : o.raises = none
  host : o.host = .null

/-- The text options of a command line, each with the name of the option that it gives. -/
def textOptions : Entries String := [
  ("working_directory", "in"), ("user", "user"), ("group", "group"), ("umask", "umask"),
  ("verbosity", "verbosity")]

section Entries

variable (described : Described) (environment : Entries String)

/-- Under the name of an option stands what its flag gives, and nothing if it is not given. -/
theorem get?_entries (key : String) :
    get? key (described.entries environment false) =
      if key = "run_in_background" then some (.bool (described.options.has "background"))
      else if key = "environment" then if environment.isEmpty then none else some (.ofTexts environment)
      else (textOptions.get? key).bind fun option => (described.options.last? option).map .text := by
  have hrest : get? key (if environment.isEmpty then [] else [("environment", Value.ofTexts environment)]) =
      if "environment" = key then if environment.isEmpty then none else some (.ofTexts environment)
      else none := by
    cases environment <;> simp [get?]
  have hentries : described.entries environment false =
      optionEntry "working_directory" "in" described.options ++
        optionEntry "user" "user" described.options ++ optionEntry "group" "group" described.options ++
        [("run_in_background", .bool (described.options.has "background"))] ++
        optionEntry "umask" "umask" described.options ++
        optionEntry "verbosity" "verbosity" described.options ++
        (if environment.isEmpty then [] else [("environment", .ofTexts environment)]) := by
    rw [Described.entries, if_neg Bool.false_ne_true, List.append_nil]
  rw [hentries]
  simp only [get?_append, get?_optionEntry, hrest, get?, textOptions]
  by_cases hkey : key ∈ ["run_in_background", "environment", "working_directory", "user", "group", "umask",
      "verbosity"]
  · simp only [List.mem_cons, List.not_mem_nil, or_false] at hkey
    rcases hkey with rfl | rfl | rfl | rfl | rfl | rfl | rfl <;> simp
  · simp only [List.mem_cons, List.not_mem_nil, or_false, not_or, eq_comm (a := key)] at hkey
    simp [hkey, eq_comm (a := key)]

end Entries

/-- **The options of a command** are those that its flags give. -/
theorem flagged_of_entries {described : Described} {environment : Entries String} {o : Options}
    (h : Options.ofEntries (described.entries environment false) = .ok o) :
    Flagged described.options environment o := by
  have hget := get?_entries described environment
  have hreads {α : Type} {reader : Value → Except Complaint α} {default a : α} {choices : List String}
      (name : String) (hname : name ∈ choices)
      (hothers : ∀ other ∈ choices, other ≠ name → other ∈ ["cd", "env", "raise_on_nonzero_exit"])
      (hread : Options.readOption reader default choices (described.entries environment false) = .ok a) :
      Reads reader default (get? name (described.entries environment false)) a := by
    refine (Options.readOption_eq_ok_iff hname fun other hother hne => ?_).1 hread
    have hsecond := hothers other hother hne
    simp only [List.mem_cons, List.not_mem_nil, or_false] at hsecond
    rcases hsecond with rfl | rfl | rfl <;> simp [hget, textOptions, get?]
  obtain ⟨henvironment, hdirectory, huser, hgroup, hbackground, humask, hverbosity, hraises, hhost, -⟩ :=
    Options.ofEntries_eq_ok.1 h
  have htext {name : String} {given : Option String} {found : Option String}
      (hvalue : get? name (described.entries environment false) = given.map .text)
      (hread : Reads Options.readText none (get? name (described.entries environment false)) found) :
      found = given := by
    rw [hvalue] at hread
    cases given with
    | none => exact hread
    | some value => exact (Except.ok.inj hread).symm
  constructor
  · -- An environment without variables is left out, and read as the default, which has none either.
    have hread := hreads "environment" (by simp) (by simp) henvironment
    rw [hget] at hread
    cases environment with
    | nil => exact hread
    | cons entry rest =>
      have hscalars : ∀ member ∈ mapValues Value.text (entry :: rest), member.2.isScalar = true := by
        intro member hmember
        obtain ⟨source, -, rfl⟩ := List.mem_map.1 hmember
        rfl
      have htexts := (Options.readEnvironment_scalars hscalars).symm.trans hread
      rw [Render.toText_mapValues_text] at htexts
      exact (Except.ok.inj htexts).symm
  · exact htext (by simp [hget, textOptions, get?]) (hreads "working_directory" (by simp) (by simp) hdirectory)
  · exact htext (by simp [hget, textOptions, get?]) (hreads "user" (by simp) (by simp) huser)
  · exact htext (by simp [hget, textOptions, get?]) (hreads "group" (by simp) (by simp) hgroup)
  · have hread := hreads "run_in_background" (by simp) (by simp) hbackground
    rw [hget] at hread
    exact (Except.ok.inj hread).symm
  · have hread := hreads "umask" (by simp) (by simp) humask
    rw [hget] at hread
    exact hread
  · have hread := hreads "verbosity" (by simp) (by simp) hverbosity
    rw [hget] at hread
    exact hread
  · have hread := hreads "raise_on_non_zero_exit" (by simp) (by simp) hraises
    rw [hget] at hread
    exact hread
  · have hread := hreads "host" (by simp) (by simp) hhost
    rw [hget] at hread
    exact hread

/-! ## Variables -/

/-- The environment that assignments make: each has its key before its first equals sign, and the keys stand
where they first came, with the values that they had last. -/
def Collected (texts : List String) (environment : Entries String) : Prop :=
  ∃ pairs : Entries String,
    List.Forall₂ (fun text pair => text = pair.1 ++ "=" ++ pair.2 ∧ pair.1 ≠ "" ∧ '=' ∉ pair.1.toList)
      texts pairs ∧
    environment.keys = pairs.keys.eraseDups ∧
    ∀ key, environment.get? key = ((pairs.filter (·.1 = key)).getLast?).map Prod.snd

theorem Collected.nodup_keys {texts : List String} {environment : Entries String}
    (h : Collected texts environment) : environment.keys.Nodup := by
  obtain ⟨pairs, -, hkeys, -⟩ := h
  rw [hkeys, ← keys_collected pairs]
  exact nodup_keys_putAll pairs List.nodup_nil

theorem readPair_eq_ok {text : String} {pair : String × String} (h : readPairs.readPair text = .ok pair) :
    text = pair.1 ++ "=" ++ pair.2 ∧ pair.1 ≠ "" ∧ '=' ∉ pair.1.toList := by
  by_cases hsign : '=' ∈ text.toList
  · obtain ⟨key, value, rfl, hkey⟩ := EnvPairs.exists_key hsign
    rw [readPairs.readPair, EnvPairs.cut_assignment hkey] at h
    dsimp only at h
    split at h
    · cases h
    · next hname =>
      cases h
      exact ⟨rfl, hname, hkey⟩
  · rw [readPairs.readPair, EnvPairs.cut_of_notMem hsign] at h
    cases h

theorem forall₂_of_mapM {ε α β : Type} {f : α → Except ε β} {xs : List α} {ys : List β}
    (h : xs.mapM f = .ok ys) : List.Forall₂ (fun x y => f x = .ok y) xs ys := by
  induction xs generalizing ys with
  | nil =>
    cases h
    exact .nil
  | cons x xs ih =>
    rw [List.mapM_cons] at h
    obtain ⟨y, hx, h⟩ := Json.bind_eq_ok_iff.1 h
    obtain ⟨rest, hxs, h⟩ := Json.bind_eq_ok_iff.1 h
    cases h
    exact .cons hx (ih hxs)

theorem collected_of_readPairs {texts : List String} {environment : Entries String}
    (h : readPairs texts = .ok environment) : Collected texts environment := by
  unfold readPairs at h
  obtain ⟨pairs, hpairs, h⟩ := Json.bind_eq_ok_iff.1 h
  cases h
  refine ⟨pairs, ?_, keys_collected pairs, fun key => get?_collected pairs⟩
  exact (forall₂_of_mapM hpairs).imp fun text pair hpair => readPair_eq_ok hpair

end Invocation.CommandLine

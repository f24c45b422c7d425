import Invocation.Proofs.Flags
import Invocation.Proofs.Reported
import Invocation.Proofs.Saved
import Invocation.Proofs.Short

/-!
# Snapshots that are printed

A call that shows a command's line prints all that is known of the command instead, if it is asked for JSON. Both are
of the command that the arguments and flags describe (`Described.Makes`, `reply_render`). What is known of it is kept
by JSON (`Described.Makes.storable`): the names are distinct, and its levels are short, whether they come from a flag
or from the settings in force. JSON has no control character but line feeds, so that nothing in it is taken for a
terminal's and left out (`read_written`).
-/

namespace Invocation

open Invocation.Entries Invocation.Number

/-! ## What JSON keeps -/

theorem storable_int {level : Nat} (h : level < Nat.pow 10 maxDigits) : Json.Storable (.int level) := by
  refine .int ?_
  rw [Int.natAbs_natCast]
  exact length_natDigits_le (Nat.succ_pos _) h

theorem storable_texts (texts : List String) : Json.Storable (.list (texts.map .text)) := by
  refine .list fun item hitem => ?_
  obtain ⟨s, -, rfl⟩ := List.mem_map.1 hitem
  exact .text s

/-- The names of the options that are given are some of all names, in order. -/
theorem Options.keys_toEntries_sublist (o : Options) :
    (keys o.toEntries).Sublist ["environment", "working_directory", "user", "group", "run_in_background",
      "umask", "verbosity", "raise_on_non_zero_exit"] := by
  have htext (name : String) (given : Option String) : (keys (textEntry name given)).Sublist [name] := by
    cases given <;> simp [textEntry, keys]
  have hfirst := (((((List.Sublist.refl ["environment"]).append (htext "working_directory" o.workingDirectory)).append
    (htext "user" o.user)).append (htext "group" o.group)).append (.refl ["run_in_background"])).append
      (htext "umask" (o.umask.map (·.text)))
  have hnames : ["environment", "working_directory", "user", "group", "run_in_background", "umask", "verbosity",
      "raise_on_non_zero_exit"] = ["environment", "working_directory", "user", "group", "run_in_background",
      "umask"] ++ ["verbosity"] ++ ["raise_on_non_zero_exit"] := rfl
  rw [hnames]
  simp only [toEntries, keys_append]
  refine (hfirst.append ?_).append ?_
  · cases o.verbosity <;> simp [keys]
  · cases o.raises <;> simp [keys]

theorem Options.storable_toEntries {o : Options} (henvironment : (keys o.environment).Nodup)
    (hverbosity : ∀ level, o.verbosity = some level → level < Nat.pow 10 maxDigits) :
    Json.Storable (.map o.toEntries) := by
  have hnames : (keys o.toEntries).Nodup := List.Nodup.sublist o.keys_toEntries_sublist (by decide)
  have htext {name : String} {given : Option String} : ∀ entry ∈ textEntry name given, Json.Storable entry.2 := by
    intro entry hentry
    cases given with
    | none => cases hentry
    | some s =>
      rw [List.mem_singleton.1 hentry]
      exact .text s
  refine .map hnames fun entry hentry => ?_
  simp only [toEntries, List.mem_append, List.mem_singleton] at hentry
  rcases hentry with ((((((rfl | h) | h) | h) | rfl) | h) | h) | h
  · exact Settings.storable_ofTexts henvironment
  · exact htext entry h
  · exact htext entry h
  · exact htext entry h
  · exact .bool _
  · exact htext entry h
  · cases hlevel : o.verbosity with
    | none =>
      rw [hlevel] at h
      cases h
    | some level =>
      rw [hlevel] at h
      rw [List.mem_singleton.1 h]
      exact storable_int (hverbosity level hlevel)
  · cases hraises : o.raises with
    | none =>
      rw [hraises] at h
      cases h
    | some b =>
      rw [hraises] at h
      rw [List.mem_singleton.1 h]
      exact .bool b

/-- A snapshot of a command that is not started is kept by JSON, if its levels are short. -/
theorem Snapshot.storable_toEntries {command : Command} (shown : Id → String) (line : String)
    (hoptions : Json.Storable (.map command.options.toEntries)) (hhost : command.options.host = .null)
    (hverbosity : command.verbosity < Nat.pow 10 maxDigits) :
    Json.Storable (.map ((⟨line, .ofCommand command⟩ : Snapshot).toEntries shown .int)) := by
  have hnames : keys ((⟨line, .ofCommand command⟩ : Snapshot).toEntries shown .int) =
      ["id", "command", "name", "args", "options", "host", "verbosity", "exit_status", "stdout", "stderr",
        "started", "started_at", "finished_at", "runtime", "complete", "successful", "failed"] := rfl
  have hhost : Json.Storable (hostValue command.options.host) := by
    rw [hhost]
    exact .null
  refine .map (hnames ▸ by decide) ?_
  simp only [toEntries, List.forall_mem_cons]
  exact ⟨.text _, .text _, .text _, storable_texts _, hoptions, hhost, storable_int hverbosity, .null, .text _,
    .text _, .bool _, .null, .null, .null, .bool _, .bool _, .bool _, List.forall_mem_nil _⟩

namespace CommandLine

/-! ## What a terminal leaves out -/

theorem withoutSequences_eq_self {cs : List Char} (h : '\x1b' ∉ cs) (fuel : Nat) :
    withoutSequences fuel cs = cs := by
  induction fuel generalizing cs with
  | zero => rfl
  | succ fuel ih =>
    cases cs with
    | nil => rfl
    | cons c rest =>
      have hc : c ≠ '\x1b' := fun he => h (he ▸ List.mem_cons_self)
      have hrest := ih fun hmem => h (List.mem_cons_of_mem c hmem)
      rw [withoutSequences, hrest]
      intro _ he _
      exact hc he

theorem joinedBreaks_eq_self {cs : List Char} (h : '\r' ∉ cs) : joinedBreaks cs = cs := by
  induction cs with
  | nil => rfl
  | cons c rest ih =>
    have hc : c ≠ '\r' := fun he => h (he ▸ List.mem_cons_self)
    have hrest := ih fun hmem => h (List.mem_cons_of_mem c hmem)
    rw [joinedBreaks, hrest]
    intro _ he _
    exact hc he

/-- A line as a call writes it. -/
def written (line : String) : String :=
  String.ofList (joinedBreaks (echoed line).toList)

/-- A line without the characters that a terminal acts on is written as it is. -/
theorem written_eq {line : String} (hescape : '\x1b' ∉ line.toList) (hreturn : '\r' ∉ line.toList) :
    written line = line ++ "\n" := by
  have hend : '\r' ∉ (line ++ "\n").toList := by
    rw [String.toList_append, List.mem_append, not_or]
    exact ⟨hreturn, by decide⟩
  rw [written, echoed, withoutSequences_eq_self hescape, String.ofList_toList, joinedBreaks_eq_self hend,
    String.ofList_toList]

/-- What JSON keeps is read back from a JSON text that is written as a line. -/
theorem read_written {value : Value} (h : Json.Storable value) :
    Json.read (written (Json.write .ascii value)) = .ok value := by
  have hprinted := @Json.printed_valueChars .ascii value h 0
  have hnone {c : Char} (hc : ¬(c = '\n' ∨ 32 ≤ c.toNat)) : c ∉ (Json.write .ascii value).toList := by
    rw [Json.write, String.toList_ofList]
    exact fun hmem => hc (hprinted c hmem)
  rw [written_eq (hnone (by decide)) (hnone (by decide))]
  have hchars : Json.write .ascii value ++ "\n" =
      String.ofList (Json.valueChars .ascii 0 value ++ ['\n']) := by
    rw [Json.write, String.ofList_append]
  rw [hchars]
  refine Json.read_write_append h fun c hc => ?_
  rw [List.mem_singleton.1 hc]
  rfl

/-! ## What is rendered -/

section Rendered

variable {described : Described} {world made : World} {command : Command} {line : String}

theorem answer_render (hmade : (described.create false).run world = (.ok command, made))
    (hline : (command.line none).run made = (.ok line, made)) (shown : Id → String)
    (shell : World → Request → Launch) (asJson : Bool) :
    ((Call.render described asJson).answer shown shell).run world =
      (.ok (some ⟨0, echoed (if asJson then (⟨line, .ofCommand command⟩ : Snapshot).toJson shown else line)⟩),
        made) := by
  unfold Call.answer
  dsimp only
  rw [run_bind_of_ok (run_made hmade)]
  dsimp only
  unfold render
  rw [run_bind, run_bind_of_ok hline]
  rfl

/-- A call that shows a command is answered only if the command is made. -/
theorem exists_made_of_answered {arguments : List String} {level : Verbosity.Level} {asJson : Bool}
    {shown : Id → String} {shell : World → Request → Launch} {status : Int} {output errors : String}
    (hasked : Asked arguments level (.render described asJson))
    (hanswered : (reply shown shell arguments world).1 = .answered status output errors) :
    ∃ command made, (described.create false).run world = (.ok command, made) := by
  -- Of a failure comes a usage error or the failure itself, and neither is an answer.
  rcases hcreate : (described.create false).run world with ⟨failure | command, after⟩
  · have hmade : (CommandLine.made (described.create false)).run world =
        (if isUsageFailure failure then .ok none else .error failure, after) := by
      unfold CommandLine.made
      rw [ExceptT.run_mk, hcreate]
    rw [reply_of_asked hasked] at hanswered
    unfold Call.answer at hanswered
    dsimp only at hanswered
    by_cases husage : isUsageFailure failure = true
    · rw [if_pos husage] at hmade
      rw [run_bind_of_ok hmade] at hanswered
      cases hanswered
    · rw [if_neg husage] at hmade
      rw [run_bind_of_error hmade] at hanswered
      cases hanswered
  · exact ⟨command, after, rfl⟩

/-- The reply to a call that shows a command is the line of the command, or what is known of it. -/
theorem exists_reply {arguments : List String} {level : Verbosity.Level} {asJson : Bool}
    (hasked : Asked arguments level (.render described asJson))
    (hmade : (described.create false).run world = (.ok command, made))
    (hline : (command.line none).run made = (.ok line, made)) (shown : Id → String)
    (shell : World → Request → Launch) :
    ∃ errors, (reply shown shell arguments world).1 =
      .answered 0 (written (if asJson then (⟨line, .ofCommand command⟩ : Snapshot).toJson shown else line))
        errors := by
  rw [reply_of_asked hasked, answer_render hmade hline]
  exact ⟨_, rfl⟩

end Rendered

/-- The command is made in the world of the executable, the arguments and the options that are described, and its
environment is that of the assignments. -/
structure Described.Makes (described : Described) (world : World) (environment : Entries String) (command : Command)
    (after : World) : Prop where
  collected : Collected (described.options.values "env") environment
  created : (Command.create (.text described.executable :: described.arguments.map .text)
    (described.entries environment false) none).run world = (.ok command, after)
  base : command.base = Render.collapse described.executable
  args : command.args = described.arguments
  options : Flagged described.options environment command.options

namespace Described.Makes

variable {described : Described} {world after : World} {environment : Entries String} {command : Command}

theorem of_create (h : (described.create false).run world = (.ok command, after)) :
    ∃ environment, described.Makes world environment command after := by
  unfold Described.create at h
  cases hpairs : readPairs (described.options.values "env") with
  | error failure =>
    rw [hpairs] at h
    cases h
  | ok environment =>
    rw [hpairs] at h
    have hcreated : Created (.text described.executable :: described.arguments.map .text)
        (described.entries environment false) none ⟨.ofCommand command, after⟩ := ⟨rfl, world, h⟩
    obtain ⟨body, rest, given, s, hexecutable, hgiven, -, token, hcommand⟩ := hcreated.cases
    change command = _ at hcommand
    have hparts : described.executable = body ∧ described.arguments.map .text = rest := by
      unfold Command.executable? at hexecutable
      dsimp only [Command.unpack] at hexecutable
      split at hexecutable
      · cases hexecutable
      · exact Prod.mk.inj (Option.some.inj hexecutable)
    obtain ⟨rfl, rfl⟩ := hparts
    refine ⟨environment, collected_of_readPairs hpairs, h, ?_, ?_, ?_⟩
    · rw [hcommand]
    · have htexts : Value.toText ∘ Value.text = id := rfl
      rw [hcommand, List.map_map]
      exact List.map_id _
    · rw [hcommand]
      exact flagged_of_entries hgiven

/-- The level that an option gives is read from a text, so that it is short. -/
theorem option_lt (h : described.Makes world environment command after) {level : Verbosity.Level}
    (hlevel : command.options.verbosity = some level) : level < Nat.pow 10 maxDigits := by
  have hmaking := making_create (.text described.executable :: described.arguments.map .text)
    (described.entries environment false) none world
  rw [h.created] at hmaking
  cases hmaking with
  | made executable given settled =>
    exact Options.verbosity_of_ofEntries (described.short_entries environment false) given hlevel

theorem verbosity_lt (h : described.Makes world environment command after)
    (hloaded : ∀ s, world.loaded = some s → s.verbosity < Nat.pow 10 maxDigits) :
    command.verbosity < Nat.pow 10 maxDigits :=
  Command.verbosity_of_create (described.short_entries environment false) hloaded h.created

/-- What is known of the command before it is started is kept by JSON. -/
theorem storable (h : described.Makes world environment command after)
    (hloaded : ∀ s, world.loaded = some s → s.verbosity < Nat.pow 10 maxDigits) (shown : Id → String)
    (line : String) :
    Json.Storable (.map ((⟨line, .ofCommand command⟩ : Snapshot).toEntries shown .int)) := by
  have hvariables : (keys command.options.environment).Nodup := by
    rw [h.options.environment]
    exact h.collected.nodup_keys
  have hoptions := Options.storable_toEntries hvariables fun level => h.option_lt
  exact Snapshot.storable_toEntries shown line hoptions h.options.host (h.verbosity_lt hloaded)

end Described.Makes

/-- The record tells of the command as it is, with its line. -/
structure Tells (command : Command) (line : String) (record : Entries Value) : Prop where
  line : get? "command" record = some (.text line)
  base : get? "name" record = some (.text command.base)
  args : get? "args" record = some (.list (command.args.map .text))
  verbosity : get? "verbosity" record = some (.int command.verbosity)
  options : get? "options" record = some (.map command.options.toEntries)

/-- The call that asks for JSON, of a call that does not. -/
theorem Asked.json {arguments : List String} {level : Verbosity.Level} {described : Described}
    (h : Asked arguments level (.render described false)) :
    ∃ front rest, arguments = front ++ "render" :: rest ∧ ∃ asking, described.Alike asking ∧
      Asked (front ++ "render" :: "--json" :: rest) level (.render asking true) := by
  obtain ⟨read, positional, known, leveled, called⟩ := h
  rename_i globals name rest
  obtain ⟨given, names⟩ := globals
  cases positional
  have hname : name = "render" := name_of_render called
  subst hname
  obtain ⟨front, rfl, hfront⟩ := exists_front read
  refine ⟨front, rest, rfl, _, .withGiven described, ?_⟩
  exact .named (hfront ("--json" :: rest)) rfl known leveled (readCall_json called)

/-- Assignments to one variable with another between them, and a letter that JSON writes as an escape. -/
def assigned : Described where
  executable := "tool"
  arguments := ["x y"]
  options := ⟨[("env", some "A=1"), ("env", some "B=é"), ("env", some "A=3")], ["tool", "x y"]⟩

end CommandLine

end Invocation

import Invocation.Proofs.Configured

/-!
# Files of settings that are no objects

A file that is not JSON is skipped with a warning (`load_user_of_malformed`, `load_project_of_malformed`).
A file with JSON of another kind is not: what is in it comes into the merge and the check, so that the
settings are mostly refused. `loadSettings_skips` tells exactly when such a file counts as little as an
absent one.

This rests on telling refusals apart. The check has an issue without a place only for a value that is no
object (`validate_map_ne`), and a merge into an object is not refused for the kinds of its sides
(`merge_map_cases`). So a user's value that is no object shows in the end (`completed_ne_map`).
-/

namespace Invocation

open Invocation.Entries Invocation.Number

/-! ## Issues have places -/

namespace Field

/-- Every issue of a reading has a place. -/
def Placed {α : Type} (result : Except (List Issue) α) : Prop :=
  ∀ issue ∈ issues result, issue.place ≠ []

theorem placed_single {α : Type} (reader : Value → Except Complaint α) (field : String) (value : Value) :
    Placed (single reader field value) := by
  intro issue hissue
  rw [single] at hissue
  cases h : reader value with
  | ok a =>
    rw [h] at hissue
    cases hissue
  | error complaint =>
    rw [h] at hissue
    rw [List.mem_singleton.1 hissue]
    exact List.cons_ne_nil field []

theorem placed_textEntries (field : String) (entries : Entries Value) :
    Placed (textEntries field entries) := by
  fun_induction textEntries field entries with
  | case1 =>
    intro issue hissue
    cases hissue
  | case2 key s rest ih =>
    intro issue hissue
    cases h : textEntries field rest with
    | ok texts =>
      rw [h] at hissue
      cases hissue
    | error found =>
      rw [h] at hissue ih
      exact ih issue hissue
  | case3 key value rest hvalue issue texts h ih =>
    intro other hother
    rw [List.mem_singleton.1 hother]
    exact List.cons_ne_nil field [key]
  | case4 key value rest hvalue issue found h ih =>
    intro other hother
    rcases List.mem_cons.1 hother with rfl | hother
    · exact List.cons_ne_nil field [key]
    · rw [h] at ih
      exact ih other hother

theorem placed_commandMap (field : String) (value : Value) : Placed (commandMap field value) := by
  unfold commandMap
  split
  · exact placed_textEntries field _
  · intro issue hissue
    rw [List.mem_singleton.1 hissue]
    exact List.cons_ne_nil field []

theorem placed_orDefault {α : Type} {reader : String → Value → Except (List Issue) α} {field : String}
    (h : ∀ value, Placed (reader field value)) (default : α) (entries : Entries Value) :
    Placed (orDefault reader default field entries) := by
  unfold orDefault
  split
  · exact h _
  · intro issue hissue
    cases hissue

end Field

namespace Settings

theorem placed_ofEntries (entries : Entries Value) : Field.Placed (ofEntries entries) := by
  unfold ofEntries
  dsimp only
  split
  · intro issue hissue
    cases hissue
  · intro issue hissue
    simp only [Field.issues, List.mem_append] at hissue
    rcases hissue with ((((h | h) | h) | h) | h) | h
    · exact Field.placed_orDefault (Field.placed_single _ _) _ entries issue h
    · exact Field.placed_orDefault (Field.placed_single _ _) _ entries issue h
    · exact Field.placed_orDefault (Field.placed_commandMap _) _ entries issue h
    · exact Field.placed_orDefault (Field.placed_single _ _) _ entries issue h
    · exact Field.placed_orDefault (Field.placed_single _ _) _ entries issue h
    · exact Field.placed_orDefault (Field.placed_single _ _) _ entries issue h

/-- An object is not refused for being none. -/
theorem validate_map_ne (environment : Entries String) (entries : Entries Value) :
    validate environment (.map entries) ≠ .error [⟨[], .settingsKind⟩] := by
  intro h
  rw [validate] at h
  cases hwritten : withVariables environment entries with
  | error issues =>
    rw [hwritten] at h
    obtain rfl : issues = [⟨[], .settingsKind⟩] := Except.error.inj h
    unfold withVariables at hwritten
    dsimp only at hwritten
    split at hwritten
    · cases hwritten
    · split at hwritten <;> cases hwritten
  | ok written =>
    rw [hwritten] at h
    have hplaced := placed_ofEntries written
    rw [show ofEntries written = .error [⟨[], .settingsKind⟩] from h] at hplaced
    exact hplaced ⟨[], .settingsKind⟩ List.mem_cons_self rfl

theorem validate_of_ne_map (environment : Entries String) {value : Value}
    (h : ∀ entries, value ≠ .map entries) :
    validate environment value = .error [⟨[], .settingsKind⟩] := by
  cases value with
  | map entries => exact absurd rfl (h entries)
  | _ => rfl

/-! ## Merging -/

theorem putPairs_ne {entries : Entries Value} {index : Nat} {items : List Value} {left right : String} :
    putPairs entries index items ≠ .error (.unsupported left right) := by
  intro h
  induction items generalizing entries index with
  | nil => cases h
  | cons item rest ih =>
    unfold putPairs at h
    split at h
    · cases h
    · split at h
      · split at h
        · exact ih h
        · exact ih h
      · cases h
    · cases h

/-- A merge into an object gives an object, or is refused for the items of the other side. -/
theorem merge_map_cases (entries : Entries Value) (value : Value) :
    (∃ members, merge (.map entries) value = .ok (.map members)) ∨
      ∃ fault, merge (.map entries) value = .error fault ∧ ∀ left right, fault ≠ .unsupported left right := by
  unfold merge
  dsimp only
  split
  · exact .inl ⟨_, rfl⟩
  · split
    · next items _ =>
      cases h : putPairs entries 0 items with
      | ok members => exact .inl ⟨members, rfl⟩
      | error fault =>
        refine .inr ⟨fault, rfl, ?_⟩
        rintro left right rfl
        exact putPairs_ne h
    · refine .inr ⟨_, rfl, ?_⟩
      intro left right he
      cases he

/-- A merge into a value that is no object changes nothing, or is refused for the kinds of the sides. -/
theorem merge_cases_of_ne_map {value : Value} (h : ∀ entries, value ≠ .map entries) (other : Value) :
    merge value other = .ok value ∨
      merge value other = .error (.unsupported value.kind other.kind) := by
  unfold merge
  split
  · next entries => exact absurd rfl (h entries)
  · split
    · exact .inl rfl
    · exact .inr rfl

/-! ## Loading in two steps -/

/-- What comes of the value of the user's file. -/
def completed (environment : Entries String) (below : Value) (projectFile : Option String) :
    Except LoadFault Settings :=
  match projectLayer below projectFile with
  | .error fault => .error fault
  | .ok (value, _) => (validate environment value).mapError .invalid

/-- The text of a file is not JSON. -/
def Malformed (contents : String) : Prop :=
  ∃ fault, readFile contents = .error (.malformed fault)

/-- There is an integer in a file that is too long to be read. -/
def Overlong (file : Option String) (fault : IntegerFault) : Prop :=
  ∃ contents, file = some contents ∧ readFile contents = .error (.integer fault)

section Load

variable {environment : Entries String} {userFile projectFile : Option String} {contents : String}

theorem Overlong.unique {file : Option String} {fault other : IntegerFault} (h : Overlong file fault)
    (hother : Overlong file other) : other = fault := by
  obtain ⟨contents, rfl, hread⟩ := h
  obtain ⟨_, hsame, hread'⟩ := hother
  cases hsame
  rw [hread] at hread'
  cases hread'
  rfl

theorem load_of_userLayer {below : Value} {warnings : List Warning}
    (h : userLayer userFile = .ok (below, warnings)) :
    (load environment userFile projectFile).2 = completed environment below projectFile := by
  simp only [load, completed, h]
  cases projectLayer below projectFile <;> rfl

theorem load_of_overlong {fault : IntegerFault} (h : Overlong userFile fault) :
    load environment userFile projectFile = ([], .error (.integer fault)) := by
  obtain ⟨contents, rfl, hread⟩ := h
  simp only [load, userLayer, hread]

/-- The value of the user's file is there, unless an integer in it is too long. -/
theorem userLayer_cases (file : Option String) :
    (∃ fault, Overlong file fault) ∨ ∃ below warnings, userLayer file = .ok (below, warnings) := by
  unfold userLayer
  split
  · exact .inr ⟨_, _, rfl⟩
  · split
    · exact .inr ⟨_, _, rfl⟩
    · exact .inr ⟨_, _, rfl⟩
    · next fault h => exact .inl ⟨fault, _, rfl, h⟩

/-- The project's file stops everything, or does not count, or is merged. -/
theorem completed_cases (environment : Entries String) (projectFile : Option String) :
    (∃ fault, Overlong projectFile fault ∧
      ∀ below, completed environment below projectFile = .error (.integer fault)) ∨
    (∀ below, completed environment below projectFile = (validate environment below).mapError .invalid) ∨
    ∃ value, ∀ below, completed environment below projectFile =
      match merge below value with
      | .error fault => .error (.merge fault)
      | .ok merged => (validate environment merged).mapError .invalid := by
  cases projectFile with
  | none => exact .inr (.inl fun below => rfl)
  | some contents =>
    cases hread : readFile contents with
    | error refusal =>
      cases refusal with
      | malformed fault =>
        refine .inr (.inl fun below => ?_)
        simp only [completed, projectLayer, hread]
      | integer fault =>
        refine .inl ⟨fault, ⟨contents, rfl, hread⟩, fun below => ?_⟩
        simp only [completed, projectLayer, hread]
    | ok value =>
      refine .inr (.inr ⟨value, fun below => ?_⟩)
      simp only [completed, projectLayer, hread]
      cases merge below value <;> rfl

theorem completed_of_overlong {fault : IntegerFault} (h : Overlong projectFile fault) (below : Value) :
    completed environment below projectFile = .error (.integer fault) := by
  obtain ⟨contents, rfl, hread⟩ := h
  simp only [completed, projectLayer, hread]

/-- Neither the merge nor the check complains of an integer. -/
theorem overlong_of_completed {below : Value} {fault : IntegerFault}
    (h : completed environment below projectFile = .error (.integer fault)) : Overlong projectFile fault := by
  obtain ⟨other, hover, hstopped⟩ | hchecked | ⟨value, hmerged⟩ := completed_cases environment projectFile
  · rw [hstopped] at h
    cases h
    exact hover
  · rw [hchecked] at h
    cases hvalid : validate environment below <;> simp [hvalid, Except.mapError] at h
  · rw [hmerged] at h
    cases hmerge : merge below value with
    | error why => simp [hmerge] at h
    | ok merged =>
      rw [hmerge] at h
      cases hvalid : validate environment merged <;> simp [hvalid, Except.mapError] at h

theorem mapError_inj {ε ε' α : Type} {f : ε → ε'} (hf : Function.Injective f) {x y : Except ε α} :
    x.mapError f = y.mapError f ↔ x = y := by
  cases x <;> cases y <;> simp [Except.mapError, hf.eq_iff]

theorem mapError_invalid_inj {x y : Except (List Issue) Settings} :
    x.mapError LoadFault.invalid = y.mapError LoadFault.invalid ↔ x = y :=
  mapError_inj fun _ _ => LoadFault.invalid.inj

theorem failure_injective : Function.Injective LoadFault.failure := by
  intro fault other h
  cases fault <;> cases other <;> cases h <;> rfl

/-- The user's value is told apart from an object by the refusal it leads to. -/
theorem completed_ne_map {value : Value} (hvalue : ∀ entries, value ≠ .map entries)
    (hproject : ∀ fault, ¬Overlong projectFile fault) (members : Entries Value) :
    completed environment value projectFile ≠ completed environment (.map members) projectFile := by
  intro he
  have hrefused := validate_of_ne_map environment hvalue
  obtain ⟨fault, hover, -⟩ | hchecked | ⟨other, hmerged⟩ := completed_cases environment projectFile
  · exact hproject fault hover
  · rw [hchecked, hchecked, mapError_invalid_inj, hrefused] at he
    exact validate_map_ne environment members he.symm
  · rw [hmerged, hmerged] at he
    obtain ⟨merged, hmap⟩ | ⟨fault, hfault, hkinds⟩ := merge_map_cases members other
    · rw [hmap] at he
      rcases merge_cases_of_ne_map hvalue other with hsame | hunsupported
      · rw [hsame] at he
        dsimp only at he
        rw [mapError_invalid_inj, hrefused] at he
        exact validate_map_ne environment merged he.symm
      · rw [hunsupported] at he
        cases h : validate environment (.map merged) <;> simp [h, Except.mapError] at he
    · rw [hfault] at he
      rcases merge_cases_of_ne_map hvalue other with hsame | hunsupported
      · rw [hsame] at he
        dsimp only at he
        rw [hrefused] at he
        cases he
      · rw [hunsupported] at he
        dsimp only at he
        cases he
        exact hkinds _ _ rfl

/-! ## A file that is skipped -/

theorem load_user_of_malformed {fault : Json.Fault} (h : readFile contents = .error (.malformed fault)) :
    load environment (some contents) projectFile =
      (⟨.user, fault⟩ :: (load environment none projectFile).1, (load environment none projectFile).2) := by
  simp only [load, userLayer, h]
  cases projectLayer (.map []) projectFile <;> rfl

theorem load_project_of_malformed {fault : Json.Fault} (h : readFile contents = .error (.malformed fault)) :
    load environment userFile (some contents) =
      ((load environment userFile none).1 ++
        if (userLayer userFile).toOption.isSome then [⟨.project, fault⟩] else [],
        (load environment userFile none).2) := by
  unfold load
  cases userLayer userFile with
  | error fault => rfl
  | ok layer => simp [projectLayer, h, Except.toOption]

theorem load_user_iff (h : ∀ members, readFile contents ≠ .ok (.map members)) :
    (load environment (some contents) projectFile).2 = (load environment none projectFile).2 ↔
      Malformed contents ∨
        ∃ fault, Overlong projectFile fault ∧ ∀ other, Overlong (some contents) other → other = fault := by
  have hnone : (load environment none projectFile).2 = completed environment (.map []) projectFile :=
    load_of_userLayer rfl
  cases hread : readFile contents with
  | error refusal =>
    cases refusal with
    | malformed fault =>
      rw [load_user_of_malformed hread]
      exact ⟨fun _ => .inl ⟨fault, hread⟩, fun _ => rfl⟩
    | integer fault =>
      have hover : Overlong (some contents) fault := ⟨contents, rfl, hread⟩
      rw [load_of_overlong hover, hnone]
      constructor
      · intro he
        refine .inr ⟨fault, overlong_of_completed he.symm, ?_⟩
        intro other hother
        exact hover.unique hother
      · rintro (⟨why, hmalformed⟩ | ⟨why, hproject, hsame⟩)
        · rw [hread] at hmalformed
          cases hmalformed
        · rw [completed_of_overlong hproject, hsame fault hover]
  | ok value =>
    have hvalue : ∀ members, value ≠ .map members := by
      rintro members rfl
      exact h members hread
    have hlayer : userLayer (some contents) = .ok (value, []) := by
      simp only [userLayer, hread]
    rw [load_of_userLayer hlayer, hnone]
    constructor
    · intro he
      by_contra hnot
      refine completed_ne_map hvalue (fun fault hproject => hnot (.inr ⟨fault, hproject, ?_⟩)) [] he
      rintro other ⟨_, hsame, hother⟩
      cases hsame
      rw [hread] at hother
      cases hother
    · rintro (⟨why, hmalformed⟩ | ⟨fault, hproject, -⟩)
      · rw [hread] at hmalformed
        cases hmalformed
      · rw [completed_of_overlong hproject, completed_of_overlong hproject]

/-- A project's file does not count for the check if it is not JSON, or if the check does not tell what is
merged from what was there. -/
theorem completed_some_iff {below : Value} :
    completed environment below (some contents) = (validate environment below).mapError .invalid ↔
      Malformed contents ∨ ∃ value merged, readFile contents = .ok value ∧
        merge below value = .ok merged ∧ validate environment merged = validate environment below := by
  cases hread : readFile contents with
  | error refusal =>
    cases refusal with
    | malformed fault =>
      have hskipped : completed environment below (some contents) =
          (validate environment below).mapError .invalid := by
        simp only [completed, projectLayer, hread]
      exact ⟨fun _ => .inl ⟨fault, hread⟩, fun _ => hskipped⟩
    | integer fault =>
      rw [completed_of_overlong ⟨contents, rfl, hread⟩]
      cases validate environment below <;> simp [Malformed, hread, Except.mapError]
  | ok value =>
    cases hmerge : merge below value with
    | error fault =>
      have hrefused : completed environment below (some contents) = .error (.merge fault) := by
        simp only [completed, projectLayer, hread, hmerge, Except.map, Except.mapError]
      rw [hrefused]
      cases validate environment below <;> simp [Malformed, hread, hmerge, Except.mapError]
    | ok merged =>
      have hchecked : completed environment below (some contents) =
          (validate environment merged).mapError .invalid := by
        simp only [completed, projectLayer, hread, hmerge, Except.map, Except.mapError]
      rw [hchecked, mapError_invalid_inj]
      simp [Malformed, hread, hmerge]

theorem load_project_iff :
    (load environment userFile (some contents)).2 = (load environment userFile none).2 ↔
      Malformed contents ∨ (∃ fault, Overlong userFile fault) ∨
        ∃ below warnings value merged, userLayer userFile = .ok (below, warnings) ∧
          readFile contents = .ok value ∧ merge below value = .ok merged ∧
          validate environment merged = validate environment below := by
  rcases userLayer_cases userFile with ⟨fault, hover⟩ | ⟨below, warnings, hlayer⟩
  · rw [load_of_overlong hover, load_of_overlong hover]
    exact ⟨fun _ => .inr (.inl ⟨fault, hover⟩), fun _ => rfl⟩
  have huser : ∀ fault, ¬Overlong userFile fault := by
    rintro fault ⟨other, rfl, hother⟩
    simp only [userLayer, hother] at hlayer
    cases hlayer
  have hnone : completed environment below none = (validate environment below).mapError .invalid := rfl
  rw [load_of_userLayer hlayer, load_of_userLayer hlayer, hnone, completed_some_iff]
  constructor
  · rintro (hmalformed | ⟨value, merged, hmerged⟩)
    · exact .inl hmalformed
    · exact .inr (.inr ⟨below, warnings, value, merged, hlayer, hmerged⟩)
  · rintro (hmalformed | ⟨fault, hover⟩ | ⟨_, _, value, merged, hlayer', hmerged⟩)
    · exact .inl hmalformed
    · exact absurd hover (huser fault)
    · rw [hlayer] at hlayer'
      cases hlayer'
      exact .inr ⟨value, merged, hmerged⟩

end Load

end Settings

namespace World

open Invocation.Settings

theorem loadSettings_user_iff (world : World) {contents : String}
    (h : ∀ members, readFile contents ≠ .ok (.map members)) :
    (loadSettings.run { world with userFile := some contents }).1 =
        (loadSettings.run { world with userFile := none }).1 ↔
      Malformed contents ∨ ∃ fault, Overlong world.projectFile fault ∧
        ∀ other, Overlong (some contents) other → other = fault := by
  rw [run_loadSettings_eq, run_loadSettings_eq, loads, loads, mapError_inj failure_injective]
  exact load_user_iff h

theorem loadSettings_project_iff (world : World) (contents : String) :
    (loadSettings.run { world with projectFile := some contents }).1 =
        (loadSettings.run { world with projectFile := none }).1 ↔
      Malformed contents ∨ (∃ fault, Overlong world.userFile fault) ∨
        ∃ below warnings value merged, userLayer world.userFile = .ok (below, warnings) ∧
          readFile contents = .ok value ∧ merge below value = .ok merged ∧
          validate world.environment merged = validate world.environment below := by
  rw [run_loadSettings_eq, run_loadSettings_eq, loads, loads, mapError_inj failure_injective]
  exact load_project_iff

theorem skips_user_of_malformed (world : World) {contents : String} {fault : Json.Fault}
    (h : readFile contents = .error (.malformed fault)) :
    skips { world with userFile := some contents } =
      world.warningRecord ⟨.user, fault⟩ :: skips { world with userFile := none } := by
  rw [skips, skips, load_user_of_malformed h]
  rfl

theorem skips_project_of_malformed (world : World) {contents : String} {fault : Json.Fault}
    (h : readFile contents = .error (.malformed fault))
    (hover : ∀ other, ¬Overlong world.userFile other) :
    skips { world with projectFile := some contents } =
      skips { world with projectFile := none } ++ [world.warningRecord ⟨.project, fault⟩] := by
  obtain ⟨other, hother⟩ | ⟨below, warnings, hlayer⟩ := userLayer_cases world.userFile
  · exact absurd hother (hover other)
  · simp only [skips, load_project_of_malformed h, hlayer, List.map_append]
    rfl

/-- **A file that is no object** counts as little as an absent one if its text is not JSON. It is reported
once, unless loading has stopped before it. With JSON of another kind in the user's file, the result is the
same only where the project's file stops loading before that is seen. With such JSON in the project's file,
it is the same only if that file is not reached, or if the check does not tell what is merged with it from
what was there. Files are taken to be nested less than a thousand levels deep: past that the program's reader
gives up with an error of its own, which is not reported and not skipped, while `Json.read` has no such limit. -/
theorem loadSettings_skips (world : World) {contents : String}
    (h : ∀ members, readFile contents ≠ .ok (.map members)) :
    let user file := loadSettings.run { world with userFile := file }
    let project file := loadSettings.run { world with projectFile := file }
    (∀ fault, readFile contents = .error (.malformed fault) →
      (user (some contents)).1 = (user none).1 ∧
      (project (some contents)).1 = (project none).1 ∧
      (∃ told, (user none).2.log = world.log ++ told ∧
        (user (some contents)).2.log = world.log ++ world.warningRecord ⟨.user, fault⟩ :: told) ∧
      ((∀ other, ¬Overlong world.userFile other) → (project (some contents)).2.log =
        (project none).2.log ++ [world.warningRecord ⟨.project, fault⟩])) ∧
    ((user (some contents)).1 = (user none).1 ↔ Malformed contents ∨
      ∃ fault, Overlong world.projectFile fault ∧
        ∀ other, Overlong (some contents) other → other = fault) ∧
    ((project (some contents)).1 = (project none).1 ↔ Malformed contents ∨
      (∃ fault, Overlong world.userFile fault) ∨
      ∃ below warnings value merged, userLayer world.userFile = .ok (below, warnings) ∧
        readFile contents = .ok value ∧ merge below value = .ok merged ∧
        validate world.environment merged = validate world.environment below) := by
  intro user project
  have huser := loadSettings_user_iff world h
  have hproject := loadSettings_project_iff world contents
  refine ⟨fun fault hfault => ?_, huser, hproject⟩
  have htold : (user (some contents)).2.log =
      world.log ++ world.warningRecord ⟨.user, fault⟩ :: skips { world with userFile := none } := by
    rw [← skips_user_of_malformed world hfault]
    exact congrArg (·.2.log) (run_loadSettings_eq _)
  have hnone : (user none).2.log = world.log ++ skips { world with userFile := none } :=
    congrArg (·.2.log) (run_loadSettings_eq _)
  refine ⟨huser.2 (.inl ⟨fault, hfault⟩), hproject.2 (.inl ⟨fault, hfault⟩), ⟨_, hnone, htold⟩, ?_⟩
  intro hover
  simp only [project, run_loadSettings_eq]
  rw [skips_project_of_malformed world hfault hover, List.append_assoc]

/-- A world in which the user has set a mask and a flag, and a project's file has been cut off. -/
def interrupted : World :=
  { fresh ⟨"/home/u/settings.json", "/work"⟩ with
    userFile := some "\x7b\"umask\": \"027\"\x7d"
    projectFile := some "[]x" }

theorem loadSettings_skips_interrupted :
    (loadSettings.run interrupted).1 = (loadSettings.run { interrupted with projectFile := none }).1 := by
  have hread : readFile "[]x" = .error (.malformed ⟨.extraData, 1, 3, 2⟩) := by cbv
  have hkind : ∀ members, readFile "[]x" ≠ .ok (.map members) := by
    intro members h
    rw [hread] at h
    cases h
  exact ((loadSettings_skips interrupted hkind).1 _ hread).2.1

/-- A project's file that holds nothing but null keeps all settings from being loaded. -/
theorem loadSettings_null :
    let world := fresh ⟨"/home/u/settings.json", "/work"⟩
    (loadSettings.run { world with projectFile := some "null" }).1 ≠
      (loadSettings.run { world with projectFile := none }).1 := by
  intro world h
  have hread : readFile "null" = .ok .null := by cbv
  have hfails : loads { world with projectFile := some "null" } =
      .error (.merge (.notIterable "NoneType")) := by
    simp only [loads, load, userLayer, projectLayer, world, fresh, hread]
    rfl
  have hloads : loads { world with projectFile := none } = .ok defaults := rfl
  rw [run_loadSettings_eq, run_loadSettings_eq, hfails, hloads] at h
  cases h

end World

end Invocation

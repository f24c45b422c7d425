import Invocation.Settings.Validate

/-!
# Fields are read back

The reader of every field of the settings gives back the field from the value that stands for it among
the entries of the settings. Nothing is read as no mask, as the absence of the mask is.
-/

namespace Invocation

open Invocation.Entries

namespace Field

theorem defaultEnv_ofTexts (entries : Entries String) :
    defaultEnv (.ofTexts entries) = .ok entries := by
  have hvalues : Entries.mapValues Value.toText (Entries.mapValues Value.text entries) = entries := by
    rw [mapValues, mapValues, List.map_map]
    exact List.map_id _
  rw [Value.ofTexts, defaultEnv, hvalues]

theorem commandMap_ofTexts (field : String) (entries : Entries String) :
    commandMap field (.ofTexts entries) = .ok entries := by
  rw [Value.ofTexts, commandMap]
  induction entries with
  | nil => rfl
  | cons entry rest ih =>
    change (textEntries field (mapValues .text rest)).map _ = _
    rw [ih]
    rfl

theorem umask_text (mask : Umask) : umask (.text mask.text) = .ok (some mask) := by
  have hne : mask.text ≠ "" := by
    intro he
    have hoctal := mask.isOctal
    rw [he] at hoctal
    cases hoctal
  unfold umask Umask.resolve
  split
  · next heq => cases heq
  · next heq => exact absurd (Value.text.inj heq) hne
  · rw [Value.toText, Umask.ofText, dif_pos mask.isOctal]
    rfl

theorem umask_getD (mask : Option Umask) :
    umask ((mask.map fun mask => Value.text mask.text).getD .null) = .ok mask := by
  cases mask with
  | none => rfl
  | some mask => exact umask_text mask

theorem verbosity_level (level : Verbosity.Level) : verbosity (.int level) = .ok level := by
  have hnonneg : ¬(level : Int) < 0 := by omega
  rw [verbosity, Verbosity.resolve, Verbosity.ofInt, if_neg hnonneg, Int.toNat_natCast]
  rfl

theorem theme_name (t : Theme) : theme (.text t.name) = .ok t := by
  cases t <;> rfl

end Field

end Invocation

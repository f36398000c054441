import EditorAssist.Settings.Field

/-!
# Settings that are read

Settings are the defaults with some fields replaced, each by a value that its field accepts. So what holds of the
defaults and of every value that is accepted holds of all settings that are read.
-/

namespace EditorAssist.Settings

open EditorAssist.Json EditorAssist.Payload

section Fields

variable {valid : Settings → Prop} {α : Type}

/-- A field keeps a property if every value that it accepts does. -/
def Field.Keeps (valid : Settings → Prop) (field : Field) : Prop :=
  ∀ v change, field.read v = .ok change → ∀ s, valid s → valid (change s)

theorem Field.Keeps.apply {field : Field} (keeps : field.Keeps valid) (given : Entries) {s : Settings}
    (before : valid s) : valid (field.apply given s) := by
  unfold Field.apply
  split
  · exact before
  · split
    · next change read => exact keeps _ change read s before
    · exact before

end Fields

end EditorAssist.Settings

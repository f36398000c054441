import EditorAssist.Proofs.Json.Entries
import EditorAssist.Settings.Layer

/-!
# Layers laid over each other

What layers hold under a key is what the topmost of them that has the key holds there. Only objects are
merged, and what they are merged into is an object again.
-/

namespace EditorAssist.Settings

open EditorAssist.Json

/-! ## Values that differ at most in the entries of an object -/

section Alike

/-- Two values are the same, or both are objects. -/
inductive Alike : Value → Value → Prop where
  | same (v : Value) : Alike v v
  | objects (first second : Entries) : Alike (.obj first) (.obj second)

theorem Alike.trans {u v w : Value} (first : Alike u v) (second : Alike v w) : Alike u w := by
  cases first with
  | same => exact second
  | objects => cases second <;> exact .objects ..

/-- What is laid over a value shows, but for the entries of an object. -/
theorem overlay_alike (below above : Value) : Alike (overlay below above) above := by
  cases above with
  | obj entries => cases below <;> exact .objects ..
  | _ => exact .same _

theorem rel_refl : (v : Option Value) → Option.Rel Alike v v
  | none => .none
  | some v => .some (.same v)

theorem rel_trans {u v w : Option Value} (first : Option.Rel Alike u v) (second : Option.Rel Alike v w) :
    Option.Rel Alike u w := by
  cases first with
  | none => exact second
  | some alike =>
    cases second with
    | some further => exact .some (alike.trans further)

theorem rel_or {u v : Option Value} (above : Option Value) (alike : Option.Rel Alike u v) :
    Option.Rel Alike (above.or u) (above.or v) := by
  cases above with
  | none => exact alike
  | some v => exact rel_refl _

end Alike

/-! ## Entries laid over each other -/

section Overlay

variable {below above : Entries}

/-- Under a key, what the upper layer holds is laid over what the lower one holds. -/
theorem get?_overlayEntries_eq (distinct : (Entries.keys above).Nodup) (key : String) :
    Entries.get? key (overlayEntries below above) =
      ((Entries.get? key above).map (overlay ((Entries.get? key below).getD .null))).or (Entries.get? key below) := by
  induction above generalizing below with
  | nil => rfl
  | cons entry rest ih =>
    rcases entry with ⟨name, v⟩
    rw [Entries.keys, List.map_cons, List.nodup_cons] at distinct
    rw [overlayEntries, ih distinct.2, Entries.get?_set]
    by_cases same : key = name
    · subst same
      rw [Entries.get?_eq_none_of_notMem distinct.1, if_pos rfl, Entries.get?_cons_self]
      rfl
    · rw [if_neg same, Entries.get?_cons_of_ne (Ne.symm same)]

/-- Under a key, the upper layer hides the lower one. -/
theorem get?_overlayEntries (distinct : (Entries.keys above).Nodup) (key : String) :
    Option.Rel Alike (Entries.get? key (overlayEntries below above))
      ((Entries.get? key above).or (Entries.get? key below)) := by
  rw [get?_overlayEntries_eq distinct]
  cases Entries.get? key above with
  | none => exact rel_refl _
  | some v => exact .some (overlay_alike ..)

theorem nodup_overlayEntries (distinct : (Entries.keys below).Nodup) :
    (Entries.keys (overlayEntries below above)).Nodup := by
  induction above generalizing below with
  | nil => exact distinct
  | cons entry rest ih =>
    rw [overlayEntries]
    exact ih (Entries.nodup_set distinct)

end Overlay

end EditorAssist.Settings

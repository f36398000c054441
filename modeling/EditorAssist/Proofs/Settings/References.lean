import EditorAssist.Proofs.Json.Contents
import EditorAssist.Proofs.Text.Search
import EditorAssist.Settings.Environment

/-!
# References

The references to one variable divide a text into pieces, in which the references to all others are replaced. What the
variable stands for is filled in between the pieces, and changes none of them.
-/

namespace EditorAssist.Settings.Environment

open EditorAssist.Text
open EditorAssist.Json.Parser (Content)

/-- What replaces a reference to a variable. -/
def value (name : String) (environ : Environment) : List Char := ((environ.get? name).getD "").toList

/-- A reference to a variable. -/
def reference (name : String) : List Char := referenceMark ++ name.toList ++ ['\x7d']

/-- The pieces of a text between the references to a variable; the others are replaced. -/
def around (name : String) (environ : Environment) : List Char → List (List Char)
  | [] => [[]]
  | c :: rest =>
    match h : (strip? referenceMark (c :: rest)).bind reference? with
    | some (found, after) =>
      have := length_after_reference_lt h
      if String.ofList found = name then [] :: around name environ after
      else (around name environ after).modifyHead (environ.value (String.ofList found) ++ ·)
    | none => (around name environ rest).modifyHead (c :: ·)
termination_by text => text.length
decreasing_by
  · exact this
  · exact this
  · exact Nat.lt_succ_self _

section Expanding

variable {name : String} {environ : Environment} {c : Char} {rest found after : List Char}

theorem expand_of_reference (there : (strip? referenceMark (c :: rest)).bind reference? = some (found, after)) :
    environ.expand (c :: rest) = environ.value (String.ofList found) ++ environ.expand after := by
  rw [expand]
  split
  · next same =>
    cases there.symm.trans same
    rfl
  · next none => cases there.symm.trans none

theorem expand_of_none (none : (strip? referenceMark (c :: rest)).bind reference? = none) :
    environ.expand (c :: rest) = c :: environ.expand rest := by
  rw [expand]
  split
  · next same => cases none.symm.trans same
  · rfl

/-- A text without references is left as it is. -/
theorem expand_of_unmarked {text : List Char} (unmarked : ¬referenceMark <:+: text) : environ.expand text = text := by
  induction text with
  | nil => rw [expand]
  | cons c rest ih =>
    have start : strip? referenceMark (c :: rest) = none := by
      cases found : strip? referenceMark (c :: rest) with
      | none => rfl
      | some after => exact absurd ⟨[], after, (strip?_eq_some_iff.mp found).symm⟩ unmarked
    have later : ¬referenceMark <:+: rest := fun occurs => unmarked (List.infix_cons occurs)
    rw [expand_of_none (by rw [start]; rfl), ih later]

theorem around_of_reference (there : (strip? referenceMark (c :: rest)).bind reference? = some (found, after)) :
    around name environ (c :: rest) =
      if String.ofList found = name then [] :: around name environ after
      else (around name environ after).modifyHead (environ.value (String.ofList found) ++ ·) := by
  rw [around]
  split
  · next same =>
    cases there.symm.trans same
    rfl
  · next none => cases there.symm.trans none

theorem around_of_none (none : (strip? referenceMark (c :: rest)).bind reference? = none) :
    around name environ (c :: rest) = (around name environ rest).modifyHead (c :: ·) := by
  rw [around]
  split
  · next same => cases none.symm.trans same
  · rfl

end Expanding

section Pieces

variable {name : String} {environ environ' : Environment}

theorem joinWith_modifyHead (separator front : List Char) {pieces : List (List Char)} (some : pieces ≠ []) :
    joinWith separator (pieces.modifyHead (front ++ ·)) = front ++ joinWith separator pieces := by
  match pieces with
  | [] => exact absurd rfl some
  | [piece] => rfl
  | piece :: next :: more => simp [joinWith]

theorem around_ne_nil (text : List Char) : around name environ text ≠ [] := by
  fun_induction around name environ text with
  | case1 => exact List.cons_ne_nil _ _
  | case2 => exact List.cons_ne_nil _ _
  | case3 _ _ _ _ _ _ _ ih => exact mt List.modifyHead_eq_nil_iff.mp ih
  | case4 _ _ _ ih => exact mt List.modifyHead_eq_nil_iff.mp ih

/-- A text is expanded by filling in what a variable stands for. -/
theorem expand_eq_joinWith (name : String) (environ : Environment) (text : List Char) :
    environ.expand text = joinWith (environ.value name) (environ.around name text) := by
  fun_induction around name environ text with
  | case1 => rw [expand]; rfl
  | case2 c rest found after there _ same ih =>
    rw [expand_of_reference there, joinWith_cons _ _ (around_ne_nil after), ih, same]
    rfl
  | case3 c rest found after there _ other ih =>
    rw [expand_of_reference there, joinWith_modifyHead _ _ (around_ne_nil after), ih]
  | case4 c rest none ih =>
    rw [expand_of_none none, ih]
    exact (joinWith_modifyHead _ [c] (around_ne_nil rest)).symm

/-- The pieces depend on the other variables only. -/
theorem around_congr (others : ∀ other, other ≠ name → environ'.get? other = environ.get? other) (text : List Char) :
    around name environ' text = around name environ text := by
  fun_induction around name environ text with
  | case1 => rw [around]
  | case2 c rest found after there _ same ih => rw [around_of_reference there, if_pos same, ih]
  | case3 c rest found after there _ other ih =>
    have value : environ'.value (String.ofList found) = environ.value (String.ofList found) :=
      congrArg (fun held => (held.getD "").toList) (others _ other)
    rw [around_of_reference there, if_neg other, ih, value]
  | case4 c rest none ih => rw [around_of_none none, ih]

end Pieces

/-- What may stand in a string may be filled in for a reference in it. -/
theorem content_fill {name : String} {pieces : List (List Char)} (string : Content (joinWith (reference name) pieces))
    {value : List Char} (content : Content value) : Content (joinWith value pieces) := by
  induction pieces with
  | nil => exact .nil
  | cons piece pieces ih =>
    by_cases last : pieces = []
    · subst last
      exact string
    · have opened : joinWith (reference name) (piece :: pieces) =
          piece ++ '\x7b' :: ("env:".toList ++ name.toList ++ '\x7d' :: joinWith (reference name) pieces) := by
        simp [joinWith_cons _ _ last, reference, referenceMark]
      rw [opened] at string
      obtain ⟨front, named⟩ := string.cut rfl (by decide) rfl
      obtain ⟨-, behind⟩ := named.cut rfl (by decide) rfl
      rw [joinWith_cons _ _ last]
      exact (front.append content).append (ih behind)

end EditorAssist.Settings.Environment

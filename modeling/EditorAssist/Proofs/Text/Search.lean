import EditorAssist.Text.Search

/-!
# First occurrences

A piece occurs first in a text where no occurrence begins further in front. A search breaks the text there
(`breakOn_eq_some_iff`), and it finds nothing only where the piece does not occur (`breakOn_eq_none_iff`). There is
one such place, so whoever exhibits it knows the result of the search.
-/

namespace EditorAssist.Text

/-- A text around the first occurrence of a piece. -/
structure FirstAt (piece text before after : List Char) : Prop where
  split : text = before ++ piece ++ after
  first : ∀ front back, text = front ++ piece ++ back → before.length ≤ front.length

section Search

variable {piece text before after : List Char}

/-- No occurrence begins in front of the one at which a search breaks. -/
theorem length_le_of_breakOn (found : breakOn piece text = some (before, after)) {front back : List Char}
    (occurs : text = front ++ piece ++ back) : before.length ≤ front.length := by
  induction text generalizing before front with
  | nil =>
    obtain ⟨rest, -, place⟩ := Option.map_eq_some_iff.mp found
    cases place
    exact Nat.zero_le _
  | cons c text ih =>
    rw [breakOn] at found
    split at found
    · cases found
      exact Nat.zero_le _
    · next absent =>
      obtain ⟨⟨begins, rest⟩, later, place⟩ := Option.map_eq_some_iff.mp found
      cases place
      cases front with
      | nil =>
        have start : strip? piece (c :: text) = some back := strip?_eq_some_iff.mpr occurs
        rw [start] at absent
        cases absent
      | cons d front =>
        rw [List.length_cons, List.length_cons]
        exact Nat.succ_le_succ (ih later (List.cons.inj occurs).2)

theorem breakOn_eq_none_iff : breakOn piece text = none ↔ ¬piece <:+: text := by
  constructor
  · rintro nothing ⟨front, back, occurs⟩
    induction text generalizing front with
    | nil =>
      obtain ⟨nil, rfl⟩ := List.append_eq_nil_iff.mp occurs
      rw [(List.append_eq_nil_iff.mp nil).2] at nothing
      cases nothing
    | cons c text ih =>
      rw [breakOn] at nothing
      split at nothing
      · cases nothing
      · next absent =>
        cases front with
        | nil =>
          have start : strip? piece (c :: text) = some back := strip?_eq_some_iff.mpr occurs.symm
          rw [start] at absent
          cases absent
        | cons d front => exact ih (Option.map_eq_none_iff.mp nothing) front (List.cons.inj occurs).2
  · intro absent
    cases found : breakOn piece text with
    | none => rfl
    | some place => exact absurd ⟨place.1, place.2, (eq_append_of_breakOn found).symm⟩ absent

/-- A piece has one first occurrence. -/
theorem FirstAt.unique {before' after' : List Char} (one : FirstAt piece text before after)
    (other : FirstAt piece text before' after') : before = before' ∧ after = after' := by
  have level : before.length = before'.length :=
    Nat.le_antisymm (one.first _ _ other.split) (other.first _ _ one.split)
  have same := one.split.symm.trans other.split
  rw [List.append_assoc, List.append_assoc] at same
  obtain ⟨rfl, behind⟩ := List.append_inj same level
  exact ⟨rfl, List.append_cancel_left behind⟩

/-- A search breaks a text at the first occurrence. -/
theorem breakOn_eq_some_iff : breakOn piece text = some (before, after) ↔ FirstAt piece text before after := by
  constructor
  · intro found
    exact ⟨eq_append_of_breakOn found, fun _ _ => length_le_of_breakOn found⟩
  · intro place
    cases found : breakOn piece text with
    | none => exact absurd ⟨before, after, place.split.symm⟩ (breakOn_eq_none_iff.mp found)
    | some other =>
      have searched : FirstAt piece text other.1 other.2 :=
        ⟨eq_append_of_breakOn found, fun _ _ => length_le_of_breakOn found⟩
      obtain ⟨rfl, rfl⟩ := searched.unique place
      rfl

/-- Whatever occurs occurs first somewhere. -/
theorem exists_firstAt (occurs : piece <:+: text) : ∃ before after, FirstAt piece text before after := by
  cases found : breakOn piece text with
  | none => exact absurd occurs (breakOn_eq_none_iff.mp found)
  | some place => exact ⟨place.1, place.2, breakOn_eq_some_iff.mp found⟩

/-- Nothing occurs in front of a piece that stands behind a separator, which it does not hold itself. -/
theorem FirstAt.behind {separator : Char} (alone : separator ∉ piece) (absent : ¬piece <:+: text) (after : List Char) :
    FirstAt piece (text ++ separator :: (piece ++ after)) (text ++ [separator]) after := by
  refine ⟨by simp, ?_⟩
  intro front back occurs
  rw [List.append_assoc] at occurs
  rw [List.length_append, List.length_singleton]
  rcases List.append_eq_append_iff.mp occurs with ⟨between, rfl, behind⟩ | ⟨begun, rfl, behind⟩
  · -- The occurrence begins behind the text; it does not begin with the separator.
    cases between with
    | nil =>
      cases piece with
      | nil => exact absurd (List.nil_infix (l := text)) absent
      | cons c piece => exact absurd (List.cons.inj behind).1 fun same => alone (same ▸ List.mem_cons_self)
    | cons c between =>
      rw [List.length_append, List.length_cons]
      omega
  · -- It begins within the text and ends there, or the separator is part of it.
    rcases List.append_eq_append_iff.mp behind with ⟨more, rfl, -⟩ | ⟨more, rfl, behind⟩
    · exact absurd ⟨front, more, by simp⟩ absent
    · cases more with
      | nil => exact absurd ⟨front, [], by simp⟩ absent
      | cons c more =>
        obtain ⟨rfl, -⟩ := List.cons.inj behind
        exact absurd (List.mem_append_right begun List.mem_cons_self) alone

/-- A character occurs first behind a text that does not hold it. -/
theorem firstAt_singleton {separator : Char} (absent : separator ∉ before) (after : List Char) :
    FirstAt [separator] (before ++ separator :: after) before after := by
  refine ⟨by simp, ?_⟩
  intro front back occurs
  rw [List.append_assoc] at occurs
  rcases List.append_eq_append_iff.mp occurs with ⟨between, rfl, -⟩ | ⟨begun, rfl, behind⟩
  · rw [List.length_append]
    exact Nat.le_add_right ..
  · cases begun with
    | nil => exact Nat.le_of_eq (congrArg List.length (List.append_nil front))
    | cons c begun =>
      obtain ⟨rfl, -⟩ := List.cons.inj behind
      exact absurd (List.mem_append_right front List.mem_cons_self) absent

theorem FirstAt.separator_notMem {separator : Char} (place : FirstAt [separator] text before after) :
    separator ∉ before := by
  intro member
  obtain ⟨front, back, rfl⟩ := List.append_of_mem member
  have early := place.first front (back ++ [separator] ++ after) (by simp [place.split])
  rw [List.length_append, List.length_cons] at early
  omega

/-- What does not occur behind the beginning of its first occurrence occurs only there. -/
theorem FirstAt.eq_of_alone (place : FirstAt piece text before after) (alone : ¬piece <:+: piece.tail ++ after)
    (front back : List Char) (occurs : text = front ++ piece ++ back) : front = before := by
  have level : before.length ≤ front.length := place.first front back occurs
  have same := place.split.symm.trans occurs
  rw [List.append_assoc, List.append_assoc] at same
  rcases List.append_eq_append_iff.mp same with ⟨between, rfl, behind⟩ | ⟨begun, rfl, -⟩
  · cases between with
    | nil => exact List.append_nil before
    | cons c between =>
      cases piece with
      | nil => exact absurd List.nil_infix alone
      | cons d piece =>
        obtain ⟨-, behind⟩ := List.cons.inj behind
        exact absurd ⟨between, back, (List.append_assoc ..).trans behind.symm⟩ alone
  · have nothing : begun = [] := by
      rw [List.length_append] at level
      exact List.length_eq_zero_iff.mp (by omega)
    rw [nothing, List.append_nil]

theorem replaceFirst_of_absent (replacement : List Char) (absent : ¬piece <:+: text) :
    replaceFirst piece replacement text = text := by
  rw [replaceFirst, breakOn_eq_none_iff.mpr absent]

theorem splitOn_of_absent {first : Char} {more : List Char} (absent : ¬(first :: more) <:+: text) :
    splitOn first more text = [text] := by
  rw [splitOn]
  split
  · rfl
  · next found => exact absurd ⟨_, _, (eq_append_of_breakOn found).symm⟩ absent

theorem FirstAt.replaceFirst (place : FirstAt piece text before after) (replacement : List Char) :
    Text.replaceFirst piece replacement text = before ++ replacement ++ after := by
  rw [Text.replaceFirst, breakOn_eq_some_iff.mpr place]

theorem joinWith_cons (separator piece : List Char) {pieces : List (List Char)} (some : pieces ≠ []) :
    joinWith separator (piece :: pieces) = piece ++ separator ++ joinWith separator pieces := by
  obtain ⟨next, more, rfl⟩ := List.exists_cons_of_ne_nil some
  rfl

end Search

end EditorAssist.Text

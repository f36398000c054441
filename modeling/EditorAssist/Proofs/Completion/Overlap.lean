import EditorAssist.Completion.Edit
import EditorAssist.Proofs.Text.Trim
import Mathlib.Order.Bounds.Defs

/-!
# The longest overlap

A text overlaps another one by characters in which it ends and the other one starts. Where both repeat themselves, as
brackets do, there are several such ends. The search comes to their sizes from above, so the first one that fits is the
greatest (`isGreatest_overlapUpTo`), and it comes to nothing only where no end of the text starts the other one
(`overlap_is_the_longest`).
-/

namespace EditorAssist.Completion

open EditorAssist.Text

/-- The sizes for which the last characters of `text` are the first ones of `suffix`. -/
def overlaps (text suffix : List Char) : Set Nat :=
  {size | size ≤ min text.length suffix.length ∧ text.drop (text.length - size) = suffix.take size}

section Search

variable {text suffix tail : List Char}

/-- An end of `text` that starts `suffix` is an overlap. -/
theorem length_mem_overlaps (ends : tail <:+ text) (starts : tail <+: suffix) : tail.length ∈ overlaps text suffix := by
  refine ⟨Nat.le_min.mpr ⟨ends.length_le, starts.length_le⟩, ?_⟩
  rw [← List.suffix_iff_eq_drop.mp ends, ← List.prefix_iff_eq_take.mp starts]

/-- An overlap is an end of `text` that starts `suffix`. -/
theorem exists_tail_of_mem_overlaps {size : Nat} (shared : size ∈ overlaps text suffix) :
    ∃ tail, tail.length = size ∧ tail <:+ text ∧ tail <+: suffix := by
  obtain ⟨within, same⟩ := shared
  refine ⟨suffix.take size, ?_, ?_, List.take_prefix size suffix⟩
  · exact List.length_take_of_le (Nat.le_trans within (Nat.min_le_right ..))
  · rw [← same]
    exact List.drop_suffix ..

/-- A search from above stops at the greatest size. -/
theorem isGreatest_overlapUpTo (text suffix : List Char) (bound : Nat) :
    IsGreatest {size | size ≤ bound ∧ text.drop (text.length - size) = suffix.take size}
      (overlapUpTo text suffix bound) := by
  induction bound with
  | zero =>
    have empty : text.drop (text.length - 0) = suffix.take 0 := by rw [Nat.sub_zero, List.drop_length, List.take_zero]
    exact ⟨⟨Nat.le_refl 0, empty⟩, fun size fits => fits.1⟩
  | succ bound ih =>
    rw [overlapUpTo]
    split
    · next same => exact ⟨⟨Nat.le_refl _, same⟩, fun size fits => fits.1⟩
    · next differs =>
      refine ⟨⟨Nat.le_succ_of_le ih.1.1, ih.1.2⟩, ?_⟩
      rintro size ⟨within, same⟩
      have other : size ≠ bound + 1 := by
        rintro rfl
        exact differs same
      have lower : size ≤ bound := by omega
      exact ih.2 ⟨lower, same⟩

theorem isGreatest_overlap (text suffix : List Char) :
    IsGreatest (overlaps (dropEndWhile isIndent text) suffix) (overlap text suffix) :=
  isGreatest_overlapUpTo ..

/-- The greatest overlap is none where no end of the text starts the other one. -/
theorem greatest_eq_zero_iff {size : Nat} (greatest : IsGreatest (overlaps text suffix) size) :
    size = 0 ↔ ∀ tail, tail ≠ [] → tail <:+ text → ¬tail <+: suffix := by
  constructor
  · rintro rfl tail filled ends starts
    have least : tail.length ≤ 0 := greatest.2 (length_mem_overlaps ends starts)
    exact filled (List.length_eq_zero_iff.mp (Nat.le_zero.mp least))
  · intro none
    obtain ⟨tail, rfl, ends, starts⟩ := exists_tail_of_mem_overlaps greatest.1
    by_cases empty : tail = []
    · exact List.length_eq_zero_iff.mpr empty
    · exact absurd starts (none tail empty ends)

end Search

/-- The tail of a text without spaces at its end that starts `suffix`. -/
theorem overlap_spec {text : List Char} (suffix : List Char) (trimmed : dropEndWhile isIndent text = text) :
    overlap text suffix ≤ suffix.length ∧
      text.take (text.length - overlap text suffix) ++ suffix.take (overlap text suffix) = text := by
  have greatest := isGreatest_overlap text suffix
  rw [trimmed] at greatest
  obtain ⟨within, same⟩ := greatest.1
  refine ⟨Nat.le_trans within (Nat.min_le_right ..), ?_⟩
  rw [← same]
  exact List.take_append_drop ..

/-- The overlap of a text is the longest one that it has without the spaces and tabs at its end, and it is empty exactly
when no end of that text starts the other one. -/
theorem overlap_is_the_longest (text suffix : List Char) :
    ∃ visible blank, text = visible ++ blank ∧ (∀ c ∈ blank, c = ' ' ∨ c = '\t') ∧
      (∀ c ∈ visible.getLast?, c ≠ ' ' ∧ c ≠ '\t') ∧
      IsGreatest (overlaps visible suffix) (overlap text suffix) ∧
      (overlap text suffix = 0 ↔ ∀ tail, tail ≠ [] → tail <:+ visible → ¬tail <+: suffix) := by
  obtain ⟨blank, split, dropped, kept⟩ := exists_dropEndWhile isIndent text
  have greatest := isGreatest_overlap text suffix
  refine ⟨dropEndWhile isIndent text, blank, split, ?_, ?_, greatest, greatest_eq_zero_iff greatest⟩
  · intro c member
    simpa [isIndent] using dropped c member
  · intro c last
    simpa [isIndent] using kept c last

/-- Of the three brackets after the cursor the text supplies two. -/
example : overlap ['f', '(', ')', ')', ' '] [')', ')', ')', ';'] = 2 := by decide

end EditorAssist.Completion

import EditorAssist.Number.Total

/-!
# Totals of rearranged lists

A total does not depend on the order of its numbers, and leaving numbers out makes it no larger.
-/

namespace EditorAssist.Number

theorem total_perm {first second : List Nat} (same : first.Perm second) : total first = total second := by
  induction same with
  | nil => rfl
  | cons n _ ih => rw [total_cons, total_cons, ih]
  | swap n m rest =>
    simp only [total_cons]
    omega
  | trans _ _ ih₁ ih₂ => rw [ih₁, ih₂]

theorem total_le_of_sublist {fewer numbers : List Nat} (part : fewer.Sublist numbers) :
    total fewer ≤ total numbers := by
  induction part with
  | slnil => exact Nat.le_refl _
  | cons n _ ih =>
    rw [total_cons]
    omega
  | cons_cons n _ ih =>
    rw [total_cons, total_cons]
    omega

theorem total_map_le {α : Type} {items : List α} {f g : α → Nat} (below : ∀ x ∈ items, f x ≤ g x) :
    total (items.map f) ≤ total (items.map g) := by
  induction items with
  | nil => exact Nat.le_refl _
  | cons x rest ih =>
    simp only [List.map_cons, total_cons]
    have first := below x (List.mem_cons_self ..)
    have others := ih fun y member => below y (List.mem_cons_of_mem _ member)
    omega

theorem total_map_eq_zero {α : Type} {items : List α} {f : α → Nat} (nothing : ∀ x ∈ items, f x = 0) :
    total (items.map f) = 0 := by
  induction items with
  | nil => rfl
  | cons x rest ih =>
    rw [List.map_cons, total_cons, nothing x (List.mem_cons_self ..),
      ih fun y member => nothing y (List.mem_cons_of_mem _ member)]

theorem total_map_mul {α : Type} (items : List α) (f : α → Nat) (factor : Nat) :
    total (items.map fun x => f x * factor) = total (items.map f) * factor := by
  induction items with
  | nil => exact (Nat.zero_mul factor).symm
  | cons x rest ih => rw [List.map_cons, List.map_cons, total_cons, total_cons, ih, Nat.add_mul]

end EditorAssist.Number

/-!
# Totals

The total of some numbers. Columns, rows, texts and work that is left are all measured by one.
-/

namespace EditorAssist.Number

/-- The numbers added up. -/
def total (numbers : List Nat) : Nat := numbers.foldr (· + ·) 0

theorem total_nil : total [] = 0 := rfl

theorem total_cons (n : Nat) (more : List Nat) : total (n :: more) = n + total more := rfl

theorem total_append (first second : List Nat) :
    total (first ++ second) = total first + total second := by
  induction first with
  | nil => simp [total_nil]
  | cons n more ih => simp [total_cons, ih, Nat.add_assoc]

end EditorAssist.Number

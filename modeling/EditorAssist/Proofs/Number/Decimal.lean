import EditorAssist.Proofs.Number.Grouped
import Mathlib.Algebra.Group.Nat.Defs

/-!
# Decimal notation

A natural number written in decimal is read back as itself, also with a blank in front, as long as it
has no more digits than are read.
-/

namespace EditorAssist.Number

open EditorAssist.Text

theorem isDigit_of_mem_toString {n : Nat} {c : Char} (member : c ∈ (toString n).toList) :
    c.isDigit = true := by
  rw [Nat.toString_eq_repr, Nat.toList_repr] at member
  exact Nat.isDigit_of_mem_toDigits (by decide) (by decide) member

theorem toString_injective {m n : Nat} (same : toString m = toString n) : m = n := by
  have digits : Nat.toDigits 10 m = Nat.toDigits 10 n := by
    rw [← Nat.toList_repr, ← Nat.toList_repr, ← Nat.toString_eq_repr, ← Nat.toString_eq_repr, same]
  rw [← @Nat.ofDigitChars_ten_toDigits m, digits, Nat.ofDigitChars_ten_toDigits]

theorem toString_toList_ne_nil (n : Nat) : (toString n).toList ≠ [] := by
  rw [Nat.toString_eq_repr, Nat.toList_repr]
  exact Nat.toDigits_ne_nil

/-- The value of a header line that announces `n`, its leading blank included. -/
theorem headerInteger?_toString {n : Nat} (short : (toString n).toList.length ≤ maxDigits) :
    headerInteger? (' ' :: (toString n).toList) = some (n : Int) := by
  have grouped : Grouped false (toString n).toList (toString n).toList :=
    .of_digits (fun c member => isDigit_of_mem_toString member) (.inl (toString_toList_ne_nil n))
  have value : Nat.ofDigitChars 10 (toString n).toList 0 = n := by
    rw [Nat.toString_eq_repr, Nat.toList_repr, Nat.ofDigitChars_ten_toDigits]
  have spells : Spells ([' '] ++ (toString n).toList ++ []) (Nat.ofDigitChars 10 (toString n).toList 0) :=
    .around (List.forall_mem_singleton.mpr rfl) (.plain grouped short) (List.forall_mem_nil _)
  rw [value, List.append_nil] at spells
  exact headerInteger?_eq_some_iff.mpr spells

/-- Numbers below `10 ^ maxDigits` have few enough digits. -/
theorem length_toString_le {n : Nat} (small : n < 10 ^ maxDigits) :
    (toString n).toList.length ≤ maxDigits := by
  rw [Nat.toString_eq_repr, Nat.toList_repr]
  exact (Nat.length_toDigits_le_iff (by decide) (by decide)).mpr small

end EditorAssist.Number

import EditorAssist.Number.Binary64
import EditorAssist.Proofs.Number.Decimal

/-!
# Integer parts of doubles

A double has 53 significant bits and a bounded exponent, so its integer part has far fewer digits than are read
(`length_digits_truncate_le`).
-/

namespace EditorAssist.Number

namespace Binary64

theorem bounds_of_ofBits {bits mantissa : Nat} {negative : Bool} {exponent : Int}
    (parts : ofBits bits = .finite negative mantissa exponent) : mantissa < 2 ^ 53 ∧ exponent ≤ 971 := by
  have small : bits % (1 <<< 52) < 2 ^ 52 := Nat.mod_lt bits (by decide)
  have biased : (bits >>> 52) % 2048 < 2048 := Nat.mod_lt _ (by decide)
  unfold ofBits at parts
  dsimp only at parts
  split at parts
  · split at parts <;> cases parts
  · next finite =>
    split at parts
    · cases parts
      exact ⟨by omega, by decide⟩
    · cases parts
      have one : 1 <<< 52 = 2 ^ 52 := rfl
      exact ⟨by omega, by omega⟩

theorem natAbs_truncate_lt {bits : Nat} {i : Int} (whole : (ofBits bits).truncate? = some i) :
    i.natAbs < 10 ^ maxDigits := by
  cases parts : ofBits bits with
  | infinite | undefined =>
    rw [parts] at whole
    cases whole
  | finite negative mantissa exponent =>
    obtain ⟨low, high⟩ := bounds_of_ofBits parts
    rw [parts, truncate?] at whole
    have size : i.natAbs = (fraction mantissa exponent).1 / (fraction mantissa exponent).2 := by
      rw [← Option.some.inj whole]
      cases negative with
      | false => exact Int.natAbs_natCast _
      | true => exact (Int.natAbs_neg _).trans (Int.natAbs_natCast _)
    have room : 53 + exponent.toNat ≤ maxDigits := by
      rw [maxDigits]
      omega
    have numerator : (fraction mantissa exponent).1 ≤ mantissa * 2 ^ exponent.toNat := by
      unfold fraction
      split
      · exact Nat.le_of_eq (Nat.shiftLeft_eq ..)
      · exact Nat.le_mul_of_pos_right _ (Nat.two_pow_pos _)
    calc
      i.natAbs ≤ (fraction mantissa exponent).1 := size ▸ Nat.div_le_self ..
      _ ≤ mantissa * 2 ^ exponent.toNat := numerator
      _ < 2 ^ 53 * 2 ^ exponent.toNat := Nat.mul_lt_mul_of_pos_right low (Nat.two_pow_pos _)
      _ = 2 ^ (53 + exponent.toNat) := (Nat.pow_add ..).symm
      _ ≤ 2 ^ maxDigits := Nat.pow_le_pow_right (by decide) room
      _ ≤ 10 ^ maxDigits := Nat.pow_le_pow_left (by decide) _

theorem length_digits_truncate_le (x : Float) :
    (digits ((ofFloat x).truncate?.getD 0).natAbs).length ≤ maxDigits := by
  have small : ((ofFloat x).truncate?.getD 0).natAbs < 10 ^ maxDigits := by
    cases whole : (ofFloat x).truncate? with
    | none => exact Nat.pow_pos (by decide)
    | some i => exact natAbs_truncate_lt whole
  exact length_toString_le small

end Binary64

end EditorAssist.Number

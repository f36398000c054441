import EditorAssist.Json.Parser
import EditorAssist.Json.Printer

/-!
# Integers read back

An integer is written as its digits, behind a minus sign if it is negative. It is read back where nothing
behind it could continue the number and it has no more digits than are read.
-/

namespace EditorAssist.Json.Parser

open EditorAssist.Number

/-! ## Digits -/

section Digits

theorem isDigit_of_mem_digits {n : Nat} {c : Char} (member : c ∈ digits n) : isDigit c = true := by
  rw [digits, Nat.toList_repr] at member
  have digit := Nat.isDigit_of_mem_toDigits (by decide) (by decide) member
  simp only [Char.isDigit, ge_iff_le, Bool.and_eq_true, decide_eq_true_eq] at digit
  simp only [isDigit, Bool.and_eq_true, decide_eq_true_eq]
  exact digit

theorem digits_ne_nil (n : Nat) : digits n ≠ [] := by
  rw [digits, Nat.toList_repr]
  exact Nat.toDigits_ne_nil

/-- Only zero is written with a zero in front. -/
theorem head?_digits_ne_zero {n : Nat} (positive : 0 < n) : (digits n).head? ≠ some '0' := by
  rw [digits, Nat.toList_repr]
  induction n using Nat.strongRecOn with
  | ind n ih =>
    by_cases small : n < 10
    · rw [Nat.toDigits_of_lt_base small, List.head?_cons]
      intro zero
      have code : n.digitChar.toNat = '0'.toNat := congrArg Char.toNat (Option.some.inj zero)
      rw [Nat.toNat_digitChar_of_lt_ten small] at code
      have : '0'.toNat = 48 := rfl
      omega
    · have large : 10 ≤ n := Nat.le_of_not_lt small
      have further := ih (n / 10) (Nat.div_lt_self positive (by decide)) (Nat.div_pos large (by decide))
      obtain ⟨c, more, front⟩ := List.exists_cons_of_ne_nil (@Nat.toDigits_ne_nil (n / 10) 10)
      rw [Nat.toDigits_of_base_le (by decide) large, front]
      rw [front] at further
      exact further

theorem digitsValue_digits (n : Nat) : digitsValue (digits n) = n := by
  rw [digits, Nat.toList_repr, digitsValue]
  exact Nat.ofDigitChars_eq_foldl.symm.trans Nat.ofDigitChars_ten_toDigits

end Digits

/-! ## Numerals -/

section Numerals

/-- Whether nothing at the start of a text could continue an integer. -/
def endsInteger : List Char → Bool
  | [] => true
  | c :: _ => !isDigit c && c ≠ '.' && c ≠ 'e' && c ≠ 'E'

variable {rest : List Char}

theorem takeWhile_digits {run : List Char} (all : ∀ c ∈ run, isDigit c = true) (ends : endsInteger rest = true) :
    (run ++ rest).takeWhile isDigit = run ∧ (run ++ rest).dropWhile isDigit = rest := by
  rw [List.takeWhile_append_of_pos all, List.dropWhile_append_of_pos all]
  cases rest with
  | nil => exact ⟨List.append_nil run, rfl⟩
  | cons c more =>
    simp only [endsInteger, Bool.and_eq_true, Bool.not_eq_true'] at ends
    have other : isDigit c = false := ends.1.1.1
    rw [List.takeWhile_cons_of_neg (by simp [other]), List.dropWhile_cons_of_neg (by simp [other])]
    exact ⟨List.append_nil run, rfl⟩

/-- The whole digits of a number that has neither decimals nor an exponent. -/
def integral (negative : Bool) (whole : List Char) : Numeral :=
  ⟨negative, whole, none, none, (if negative then 1 else 0) + whole.length⟩

theorem numeralTail_integral (negative : Bool) (whole : List Char) (ends : endsInteger rest = true) :
    numeralTail negative whole rest = (integral negative whole, rest) := by
  cases rest with
  | nil => rfl
  | cons c more =>
    simp only [endsInteger, Bool.and_eq_true, decide_eq_true_eq, ne_eq] at ends
    obtain ⟨⟨⟨-, notPoint⟩, notSmall⟩, notLarge⟩ := ends
    simp [numeralTail, integral, notPoint, notSmall, notLarge]

/-- The digits of a number start with none that is zero, unless they are a single zero. -/
theorem digits_cases (n : Nat) :
    digits n = ['0'] ∨ ∃ c more, digits n = c :: more ∧ c ≠ '0' ∧ isDigit c = true ∧ ∀ d ∈ more, isDigit d = true := by
  cases Nat.eq_zero_or_pos n with
  | inl zero =>
    subst zero
    exact .inl rfl
  | inr positive =>
    obtain ⟨c, more, front⟩ := List.exists_cons_of_ne_nil (digits_ne_nil n)
    have first := head?_digits_ne_zero positive
    have all := @isDigit_of_mem_digits n
    rw [front] at first all
    refine .inr ⟨c, more, front, fun zero => first (congrArg some zero), all (List.mem_cons_self ..), ?_⟩
    intro d member
    exact all (List.mem_cons_of_mem c member)

/-- The written form of an integer is read as a whole. -/
theorem numeral?_intText (i : Int) (ends : endsInteger rest = true) :
    numeral? (intText i ++ rest) = some (integral (i < 0) (digits i.natAbs), rest) := by
  unfold intText
  rcases digits_cases i.natAbs with zero | ⟨c, more, front, notZero, digit, all⟩
  · rw [zero]
    split
    · next negative => simp [numeral?, numeralTail_integral, ends, negative]
    · next positive => simp [numeral?, numeralTail_integral, ends, positive]
  · obtain ⟨taken, dropped⟩ := takeWhile_digits all ends
    have notSign : c ≠ '-' := by
      rintro rfl
      exact absurd digit (by decide)
    rw [front]
    split
    · next negative => simp [numeral?, numeralTail_integral, ends, negative, digit, taken, dropped]
    · next positive => simp [numeral?, numeralTail_integral, ends, positive, notSign, digit, taken, dropped]

/-- An integer starts with a minus sign or a digit. -/
theorem intText_front (i : Int) :
    ∃ c more, intText i = c :: more ∧ (c = '-' ∨ isDigit c = true) := by
  obtain ⟨c, more, front⟩ := List.exists_cons_of_ne_nil (digits_ne_nil i.natAbs)
  have digit : isDigit c = true := isDigit_of_mem_digits (front ▸ List.mem_cons_self ..)
  unfold intText
  split
  · exact ⟨'-', _, rfl, .inl rfl⟩
  · exact ⟨c, more, front, .inr digit⟩

/-- No fixed word starts like an integer. -/
theorem word?_intText (i : Int) : word? (intText i ++ rest) = none := by
  unfold intText
  obtain ⟨c, more, front⟩ := List.exists_cons_of_ne_nil (digits_ne_nil i.natAbs)
  have digit : isDigit c = true := isDigit_of_mem_digits (front ▸ List.mem_cons_self ..)
  have other {d : Char} (letter : isDigit d = false) : d ≠ c := by
    rintro rfl
    exact absurd digit (by simp [letter])
  have notN := @other 'n' rfl
  have notT := @other 't' rfl
  have notF := @other 'f' rfl
  have notNan := @other 'N' rfl
  have notI := @other 'I' rfl
  have notSign := @other '-' rfl
  rw [front]
  split <;> simp [word?, words, notN, notT, notF, notNan, notI, notSign]

end Numerals

/-- An integer of no more digits than are read is read back. -/
theorem value_intText (fuel depth offset : Nat) {i : Int} {rest : List Char}
    (short : (digits i.natAbs).length ≤ maxDigits) (ends : endsInteger rest = true) :
    value (fuel + 1) depth ⟨offset, intText i ++ rest⟩ =
      .ok (.int i, ⟨offset + (intText i).length, rest⟩) := by
  have read := numeral?_intText i ends
  have noWord := @word?_intText rest i
  have fits : (integral (i < 0) (digits i.natAbs)).isTooLong = false := by
    simpa [Numeral.isTooLong, integral] using short
  have same : (integral (i < 0) (digits i.natAbs)).value = .int i := by
    simp only [Numeral.value, integral, digitsValue_digits, decide_eq_true_eq, Value.int.injEq]
    split <;> omega
  have size : (integral (i < 0) (digits i.natAbs)).size = (intText i).length := by
    simp only [integral, intText, decide_eq_true_eq]
    split
    · rw [List.length_cons, Nat.add_comm]
    · exact Nat.zero_add _
  obtain ⟨c, more, front, start⟩ := intText_front i
  rw [value]
  dsimp only
  split
  · next quote =>
    rw [front] at quote
    obtain ⟨rfl, -⟩ := List.cons.inj quote
    exact absurd start (by decide)
  · next brace =>
    rw [front] at brace
    obtain ⟨rfl, -⟩ := List.cons.inj brace
    exact absurd start (by decide)
  · next bracket =>
    rw [front] at bracket
    obtain ⟨rfl, -⟩ := List.cons.inj bracket
    exact absurd start (by decide)
  · simp only [noWord, read, fits, Bool.false_eq_true, ↓reduceIte, same, size]

end EditorAssist.Json.Parser

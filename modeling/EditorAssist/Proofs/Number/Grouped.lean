import EditorAssist.Number.Integer
import EditorAssist.Proofs.Text.Trim

/-!
# Integers with groups of digits

The integers that a header field may hold, as a grammar: an optional sign and decimal digits, single underscores
between digits, blanks around all of it. The reader takes these texts and no others (`headerInteger?_eq_some_iff`).
-/

namespace EditorAssist.Number

open EditorAssist.Text

/-! ## The grammar -/

/-- A text of digits, with single underscores between them, and the digits alone. Behind a digit (`joined`) it may be
empty or go on with an underscore. -/
inductive Grouped : (joined : Bool) → (text digits : List Char) → Prop
  | done : Grouped true [] []
  | digit {joined : Bool} {c : Char} {text digits : List Char} (digit : c.isDigit = true)
      (more : Grouped true text digits) : Grouped joined (c :: text) (c :: digits)
  | underscore {text digits : List Char} (more : Grouped false text digits) : Grouped true ('_' :: text) digits

/-- An optional sign and groups of digits, not more of them than are read. -/
inductive Signed : List Char → Int → Prop
  | plain {text digits : List Char} (grouped : Grouped false text digits) (short : digits.length ≤ maxDigits) :
      Signed text (Nat.ofDigitChars 10 digits 0)
  | plus {text digits : List Char} (grouped : Grouped false text digits) (short : digits.length ≤ maxDigits) :
      Signed ('+' :: text) (Nat.ofDigitChars 10 digits 0)
  | minus {text digits : List Char} (grouped : Grouped false text digits) (short : digits.length ≤ maxDigits) :
      Signed ('-' :: text) (-(Nat.ofDigitChars 10 digits 0 : Int))

/-- A text that spells an integer, with blanks around it. -/
inductive Spells : List Char → Int → Prop
  | around {before inner after : List Char} {n : Int} (leading : ∀ c ∈ before, isAsciiBlank c = true)
      (signed : Signed inner n) (trailing : ∀ c ∈ after, isAsciiBlank c = true) : Spells (before ++ inner ++ after) n

/-! ## The reader -/

section Reader

variable {text digits : List Char} {value count : Nat} {joined : Bool} {n : Int}

theorem asciiDigit?_of_isDigit {c : Char} (digit : c.isDigit = true) :
    asciiDigit? c = some (c.toNat - '0'.toNat) := by
  have bounds : '0' ≤ c ∧ c ≤ '9' := by
    simp only [Char.isDigit, ge_iff_le, Bool.and_eq_true, decide_eq_true_eq] at digit
    exact digit
  simp [asciiDigit?, bounds.1, bounds.2]

theorem asciiDigit?_eq_none {c : Char} (other : ¬c.isDigit = true) : asciiDigit? c = none := by
  rw [asciiDigit?, if_neg]
  simp only [Char.isDigit, ge_iff_le, Bool.and_eq_true, decide_eq_true_eq] at other ⊢
  exact other

theorem grouped_cons {c : Char} :
    Grouped joined (c :: text) digits ↔
      (c.isDigit = true ∧ ∃ more, digits = c :: more ∧ Grouped true text more) ∨
        c = '_' ∧ joined = true ∧ Grouped false text digits := by
  constructor
  · rintro (_ | ⟨digit, more⟩ | more)
    · exact .inl ⟨digit, _, rfl, more⟩
    · exact .inr ⟨rfl, rfl, more⟩
  · rintro (⟨digit, more, rfl, grouped⟩ | ⟨rfl, rfl, grouped⟩)
    · exact .digit digit grouped
    · exact .underscore grouped

theorem groupedDigits_eq_some_iff {found : Nat} :
    groupedDigits asciiDigit? value count joined text = some found ↔
      ∃ digits, Grouped joined text digits ∧ count + digits.length ≤ maxDigits ∧
        Nat.ofDigitChars 10 digits value = found := by
  induction text generalizing value count joined with
  | nil =>
    rw [groupedDigits]
    constructor
    · intro read
      split at read
      · next ended =>
        rw [Bool.and_eq_true, decide_eq_true_eq] at ended
        obtain ⟨rfl, short⟩ := ended
        exact ⟨[], .done, short, Option.some.inj read⟩
      · cases read
    · rintro ⟨digits, ⟨⟩, short, same⟩
      rw [List.length_nil, Nat.add_zero] at short
      simp only [short, decide_true, Bool.and_self, ↓reduceIte]
      exact congrArg some same
  | cons c rest ih =>
    simp only [grouped_cons]
    by_cases underscore : c = '_'
    · subst underscore
      cases joined with
      | false => simp [groupedDigits]
      | true => simp [groupedDigits, ih]
    · by_cases digit : c.isDigit = true
      · have length (more : List Char) : count + (c :: more).length = count + 1 + more.length := by
          rw [List.length_cons]
          omega
        simp only [groupedDigits, underscore, ↓reduceIte, asciiDigit?_of_isDigit digit, ih, digit, true_and,
          false_and, or_false]
        constructor
        · rintro ⟨more, grouped, short, same⟩
          exact ⟨_, ⟨more, rfl, grouped⟩, by rwa [length], by rwa [Nat.ofDigitChars_cons]⟩
        · rintro ⟨_, ⟨more, rfl, grouped⟩, short, same⟩
          exact ⟨more, grouped, by rwa [length] at short, by rwa [Nat.ofDigitChars_cons] at same⟩
      · simp [groupedDigits, underscore, asciiDigit?_eq_none digit, digit]

theorem isAsciiBlank_eq_false_of_isDigit {c : Char} (digit : c.isDigit = true) : isAsciiBlank c = false := by
  have bounds : 48 ≤ c.toNat := by
    simp only [Char.isDigit, ge_iff_le, Bool.and_eq_true, decide_eq_true_eq] at digit
    exact digit.1
  have notSpace : c ≠ ' ' := by
    rintro rfl
    exact absurd digit (by decide)
  simp only [isAsciiBlank, notSpace, decide_false, Bool.false_or, Bool.and_eq_false_iff,
    decide_eq_false_iff_not]
  right
  omega

/-- Digits and underscores are none of the characters that may stand around them. -/
theorem Grouped.not_blank (grouped : Grouped joined text digits) : ∀ c ∈ text, isAsciiBlank c = false := by
  induction grouped with
  | done => exact List.forall_mem_nil _
  | digit digit _ ih => exact List.forall_mem_cons.mpr ⟨isAsciiBlank_eq_false_of_isDigit digit, ih⟩
  | underscore _ ih => exact List.forall_mem_cons.mpr ⟨by decide, ih⟩

/-- Digits alone are one group. -/
theorem Grouped.of_digits (all : ∀ c ∈ digits, c.isDigit = true) (behind : digits ≠ [] ∨ joined = true) :
    Grouped joined digits digits := by
  induction digits generalizing joined with
  | nil =>
    cases behind with
    | inl some_digit => exact absurd rfl some_digit
    | inr ended => exact ended ▸ .done
  | cons c digits ih =>
    obtain ⟨digit, more⟩ := List.forall_mem_cons.mp all
    exact .digit digit (ih more (.inr rfl))

theorem Grouped.front (grouped : Grouped false text digits) : ∃ c more, text = c :: more ∧ c.isDigit = true := by
  cases grouped with
  | digit digit => exact ⟨_, _, rfl, digit⟩

theorem Signed.not_blank (signed : Signed text n) : ∀ c ∈ text, isAsciiBlank c = false := by
  cases signed with
  | plain grouped => exact grouped.not_blank
  | plus grouped => exact List.forall_mem_cons.mpr ⟨by decide, grouped.not_blank⟩
  | minus grouped => exact List.forall_mem_cons.mpr ⟨by decide, grouped.not_blank⟩

theorem Signed.ne_nil (signed : Signed text n) : text ≠ [] := by
  cases signed with
  | plain grouped =>
    obtain ⟨c, more, rfl, -⟩ := grouped.front
    exact List.cons_ne_nil c more
  | plus | minus => exact List.cons_ne_nil _ _

/-- How a sign takes the digits behind it. -/
theorem map_natCast_eq_some_iff {read : Option Nat} {sign : Int → Int} :
    Option.map sign (do let found ← read; pure (found : Int)) = some n ↔
      ∃ found : Nat, read = some found ∧ sign found = n := by
  cases read <;> simp

theorem signed?_eq_some_iff : signed? asciiDigit? text = some n ↔ Signed text n := by
  constructor
  · intro read
    unfold signed? at read
    split at read
    all_goals
      obtain ⟨found, counted, rfl⟩ := map_natCast_eq_some_iff.mp read
      obtain ⟨digits, grouped, short, rfl⟩ := groupedDigits_eq_some_iff.mp counted
      rw [Nat.zero_add] at short
    · exact .minus grouped short
    · exact .plus grouped short
    · exact .plain grouped short
  · have read {text digits : List Char} (grouped : Grouped false text digits) (short : digits.length ≤ maxDigits) :
        groupedDigits asciiDigit? 0 0 false text = some (Nat.ofDigitChars 10 digits 0) :=
      groupedDigits_eq_some_iff.mpr ⟨digits, grouped, by rwa [Nat.zero_add], rfl⟩
    rintro (⟨grouped, short⟩ | ⟨grouped, short⟩ | ⟨grouped, short⟩)
    · -- A digit is no sign.
      obtain ⟨c, more, rfl, digit⟩ := grouped.front
      unfold signed?
      split
      · next same =>
        obtain ⟨rfl, -⟩ := List.cons.inj same
        exact absurd digit (by decide)
      · next same =>
        obtain ⟨rfl, -⟩ := List.cons.inj same
        exact absurd digit (by decide)
      · exact map_natCast_eq_some_iff.mpr ⟨_, read grouped short, rfl⟩
    · exact map_natCast_eq_some_iff.mpr ⟨_, read grouped short, rfl⟩
    · exact map_natCast_eq_some_iff.mpr ⟨_, read grouped short, rfl⟩

/-- A header field is read as the integer that it spells, and only if it spells one. -/
theorem headerInteger?_eq_some_iff : headerInteger? text = some n ↔ Spells text n := by
  rw [headerInteger?, signed?_eq_some_iff, trimAscii]
  constructor
  · intro signed
    obtain ⟨before, after, trimmed⟩ := exists_trimmed isAsciiBlank text
    rw [trimmed.split]
    exact .around trimmed.leading signed trimmed.trailing
  · rintro ⟨leading, signed, trailing⟩
    have begins := List.head?_eq_some_head signed.ne_nil
    have ends := List.getLast?_eq_some_getLast signed.ne_nil
    rw [trimBoth_between leading trailing begins ends (signed.not_blank _ (List.head_mem _))
      (signed.not_blank _ (List.getLast_mem _))]
    exact signed

end Reader

end EditorAssist.Number

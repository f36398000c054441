import EditorAssist.Proofs.Json.Values
import Mathlib.Data.List.Find

/-!
# Numbers and words in their place

A number or a word is read the same way wherever it stands, as long as nothing behind it could continue it. If it is not
read to its end, reading stops at a character of it.
-/

namespace EditorAssist.Json.Parser

/-- Whether a character may stand in a number or a word. -/
def isScalarChar (c : Char) : Bool := isDigit c || c.isAlpha || c = '+' || c = '-' || c = '.'

/-- A text does not go on with a number or a word. -/
def Apart (rest : List Char) : Prop := ∀ c ∈ rest.head?, isScalarChar c = false

section Apart

variable (text : List Char) {rest : List Char} {c : Char} {p : Char → Bool}

theorem not_apart_cons (scalar : isScalarChar c = true) : ¬Apart (c :: rest) := fun apart =>
  Bool.false_ne_true ((apart c rfl).symm.trans scalar)

theorem isScalarChar_of_isDigit (digit : isDigit c = true) : isScalarChar c = true := by
  simp [isScalarChar, digit]

theorem isSpace_of_isScalarChar (scalar : isScalarChar c = true) : isSpace c = false := by
  have other {blank : Char} (plain : isScalarChar blank = false) : c ≠ blank := by
    rintro rfl
    exact Bool.false_ne_true (plain.symm.trans scalar)
  simp [isSpace, @other ' ' rfl, @other '\t' rfl, @other '\n' rfl, @other '\r' rfl]

/-- A run of characters of numbers and words ends where none goes on. -/
theorem takeWhile_apart (scalar : ∀ c, p c = true → isScalarChar c = true) (apart : Apart rest) :
    (text ++ rest).takeWhile p = text.takeWhile p ∧ (text ++ rest).dropWhile p = text.dropWhile p ++ rest := by
  induction text with
  | nil =>
    cases rest with
    | nil => exact ⟨rfl, rfl⟩
    | cons c rest =>
      have stops : p c = false := Bool.eq_false_iff.mpr fun more => not_apart_cons (scalar c more) apart
      simp [stops]
  | cons c text ih =>
    by_cases more : p c = true
    · simp [more, ih]
    · simp [more]

/-- Whether a text starts with a word is settled before the place where none goes on. -/
theorem isPrefixOf_apart {word : List Char} (scalar : ∀ c ∈ word, isScalarChar c = true) (apart : Apart rest) :
    word.isPrefixOf (text ++ rest) = word.isPrefixOf text := by
  induction word generalizing text with
  | nil => rw [List.isPrefixOf, List.isPrefixOf]
  | cons c word ih =>
    cases text with
    | nil =>
      cases rest with
      | nil => rfl
      | cons d rest =>
        have other : (c == d) = false := beq_eq_false_iff_ne.mpr fun same =>
          not_apart_cons (same ▸ scalar c (List.mem_cons_self ..)) apart
        simp [List.isPrefixOf, other]
    | cons d text =>
      rw [List.cons_append, List.isPrefixOf, List.isPrefixOf,
        ih text fun e member => scalar e (List.mem_cons_of_mem c member)]

/-- What stands apart does not start with a character of numbers and words. -/
theorem ne_of_apart (apart : Apart rest) (scalar : isScalarChar c = true) (more : List Char) : rest ≠ c :: more := by
  rintro rfl
  exact not_apart_cons scalar apart

end Apart

section Local

variable (text : List Char) {rest : List Char}

theorem word?_apart (apart : Apart rest) : word? (text ++ rest) = word? text := by
  have scalar : ∀ entry ∈ words, ∀ c ∈ entry.1.toList, isScalarChar c = true := by
    have all : words.all (fun entry => entry.1.toList.all isScalarChar) = true := by decide
    simpa only [List.all_eq_true] using all
  have search := List.find?_congr fun entry member => isPrefixOf_apart text (scalar entry member) apart
  exact congrArg (Option.map _) search

/-! Reading a number takes a sign, decimals and an exponent off the text, each with what is left. -/

def splitSign (text : List Char) : Bool × Nat × List Char :=
  match text with
  | '-' :: rest => (true, 1, rest)
  | '+' :: rest => (false, 1, rest)
  | _ => (false, 0, text)

def splitDecimals (text : List Char) : Option (List Char) × List Char :=
  match text with
  | '.' :: rest =>
    let run := rest.takeWhile isDigit
    if run.isEmpty then (none, text) else (some run, rest.dropWhile isDigit)
  | _ => (none, text)

def splitExponent (text : List Char) : Option Int × Nat × List Char :=
  match text with
  | 'e' :: tail | 'E' :: tail =>
    match exponent? tail with
    | some (exponent, size, rest) => (some exponent, size + 1, rest)
    | none => (none, 0, text)
  | _ => (none, 0, text)

theorem exponent?_eq (text : List Char) :
    exponent? text =
      if ((splitSign text).2.2.takeWhile isDigit).isEmpty then none
      else
        let magnitude : Int := digitsValue ((splitSign text).2.2.takeWhile isDigit)
        some (if (splitSign text).1 then -magnitude else magnitude,
          (splitSign text).2.1 + ((splitSign text).2.2.takeWhile isDigit).length,
          (splitSign text).2.2.dropWhile isDigit) := rfl

theorem numeralTail_eq (negative : Bool) (whole text : List Char) :
    numeralTail negative whole text =
      (⟨negative, whole, (splitDecimals text).1, (splitExponent (splitDecimals text).2).1,
        (if negative then 1 else 0) + whole.length
          + (match (splitDecimals text).1 with | some run => run.length + 1 | none => 0)
          + (splitExponent (splitDecimals text).2).2.1⟩,
        (splitExponent (splitDecimals text).2).2.2) := rfl

theorem splitSign_apart (apart : Apart rest) :
    splitSign (text ++ rest) = ((splitSign text).1, (splitSign text).2.1, (splitSign text).2.2 ++ rest) := by
  cases text with
  | nil =>
    have minus := ne_of_apart apart (by rfl : isScalarChar '-' = true)
    have plus := ne_of_apart apart (by rfl : isScalarChar '+' = true)
    rw [List.nil_append]
    unfold splitSign
    split
    · next more => exact absurd rfl (minus more)
    · next more => exact absurd rfl (plus more)
    · rfl
  | cons c text =>
    by_cases minus : c = '-'
    · subst minus
      rfl
    · by_cases plus : c = '+'
      · subst plus
        rfl
      · simp [splitSign, minus, plus]

theorem exponent?_apart (apart : Apart rest) :
    exponent? (text ++ rest) =
      (exponent? text).map fun (exponent, size, behind) => (exponent, size, behind ++ rest) := by
  obtain ⟨taken, dropped⟩ :=
    takeWhile_apart (splitSign text).2.2 (fun c => isScalarChar_of_isDigit (c := c)) apart
  rw [exponent?_eq, exponent?_eq, splitSign_apart _ apart, taken, dropped]
  by_cases none : ((splitSign text).2.2.takeWhile isDigit).isEmpty = true
  · simp only [none, ↓reduceIte, Option.map_none]
  · simp only [none, Bool.false_eq_true, ↓reduceIte, Option.map_some]

theorem splitDecimals_apart (apart : Apart rest) :
    splitDecimals (text ++ rest) = ((splitDecimals text).1, (splitDecimals text).2 ++ rest) := by
  cases text with
  | nil =>
    have point := ne_of_apart apart (by rfl : isScalarChar '.' = true)
    rw [List.nil_append]
    unfold splitDecimals
    split
    · next more => exact absurd rfl (point more)
    · rfl
  | cons c text =>
    by_cases point : c = '.'
    · subst point
      obtain ⟨taken, dropped⟩ := takeWhile_apart text (fun c => isScalarChar_of_isDigit (c := c)) apart
      simp only [List.cons_append, splitDecimals, taken, dropped]
      split <;> rfl
    · simp [splitDecimals, point]

theorem splitExponent_apart (apart : Apart rest) :
    splitExponent (text ++ rest) =
      ((splitExponent text).1, (splitExponent text).2.1, (splitExponent text).2.2 ++ rest) := by
  have marked (c : Char) (text : List Char) (mark : c = 'e' ∨ c = 'E') :
      splitExponent (c :: text) =
        match exponent? text with
        | some (exponent, size, rest) => (some exponent, size + 1, rest)
        | none => (none, 0, c :: text) := by
    rcases mark with rfl | rfl <;> rfl
  cases text with
  | nil =>
    have small := ne_of_apart apart (by rfl : isScalarChar 'e' = true)
    have large := ne_of_apart apart (by rfl : isScalarChar 'E' = true)
    rw [List.nil_append]
    unfold splitExponent
    split
    · next more => exact absurd rfl (small more)
    · next more => exact absurd rfl (large more)
    · rfl
  | cons c text =>
    by_cases mark : c = 'e' ∨ c = 'E'
    · rw [List.cons_append, marked c _ mark, marked c _ mark, exponent?_apart _ apart]
      cases exponent? text <;> rfl
    · rw [not_or] at mark
      simp [splitExponent, mark]

theorem numeralTail_apart (negative : Bool) (whole : List Char) (apart : Apart rest) :
    numeralTail negative whole (text ++ rest) =
      ((numeralTail negative whole text).1, (numeralTail negative whole text).2 ++ rest) := by
  rw [numeralTail_eq, numeralTail_eq, splitDecimals_apart _ apart, splitExponent_apart _ apart]

/-- A number without its sign. -/
def magnitude? (negative : Bool) : List Char → Option (Numeral × List Char)
  | '0' :: rest => some (numeralTail negative ['0'] rest)
  | c :: rest =>
    if isDigit c then some (numeralTail negative (c :: rest.takeWhile isDigit) (rest.dropWhile isDigit)) else none
  | [] => none

def splitMinus (text : List Char) : Bool × List Char :=
  match text with
  | '-' :: rest => (true, rest)
  | _ => (false, text)

theorem numeral?_eq (text : List Char) : numeral? text = magnitude? (splitMinus text).1 (splitMinus text).2 := rfl

theorem splitMinus_apart (apart : Apart rest) :
    splitMinus (text ++ rest) = ((splitMinus text).1, (splitMinus text).2 ++ rest) := by
  cases text with
  | nil =>
    have minus := ne_of_apart apart (by rfl : isScalarChar '-' = true)
    rw [List.nil_append]
    unfold splitMinus
    split
    · next more => exact absurd rfl (minus more)
    · rfl
  | cons c text =>
    by_cases minus : c = '-'
    · subst minus
      rfl
    · simp [splitMinus, minus]

theorem magnitude?_apart (negative : Bool) (apart : Apart rest) :
    magnitude? negative (text ++ rest) =
      (magnitude? negative text).map fun (numeral, behind) => (numeral, behind ++ rest) := by
  have digits {c : Char} (other : c ≠ '0') (text : List Char) :
      magnitude? negative (c :: text) =
        if isDigit c then some (numeralTail negative (c :: text.takeWhile isDigit) (text.dropWhile isDigit))
        else none := by
    simp [magnitude?]
  cases text with
  | nil =>
    cases rest with
    | nil => rfl
    | cons c rest =>
      have zero : c ≠ '0' := by
        rintro rfl
        exact not_apart_cons rfl apart
      have noDigit : ¬isDigit c = true := fun digit => not_apart_cons (isScalarChar_of_isDigit digit) apart
      rw [List.nil_append, digits zero, if_neg noDigit]
      rfl
  | cons c text =>
    by_cases zero : c = '0'
    · subst zero
      exact congrArg some (numeralTail_apart text negative ['0'] apart)
    · obtain ⟨taken, dropped⟩ := takeWhile_apart text (fun c => isScalarChar_of_isDigit (c := c)) apart
      rw [List.cons_append, digits zero, digits zero, taken, dropped, numeralTail_apart _ _ _ apart]
      split <;> rfl

/-- A number is read the same way wherever it stands. -/
theorem numeral?_apart (apart : Apart rest) :
    numeral? (text ++ rest) = (numeral? text).map fun (numeral, behind) => (numeral, behind ++ rest) := by
  rw [numeral?_eq, numeral?_eq, splitMinus_apart _ apart]
  exact magnitude?_apart _ _ apart

/-! What is left is a part of the text. -/

variable {text}

theorem splitSign_suffix (text : List Char) : (splitSign text).2.2 <:+ text := by
  unfold splitSign
  split
  · exact List.suffix_cons ..
  · exact List.suffix_cons ..
  · exact List.suffix_rfl

theorem splitDecimals_suffix (text : List Char) : (splitDecimals text).2 <:+ text := by
  unfold splitDecimals
  split
  · dsimp only
    split
    · exact List.suffix_rfl
    · exact (List.dropWhile_suffix _).trans (List.suffix_cons ..)
  · exact List.suffix_rfl

theorem exponent?_suffix {exponent : Int} {size : Nat} (found : exponent? text = some (exponent, size, rest)) :
    rest <:+ text := by
  rw [exponent?_eq] at found
  obtain ⟨-, same⟩ := Option.ite_none_left_eq_some.mp found
  cases same
  exact (List.dropWhile_suffix _).trans (splitSign_suffix text)

theorem splitExponent_suffix (text : List Char) : (splitExponent text).2.2 <:+ text := by
  unfold splitExponent
  split
  · split
    · next found => exact (exponent?_suffix found).trans (List.suffix_cons ..)
    · exact List.suffix_rfl
  · split
    · next found => exact (exponent?_suffix found).trans (List.suffix_cons ..)
    · exact List.suffix_rfl
  · exact List.suffix_rfl

theorem numeralTail_suffix (negative : Bool) (whole text : List Char) : (numeralTail negative whole text).2 <:+ text :=
  (splitExponent_suffix _).trans (splitDecimals_suffix text)

theorem splitMinus_suffix (text : List Char) : (splitMinus text).2 <:+ text := by
  unfold splitMinus
  split
  · exact List.suffix_cons ..
  · exact List.suffix_rfl

theorem numeral?_suffix {numeral : Numeral} (found : numeral? text = some (numeral, rest)) : rest <:+ text := by
  rw [numeral?_eq] at found
  refine List.IsSuffix.trans ?_ (splitMinus_suffix text)
  generalize (splitMinus text).1 = negative, (splitMinus text).2 = body at found
  unfold magnitude? at found
  split at found
  · next more =>
    have left : (numeralTail negative ['0'] more).2 = rest := congrArg Prod.snd (Option.some.inj found)
    exact left ▸ (numeralTail_suffix ..).trans (List.suffix_cons ..)
  · next c more _ =>
    obtain ⟨-, found⟩ := Option.ite_none_right_eq_some.mp found
    have left : (numeralTail negative (c :: more.takeWhile isDigit) (more.dropWhile isDigit)).2 = rest :=
      congrArg Prod.snd (Option.some.inj found)
    exact left ▸ (numeralTail_suffix ..).trans ((List.dropWhile_suffix _).trans (List.suffix_cons ..))
  · cases found

theorem length_word?_le {found : Value} {size : Nat} (word : word? text = some (found, size)) :
    size ≤ text.length := by
  obtain ⟨⟨name, value⟩, there, same⟩ := Option.map_eq_some_iff.mp word
  cases same
  have starts : name.toList.isPrefixOf text = true := by simpa using List.find?_some there
  exact (List.isPrefixOf_iff_prefix.mp starts).length_le

end Local

/-! ## Values -/

/-- What reading comes to in front of a rest: a value if there is one, and otherwise nothing, or a place where a number
or a word goes on. -/
def Gives {α : Type} (read : Except Refusal (α × Cursor)) (rest : List Char) : Option α → Prop
  | some found => ∃ stop, read = .ok (found, ⟨stop, rest⟩)
  | none => ∀ found stop, read = .ok (found, stop) → ¬Apart stop.rest

/-- What reading comes to: a value in front of a rest if there is one, and otherwise nothing. -/
def Yields {α : Type} (read : Except Refusal (α × Cursor)) (rest : List Char) : Option α → Prop
  | some found => ∃ stop, read = .ok (found, ⟨stop, rest⟩)
  | none => ∃ refusal, read = .error refusal

section Reading

variable {α β : Type} {read : Except Refusal (α × Cursor)} {rest : List Char} {found : Option α}

theorem Yields.gives (yields : Yields read rest found) : Gives read rest found := by
  cases found with
  | some found => exact yields
  | none =>
    obtain ⟨refusal, refused⟩ := yields
    intro v stop here
    cases refused.symm.trans here

theorem Yields.map (yields : Yields read rest found) (f : α → β) :
    Yields (read.map fun (v, stop) => (f v, stop)) rest (found.map f) := by
  cases found with
  | some found =>
    obtain ⟨stop, here⟩ := yields
    exact ⟨stop, by rw [here]; rfl⟩
  | none =>
    obtain ⟨refusal, refused⟩ := yields
    exact ⟨refusal, by rw [refused]; rfl⟩

/-- A text is apart unless a number or a word goes on. -/
theorem exists_of_not_apart (stuck : ¬Apart rest) : ∃ c more, rest = c :: more ∧ isScalarChar c = true := by
  cases rest with
  | nil => exact absurd nofun stuck
  | cons c more =>
    refine ⟨c, more, rfl, Bool.eq_true_of_not_eq_false fun ends => stuck ?_⟩
    rintro _ ⟨⟩
    exact ends

end Reading

/-- The text of a number or a word, as far as its characters go. -/
def IsScalar (written : List Char) : Prop := written ≠ [] ∧ ∀ c ∈ written, isScalarChar c = true

section Scalars

variable {written rest : List Char}

/-- What is no string, object or array is a word or a number. -/
theorem value_unquoted (fuel depth offset : Nat) {c : Char} (scalar : isScalarChar c = true) (text : List Char) :
    value (fuel + 1) depth ⟨offset, c :: text⟩ =
      match word? (c :: text) with
      | some (found, size) => .ok (found, ⟨offset + size, (c :: text).drop size⟩)
      | none =>
        match numeral? (c :: text) with
        | some (numeral, rest) =>
          if numeral.isTooLong then .error ⟨.longInteger, offset⟩
          else .ok (numeral.value, ⟨offset + numeral.size, rest⟩)
        | none => .error ⟨.value, offset⟩ := by
  rw [value]
  dsimp only
  split
  · next same =>
    cases same
    cases scalar
  · next same =>
    cases same
    cases scalar
  · next same =>
    cases same
    cases scalar
  · rfl

/-- A number or a word is refused wherever it stands, or read up to the same place. -/
theorem scalar_cases (scalar : IsScalar written) :
    (∃ found left, left <:+ written ∧ ∀ fuel depth offset rest, Apart rest →
      ∃ stop, value (fuel + 1) depth ⟨offset, written ++ rest⟩ = .ok (found, ⟨stop, left ++ rest⟩)) ∨
    ∀ fuel depth offset rest, Apart rest →
      ∃ refusal, value (fuel + 1) depth ⟨offset, written ++ rest⟩ = .error refusal := by
  obtain ⟨some, all⟩ := scalar
  obtain ⟨c, more, rfl⟩ := List.exists_cons_of_ne_nil some
  have unquoted (fuel depth offset : Nat) (rest : List Char) :=
    value_unquoted fuel depth offset (all c (List.mem_cons_self ..)) (more ++ rest)
  cases word : word? (c :: more) with
  | some entry =>
    obtain ⟨found, size⟩ := entry
    refine .inl ⟨found, (c :: more).drop size, List.drop_suffix .., fun fuel depth offset rest apart => ?_⟩
    have there := (word?_apart (c :: more) apart).trans word
    have dropped : (c :: more ++ rest).drop size = (c :: more).drop size ++ rest :=
      List.drop_append_of_le_length (length_word?_le word)
    rw [List.cons_append] at there dropped ⊢
    rw [unquoted, there, ← dropped]
    exact ⟨_, rfl⟩
  | none =>
    cases number : numeral? (c :: more) with
    | none =>
      refine .inr fun fuel depth offset rest apart => ?_
      have noWord := (word?_apart (c :: more) apart).trans word
      have noNumber := (numeral?_apart (c :: more) apart).trans (congrArg _ number)
      rw [List.cons_append] at noWord noNumber ⊢
      rw [unquoted, noWord, noNumber]
      exact ⟨_, rfl⟩
    | some entry =>
      obtain ⟨numeral, left⟩ := entry
      have reads (fuel depth offset : Nat) (rest : List Char) (apart : Apart rest) :
          value (fuel + 1) depth ⟨offset, c :: more ++ rest⟩ =
            if numeral.isTooLong then .error ⟨.longInteger, offset⟩
            else .ok (numeral.value, ⟨offset + numeral.size, left ++ rest⟩) := by
        have noWord := (word?_apart (c :: more) apart).trans word
        have there := (numeral?_apart (c :: more) apart).trans (congrArg _ number)
        rw [List.cons_append] at noWord there ⊢
        rw [unquoted, noWord, there]
        rfl
      by_cases long : numeral.isTooLong = true
      · exact .inr fun fuel depth offset rest apart => ⟨_, (reads fuel depth offset rest apart).trans (if_pos long)⟩
      · exact .inl ⟨numeral.value, left, numeral?_suffix number, fun fuel depth offset rest apart =>
          ⟨_, (reads fuel depth offset rest apart).trans (if_neg long)⟩⟩

theorem IsScalar.front (scalar : IsScalar written) :
    ∃ c more, written = c :: more ∧ isScalarChar c = true := by
  obtain ⟨c, more, rfl⟩ := List.exists_cons_of_ne_nil scalar.1
  exact ⟨c, more, rfl, scalar.2 c (List.mem_cons_self ..)⟩

/-- A number or a word that is JSON is read where nothing goes on with it. -/
theorem gives_scalar (scalar : IsScalar written) (fuel depth offset : Nat) (apart : Apart rest) :
    Gives (value (fuel + 1) depth ⟨offset, written ++ rest⟩) rest (parse written).toOption := by
  obtain ⟨c, more, front, first⟩ := scalar.front
  have noMark : c ≠ Char.ofNat 0xFEFF := by
    rintro rfl
    exact absurd first (by decide)
  have whole := parse_cons (isSpace_of_isScalarChar first) noMark more
  rw [← front] at whole
  rcases scalar_cases scalar with ⟨found, left, part, reads⟩ | refuses
  · obtain ⟨stop, alone⟩ := reads written.length maxNesting 0 [] nofun
    obtain ⟨stop', here⟩ := reads fuel depth offset rest apart
    rw [List.append_nil, List.append_nil] at alone
    rw [alone] at whole
    cases left with
    | nil =>
      have parsed : parse written = .ok found := whole
      rw [parsed]
      exact ⟨stop', here⟩
    | cons d left =>
      have goesOn : isScalarChar d = true := scalar.2 d (part.subset (List.mem_cons_self ..))
      have parsed : parse written = .error ⟨.extraData, stop⟩ := by
        simp only [whole, bind, Except.bind, skipSpace_of_not (isSpace_of_isScalarChar goesOn), List.isEmpty_cons,
          Bool.false_eq_true, ↓reduceIte]
        rfl
      rw [parsed]
      intro v place read
      cases here.symm.trans read
      exact not_apart_cons goesOn
  · obtain ⟨refusal, alone⟩ := refuses written.length maxNesting 0 [] nofun
    obtain ⟨refusal', here⟩ := refuses fuel depth offset rest apart
    rw [List.append_nil] at alone
    rw [alone] at whole
    have parsed : parse written = .error refusal := whole
    rw [parsed]
    intro v place read
    cases here.symm.trans read

end Scalars

end EditorAssist.Json.Parser

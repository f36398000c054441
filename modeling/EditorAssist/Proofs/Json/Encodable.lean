import EditorAssist.Proofs.Json.Values
import EditorAssist.Wire.Message
import Mathlib.Data.List.TakeWhile

/-!
# Values that can be encoded

Only half of a surrogate pair keeps a text from being encoded. Writing a value adds characters of ASCII to
those of its texts, so a value whose texts hold no half has a body.
-/

namespace EditorAssist.Json

open EditorAssist.Text EditorAssist.Number

/-! ## Halves of surrogate pairs -/

section Halves

theorem half?_of_ascii {c : Char} (ascii : c.toNat < 0x80) : half? c = none := by
  have code : c.toNat - standInOffset = 0 := by
    simp only [standInOffset]
    omega
  simp [half?, code, isHighSurrogate, isLowSurrogate]

@[simp]
theorem hasHalf_nil : hasHalf [] = false := rfl

@[simp]
theorem hasHalf_cons (c : Char) (text : List Char) : hasHalf (c :: text) = ((half? c).isSome || hasHalf text) :=
  List.any_cons

@[simp]
theorem hasHalf_append (first second : List Char) :
    hasHalf (first ++ second) = (hasHalf first || hasHalf second) :=
  List.any_append

theorem hasHalf_of_ascii {text : List Char} (ascii : ∀ c ∈ text, c.toNat < 0x80) : hasHalf text = false := by
  rw [hasHalf, List.any_eq_false]
  intro c member
  rw [half?_of_ascii (ascii c member)]
  decide

/-- The texts without halves can be encoded, and no others. -/
theorem encodingRefusal?_eq_none_iff {text : List Char} : encodingRefusal? text = none ↔ hasHalf text = false := by
  unfold encodingRefusal? firstHalves
  dsimp only
  cases found : text.dropWhile (fun c => (half? c).isNone) with
  | nil =>
    rw [List.dropWhile_eq_nil_iff] at found
    simpa [hasHalf, List.any_eq_false] using found
  | cons c rest =>
    -- The first character that is not skipped is a half.
    have first : (half? c).isNone = false := by
      have head := List.head?_dropWhile_not (fun c => (half? c).isNone) text
      rw [found] at head
      exact head
    obtain ⟨unit, half⟩ := Option.isSome_iff_exists.mp (Option.isNone_eq_false_iff.mp first)
    have member : c ∈ text := (List.dropWhile_sublist _).subset (found ▸ List.mem_cons_self ..)
    have some : hasHalf text = true := List.any_eq_true.mpr ⟨c, member, by rw [half]; rfl⟩
    rw [List.takeWhile_cons, half, Option.isSome_some, if_pos rfl, List.filterMap_cons, half, some]
    dsimp only
    cases (rest.takeWhile fun c => (half? c).isSome).filterMap half? <;> simp

theorem hasHalf_unitEscape (unit : Nat) : hasHalf (unitEscape unit) = false := by
  have ascii : ∀ n < 16, (Nat.digitChar n).toNat < 0x80 := by decide
  have digit (n : Nat) : half? (Nat.digitChar (n % 16)) = none :=
    half?_of_ascii (ascii _ (Nat.mod_lt n (by decide)))
  simp [unitEscape, hex4, digit, half?_of_ascii]

/-- A character that is escaped is no half, and its escape has none. -/
theorem hasHalf_escapeChar (c : Char) : hasHalf (escapeChar false c) = (half? c).isSome := by
  unfold escapeChar
  split
  · next same => rw [same]; decide
  split
  · next same => rw [same]; decide
  split
  · next same => rw [same]; decide
  split
  · next same => rw [same]; decide
  split
  · next same => rw [same]; decide
  split
  · next same => rw [same]; decide
  split
  · next same => rw [same]; decide
  split
  · next low =>
    rw [hasHalf_unitEscape, half?_of_ascii (Nat.lt_trans low (by decide))]
    rfl
  · simp

theorem hasHalf_quote (text : List Char) : hasHalf (quote false text) = hasHalf text := by
  have escaped : hasHalf (text.flatMap (escapeChar false)) = hasHalf text := by
    induction text with
    | nil => rfl
    | cons c rest ih => rw [List.flatMap_cons, hasHalf_append, hasHalf_escapeChar, ih, hasHalf_cons]
  simp [quote, half?_of_ascii, escaped]

end Halves

/-! ## Numbers -/

section Numbers

theorem hasHalf_digits (n : Nat) : hasHalf (digits n) = false := by
  apply hasHalf_of_ascii
  intro c shown
  have bounds := Parser.isDigit_of_mem_digits shown
  simp only [Parser.isDigit, Bool.and_eq_true, decide_eq_true_eq] at bounds
  have upper : c.toNat ≤ '9'.toNat := bounds.2
  exact Nat.lt_of_le_of_lt upper (by decide)

theorem hasHalf_intText (i : Int) : hasHalf (intText i) = false := by
  unfold intText
  split
  · simp [hasHalf_digits, half?_of_ascii]
  · exact hasHalf_digits _

theorem hasHalf_zeros (count : Nat) : hasHalf (List.replicate count '0') = false := by
  apply hasHalf_of_ascii
  intro c member
  rw [List.eq_of_mem_replicate member]
  decide

theorem hasHalf_fixed (places : Nat) (negative : Bool) (num den : Nat) :
    hasHalf (fixed places negative num den) = false := by
  have sign : hasHalf (if negative then ['-'] else []) = false := by cases negative <;> decide
  have decimals (scaled : Nat) : hasHalf (if places = 0 then []
      else '.' :: (List.replicate (places - (digits scaled).length) '0' ++ digits scaled)) = false := by
    split
    · rfl
    · simp [hasHalf_digits, hasHalf_zeros, half?_of_ascii]
  unfold fixed
  dsimp only
  rw [hasHalf_append, hasHalf_append, sign, hasHalf_digits, decimals]
  rfl

theorem hasHalf_fixedFloat (places : Nat) (x : Float) : hasHalf (fixedFloat places x) = false := by
  rw [fixedFloat]
  cases Binary64.ofFloat x with
  | finite negative mantissa exponent => exact hasHalf_fixed ..
  | infinite negative =>
    show hasHalf (if negative then "-inf" else "inf").toList = false
    cases negative <;> decide
  | undefined =>
    show hasHalf "nan".toList = false
    decide

end Numbers

/-! ## Values -/

section Values

/-- Whether the texts of a value, apart from the values within it, hold no half of a surrogate pair. -/
def Value.isEncodable : Value → Bool
  | .float x => !hasHalf (numberText x)
  | .str s => !hasHalf s.toList
  | .obj entries => !(Entries.keys entries).any fun key => hasHalf key.toList
  | _ => true

open Value

theorem all_isEncodable_str (s : String) : (Value.str s).all isEncodable = !hasHalf s.toList := rfl

theorem all_isEncodable_int (i : Int) : (Value.int i).all isEncodable = true := rfl

theorem all_isEncodable_arr (items : List Value) :
    (Value.arr items).all isEncodable = items.all (·.all isEncodable) := by
  induction items with
  | nil => rfl
  | cons item rest ih =>
    rw [List.all_cons, ← ih]
    simp only [Value.all, allItems, isEncodable, Bool.true_and]

/-- An object is encodable if its keys and its values are. -/
theorem all_isEncodable_obj (entries : Entries) :
    (Value.obj entries).all isEncodable = entries.all fun (key, v) => !hasHalf key.toList && v.all isEncodable := by
  induction entries with
  | nil => rfl
  | cons entry rest ih =>
    obtain ⟨key, v⟩ := entry
    rw [List.all_cons, ← ih]
    simp only [Value.all, allEntries, allEntry, isEncodable, Entries.keys, List.map_cons, List.any_cons]
    cases hasHalf key.toList <;> cases v.all isEncodable <;> simp

mutual

/-- The written form of a value has no halves but those of its texts. -/
theorem hasHalf_print (v : Value) : hasHalf (print .compact v) = !v.all isEncodable := by
  match v with
  | .null => simp [print, half?_of_ascii, Value.all, isEncodable]
  | .bool b => cases b <;> simp [print, half?_of_ascii, Value.all, isEncodable]
  | .int i => exact hasHalf_intText i
  | .float x => exact (Bool.not_not _).symm
  | .str s => exact (hasHalf_quote s.toList).trans (Bool.not_not _).symm
  | .arr items => simp [print, half?_of_ascii, Value.all, isEncodable, hasHalf_printItems items]
  | .obj entries => simp [print, half?_of_ascii, Value.all, isEncodable, hasHalf_printEntries entries, Bool.not_and]

theorem hasHalf_printItems (items : List Value) :
    hasHalf (printItems .compact items) = !allItems isEncodable items := by
  match items with
  | [] => rfl
  | [item] => simp [printItems, allItems, hasHalf_print item]
  | item :: next :: more =>
    have all : allItems isEncodable (item :: next :: more) =
        (item.all isEncodable && allItems isEncodable (next :: more)) := by rw [allItems]
    rw [Parser.printItems_next, hasHalf_append, hasHalf_cons, hasHalf_print item,
      hasHalf_printItems (next :: more), half?_of_ascii (by decide), all, Bool.not_and]
    rfl

theorem hasHalf_printEntries (entries : Entries) :
    hasHalf (printEntries .compact entries) =
      (((Entries.keys entries).any fun key => hasHalf key.toList) || !allEntries isEncodable entries) := by
  match entries with
  | [] => rfl
  | (key, v) :: more =>
    have entry : hasHalf (printEntry .compact (key, v)) = (hasHalf key.toList || !v.all isEncodable) := by
      simp [Parser.printEntry_compact, half?_of_ascii, hasHalf_quote, hasHalf_print v]
    match more with
    | [] =>
      show hasHalf (printEntry .compact (key, v)) = _
      simp [entry, Entries.keys, allEntries, allEntry]
    | next :: more =>
      have all : allEntries isEncodable ((key, v) :: next :: more) =
          (v.all isEncodable && allEntries isEncodable (next :: more)) := by rw [allEntries, allEntry]
      have keys : ((Entries.keys ((key, v) :: next :: more)).any fun key => hasHalf key.toList) =
          (hasHalf key.toList || (Entries.keys (next :: more)).any fun key => hasHalf key.toList) := List.any_cons
      rw [Parser.printEntries_next, hasHalf_append, hasHalf_cons, entry, hasHalf_printEntries (next :: more),
        half?_of_ascii (by decide), all, keys, Bool.not_and]
      cases hasHalf key.toList <;> cases v.all isEncodable <;> simp

end

end Values

end EditorAssist.Json

namespace EditorAssist.Wire

open EditorAssist.Json EditorAssist.Json.Value

/-- A value has a body if and only if its texts hold no half of a surrogate pair. -/
theorem encodeFault?_eq_none_iff {v : Value} : encodeFault? v = none ↔ v.all isEncodable = true := by
  rw [encodeFault?, Option.map_eq_none_iff, encodingRefusal?_eq_none_iff, hasHalf_print, Bool.not_eq_false']

theorem encodeFault?_eq_none {v : Value} (encodable : v.all isEncodable = true) : encodeFault? v = none :=
  encodeFault?_eq_none_iff.mpr encodable

end EditorAssist.Wire

import EditorAssist.Proofs.Json.Values
import Mathlib.Tactic.SplitIfs

/-!
# Values on one line

Strings are written with their newlines escaped and numbers have none, so the compact form of any value is one
line (`oneLine_print`), whatever its texts, keys and doubles are.
-/

namespace EditorAssist.Text

/-- A text without a line break. -/
def OneLine (text : List Char) : Prop := '\n' ∉ text

instance (text : List Char) : Decidable (OneLine text) := inferInstanceAs (Decidable (_ ∉ _))

section OneLine

variable {c : Char} {text other : List Char}

@[simp]
theorem oneLine_nil : OneLine [] := List.not_mem_nil

@[simp]
theorem oneLine_cons : OneLine (c :: text) ↔ c ≠ '\n' ∧ OneLine text := by
  rw [OneLine, List.mem_cons, not_or, ne_comm]
  rfl

@[simp]
theorem oneLine_append : OneLine (text ++ other) ↔ OneLine text ∧ OneLine other := by
  rw [OneLine, List.mem_append, not_or]
  rfl

@[simp]
theorem oneLine_flatMap {α : Type} {pieces : List α} {shown : α → List Char} :
    OneLine (pieces.flatMap shown) ↔ ∀ piece ∈ pieces, OneLine (shown piece) := by
  simp [OneLine, List.mem_flatMap]

theorem OneLine.of_subset (whole : OneLine other) (part : text ⊆ other) : OneLine text := fun broken =>
  whole (part broken)

theorem oneLine_replicate (count : Nat) (plain : c ≠ '\n') : OneLine (List.replicate count c) := fun broken =>
  plain (List.eq_of_mem_replicate broken).symm

theorem oneLine_unitEscape (unit : Nat) : OneLine (unitEscape unit) := by
  have plain {n : Nat} (small : n < 16) : Nat.digitChar n ≠ '\n' := by
    intro newline
    have digit := Json.Parser.hexDigit?_digitChar small
    rw [newline] at digit
    cases digit
  simp only [unitEscape, hex4, List.map_cons, List.map_nil, oneLine_cons, oneLine_nil, and_true]
  have low (n : Nat) : n % 16 < 16 := Nat.mod_lt n (by decide)
  exact ⟨by decide, by decide, plain (low _), plain (low _), plain (low _), plain (low _)⟩

theorem oneLine_escapeChar (ascii : Bool) (c : Char) : OneLine (escapeChar ascii c) := by
  by_cases newline : c = '\n'
  · subst newline
    cases ascii <;> decide
  · unfold escapeChar
    split_ifs <;> simp [newline, oneLine_unitEscape]

/-- A quoted text is one line, whatever it says. -/
theorem oneLine_quote (ascii : Bool) (text : List Char) : OneLine (quote ascii text) := by
  simp [quote, oneLine_escapeChar]

end OneLine

end EditorAssist.Text

namespace EditorAssist.Json

open EditorAssist.Text EditorAssist.Number

/-! ## Numbers -/

section Numbers

theorem oneLine_of_isDigit {text : List Char} (digits : ∀ c ∈ text, Parser.isDigit c = true) : OneLine text := by
  intro broken
  have digit : Parser.isDigit '\n' = true := digits _ broken
  cases digit

theorem oneLine_digits (n : Nat) : OneLine (digits n) :=
  oneLine_of_isDigit fun _ member => Parser.isDigit_of_mem_digits member

theorem oneLine_intText (i : Int) : OneLine (intText i) := by
  unfold intText
  split <;> simp [oneLine_digits]

theorem oneLine_toDecimal (found : Option (Nat × Int)) : OneLine (Shortest.toDecimal found).digits := by
  cases found with
  | none => simp [Shortest.toDecimal]
  | some found =>
    refine (oneLine_digits found.1).of_subset ?_
    intro c member
    exact List.mem_reverse.mp ((List.dropWhile_sublist _).subset (List.mem_reverse.mp member))

theorem oneLine_shortest (mantissa : Nat) (exponent : Int) : OneLine (shortest mantissa exponent).digits := by
  rw [shortest]
  exact oneLine_toDecimal _

theorem oneLine_render (layout : Layout) {d : Decimal} (digits : OneLine d.digits) : OneLine (d.render layout) := by
  have zeros (count : Nat) : OneLine (zeros count) := oneLine_replicate count (by decide)
  have front (count : Nat) : OneLine (d.digits.take count) := digits.of_subset (List.take_subset ..)
  have back (count : Nat) : OneLine (d.digits.drop count) := digits.of_subset (List.drop_subset ..)
  unfold Decimal.render
  split
  · split
    · simp [zeros, digits]
    · dsimp only
      split
      · simp [zeros, digits]
      · simp [front, back]
  · have sign : (if d.point - 1 < 0 then '-' else '+') ≠ '\n' := by split <;> decide
    refine oneLine_append.mpr ⟨?_, oneLine_cons.mpr ⟨by decide, oneLine_cons.mpr ⟨sign, oneLine_append.mpr ⟨zeros _,
      oneLine_digits _⟩⟩⟩⟩
    split
    · simp
    · next only eq => rwa [eq] at digits
    · next first more _ eq => simpa [eq] using digits

/-- The text of a double is one line, if the words for special values are. -/
theorem oneLine_floatText {names : SpecialNames} (undefined : OneLine names.undefined.toList)
    (infinite : OneLine names.infinite.toList) (x : Float) : OneLine (floatText names x) := by
  have sign (negative : Bool) : OneLine (if negative then ['-'] else []) := by cases negative <;> decide
  rw [floatText]
  cases Binary64.ofFloat x with
  | undefined => exact undefined
  | infinite negative => exact oneLine_append.mpr ⟨sign negative, infinite⟩
  | finite negative mantissa exponent =>
    refine oneLine_append.mpr ⟨sign negative, ?_⟩
    split
    · simp
    · exact oneLine_render _ (oneLine_shortest mantissa exponent)

end Numbers

/-! ## Values -/

section Values

mutual

/-- The compact form of a value is one line. -/
theorem oneLine_print (v : Value) : OneLine (print .compact v) := by
  match v with
  | .null => simp [print]
  | .bool b => cases b <;> simp [print]
  | .int i => exact oneLine_intText i
  | .float x => exact oneLine_floatText (by simp [numberNames]) (by simp [numberNames]) x
  | .str s => exact oneLine_quote _ s.toList
  | .arr items => simp [print, oneLine_printItems items]
  | .obj entries => simp [print, oneLine_printEntries entries]

theorem oneLine_printItems (items : List Value) : OneLine (printItems .compact items) := by
  match items with
  | [] => simp [printItems]
  | [item] => simp [printItems, oneLine_print item]
  | item :: next :: more =>
    rw [Parser.printItems_next]
    simp [oneLine_print item, oneLine_printItems (next :: more)]

theorem oneLine_printEntries (entries : Entries) : OneLine (printEntries .compact entries) := by
  match entries with
  | [] => simp [printEntries]
  | [(key, v)] => simp [printEntries, Parser.printEntry_compact, oneLine_quote, oneLine_print v]
  | (key, v) :: next :: more =>
    rw [Parser.printEntries_next]
    simp [Parser.printEntry_compact, oneLine_quote, oneLine_print v, oneLine_printEntries (next :: more)]

end

end Values

end EditorAssist.Json

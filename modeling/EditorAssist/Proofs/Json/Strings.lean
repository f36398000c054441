import EditorAssist.Json.Parser
import EditorAssist.Text.Quoted

/-!
# Strings read back

A string that is written with characters outside ASCII as they are is read back as it was: one character
at a time, each of them from its escape or as it stands.
-/

namespace EditorAssist.Json.Parser

open EditorAssist.Text

/-- What is read behind a character, with that character in front. -/
def consRead (c : Char) (read : Except Refusal (List Char × Cursor)) : Except Refusal (List Char × Cursor) :=
  read.map fun (text, cursor) => (c :: text, cursor)

section Characters

variable (start offset : Nat)

/-- An escape of one letter. -/
theorem stringBody_simple {letter c : Char} (escape : simpleEscape? letter = some c) (rest : List Char) :
    stringBody start offset ('\\' :: letter :: rest) = consRead c (stringBody start (offset + 2) rest) := by
  have notUnit : letter ≠ 'u' := by
    rintro rfl
    cases escape
  rw [stringBody, escape]
  · rfl
  · intro _ _ _ _ _ _ same
    exact absurd same notUnit
  · exact notUnit

theorem hexDigit?_digitChar {n : Nat} (small : n < 16) : hexDigit? (Nat.digitChar n) = some n := by
  have all : ∀ n < 16, hexDigit? (Nat.digitChar n) = some n := by decide
  exact all n small

/-- The escape of a unit that is no half of a surrogate pair. -/
theorem stringBody_unit (unit : Nat) (small : unit < 0xD800) {rest : List Char} (more : rest ≠ []) :
    stringBody start offset (unitEscape unit ++ rest) =
      consRead (Char.ofNat unit) (stringBody start (offset + 6) rest) := by
  obtain ⟨next, rest, rfl⟩ := List.exists_cons_of_ne_nil more
  have digits : hex4? (unit / 4096 % 16).digitChar (unit / 256 % 16).digitChar (unit / 16 % 16).digitChar
      (unit % 16).digitChar = some unit := by
    simp only [hex4?, hexDigit?_digitChar (Nat.mod_lt _ (by decide : 0 < 16)), Option.bind_eq_bind, Option.bind_some,
      Option.pure_def, Option.some.injEq]
    omega
  have notHigh : isHighSurrogate unit = false := by simp [isHighSurrogate]; omega
  have notLow : isLowSurrogate unit = false := by simp [isLowSurrogate]; omega
  simp only [unitEscape, hex4, List.map_cons, List.map_nil, List.cons_append, List.nil_append]
  rw [stringBody]
  simp only [digits, notHigh, Bool.false_eq_true, ↓reduceIte, unitChar, notLow, Bool.or_self]
  rfl

/-- A character that stands for itself. -/
theorem stringBody_plain {c : Char} (notQuote : c ≠ '"') (notMark : c ≠ '\\') (shown : 0x20 ≤ c.toNat)
    (rest : List Char) :
    stringBody start offset (c :: rest) = consRead c (stringBody start (offset + 1) rest) := by
  have visible : ¬c.toNat < 0x20 := by omega
  rw [stringBody]
  · simp only [visible, ↓reduceIte]
    rfl
  · exact notQuote
  · exact fun same _ => notMark same
  · exact fun _ _ _ _ _ _ same _ => notMark same
  · exact fun _ same _ => notMark same
  · exact fun _ _ same _ => notMark same

/-- The written form of a character is read as it. -/
theorem stringBody_escapeChar (c : Char) {rest : List Char} (more : rest ≠ []) :
    stringBody start offset (escapeChar false c ++ rest) =
      consRead c (stringBody start (offset + (escapeChar false c).length) rest) := by
  unfold escapeChar
  by_cases quote : c = '"'
  · subst quote
    exact stringBody_simple start offset rfl rest
  by_cases mark : c = '\\'
  · subst mark
    exact stringBody_simple start offset rfl rest
  by_cases newline : c = '\n'
  · subst newline
    exact stringBody_simple start offset rfl rest
  by_cases carriage : c = '\r'
  · subst carriage
    exact stringBody_simple start offset rfl rest
  by_cases tab : c = '\t'
  · subst tab
    exact stringBody_simple start offset rfl rest
  by_cases backspace : c = '\x08'
  · subst backspace
    exact stringBody_simple start offset rfl rest
  by_cases feed : c = '\x0c'
  · subst feed
    exact stringBody_simple start offset rfl rest
  simp only [quote, mark, newline, carriage, tab, backspace, feed, ↓reduceIte, Bool.false_and, Bool.false_eq_true]
  split
  · next control =>
    -- Any other control character is written as its unit.
    have unit := stringBody_unit start offset c.toNat (by omega) more
    rw [Char.ofNat_toNat] at unit
    exact unit
  · next shown => exact stringBody_plain start offset quote mark (by omega) rest

end Characters

/-- A string is read back up to its closing quote. -/
theorem stringBody_quoted (start offset : Nat) (text rest : List Char) :
    stringBody start offset (text.flatMap (escapeChar false) ++ '"' :: rest) =
      .ok (text, ⟨offset + (text.flatMap (escapeChar false)).length + 1, rest⟩) := by
  induction text generalizing offset with
  | nil =>
    rw [List.flatMap_nil, List.nil_append, stringBody]
    rfl
  | cons c text ih =>
    have more : text.flatMap (escapeChar false) ++ '"' :: rest ≠ [] :=
      List.append_ne_nil_of_right_ne_nil _ (List.cons_ne_nil _ _)
    rw [List.flatMap_cons, List.append_assoc, stringBody_escapeChar start offset c more, ih]
    simp only [consRead, Except.map, List.length_append, Nat.add_assoc]

end EditorAssist.Json.Parser

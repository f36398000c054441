/-!
# Searching text

Finding a piece of text, cutting at it and replacing it. `breakOn` is the one search; splitting
and replacing are built on it.
-/

namespace EditorAssist.Text

/-- What follows `piece` when the text starts with it. -/
def strip? : (piece text : List Char) → Option (List Char)
  | [], text => some text
  | _ :: _, [] => none
  | p :: piece, c :: text => if p = c then strip? piece text else none

theorem strip?_eq_some_iff {piece text rest : List Char} :
    strip? piece text = some rest ↔ text = piece ++ rest := by
  induction piece generalizing text with
  | nil => simp [strip?, eq_comm]
  | cons p piece ih =>
    cases text with
    | nil => simp [strip?]
    | cons c text =>
      by_cases h : p = c
      · simp [strip?, h, ih]
      · simp [strip?, h, Ne.symm h]

/-- The text without a leading `piece`, or unchanged when it does not start with one. -/
def withoutPrefix (piece text : List Char) : List Char := (strip? piece text).getD text

/-- The texts before and after the first occurrence of `piece`. -/
def breakOn (piece : List Char) : List Char → Option (List Char × List Char)
  | [] => (strip? piece []).map ([], ·)
  | c :: rest =>
    match strip? piece (c :: rest) with
    | some after => some ([], after)
    | none => (breakOn piece rest).map fun (before, after) => (c :: before, after)

theorem eq_append_of_breakOn {piece text before after : List Char}
    (h : breakOn piece text = some (before, after)) : text = before ++ piece ++ after := by
  induction text generalizing before with
  | nil =>
    simp only [breakOn, Option.map_eq_some_iff, Prod.mk.injEq] at h
    obtain ⟨rest, hs, rfl, rfl⟩ := h
    simpa using strip?_eq_some_iff.1 hs
  | cons c rest ih =>
    simp only [breakOn] at h
    split at h
    · next found hs =>
      simp only [Option.some.injEq, Prod.mk.injEq] at h
      obtain ⟨rfl, rfl⟩ := h
      simpa using strip?_eq_some_iff.1 hs
    · simp only [Option.map_eq_some_iff, Prod.mk.injEq, Prod.exists] at h
      obtain ⟨b, a, hb, rfl, rfl⟩ := h
      simpa using ih hb

theorem length_after_breakOn {piece text before after : List Char}
    (h : breakOn piece text = some (before, after)) :
    before.length + piece.length + after.length = text.length := by
  rw [eq_append_of_breakOn h]
  simp [Nat.add_assoc]

/-- Whether `piece` occurs in the text. -/
def occurs (piece text : List Char) : Bool := (breakOn piece text).isSome

/-- Replaces the first occurrence of `piece`. -/
def replaceFirst (piece replacement text : List Char) : List Char :=
  match breakOn piece text with
  | some (before, after) => before ++ replacement ++ after
  | none => text

/-- The pieces between the occurrences of a non-empty separator, scanned from the left. -/
def splitOn (first : Char) (more : List Char) (text : List Char) : List (List Char) :=
  match h : breakOn (first :: more) text with
  | none => [text]
  | some (before, after) =>
    have : after.length < text.length := by
      have := length_after_breakOn h
      simp only [List.length_cons] at this
      omega
    before :: splitOn first more after
termination_by text.length

/-- Joins pieces with a separator between each two. -/
def joinWith (separator : List Char) : List (List Char) → List Char
  | [] => []
  | [piece] => piece
  | piece :: next :: more => piece ++ separator ++ joinWith separator (next :: more)

end EditorAssist.Text

import EditorAssist.Completion.Edit
import EditorAssist.Proofs.Text.Lines
import EditorAssist.Proofs.Text.Trim

/-!
# What is inserted, and its label

An insertion is a piece of the suggestion, trimmed: all of it, or what follows the cursor line that it repeats. So it
starts with a visible character, and the first line and every cut of it start with the same one: a cut is only trimmed at
its end, and no text has an empty label (`text_and_label_are_well_formed`).
-/

namespace EditorAssist.Completion

open EditorAssist.Text EditorAssist.Payload

section Insertion

variable {line raw rest : List Char}

/-- What is inserted when the trimmed suggestion does not start with the trimmed line, or nothing is left of the
line. -/
theorem insertion_of_fresh (fresh : ¬trim line <+: trim raw ∨ trim line = []) : insertion raw line = trim raw := by
  unfold insertion
  split
  · next rest found =>
    have same := strip?_eq_some_iff.mp found
    rcases fresh with apart | nothing
    · exact absurd ⟨rest, same.symm⟩ apart
    · rw [nothing, List.nil_append] at same
      rw [← same]
      exact trimBoth_idem isBlank raw
  · rfl

/-- What is inserted when the trimmed suggestion starts with the trimmed line. -/
theorem insertion_of_repeated (repeated : trim raw = trim line ++ rest) : insertion raw line = trim rest := by
  unfold insertion
  rw [strip?_eq_some_iff.mpr repeated]

/-- What is inserted is a piece of the suggestion, trimmed. -/
theorem exists_insertion_eq_trim (raw line : List Char) :
    ∃ piece, piece <:+: raw ∧ insertion raw line = trim piece := by
  by_cases repeated : trim line <+: trim raw
  · obtain ⟨rest, same⟩ := repeated
    have behind : rest <:+ trim raw := ⟨trim line, same⟩
    exact ⟨rest, behind.isInfix.trans (isInfix_trimBoth isBlank raw), insertion_of_repeated same.symm⟩
  · exact ⟨raw, List.infix_rfl, insertion_of_fresh (.inl repeated)⟩

/-- Between the trimmed line and what is inserted the trimmed suggestion has blanks only. -/
theorem exists_gap_of_repeated (repeated : trim line <+: trim raw) :
    ∃ gap, (∀ c ∈ gap, isBlank c = true) ∧ trim raw = trim line ++ (gap ++ insertion raw line) := by
  obtain ⟨rest, same⟩ := repeated
  obtain ⟨before, after, trimmed⟩ := exists_trimmed isBlank raw
  have kept : ∀ c ∈ rest.getLast?, isBlank c = false := by
    apply getLast_append
    rw [same]
    exact trimmed.kept.2
  have left : trim rest = rest.dropWhile isBlank := trimBoth_of_getLast kept
  refine ⟨rest.takeWhile isBlank, List.all_eq_true.mp List.all_takeWhile, ?_⟩
  rw [insertion_of_repeated same.symm, left, List.takeWhile_append_dropWhile, same]

/-- An insertion starts and ends in visible characters. -/
theorem insertion_kept (raw line : List Char) :
    (∀ c ∈ (insertion raw line).head?, isBlank c = false) ∧ ∀ c ∈ (insertion raw line).getLast?, isBlank c = false := by
  obtain ⟨piece, -, same⟩ := exists_insertion_eq_trim raw line
  obtain ⟨before, after, trimmed⟩ := exists_trimmed isBlank piece
  rw [same]
  exact trimmed.kept

end Insertion

/-! ### The label -/

/-- A text of more than twenty characters, of which at most twenty are on the first line. -/
def StartsShort (text : List Char) : Prop := (text.takeWhile (· ≠ '\n')).length ≤ 20 ∧ 20 < text.length

/-- What a label shows of a text. -/
structure Labels (text label : List Char) : Prop where
  /-- The label is how the text starts. -/
  front : label <+: text
  /-- It is empty for the empty text only. -/
  filled : text ≠ [] → label ≠ []
  /-- Of a text that starts short it is the first twenty characters, up to the blanks in which they end. -/
  cut : StartsShort text → ∃ blank, text.take 20 = label ++ blank ∧ (∀ c ∈ blank, isBlank c = true) ∧
    ∀ c ∈ label.getLast?, isBlank c = false
  /-- Of any other text it is the first line. -/
  line : ¬StartsShort text → label = text.takeWhile (· ≠ '\n')

section Label

variable {text : List Char}

/-- What the label of a text is taken from. -/
theorem labelOf_cases (text : List Char) :
    (StartsShort text ∧ labelOf text = trim (text.take 20)) ∨
    (¬StartsShort text ∧ labelOf text = text.takeWhile (· ≠ '\n')) := by
  unfold labelOf
  rw [headD_lines]
  dsimp only
  split
  · next short =>
    simp only [Bool.and_eq_true, decide_eq_true_eq] at short
    exact .inl ⟨short, rfl⟩
  · next long =>
    simp only [Bool.and_eq_true, decide_eq_true_eq] at long
    exact .inr ⟨long, rfl⟩

/-- A text that starts with a visible character has it in its label. -/
theorem labelOf_labels (starts : ∀ c ∈ text.head?, isBlank c = false) : Labels text (labelOf text) := by
  obtain ⟨short, cut⟩ | ⟨long, line⟩ := labelOf_cases text
  · have begins : ∀ c ∈ (text.take 20).head?, isBlank c = false := by
      rw [List.head?_take, if_neg (by decide)]
      exact starts
    obtain ⟨blank, split, dropped, kept⟩ := exists_dropEndWhile isBlank (text.take 20)
    rw [← trimBoth_of_head begins, ← trim, ← cut] at split kept
    have shown : labelOf text <+: text.take 20 := ⟨blank, split.symm⟩
    refine ⟨shown.trans (List.take_prefix 20 text), ?_, fun _ => ⟨blank, split, dropped, kept⟩, absurd short⟩
    intro filled
    obtain ⟨c, rest, rfl⟩ := List.exists_cons_of_ne_nil filled
    have member : c ∈ (c :: rest).take 20 := List.mem_cons_self
    rw [cut]
    exact trimBoth_ne_nil member (starts c List.head?_cons)
  · rw [line]
    refine ⟨List.takeWhile_prefix _, ?_, fun short => absurd short long, fun _ => rfl⟩
    intro filled
    obtain ⟨c, rest, rfl⟩ := List.exists_cons_of_ne_nil filled
    have level : c ≠ '\n' := by
      rintro rfl
      cases starts _ List.head?_cons
    rw [List.takeWhile_cons_of_pos (by simpa using level)]
    exact List.cons_ne_nil _ _

end Label

/-- The text and the label of an edit for a suggestion, with the cursor line up to the cursor. -/
structure WellFormed (raw lastLine : List Char) (edit : SynthesizedEdit) : Prop where
  /-- The text starts with a visible character -/
  starts : ∀ c ∈ edit.text.head?, isBlank c = false
  /-- and ends in one, -/
  ends : ∀ c ∈ edit.text.getLast?, isBlank c = false
  /-- and stands in the suggestion as it is. -/
  piece : edit.text <:+: raw
  /-- It is all that is left of the suggestion when that is trimmed, -/
  fresh : ¬trim lastLine <+: trim raw → edit.text = trim raw
  /-- but for the trimmed line where the suggestion starts with it, and blanks. -/
  repeated : trim lastLine <+: trim raw →
    ∃ gap, (∀ c ∈ gap, isBlank c = true) ∧ trim raw = trim lastLine ++ (gap ++ edit.text)
  /-- The label shows how the text starts. -/
  label : Labels edit.text edit.label

/-- Whatever is suggested and wherever the cursor stands, text and label of the edit are well formed. -/
theorem text_and_label_are_well_formed (raw : List Char) (context : CursorContext) (position : Position) :
    WellFormed raw context.lastLine (synthesize raw context position) := by
  obtain ⟨starts, ends⟩ := insertion_kept raw context.lastLine
  obtain ⟨piece, within, same⟩ := exists_insertion_eq_trim raw context.lastLine
  refine ⟨starts, ends, ?_, fun apart => insertion_of_fresh (.inl apart), exists_gap_of_repeated, labelOf_labels starts⟩
  have trimmed : trim piece <:+: raw := (isInfix_trimBoth isBlank piece).trans within
  rw [← same] at trimmed
  exact trimmed

/-- The cut falls into the blanks of the second line, which are no part of the label. -/
example : labelOf "for x in xs:\n        yield x".toList = "for x in xs:".toList := by decide

end EditorAssist.Completion

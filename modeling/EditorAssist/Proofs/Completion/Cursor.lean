import EditorAssist.Completion.Cursor
import EditorAssist.Proofs.Text.Lines
import EditorAssist.Proofs.Text.Walk

/-!
# The text around a cursor

A cursor context is made of one cut of the document's lines: the lines above the cursor line, the cursor line in two
halves, and the lines below. `cursor_divides_the_text` puts the document together again from it and says when
the text shown to a backend has lost a newline.
-/

namespace EditorAssist.Completion

open EditorAssist.Text

/-- The halves of a line that is cut are the line. -/
theorem cutLine_append (line : List Char) (column : Int) :
    (cutLine line column).1 ++ (cutLine line column).2 = line := by
  unfold cutLine
  split
  · exact List.take_append_drop _ _
  · exact List.append_nil line

/-- A document that is cut at the line nearest to `line`, and what the context at a column of it consists of. -/
structure CutAt (text : List Char) (line column : Int) (above : List (List Char)) (current : List Char)
    (below : List (List Char)) : Prop where
  lines : Text.lines text = above ++ current :: below
  count : above.length = clampLine line (Text.lines text).length
  context : CursorContext.at_ text line column =
    { contentBefore := joinLines (above ++ [(cutLine current column).1])
      contentAfter := joinLines below
      lastLine := (cutLine current column).1
      contentImmediatelyAfter := (cutLine current column).2 }

section Cut

variable {text : List Char} {line column : Int} {above below : List (List Char)} {current : List Char}

/-- Wherever the cursor is meant to be, the document is cut at one of its lines. -/
theorem exists_cutAt (text : List Char) (line column : Int) :
    ∃ above current below, CutAt text line column above current below := by
  have inside : clampLine line (lines text).length < (lines text).length := by
    have some_line := length_lines_pos text
    simp only [clampLine]
    omega
  generalize place : clampLine line (lines text).length = index at inside
  have chosen : (lines text).getD index [] = (lines text)[index] := by
    rw [List.getD_eq_getElem?_getD, List.getElem?_eq_getElem inside, Option.getD_some]
  refine ⟨(lines text).take index, (lines text)[index], (lines text).drop (index + 1), ?_, ?_, ?_⟩
  · rw [List.getElem_cons_drop, List.take_append_drop]
  · rw [List.length_take, place]
    exact Nat.min_eq_left (Nat.le_of_lt inside)
  · simp only [CursorContext.at_, place, chosen]

/-- The halves of the cursor line hold no newline. -/
theorem CutAt.level (cut : CutAt text line column above current below) :
    '\n' ∉ (cutLine current column).1 ++ (cutLine current column).2 := by
  have listed : current ∈ Text.lines text := by
    rw [cut.lines]
    exact List.mem_append_right _ (List.mem_cons_self ..)
  rw [cutLine_append]
  exact newline_notMem_of_mem_lines listed

/-- No line above the cursor line holds a newline. -/
theorem CutAt.level_above (cut : CutAt text line column above current below) : ∀ piece ∈ above, '\n' ∉ piece := by
  intro piece member
  have listed : piece ∈ Text.lines text := by
    rw [cut.lines]
    exact List.mem_append_left _ member
  exact newline_notMem_of_mem_lines listed

/-- The document is the context's text up to the end of the cursor line and the lines below. -/
theorem CutAt.whole (cut : CutAt text line column above current below) :
    text = joinLines (above ++ [(cutLine current column).1]) ++ (cutLine current column).2 ++
      (if below = [] then [] else '\n' :: joinLines below) := by
  rw [← joinLines_cut, cutLine_append, ← cut.lines, joinLines_lines]

/-- The text before the cursor leads to the cursor line and as far into it as its first half is long. -/
theorem CutAt.walk (cut : CutAt text line column above current below) :
    Text.walk origin (joinLines (above ++ [(cutLine current column).1])) =
      ⟨above.length, (cutLine current column).1.length⟩ := by
  have walked := walk_joinLines 0 cut.level_above fun newline => cut.level (List.mem_append_left _ newline)
  rw [Int.zero_add] at walked
  exact walked

/-- A line is cut between its halves. -/
theorem cutLine_length (left right : List Char) : cutLine (left ++ right) left.length = (left, right) := by
  unfold cutLine
  split
  · rw [Int.toNat_natCast, List.take_left' rfl, List.drop_left' rfl]
  · next beyond =>
    have nothing : right = [] := by
      rw [List.length_append] at beyond
      exact List.length_eq_zero_iff.mp (by omega)
    rw [nothing, List.append_nil]

/-- Two texts behind each other are cut where they meet, in the last line of the one and the first of the other. -/
theorem at_append {before after last first : List Char} {above below : List (List Char)}
    (upper : Text.lines before = above ++ [last]) (lower : Text.lines after = first :: below) :
    CursorContext.at_ (before ++ after) above.length last.length =
      { contentBefore := before
        contentAfter := joinLines below
        lastLine := last
        contentImmediatelyAfter := first } := by
  have all : Text.lines (before ++ after) = above ++ (last ++ first) :: below := lines_append upper lower
  have index : clampLine above.length (Text.lines (before ++ after)).length = above.length := by
    rw [clampLine, Int.toNat_natCast, all, List.length_append, List.length_cons]
    omega
  obtain ⟨above', current, below', cut⟩ := exists_cutAt (before ++ after) above.length last.length
  have level : above'.length = above.length := cut.count.trans index
  obtain ⟨rfl, meeting⟩ := List.append_inj (cut.lines.symm.trans all) level
  obtain ⟨rfl, rfl⟩ := List.cons.inj meeting
  rw [cut.context, cutLine_length, ← upper, joinLines_lines]

/-- Joined lines end in the last of them, which a newline separates from those above. -/
theorem exists_joinLines_concat (above : List (List Char)) (last : List Char) :
    ∃ front, joinLines (above ++ [last]) = front ++ last ∧ (front = [] ∨ front.getLast? = some '\n') := by
  induction above with
  | nil => exact ⟨[], rfl, .inl rfl⟩
  | cons first above ih =>
    obtain ⟨front, joined, ends⟩ := ih
    have more : above ++ [last] ≠ [] := List.append_ne_nil_of_right_ne_nil _ (List.cons_ne_nil last [])
    refine ⟨first ++ '\n' :: front, ?_, .inr ?_⟩
    · rw [List.cons_append, joinLines_cons_of_ne_nil first more, joined, List.append_assoc, List.cons_append]
    · rcases ends with rfl | ends
      · exact List.getLast?_concat
      · rw [List.getLast?_append, List.getLast?_cons, ends]
        rfl

end Cut

/-- Lines follow the cursor line, of number `index`, but there is nothing to separate: the cursor stands at the end of
its line, or what follows is one empty line. -/
def CursorContext.Merges (context : CursorContext) (text : List Char) (index : Nat) : Prop :=
  index + 1 < (lines text).length ∧ (context.contentImmediatelyAfter = [] ∨ context.contentAfter = [])

/-- What a cursor context in the line of number `index` has to do with the document. -/
structure Divides (context : CursorContext) (text : List Char) (index : Nat) : Prop where
  /-- Up to the end of the cursor line the context holds the lines down to it. -/
  upTo : context.contentBefore ++ context.contentImmediatelyAfter = joinLines ((lines text).take (index + 1))
  /-- Behind them stands nothing in the last line, or a newline and the content after. -/
  whole : text = context.contentBefore ++ context.contentImmediatelyAfter ++
    if index + 1 = (lines text).length then [] else '\n' :: context.contentAfter
  newlines : context.contentBefore.count '\n' = index
  /-- The last line is what follows the last newline before the cursor. -/
  lastLine : ∃ front, context.contentBefore = front ++ context.lastLine ∧ '\n' ∉ context.lastLine ∧
    (front = [] ∨ front.getLast? = some '\n')
  lastCharacter : context.lastCharacter = context.contentBefore.getLast?
  /-- Around the cursor a backend is shown the document, -/
  shown : ¬context.Merges text index → context.contentBefore ++ context.afterForPrompt = text
  /-- or the document without one newline. -/
  merged : context.Merges text index → ∃ front back,
    text = front ++ '\n' :: back ∧ context.contentBefore ++ context.afterForPrompt = front ++ back

/-- What is shown after the cursor, by whether lines follow and which part is empty. -/
theorem afterForPrompt_eq (context : CursorContext) :
    context.afterForPrompt = context.contentImmediatelyAfter ++
      (if context.contentImmediatelyAfter = [] ∨ context.contentAfter = [] then context.contentAfter
        else '\n' :: context.contentAfter) := by
  unfold CursorContext.afterForPrompt
  cases context.contentAfter with
  | nil => simp
  | cons c after => cases context.contentImmediatelyAfter <;> simp

/-- A cursor divides the document, whatever its line and column. The line is the nearest one in the document. -/
theorem cursor_divides_the_text (text : List Char) (line column : Int) :
    ∃ index : Nat, (index : Int) = max 0 (min line ((lines text).length - 1)) ∧
      Divides (CursorContext.at_ text line column) text index := by
  obtain ⟨above, current, below, cut⟩ := exists_cutAt text line column
  have total : (lines text).length = above.length + 1 + below.length := by
    rw [cut.lines, List.length_append, List.length_cons]
    omega
  have lowest : below = [] ↔ above.length + 1 = (lines text).length := by
    rw [← List.length_eq_zero_iff]
    omega
  refine ⟨above.length, ?_, ?_⟩
  · have nearest := cut.count
    rw [clampLine] at nearest
    omega
  · have whole := cut.whole
    rw [cut.context]
    refine ⟨?_, ?_, ?_, ?_, rfl, ?_, ?_⟩
    · have upTo := joinLines_cut above [] (cutLine current column).1 (cutLine current column).2
      rw [cutLine_append, if_pos rfl, List.append_nil] at upTo
      rw [cut.lines, List.take_append, List.take_of_length_le (Nat.le_succ _), Nat.add_sub_cancel_left,
        List.take_one, List.head?_cons, ← upTo]
      rfl
    · simp only [← lowest]
      exact whole
    · have counted := walk_line origin (joinLines (above ++ [(cutLine current column).1]))
      rw [cut.walk] at counted
      exact Int.ofNat.inj (counted.trans (Int.zero_add _)).symm
    · obtain ⟨front, joined, ends⟩ := exists_joinLines_concat above (cutLine current column).1
      exact ⟨front, joined, fun newline => cut.level (List.mem_append_left _ newline), ends⟩
    · intro apart
      rw [afterForPrompt_eq]
      dsimp only
      by_cases lines : below = []
      · rw [lines, if_pos rfl, List.append_nil] at whole
        rw [lines, if_pos (.inr rfl), joinLines, List.append_nil, ← whole]
      · have follows : above.length + 1 < (Text.lines text).length := by
          have other := mt lowest.mpr lines
          omega
        rw [if_neg lines] at whole
        rw [if_neg fun empty => apart ⟨follows, empty⟩, ← List.append_assoc, ← whole]
    · rintro ⟨follows, empty⟩
      rw [afterForPrompt_eq, if_pos empty]
      dsimp only
      have lines : below ≠ [] := fun none => Nat.ne_of_lt follows (lowest.mp none)
      rw [if_neg lines] at whole
      exact ⟨_, joinLines below, whole, (List.append_assoc ..).symm⟩

end EditorAssist.Completion

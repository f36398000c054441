import EditorAssist.Completion.Edit
import EditorAssist.Proofs.Completion.Cursor
import EditorAssist.Proofs.Completion.Insertion
import EditorAssist.Proofs.Completion.Overlap

/-!
# Accepting a completion

An editor accepts a completion by inserting its text at the cursor and deleting what goes with it.
The insertion is trimmed, so an overlap is one of its own tail and the deletion takes away one copy
of the text that stands twice. `accepted_completion` says what the document holds afterwards.
-/

namespace EditorAssist.Completion

open EditorAssist.Text EditorAssist.Payload

/-- The document after a completion is accepted at a position. -/
def accept (text : List Char) (position : Position) (edit : SynthesizedEdit) : List Char :=
  edit.deletions.foldl splice (splice text ⟨⟨position, position⟩, String.ofList edit.text⟩)

/-! ### The insertion -/

/-- The end of an insertion is where its text leads. -/
theorem endOfInsertion_eq_walk (text : List Char) (position : Position) :
    endOfInsertion text position = walk position text := by
  induction text generalizing position with
  | nil => simp [endOfInsertion, lines]
  | cons c rest ih =>
    rw [walk_cons, ← ih]
    obtain ⟨first, more, split⟩ := List.exists_cons_of_ne_nil (lines_ne_nil rest)
    by_cases newline : c = '\n'
    · have pieces : lines (c :: rest) = [] :: first :: more := by simp [lines, newline, split]
      subst newline
      simp only [endOfInsertion, pieces, split, stepOver_newline, List.getLastD_cons]
      cases more with
      | nil => simp
      | cons second others => simp; omega
    · have pieces : lines (c :: rest) = (c :: first) :: more := by simp [lines, newline, split]
      simp only [endOfInsertion, pieces, split, stepOver_of_ne newline]
      cases more with
      | nil => simp; omega
      | cons second others => simp

/-- An insertion has no spaces or tabs at its end. -/
theorem dropEndWhile_isIndent_insertion (raw lastLine : List Char) :
    dropEndWhile isIndent (insertion raw lastLine) = insertion raw lastLine :=
  dropEndWhile_of_getLast fun c last => isIndent_of_visible ((insertion_kept raw lastLine).2 c last)

/-! ### The split at the cursor -/

/-- A text inside which a position lies: what stands before it, what remains of its line and what
follows the line. -/
structure SplitAt (text : List Char) (position : Position) (before after rest : List Char) : Prop where
  whole : text = before ++ after ++ rest
  reaches : walk origin before = position
  level : '\n' ∉ after
  ends : rest = [] ∨ rest.head? = some '\n'

theorem length_cutLine {line : List Char} {column : Nat} (within : column ≤ line.length) :
    (cutLine line column).1.length = column := by
  unfold cutLine
  split
  · simp only [Int.toNat_natCast, List.length_take]
    exact Nat.min_eq_left within
  · simp only
    omega

/-- The cursor context splits the document at its position. -/
theorem at_splits {text : List Char} {line column : Nat} (inside : line < (lines text).length)
    (within : column ≤ ((lines text).getD line []).length) :
    ∃ rest, SplitAt text ⟨line, column⟩ (CursorContext.at_ text line column).contentBefore
      (CursorContext.at_ text line column).contentImmediatelyAfter rest := by
  obtain ⟨above, current, below, cut⟩ := exists_cutAt text line column
  have count : above.length = line := by
    rw [cut.count, clampLine, Int.toNat_natCast]
    omega
  have chosen : (lines text).getD line [] = current := by
    rw [cut.lines, ← count, List.getD_eq_getElem?_getD, List.getElem?_append_right (Nat.le_refl _), Nat.sub_self]
    rfl
  rw [chosen] at within
  rw [cut.context]
  refine ⟨if below = [] then [] else '\n' :: joinLines below, cut.whole, ?_, ?_, ?_⟩
  · rw [cut.walk, count, length_cutLine within]
  · exact fun newline => cut.level (List.mem_append_right _ newline)
  · split
    · exact .inl rfl
    · exact .inr rfl

/-! ### What the document holds afterwards -/

/-- What one deletion of `size` characters after an insertion leaves of a document. -/
theorem splice_deletion {text after : List Char} (rest : List Char) {size : Nat} (level : '\n' ∉ after)
    (within : size ≤ after.length) :
    splice (text ++ after ++ rest) (deletion (walk origin text) size) = text ++ after.drop size ++ rest := by
  have taken : '\n' ∉ after.take size := fun newline => level (List.mem_of_mem_take newline)
  have stop : walk (walk origin text) (after.take size) = _ := walk_of_newline_notMem taken
  rw [List.length_take, Nat.min_eq_left within, ← walk_append] at stop
  have halves : text ++ after ++ rest = text ++ after.take size ++ (after.drop size ++ rest) := by
    simp only [List.append_assoc]
    rw [← List.append_assoc (after.take size), List.take_append_drop]
  rw [deletion, ← stop, halves, splice_walk, String.toList_empty, List.append_nil, List.append_assoc]

/-- What is deleted after an insertion: the overlap, or one isolated closer. -/
theorem deletionsAt_cases (text after : List Char) (stop : Position) :
    (0 < overlap text after ∧ deletionsAt text after stop = [deletion stop (overlap text after)]) ∨
    (overlap text after = 0 ∧ isIsolatedCloser after = true ∧ deletionsAt text after stop = [deletion stop 1]) ∨
    (overlap text after = 0 ∧ deletionsAt text after stop = []) := by
  unfold deletionsAt
  by_cases overlaps : 0 < overlap text after
  · exact .inl ⟨overlaps, if_pos overlaps⟩
  · have none : overlap text after = 0 := Nat.eq_zero_of_not_pos overlaps
    by_cases closes : isIsolatedCloser after = true
    · exact .inr (.inl ⟨none, closes, by rw [if_neg overlaps, if_pos closes]⟩)
    · exact .inr (.inr ⟨none, by rw [if_neg overlaps, if_neg closes]⟩)

/-- A closer that stands alone: spaces and tabs follow it to the end of the line, or a line break
does. -/
def Isolated (after : List Char) : Prop :=
  ∃ closer tail, after = closer :: tail ∧ closer ∈ [')', '\x7d', ']', '>'] ∧
    ((∀ c ∈ tail, c = ' ' ∨ c = '\t') ∨ tail.head? = some '\r' ∨ tail.head? = some '\n')

theorem isIsolatedCloser_iff {after : List Char} : isIsolatedCloser after = true ↔ Isolated after := by
  cases after with
  | nil => simp [isIsolatedCloser, Isolated]
  | cons c rest =>
    have closes : isIsolatedCloser (c :: rest) = true ↔ c ∈ [')', '\x7d', ']', '>'] ∧
        ((∀ d ∈ rest, d = ' ' ∨ d = '\t') ∨ rest.head? = some '\r' ∨ rest.head? = some '\n') := by
      simp [isIsolatedCloser, isCloser, isIndent, or_assoc]
    rw [closes]
    constructor
    · exact fun stands => ⟨c, rest, rfl, stands⟩
    · rintro ⟨closer, tail, same, stands⟩
      obtain ⟨rfl, rfl⟩ := List.cons.inj same
      exact stands

/-- What an accepted completion leaves of a document split at the cursor, when `size` characters
are deleted with it. -/
structure Accepted (before after rest : List Char) (edit : SynthesizedEdit) (size : Nat) (result : List Char) :
    Prop where
  /-- The insertion replaces the deleted start of what remained of the line. -/
  replaced : result = before ++ edit.text ++ after.drop size ++ rest
  /-- The deletion stays in the line. -/
  within : size ≤ after.length
  /-- The insertion ends where its text leads. -/
  stop : edit.stop = walk origin (before ++ edit.text)
  /-- At most one deletion, which starts there. -/
  deletions : edit.deletions =
    if size = 0 then [] else
      [⟨⟨edit.stop, ⟨edit.stop.line, edit.stop.character + size⟩⟩, ""⟩]
  /-- A deletion for an overlap takes away the second copy of what the insertion ends in. -/
  once : 0 < overlap edit.text after →
    size = overlap edit.text after ∧
      result = before ++ edit.text.take (edit.text.length - size) ++ after ++ rest
  /-- Without an overlap only an isolated closer is deleted. -/
  closer : overlap edit.text after = 0 → size = 0 ∨ size = 1 ∧ Isolated after

/-- An insertion that ends where its text leads, is trimmed and takes its deletions from what
remained of the line. -/
theorem accepted_of_split {text before after rest : List Char} {position : Position} {edit : SynthesizedEdit}
    (split : SplitAt text position before after rest) (stop : edit.stop = walk position edit.text)
    (trimmed : dropEndWhile isIndent edit.text = edit.text)
    (deletes : edit.deletions = deletionsAt edit.text after edit.stop) :
    ∃ size, Accepted before after rest edit size (accept text position edit) := by
  have ends : edit.stop = walk origin (before ++ edit.text) := by rw [walk_append, split.reaches, stop]
  have inserted : splice text ⟨⟨position, position⟩, String.ofList edit.text⟩ =
      before ++ edit.text ++ after ++ rest := by
    have put : splice (before ++ [] ++ (after ++ rest)) _ = _ :=
      splice_walk [] (after ++ rest) (String.ofList edit.text)
    rw [List.append_nil, split.reaches, String.toList_ofList, ← List.append_assoc before, ← split.whole,
      ← List.append_assoc] at put
    exact put
  have deleted {size : Nat} (within : size ≤ after.length) :
      splice (before ++ edit.text ++ after ++ rest) (deletion edit.stop size) =
        before ++ edit.text ++ after.drop size ++ rest := by
    rw [ends]
    exact splice_deletion rest split.level within
  obtain ⟨le, tail⟩ := overlap_spec after trimmed
  obtain ⟨overlaps, list⟩ | ⟨none, closes, list⟩ | ⟨none, list⟩ := deletionsAt_cases edit.text after edit.stop
  · -- The overlap stands at the end of the insertion and at the start of what follows.
    have result : accept text position edit =
        before ++ edit.text ++ after.drop (overlap edit.text after) ++ rest := by
      rw [accept, deletes, list, inserted, List.foldl_cons, List.foldl_nil, deleted le]
    have shared : edit.text ++ after.drop (overlap edit.text after) =
        edit.text.take (edit.text.length - overlap edit.text after) ++ after := by
      calc edit.text ++ after.drop (overlap edit.text after)
        _ = edit.text.take (edit.text.length - overlap edit.text after) ++
              after.take (overlap edit.text after) ++ after.drop (overlap edit.text after) := by rw [tail]
        _ = edit.text.take (edit.text.length - overlap edit.text after) ++ after := by
          rw [List.append_assoc, List.take_append_drop]
    refine ⟨overlap edit.text after, result, le, ends, ?_, ?_, ?_⟩
    · rw [deletes, list, if_neg (Nat.ne_of_gt overlaps), deletion]
    · intro _
      refine ⟨rfl, ?_⟩
      rw [result, List.append_assoc before, shared, ← List.append_assoc before]
    · intro none
      omega
  · have stands := isIsolatedCloser_iff.mp closes
    have within : 1 ≤ after.length := by
      obtain ⟨closer, tail, rfl, -⟩ := stands
      exact Nat.succ_le_succ (Nat.zero_le _)
    refine ⟨1, ?_, within, ends, ?_, ?_, fun _ => .inr ⟨rfl, stands⟩⟩
    · rw [accept, deletes, list, inserted, List.foldl_cons, List.foldl_nil, deleted within]
    · rw [deletes, list, if_neg Nat.one_ne_zero, deletion]
    · intro overlaps
      omega
  · refine ⟨0, ?_, Nat.zero_le _, ends, ?_, ?_, fun _ => .inl rfl⟩
    · rw [accept, deletes, list, inserted, List.foldl_nil, List.drop_zero]
    · rw [deletes, list, if_pos rfl]
    · intro overlaps
      omega

theorem synthesize_stop (raw : List Char) (context : CursorContext) (position : Position) :
    (synthesize raw context position).stop = walk position (synthesize raw context position).text :=
  endOfInsertion_eq_walk (insertion raw context.lastLine) position

theorem synthesize_deletions (raw : List Char) (context : CursorContext) (position : Position) :
    (synthesize raw context position).deletions =
      deletionsAt (synthesize raw context position).text context.contentImmediatelyAfter
        (synthesize raw context position).stop :=
  rfl

/-- The document that an accepted completion leaves. -/
theorem accepted_completion (text raw : List Char) (line column : Nat) (inside : line < (lines text).length)
    (within : column ≤ ((lines text).getD line []).length) :
    let context := CursorContext.at_ text line column
    let edit := synthesize raw context ⟨line, column⟩
    ∃ rest size,
      SplitAt text ⟨line, column⟩ context.contentBefore context.contentImmediatelyAfter rest ∧
      Accepted context.contentBefore context.contentImmediatelyAfter rest edit size
        (accept text ⟨line, column⟩ edit) := by
  intro context edit
  obtain ⟨rest, split⟩ := at_splits inside within
  obtain ⟨size, accepted⟩ := accepted_of_split split (synthesize_stop raw context _)
    (dropEndWhile_isIndent_insertion raw context.lastLine) (synthesize_deletions raw context _)
  exact ⟨rest, size, split, accepted⟩

/-- A body for an empty block, whose closing brace stands after the cursor. -/
theorem accepted_block_body :
    let text := ['f', '(', ')', ' ', '\x7b', '\x7d', '\n', 'g', '(', ')']
    let raw := ['f', '(', ')', ' ', '\x7b', ' ', 'h', '\n', '\x7d']
    let edit := synthesize raw (CursorContext.at_ text 0 5) ⟨0, 5⟩
    0 < (lines text).length ∧ 5 ≤ ((lines text).getD 0 []).length ∧
      (∃ rest size, SplitAt text ⟨0, 5⟩ ['f', '(', ')', ' ', '\x7b'] ['\x7d'] rest ∧
        Accepted ['f', '(', ')', ' ', '\x7b'] ['\x7d'] rest edit size (accept text ⟨0, 5⟩ edit)) ∧
      accept text ⟨0, 5⟩ edit =
        ['f', '(', ')', ' ', '\x7b', 'h', '\n', '\x7d', '\n', 'g', '(', ')'] :=
  ⟨by decide, by decide, accepted_completion _ _ 0 5 (by decide) (by decide), by decide +kernel⟩

end EditorAssist.Completion

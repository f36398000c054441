/-!
# Lines

A text of `n` newlines has `n + 1` lines; joining them with newlines gives the text back
(`joinLines_lines`), and the lines themselves hold no newline (`newline_notMem_of_mem_lines`).
-/

namespace EditorAssist.Text

/-- The pieces between newlines; never empty. -/
def lines : List Char → List (List Char)
  | [] => [[]]
  | c :: rest =>
    if c = '\n' then [] :: lines rest
    else match lines rest with
      | [] => [[c]]
      | line :: more => (c :: line) :: more

/-- Joins lines with a newline between each two. -/
def joinLines : List (List Char) → List Char
  | [] => []
  | [line] => line
  | line :: next :: more => line ++ '\n' :: joinLines (next :: more)

theorem lines_ne_nil (text : List Char) : lines text ≠ [] := by
  cases text with
  | nil => simp [lines]
  | cons c rest =>
    by_cases h : c = '\n'
    · simp [lines, h]
    · simp only [lines, h, if_false]
      split <;> simp

theorem length_lines_pos (text : List Char) : 0 < (lines text).length :=
  List.length_pos_iff.2 (lines_ne_nil text)

theorem joinLines_cons_of_ne_nil (line : List Char) {more : List (List Char)} (h : more ≠ []) :
    joinLines (line :: more) = line ++ '\n' :: joinLines more := by
  cases more with
  | nil => exact absurd rfl h
  | cons next rest => rfl

theorem joinLines_lines (text : List Char) : joinLines (lines text) = text := by
  induction text with
  | nil => rfl
  | cons c rest ih =>
    by_cases h : c = '\n'
    · simp [lines, h, joinLines_cons_of_ne_nil [] (lines_ne_nil rest), ih]
    · simp only [lines, h, if_false]
      split
      · next eq => exact absurd eq (lines_ne_nil rest)
      · next line more eq =>
        rw [eq] at ih
        cases more with
        | nil => simpa [joinLines] using ih
        | cons next others => simpa [joinLines] using ih

theorem newline_notMem_of_mem_lines {text line : List Char} (h : line ∈ lines text) :
    '\n' ∉ line := by
  induction text generalizing line with
  | nil => simp [lines] at h; simp [h]
  | cons c rest ih =>
    by_cases hc : c = '\n'
    · simp only [lines, hc, if_true, List.mem_cons] at h
      rcases h with rfl | h
      · simp
      · exact ih h
    · simp only [lines, hc, if_false] at h
      split at h
      · simp only [List.mem_singleton] at h
        subst h
        simpa using fun e => hc e.symm
      · next first more eq =>
        simp only [List.mem_cons] at h
        rcases h with rfl | h
        · have : '\n' ∉ first := ih (by simp [eq])
          simp only [List.mem_cons, not_or]
          exact ⟨fun e => hc e.symm, this⟩
        · exact ih (by simp [eq, h])

/-- The text read with every carriage return, alone or before a newline, as one newline. -/
def normalizeNewlines : List Char → List Char
  | '\r' :: '\n' :: rest => '\n' :: normalizeNewlines rest
  | '\r' :: rest => '\n' :: normalizeNewlines rest
  | c :: rest => c :: normalizeNewlines rest
  | [] => []

/-- Whether a character ends a line: a newline, a vertical tab, a form feed, a carriage return, a
separator of files, groups or records, and the line breaks beyond ASCII. -/
def endsLine (c : Char) : Bool :=
  let code := c.toNat
  (0xA ≤ code && code ≤ 0xD) || (0x1C ≤ code && code ≤ 0x1E) || code = 0x85 || code = 0x2028 || code = 0x2029

/-- The lines of a text, each ended by any of the line breaks; nothing follows the last one. -/
def brokenLines (text : List Char) : List (List Char) :=
  let (all, last) := text.foldl (fun (all, line) c =>
    if endsLine c then (line.reverse :: all, []) else (all, c :: line)) ([], [])
  (if last.isEmpty then all else last.reverse :: all).reverse

/-- The first of all items that count as the same, in order. -/
def distinctBy {α : Type} (same : α → α → Bool) (items : List α) : List α :=
  items.foldl (fun kept item => if kept.any (same item) then kept else kept ++ [item]) []

/-- Distinct items in the order of their first appearance. -/
def distinct {α : Type} [BEq α] (items : List α) : List α := distinctBy (· == ·) items

end EditorAssist.Text

import EditorAssist.Text.Blank
import EditorAssist.Text.Lines

/-!
# Lines of joined texts

Lines that were joined are the lines again (`lines_joinLines`). So two texts behind each other have the lines of both,
of which the last of the one and the first of the other are one line (`lines_append`); with a newline between them
all lines stay (`lines_append_newline`). A text is blank when its lines are.
-/

namespace EditorAssist.Text

/-- The first newline ends the first line. -/
theorem lines_front {line : List Char} (level : '\n' ∉ line) (rest : List Char) :
    lines (line ++ '\n' :: rest) = line :: lines rest := by
  induction line with
  | nil => rw [List.nil_append, lines, if_pos rfl]
  | cons c line ih =>
    obtain ⟨other, level⟩ := not_or.mp (mt List.mem_cons.mpr level)
    rw [List.cons_append, lines, if_neg (Ne.symm other), ih level]

/-- A text without a newline is one line. -/
theorem lines_of_level {text : List Char} (level : '\n' ∉ text) : lines text = [text] := by
  induction text with
  | nil => rfl
  | cons c text ih =>
    obtain ⟨other, level⟩ := not_or.mp (mt List.mem_cons.mpr level)
    rw [lines, if_neg (Ne.symm other), ih level]

/-- The first line ends in front of the first newline. -/
theorem headD_lines (text : List Char) : (lines text).headD [] = text.takeWhile (· ≠ '\n') := by
  induction text with
  | nil => rfl
  | cons c rest ih =>
    by_cases newline : c = '\n'
    · rw [lines, if_pos newline, List.headD_cons, List.takeWhile_cons_of_neg (by simpa using newline)]
    · obtain ⟨first, more, pieces⟩ := List.exists_cons_of_ne_nil (lines_ne_nil rest)
      rw [pieces, List.headD_cons] at ih
      rw [lines, if_neg newline, pieces, List.headD_cons, List.takeWhile_cons_of_pos (by simpa using newline), ih]

theorem lines_joinLines {pieces : List (List Char)} (filled : pieces ≠ []) (level : ∀ piece ∈ pieces, '\n' ∉ piece) :
    lines (joinLines pieces) = pieces := by
  induction pieces with
  | nil => exact absurd rfl filled
  | cons first pieces ih =>
    have level_first : '\n' ∉ first := level first List.mem_cons_self
    by_cases alone : pieces = []
    · subst alone
      exact lines_of_level level_first
    · rw [joinLines_cons_of_ne_nil first alone, lines_front level_first,
        ih alone fun piece member => level piece (List.mem_cons_of_mem _ member)]

/-- Every text has a last line. -/
theorem exists_lines_eq_concat (text : List Char) : ∃ above last, lines text = above ++ [last] := by
  obtain ⟨above, last, pieces⟩ := (List.eq_nil_or_concat (lines text)).resolve_left (lines_ne_nil text)
  exact ⟨above, last, pieces.trans List.concat_eq_append⟩

/-- Where joined lines meet, two lines become one. -/
theorem joinLines_append (above below : List (List Char)) (last first : List Char) :
    joinLines (above ++ [last]) ++ joinLines (first :: below) = joinLines (above ++ (last ++ first) :: below) := by
  induction above with
  | nil => cases below <;> simp [joinLines]
  | cons piece above ih =>
    have ends : above ++ [last] ≠ [] := List.append_ne_nil_of_right_ne_nil _ (List.cons_ne_nil last [])
    have continues : above ++ (last ++ first) :: below ≠ [] :=
      List.append_ne_nil_of_right_ne_nil _ (List.cons_ne_nil _ below)
    rw [List.cons_append, List.cons_append, joinLines_cons_of_ne_nil piece ends,
      joinLines_cons_of_ne_nil piece continues, ← ih, List.append_assoc, List.cons_append]

theorem lines_append {left right last first : List Char} {above below : List (List Char)}
    (upper : lines left = above ++ [last]) (lower : lines right = first :: below) :
    lines (left ++ right) = above ++ (last ++ first) :: below := by
  have level_upper : ∀ piece ∈ above ++ [last], '\n' ∉ piece := fun piece member =>
    newline_notMem_of_mem_lines (upper ▸ member)
  have level_lower : ∀ piece ∈ first :: below, '\n' ∉ piece := fun piece member =>
    newline_notMem_of_mem_lines (lower ▸ member)
  rw [← joinLines_lines left, ← joinLines_lines right, upper, lower, joinLines_append]
  apply lines_joinLines (List.append_ne_nil_of_right_ne_nil _ (List.cons_ne_nil _ below))
  intro piece member
  rcases List.mem_append.mp member with member | member
  · exact level_upper piece (List.mem_append_left _ member)
  · rcases List.mem_cons.mp member with rfl | member
    · intro newline
      rcases List.mem_append.mp newline with newline | newline
      · exact level_upper last (List.mem_append_right _ List.mem_cons_self) newline
      · exact level_lower first List.mem_cons_self newline
    · exact level_lower piece (List.mem_cons_of_mem _ member)

/-- A newline between two texts keeps their lines apart. -/
theorem lines_append_newline (left right : List Char) : lines (left ++ '\n' :: right) = lines left ++ lines right := by
  obtain ⟨above, last, upper⟩ := exists_lines_eq_concat left
  have lower : lines ('\n' :: right) = [] :: lines right := lines_front List.not_mem_nil right
  rw [lines_append upper lower, upper, List.append_nil, List.append_assoc]
  rfl

/-- Each of the lines that end in a newline is a line of the text. -/
theorem mem_lines_of_mem {pieces : List (List Char)} (level : ∀ piece ∈ pieces, '\n' ∉ piece) {line : List Char}
    (member : line ∈ pieces) : line ∈ lines (joinLines pieces ++ ['\n']) := by
  rw [lines_append_newline, lines_joinLines (List.ne_nil_of_mem member) level]
  exact List.mem_append_left _ member

theorem isBlankText_append (left right : List Char) :
    isBlankText (left ++ right) = (isBlankText left && isBlankText right) :=
  List.all_append

theorem isBlankText_joinLines (pieces : List (List Char)) : isBlankText (joinLines pieces) = pieces.all isBlankText := by
  induction pieces with
  | nil => rfl
  | cons first pieces ih =>
    by_cases alone : pieces = []
    · subst alone
      simp [joinLines]
    · have newline (rest : List Char) : isBlankText ('\n' :: rest) = isBlankText rest := rfl
      rw [joinLines_cons_of_ne_nil first alone, isBlankText_append, newline, ih, List.all_cons]

theorem isBlankText_eq_all_lines (text : List Char) : isBlankText text = (lines text).all isBlankText := by
  rw [← isBlankText_joinLines, joinLines_lines]

/-- A text with a visible line is not blank. -/
theorem isBlankText_eq_false_iff {text : List Char} :
    isBlankText text = false ↔ ∃ line ∈ lines text, isBlankText line = false := by
  rw [isBlankText_eq_all_lines, List.all_eq_false]
  simp only [Bool.not_eq_true]

/-- Where blanks stand on the last line, a line that is not blank stands above it. -/
theorem mem_dropLast_of_visible {pieces : List (List Char)} {line : List Char}
    (alone : isBlankText (pieces.getLastD []) = true) (member : line ∈ pieces) (seen : isBlankText line = false) :
    line ∈ pieces.dropLast := by
  obtain rfl | ⟨above, last, rfl⟩ := List.eq_nil_or_concat pieces
  · cases member
  · rw [List.concat_eq_append] at alone member ⊢
    rw [List.getLastD_concat] at alone
    rw [List.dropLast_concat]
    rcases List.mem_append.mp member with upper | lowest
    · exact upper
    · rw [List.mem_singleton.mp lowest, alone] at seen
      cases seen

end EditorAssist.Text

import EditorAssist.Payload.Types
import EditorAssist.Text.Lines

/-!
# Walking through a text by position

A position is reached by walking: a newline leads to the start of the next line, every other
character one column on. No walk comes back to a position it has left, so a position that a text
reaches marks one place in it, and `splice` replaces what stands between two such places.
-/

namespace EditorAssist.Text

open EditorAssist.Payload

/-- The position one character further on. -/
def stepOver (position : Position) (c : Char) : Position :=
  if c = '\n' then ⟨position.line + 1, 0⟩ else ⟨position.line, position.character + 1⟩

/-- The position to which a text leads from `start`. -/
def walk (start : Position) (text : List Char) : Position := text.foldl stepOver start

/-- Where every text starts. -/
def origin : Position := ⟨0, 0⟩

/-- The number of characters between `current` and a position further on in the text; the rest of
the text when it does not come to that position. -/
def distance (target : Position) : (current : Position) → (text : List Char) → Nat
  | _, [] => 0
  | current, c :: rest =>
    if current = target then 0 else distance target (stepOver current c) rest + 1

/-- The text with the edit's range replaced by its new text. -/
def splice (text : List Char) (edit : TextEdit) : List Char :=
  text.take (distance edit.range.start origin text) ++ edit.newText.toList
    ++ text.drop (distance edit.range.stop origin text)

section Walking

variable {start : Position} {text : List Char}

@[simp] theorem walk_nil : walk start [] = start := rfl

@[simp] theorem walk_cons {c : Char} : walk start (c :: text) = walk (stepOver start c) text := rfl

@[simp] theorem walk_append {more : List Char} : walk start (text ++ more) = walk (walk start text) more :=
  List.foldl_append

theorem stepOver_newline : stepOver start '\n' = ⟨start.line + 1, 0⟩ := rfl

theorem stepOver_of_ne {c : Char} (other : c ≠ '\n') :
    stepOver start c = ⟨start.line, start.character + 1⟩ :=
  if_neg other

/-- Within a line a walk only counts columns. -/
theorem walk_of_newline_notMem (level : '\n' ∉ text) :
    walk start text = ⟨start.line, start.character + text.length⟩ := by
  induction text generalizing start with
  | nil => simp
  | cons c rest ih =>
    obtain ⟨other, level⟩ := not_or.mp (mt List.mem_cons.mpr level)
    rw [walk_cons, stepOver_of_ne (Ne.symm other), ih level]
    simp only [List.length_cons, Int.natCast_add, Int.natCast_one, Position.mk.injEq, true_and]
    omega

/-- A walk goes one line down for each newline. -/
theorem walk_line (start : Position) (text : List Char) :
    (walk start text).line = start.line + text.count '\n' := by
  induction text generalizing start with
  | nil => simp
  | cons c rest ih =>
    rw [walk_cons, ih]
    by_cases newline : c = '\n'
    · subst newline
      rw [stepOver_newline, List.count_cons_self]
      simp only [Int.natCast_add, Int.natCast_one]
      omega
    · rw [stepOver_of_ne newline, List.count_cons_of_ne newline]

/-- No walk comes back to where it started. -/
theorem walk_ne_start (moves : text ≠ []) : walk start text ≠ start := by
  intro back
  by_cases newline : '\n' ∈ text
  · have down := walk_line start text
    have counted := List.count_pos_iff.mpr newline
    rw [back] at down
    omega
  · rw [walk_of_newline_notMem newline] at back
    have columns := congrArg Position.character back
    have long := List.length_pos_iff.mpr moves
    simp only at columns
    omega

/-- The place of a position to which the text leads. -/
theorem distance_walk (start : Position) (text more : List Char) :
    distance (walk start text) start (text ++ more) = text.length := by
  induction text generalizing start with
  | nil => cases more <;> simp [distance]
  | cons c rest ih =>
    have further : start ≠ walk start (c :: rest) := (walk_ne_start (List.cons_ne_nil c rest)).symm
    rw [List.cons_append, distance, if_neg further, walk_cons, ih, List.length_cons]

/-- A text replaced between two positions that lie `text` and `text ++ gap` into it. -/
theorem splice_walk (gap more : List Char) (newText : String) :
    splice (text ++ gap ++ more) ⟨⟨walk origin text, walk origin (text ++ gap)⟩, newText⟩ =
      text ++ newText.toList ++ more := by
  have opens := distance_walk origin text (gap ++ more)
  have closes := distance_walk origin (text ++ gap) more
  rw [← List.append_assoc] at opens
  rw [splice, opens, closes, List.append_assoc text gap more, List.take_left' rfl,
    ← List.append_assoc text gap more, List.drop_left' rfl]

end Walking

/-- Joined lines lead to the end of the last one. -/
theorem walk_joinLines (line : Int) {above : List (List Char)} {last : List Char}
    (level : ∀ piece ∈ above, '\n' ∉ piece) (level_last : '\n' ∉ last) :
    walk ⟨line, 0⟩ (joinLines (above ++ [last])) = ⟨line + above.length, last.length⟩ := by
  induction above generalizing line with
  | nil => rw [List.nil_append, joinLines, walk_of_newline_notMem level_last]; simp
  | cons first above ih =>
    have level_first : '\n' ∉ first := level first List.mem_cons_self
    have continues : above ++ [last] ≠ [] := by simp
    rw [List.cons_append, joinLines_cons_of_ne_nil first continues, walk_append,
      walk_of_newline_notMem level_first, walk_cons, stepOver_newline,
      ih _ fun piece member => level piece (List.mem_cons_of_mem _ member)]
    simp only [List.length_cons, Int.natCast_add, Int.natCast_one, Position.mk.injEq, and_true]
    omega

/-- A text leads to its last line and to the end of that. -/
theorem walk_of_lines {text last : List Char} {above : List (List Char)} (pieces : lines text = above ++ [last]) :
    walk origin text = ⟨above.length, last.length⟩ := by
  have level : ∀ piece ∈ above ++ [last], '\n' ∉ piece := fun piece member =>
    newline_notMem_of_mem_lines (pieces ▸ member)
  have walked := walk_joinLines 0 (fun piece member => level piece (List.mem_append_left _ member))
    (level last (List.mem_append_right _ List.mem_cons_self))
  rw [← pieces, joinLines_lines, Int.zero_add] at walked
  exact walked

/-- Joined lines cut inside one of them. -/
theorem joinLines_cut (above below : List (List Char)) (left right : List Char) :
    joinLines (above ++ (left ++ right) :: below) =
      joinLines (above ++ [left]) ++ right ++ (if below = [] then [] else '\n' :: joinLines below) := by
  induction above with
  | nil =>
    cases below with
    | nil => simp [joinLines]
    | cons next others => simp [joinLines]
  | cons first above ih =>
    have continues : above ++ (left ++ right) :: below ≠ [] := by simp
    have ends : above ++ [left] ≠ [] := by simp
    rw [List.cons_append, List.cons_append, joinLines_cons_of_ne_nil first continues,
      joinLines_cons_of_ne_nil first ends, ih]
    simp only [List.append_assoc, List.cons_append]

end EditorAssist.Text

import EditorAssist.Proofs.Text.Lines
import EditorAssist.Proofs.Text.Trim
import EditorAssist.Text.Indent
import Mathlib.Data.List.Forall2
import Mathlib.Data.List.TakeWhile

/-!
# Indented texts

Indenting a text moves each of its visible lines to the right, by as many spaces, and leaves its blank lines as they
are. So the padding of the text grows by as much (`padding_pad`), indenting twice adds up (`pad_pad`), and the text comes
back when the spaces are taken off its visible lines (`unpad_pad`). Trimming moves the first visible line to the margin
and leaves the others where they are (`visibleLines_trim`).
-/

namespace EditorAssist.Text

/-! ## Visible lines -/

section Visible

/-- The lines of a text that are not blank, in order. -/
def visibleLines (text : List Char) : List (List Char) := (lines text).filter (!isBlankText ·)

/-- What a line shows, without its indentation and the blanks at its end. -/
def visiblePart (line : List Char) : List Char := dropEndWhile isBlank (line.dropWhile isIndent)

variable {text line indent rest : List Char} {c : Char}

theorem padding_eq (text : List Char) : padding text = ((visibleLines text).map indentation).min?.getD 0 := rfl

theorem mem_visibleLines : line ∈ visibleLines text ↔ line ∈ lines text ∧ isBlankText line = false := by
  rw [visibleLines, List.mem_filter, Bool.not_eq_true']

theorem visibleLines_eq_nil_iff : visibleLines text = [] ↔ isBlankText text = true := by
  rw [visibleLines, List.filter_eq_nil_iff, isBlankText_eq_all_lines, List.all_eq_true]
  simp only [Bool.not_eq_true', Bool.not_eq_false]

theorem indentation_append (indents : ∀ d ∈ indent, isIndent d = true) (line : List Char) :
    indentation (indent ++ line) = indent.length + indentation line := by
  rw [indentation, List.takeWhile_append_of_pos indents, List.length_append, indentation]

theorem visiblePart_append (indents : ∀ d ∈ indent, isIndent d = true) (line : List Char) :
    visiblePart (indent ++ line) = visiblePart line := by
  rw [visiblePart, List.dropWhile_append_of_pos indents, visiblePart]

/-- What stands behind the indentation of a line has none. -/
theorem indentation_of_stop (stop : isIndent c = false) (rest : List Char) : indentation (c :: rest) = 0 := by
  rw [indentation, List.takeWhile_cons_of_neg (by rw [stop]; exact Bool.false_ne_true), List.length_nil]

/-- A line that is not blank, behind its indentation. -/
theorem exists_indented (seen : isBlankText line = false) :
    ∃ indent c rest, line = indent ++ c :: rest ∧ (∀ d ∈ indent, isIndent d = true) ∧ isIndent c = false := by
  have split := List.takeWhile_append_dropWhile (p := isIndent) (l := line)
  cases behind : line.dropWhile isIndent with
  | nil =>
    have blank : isBlankText line = true := List.all_eq_true.mpr fun d member =>
      isBlank_of_isIndent (List.dropWhile_eq_nil_iff.mp behind d member)
    rw [blank] at seen
    cases seen
  | cons c rest =>
    refine ⟨line.takeWhile isIndent, c, rest, (behind ▸ split).symm, List.all_eq_true.mp List.all_takeWhile, ?_⟩
    exact kept_of_head?_dropWhile line (by rw [behind, List.head?_cons])

/-- Blanks behind a visible line change neither what it shows nor where. -/
theorem shown_append_blank (seen : isBlankText line = false) (blank : isBlankText rest = true) :
    visiblePart (line ++ rest) = visiblePart line ∧ indentation (line ++ rest) = indentation line := by
  obtain ⟨indent, c, tail, rfl, indents, stop⟩ := exists_indented seen
  have blanks : ∀ d ∈ rest, isBlank d = true := List.all_eq_true.mp blank
  have more : ¬isIndent c = true := by rw [stop]; exact Bool.false_ne_true
  rw [List.append_assoc, visiblePart_append indents, visiblePart_append indents, indentation_append indents,
    indentation_append indents, List.cons_append, indentation_of_stop stop, indentation_of_stop stop]
  refine ⟨?_, rfl⟩
  rw [visiblePart, visiblePart, List.dropWhile_cons_of_neg more, List.dropWhile_cons_of_neg more, ← List.cons_append,
    dropEndWhile_append_of_all blanks]

end Visible

/-! ## Indenting -/

section Padding

variable {amount : Nat} {text line : List Char}

/-- Some spaces. -/
theorem isIndent_of_mem_replicate : ∀ d ∈ List.replicate amount ' ', isIndent d = true := by
  intro d member
  rw [List.eq_of_mem_replicate member]
  rfl

theorem isBlankText_padLine (amount : Nat) (line : List Char) :
    isBlankText (padLine amount line) = isBlankText line := by
  unfold padLine
  split
  · rfl
  · have spaces : isBlankText (List.replicate amount ' ') = true := List.all_eq_true.mpr fun d member =>
      isBlank_of_isIndent (isIndent_of_mem_replicate d member)
    rw [isBlankText_append, spaces, Bool.true_and]

theorem padLine_of_blank (blank : isBlankText line = true) : padLine amount line = line := if_pos blank

theorem padLine_of_visible (seen : isBlankText line = false) :
    padLine amount line = List.replicate amount ' ' ++ line := by
  rw [padLine, if_neg (by rw [seen]; exact Bool.false_ne_true)]

theorem lines_pad (amount : Nat) (text : List Char) : lines (pad amount text) = (lines text).map (padLine amount) := by
  refine lines_joinLines (mt List.map_eq_nil_iff.mp (lines_ne_nil text)) ?_
  intro piece member
  obtain ⟨line, own, rfl⟩ := List.mem_map.mp member
  have level := newline_notMem_of_mem_lines own
  unfold padLine
  split
  · exact level
  · rw [List.mem_append, not_or]
    exact ⟨fun space => absurd (List.eq_of_mem_replicate space) (by decide), level⟩

theorem visibleLines_pad (amount : Nat) (text : List Char) :
    visibleLines (pad amount text) = (visibleLines text).map (List.replicate amount ' ' ++ ·) := by
  have same : (fun line => !isBlankText (padLine amount line)) = fun line => !isBlankText line :=
    funext fun line => by rw [isBlankText_padLine]
  rw [visibleLines, lines_pad, List.filter_map, Function.comp_def, same, ← visibleLines]
  exact List.map_congr_left fun line member => padLine_of_visible (mem_visibleLines.mp member).2

theorem visiblePart_visibleLines_pad (amount : Nat) (text : List Char) :
    (visibleLines (pad amount text)).map visiblePart = (visibleLines text).map visiblePart := by
  rw [visibleLines_pad, List.map_map]
  exact List.map_congr_left fun line _ => visiblePart_append isIndent_of_mem_replicate line

theorem indentation_visibleLines_pad (amount : Nat) (text : List Char) :
    (visibleLines (pad amount text)).map indentation = ((visibleLines text).map indentation).map (amount + ·) := by
  rw [visibleLines_pad, List.map_map, List.map_map]
  refine List.map_congr_left fun line _ => ?_
  rw [Function.comp_apply, indentation_append isIndent_of_mem_replicate, List.length_replicate, Function.comp_apply]

theorem min?_map_add (amount : Nat) (numbers : List Nat) :
    (numbers.map (amount + ·)).min? = numbers.min?.map (amount + ·) := by
  cases least : numbers.min? with
  | none =>
    rw [List.min?_eq_none_iff.mp least]
    rfl
  | some n =>
    obtain ⟨member, lower⟩ := List.min?_eq_some_iff.mp least
    refine List.min?_eq_some_iff.mpr ⟨List.mem_map_of_mem member, ?_⟩
    intro m there
    obtain ⟨k, own, rfl⟩ := List.mem_map.mp there
    exact Nat.add_le_add_left (lower k own) amount

/-- A text with a visible line is moved to the right by as much as it is indented. -/
theorem padding_pad (seen : isBlankText text = false) : padding (pad amount text) = amount + padding text := by
  rw [padding_eq, padding_eq, indentation_visibleLines_pad, min?_map_add]
  cases least : ((visibleLines text).map indentation).min? with
  | none =>
    rw [List.min?_eq_none_iff, List.map_eq_nil_iff, visibleLines_eq_nil_iff, seen] at least
    cases least
  | some n => rfl

theorem isBlankText_pad (amount : Nat) (text : List Char) : isBlankText (pad amount text) = isBlankText text := by
  have same : isBlankText ∘ padLine amount = isBlankText := funext (isBlankText_padLine amount)
  rw [isBlankText_eq_all_lines, lines_pad, List.all_map, same, ← isBlankText_eq_all_lines]

/-- A text without a visible line has no padding. -/
theorem padding_of_blank (blank : isBlankText text = true) : padding text = 0 := by
  rw [padding_eq, visibleLines_eq_nil_iff.mpr blank]
  rfl

theorem padLine_padLine (m n : Nat) (line : List Char) : padLine n (padLine m line) = padLine (m + n) line := by
  cases seen : isBlankText line with
  | true => rw [padLine_of_blank seen, padLine_of_blank seen, padLine_of_blank seen]
  | false =>
    have still : isBlankText (padLine m line) = false := (isBlankText_padLine m line).trans seen
    rw [padLine_of_visible still, padLine_of_visible seen, padLine_of_visible seen, ← List.append_assoc,
      List.replicate_append_replicate, Nat.add_comm]

theorem pad_pad (m n : Nat) (text : List Char) : pad n (pad m text) = pad (m + n) text := by
  have same : padLine n ∘ padLine m = padLine (m + n) := funext (padLine_padLine m n)
  rw [pad, lines_pad, List.map_map, same, ← pad]

theorem pad_append_newline (amount : Nat) (text : List Char) :
    pad amount (text ++ ['\n']) = pad amount text ++ ['\n'] := by
  obtain ⟨above, last, pieces⟩ := exists_lines_eq_concat text
  have empty : lines [] = [[]] := rfl
  have level : padLine amount [] = [] := rfl
  rw [pad, pad, lines_append_newline, pieces, empty, List.map_append, List.map_append, List.map_singleton,
    List.map_singleton, level]
  have joined := joinLines_append (above.map (padLine amount)) [[]] (padLine amount last) []
  rw [List.append_nil] at joined
  rw [List.append_assoc]
  exact joined.symm

/-- What indenting makes of a line: a blank line stays as it is, any other one stands behind the spaces and is still
not blank. -/
def IsPadded (amount : Nat) (line padded : List Char) : Prop :=
  if isBlankText line then padded = line
  else padded = List.replicate amount ' ' ++ line ∧ isBlankText padded = false

theorem padLine_isPadded (amount : Nat) (line : List Char) : IsPadded amount line (padLine amount line) := by
  unfold IsPadded
  split
  · next blank => exact padLine_of_blank blank
  · next shows =>
    have seen : isBlankText line = false := Bool.eq_false_iff.mpr shows
    exact ⟨padLine_of_visible seen, (isBlankText_padLine amount line).trans seen⟩

/-- Indenting a text twice is indenting it once, by both amounts together. The padding of a text with a visible line
grows by the amount, that of any other stays zero. No line is lost or added, and each is indented in its place. -/
theorem padding_is_additive (m n : Nat) (text : List Char) :
    pad n (pad m text) = pad (m + n) text ∧
      padding (pad n text) = (if ∃ line ∈ lines text, isBlankText line = false then padding text + n else 0) ∧
      (lines (pad n text)).length = (lines text).length ∧
      List.Forall₂ (IsPadded n) (lines text) (lines (pad n text)) := by
  refine ⟨pad_pad m n text, ?_, ?_, ?_⟩
  · split
    · next shows => rw [padding_pad (isBlankText_eq_false_iff.mpr shows), Nat.add_comm]
    · next hidden =>
      have blank : isBlankText text = true := by
        rw [← isBlankText_eq_false_iff, Bool.not_eq_false] at hidden
        exact hidden
      exact padding_of_blank ((isBlankText_pad n text).trans blank)
  · rw [lines_pad, List.length_map]
  · rw [lines_pad, List.forall₂_map_right_iff, List.forall₂_same]
    exact fun line _ => padLine_isPadded n line

/-- A line of wide spaces is blank and stays in its place; a tab counts like a space. -/
example :
    let text := ['\t', 'a', '\n', '\u3000', '\n', ' ', ' ', 'b']
    pad 2 text = [' ', ' ', '\t', 'a', '\n', '\u3000', '\n', ' ', ' ', ' ', ' ', 'b'] ∧ padding (pad 2 text) = 3 := by
  decide

/-! ### Taking the indentation back -/

/-- Drops the first characters of a line when it is visible. -/
def unpadLine (amount : Nat) (line : List Char) : List Char := if isBlankText line then line else line.drop amount

/-- Drops as many characters at the beginning of every visible line. -/
def unpad (amount : Nat) (text : List Char) : List Char := joinLines ((lines text).map (unpadLine amount))

theorem unpadLine_padLine (amount : Nat) (line : List Char) : unpadLine amount (padLine amount line) = line := by
  rw [unpadLine, isBlankText_padLine]
  cases seen : isBlankText line with
  | true => rw [if_pos rfl, padLine_of_blank seen]
  | false => rw [if_neg Bool.false_ne_true, padLine_of_visible seen, List.drop_left' List.length_replicate]

theorem unpad_pad (amount : Nat) (text : List Char) : unpad amount (pad amount text) = text := by
  have same : unpadLine amount ∘ padLine amount = id := funext (unpadLine_padLine amount)
  rw [unpad, lines_pad, List.map_map, same, List.map_id, joinLines_lines]

end Padding

/-! ## Trimming -/

section Trimming

variable {text blank indent line : List Char} {c : Char}

/-- Blanks behind a text change nothing of its visible lines but the end of the last one. -/
theorem shown_append (kept : isBlank c = false) (blanks : isBlankText blank = true) (text : List Char) :
    (visibleLines (text ++ [c] ++ blank)).map visiblePart = (visibleLines (text ++ [c])).map visiblePart ∧
      (visibleLines (text ++ [c] ++ blank)).map indentation = (visibleLines (text ++ [c])).map indentation := by
  have ends : c ≠ '\n' := by
    rintro rfl
    cases kept
  obtain ⟨above, last, upper⟩ := exists_lines_eq_concat text
  obtain ⟨first, below, lower⟩ := List.exists_cons_of_ne_nil (lines_ne_nil blank)
  have pieces : lines (text ++ [c]) = above ++ [last ++ [c]] :=
    lines_append upper (lines_of_level (mt List.mem_singleton.mp ends.symm))
  have hidden : (first :: below).all isBlankText = true := by rw [← lower, ← isBlankText_eq_all_lines, blanks]
  rw [List.all_cons, Bool.and_eq_true] at hidden
  have seen : isBlankText (last ++ [c]) = false := by
    rw [isBlankText_append]
    simp only [isBlankText, List.all_cons, List.all_nil, kept, Bool.false_and, Bool.and_false]
  have longer : isBlankText (last ++ [c] ++ first) = false := by rw [isBlankText_append, seen, Bool.false_and]
  have none : below.filter (!isBlankText ·) = [] := by
    rw [List.filter_eq_nil_iff]
    intro line member
    rw [List.all_eq_true.mp hidden.2 line member]
    exact Bool.false_ne_true
  obtain ⟨shows, stands⟩ := shown_append_blank seen hidden.1
  rw [visibleLines, lines_append pieces lower, visibleLines, pieces]
  simp only [List.filter_append, List.filter_cons, List.filter_nil, seen, longer, none, Bool.not_false, ↓reduceIte,
    List.map_append, List.map_cons, List.map_nil, shows, stands, and_self]

/-- Blanks in front of a text move its first visible line away from the margin. -/
theorem visibleLines_of_blank_append (kept : isBlank c = false) (blanks : isBlankText blank = true) (text : List Char) :
    ∃ indent line more, isBlankText indent = true ∧ visibleLines (c :: text) = (c :: line) :: more ∧
      visibleLines (blank ++ c :: text) = (indent ++ c :: line) :: more := by
  have starts : c ≠ '\n' := by
    rintro rfl
    cases kept
  obtain ⟨above, last, upper⟩ := exists_lines_eq_concat blank
  obtain ⟨line, below, lower⟩ := List.exists_cons_of_ne_nil (lines_ne_nil text)
  have pieces : lines (c :: text) = (c :: line) :: below := by rw [lines, if_neg starts, lower]
  have hidden : (above ++ [last]).all isBlankText = true := by rw [← upper, ← isBlankText_eq_all_lines, blanks]
  rw [List.all_append, Bool.and_eq_true, List.all_cons, Bool.and_eq_true] at hidden
  have none : above.filter (!isBlankText ·) = [] := by
    rw [List.filter_eq_nil_iff]
    intro line member
    rw [List.all_eq_true.mp hidden.1 line member]
    exact Bool.false_ne_true
  have seen (front : List Char) : isBlankText (front ++ c :: line) = false := by
    rw [isBlankText_append]
    simp only [isBlankText, List.all_cons, kept, Bool.false_and, Bool.and_false]
  refine ⟨last, line, below.filter (!isBlankText ·), hidden.2.1, ?_, ?_⟩
  · rw [visibleLines, pieces, List.filter_cons_of_pos (by rw [← List.nil_append (c :: line), seen]; rfl)]
  · rw [visibleLines, lines_append upper pieces, List.filter_append, none, List.nil_append,
      List.filter_cons_of_pos (by rw [seen]; rfl)]

/-- A text that starts at the margin has no padding. -/
theorem padding_of_visible (kept : isBlank c = false) (text : List Char) : padding (c :: text) = 0 := by
  have nothing : isBlankText [] = true := rfl
  obtain ⟨-, line, more, -, margin, -⟩ := visibleLines_of_blank_append kept nothing text
  have least : ((visibleLines (c :: text)).map indentation).min? = some 0 := by
    refine List.min?_eq_some_iff.mpr ⟨?_, fun _ _ => Nat.zero_le _⟩
    rw [margin, List.map_cons, indentation_of_stop (isIndent_of_visible kept)]
    exact List.mem_cons_self
  rw [padding_eq, least, Option.getD_some]

/-- A trimmed text starts and ends with visible characters. -/
theorem trimmed_of_visible (seen : isBlankText text = false) :
    ∃ before after c d rest most, text = before ++ trim text ++ after ∧ isBlankText before = true ∧
      isBlankText after = true ∧ trim text = c :: rest ∧ trim text = most ++ [d] ∧ isBlank c = false ∧
      isBlank d = false := by
  obtain ⟨before, after, split, leading, trailing, ends⟩ := exists_trimmed isBlank text
  rw [← trim] at split ends
  have leads : isBlankText before = true := List.all_eq_true.mpr leading
  have trails : isBlankText after = true := List.all_eq_true.mpr trailing
  have filled : trim text ≠ [] := by
    intro nothing
    rw [split, nothing, isBlankText_append, isBlankText_append, leads, trails] at seen
    cases seen
  obtain ⟨c, d, begins, finishes, keptFirst, keptLast⟩ := ends.resolve_left filled
  obtain ⟨rest, front⟩ := List.head?_eq_some_iff.mp begins
  obtain ⟨most, back⟩ := List.getLast?_eq_some_iff.mp finishes
  exact ⟨before, after, c, d, rest, most, split, leads, trails, front, back, keptFirst, keptLast⟩

/-- Behind a trimmed text, blanks do not show. -/
theorem shown_trim_append (seen : isBlankText text = false) (blanks : isBlankText blank = true) :
    (visibleLines (trim text ++ blank)).map visiblePart = (visibleLines (trim text)).map visiblePart ∧
      (visibleLines (trim text ++ blank)).map indentation = (visibleLines (trim text)).map indentation := by
  obtain ⟨-, -, -, d, -, most, -, -, -, -, back, -, kept⟩ := trimmed_of_visible seen
  rw [back]
  exact shown_append kept blanks most

/-- The visible lines are indented with spaces only: no other blank stands in front of what they show. -/
def IndentedWithSpaces (text : List Char) : Prop :=
  ∀ line ∈ visibleLines text, ∀ c ∈ (line.dropWhile (· == ' ')).head?, isBlank c = false

instance (text : List Char) : Decidable (IndentedWithSpaces text) :=
  decidable_of_iff ((visibleLines text).all fun line => (line.dropWhile (· == ' ')).head?.all (!isBlank ·)) <| by
    simp [IndentedWithSpaces, Option.all_eq_true]

/-- Blanks in front of a line that is indented with spaces are spaces. -/
theorem isIndent_of_spaces (blanks : isBlankText indent = true)
    (spaces : ∀ d ∈ ((indent ++ line).dropWhile (· == ' ')).head?, isBlank d = false) :
    ∀ d ∈ indent, isIndent d = true := by
  cases behind : indent.dropWhile (· == ' ') with
  | nil =>
    intro d member
    rw [beq_iff_eq.mp (List.dropWhile_eq_nil_iff.mp behind d member)]
    rfl
  | cons d rest =>
    have within : d ∈ indent := (List.dropWhile_sublist _).subset (behind ▸ List.mem_cons_self)
    have visible := spaces d (by rw [List.dropWhile_append, behind]; rfl)
    rw [List.all_eq_true.mp blanks d within] at visible
    cases visible

/-- Trimming a text that is indented with spaces moves its first visible line to the margin, and nothing else. -/
theorem visibleLines_trim (spaces : IndentedWithSpaces text) (seen : isBlankText text = false) :
    (visibleLines (trim text)).map visiblePart = (visibleLines text).map visiblePart ∧
      (visibleLines (trim text)).map indentation = 0 :: ((visibleLines text).map indentation).tail := by
  obtain ⟨before, after, c, d, rest, most, split, leads, trails, front, back, keptFirst, keptLast⟩ :=
    trimmed_of_visible seen
  have behind := shown_append keptLast trails most
  rw [← back, front] at behind
  have whole : text = before ++ c :: (rest ++ after) := by
    rw [split, front, List.append_assoc, List.cons_append]
  obtain ⟨indent, line, more, blank, margin, moved⟩ := visibleLines_of_blank_append keptFirst leads (rest ++ after)
  rw [← whole] at moved
  have indents := isIndent_of_spaces blank (spaces _ (moved ▸ List.mem_cons_self))
  have stop := indentation_of_stop (isIndent_of_visible keptFirst) line
  rw [front, moved, ← behind.1, ← behind.2, List.cons_append, margin]
  simp only [List.map_cons, List.tail_cons, visiblePart_append indents, stop, and_self]

end Trimming

end EditorAssist.Text

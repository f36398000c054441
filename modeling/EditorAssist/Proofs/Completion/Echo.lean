import EditorAssist.Proofs.Completion.Insertion

/-!
# Echoes of the cursor line

A suggestion that repeats the cursor line up to the cursor is one for what follows it. The repeated part is found
between trimmed texts: blanks at either end of the line, or around the rest, do not hide it.
-/

namespace EditorAssist.Completion

open EditorAssist.Text EditorAssist.Payload

section Echo

variable {line : List Char}

/-- Nothing is left of a text of blanks. -/
theorem blank_of_trim_eq_nil {text : List Char} (nothing : trim text = []) : ∀ c ∈ text, isBlank c = true := by
  obtain ⟨before, after, trimmed⟩ := exists_trimmed isBlank text
  rw [← trim, nothing] at trimmed
  intro c member
  rw [trimmed.split, List.append_nil] at member
  exact (List.mem_append.mp member).elim (trimmed.leading c) (trimmed.trailing c)

/-- A text behind the line is trimmed to the trimmed line and the trimmed text, with blanks between. -/
theorem trim_append (there : trim line ≠ []) (text : List Char) :
    ∃ gap, (∀ c ∈ gap, isBlank c = true) ∧ trim (line ++ text) = trim line ++ (gap ++ trim text) := by
  obtain ⟨before, after, typed⟩ := exists_trimmed isBlank line
  obtain ⟨before', after', rest⟩ := exists_trimmed isBlank text
  by_cases nothing : trim text = []
  · refine ⟨[], nofun, ?_⟩
    rw [nothing, List.append_nil]
    exact (typed.appendBlanks (blank_of_trim_eq_nil nothing)).eq.trans (List.append_nil _).symm
  · refine ⟨after ++ before', ?_, (typed.join rest there nothing).eq⟩
    exact fun c member => (List.mem_append.mp member).elim (typed.trailing c) (rest.leading c)

theorem trim_blank_append {blank : List Char} (blanks : ∀ c ∈ blank, isBlank c = true) (text : List Char) :
    trim (blank ++ text) = trim text := by
  obtain ⟨before, after, trimmed⟩ := exists_trimmed isBlank text
  exact (trimmed.prependBlanks blanks).eq

/-- What is inserted for a text behind the line is the text. -/
theorem insertion_of_echo (line text : List Char) : insertion (line ++ text) line = trim text := by
  by_cases nothing : trim line = []
  · rw [insertion_of_fresh (.inr nothing), trim_blank_append (blank_of_trim_eq_nil nothing)]
  · obtain ⟨gap, blanks, trimmed⟩ := trim_append nothing text
    rw [insertion_of_repeated trimmed, trim_blank_append blanks]
    exact trimBoth_idem isBlank text

end Echo

/-- An edit depends on the suggestion by what is inserted only. -/
theorem synthesize_congr {raw raw' : List Char} {context : CursorContext}
    (same : insertion raw context.lastLine = insertion raw' context.lastLine) (position : Position) :
    synthesize raw context position = synthesize raw' context position := by
  unfold synthesize
  rw [same]

/-- A suggestion that repeats the cursor line is worth what follows the repetition: that is what it inserts, and
unless the rest repeats the line once more the edits are the same. -/
theorem echoed_line_is_left_out (context : CursorContext) (position : Position) (text : List Char) :
    (synthesize (context.lastLine ++ text) context position).text = trim text ∧
      (¬trim context.lastLine <+: trim text ∨ trim context.lastLine = [] →
        synthesize (context.lastLine ++ text) context position = synthesize text context position) := by
  constructor
  · exact insertion_of_echo context.lastLine text
  · intro fresh
    refine synthesize_congr ?_ position
    rw [insertion_of_echo, insertion_of_fresh fresh]

/-- An indented `if`, which the suggestion repeats with other blanks. -/
theorem echoed_condition_is_left_out :
    let context := CursorContext.at_ ['\t', 'i', 'f', ' ', ')', '\n'] 0 4
    ¬trim context.lastLine <+: trim [' ', '(', 'x', ' '] ∧
      synthesize ['\t', 'i', 'f', ' ', ' ', '(', 'x', ' '] context ⟨0, 4⟩ =
        synthesize [' ', '(', 'x', ' '] context ⟨0, 4⟩ ∧
      (synthesize ['\t', 'i', 'f', ' ', ' ', '(', 'x', ' '] context ⟨0, 4⟩).text = ['(', 'x'] := by
  have fresh : ¬trim ['\t', 'i', 'f', ' '] <+: trim [' ', '(', 'x', ' '] := by decide
  obtain ⟨text, same⟩ := echoed_line_is_left_out (CursorContext.at_ ['\t', 'i', 'f', ' ', ')', '\n'] 0 4) ⟨0, 4⟩
    [' ', '(', 'x', ' ']
  exact ⟨fresh, same (.inl fresh), text⟩

end EditorAssist.Completion

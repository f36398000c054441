import EditorAssist.Text.Blank

/-!
# Trimming

Trimming stops at the first character on each side that is not to be dropped. A text that begins and
ends in such characters is found again between whatever blanks stand around it.
-/

namespace EditorAssist.Text

/-- What indents a line is blank. -/
theorem isBlank_of_isIndent {c : Char} (indents : isIndent c = true) : isBlank c = true := by
  simp only [isIndent, Bool.or_eq_true, decide_eq_true_eq] at indents
  rcases indents with rfl | rfl <;> decide

/-- A visible character indents nothing. -/
theorem isIndent_of_visible {c : Char} (kept : isBlank c = false) : isIndent c = false := by
  cases indents : isIndent c with
  | false => rfl
  | true =>
    rw [isBlank_of_isIndent indents] at kept
    cases kept

variable {p : Char → Bool}

theorem dropEndWhile_append_of_all {text tail : List Char} (dropped : ∀ c ∈ tail, p c = true) :
    dropEndWhile p (text ++ tail) = dropEndWhile p text := by
  have reversed : ∀ c ∈ tail.reverse, p c = true := fun c member => dropped c (List.mem_reverse.mp member)
  simp only [dropEndWhile, List.reverse_append, List.dropWhile_append_of_pos reversed]

theorem dropEndWhile_concat {text : List Char} {last : Char} (kept : p last = false) :
    dropEndWhile p (text ++ [last]) = text ++ [last] := by
  simp only [dropEndWhile, List.reverse_append, List.reverse_singleton, List.singleton_append]
  rw [List.dropWhile_cons_of_neg (by simp only [kept, Bool.false_eq_true, not_false_eq_true])]
  simp only [List.reverse_cons, List.reverse_reverse]

/-- A text whose ends are kept, between blanks. -/
theorem trimBoth_between {before inner after : List Char} {first last : Char}
    (leading : ∀ c ∈ before, p c = true) (trailing : ∀ c ∈ after, p c = true)
    (begins : inner.head? = some first) (ends : inner.getLast? = some last)
    (keptFirst : p first = false) (keptLast : p last = false) :
    trimBoth p (before ++ inner ++ after) = inner := by
  obtain ⟨rest, rfl⟩ := List.head?_eq_some_iff.mp begins
  have stops : (before ++ (first :: rest) ++ after).dropWhile p = first :: rest ++ after := by
    rw [List.append_assoc, List.dropWhile_append_of_pos leading, List.cons_append,
      List.dropWhile_cons_of_neg (by simp only [keptFirst, Bool.false_eq_true, not_false_eq_true])]
  rw [trimBoth, stops, dropEndWhile_append_of_all trailing]
  obtain ⟨front, split⟩ := List.getLast?_eq_some_iff.mp ends
  rw [split, dropEndWhile_concat keptLast]

theorem mem_dropWhile {text : List Char} {c : Char} (member : c ∈ text) (kept : p c = false) :
    c ∈ text.dropWhile p := by
  rw [← List.takeWhile_append_dropWhile (p := p) (l := text), List.mem_append] at member
  refine member.resolve_left fun leading => ?_
  rw [List.all_eq_true.mp List.all_takeWhile c leading] at kept
  cases kept

/-- A text with a character that is kept is not trimmed away. -/
theorem trimBoth_ne_nil {text : List Char} {c : Char} (member : c ∈ text) (kept : p c = false) :
    trimBoth p text ≠ [] := by
  have stays : c ∈ trimBoth p text := by
    rw [trimBoth, dropEndWhile, List.mem_reverse]
    exact mem_dropWhile (List.mem_reverse.mpr (mem_dropWhile member kept)) kept
  exact List.ne_nil_of_mem stays

/-- A text between what is trimmed off it: nothing is left of it, or its ends are kept. -/
structure Trimmed (p : Char → Bool) (text before inner after : List Char) : Prop where
  split : text = before ++ inner ++ after
  leading : ∀ c ∈ before, p c = true
  trailing : ∀ c ∈ after, p c = true
  ends : inner = [] ∨
    ∃ first last, inner.head? = some first ∧ inner.getLast? = some last ∧ p first = false ∧ p last = false

/-- What is left of a text is settled by what may be trimmed off. -/
theorem Trimmed.eq {text before inner after : List Char} (trimmed : Trimmed p text before inner after) :
    trimBoth p text = inner := by
  obtain ⟨rfl, leading, trailing, rfl | ⟨first, last, begins, ends, keptFirst, keptLast⟩⟩ := trimmed
  · have dropped : (before ++ [] ++ after).dropWhile p = [] := by
      rw [List.append_nil, List.dropWhile_append_of_pos leading, ← List.append_nil after,
        List.dropWhile_append_of_pos trailing, List.dropWhile_nil]
    rw [trimBoth, dropped]
    rfl
  · exact trimBoth_between leading trailing begins ends keptFirst keptLast

theorem kept_of_head?_dropWhile (text : List Char) {c : Char} (head : (text.dropWhile p).head? = some c) :
    p c = false := by
  have stopped := List.head?_dropWhile_not p text
  rw [head] at stopped
  exact stopped

/-- Every text is what is left of it when its end is trimmed, and what is trimmed off there. -/
theorem exists_dropEndWhile (p : Char → Bool) (text : List Char) :
    ∃ after, text = dropEndWhile p text ++ after ∧ (∀ c ∈ after, p c = true) ∧
      ∀ c ∈ (dropEndWhile p text).getLast?, p c = false := by
  have back := congrArg List.reverse (List.takeWhile_append_dropWhile (p := p) (l := text.reverse))
  rw [List.reverse_append, List.reverse_reverse] at back
  refine ⟨(text.reverse.takeWhile p).reverse, back.symm, ?_, ?_⟩
  · intro c member
    exact List.all_eq_true.mp List.all_takeWhile c (List.mem_reverse.mp member)
  · intro c last
    rw [dropEndWhile, List.getLast?_reverse] at last
    exact kept_of_head?_dropWhile text.reverse last

/-- Every text stands between what is trimmed off it. -/
theorem exists_trimmed (p : Char → Bool) (text : List Char) :
    ∃ before after, Trimmed p text before (trimBoth p text) after := by
  obtain ⟨after, split, trailing, last⟩ := exists_dropEndWhile p (text.dropWhile p)
  rw [← trimBoth] at split last
  refine ⟨text.takeWhile p, after, ?_, List.all_eq_true.mp List.all_takeWhile, trailing, ?_⟩
  · rw [List.append_assoc, ← split, List.takeWhile_append_dropWhile]
  · cases remains : trimBoth p text with
    | nil => exact .inl rfl
    | cons first more =>
      -- What is left starts where the text does once its front is trimmed.
      rw [remains] at split last
      have head : (text.dropWhile p).head? = some first := by rw [split, List.cons_append, List.head?_cons]
      have final := List.getLast?_eq_some_getLast (List.cons_ne_nil first more)
      exact .inr ⟨first, _, List.head?_cons, final, kept_of_head?_dropWhile text head, last _ final⟩

/-- Both ends of what is left of a text are kept. -/
theorem Trimmed.kept {text before inner after : List Char} (trimmed : Trimmed p text before inner after) :
    (∀ c ∈ inner.head?, p c = false) ∧ ∀ c ∈ inner.getLast?, p c = false := by
  rcases trimmed.ends with rfl | ⟨first, last, begins, ends, keptFirst, keptLast⟩
  · exact ⟨nofun, nofun⟩
  · rw [begins, ends]
    exact ⟨fun c same => Option.mem_some_iff.mp same ▸ keptFirst, fun c same => Option.mem_some_iff.mp same ▸ keptLast⟩

/-- A text whose start is kept is only trimmed at its end. -/
theorem trimBoth_of_head {text : List Char} (kept : ∀ c ∈ text.head?, p c = false) :
    trimBoth p text = dropEndWhile p text := by
  cases text with
  | nil => rfl
  | cons c rest =>
    have stays : ¬p c = true := by rw [kept c List.head?_cons]; exact Bool.false_ne_true
    rw [trimBoth, List.dropWhile_cons_of_neg stays]

/-- Nothing is trimmed off an end that is kept. -/
theorem dropEndWhile_of_getLast {text : List Char} (kept : ∀ c ∈ text.getLast?, p c = false) :
    dropEndWhile p text = text := by
  obtain rfl | ⟨front, last, rfl⟩ := List.eq_nil_or_concat text
  · rfl
  · rw [List.concat_eq_append] at kept ⊢
    exact dropEndWhile_concat (kept last List.getLast?_concat)

/-- The last character of what stands behind another text is the last one of both. -/
theorem getLast_append {front text : List Char} (kept : ∀ c ∈ (front ++ text).getLast?, p c = false) :
    ∀ c ∈ text.getLast?, p c = false := by
  intro c last
  refine kept c ?_
  rw [List.getLast?_append, Option.mem_def.mp last]
  rfl

/-- A text whose end is kept is only trimmed at its start. -/
theorem trimBoth_of_getLast {text : List Char} (kept : ∀ c ∈ text.getLast?, p c = false) :
    trimBoth p text = text.dropWhile p := by
  rw [← List.takeWhile_append_dropWhile (p := p) (l := text)] at kept
  exact dropEndWhile_of_getLast (getLast_append kept)

theorem isInfix_trimBoth (p : Char → Bool) (text : List Char) : trimBoth p text <:+: text := by
  obtain ⟨before, after, trimmed⟩ := exists_trimmed p text
  exact ⟨before, after, trimmed.split.symm⟩

/-- Nothing more is trimmed off a trimmed text. -/
theorem trimBoth_idem (p : Char → Bool) (text : List Char) : trimBoth p (trimBoth p text) = trimBoth p text := by
  obtain ⟨before, after, trimmed⟩ := exists_trimmed p text
  have bare : Trimmed p (trimBoth p text) [] (trimBoth p text) [] := ⟨by simp, by simp, by simp, trimmed.ends⟩
  exact bare.eq

section Behind

variable {text text' before inner after before' inner' after' : List Char}

theorem Trimmed.prependBlanks (trimmed : Trimmed p text before inner after) {blank : List Char}
    (blanks : ∀ c ∈ blank, p c = true) : Trimmed p (blank ++ text) (blank ++ before) inner after where
  split := by simp only [trimmed.split, List.append_assoc]
  leading c member := (List.mem_append.mp member).elim (blanks c) (trimmed.leading c)
  trailing := trimmed.trailing
  ends := trimmed.ends

theorem Trimmed.appendBlanks (trimmed : Trimmed p text before inner after) {blank : List Char}
    (blanks : ∀ c ∈ blank, p c = true) : Trimmed p (text ++ blank) before inner (after ++ blank) where
  split := by simp only [trimmed.split, List.append_assoc]
  leading := trimmed.leading
  trailing c member := (List.mem_append.mp member).elim (trimmed.trailing c) (blanks c)
  ends := trimmed.ends

/-- Of two texts behind each other the outer ends are trimmed. The inner ones stay, whatever they are, if something is
left of both texts. -/
theorem Trimmed.join (one : Trimmed p text before inner after) (other : Trimmed p text' before' inner' after')
    (there : inner ≠ []) (there' : inner' ≠ []) :
    Trimmed p (text ++ text') before (inner ++ (after ++ before' ++ inner')) after' := by
  obtain ⟨first, last, begins, -, keptFirst, -⟩ := one.ends.resolve_left there
  obtain ⟨first', last', -, ends, -, keptLast⟩ := other.ends.resolve_left there'
  refine ⟨?_, one.leading, other.trailing, .inr ⟨first, last', ?_, ?_, keptFirst, keptLast⟩⟩
  · simp only [one.split, other.split, List.append_assoc]
  · rw [List.head?_append, begins]
    rfl
  · rw [← List.append_assoc, List.getLast?_append, ends]
    rfl

end Behind

end EditorAssist.Text

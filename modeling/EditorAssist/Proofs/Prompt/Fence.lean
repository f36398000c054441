import EditorAssist.Prompt
import EditorAssist.Proofs.Text.Lines
import EditorAssist.Proofs.Text.Search
import EditorAssist.Text.Blank

/-!
# Code between fences

The code of an answer stands in its first block that is fenced for a language. What is written between two fences, each
on a line of its own, is taken out again (`fenced_code_is_taken_out`). The block is found by the beginning of its
info word: `extracted_block_begins_with_its_language` says when the language is the whole word.
-/

namespace EditorAssist.Prompt

open EditorAssist.Text

/-! ## The block that is found -/

/-- A block with its fences. -/
def block (language inside : List Char) : List Char := fence ++ language ++ inside ++ fence

/-- The first block in a text that is fenced for a language, and the texts around it. -/
structure Fenced (language text before inside after : List Char) : Prop where
  opens : FirstAt (fence ++ language) text before (inside ++ fence ++ after)
  closes : FirstAt fence (inside ++ fence ++ after) inside after

section Found

variable {language text before inside after : List Char}

theorem Fenced.fencedBlock? (fenced : Fenced language text before inside after) :
    Prompt.fencedBlock? text language = some (block language inside) := by
  rw [Prompt.fencedBlock?, breakOn_eq_some_iff.mpr fenced.opens]
  dsimp only
  rw [breakOn_eq_some_iff.mpr fenced.closes]
  rfl

theorem Fenced.extractCodeBlock (fenced : Fenced language text before inside after) (path : List Char) :
    Prompt.extractCodeBlock path text language =
      innerLines (replaceFirst (pathMarker path) [] (block language inside)) := by
  rw [Prompt.extractCodeBlock, fenced.fencedBlock?]

/-- Code is extracted from a block only. -/
theorem exists_fenced {path : List Char} (extracted : Prompt.extractCodeBlock path text language ≠ []) :
    ∃ before inside after, Fenced language text before inside after := by
  cases opened : breakOn (fence ++ language) text with
  | none => simp [Prompt.extractCodeBlock, Prompt.fencedBlock?, opened] at extracted
  | some place =>
    cases closed : breakOn fence place.2 with
    | none => simp [Prompt.extractCodeBlock, Prompt.fencedBlock?, opened, closed] at extracted
    | some ends =>
      have opens := breakOn_eq_some_iff.mp opened
      have closes := breakOn_eq_some_iff.mp closed
      rw [closes.split] at opens closes
      exact ⟨place.1, ends.1, ends.2, opens, closes⟩

end Found

/-! ## The lines of a block -/

/-- The lines between the first and the last one. -/
theorem innerLines_eq {text first last : List Char} {inner : List (List Char)}
    (pieces : lines text = first :: (inner ++ [last])) : innerLines text = joinLines inner ++ ['\n'] := by
  rw [innerLines, pieces]
  cases inner with
  | nil => rfl
  | cons line inner =>
    dsimp only [List.cons_append]
    rw [← List.cons_append, List.dropLast_concat]

theorem newline_notMem_fence : '\n' ∉ fence := by decide

/-- Of the lines behind a fence all are extracted but the one that the closing fence stands on. -/
theorem innerLines_block (language body : List Char) :
    innerLines (block language ('\n' :: body)) =
      joinLines ((lines language).tail ++ (lines body).dropLast) ++ ['\n'] := by
  obtain ⟨first, more, worded⟩ := List.exists_cons_of_ne_nil (lines_ne_nil language)
  obtain ⟨above, last, bodied⟩ := exists_lines_eq_concat body
  have plain : lines fence = [] ++ [fence] := lines_of_level newline_notMem_fence
  have opening : lines (fence ++ language) = (fence ++ first) :: more := lines_append plain worded
  have closing : lines (body ++ fence) = above ++ [last ++ fence] := lines_append bodied plain
  have split : block language ('\n' :: body) = (fence ++ language) ++ '\n' :: (body ++ fence) := by
    simp [block]
  have pieces : lines (block language ('\n' :: body)) = (fence ++ first) :: (more ++ above ++ [last ++ fence]) := by
    rw [split, lines_append_newline, opening, closing, List.cons_append, List.append_assoc]
  rw [innerLines_eq pieces, worded, bodied, List.tail_cons, List.dropLast_concat]

theorem innerLines_block_ne_nil (language body : List Char) : innerLines (block language ('\n' :: body)) ≠ [] := by
  rw [innerLines_block]
  exact List.append_ne_nil_of_right_ne_nil _ (List.cons_ne_nil _ _)

/-- The lines above the closing fence stay lines. -/
theorem mem_lines_innerLines_block (language : List Char) {body line : List Char}
    (above : line ∈ (lines body).dropLast) : line ∈ lines (innerLines (block language ('\n' :: body))) := by
  rw [innerLines_block]
  apply mem_lines_of_mem _ (List.mem_append_right _ above)
  intro piece member
  rcases List.mem_append.mp member with worded | bodied
  · exact newline_notMem_of_mem_lines (List.mem_of_mem_tail worded)
  · exact newline_notMem_of_mem_lines ((List.dropLast_sublist _).subset bodied)

/-- A block whose fences have lines of their own. -/
def writtenBlock (language body : List Char) : List Char := block language ('\n' :: body ++ ['\n'])

theorem innerLines_writtenBlock {language : List Char} (level : '\n' ∉ language) (body : List Char) :
    innerLines (writtenBlock language body) = body ++ ['\n'] := by
  have pieces : lines (body ++ ['\n']) = lines body ++ [[]] := lines_append_newline body []
  rw [writtenBlock, List.cons_append, innerLines_block, pieces, lines_of_level level, List.tail_cons, List.nil_append,
    List.dropLast_concat, joinLines_lines]

/-! ## Code that is taken out -/

/-- A fence behind a line break closes a block whose body holds none. -/
theorem firstAt_fence {body : List Char} (plain : ¬fence <:+: body) (after : List Char) :
    FirstAt fence ('\n' :: body ++ '\n' :: (fence ++ after)) ('\n' :: body ++ ['\n']) after := by
  have absent : ¬fence <:+: '\n' :: body := by
    intro occurs
    rcases List.infix_cons_iff.mp occurs with ⟨rest, start⟩ | later
    · exact absurd (List.cons.inj start).1 (by decide)
    · exact plain later
  exact FirstAt.behind newline_notMem_fence absent after

section Written

variable {language body before after : List Char}

theorem fenced_writtenBlock (plain : ¬fence <:+: body)
    (first : FirstAt (fence ++ language) (before ++ writtenBlock language body ++ after) before
      ('\n' :: body ++ '\n' :: (fence ++ after))) :
    Fenced language (before ++ writtenBlock language body ++ after) before ('\n' :: body ++ ['\n']) after := by
  have split : '\n' :: body ++ '\n' :: (fence ++ after) = '\n' :: body ++ ['\n'] ++ fence ++ after := by simp
  have closes := firstAt_fence plain after
  rw [split] at first closes
  exact ⟨first, closes⟩

/-- Where the path of a block is named once, at the beginning of its body, it is named there first. -/
theorem firstAt_pathMarker {path rest : List Char}
    (once : ∀ front back, writtenBlock language (pathMarker path ++ rest) = front ++ pathMarker path ++ back →
      front = fence ++ language ++ ['\n']) :
    FirstAt (pathMarker path) (writtenBlock language (pathMarker path ++ rest)) (fence ++ language ++ ['\n'])
      (rest ++ '\n' :: fence) where
  split := by simp [writtenBlock, block]
  first front back occurs := Nat.le_of_eq (congrArg List.length (once front back occurs)).symm

/-- The code of a fenced answer is the body of its block. A line that names the file is left out where the body begins
with it. -/
theorem fenced_code_is_taken_out (path : List Char) (level : '\n' ∉ language) (plain : ¬fence <:+: body)
    (first : FirstAt (fence ++ language) (before ++ writtenBlock language body ++ after) before
      ('\n' :: body ++ '\n' :: (fence ++ after))) :
    (¬pathMarker path <:+: writtenBlock language body →
      extractCodeBlock path (before ++ writtenBlock language body ++ after) language = body ++ ['\n']) ∧
    ∀ rest, body = pathMarker path ++ rest →
      (∀ front back, writtenBlock language body = front ++ pathMarker path ++ back →
        front = fence ++ language ++ ['\n']) →
      extractCodeBlock path (before ++ writtenBlock language body ++ after) language = rest ++ ['\n'] := by
  have fenced := fenced_writtenBlock plain first
  have extracted := fenced.extractCodeBlock path
  rw [← writtenBlock] at extracted
  constructor
  · intro unmarked
    rw [extracted, replaceFirst_of_absent [] unmarked, innerLines_writtenBlock level]
  · rintro rest rfl once
    have unmarked : fence ++ language ++ ['\n'] ++ [] ++ (rest ++ '\n' :: fence) = writtenBlock language rest := by
      simp [writtenBlock, block]
    rw [extracted, (firstAt_pathMarker once).replaceFirst [], unmarked, innerLines_writtenBlock level]

end Written

/-- Code of a named file with backticks of its own, one of them in front of the closing fence. -/
def markedBody : List Char := "// FILEPATH: /a.cpp\nint x; // ''\x60".toList

/-- The name of the language is no plain word, and another block of it stands behind. -/
theorem marked_code_is_taken_out :
    '\n' ∉ "c++".toList ∧ ¬fence <:+: markedBody ∧
      extractCodeBlock "file:///a.cpp".toList
        ("Use \x60x\x60:\n".toList ++ writtenBlock "c++".toList markedBody ++ "\n\x60\x60\x60c++\n".toList)
        "c++".toList = "int x; // ''\x60\n".toList ∧
      extractCodeBlock "a.cpp".toList ("Use \x60x\x60:\n".toList ++ writtenBlock "c++".toList markedBody ++
        "\n\x60\x60\x60c++\n".toList) "c++".toList = markedBody ++ ['\n'] := by
  have level : '\n' ∉ "c++".toList := by simp
  have plain : ¬fence <:+: markedBody := by
    apply breakOn_eq_none_iff.mp
    unfold markedBody
    simp only [String.reduceToList]
    rfl
  have first : FirstAt (fence ++ "c++".toList)
      ("Use \x60x\x60:\n".toList ++ writtenBlock "c++".toList markedBody ++ "\n\x60\x60\x60c++\n".toList)
      "Use \x60x\x60:\n".toList ('\n' :: markedBody ++ '\n' :: (fence ++ "\n\x60\x60\x60c++\n".toList)) := by
    apply breakOn_eq_some_iff.mp
    unfold markedBody
    simp only [String.reduceToList]
    rfl
  have marked : markedBody = pathMarker "file:///a.cpp".toList ++ "int x; // ''\x60".toList := by
    unfold markedBody pathMarker
    simp only [String.reduceToList]
    rfl
  have place : FirstAt (pathMarker "file:///a.cpp".toList) (writtenBlock "c++".toList markedBody)
      (fence ++ "c++".toList ++ ['\n']) "int x; // ''\x60\n\x60\x60\x60".toList := by
    apply breakOn_eq_some_iff.mp
    unfold markedBody pathMarker
    simp only [String.reduceToList]
    rfl
  have alone : ¬pathMarker "file:///a.cpp".toList <:+:
      (pathMarker "file:///a.cpp".toList).tail ++ "int x; // ''\x60\n\x60\x60\x60".toList := by
    apply breakOn_eq_none_iff.mp
    unfold pathMarker
    simp only [String.reduceToList]
    rfl
  have unmarked : ¬pathMarker "a.cpp".toList <:+: writtenBlock "c++".toList markedBody := by
    apply breakOn_eq_none_iff.mp
    unfold markedBody pathMarker
    simp only [String.reduceToList]
    rfl
  have named := (fenced_code_is_taken_out "file:///a.cpp".toList level plain first).2 _ marked (place.eq_of_alone alone)
  have other := (fenced_code_is_taken_out "a.cpp".toList level plain first).1 unmarked
  refine ⟨level, plain, ?_, other⟩
  rw [named]
  simp only [String.reduceToList]
  rfl

/-! ## The language of a block -/

/-- The word behind an opening fence. -/
def infoWord (text : List Char) : List Char := text.takeWhile fun c => !isBlank c

/-- A text without blanks begins the info word, whatever follows it. -/
theorem infoWord_append {word : List Char} (solid : ∀ c ∈ word, isBlank c = false) (rest : List Char) :
    infoWord (word ++ rest) = word ++ infoWord rest := by
  rw [infoWord, List.takeWhile_append_of_pos fun c member => by rw [solid c member]; rfl]
  rfl

theorem infoWord_eq_nil_iff {c : Char} (rest : List Char) : infoWord (c :: rest) = [] ↔ isBlank c = true := by
  simp [infoWord, List.takeWhile_cons]

/-- Code is taken from the first block whose info word begins with the language. The word is the language if a blank
follows it, and only then. -/
theorem extracted_block_begins_with_its_language {path text language : List Char}
    (solid : ∀ c ∈ language, isBlank c = false) (extracted : extractCodeBlock path text language ≠ []) :
    ∃ before inside after, Fenced language text before inside after ∧
      extractCodeBlock path text language =
        innerLines (replaceFirst (pathMarker path) [] (block language inside)) ∧
      language <+: infoWord (language ++ inside ++ fence ++ after) ∧
      (infoWord (language ++ inside ++ fence ++ after) = language ↔
        ∃ c rest, inside = c :: rest ∧ isBlank c = true) := by
  obtain ⟨before, inside, after, fenced⟩ := exists_fenced extracted
  have word : infoWord (language ++ inside ++ fence ++ after) = language ++ infoWord (inside ++ fence ++ after) := by
    rw [List.append_assoc, List.append_assoc, infoWord_append solid, List.append_assoc]
  refine ⟨before, inside, after, fenced, fenced.extractCodeBlock path, ?_, ?_⟩
  · rw [word]
    exact List.prefix_append ..
  · rw [word, List.append_right_eq_self]
    cases inside with
    | nil =>
      constructor
      · intro ends
        exact absurd ((infoWord_eq_nil_iff _).mp ends) (by decide)
      · rintro ⟨c, rest, same, -⟩
        cases same
    | cons c rest =>
      rw [List.cons_append, List.cons_append, infoWord_eq_nil_iff]
      constructor
      · intro blank
        exact ⟨c, rest, rfl, blank⟩
      · rintro ⟨d, rest', same, blank⟩
        rw [(List.cons.inj same).1]
        exact blank

/-- A block in another language stands in front of the one that is taken. -/
theorem later_block_is_taken :
    let language := "c".toList
    let text := "\x60\x60\x60go\nvar x int\n\x60\x60\x60\n\x60\x60\x60c\nint x;\n\x60\x60\x60".toList
    (∀ c ∈ language, isBlank c = false) ∧ extractCodeBlock [] text language ≠ [] ∧
      ∃ before inside after, Fenced language text before inside after ∧
        extractCodeBlock [] text language = innerLines (replaceFirst (pathMarker []) [] (block language inside)) ∧
        language <+: infoWord (language ++ inside ++ fence ++ after) ∧
        (infoWord (language ++ inside ++ fence ++ after) = language ↔
          ∃ c rest, inside = c :: rest ∧ isBlank c = true) := by
  have solid : ∀ c ∈ "c".toList, isBlank c = false := by
    simpa using (by decide : isBlank 'c' = false)
  have extracted : extractCodeBlock []
      "\x60\x60\x60go\nvar x int\n\x60\x60\x60\n\x60\x60\x60c\nint x;\n\x60\x60\x60".toList "c".toList ≠ [] := by
    simp only [String.reduceToList]
    decide
  exact ⟨solid, extracted, extracted_block_begins_with_its_language solid extracted⟩

/-- A block is not only taken when the language is its info word: C++ is taken for C. -/
theorem block_of_longer_name_is_taken :
    ¬∀ path text language : List Char, language ≠ [] → (∀ c ∈ language, c.isAlpha = true) →
      extractCodeBlock path text language ≠ [] →
        ∃ before inside after, Fenced language text before inside after ∧
          infoWord (language ++ inside ++ fence ++ after) = language := by
  intro claim
  have extracted : extractCodeBlock [] "\x60\x60\x60cpp\nint x;\n\x60\x60\x60".toList "c".toList ≠ [] := by
    simp only [String.reduceToList]
    decide
  obtain ⟨before, inside, after, fenced, word⟩ := claim [] _ "c".toList (by simp) (by simp) extracted
  have place : FirstAt (fence ++ "c".toList) "\x60\x60\x60cpp\nint x;\n\x60\x60\x60".toList []
      "pp\nint x;\n\x60\x60\x60".toList := by
    apply breakOn_eq_some_iff.mp
    simp only [String.reduceToList]
    rfl
  obtain ⟨-, behind⟩ := fenced.opens.unique place
  rw [List.append_assoc, List.append_assoc, ← List.append_assoc inside, behind] at word
  simp only [String.reduceToList] at word
  exact absurd word (by decide)

end EditorAssist.Prompt

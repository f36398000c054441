import EditorAssist.Batch.Case
import EditorAssist.Proofs.Completion.Cursor
import EditorAssist.Proofs.Files.Tree

/-!
# The cursor of a case

The first marker of a file stands for a cursor. Its line and column are counted in the text in front of it, and
a document without the marker is cut there again: `case_has_the_cursor_of_its_document`.
-/

namespace EditorAssist.Batch

open EditorAssist.Completion EditorAssist.Files EditorAssist.Text

namespace Case

/-- What a case has to do with the marked text that it is taken from. -/
structure TakenFrom (c : Case) (text : List Char) : Prop where
  whole : c.text = text
  /-- The first marker divides the text. -/
  divided : FirstAt marker text c.before c.after
  /-- Line and column are those to which the text in front of the marker leads. -/
  position : walk origin c.before = ⟨c.line, c.column⟩
  /-- A cursor there, in the text without the marker, has the same text in front of it, -/
  before : (CursorContext.at_ (c.before ++ c.after) c.line c.column).contentBefore = c.before
  /-- the first line of what follows as the rest of its line, and the other lines behind. -/
  after : ∃ first rest, lines c.after = first :: rest ∧
    (CursorContext.at_ (c.before ++ c.after) c.line c.column).contentImmediatelyAfter = first ∧
    (CursorContext.at_ (c.before ++ c.after) c.line c.column).contentAfter = joinLines rest

/-- The case of a text around its first marker, in the last line of the text in front of it. -/
theorem ofText_of_firstAt {path language : String} {text before after last : List Char} {above : List (List Char)}
    (divided : FirstAt marker text before after) (upper : lines before = above ++ [last])
    (known : detectLanguage path = .ok language) :
    ofText path text = .ok ⟨path, language, before, after, text, above.length, last.length⟩ := by
  rw [ofText, breakOn_eq_some_iff.mpr divided]
  dsimp only
  rw [known, upper, List.length_append, List.length_singleton, Nat.add_sub_cancel, List.getLastD_concat]

end Case

/-- The case of a marked file with a known language shares its cursor with the document that the file is without the
marker. -/
theorem case_has_the_cursor_of_its_document {tree : Tree} {path language : String} {text : List Char}
    (read : tree.readText (Path.parse path.toList) = .ok text) (marked : marker <:+: text)
    (known : detectLanguage path = .ok language) :
    ∃ c, Case.read tree path = .ok c ∧ c.path = path ∧ c.language = language ∧ c.TakenFrom text := by
  obtain ⟨before, after, divided⟩ := exists_firstAt marked
  obtain ⟨above, last, upper⟩ := exists_lines_eq_concat before
  obtain ⟨first, rest, lower⟩ := List.exists_cons_of_ne_nil (lines_ne_nil after)
  have taken := Case.ofText_of_firstAt divided upper known
  have cursor := at_append upper lower
  refine ⟨⟨path, language, before, after, text, above.length, last.length⟩, ?_, rfl, rfl, ?_⟩
  · rw [Case.read, read]
    exact taken
  · exact
      { whole := rfl
        divided
        position := walk_of_lines upper
        before := by rw [cursor]
        after := ⟨first, rest, lower, by rw [cursor], by rw [cursor]⟩ }

/-- A Python file with foreign line breaks, in which a second marker follows the first. -/
def markedTree : Tree :=
  [⟨⟨[], ["a.py".toList]⟩, Utf8.encode "x = [\r\n  <CURSOR>]\r\n# <CURSOR>"⟩]

theorem parse_markedPath : Path.parse "a.py".toList = ⟨[], ["a.py".toList]⟩ :=
  parse_of_name (by simp) (by simp) (by simp)

theorem detectLanguage_markedPath : detectLanguage "a.py" = .ok "python" := by
  have suffix : lowerCase (⟨[], ["a.py".toList]⟩ : Files.Path).suffix = ".py".toList := by
    simp only [String.reduceToList]
    rfl
  rw [detectLanguage, parse_markedPath, suffix]
  rfl

theorem readText_markedTree :
    markedTree.readText (Path.parse "a.py".toList) = .ok "x = [\n  <CURSOR>]\n# <CURSOR>".toList := by
  have breaks : normalizeNewlines "x = [\r\n  <CURSOR>]\r\n# <CURSOR>".toList =
      "x = [\n  <CURSOR>]\n# <CURSOR>".toList := by
    simp only [String.reduceToList]
    rfl
  rw [parse_markedPath]
  exact readText_of_encoded (by rfl) (by rfl) breaks

theorem marked_brackets_share_their_cursor :
    let text := "x = [\n  <CURSOR>]\n# <CURSOR>".toList
    markedTree.readText (Path.parse "a.py".toList) = .ok text ∧ marker <:+: text ∧
      detectLanguage "a.py" = .ok "python" ∧
      ∃ c, Case.read markedTree "a.py" = .ok c ∧ c.path = "a.py" ∧ c.language = "python" ∧ c.TakenFrom text := by
  have marked : marker <:+: "x = [\n  <CURSOR>]\n# <CURSOR>".toList := by
    unfold marker
    simp only [String.reduceToList]
    decide
  exact ⟨readText_markedTree, marked, detectLanguage_markedPath,
    case_has_the_cursor_of_its_document readText_markedTree marked detectLanguage_markedPath⟩

end EditorAssist.Batch

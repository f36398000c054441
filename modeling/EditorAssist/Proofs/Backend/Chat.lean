import EditorAssist.Backend.Provider
import EditorAssist.Proofs.Prompt.Fence

/-!
# Code in chat answers

A chat answer whose code is fenced keeps the lines of the code, but the one that the closing fence stands on. Fences with
lines of their own lose nothing: `chat_keeps_the_lines_above_the_fence`.
-/

namespace EditorAssist.Backend.Provider

open EditorAssist.Prompt EditorAssist.Text

section Fenced

variable {p : Provider} {q : ChatQuery} {response : Response} {reply : String} {others : List Suggestion}
  {before body after : List Char}

/-- What is answered for a reply with code that no line names the file of. -/
theorem chatResult_of_fenced (kind : p.kind = .openai) (first : p.contents response = .ok (.str reply :: others))
    (fenced : Fenced q.language.toList reply.toList before ('\n' :: body) after)
    (unmarked : ¬pathMarker q.path.toList <:+: block q.language.toList ('\n' :: body)) :
    p.chatResult q (.ok response) =
      .ok ⟨.str (String.ofList (innerLines (block q.language.toList ('\n' :: body)))), none⟩ := by
  have code : extractCodeBlock q.path.toList reply.toList q.language.toList =
      innerLines (block q.language.toList ('\n' :: body)) := by
    rw [fenced.extractCodeBlock, replaceFirst_of_absent [] unmarked]
  have there : (innerLines (block q.language.toList ('\n' :: body))).isEmpty = false :=
    List.isEmpty_eq_false_iff.mpr (innerLines_block_ne_nil q.language.toList body)
  simp only [chatResult, first, chatReply, kind, fencedCode, code, there, Bool.false_eq_true, ↓reduceIte, Except.map]

/-- A reply with fenced code is answered with the lines of the code: with all but the last, and with every line that is
not blank if the closing fence has a line of its own. -/
theorem chat_keeps_the_lines_above_the_fence (kind : p.kind = .openai)
    (first : p.contents response = .ok (.str reply :: others))
    (fenced : Fenced q.language.toList reply.toList before ('\n' :: body) after)
    (unmarked : ¬pathMarker q.path.toList <:+: block q.language.toList ('\n' :: body))
    (visible : isBlankText body = false) :
    ∃ answer, p.chatResult q (.ok response) = .ok ⟨.str answer, none⟩ ∧
      (∀ line ∈ (lines body).dropLast, line ∈ lines answer.toList) ∧
      (isBlankText ((lines body).getLastD []) = true →
        (∀ line ∈ lines body, isBlankText line = false → line ∈ lines answer.toList) ∧
          isBlankText answer.toList = false) := by
  refine ⟨_, chatResult_of_fenced kind first fenced unmarked, ?_⟩
  rw [String.toList_ofList]
  constructor
  · intro line above
    exact mem_lines_innerLines_block _ above
  · intro alone
    have kept : ∀ line ∈ lines body, isBlankText line = false →
        line ∈ lines (innerLines (block q.language.toList ('\n' :: body))) := by
      intro line member seen
      exact mem_lines_innerLines_block _ (mem_dropLast_of_visible alone member seen)
    obtain ⟨line, member, seen⟩ := isBlankText_eq_false_iff.mp visible
    exact ⟨kept, isBlankText_eq_false_iff.mpr ⟨line, kept line member seen, seen⟩⟩

end Fenced

/-! ## A reply with Python code -/

def pythonBackend : Provider := .of .openai "m-chat" none 15000 []

def pythonQuery : ChatQuery := ⟨"Improve this code.", "x", "file:///a.py", "python"⟩

/-- A blank line in the code and one blank before the closing fence do no harm. -/
theorem function_above_the_fence_is_kept :
    let body := "def f():\n\n  return 1\n ".toList
    let response := Response.texts [.str "Sure:\n\x60\x60\x60python\ndef f():\n\n  return 1\n \x60\x60\x60"]
    isBlankText ((lines body).getLastD []) = true ∧
      ∃ answer, pythonBackend.chatResult pythonQuery (.ok response) = .ok ⟨.str answer, none⟩ ∧
        (∀ line ∈ lines body, isBlankText line = false → line ∈ lines answer.toList) ∧
        isBlankText answer.toList = false := by
  have fenced : Fenced "python".toList
      "Sure:\n\x60\x60\x60python\ndef f():\n\n  return 1\n \x60\x60\x60".toList "Sure:\n".toList
      ('\n' :: "def f():\n\n  return 1\n ".toList) [] := by
    refine ⟨breakOn_eq_some_iff.mp ?_, breakOn_eq_some_iff.mp ?_⟩
    · simp only [String.reduceToList]
      rfl
    · simp only [String.reduceToList]
      rfl
  have alone : isBlankText ((lines "def f():\n\n  return 1\n ".toList).getLastD []) = true := by
    simp only [String.reduceToList]
    rfl
  have visible : isBlankText "def f():\n\n  return 1\n ".toList = false := by
    simp only [String.reduceToList]
    rfl
  have first : pythonBackend.contents
      (.texts [.str "Sure:\n\x60\x60\x60python\ndef f():\n\n  return 1\n \x60\x60\x60"]) =
        .ok [.str "Sure:\n\x60\x60\x60python\ndef f():\n\n  return 1\n \x60\x60\x60"] := rfl
  have unmarked : ¬pathMarker pythonQuery.path.toList <:+: block pythonQuery.language.toList
      ('\n' :: "def f():\n\n  return 1\n ".toList) := by
    apply breakOn_eq_none_iff.mp
    unfold pathMarker pythonQuery
    simp only [String.reduceToList]
    rfl
  obtain ⟨answer, result, -, kept⟩ := chat_keeps_the_lines_above_the_fence rfl first fenced unmarked visible
  exact ⟨alone, answer, result, kept alone⟩

/-- A line of code with the closing fence behind it is not answered: nothing but a line break is left of the reply. -/
theorem line_before_the_fence_is_lost :
    ¬∀ (p : Provider) (q : ChatQuery) (response : Response) (reply : String) (others : List Suggestion)
      (before body after : List Char), p.kind = .openai → p.contents response = .ok (.str reply :: others) →
      Fenced q.language.toList reply.toList before ('\n' :: body) after →
      ¬pathMarker q.path.toList <:+: reply.toList → isBlankText body = false →
        ∃ answer, p.chatResult q (.ok response) = .ok ⟨.str answer, none⟩ ∧
          ∀ line ∈ lines body, isBlankText line = false → line <:+: answer.toList := by
  intro claim
  have fenced : Fenced "python".toList "\x60\x60\x60python\nx = 1\x60\x60\x60".toList [] ('\n' :: "x = 1".toList) [] := by
    refine ⟨breakOn_eq_some_iff.mp ?_, breakOn_eq_some_iff.mp ?_⟩
    · simp only [String.reduceToList]
      rfl
    · simp only [String.reduceToList]
      rfl
  have first : pythonBackend.contents (.texts [.str "\x60\x60\x60python\nx = 1\x60\x60\x60"]) =
      .ok [.str "\x60\x60\x60python\nx = 1\x60\x60\x60"] := rfl
  have nowhere : ¬pathMarker pythonQuery.path.toList <:+: "\x60\x60\x60python\nx = 1\x60\x60\x60".toList := by
    apply breakOn_eq_none_iff.mp
    unfold pathMarker pythonQuery
    simp only [String.reduceToList]
    rfl
  have unmarked : ¬pathMarker pythonQuery.path.toList <:+: block pythonQuery.language.toList
      ('\n' :: "x = 1".toList) := by
    have whole : block pythonQuery.language.toList ('\n' :: "x = 1".toList) =
        "\x60\x60\x60python\nx = 1\x60\x60\x60".toList := by
      unfold pythonQuery
      simp only [String.reduceToList]
      rfl
    rw [whole]
    exact nowhere
  have visible : isBlankText "x = 1".toList = false := by
    simp only [String.reduceToList]
    rfl
  have result := chatResult_of_fenced rfl first fenced unmarked
  obtain ⟨answer, claimed, kept⟩ := claim pythonBackend pythonQuery _ _ [] _ _ _ rfl first fenced nowhere visible
  rw [result] at claimed
  cases claimed
  have within := kept "x = 1".toList (by simp [lines]) visible
  rw [String.toList_ofList] at within
  revert within
  unfold pythonQuery
  simp only [String.reduceToList]
  decide

end EditorAssist.Backend.Provider

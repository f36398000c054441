import EditorAssist.Fault
import EditorAssist.Text.Lines

/-!
# Suggestions

A suggestion is what a response holds where a text is expected. That need not be a text: numbers and
flags are taken as they are. Lists and objects cannot be compared with one another, so a collection
that holds one has no distinct suggestions.
-/

namespace EditorAssist.Backend

open EditorAssist.Json EditorAssist.Number EditorAssist.Text

/-- A part of a response that stands for a text. -/
abbrev Suggestion := Value

namespace Suggestion

/-- Whether there is nothing in it. An object is something even without fields. -/
def isNothing : Suggestion → Bool
  | .obj _ => false
  | v => v.isFalsy

/-- The name of the class of a part of a response. -/
def className : Suggestion → String
  | .obj _ => "types.SimpleNamespace"
  | v => v.kindName

/-- A fault about the class that something has. -/
def classFault (text : String) : Fault := .standard "TypeError" (some text)

/-- Whether the suggestion can be compared with others. -/
def isComparable : Suggestion → Bool
  | .arr _ => false
  | .obj _ => false
  | _ => true

/-- The integer that a number or flag equals, if it equals one. -/
def whole? : Suggestion → Option Int
  | .int i => some i
  | .bool b => some (if b then 1 else 0)
  | .float x => (Binary64.ofFloat x).toInt?
  | _ => none

/-- Whether two suggestions count as one: equal texts, or equal numbers, a flag counting as one. -/
def same : Suggestion → Suggestion → Bool
  | .str a, .str b => a == b
  | .null, .null => true
  | .float x, .float y => x == y
  | a, b =>
    match whole? a, whole? b with
    | some i, some j => i == j
    | _, _ => false

/-- Distinct suggestions in the order of their first appearance. -/
def distinct (suggestions : List Suggestion) : Except Fault (List Suggestion) :=
  match suggestions.find? fun suggestion => !suggestion.isComparable with
  | some suggestion => .error (classFault ("unhashable type: '" ++ suggestion.className ++ "'"))
  | none => .ok (distinctBy same suggestions)

theorem same_str (a b : String) : same (.str a) (.str b) = (a == b) := by simp [same]

end Suggestion

end EditorAssist.Backend

import EditorAssist.Text.Lines

/-!
# The text around a cursor

A cursor splits a document at a line and a column. A line number outside the document is moved to
the nearest line; a column outside the line leaves the whole line before the cursor.
-/

namespace EditorAssist.Completion

open EditorAssist.Text

/-- Document text split around a cursor. -/
structure CursorContext where
  /-- Every line up to the cursor, the cursor line cut at the column. -/
  contentBefore : List Char
  /-- The lines after the cursor line. -/
  contentAfter : List Char
  /-- The cursor line up to the cursor. -/
  lastLine : List Char
  /-- The cursor line after the cursor. -/
  contentImmediatelyAfter : List Char
  deriving Repr, DecidableEq

/-- The line number nearest to `line` in a document of `count` lines. -/
def clampLine (line : Int) (count : Nat) : Nat := min line.toNat (count - 1)

/-- A line cut at a column, if the column lies before its last character. -/
def cutLine (line : List Char) (column : Int) : List Char × List Char :=
  if 0 ≤ column ∧ column < line.length then (line.take column.toNat, line.drop column.toNat)
  else (line, [])

namespace CursorContext

/-- Splits `text` at a line and column. -/
def at_ (text : List Char) (line column : Int) : CursorContext :=
  let all := lines text
  let index := clampLine line all.length
  let (before, after) := cutLine (all.getD index []) column
  { contentBefore := joinLines (all.take index ++ [before])
    contentAfter := joinLines (all.drop (index + 1))
    lastLine := before
    contentImmediatelyAfter := after }

/-- The character before the cursor. -/
def lastCharacter (context : CursorContext) : Option Char := context.contentBefore.getLast?

/-- The text after the cursor as shown to a backend; an empty rest of the cursor line is left out
together with its newline. -/
def afterForPrompt (context : CursorContext) : List Char :=
  if context.contentAfter.isEmpty then context.contentImmediatelyAfter
  else if context.contentImmediatelyAfter.isEmpty then context.contentAfter
  else context.contentImmediatelyAfter ++ '\n' :: context.contentAfter

end CursorContext

end EditorAssist.Completion

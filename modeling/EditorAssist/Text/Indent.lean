import EditorAssist.Text.Blank
import EditorAssist.Text.Lines

/-!
# Indentation

The padding of a text is the smallest indentation among its visible lines, and padding a text moves
every visible line to the right. Blank lines take part in neither.
-/

namespace EditorAssist.Text

/-- Number of leading spaces and tabs of a line. -/
def indentation (line : List Char) : Nat := (line.takeWhile isIndent).length

/-- Smallest indentation among the visible lines, zero when there is none. -/
def padding (text : List Char) : Nat :=
  (((lines text).filter (!isBlankText ·)).map indentation).min?.getD 0

/-- Indents one line by `amount` spaces when it is visible. -/
def padLine (amount : Nat) (line : List Char) : List Char :=
  if isBlankText line then line else List.replicate amount ' ' ++ line

/-- Indents every visible line by `amount` spaces. -/
def pad (amount : Nat) (text : List Char) : List Char :=
  joinLines ((lines text).map (padLine amount))

end EditorAssist.Text

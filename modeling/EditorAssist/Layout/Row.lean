import EditorAssist.Layout.Wrap

/-!
# Rows

A row is one line of a page: texts side by side, each of which is measured for itself. A row is filled
up or cropped to a number of cells; the text at which it reaches that number is the last one.
-/

namespace EditorAssist.Layout

open EditorAssist.Text

/-- Texts side by side. -/
abbrev Row := List (List Char)

namespace Row

/-- Number of cells of a row. -/
def cells (row : Row) : Nat := Number.total (row.map Layout.cells)

/-- The parts of a line, side by side. -/
def ofLine (line : List Glyph) : Row := (line.splitBy (·.part == ·.part)).map charsOf

/-- The start of a row that fills a number of cells. -/
def crop : (total : Nat) → Row → Except Misfit Row
  | _, [] => .ok []
  | total, text :: rest =>
    if Layout.cells text < total then (crop (total - Layout.cells text) rest).map (text :: ·)
    else (fit total text).map ([·])

/-- A row that is no wider than a number of cells. -/
def within (total : Nat) (row : Row) : Except Misfit Row :=
  if row.cells ≤ total then .ok row else row.crop total

/-- A row of a number of cells. -/
def fill (total : Nat) (row : Row) : Except Misfit Row :=
  if row.cells < total then .ok (row ++ [spaces (total - row.cells)]) else row.within total

end Row

/-- Lines with a newline after each. -/
def unlines (lines : List (List Char)) : List Char := lines.flatMap (· ++ ['\n'])

/-- Rows as lines of a page. -/
def page (width : Nat) (rows : List Row) : Except Misfit (List (List Char)) :=
  rows.mapM fun row => (row.within width).map (·.flatten)

/-- A text as it is printed on a page. -/
def printed (width : Nat) (text : List Char) : Except Misfit (List Char) := do
  return unlines (← page width ((← wrap .start .fold width (glyphs 0 (shown text))).map Row.ofLine))

/-- Whether a stretch of a text is left when the text is printed on a page. -/
def isPrinted (width : Nat) (text : List Char) (s : Stretch) : Bool :=
  match wrap .start .fold width (s.glyphsAround text) with
  | .ok lines => s.isLeft text lines
  | .error _ => false

/-- A text as it is printed when its lines are not to be broken. -/
def printedUnbroken (text : List Char) : List Char :=
  unlines ((glyphLines (glyphs 0 (shown text))).map fun line => charsOf (expandTabs 0 line))

end EditorAssist.Layout

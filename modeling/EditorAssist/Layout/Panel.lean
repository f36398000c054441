import EditorAssist.Layout.Row

/-!
# Panels

A panel is a frame with round corners around some texts, with a title in its upper edge. It is as wide
as the page. A frame without space between its sides has no lines.
-/

namespace EditorAssist.Layout

/-- A horizontal edge of a number of cells. -/
def edge (count : Nat) : List Char := List.replicate count '─'

/-- A title on one line, between its spaces, cut to a number of cells. -/
def cutTitle (space : Nat) (title : List Glyph) : Except Misfit (List Glyph) :=
  let line := title.map fun g => if g.char = '\n' then { g with char := ' ' } else g
  truncate .fold space (glyphs 0 [' '] ++ expandTabs 0 line ++ glyphs 0 [' '])

/-- A title between its spaces, cut and filled up with the edge to a number of cells. -/
def titleLine (space : Nat) (title : List Char) : Except Misfit (List Glyph) := do
  let cut ← cutTitle space (glyphs 0 title)
  truncate .fold space (cut ++ glyphs 1 (edge (space - cells (charsOf cut))))

/-- The upper edge with the title; without space for one it is plain. -/
def panelTop (width : Nat) (title : List Char) : Except Misfit Row :=
  if width ≤ 4 then .ok ['╭' :: edge (width - 2) ++ ['╮']]
  else (titleLine (width - 4) title).map fun line => ['╭', '─'] :: Row.ofLine line ++ [['─', '╮']]

/-- Whether a stretch of a title is left in the upper edge. -/
def isInTitle (width : Nat) (title : List Char) (s : Stretch) : Bool :=
  match cutTitle (width - 4) (s.glyphsAround title) with
  | .ok line => 4 < width && Stretch.isLeft ⟨s.start + 1, s.stop + 1⟩ (' ' :: title ++ [' ']) [line]
  | .error _ => false

/-- A line between the side edges, a space apart from them. -/
def panelLine (width : Nat) (line : List Glyph) : Except Misfit Row := do
  let inner ← (Row.ofLine line).fill (width - 4)
  let padded ← Row.fill (width - 2) ([' '] :: inner ++ [[' ']])
  return ['│'] :: padded ++ [['│']]

/-- The lines between the edges. -/
def panelBody (width : Nat) (texts : List (List Glyph)) : Except Misfit (List Row) := do
  if width ≤ 4 then return []
  let lines ← texts.mapM (wrap .start .fold (width - 4))
  lines.flatten.mapM (panelLine width)

/-- A panel on a page of `width` cells. -/
def panel (width : Nat) (title : List Char) (texts : List (List Glyph)) :
    Except Misfit (List (List Char)) := do
  if width = 0 then return []
  let body ← panelBody width texts
  let top ← panelTop width title
  page width (top :: body ++ [['╰' :: edge (width - 2) ++ ['╯']]])

end EditorAssist.Layout

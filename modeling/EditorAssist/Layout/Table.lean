import EditorAssist.Layout.Panel
import EditorAssist.Number.Binary64

/-!
# Tables

A table has a title above and lines around its columns. It is as wide as its cells need; if the page
is narrower, the widest columns are narrowed first.
-/

namespace EditorAssist.Layout

open EditorAssist.Number

/-- A column: where its cells stand, and their texts. -/
structure Column where
  justify : Justify
  cells : List (List Char)

/-- The width that a cell needs, with a space on both sides. -/
def neededWidth (limit : Nat) (text : List Char) : Nat :=
  if limit < 3 then limit else min limit (cells text + 2)

/-- The width that a column needs and may have. -/
def Column.width (limit : Nat) (column : Column) : Nat :=
  (column.cells.map (neededWidth limit)).foldl max 0

/-- A value that can give way, if its flag is set, by no more than its bound. -/
structure Share where
  value : Nat
  bound : Nat
  takesPart : Bool

/-- Takes `total` away from the values that take part, in even shares. -/
def reduceEvenly : (total : Nat) → List Share → List Nat
  | _, [] => []
  | total, share :: rest =>
    let count := ((share :: rest).filter fun s => s.takesPart && s.bound != 0).length
    if share.takesPart && share.bound != 0 then
      let part := min share.bound (roundHalfEven total count)
      (share.value - part) :: reduceEvenly (total - part) rest
    else share.value :: reduceEvenly total rest

/-- Narrows the widest columns to the next width, until the columns fit or all are equal. -/
def collapse (limit : Nat) : (rounds : Nat) → List Nat → List Nat
  | 0, widths => widths
  | rounds + 1, widths =>
    let excess := Number.total widths - limit
    if excess = 0 then widths
    else
      let widest := widths.foldl max 0
      let second := (widths.filter (· != widest)).foldl max 0
      if widest = second then widths
      else
        collapse limit rounds (reduceEvenly excess
          (widths.map fun width => ⟨width, min excess (widest - second), width == widest⟩))

/-- The widths of columns that have `limit` cells together. -/
def columnWidths (limit : Nat) (columns : List Column) : List Nat :=
  let needed := columns.map fun column => max 1 (column.width limit)
  if Number.total needed ≤ limit then needed
  else
    let collapsed := collapse limit (needed.length + 1) needed
    let reduced := if Number.total collapsed ≤ limit then collapsed
      else reduceEvenly (Number.total collapsed - limit) (collapsed.map fun width => ⟨width, width, true⟩)
    (reduced.zip columns).map fun (width, column) => column.width width

/-- The lines of a cell, as wide as its column. A column without space between its sides has none. -/
def cellLines (justify : Justify) (width : Nat) (text : List Char) : Except Misfit (List (List Char)) := do
  if width < 3 then return []
  let lines ← wrap justify .ellipsis (width - 2) (glyphs 0 text)
  lines.mapM fun line => (fit (width - 2) (charsOf line)).map fun inner => ' ' :: inner ++ [' ']

/-- A row: each cell is filled up with blank lines to the height of the highest. -/
def rowLines (row : List (Nat × Justify × List Char)) : Except Misfit (List (List Char)) := do
  let blocks ← row.mapM fun (width, justify, text) =>
    (cellLines justify width text).map fun lines => (width, lines)
  let height := (blocks.map fun block => block.2.length).foldl max 1
  return (List.range height).map fun i =>
    let parts := blocks.map fun (width, lines) => lines.getD i (spaces width)
    '│' :: (List.intersperse ['│'] parts).flatten ++ ['│']

/-- A horizontal line of a table with its crossings. -/
def ruleLine (left cross right : Char) (widths : List Nat) : List Char :=
  left :: (List.intersperse [cross] (widths.map edge)).flatten ++ [right]

/-- The cells of a row with the widths of their columns. -/
def rowOf (widths : List Nat) (columns : List Column) (i : Nat) : List (Nat × Justify × List Char) :=
  (widths.zip columns).map fun (width, column) => (width, column.justify, column.cells.getD i [])

/-- A table on a page of `width` cells. -/
def table (width : Nat) (title : List Char) (columns : List Column) :
    Except Misfit (List (List Char)) := do
  if width = 0 then return []
  let borders := columns.length + 1
  let widths := columnWidths (width - borders) columns
  let total := Number.total widths + borders
  let rows := (columns.map fun column => column.cells.length).foldl max 0
  let heading ← (← wrap .center .fold total (glyphs 0 title)).mapM fun line => fit total (charsOf line)
  let body ← (List.range rows).mapM fun i => rowLines (rowOf widths columns i)
  let lines := heading ++ ruleLine '┌' '┬' '┐' widths :: body.flatten ++ [ruleLine '└' '┴' '┘' widths]
  page width (lines.map ([·]))

end EditorAssist.Layout

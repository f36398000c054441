import EditorAssist.Layout.Sign
import EditorAssist.Text.Lines

/-!
# Wrapping

Lines are broken between words. A word takes the blanks after it along; a word that is wider than a
line is either folded over several lines or cut. Tabs are replaced before, and some control
characters are not shown at all. A text can have several parts, which stay apart in its lines.
-/

namespace EditorAssist.Layout

open EditorAssist.Text

/-- What happens to a word that is wider than a line. -/
inductive Overflow where
  | fold
  /-- The word is cut and ends in an ellipsis. -/
  | ellipsis
  deriving Repr, DecidableEq

/-- Where a line stands in the space it has. -/
inductive Justify where
  | start
  | center
  | stop
  deriving Repr, DecidableEq

/-- A character of a text and the part of the text that it belongs to. -/
structure Glyph where
  char : Char
  part : Nat
  deriving Repr, DecidableEq

/-- The glyphs of one part. -/
def glyphs (part : Nat) (text : List Char) : List Glyph := text.map (⟨·, part⟩)

/-- The glyphs of a text of several parts. -/
def glyphsOfParts (parts : List (List Char)) : List Glyph := (parts.mapIdx glyphs).flatten

/-- A stretch of a text: the characters from the one at `start` up to the one at `stop`. -/
structure Stretch where
  start : Nat
  stop : Nat
  deriving Repr, DecidableEq

/-- The glyphs of a text, those of a stretch of it in part 1. -/
def Stretch.glyphsAround (s : Stretch) (text : List Char) : List Glyph :=
  glyphsOfParts [text.take s.start, (text.take s.stop).drop s.start, text.drop s.stop]

/-- Whether a stretch of a text is left in the lines that were made of its glyphs. An empty one stays only
in a text of one line without tabs, and there not behind the place where the line was cut. -/
def Stretch.isLeft (s : Stretch) (text : List Char) (lines : List (List Glyph)) : Bool :=
  if s.start < s.stop then lines.any fun line => line.any (·.part = 1)
  else
    match lines with
    | [line] => !text.contains '\t' && (text.length ≤ line.length || s.start < line.length)
    | _ => false

/-- The characters of some glyphs. -/
def charsOf (line : List Glyph) : List Char := line.map (·.char)

theorem charsOf_glyphs (part : Nat) (text : List Char) : charsOf (glyphs part text) = text := by
  simp [charsOf, glyphs, Function.comp_def]

/-- A text that is no longer than the line it comes from, in the parts of that line. -/
def inPartsOf (line : List Glyph) (text : List Char) : List Glyph :=
  List.zipWith (fun g c => { g with char := c }) line text

/-- Control characters that are not shown: bell, backspace, vertical tab, form feed and carriage
return. -/
def hiddenControls : List Nat := [7, 8, 11, 12, 13]

/-- A text without the control characters that are not shown. -/
def shown (text : List Char) : List Char := text.filter fun c => !hiddenControls.contains c.toNat

/-- The distance between tab stops. -/
def tabStop : Nat := 8

/-- Replaces tabs by a space and more spaces up to the next tab stop; `column` cells are to the left. -/
def expandTabs (column : Nat) (line : List Glyph) : List Glyph :=
  match h : line.dropWhile (·.char ≠ '\t') with
  | [] => line
  | tab :: rest =>
    have : rest.length < line.length := by
      have := (List.dropWhile_suffix (l := line) (·.char ≠ '\t')).length_le
      rw [h] at this
      exact this
    let piece := line.takeWhile (·.char ≠ '\t') ++ [⟨' ', tab.part⟩]
    let reached := column + cells (charsOf piece)
    let missing := (tabStop - reached % tabStop) % tabStop
    piece ++ glyphs tab.part (spaces missing) ++ expandTabs (reached + missing) rest
termination_by line.length

/-- Whether a glyph is blank. -/
def Glyph.isBlank (g : Glyph) : Bool := Text.isBlank g.char

/-- The words of a text that starts with no blank, each with the blanks after it. -/
def wordsFrom (text : List Glyph) : List (List Glyph) :=
  match text with
  | [] => []
  | g :: rest =>
    let word := rest.takeWhile (!·.isBlank)
    let after := rest.dropWhile (!·.isBlank)
    have : (after.dropWhile Glyph.isBlank).length < (g :: rest).length :=
      Nat.lt_of_le_of_lt
        (Nat.le_trans (List.dropWhile_suffix _).length_le (List.dropWhile_suffix _).length_le)
        (Nat.lt_succ_self _)
    (g :: word ++ after.takeWhile Glyph.isBlank) :: wordsFrom (after.dropWhile Glyph.isBlank)
termination_by text.length
decreasing_by exact this

/-- The words of a text; the first one takes the blanks before it along. A blank text has none. -/
def words (text : List Glyph) : List (List Glyph) :=
  match wordsFrom (text.dropWhile Glyph.isBlank) with
  | [] => []
  | first :: rest => (text.takeWhile Glyph.isBlank ++ first) :: rest

/-- Cuts glyphs where the pieces of their text end. -/
def cutLike : (pieces : List (List Char)) → List Glyph → List (List Glyph)
  | [], _ => []
  | [_], rest => [rest]
  | piece :: more, rest => rest.take piece.length :: cutLike more (rest.drop piece.length)

/-- Lines that are complete, the line in progress and the number of its cells. -/
structure Wrapping where
  complete : List (List Glyph)
  line : List Glyph
  used : Nat

namespace Wrapping

def empty : Wrapping := ⟨[], [], 0⟩

/-- Whether nothing has been placed yet. -/
def isEmpty (w : Wrapping) : Bool := w.line.isEmpty && w.complete.all (·.isEmpty)

/-- Places a text on a line of its own. -/
def onNewLine (w : Wrapping) (text : List Glyph) : Wrapping :=
  if w.isEmpty then ⟨w.complete, w.line ++ text, cells (charsOf text)⟩
  else ⟨w.complete ++ [w.line], text, cells (charsOf text)⟩

/-- Folds a word that is wider than a line. What has no cells among the signs stays where it is. -/
def foldWord (width : Nat) (w : Wrapping) (word : List Glyph) : Wrapping :=
  match cutLike (chop width (charsOf word)) word with
  | [] => { w with line := w.line ++ word }
  | pieces => pieces.foldl onNewLine w

/-- Places a word. -/
def place (overflow : Overflow) (width : Nat) (w : Wrapping) (word : List Glyph) : Wrapping :=
  let size := cells (dropEndWhile Text.isBlank (charsOf word))
  if w.used + size ≤ width then
    ⟨w.complete, w.line ++ word, w.used + cells (charsOf word)⟩
  else if width < size then
    match overflow with
    | .fold => w.foldWord width word
    | .ellipsis => w.onNewLine word
  else w.onNewLine word

def lines (w : Wrapping) : List (List Glyph) := w.complete ++ [w.line]

end Wrapping

/-- The lines that a line is broken into. -/
def breakLine (overflow : Overflow) (width : Nat) (line : List Glyph) : List (List Glyph) :=
  match words line with
  | [] => [line]
  | some_ => (some_.foldl (Wrapping.place overflow width) .empty).lines

/-- A line without the blanks at its end. -/
def withoutEndBlanks (line : List Glyph) : List Glyph :=
  line.take (dropEndWhile Text.isBlank (charsOf line)).length

/-- Drops blanks at the end as far as the line has more characters than `width`. -/
def trimExcess (width : Nat) (line : List Glyph) : List Glyph :=
  let blanks := line.length - (withoutEndBlanks line).length
  line.take (line.length - min blanks (line.length - width))

/-- Cuts what is wider than a line. -/
def truncate (overflow : Overflow) (width : Nat) (line : List Glyph) : Except Misfit (List Glyph) :=
  if cells (charsOf line) ≤ width then .ok line
  else
    match overflow with
    | .fold => (fit width (charsOf line)).map (inPartsOf line)
    | .ellipsis => (fit (width - 1) (charsOf line)).map fun text => inPartsOf line (text ++ ['…'])

/-- Moves a line to where it stands. -/
def justified (justify : Justify) (overflow : Overflow) (width : Nat) (line : List Glyph) :
    Except Misfit (List Glyph) :=
  match justify with
  | .start => .ok line
  | .center =>
    (truncate overflow width (withoutEndBlanks line)).map fun bare =>
      glyphs 0 (spaces ((width - cells (charsOf bare)) / 2)) ++ bare
  | .stop =>
    (truncate overflow width (withoutEndBlanks line)).map fun bare =>
      glyphs 0 (spaces (width - cells (charsOf bare))) ++ bare

/-- The lines of a text. -/
def glyphLines : List Glyph → List (List Glyph)
  | [] => [[]]
  | g :: rest =>
    if g.char = '\n' then [] :: glyphLines rest
    else match glyphLines rest with
      | [] => [[g]]
      | line :: more => (g :: line) :: more

/-- Breaks a text into lines of at most `width` cells. -/
def wrap (justify : Justify) (overflow : Overflow) (width : Nat) (text : List Glyph) :
    Except Misfit (List (List Glyph)) :=
  ((glyphLines text).flatMap fun line => breakLine overflow width (expandTabs 0 line)).mapM
    fun piece => do truncate overflow width (← justified justify overflow width (trimExcess width piece))

end EditorAssist.Layout

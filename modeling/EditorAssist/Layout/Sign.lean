import EditorAssist.Layout.Cells
import EditorAssist.Number.Total

/-!
# Signs

A text is a row of signs: characters with all that is attached to them, which are never torn apart.
`signs_flatten` says that nothing of a text is lost. `fit` cuts or pads a text to a number of cells and
`chop` cuts it into pieces that fit a width.

A joiner at the start of a text has nothing to join. Measured as a whole, the text still counts the
character after it as joined, but among the signs that character stands for itself. Where the two
counts differ so that a text has fewer cells than it is to be cut to, it is a `Misfit`.
-/

namespace EditorAssist.Layout

/-- Why a text cannot be cut to a number of cells. -/
inductive Misfit where
  /-- It has fewer cells than that. -/
  | narrow
  /-- It has no cells at all. -/
  | empty
  deriving Repr, DecidableEq

/-- Characters that stay together, and the cells that they take. -/
structure Sign where
  text : List Char
  cells : Nat
  deriving Repr, DecidableEq

/-- A sign with more characters and cells at its end. -/
def Sign.extend (s : Sign) (text : List Char) (cells : Nat) : Sign :=
  ⟨s.text ++ text, s.cells + cells⟩

/-- The signs of a text after an open sign; `last` is the last character that took cells. -/
def signsFrom : (sign : Sign) → (last : Option Char) → List Char → List Sign
  | sign, _, [] => [sign]
  | sign, last, [c] =>
    if c = joiner then [sign.extend [c] 0]
    else if c = emojiSelector then [sign.extend [c] (widening last)]
    else if cellsOf c = 0 then [sign.extend [c] 0]
    else [sign, ⟨[c], cellsOf c⟩]
  | sign, last, c :: next :: rest =>
    if c = joiner then signsFrom (sign.extend [c, next] 0) last rest
    else if c = emojiSelector then
      signsFrom (sign.extend [c] (widening last)) (if widening last = 0 then last else none)
        (next :: rest)
    else if cellsOf c = 0 then signsFrom (sign.extend [c] 0) last (next :: rest)
    else sign :: signsFrom ⟨[c], cellsOf c⟩ (some c) (next :: rest)

/-- The signs of a text. Only the first one can be without cells. -/
def signs : List Char → List Sign
  | [] => []
  | c :: rest =>
    if c = joiner || c = emojiSelector || cellsOf c = 0 then signsFrom ⟨[c], 0⟩ none rest
    else signsFrom ⟨[c], cellsOf c⟩ (some c) rest

theorem signsFrom_flatten (sign : Sign) (last : Option Char) (text : List Char) :
    (signsFrom sign last text).flatMap (·.text) = sign.text ++ text := by
  fun_induction signsFrom sign last text <;> simp_all [Sign.extend]

theorem signs_flatten (text : List Char) : (signs text).flatMap (·.text) = text := by
  cases text with
  | nil => rfl
  | cons c rest =>
    simp only [signs]
    split <;> simp [signsFrom_flatten]

/-- The start of some signs that fills a number of cells; half of a wide sign shows as a space. -/
def cutTo : (total : Nat) → List Sign → List Char
  | 0, _ => []
  | _, [] => []
  | total, sign :: rest =>
    if sign.cells ≤ total then sign.text ++ cutTo (total - sign.cells) rest else [' ']

/-- A text cut or padded with spaces to a number of cells. -/
def fit (total : Nat) (text : List Char) : Except Misfit (List Char) :=
  if total = 0 then .ok []
  else if cells text ≤ total then .ok (text ++ spaces (total - cells text))
  else
    let signs := signs text
    let available := Number.total (signs.map (·.cells))
    if available = 0 then .error .empty
    else if available < total then .error .narrow
    else .ok (cutTo total signs)

/-- Cuts signs into pieces that fit; `used` cells of the last one hold `piece`. A piece without cells is
none. -/
def chopSigns (width : Nat) : (used : Nat) → (piece : List Char) → List Sign → List (List Char)
  | used, piece, [] => if used = 0 then [] else [piece]
  | used, piece, sign :: rest =>
    if width < used + sign.cells then piece :: chopSigns width sign.cells sign.text rest
    else chopSigns width (used + sign.cells) (piece ++ sign.text) rest

/-- Cuts a text into pieces that fit. -/
def chop (width : Nat) (text : List Char) : List (List Char) := chopSigns width 0 [] (signs text)

end EditorAssist.Layout

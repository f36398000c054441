import EditorAssist.Completion.Cursor
import EditorAssist.Payload.Types
import EditorAssist.Text.Blank
import EditorAssist.Text.Search

/-!
# From a suggestion to an edit

A backend sees the text on both sides of the cursor and often repeats some of it. The edit leaves
out an echoed start of the cursor line and deletes what follows the cursor and is already part of
the insertion, so that accepting a suggestion never duplicates code.
-/

namespace EditorAssist.Completion

open EditorAssist.Text EditorAssist.Payload

/-- Longest label. -/
def labelLimit : Nat := 20

/-- Brackets that close what is open before the cursor. -/
def isCloser (c : Char) : Bool := c = ')' || c = '\x7d' || c = ']' || c = '>'

/-- The largest size up to `bound` whose tail of `text` starts `suffix`. -/
def overlapUpTo (text suffix : List Char) : (bound : Nat) → Nat
  | 0 => 0
  | size + 1 =>
    if text.drop (text.length - (size + 1)) = suffix.take (size + 1) then size + 1
    else overlapUpTo text suffix size

/-- Length of the longest tail of `text` that starts `suffix`; spaces and tabs at the end of `text`
do not count. -/
def overlap (text suffix : List Char) : Nat :=
  let visible := dropEndWhile isIndent text
  overlapUpTo visible suffix (min visible.length suffix.length)

/-- Whether a closer stands alone at the start of the rest of a line. -/
def isIsolatedCloser : List Char → Bool
  | [] => false
  | c :: rest => isCloser c && (rest.all isIndent || rest.head? = some '\r' || rest.head? = some '\n')

/-- What is inserted, and what is deleted with it. -/
structure SynthesizedEdit where
  /-- Short display text. -/
  label : List Char
  /-- Text inserted at the cursor. -/
  text : List Char
  /-- Position just after the inserted text. -/
  stop : Position
  /-- Deletions of duplicated text after the cursor. -/
  deletions : List TextEdit
  deriving Repr, DecidableEq

/-- Deletes `length` characters at a position. -/
def deletion (position : Position) (length : Nat) : TextEdit :=
  ⟨⟨position, ⟨position.line, position.character + length⟩⟩, ""⟩

/-- The trimmed suggestion without an echo of the cursor line. -/
def insertion (raw lastLine : List Char) : List Char :=
  match strip? (trim lastLine) (trim raw) with
  | some rest => trim rest
  | none => trim raw

/-- The position after inserting `text` at `position`. -/
def endOfInsertion (text : List Char) (position : Position) : Position :=
  let pieces := lines text
  let width : Int := (pieces.getLastD []).length
  if pieces.length = 1 then ⟨position.line, position.character + width⟩
  else ⟨position.line + (pieces.length - 1 : Nat), width⟩

/-- The first line, or the start of the text when that line is short and the text is not. -/
def labelOf (text : List Char) : List Char :=
  let first := (lines text).headD []
  if first.length ≤ labelLimit && labelLimit < text.length then trim (text.take labelLimit) else first

/-- The deletions that go with an insertion ending at `stop`. -/
def deletionsAt (text after : List Char) (stop : Position) : List TextEdit :=
  let size := overlap text after
  if 0 < size then [deletion stop size]
  else if isIsolatedCloser after then [deletion stop 1]
  else []

/-- The edit for a suggestion at a cursor. -/
def synthesize (raw : List Char) (context : CursorContext) (position : Position) : SynthesizedEdit :=
  let text := insertion raw context.lastLine
  let stop := endOfInsertion text position
  { label := labelOf text
    text
    stop
    deletions := deletionsAt text context.contentImmediatelyAfter stop }

/-- The completion item offered for a suggestion: plain text, preselected and sorted first. -/
def completionItem (raw : List Char) (context : CursorContext) (position : Position) :
    CompletionItem :=
  let edit := synthesize raw context position
  { label := String.ofList edit.label
    kind := some 1
    detail := some (String.ofList edit.text)
    insertText := some (String.ofList edit.text)
    insertTextFormat := some 1
    sortText := some "00000"
    preselect := some true
    additionalTextEdits := some edit.deletions }

end EditorAssist.Completion

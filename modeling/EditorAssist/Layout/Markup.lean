import EditorAssist.Layout.Emoji
import EditorAssist.Layout.Parameters
import EditorAssist.Layout.Style
import EditorAssist.Layout.Wrap

/-!
# Markup

Texts for the terminal carry styles as tags in square brackets: an opening tag starts with a
lower-case letter, `#` or `@`, a closing one with a slash. Backslashes before a tag escape it. Styles are
not shown here; what remains of a text is the text between its tags, with emoji for their names. A closing
tag needs an open one whose name has the same normal form, and the parameters of a handler have to be
readable when its tag is closed.
-/

namespace EditorAssist.Layout

open EditorAssist.Text

/-- Why a text is no markup. -/
inductive MarkupFault where
  /-- A closing tag without an open one of its name. -/
  | unmatched (name : List Char)
  /-- A closing tag without a name where no tag is open. -/
  | nothingOpen
  /-- Parameters of a handler that cannot be read. -/
  | parameters (text : List Char)
  /-- A name that gives a colour a component that is no number. -/
  | component
  deriving Repr, DecidableEq

/-- An opening tag: a name and what stands after an equals sign. -/
structure Tag where
  name : List Char
  parameters : List Char
  deriving Repr, DecidableEq

/-- A tag that is open and the place in the text between the tags where it was opened. -/
structure OpenTag extends Tag where
  start : Nat
  deriving Repr, DecidableEq

/-- What remains of a text with markup. -/
structure Content where
  text : List Char
  /-- The stretches whose style cannot be read. -/
  unreadable : List Stretch
  deriving Repr, DecidableEq

/-- A part of a text with markup. -/
inductive Span where
  | text (content : List Char)
  /-- Text that stands for itself, such as an escaped tag. -/
  | verbatim (content : List Char)
  | opening (tag : Tag)
  | closing (name : List Char)
  deriving Repr, DecidableEq

/-- What a tag can start with. -/
def startsTag (c : Char) : Bool := ('a' ≤ c && c ≤ 'z') || c = '#' || c = '/' || c = '@'

/-- The content of a tag up to its closing bracket, and what follows. -/
def tagContent : List Char → Option (List Char × List Char)
  | [] => none
  | c :: rest =>
    if c = ']' then some ([], rest)
    else if c = '[' then none
    else (tagContent rest).map fun (content, after) => (c :: content, after)

theorem length_tagContent_lt {text content after : List Char}
    (h : tagContent text = some (content, after)) : after.length < text.length := by
  induction text generalizing content with
  | nil => simp [tagContent] at h
  | cons c rest ih =>
    simp only [tagContent] at h
    split at h
    · simp only [Option.some.injEq, Prod.mk.injEq] at h
      simp [← h.2]
    · split at h
      · cases h
      · simp only [Option.map_eq_some_iff, Prod.mk.injEq, Prod.exists] at h
        obtain ⟨more, tail, found, _, rfl⟩ := h
        exact Nat.lt_trans (ih found) (Nat.lt_succ_self _)

/-- The tag that a text starts with, without its brackets, and what follows it. -/
def tag? : List Char → Option (List Char × List Char)
  | '[' :: c :: rest =>
    if startsTag c then (tagContent rest).map fun (content, after) => (c :: content, after) else none
  | _ => none

theorem length_tag?_lt {text content after : List Char} (h : tag? text = some (content, after)) :
    after.length < text.length := by
  unfold tag? at h
  split at h
  · next c rest =>
    split at h
    · simp only [Option.map_eq_some_iff, Prod.mk.injEq, Prod.exists] at h
      obtain ⟨more, tail, found, _, rfl⟩ := h
      have := length_tagContent_lt found
      simp only [List.length_cons]
      omega
    · cases h
  · cases h

/-- The span of a tag. -/
def tagSpan (content : List Char) : Span :=
  let name := content.takeWhile (· ≠ '=')
  match name with
  | '/' :: rest => .closing (trim rest)
  | _ => .opening ⟨name, content.drop (name.length + 1)⟩

/-- Adds a character to the text at the front. -/
def consText (c : Char) : List Span → List Span
  | .text content :: rest => .text (c :: content) :: rest
  | spans => .text [c] :: spans

/-- The spans of a text; `slashes` backslashes stand right before it. -/
def spansFrom (slashes : Nat) (text : List Char) : List Span :=
  let literally (spans : List Span) : List Span := Nat.repeat (consText '\\') slashes spans
  match h : tag? text with
  | some (content, after) =>
    have := length_tag?_lt h
    let kept := if slashes < 2 then [] else [.verbatim (List.replicate (slashes / 2) '\\')]
    let span := if slashes % 2 = 0 then tagSpan content
      else .verbatim ('[' :: content ++ [']'])
    kept ++ span :: spansFrom 0 after
  | none =>
    match text with
    | [] => literally []
    | c :: rest =>
      if c = '\\' then spansFrom (slashes + 1) rest else literally (consText c (spansFrom 0 rest))
termination_by text.length
decreasing_by
  all_goals simp_all

/-- The spans of a text. -/
def spans (text : List Char) : List Span := spansFrom 0 text

/-- Text in which a backslash before an opening bracket is not shown. -/
def unescapeBrackets : List Char → List Char
  | '\\' :: '[' :: rest => '[' :: unescapeBrackets rest
  | c :: rest => c :: unescapeBrackets rest
  | [] => []

/-- The innermost open tag of a name, and the other ones. -/
def closeTag (name : List Char) : List OpenTag → Option (OpenTag × List OpenTag)
  | [] => none
  | inner :: outer =>
    if inner.name = name then some (inner, outer)
    else (closeTag name outer).map fun (tag, others) => (tag, inner :: others)

/-- The name of a tag in its normal form. -/
def normalName (name : List Char) : Except MarkupFault (List Char) :=
  (normalStyle name).mapError fun _ => .component

/-- Checks a tag that is closed: `@` starts the name of a handler. -/
def Tag.check (tag : Tag) : Except MarkupFault Unit :=
  if tag.name.head? = some '@' && !tag.parameters.isEmpty && !Parameters.isReadable tag.parameters then
    .error (.parameters tag.parameters)
  else .ok ()

/-- The tag that is closed, the innermost one if `name` is empty, and those that stay open. -/
def close (name : List Char) (opened : List OpenTag) :
    Except MarkupFault (OpenTag × List OpenTag) := do
  let (tag, others) ←
    if name.isEmpty then
      match opened with
      | [] => throw .nothingOpen
      | tag :: outer => pure (tag, outer)
    else
      match closeTag (← normalName name) opened with
      | none => throw (.unmatched name)
      | some found => pure found
  tag.check
  return (tag, others)

/-- The stretch of a tag that is closed at a place, if its style cannot be read, the parameters included.
What is no style at all does no harm, and a handler is none. -/
def OpenTag.unreadable? (tag : OpenTag) (place : Nat) : Option Stretch :=
  if tag.name.head? = some '@' then none
  else
    match normalName (tag.name ++ ' ' :: tag.parameters) with
    | .ok _ => none
    | .error _ => some ⟨tag.start, place⟩

/-- Puts text in front. -/
def Content.after (before : List Char) (content : Content) : Content :=
  { content with text := before ++ content.text }

/-- What remains of spans at a place of the text, where the tags in `opened` are open, the innermost
first. -/
def contentFrom : (place : Nat) → (opened : List OpenTag) → List Span → Except MarkupFault Content
  | place, opened, [] => .ok ⟨[], opened.filterMap (·.unreadable? place)⟩
  | place, opened, .text content :: rest =>
    let piece := shown (withEmoji (unescapeBrackets content))
    (contentFrom (place + piece.length) opened rest).map (·.after piece)
  | place, opened, .verbatim content :: rest =>
    let piece := shown (withEmoji content)
    (contentFrom (place + piece.length) opened rest).map (·.after piece)
  | place, opened, .opening tag :: rest => do
    let name ← normalName tag.name
    contentFrom place (⟨⟨name, tag.parameters⟩, place⟩ :: opened) rest
  | place, opened, .closing name :: rest => do
    let (tag, others) ← close name opened
    let content ← contentFrom place others rest
    return { content with unreadable := (tag.unreadable? place).toList ++ content.unreadable }

/-- What remains of a text when its tags are taken out. -/
def content (text : List Char) : Except MarkupFault Content := contentFrom 0 [] (spans text)

/-- Doubles backslashes before what looks like a tag and adds one more, so that it is no tag. -/
def escapeFrom (slashes : Nat) (text : List Char) : List Char :=
  match h : tag? text with
  | some (content, after) =>
    have := length_tag?_lt h
    List.replicate (2 * slashes + 1) '\\' ++ '[' :: content ++ ']' :: escapeFrom 0 after
  | none =>
    match text with
    | [] => List.replicate slashes '\\'
    | c :: rest =>
      if c = '\\' then escapeFrom (slashes + 1) rest
      else List.replicate slashes '\\' ++ c :: escapeFrom 0 rest
termination_by text.length
decreasing_by
  all_goals simp_all

/-- A text as markup that stands for it; a single backslash at the end is doubled, because a tag may
follow it. -/
def escape (text : List Char) : List Char :=
  let escaped := escapeFrom 0 text
  match escaped.reverse with
  | '\\' :: '\\' :: _ => escaped
  | '\\' :: _ => escaped ++ ['\\']
  | _ => escaped

end EditorAssist.Layout

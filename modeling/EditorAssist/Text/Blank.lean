/-!
# Blank characters

The white space of running text: the Unicode characters of bidirectional class WS, B or S together
with the space separators. Trimming and blankness of lines are defined from this one class.
Indentation is a narrower notion (spaces and tabs only) and lives in `EditorAssist.Text.Indent`.
-/

namespace EditorAssist.Text

/-- Inclusive code point ranges of the blank characters. -/
def blankRanges : List (Nat × Nat) :=
  [(0x9, 0xD), (0x1C, 0x20), (0x85, 0x85), (0xA0, 0xA0), (0x1680, 0x1680), (0x2000, 0x200A),
   (0x2028, 0x2029), (0x202F, 0x202F), (0x205F, 0x205F), (0x3000, 0x3000)]

/-- Membership of a code point in a list of inclusive ranges. -/
def inRanges (ranges : List (Nat × Nat)) (code : Nat) : Bool :=
  ranges.any fun range => range.1 ≤ code && code ≤ range.2

/-- White space of running text. -/
def isBlank (c : Char) : Bool := inRanges blankRanges c.toNat

/-- The characters with the property White_Space: all blanks but the information separators. -/
def isWhiteSpace (c : Char) : Bool := isBlank c && !(0x1C ≤ c.toNat && c.toNat ≤ 0x1F)

/-- Spaces and tabs, the characters that indent a line. -/
def isIndent (c : Char) : Bool := c = ' ' || c = '\t'

/-- The ASCII white space of header lines. -/
def isAsciiBlank (c : Char) : Bool :=
  c = ' ' || (0x9 ≤ c.toNat && c.toNat ≤ 0xD)

/-- Drops the longest run of `p` at the end. -/
def dropEndWhile (p : Char → Bool) (text : List Char) : List Char :=
  (text.reverse.dropWhile p).reverse

/-- Drops the longest runs of `p` on both sides. -/
def trimBoth (p : Char → Bool) (text : List Char) : List Char :=
  dropEndWhile p (text.dropWhile p)

/-- Drops blank characters on both sides. -/
def trim (text : List Char) : List Char := trimBoth isBlank text

/-- Drops ASCII white space on both sides. -/
def trimAscii (text : List Char) : List Char := trimBoth isAsciiBlank text

/-- A text without a visible character. -/
def isBlankText (text : List Char) : Bool := text.all isBlank

/-- The words of a text, without the blanks between them. -/
def blankSeparated (text : List Char) : List (List Char) :=
  (text.splitBy fun a b => isBlank a == isBlank b).filter fun piece => !isBlankText piece

theorem isBlank_of_isWhitespace {c : Char} (h : c.isWhitespace = true) : isBlank c = true := by
  simp only [Char.isWhitespace, Bool.or_eq_true, decide_eq_true_eq] at h
  rcases h with ((h | h) | h) | h <;> subst h <;> decide

end EditorAssist.Text

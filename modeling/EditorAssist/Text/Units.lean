/-!
# UTF-16 units

A character is one unit, or two of them that form a surrogate pair. Escapes in JSON name units, so
they can name half of a pair by itself, which is no character. Text holds such a half as a stand-in,
the character of plane thirteen, where none is assigned, whose code ends in the same digits. A
stand-in shows as the half, and it keeps a text from being encoded, because UTF-8 has no halves.
-/

namespace EditorAssist.Text

def isHighSurrogate (unit : Nat) : Bool := 0xD800 ≤ unit && unit < 0xDC00
def isLowSurrogate (unit : Nat) : Bool := 0xDC00 ≤ unit && unit < 0xE000

/-- The character of two UTF-16 units. -/
def joinSurrogates (high low : Nat) : Char :=
  Char.ofNat (0x10000 + (high - 0xD800) * 0x400 + (low - 0xDC00))

/-- How far a stand-in lies above its half. -/
def standInOffset : Nat := 0xD0000

/-- The character of a single unit; half of a pair has a stand-in. -/
def unitChar (unit : Nat) : Char :=
  if isHighSurrogate unit || isLowSurrogate unit then Char.ofNat (standInOffset + unit)
  else Char.ofNat unit

/-- The half that a character stands in for. -/
def half? (c : Char) : Option Nat :=
  let unit := c.toNat - standInOffset
  if isHighSurrogate unit || isLowSurrogate unit then some unit else none

/-- Whether half of a pair is in a text. -/
def hasHalf (text : List Char) : Bool := text.any fun c => (half? c).isSome

/-- The UTF-16 units of a character. -/
def units16 (c : Char) : List Nat :=
  match half? c with
  | some unit => [unit]
  | none =>
    if c.toNat < 0x10000 then [c.toNat]
    else [0xD800 + (c.toNat - 0x10000) / 0x400, 0xDC00 + (c.toNat - 0x10000) % 0x400]

/-- Four lower-case hexadecimal digits. -/
def hex4 (n : Nat) : List Char :=
  [n / 4096 % 16, n / 256 % 16, n / 16 % 16, n % 16].map Nat.digitChar

/-- A UTF-16 unit in escaped form. -/
def unitEscape (unit : Nat) : List Char := '\\' :: 'u' :: hex4 unit

/-- The first halves in a text that stand side by side, and the number of characters before them. -/
def firstHalves (text : List Char) : Nat × List Nat :=
  let found := text.dropWhile fun c => (half? c).isNone
  (text.length - found.length, (found.takeWhile fun c => (half? c).isSome).filterMap half?)

/-- Why a text cannot be encoded, if it cannot: the first halves in it, by their place. -/
def encodingRefusal? (text : List Char) : Option String :=
  let (offset, halves) := firstHalves text
  let told (place : String) : Option String :=
    some ("'utf-8' codec can't encode " ++ place ++ ": surrogates not allowed")
  match halves with
  | [] => none
  | [unit] =>
    told ("character '" ++ String.ofList (unitEscape unit) ++ "' in position " ++ toString offset)
  | run =>
    told ("characters in position " ++ toString offset ++ "-" ++ toString (offset + run.length - 1))

end EditorAssist.Text

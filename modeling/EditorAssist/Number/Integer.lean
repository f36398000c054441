import EditorAssist.Text.Blank

/-!
# Reading integers

Integers are written as an optional sign and decimal digits, with single underscores allowed
between digits. Header fields, configuration values and message fields read this one grammar over
different digits and different blanks around it.
-/

namespace EditorAssist.Number

open EditorAssist.Text

/-- Longest run of digits that is read. -/
def maxDigits : Nat := 4300

/-- Value of an ASCII digit. -/
def asciiDigit? (c : Char) : Option Nat :=
  if '0' ≤ c && c ≤ '9' then some (c.toNat - '0'.toNat) else none

/-- The zeros of the decimal digit runs of Unicode; each run holds ten digits in order. -/
def digitZeros : List Nat :=
  [0x30, 0x660, 0x6F0, 0x7C0, 0x966, 0x9E6, 0xA66, 0xAE6, 0xB66, 0xBE6, 0xC66, 0xCE6, 0xD66, 0xDE6,
    0xE50, 0xED0, 0xF20, 0x1040, 0x1090, 0x17E0, 0x1810, 0x1946, 0x19D0, 0x1A80, 0x1A90, 0x1B50,
    0x1BB0, 0x1C40, 0x1C50, 0xA620, 0xA8D0, 0xA900, 0xA9D0, 0xA9F0, 0xAA50, 0xABF0, 0xFF10, 0x104A0,
    0x10D30, 0x11066, 0x110F0, 0x11136, 0x111D0, 0x112F0, 0x11450, 0x114D0, 0x11650, 0x116C0,
    0x11730, 0x118E0, 0x11950, 0x11C50, 0x11D50, 0x11DA0, 0x16A60, 0x16AC0, 0x16B50, 0x1D7CE,
    0x1D7D8, 0x1D7E2, 0x1D7EC, 0x1D7F6, 0x1E140, 0x1E2F0, 0x1E950, 0x1FBF0]

/-- Value of a decimal digit of any script. -/
def decimalDigit? (c : Char) : Option Nat :=
  (digitZeros.find? fun first => first ≤ c.toNat && c.toNat < first + 10).map (c.toNat - ·)

/-- Reads digits to the end of the text; `joined` says that the last character was a digit. -/
def groupedDigits (digit? : Char → Option Nat) : (value count : Nat) → (joined : Bool) →
    List Char → Option Nat
  | value, count, joined, [] => if joined && count ≤ maxDigits then some value else none
  | value, count, joined, c :: rest =>
    if c = '_' then
      if joined then groupedDigits digit? value count false rest else none
    else match digit? c with
      | some d => groupedDigits digit? (10 * value + d) (count + 1) true rest
      | none => none

/-- Reads an optional sign and grouped digits. -/
def signed? (digit? : Char → Option Nat) : List Char → Option Int
  | '-' :: rest => (groupedDigits digit? 0 0 false rest).map fun n => -(n : Int)
  | '+' :: rest => (groupedDigits digit? 0 0 false rest).map fun n => (n : Int)
  | text => (groupedDigits digit? 0 0 false text).map fun n => (n : Int)

/-- Reads an ASCII integer with ASCII blanks around it, as header values are written. -/
def headerInteger? (text : List Char) : Option Int :=
  signed? asciiDigit? (trimAscii text)

/-- Reads an integer in the digits of any script, with white space around it. -/
def integer? (text : List Char) : Option Int := signed? decimalDigit? (trimBoth isWhiteSpace text)

end EditorAssist.Number

import EditorAssist.Text.Printable
import EditorAssist.Text.Quoted

/-!
# Literals in running text

A text quoted for a reader: in single quotes unless it holds a single and no double quote, with
escapes for backslashes, the quote itself and every character that is not printable.
-/

namespace EditorAssist.Text

/-- `count` lower-case hexadecimal digits of a number. -/
def hexDigits (count n : Nat) : List Char :=
  (List.range count).map fun i => Nat.digitChar ((n >>> (4 * (count - 1 - i))) % 16)

/-- One character of a literal delimited by `delimiter`. -/
def literalChar (delimiter c : Char) : List Char :=
  if c = delimiter || c = '\\' then ['\\', c]
  else if c = '\n' then ['\\', 'n']
  else if c = '\r' then ['\\', 'r']
  else if c = '\t' then ['\\', 't']
  else if isPrintable c then [c]
  else if let some unit := half? c then unitEscape unit
  else if c.toNat < 0x100 then '\\' :: 'x' :: hexDigits 2 c.toNat
  else if c.toNat < 0x10000 then '\\' :: 'u' :: hexDigits 4 c.toNat
  else '\\' :: 'U' :: hexDigits 8 c.toNat

/-- The quote that delimits a literal. -/
def literalDelimiter (text : List Char) : Char :=
  if text.contains '\'' && !text.contains '"' then '"' else '\''

def literal (text : List Char) : List Char :=
  let delimiter := literalDelimiter text
  delimiter :: text.flatMap (literalChar delimiter) ++ [delimiter]

end EditorAssist.Text

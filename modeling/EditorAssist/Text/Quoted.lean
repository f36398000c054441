import EditorAssist.Text.Units
import EditorAssist.Text.Utf8

/-!
# Quoted strings

The escapes of JSON strings, in two dialects: one leaves characters outside ASCII as they are, the
other writes their UTF-16 units, and the delete character, in hexadecimal.
-/

namespace EditorAssist.Text

/-- The written form of one character; `ascii` asks for escapes outside the
printable ASCII characters. -/
def escapeChar (ascii : Bool) (c : Char) : List Char :=
  if c = '"' then ['\\', '"']
  else if c = '\\' then ['\\', '\\']
  else if c = '\n' then ['\\', 'n']
  else if c = '\r' then ['\\', 'r']
  else if c = '\t' then ['\\', 't']
  else if c = '\x08' then ['\\', 'b']
  else if c = '\x0c' then ['\\', 'f']
  else if c.toNat < 0x20 then unitEscape c.toNat
  else if ascii && 0x7F ≤ c.toNat then (units16 c).flatMap unitEscape
  else [c]

/-- A JSON string literal. -/
def quote (ascii : Bool) (text : List Char) : List Char :=
  '"' :: text.flatMap (escapeChar ascii) ++ ['"']

end EditorAssist.Text

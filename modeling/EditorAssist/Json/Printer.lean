import EditorAssist.Json.Value
import EditorAssist.Number.Shortest
import EditorAssist.Text.Quoted

/-!
# Writing JSON

Three layouts share one printer: compact without spaces, one line with a space after each separator,
and indented with one entry a line. Special doubles are written as `NaN`, `Infinity` and `-Infinity`.
-/

namespace EditorAssist.Json

open EditorAssist.Text EditorAssist.Number

/-- How a value is laid out. -/
structure Style where
  /-- Escape characters outside ASCII. -/
  ascii : Bool
  /-- A space after commas and colons. -/
  spaced : Bool
  deriving Repr, DecidableEq

/-- The form used on the wire and in records. -/
def Style.compact : Style := ⟨false, false⟩

/-- Compact and within ASCII. -/
def Style.ascii7 : Style := ⟨true, false⟩

/-- Text of an integer. -/
def intText (i : Int) : List Char :=
  if i < 0 then '-' :: digits i.natAbs else digits i.natAbs

def numberNames : SpecialNames := ⟨"NaN", "Infinity"⟩

def numberText (x : Float) : List Char := floatText numberNames x

def Style.comma (style : Style) : List Char := if style.spaced then [',', ' '] else [',']
def Style.colon (style : Style) : List Char := if style.spaced then [':', ' '] else [':']

mutual

/-- Writes a value on one line. -/
def print (style : Style) : Value → List Char
  | .null => "null".toList
  | .bool b => (if b then "true" else "false").toList
  | .int i => intText i
  | .float x => numberText x
  | .str s => quote style.ascii s.toList
  | .arr items => '[' :: printItems style items ++ [']']
  | .obj entries => '\x7b' :: printEntries style entries ++ ['\x7d']

def printItems (style : Style) : List Value → List Char
  | [] => []
  | [item] => print style item
  | item :: next :: more => print style item ++ style.comma ++ printItems style (next :: more)

def printEntry (style : Style) : String × Value → List Char
  | (key, value) => quote style.ascii key.toList ++ style.colon ++ print style value

def printEntries (style : Style) : List (String × Value) → List Char
  | [] => []
  | [entry] => printEntry style entry
  | entry :: next :: more =>
    printEntry style entry ++ style.comma ++ printEntries style (next :: more)

end

theorem print_arr (items : List Value) (rest : List Char) :
    print .compact (.arr items) ++ rest = '[' :: (printItems .compact items ++ ']' :: rest) := by
  simp [print]

theorem print_obj (entries : Entries) (rest : List Char) :
    print .compact (.obj entries) ++ rest = '\x7b' :: (printEntries .compact entries ++ '\x7d' :: rest) := by
  simp [print]

/-- The wire form of a value. -/
def Value.compact (v : Value) : String := String.ofList (print .compact v)

/-- A line break followed by two spaces for each level. -/
def breakLine (level : Nat) : List Char := '\n' :: List.replicate (2 * level) ' '

mutual

/-- Writes a value over several lines, escaping outside ASCII. -/
def printIndented (level : Nat) : Value → List Char
  | .arr (item :: more) =>
    '[' :: breakLine (level + 1) ++ indentedItems (level + 1) (item :: more)
      ++ breakLine level ++ [']']
  | .obj (entry :: more) =>
    '\x7b' :: breakLine (level + 1) ++ indentedEntries (level + 1) (entry :: more)
      ++ breakLine level ++ ['\x7d']
  | .arr [] => ['[', ']']
  | .obj [] => ['\x7b', '\x7d']
  | .null => "null".toList
  | .bool b => (if b then "true" else "false").toList
  | .int i => intText i
  | .float x => numberText x
  | .str s => quote true s.toList

def indentedItems (level : Nat) : List Value → List Char
  | [] => []
  | [item] => printIndented level item
  | item :: next :: more =>
    printIndented level item ++ ',' :: breakLine level ++ indentedItems level (next :: more)

def indentedEntry (level : Nat) : String × Value → List Char
  | (key, value) => quote true key.toList ++ ':' :: ' ' :: printIndented level value

def indentedEntries (level : Nat) : List (String × Value) → List Char
  | [] => []
  | [entry] => indentedEntry level entry
  | entry :: next :: more =>
    indentedEntry level entry ++ ',' :: breakLine level ++ indentedEntries level (next :: more)

end

end EditorAssist.Json

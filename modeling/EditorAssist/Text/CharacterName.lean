import EditorAssist.Number.Total
import EditorAssist.Text.Blank
import EditorAssist.Text.NameTable
import EditorAssist.Text.Search

/-!
# Character names

Every character can be told by its name, in letters of either case. The names of Hangul syllables say how
they sound, and those of unified ideographs what their code is; both are in capitals only. All other
names are in a table.
-/

namespace EditorAssist.Text

/-- The names of some entries, each of which may share its start with the name before it. -/
def namesFrom : (previous : List Char) → (entries : List (List Char)) → List (List Char)
  | _, [] => []
  | previous, entry :: rest =>
    let letters := entry.takeWhile Char.isLower
    let shared := previous.take (Number.total (letters.map fun c => c.toNat - 'a'.toNat))
    let name := shared ++ (entry.drop letters.length).map fun c => if c = '_' then ' ' else c
    name :: namesFrom name rest

/-- The names in the table that start with a letter. -/
def namesWith (initial : Char) : List (List Char) :=
  namesFrom [] (blankSeparated (nameTable initial).toList)

/-- Whether a text is a name in the table. -/
def isTableName (text : List Char) : Bool :=
  let name := text.map Char.toUpper
  match name with
  | [] => false
  | initial :: _ => (namesWith initial).contains name

/-- The sounds that Hangul syllables begin with. -/
def initialSounds : List String :=
  ["G", "GG", "N", "D", "DD", "R", "M", "B", "BB", "S", "SS", "", "J", "JJ", "C", "K", "T", "P", "H"]

/-- The vowels of Hangul syllables. -/
def vowelSounds : List String :=
  ["A", "AE", "YA", "YAE", "EO", "E", "YEO", "YE", "O", "WA", "WAE", "OE", "YO", "U", "WEO", "WE", "WI",
   "YU", "EU", "YI", "I"]

/-- The sounds that Hangul syllables end with. -/
def finalSounds : List String :=
  ["", "G", "GG", "GS", "N", "NJ", "NH", "D", "L", "LG", "LM", "LB", "LS", "LT", "LP", "LH", "M", "B", "BS",
   "S", "SS", "NG", "J", "C", "K", "T", "P", "H"]

/-- What follows the longest of some pieces that a text starts with. -/
def afterLongest? (pieces : List String) (text : List Char) : Option (List Char) :=
  (pieces.filterMap fun piece => strip? piece.toList text).foldl
    (fun shortest? rest =>
      match shortest? with
      | some shortest => if rest.length < shortest.length then some rest else some shortest
      | none => some rest)
    none

/-- Whether a text spells the sounds of a syllable. -/
def isSyllable (text : List Char) : Bool :=
  (((afterLongest? initialSounds text).bind (afterLongest? vowelSounds)).bind
    (afterLongest? finalSounds)) = some []

/-- Code points of the unified ideographs. -/
def ideographRanges : List (Nat × Nat) :=
  [(0x3400, 0x4DBF), (0x4E00, 0x9FFF), (0x20000, 0x2A6DF), (0x2A700, 0x2B738), (0x2B740, 0x2B81D),
   (0x2B820, 0x2CEA1), (0x2CEB0, 0x2EBE0), (0x30000, 0x3134A)]

/-- Value of a hexadecimal digit, which is no small letter. -/
def capitalHexDigit? (c : Char) : Option Nat :=
  if '0' ≤ c && c ≤ '9' then some (c.toNat - '0'.toNat)
  else if 'A' ≤ c && c ≤ 'F' then some (c.toNat - 'A'.toNat + 10)
  else none

/-- Whether a text is the code of a unified ideograph in four or five hexadecimal digits. -/
def isIdeographCode (text : List Char) : Bool :=
  (text.length = 4 || text.length = 5) &&
    ((text.mapM capitalHexDigit?).map (·.foldl (16 * · + ·) 0)).any (inRanges ideographRanges)

/-- Whether a text is the name of a character. -/
def isCharacterName (text : List Char) : Bool :=
  match strip? "HANGUL SYLLABLE ".toList text, strip? "CJK UNIFIED IDEOGRAPH-".toList text with
  | some sounds, _ => isSyllable sounds
  | none, some code => isIdeographCode code
  | none, none => isTableName text

end EditorAssist.Text

import EditorAssist.Number.Integer
import EditorAssist.Text.LowerCase
import EditorAssist.Text.Search

/-!
# Styles

A style is described by words: attributes, each of them set or, after `not`, unset; a colour; a
background colour after `on`; and the address of a link after `link`. Descriptions of one style have
one normal form.
-/

namespace EditorAssist.Layout

open EditorAssist.Number EditorAssist.Text

/-- Why a text describes no style. -/
inductive StyleFault where
  /-- A word that has no meaning, or none at its place. -/
  | unknown
  /-- A component of a colour that is no number. -/
  | component
  deriving Repr, DecidableEq

/-- What can be set and unset, in the order of the normal form. -/
inductive Attribute where
  | bold
  | dim
  | italic
  | underline
  | blink
  | blink2
  | reverse
  | conceal
  | strike
  | underline2
  | frame
  | encircle
  | overline
  deriving Repr, DecidableEq

namespace Attribute

def all : List Attribute :=
  [.bold, .dim, .italic, .underline, .blink, .blink2, .reverse, .conceal, .strike, .underline2, .frame,
   .encircle, .overline]

def name : Attribute → String
  | bold => "bold"
  | dim => "dim"
  | italic => "italic"
  | underline => "underline"
  | blink => "blink"
  | blink2 => "blink2"
  | reverse => "reverse"
  | conceal => "conceal"
  | strike => "strike"
  | underline2 => "underline2"
  | frame => "frame"
  | encircle => "encircle"
  | overline => "overline"

/-- The short name, if there is one. -/
def shortName? : Attribute → Option String
  | bold => some "b"
  | dim => some "d"
  | italic => some "i"
  | underline => some "u"
  | reverse => some "r"
  | conceal => some "c"
  | strike => some "s"
  | underline2 => some "uu"
  | overline => some "o"
  | _ => none

def ofName? (name : String) : Option Attribute :=
  all.find? fun a => a.name == name || a.shortName? == some name

end Attribute

/-- The colours that have a name. -/
def colourNames : List String :=
  ["black", "red", "green", "yellow", "blue", "magenta", "cyan", "white", "bright_black",
   "bright_red", "bright_green", "bright_yellow", "bright_blue", "bright_magenta", "bright_cyan",
   "bright_white", "grey0", "gray0", "navy_blue", "dark_blue", "blue3", "blue1", "dark_green",
   "deep_sky_blue4", "dodger_blue3", "dodger_blue2", "green4", "spring_green4", "turquoise4",
   "deep_sky_blue3", "dodger_blue1", "green3", "spring_green3", "dark_cyan", "light_sea_green",
   "deep_sky_blue2", "deep_sky_blue1", "spring_green2", "cyan3", "dark_turquoise", "turquoise2",
   "green1", "spring_green1", "medium_spring_green", "cyan2", "cyan1", "dark_red", "deep_pink4",
   "purple4", "purple3", "blue_violet", "orange4", "grey37", "gray37", "medium_purple4",
   "slate_blue3", "royal_blue1", "chartreuse4", "dark_sea_green4", "pale_turquoise4", "steel_blue",
   "steel_blue3", "cornflower_blue", "chartreuse3", "cadet_blue", "sky_blue3", "steel_blue1",
   "pale_green3", "sea_green3", "aquamarine3", "medium_turquoise", "chartreuse2", "sea_green2",
   "sea_green1", "aquamarine1", "dark_slate_gray2", "dark_magenta", "dark_violet", "purple",
   "light_pink4", "plum4", "medium_purple3", "slate_blue1", "yellow4", "wheat4", "grey53", "gray53",
   "light_slate_grey", "light_slate_gray", "medium_purple", "light_slate_blue", "dark_olive_green3",
   "dark_sea_green", "light_sky_blue3", "sky_blue2", "dark_sea_green3", "dark_slate_gray3",
   "sky_blue1", "chartreuse1", "light_green", "pale_green1", "dark_slate_gray1", "red3",
   "medium_violet_red", "magenta3", "dark_orange3", "indian_red", "hot_pink3", "medium_orchid3",
   "medium_orchid", "medium_purple2", "dark_goldenrod", "light_salmon3", "rosy_brown", "grey63",
   "gray63", "medium_purple1", "gold3", "dark_khaki", "navajo_white3", "grey69", "gray69",
   "light_steel_blue3", "light_steel_blue", "yellow3", "dark_sea_green2", "light_cyan3",
   "light_sky_blue1", "green_yellow", "dark_olive_green2", "dark_sea_green1", "pale_turquoise1",
   "deep_pink3", "magenta2", "hot_pink2", "orchid", "medium_orchid1", "orange3", "light_pink3",
   "pink3", "plum3", "violet", "light_goldenrod3", "tan", "misty_rose3", "thistle3", "plum2",
   "khaki3", "light_goldenrod2", "light_yellow3", "grey84", "gray84", "light_steel_blue1",
   "yellow2", "dark_olive_green1", "honeydew2", "light_cyan1", "red1", "deep_pink2", "deep_pink1",
   "magenta1", "orange_red1", "indian_red1", "hot_pink", "dark_orange", "salmon1", "light_coral",
   "pale_violet_red1", "orchid2", "orchid1", "orange1", "sandy_brown", "light_salmon1",
   "light_pink1", "pink1", "plum1", "gold1", "navajo_white1", "misty_rose1", "thistle1", "yellow1",
   "light_goldenrod1", "khaki1", "wheat1", "cornsilk1", "grey100", "gray100", "grey3", "gray3",
   "grey7", "gray7", "grey11", "gray11", "grey15", "gray15", "grey19", "gray19", "grey23", "gray23",
   "grey27", "gray27", "grey30", "gray30", "grey35", "gray35", "grey39", "gray39", "grey42",
   "gray42", "grey46", "gray46", "grey50", "gray50", "grey54", "gray54", "grey58", "gray58",
   "grey62", "gray62", "grey66", "gray66", "grey70", "gray70", "grey74", "gray74", "grey78",
   "gray78", "grey82", "gray82", "grey85", "gray85", "grey89", "gray89", "grey93", "gray93"]

/-- Whether a text is a number of 24 bits in hexadecimal. -/
def isHexTriplet (text : List Char) : Bool :=
  text.length = 6 && text.all fun c => ('0' ≤ c && c ≤ '9') || ('a' ≤ c && c ≤ 'f')

/-- Whether a text of at most three digits is the number of a colour. -/
def isColourNumber (text : List Char) : Bool :=
  text.length ≤ 3 && text.all Char.isDigit &&
    ((groupedDigits asciiDigit? 0 0 false text).any (· ≤ 255))

/-- Reads the three components of a colour. -/
def readComponents (text : List Char) : Except StyleFault Unit :=
  let components := splitOn ',' [] text
  if components.length ≠ 3 then .error .unknown
  else
    match components.mapM (groupedDigits decimalDigit? 0 0 false) with
    | none => .error .component
    | some (numbers : List Nat) => if numbers.all (· ≤ 255) then .ok () else .error .unknown

/-- What stands between an opening, which ends with a bracket, and the closing bracket at the end. -/
def bracketed? (opening : String) (text : List Char) : Option (List Char) :=
  if opening.toList.isPrefixOf text && text.getLast? = some ')' then
    some ((text.drop opening.length).dropLast)
  else none

/-- Reads the name of a colour: a known one, `default`, `#` with six hexadecimal digits, a number in
`color()` or three components in `rgb()`. -/
def readColour (word : List Char) : Except StyleFault (List Char) :=
  let name := lowerCase word
  let numbered := (bracketed? "color(" name).map isColourNumber
  let isName := colourNames.contains (String.ofList name) || name = "default".toList
  if isName || (name.head? = some '#' && isHexTriplet name.tail) || numbered = some true then .ok name
  else
    match bracketed? "rgb(" name with
    | none => .error .unknown
    | some text =>
      if !text.isEmpty && text.all fun c => c = ',' || (decimalDigit? c).isSome then
        (readComponents text).map fun _ => name
      else .error .unknown

/-- A style. -/
structure Style where
  attributes : List (Attribute × Bool)
  colour : Option (List Char)
  background : Option (List Char)
  link : Option (List Char)

namespace Style

def empty : Style := ⟨[], none, none, none⟩

/-- Sets or unsets an attribute, whatever was said about it before. -/
def set (s : Style) (a : Attribute) (on : Bool) : Style :=
  { s with attributes := (a, on) :: s.attributes.filter (·.1 ≠ a) }

/-- Adds what some words say to a style. -/
def addWords : Style → List (List Char) → Except StyleFault Style
  | s, [] => .ok s
  | s, word :: rest =>
    let name := lowerCase word
    if name = "on".toList then
      match rest with
      | [] => .error .unknown
      | next :: rest => do addWords { s with background := some (← readColour next) } rest
    else if name = "not".toList then
      match rest with
      | [] => .error .unknown
      | next :: rest =>
        match Attribute.ofName? (String.ofList next) with
        | none => .error .unknown
        | some a => addWords (s.set a false) rest
    else if name = "link".toList then
      match rest with
      | [] => .error .unknown
      | next :: rest => addWords { s with link := some next } rest
    else
      match Attribute.ofName? (String.ofList name) with
      | some a => addWords (s.set a true) rest
      | none => do addWords { s with colour := some (← readColour name) } rest

/-- The words of a style in their order: attributes, colour, background and link. -/
def toWords (s : Style) : List (List Char) :=
  let said := Attribute.all.flatMap fun a =>
    match s.attributes.find? (·.1 == a) with
    | none => []
    | some (_, true) => [a.name.toList]
    | some (_, false) => ["not".toList, a.name.toList]
  let after (word : String) (value : Option (List Char)) : List (List Char) :=
    match value with
    | none => []
    | some text => [word.toList, text]
  said ++ s.colour.toList ++ after "on" s.background ++ after "link" s.link

end Style

/-- The normal form of a description. What describes no style is only trimmed and put into lower case. -/
def normalStyle (description : List Char) : Except StyleFault (List Char) :=
  if trim description = "none".toList then .ok "none".toList
  else
    match Style.empty.addWords (blankSeparated description) with
    | .ok s =>
      match s.toWords with
      | [] => .ok "none".toList
      | words => .ok ((List.intersperse [' '] words).flatten)
    | .error .unknown => .ok (lowerCase (trim description))
    | .error .component => .error .component

end EditorAssist.Layout

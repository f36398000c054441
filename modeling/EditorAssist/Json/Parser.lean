import EditorAssist.Json.Value
import EditorAssist.Number.Integer
import EditorAssist.Text.Units

/-!
# Reading JSON

A recursive-descent reader over characters. A refusal carries its cause and the offset of the
character where the text stops being JSON; `Refusal.message` renders it with line and column. Beyond
the standard the words `NaN`, `Infinity` and `-Infinity` are numbers. Two causes are limits of the
reader and say nothing against the text: integers that are too long and values that nest too deep.
-/

namespace EditorAssist.Json

open EditorAssist.Text EditorAssist.Number

/-- Why a text is not JSON. -/
inductive Cause where
  | byteOrderMark
  | value
  | key
  | colon
  | comma
  | extraData
  | unterminatedString
  | controlCharacter
  | escape
  | unicodeEscape
  /-- An integer has more than `maxDigits` digits. -/
  | longInteger
  /-- More than `maxNesting` objects and arrays stand within one another. -/
  | deepNesting
  deriving Repr, DecidableEq

/-- Whether the cause is a limit of the reader. -/
def Cause.isLimit : Cause → Bool
  | .longInteger | .deepNesting => true
  | _ => false

/-- How many objects and arrays may stand within one another. -/
def maxNesting : Nat := 988

def Cause.message : Cause → String
  | .byteOrderMark => "Unexpected UTF-8 BOM (decode using utf-8-sig)"
  | .value => "Expecting value"
  | .key => "Expecting property name enclosed in double quotes"
  | .colon => "Expecting ':' delimiter"
  | .comma => "Expecting ',' delimiter"
  | .extraData => "Extra data"
  | .unterminatedString => "Unterminated string starting at"
  | .controlCharacter => "Invalid control character at"
  | .escape => "Invalid \\escape"
  | .unicodeEscape => "Invalid \\uXXXX escape"
  | .longInteger => "Integer too long"
  | .deepNesting => "Nesting too deep"

/-- A cause at an offset. -/
structure Refusal where
  cause : Cause
  offset : Nat
  deriving Repr, DecidableEq

/-- One-based line and column of an offset. -/
def lineColumn (text : List Char) (offset : Nat) : Nat × Nat :=
  let before := text.take offset
  (before.count '\n' + 1, (before.reverse.takeWhile (· ≠ '\n')).length + 1)

/-- The refusal of `text` with its place. -/
def Refusal.message (r : Refusal) (text : List Char) : String :=
  let (line, column) := lineColumn text r.offset
  r.cause.message ++ ": line " ++ toString line ++ " column " ++ toString column
    ++ " (char " ++ toString r.offset ++ ")"

/-- The unread part of a text and its offset. -/
structure Cursor where
  offset : Nat
  rest : List Char
  deriving Repr, DecidableEq

namespace Parser

def isSpace (c : Char) : Bool := c = ' ' || c = '\t' || c = '\n' || c = '\r'

def isDigit (c : Char) : Bool := '0' ≤ c && c ≤ '9'

/-- Skips white space. -/
def skipSpace : (offset : Nat) → List Char → Cursor
  | offset, [] => ⟨offset, []⟩
  | offset, c :: rest => if isSpace c then skipSpace (offset + 1) rest else ⟨offset, c :: rest⟩

def Cursor.skip (c : Cursor) : Cursor := skipSpace c.offset c.rest

/-- Moves over characters known to be there. -/
def Cursor.advance (c : Cursor) (count : Nat) : Cursor := ⟨c.offset + count, c.rest.drop count⟩

/-- Value of a hexadecimal digit. -/
def hexDigit? (c : Char) : Option Nat :=
  if '0' ≤ c && c ≤ '9' then some (c.toNat - 48)
  else if 'a' ≤ c && c ≤ 'f' then some (c.toNat - 87)
  else if 'A' ≤ c && c ≤ 'F' then some (c.toNat - 55)
  else none

/-- Value of four hexadecimal digits. -/
def hex4? (a b c d : Char) : Option Nat := do
  return (((← hexDigit? a) * 16 + (← hexDigit? b)) * 16 + (← hexDigit? c)) * 16 + (← hexDigit? d)

/-- The character of a one-letter escape. -/
def simpleEscape? : Char → Option Char
  | '"' => some '"'
  | '\\' => some '\\'
  | '/' => some '/'
  | 'b' => some '\x08'
  | 'f' => some '\x0c'
  | 'n' => some '\n'
  | 'r' => some '\r'
  | 't' => some '\t'
  | _ => none

/-- What follows a high surrogate: a low one in a second escape, something else, or an escape with
bad digits. A second escape counts only when a character follows it. -/
inductive Pairing where
  | joined (c : Char)
  | alone
  | refused

def pairing (high : Nat) : List Char → Pairing
  | '\\' :: 'u' :: a :: b :: c :: d :: _ :: _ =>
    match hex4? a b c d with
    | none => .refused
    | some low => if isLowSurrogate low then .joined (joinSurrogates high low) else .alone
  | _ => .alone

/-- Reads a string after its opening quote, which stood at `start`. -/
def stringBody (start : Nat) : (offset : Nat) → List Char → Except Refusal (List Char × Cursor)
  | _, [] => .error ⟨.unterminatedString, start⟩
  | offset, '"' :: rest => .ok ([], ⟨offset + 1, rest⟩)
  | _, ['\\'] => .error ⟨.unterminatedString, start⟩
  | offset, '\\' :: 'u' :: a :: b :: c :: d :: next :: rest =>
    match hex4? a b c d with
    | none => .error ⟨.unicodeEscape, offset + 1⟩
    | some unit =>
      match if isHighSurrogate unit then pairing unit (next :: rest) else .alone with
      | .refused => .error ⟨.unicodeEscape, offset + 7⟩
      | .joined c =>
        (stringBody start (offset + 12) (rest.drop 5)).map
          fun (text, cursor) => (c :: text, cursor)
      | .alone =>
        (stringBody start (offset + 6) (next :: rest)).map
          fun (text, cursor) => (unitChar unit :: text, cursor)
  | offset, '\\' :: 'u' :: _ => .error ⟨.unicodeEscape, offset + 1⟩
  | offset, '\\' :: c :: rest =>
    match simpleEscape? c with
    | none => .error ⟨.escape, offset⟩
    | some plain =>
      (stringBody start (offset + 2) rest).map fun (text, cursor) => (plain :: text, cursor)
  | offset, c :: rest =>
    if c.toNat < 0x20 then .error ⟨.controlCharacter, offset⟩
    else (stringBody start (offset + 1) rest).map fun (text, cursor) => (c :: text, cursor)
termination_by _ text => text.length

/-- Value of a run of ASCII digits. -/
def digitsValue (run : List Char) : Nat :=
  run.foldl (fun value c => 10 * value + (c.toNat - '0'.toNat)) 0

/-- The double nearest to `mantissa * 10 ^ exponent`. -/
def scientific (mantissa : Nat) (exponent : Int) : Float :=
  let magnitude := exponent + (Nat.repr mantissa).length
  if mantissa = 0 || magnitude < -400 then 0.0
  else if 400 < magnitude then 1.0 / 0.0
  else if exponent < 0 then Float.ofScientific mantissa true exponent.natAbs
  else Float.ofScientific mantissa false exponent.natAbs

/-- The parts of a number: sign, digits before and after the point, and exponent. -/
structure Numeral where
  negative : Bool
  whole : List Char
  decimals : Option (List Char)
  exponent : Option Int
  /-- The number of its characters. -/
  size : Nat

/-- Whether the numeral is an integer of more digits than are read. -/
def Numeral.isTooLong (n : Numeral) : Bool :=
  n.decimals.isNone && n.exponent.isNone && maxDigits < n.whole.length

/-- An integer unless the numeral has decimals or an exponent. -/
def Numeral.value (n : Numeral) : Value :=
  match n.decimals, n.exponent with
  | none, none =>
    let magnitude : Int := digitsValue n.whole
    .int (if n.negative then -magnitude else magnitude)
  | decimals, exponent =>
    let after := decimals.getD []
    let x := scientific (digitsValue (n.whole ++ after)) (exponent.getD 0 - after.length)
    .float (if n.negative then -x else x)

/-- Reads the exponent after `e`, if digits follow: its value, the number of its characters and what
follows. -/
def exponent? (text : List Char) : Option (Int × Nat × List Char) :=
  let (negative, sign, body) := match text with
    | '-' :: rest => (true, 1, rest)
    | '+' :: rest => (false, 1, rest)
    | _ => (false, 0, text)
  let run := body.takeWhile isDigit
  if run.isEmpty then none
  else
    let magnitude : Int := digitsValue run
    some (if negative then -magnitude else magnitude, sign + run.length, body.dropWhile isDigit)

/-- Reads decimals and exponent after the whole digits. -/
def numeralTail (negative : Bool) (whole text : List Char) : Numeral × List Char :=
  let (decimals, afterPoint) := match text with
    | '.' :: rest =>
      let run := rest.takeWhile isDigit
      if run.isEmpty then (none, text) else (some run, rest.dropWhile isDigit)
    | _ => (none, text)
  let (exponent, exponentSize, rest) := match afterPoint with
    | 'e' :: tail | 'E' :: tail =>
      match exponent? tail with
      | some (exponent, size, rest) => (some exponent, size + 1, rest)
      | none => (none, 0, afterPoint)
    | _ => (none, 0, afterPoint)
  let fractionSize := match decimals with
    | some run => run.length + 1
    | none => 0
  let size := (if negative then 1 else 0) + whole.length + fractionSize + exponentSize
  (⟨negative, whole, decimals, exponent, size⟩, rest)

/-- Reads a number: no leading zeros, an optional fraction and an optional exponent. -/
def numeral? (text : List Char) : Option (Numeral × List Char) :=
  let (negative, body) := match text with
    | '-' :: rest => (true, rest)
    | _ => (false, text)
  match body with
  | '0' :: rest => some (numeralTail negative ['0'] rest)
  | c :: rest =>
    if isDigit c then
      some (numeralTail negative (c :: rest.takeWhile isDigit) (rest.dropWhile isDigit))
    else none
  | [] => none

/-- The fixed words and what they stand for. -/
def words : List (String × Value) :=
  [("null", .null), ("true", .bool true), ("false", .bool false), ("NaN", .float (0.0 / 0.0)),
   ("Infinity", .float (1.0 / 0.0)), ("-Infinity", .float (-1.0 / 0.0))]

/-- The word at the start of the text, with its length. -/
def word? (text : List Char) : Option (Value × Nat) :=
  (words.find? fun (word, _) => word.toList.isPrefixOf text).map
    fun (word, value) => (value, word.length)

mutual

/-- Reads a value at the cursor; `fuel` bounds the number of steps, and `depth` more objects and
arrays may be opened. -/
def value : (fuel depth : Nat) → Cursor → Except Refusal (Value × Cursor)
  | 0, _, cursor => .error ⟨.value, cursor.offset⟩
  | fuel + 1, depth, cursor =>
    match cursor.rest with
    | '"' :: rest =>
      (stringBody cursor.offset (cursor.offset + 1) rest).map
        fun (text, next) => (.str (String.ofList text), next)
    | '\x7b' :: rest =>
      if depth = 0 then .error ⟨.deepNesting, cursor.offset⟩
      else
        let next := skipSpace (cursor.offset + 1) rest
        match next.rest with
        | '\x7d' :: after => .ok (.obj [], ⟨next.offset + 1, after⟩)
        | _ =>
          (members fuel (depth - 1) next).map fun (pairs, end_) =>
            (.obj (Entries.ofPairs pairs), end_)
    | '[' :: rest =>
      if depth = 0 then .error ⟨.deepNesting, cursor.offset⟩
      else
        let next := skipSpace (cursor.offset + 1) rest
        match next.rest with
        | ']' :: after => .ok (.arr [], ⟨next.offset + 1, after⟩)
        | _ => (elements fuel (depth - 1) next).map fun (items, end_) => (.arr items, end_)
    | text =>
      match word? text with
      | some (found, size) => .ok (found, ⟨cursor.offset + size, text.drop size⟩)
      | none =>
        match numeral? text with
        | some (numeral, rest) =>
          if numeral.isTooLong then .error ⟨.longInteger, cursor.offset⟩
          else .ok (numeral.value, ⟨cursor.offset + numeral.size, rest⟩)
        | none => .error ⟨.value, cursor.offset⟩

/-- Reads the members of an object up to its closing brace. -/
def members : (fuel depth : Nat) → Cursor → Except Refusal (List (String × Value) × Cursor)
  | 0, _, cursor => .error ⟨.key, cursor.offset⟩
  | fuel + 1, depth, cursor =>
    match cursor.rest with
    | '"' :: rest => do
      let (key, afterKey) ← stringBody cursor.offset (cursor.offset + 1) rest
      let colon := skipSpace afterKey.offset afterKey.rest
      match colon.rest with
      | ':' :: afterColon =>
        let (item, afterItem) ← value fuel depth (skipSpace (colon.offset + 1) afterColon)
        let next := skipSpace afterItem.offset afterItem.rest
        match next.rest with
        | '\x7d' :: after => .ok ([(String.ofList key, item)], ⟨next.offset + 1, after⟩)
        | ',' :: after =>
          let (more, end_) ← members fuel depth (skipSpace (next.offset + 1) after)
          .ok ((String.ofList key, item) :: more, end_)
        | _ => .error ⟨.comma, next.offset⟩
      | _ => .error ⟨.colon, colon.offset⟩
    | _ => .error ⟨.key, cursor.offset⟩

/-- Reads the items of an array up to its closing bracket. -/
def elements : (fuel depth : Nat) → Cursor → Except Refusal (List Value × Cursor)
  | 0, _, cursor => .error ⟨.value, cursor.offset⟩
  | fuel + 1, depth, cursor => do
    let (item, afterItem) ← value fuel depth cursor
    let next := skipSpace afterItem.offset afterItem.rest
    match next.rest with
    | ']' :: after => .ok ([item], ⟨next.offset + 1, after⟩)
    | ',' :: after =>
      let (more, end_) ← elements fuel depth (skipSpace (next.offset + 1) after)
      .ok (item :: more, end_)
    | _ => .error ⟨.comma, next.offset⟩
end

section Refused

variable {fuel depth offset : Nat}

/-- Where no more objects and arrays may be opened, none is. -/
theorem value_bracket_zero (text : List Char) :
    value (fuel + 1) 0 ⟨offset, '[' :: text⟩ = .error ⟨.deepNesting, offset⟩ := by
  simp [value]

theorem value_brace_zero (text : List Char) :
    value (fuel + 1) 0 ⟨offset, '\x7b' :: text⟩ = .error ⟨.deepNesting, offset⟩ := by
  simp [value]

theorem elements_error {cursor : Cursor} {refusal : Refusal} (refused : value fuel depth cursor = .error refusal) :
    elements (fuel + 1) depth cursor = .error refusal := by
  rw [elements, refused]
  rfl

theorem skipSpace_of_not {c : Char} (visible : isSpace c = false) (offset : Nat) (rest : List Char) :
    skipSpace offset (c :: rest) = ⟨offset, c :: rest⟩ := by
  simp [skipSpace, visible]

/-- A member whose value is refused. -/
theorem members_of_error {written key text : List Char} {place : Nat} {c : Char} {refusal : Refusal}
    (named : stringBody offset (offset + 1) written = .ok (key, ⟨place, ':' :: c :: text⟩))
    (visible : isSpace c = false)
    (refused : value fuel depth ⟨place + 1, c :: text⟩ = .error refusal) :
    members (fuel + 1) depth ⟨offset, '"' :: written⟩ = .error refusal := by
  simp only [members, named, bind, Except.bind, skipSpace_of_not (by rfl : isSpace ':' = false),
    skipSpace_of_not visible, refused]

end Refused

end Parser

/-- Reads a whole text as one value. -/
def parse (text : List Char) : Except Refusal Value := do
  if text.head? = some (Char.ofNat 0xFEFF) then throw ⟨.byteOrderMark, 0⟩
  let (found, after) ← Parser.value (text.length + 1) maxNesting (Parser.skipSpace 0 text)
  let rest := Parser.skipSpace after.offset after.rest
  if rest.rest.isEmpty then return found else throw ⟨.extraData, rest.offset⟩

end EditorAssist.Json

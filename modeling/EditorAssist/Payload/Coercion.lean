import EditorAssist.Number.Binary64
import EditorAssist.Number.Integer
import EditorAssist.Payload.Mismatch
import EditorAssist.Text.Search

/-!
# Coercion of field values

Fields are read leniently: an integer may be written as a boolean, as a double without a fraction or
as text, a boolean as a number or a word. What is refused is refused with a `Complaint`.
-/

namespace EditorAssist.Payload

open EditorAssist.Json EditorAssist.Number EditorAssist.Text

namespace Coercion

/-- Drops a fraction of one or more zeros. -/
def withoutZeroFraction? (text : List Char) : Option (List Char) :=
  match text.dropWhile (· ≠ '.') with
  | [] => some text
  | _ :: zeros =>
    if zeros.isEmpty || zeros.any (· ≠ '0') then none else some (text.takeWhile (· ≠ '.'))

/-- Drops zeros in front of a digit, and underscores among them. What follows them need not be a digit;
of zeros and underscores alone the last one stays. -/
def withoutLeadingZeros? : List Char → Option (List Char)
  | [] => none
  | '0' :: rest =>
    match rest.dropWhile fun c => c = '0' || c = '_' with
    | [] => some [rest.getLastD '0']
    | kept => some kept
  | c :: rest => if (asciiDigit? c).isSome then some (c :: rest) else none

/-- Drops underscores, each of which has to stand alone and inside the text. -/
def withoutUnderscores? (text : List Char) : Option (List Char) :=
  if text.head? = some '_' || text.getLast? = some '_' || occurs ['_', '_'] text then none
  else some (text.filter (· ≠ '_'))

/-- The digits of a text without leading zeros, fraction and underscores, with a minus sign in front
where the text has one. A plus sign is dropped. -/
def integerDigits? (text : List Char) : Option (List Char) := do
  let (sign, digits) := match text with
    | '-' :: rest => (['-'], rest)
    | '+' :: rest => ([], rest)
    | _ => ([], text)
  withoutUnderscores? (sign ++ (← withoutLeadingZeros? (← withoutZeroFraction? digits)))

/-- Reads digits that do not start with a zero unless that is all, with an optional minus sign. -/
def plainInteger? (text : List Char) : Option Int :=
  let (negative, digits) := match text with
    | '-' :: rest => (true, rest)
    | _ => (false, text)
  if digits.head? = some '0' && 1 < digits.length then none
  else
    (groupedDigits asciiDigit? 0 0 false digits).map fun n => if negative then -(n : Int) else n

/-- Whether a text starts with more digits than are read, the first of them not zero, behind an optional
minus sign. -/
def isOversized (text : List Char) : Bool :=
  let digits := match text with
    | '-' :: rest => rest
    | _ => text
  digits.head? ≠ some '0' && maxDigits < (digits.takeWhile fun c => (asciiDigit? c).isSome).length

/-- Reads an integer from text with white space around it: one sign, ASCII digits with single
underscores between them and a fraction of zeros. Too many digits are told apart only where the text
starts with them. -/
def integerOfText (text : List Char) : Except Complaint Int :=
  if isOversized text then .error .integerSize
  else
    match (integerDigits? (trimBoth isWhiteSpace text)).bind plainInteger? with
    | some i => .ok i
    | none => .error .integerText

/-- Integers below this bound, and negative ones down to it, fit into a word of 64 bits. -/
def wordBound : Nat := 1 <<< 63

/-- Whether an integer fits into a word of 64 bits. -/
def fitsWord (i : Int) : Bool := -(wordBound : Int) ≤ i && i < wordBound

def integerOfFloat (x : Float) : Except Complaint Int :=
  match Binary64.ofFloat x with
  | .finite negative mantissa exponent =>
    match (Binary64.finite negative mantissa exponent).toInt? with
    | none => .error .wholeNumber
    | some i => if i.natAbs < wordBound then .ok i else .error .integerSize
  | _ => .error .finiteNumber

/-- The characters of a text that is read for what it says; half of a surrogate pair is none. -/
def characters (s : String) : Except Complaint (List Char) :=
  if hasHalf s.toList then .error .characters else .ok s.toList

def integer : Value → Except Complaint Int
  | .int i => .ok i
  | .bool b => .ok (if b then 1 else 0)
  | .float x => integerOfFloat x
  | .str s => (characters s).bind integerOfText
  | _ => .error .integer

def text : Value → Except Complaint String
  | .str s => .ok s
  | _ => .error .text

/-- The words for false and for true. -/
def falseWords : List String := ["0", "off", "f", "false", "n", "no"]
def trueWords : List String := ["1", "on", "t", "true", "y", "yes"]

/-- Zero and one are flags; an integer of more than 64 bits is not even looked at. -/
def flagOfInt (i : Int) : Except Complaint Bool :=
  if i = 0 then .ok false
  else if i = 1 then .ok true
  else if fitsWord i then .error .flagWord
  else .error .flag

def flagOfText (text : List Char) : Except Complaint Bool :=
  let word := (String.ofList text).toLower
  if falseWords.contains word then .ok false
  else if trueWords.contains word then .ok true
  else .error .flagWord

def flag : Value → Except Complaint Bool
  | .bool b => .ok b
  | .int i => flagOfInt i
  | .float x =>
    match integerOfFloat x with
    | .ok i => flagOfInt i
    | .error _ => .error .flag
  | .str s => (characters s).bind flagOfText
  | _ => .error .flag

/-- One of some choices, which go by name. -/
def oneOf {α : Type} (choices : List α) (name : α → String) : Value → Except Complaint α
  | .str s =>
    (characters s).bind fun _ =>
      match choices.find? (name · = s) with
      | some choice => .ok choice
      | none => .error (.oneOf (choices.map name))
  | _ => .error (.oneOf (choices.map name))

end Coercion

end EditorAssist.Payload

import EditorAssist.Datum
import EditorAssist.Number.Total

/-!
# Mismatches

A value may not be what a type expects, in one or in several places. Every such place is a `Mismatch`:
the path that leads to it, what was expected there, which is a `Complaint`, and what was found instead.
`Mismatch.report` lays out all mismatches of a value for a record.
-/

namespace EditorAssist.Payload

open EditorAssist.Json EditorAssist.Text

/-- What was expected. -/
inductive Complaint where
  | missing
  | text
  | characters
  | integer
  | integerText
  | wholeNumber
  | integerSize
  | finiteNumber
  | flag
  | flagWord
  | list
  | mapping
  | object (name : String)
  | atLeast (bound : Int)
  | above (bound : Int)
  | oneOf (choices : List String)
  | member (numbers : List Int)
  deriving Repr, DecidableEq

/-- Choices, the last two joined by "or". -/
def choiceText : List String → String
  | [] => ""
  | [only] => only
  | [first, last] => first ++ " or " ++ last
  | first :: more => first ++ ", " ++ choiceText more

def Complaint.message : Complaint → String
  | .missing => "Field required"
  | .text => "Input should be a valid string"
  | .characters => "Input should be a valid string, unable to parse raw data as a unicode string"
  | .integer => "Input should be a valid integer"
  | .integerText => "Input should be a valid integer, unable to parse string as an integer"
  | .wholeNumber => "Input should be a valid integer, got a number with a fractional part"
  | .integerSize => "Unable to parse input string as an integer, exceeded maximum size"
  | .finiteNumber => "Input should be a finite number"
  | .flag => "Input should be a valid boolean"
  | .flagWord => "Input should be a valid boolean, unable to interpret input"
  | .list => "Input should be a valid list"
  | .mapping => "Input should be a valid dictionary"
  | .object name => "Input should be a valid dictionary or instance of " ++ name
  | .atLeast bound => "Input should be greater than or equal to " ++ toString bound
  | .above bound => "Input should be greater than " ++ toString bound
  | .oneOf choices => "Input should be " ++ choiceText (choices.map fun text => "'" ++ text ++ "'")
  | .member numbers => "Input should be " ++ choiceText (numbers.map toString)

/-- The key of a complaint in the list of all errors. -/
def Complaint.key : Complaint → String
  | .missing => "missing"
  | .text => "string_type"
  | .characters => "string_unicode"
  | .integer => "int_type"
  | .integerText => "int_parsing"
  | .wholeNumber => "int_from_float"
  | .integerSize => "int_parsing_size"
  | .finiteNumber => "finite_number"
  | .flag => "bool_type"
  | .flagWord => "bool_parsing"
  | .list => "list_type"
  | .mapping => "dict_type"
  | .object _ => "model_type"
  | .atLeast _ => "greater_than_equal"
  | .above _ => "greater_than"
  | .oneOf _ => "literal_error"
  | .member _ => "enum"

/-- One step of a path into a value: to the entry under a key, or to an item. A type that is one of
several is a step of its own, by its name. -/
inductive Step where
  | key (name : String)
  | index (i : Nat)
  deriving Repr, DecidableEq

/-- A key with a period in it stands between grave accents. -/
def Step.text : Step → String
  | .key name => if name.contains '.' then "\x60" ++ name ++ "\x60" else name
  | .index i => toString i

/-- A place in a value that is not what its type expects. -/
structure Mismatch where
  path : List Step
  complaint : Complaint
  found : Value

namespace Mismatch

/-- The mismatches of a part of a value, which one step leads to, as mismatches of the whole. -/
def under (step : Step) (mismatches : List Mismatch) : List Mismatch :=
  mismatches.map fun m => { m with path := step :: m.path }

/-- As many characters from the start as fit into a number of bytes. -/
def takeBytes : (room : Nat) → List Char → List Char
  | _, [] => []
  | room, c :: rest => if c.utf8Size ≤ room then c :: takeBytes (room - c.utf8Size) rest else []

/-- Both ends of a text of more than fifty bytes. -/
def excerpt (text : List Char) : List Char :=
  if Number.total (text.map Char.utf8Size) ≤ 50 then text
  else takeBytes 25 text ++ "...".toList ++ (takeBytes 24 text.reverse).reverse

/-- Where the errors are listed. -/
def listing : String := "https://errors.pydantic.dev/2.14/v/"

/-- The path, on a line of its own, then what was expected and found, and where to read about it. -/
def lines (m : Mismatch) : List String :=
  let expected := m.complaint.message
  let found := String.ofList (excerpt (Datum.ofValue m.found).literalForm)
  let place := if m.path.isEmpty then [] else [".".intercalate (m.path.map Step.text)]
  place ++
    ["  " ++ expected ++ " [type=" ++ m.complaint.key ++ ", input_value=" ++ found ++
      ", input_type=" ++ m.found.kindName ++ "]",
     "    For further information visit " ++ listing ++ m.complaint.key]

/-- All that is wrong with a value that was read as the type of this name. -/
def report (name : String) (mismatches : List Mismatch) : String :=
  let count := mismatches.length
  let heading := toString count ++ " validation error" ++ (if count = 1 then "" else "s") ++ " for " ++ name
  "\n".intercalate (heading :: mismatches.flatMap lines)

end Mismatch

end EditorAssist.Payload

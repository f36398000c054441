import EditorAssist.Datum
import EditorAssist.Journal.Level
import EditorAssist.Text.Blank

/-!
# Records

A record is an ordered table: time, distance to the record before, level and message, then the tags.
Each of the three formats renders it as a text; only the pretty one can span lines.
-/

namespace EditorAssist.Journal

open EditorAssist.Json EditorAssist.Text

/-- Named data in order. -/
abbrev Tags := List (String × Datum)

namespace Tags

def get? (key : String) (tags : Tags) : Option Datum := (tags.find? (·.1 == key)).map (·.2)

/-- Sets a tag; a new one goes last. -/
def set (key : String) (value : Datum) : Tags → Tags
  | [] => [(key, value)]
  | tag :: rest => if tag.1 == key then (key, value) :: rest else tag :: set key value rest

/-- The first tags, overridden and extended by the second. -/
def merge (base more : Tags) : Tags := more.foldl (fun tags tag => set tag.1 tag.2 tags) base

/-- Tags of the record that a timed operation begins with. -/
def started (tags : Tags) : Tags := tags.set "status" (.text "started")

/-- Tags of the record that a timed operation ends with. -/
def completed (tags : Tags) (durationMs : Int) : Tags :=
  (tags.set "status" (.text "completed")).set "duration" (.int durationMs)

end Tags

/-- Faults as the chain of their headlines, other data without a JSON type as text. -/
def normalize : Datum → Datum
  | .fault f => .text f.chain
  | .path s => .text s
  | d@(.set _) => .text d.display
  | d => d

/-- Why a record cannot be rendered, or cannot be written to a file. -/
inductive RenderFault where
  /-- Something inside a list or record has no JSON form. -/
  | unserializable
  /-- The level was replaced by something that is no text. -/
  | levelNotText
  /-- Half of a surrogate pair is in the line, which has no bytes then. -/
  | unencodable
  deriving Repr, DecidableEq

/-- Keys at the head of a record. -/
def reservedKeys : List String := ["time", "delta_ms", "level", "msg"]

/-- A text that stands for itself between spaces and equals signs. -/
def isBare (text : List Char) : Bool :=
  !text.isEmpty && !text.contains '=' && !text.any isBlank

/-- The value of a pair. -/
def pairValue : Datum → Except RenderFault (List Char)
  | .flag b => .ok (if b then "true" else "false").toList
  | .int i => .ok (intText i)
  | .float x => .ok (Number.floatText Datum.displayNames x)
  | .null => .ok "None".toList
  | .text s => .ok (if isBare s.toList then s.toList else quote false s.toList)
  | d =>
    match d.json? with
    | some v => .ok (print .compact v)
    | none => .error .unserializable

/-- Space-separated pairs of the tags that are not reserved. -/
def pairs : Tags → Except RenderFault (List Char)
  | [] => .ok []
  | (key, value) :: rest =>
    if reservedKeys.contains key then pairs rest
    else
      match pairValue value with
      | .error fault => .error fault
      | .ok written =>
        match pairs rest with
        | .error fault => .error fault
        | .ok [] => .ok (key.toList ++ '=' :: written)
        | .ok more => .ok (key.toList ++ '=' :: written ++ ' ' :: more)

/-- The text of a reserved entry. -/
def headText (key : String) (record : Tags) : List Char :=
  ((Tags.get? key record).getD .null).display.toList

def renderPairs (record : Tags) : Except RenderFault (List Char) := do
  let message ← pairValue ((Tags.get? "msg" record).getD .null)
  let head := headText "time" record ++ " +".toList ++ headText "delta_ms" record
    ++ "ms level=".toList ++ headText "level" record ++ " msg=".toList ++ message
  let tail ← pairs record
  return if tail.isEmpty then head else head ++ ' ' :: tail

def renderJson (record : Tags) : Except RenderFault (List Char) :=
  .ok (print .compact (Datum.jsonOrText (.record record)))

def renderPretty (record : Tags) : Except RenderFault (List Char) := do
  let tail ← pairs record
  let suffix := if tail.isEmpty then [] else " (".toList ++ tail ++ [')']
  let level ← match Tags.get? "level" record with
    | some (.text s) => pure s
    | _ => throw .levelNotText
  let message := (Tags.get? "msg" record).getD .null
  let shown := if message.isFalsy then [] else message.display.toList
  return headText "time" record ++ ' ' :: upperCase level.toList ++ ' ' :: shown ++ suffix
    ++ " +".toList ++ headText "delta_ms" record ++ "ms".toList

def render : Format → Tags → Except RenderFault (List Char)
  | .pairs => renderPairs
  | .json => renderJson
  | .pretty => renderPretty

end EditorAssist.Journal

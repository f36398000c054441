import EditorAssist.Fault
import EditorAssist.Number.Shortest

/-!
# Data in records and error texts

What a record or an error report can carry: JSON values, and besides them tuples, sets, paths and
faults, which have a text but no JSON form.
-/

namespace EditorAssist

open EditorAssist.Json EditorAssist.Text EditorAssist.Number

/-- A piece of data to be shown. -/
inductive Datum where
  | null
  | flag (b : Bool)
  | int (i : Int)
  | float (x : Float)
  | text (s : String)
  | list (items : List Datum)
  | tuple (items : List Datum)
  | set (items : List Datum)
  | record (entries : List (String × Datum))
  | path (s : String)
  | fault (f : Fault)

namespace Datum

mutual

def ofValue : Value → Datum
  | .null => .null
  | .bool b => .flag b
  | .int i => .int i
  | .float x => .float x
  | .str s => .text s
  | .arr items => .list (ofValues items)
  | .obj entries => .record (ofEntries entries)

def ofValues : List Value → List Datum
  | [] => []
  | v :: rest => ofValue v :: ofValues rest

def ofEntries : List (String × Value) → List (String × Datum)
  | [] => []
  | (key, v) :: rest => (key, ofValue v) :: ofEntries rest

end

/-- The integer that a number or flag equals, if it equals one. -/
def whole? : Datum → Option Int
  | .flag b => some (if b then 1 else 0)
  | .int i => some i
  | .float x => (Binary64.ofFloat x).toInt?
  | _ => none

mutual

/-- Whether two data are equal: numbers by value, a flag counting as one, and records and sets without
regard to order. A fault equals no other one. -/
def same : Datum → Datum → Bool
  | .null, .null => true
  | .text a, .text b | .path a, .path b => a == b
  | .float x, .float y => x == y
  | .list a, .list b | .tuple a, .tuple b => sameItems a b
  | .set a, .set b => a.length == b.length && allAmong a b
  | .record a, .record b => a.length == b.length && sameEntries a b
  | .flag a, b => whole? (.flag a) == whole? b
  | .int a, b => whole? (.int a) == whole? b
  | .float a, b => (whole? (.float a)).isSome && whole? (.float a) == whole? b
  | _, _ => false

/-- Whether items are equal one by one. -/
def sameItems : List Datum → List Datum → Bool
  | [], [] => true
  | a :: rest, b :: more => same a b && sameItems rest more
  | _, _ => false

/-- Whether each of some members equals one of others. -/
def allAmong : List Datum → List Datum → Bool
  | [], _ => true
  | a :: rest, others => others.any (same a) && allAmong rest others

/-- Whether each of some entries has an equal one under its key. -/
def sameEntries : List (String × Datum) → List (String × Datum) → Bool
  | [], _ => true
  | (key, a) :: rest, others =>
    ((others.find? (·.1 == key)).any fun other => same a other.2) && sameEntries rest others

end

/-- Numbers by value and flags as numbers, for the order of the members of a set. -/
def rank? : Datum → Option Float
  | .int i => some (Float.ofInt i)
  | .float x => some x
  | .flag b => some (if b then 1.0 else 0.0)
  | _ => none

/-- Whether one member of a set comes before another: numbers by value, then texts. -/
def precedes (a b : Datum) : Bool :=
  match a, b with
  | .text s, .text t => s < t
  | a, b =>
    match rank? a, rank? b with
    | some x, some y => x < y
    | some _, none => true
    | none, _ => false

/-- Puts a member in its place among the members of a set, unless it is one of them. -/
def insertMember (member : Datum) : List Datum → List Datum
  | [] => [member]
  | other :: rest =>
    if precedes member other then member :: other :: rest
    else if precedes other member then other :: insertMember member rest
    else if same member other then other :: rest
    else other :: insertMember member rest

/-- The set of some members, each of them once, in order. -/
def ofMembers (members : List Datum) : Datum :=
  .set (members.foldl (fun all member => insertMember member all) [])

def displayNames : SpecialNames := ⟨"nan", "inf"⟩

/-- Pieces with a comma and a space between each two. -/
def commaJoin : List (List Char) → List Char
  | [] => []
  | [piece] => piece
  | piece :: next :: more => piece ++ ',' :: ' ' :: commaJoin (next :: more)

def faultLiteral (f : Fault) : List Char :=
  let arguments := match f.kind with
    | .standard _ none | .provider _ _ none => []
    | .standard _ (some argument) | .provider _ _ (some argument) => literal argument.toList
    | kind => literal kind.text.toList
  f.className.toList ++ '(' :: arguments ++ [')']

mutual

/-- The form of a datum inside another one: texts quoted, words capitalised. -/
def literalForm : Datum → List Char
  | .null => "None".toList
  | .flag b => (if b then "True" else "False").toList
  | .int i => intText i
  | .float x => floatText displayNames x
  | .text s => literal s.toList
  | .list items => '[' :: commaJoin (literalForms items) ++ [']']
  | .tuple [item] => '(' :: literalForm item ++ [',', ')']
  | .tuple items => '(' :: commaJoin (literalForms items) ++ [')']
  | .set [] => "set()".toList
  | .set items => '\x7b' :: commaJoin (literalForms items) ++ ['\x7d']
  | .record entries => '\x7b' :: commaJoin (literalEntries entries) ++ ['\x7d']
  | .path s => "PurePosixPath(".toList ++ literal s.toList ++ [')']
  | .fault f => faultLiteral f

def literalForms : List Datum → List (List Char)
  | [] => []
  | d :: rest => literalForm d :: literalForms rest

def literalEntries : List (String × Datum) → List (List Char)
  | [] => []
  | (key, d) :: rest => (literal key.toList ++ ':' :: ' ' :: literalForm d) :: literalEntries rest

end

/-- The text of a datum: texts, paths and faults as they are, anything else in literal form. -/
def display : Datum → String
  | .text s => s
  | .path s => s
  | .fault f => f.text
  | d => String.ofList (literalForm d)

mutual

/-- The JSON form; sets, paths and faults have none. -/
def json? : Datum → Option Value
  | .null => some .null
  | .flag b => some (.bool b)
  | .int i => some (.int i)
  | .float x => some (.float x)
  | .text s => some (.str s)
  | .list items => (jsonItems? items).map .arr
  | .tuple items => (jsonItems? items).map .arr
  | .record entries => (jsonEntries? entries).map .obj
  | .set _ => none
  | .path _ => none
  | .fault _ => none

def jsonItems? : List Datum → Option (List Value)
  | [] => some []
  | d :: rest =>
    match json? d, jsonItems? rest with
    | some v, some more => some (v :: more)
    | _, _ => none

def jsonEntries? : List (String × Datum) → Option (List (String × Value))
  | [] => some []
  | (key, d) :: rest =>
    match json? d, jsonEntries? rest with
    | some v, some more => some ((key, v) :: more)
    | _, _ => none

end

mutual

/-- The JSON form with the text of what has none in its place. -/
def jsonOrText : Datum → Value
  | .null => .null
  | .flag b => .bool b
  | .int i => .int i
  | .float x => .float x
  | .text s => .str s
  | .list items => .arr (jsonItems items)
  | .tuple items => .arr (jsonItems items)
  | .record entries => .obj (jsonEntries entries)
  | d@(.set _) => .str (display d)
  | .path s => .str s
  | .fault f => .str f.text

def jsonItems : List Datum → List Value
  | [] => []
  | d :: rest => jsonOrText d :: jsonItems rest

def jsonEntries : List (String × Datum) → List (String × Value)
  | [] => []
  | (key, d) :: rest => (key, jsonOrText d) :: jsonEntries rest

end

/-- Whether a datum counts as absent. -/
def isFalsy : Datum → Bool
  | .null => true
  | .flag b => !b
  | .int i => i = 0
  | .float x => x == 0.0
  | .text s => s.isEmpty
  | .list items | .tuple items | .set items => items.isEmpty
  | .record entries => entries.isEmpty
  | .path _ => false
  | .fault _ => false

end Datum

namespace Fault

/-- The text of a fault of this program, if it is one that users are told as it is. -/
def knownText? (f : Fault) : Option String :=
  match f.kind with
  | .backendTimeout backend ms =>
    let shown (key : String) (own : Value) := (Datum.ofValue (f.valueOf key own)).display
    some (shown "backend" (.str backend) ++ ": request timed out after "
      ++ shown "timeout_ms" (.int ms) ++ "ms")
  | .backendFailure _ message => some message
  | .backend _ message => some message
  | _ => if f.isDeadline then some "request timed out" else none

/-- One line for a diagnostic: the known text, else the fault's own text or class. -/
def describe (f : Fault) : String :=
  match f.knownText? with
  | some known => known
  | none => if f.text.isEmpty then f.className else f.text

/-- Class and text. -/
def headline (f : Fault) : String := f.className ++ ": " ++ f.text

/-- The headlines of a fault and its causes, at most `limit` of them. -/
def headlines : (limit : Nat) → Fault → List String
  | 0, _ => []
  | limit + 1, f =>
    match f.cause with
    | none => [f.headline]
    | some cause => f.headline :: headlines limit cause

/-- A fault and what caused it, for a record. -/
def chain (f : Fault) : String := " Caused by: ".intercalate (f.headlines 10)

/-- The text of a fault with a status: its own message, if one is set on it. -/
def statusText (f : Fault) (status : String) : String :=
  let body := match Entries.get? "message" f.attributes with
    | some v => if v.isFalsy then f.text else (Datum.ofValue v).display
    | none => f.text
  "API error (status " ++ status ++ "): " ++ body

/-- What a provider's fault means for the backend: timeouts by class, then connection faults, then
faults with a status, then any other. -/
def providerKind (backend : String) (timeoutMs : Int) (f : Fault) : Except Fault FaultKind :=
  if f.isTimeout then .ok (.backendTimeout backend timeoutMs)
  else if connectionClasses.contains f.qualifiedName then
    .ok (.backendFailure backend ("request failed: " ++ f.text))
  else
    f.status?.map fun status =>
      .backendFailure backend (match status with
        | some status => f.statusText status
        | none => if f.text.isEmpty then f.className else f.text)

/-- A provider's fault as a fault of the backend, or the fault that was met on reading it. -/
def ofProvider (backend : String) (timeoutMs : Int) (f : Fault) : Fault :=
  if f.isBackendFault then f
  else
    match f.providerKind backend timeoutMs with
    | .ok kind => .mk kind [] (some f)
    | .error fault => fault

end Fault

namespace Datum

/-- The known text of a fault. -/
def knownText? : Datum → Option String
  | .fault f => f.knownText?
  | _ => none

/-- One line for a diagnostic. -/
def describe : Datum → String
  | .fault f => f.describe
  | d => d.display

/-- The form for a record: records and lists as indented JSON. -/
def report : Datum → String
  | .fault f => f.headline
  | .record entries =>
    match json? (.record entries) with
    | some v => String.ofList (printIndented 0 v)
    | none => "Unexpected error (unserializable)"
  | .list items =>
    match json? (.list items) with
    | some v => String.ofList (printIndented 0 v)
    | none => "Unexpected error (unserializable)"
  | d => d.display

end Datum

end EditorAssist

/-!
# JSON values

Numbers keep the distinction between integers, which are unbounded, and binary64 numbers. Objects
keep the order of their keys; setting an existing key keeps its place.
-/

namespace EditorAssist.Json

/-- A JSON value. -/
inductive Value where
  | null
  | bool (value : Bool)
  | int (value : Int)
  | float (value : Float)
  | str (value : String)
  | arr (items : List Value)
  | obj (entries : List (String × Value))

instance : Inhabited Value := ⟨.null⟩

/-- Entries of an object in order. -/
abbrev Entries := List (String × Value)

namespace Entries

/-- The value of a key. -/
def get? (key : String) (entries : Entries) : Option Value :=
  (entries.find? (·.1 == key)).map (·.2)

/-- Sets a key; a new one goes last. -/
def set (key : String) (value : Value) : Entries → Entries
  | [] => [(key, value)]
  | entry :: rest => if entry.1 == key then (key, value) :: rest else entry :: set key value rest

/-- Keeps the last value of each key in the place of its first appearance. -/
def ofPairs (pairs : List (String × Value)) : Entries :=
  pairs.foldl (fun entries pair => set pair.1 pair.2 entries) []

end Entries

namespace Value

/-- The value of a key when the value is an object that has it. -/
def get? (key : String) : Value → Option Value
  | obj entries => Entries.get? key entries
  | _ => none

def str? : Value → Option String
  | str s => some s
  | _ => none

def int? : Value → Option Int
  | int i => some i
  | _ => none

def arr? : Value → Option (List Value)
  | arr items => some items
  | _ => none

/-- Whether the value counts as absent where a default may stand in: null, false, zero, and empty
texts, lists and objects. -/
def isFalsy : Value → Bool
  | null => true
  | bool b => !b
  | int i => i = 0
  | float x => x == 0.0
  | str s => s.isEmpty
  | arr items => items.isEmpty
  | obj entries => entries.isEmpty

/-- The name of the kind of value in diagnostics. -/
def kindName : Value → String
  | null => "NoneType"
  | bool _ => "bool"
  | int _ => "int"
  | float _ => "float"
  | str _ => "str"
  | arr _ => "list"
  | obj _ => "dict"

end Value

end EditorAssist.Json

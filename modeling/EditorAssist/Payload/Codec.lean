import EditorAssist.Payload.Coercion

/-!
# Codecs

A codec reads a domain type from a JSON value and writes it back. Objects are described field by
field: every field is known by its camelCase key and by its snake_case name, the key winning, and
unknown keys are ignored. Fields without a value are not written.
-/

namespace EditorAssist.Payload

open EditorAssist.Json EditorAssist.Text

/-- Reading and writing of a type, which has a name for reports. A value that is not of the type is
refused with all its mismatches. -/
structure Codec (α : Type) where
  name : String
  read : Value → Except (List Mismatch) α
  write : α → Value

/-- Two values that are read independently: both, or all that is wrong with either. -/
def both {α β : Type} (first : Except (List Mismatch) α) (second : Except (List Mismatch) β) :
    Except (List Mismatch) (α × β) :=
  match first, second with
  | .ok a, .ok b => .ok (a, b)
  | .ok _, .error wrong => .error wrong
  | .error wrong, .ok _ => .error wrong
  | .error wrong, .error more => .error (wrong ++ more)

/-- What is read at a place that one step leads to. -/
def within {α : Type} (step : Step) (result : Except (List Mismatch) α) : Except (List Mismatch) α :=
  result.mapError (Mismatch.under step)

mutual

/-- A value with null in place of every number that is not finite. -/
def withFiniteNumbers : Value → Value
  | .float x => if x.isFinite then .float x else .null
  | .arr items => .arr (itemsWithFiniteNumbers items)
  | .obj entries => .obj (entriesWithFiniteNumbers entries)
  | v => v

def itemsWithFiniteNumbers : List Value → List Value
  | [] => []
  | v :: rest => withFiniteNumbers v :: itemsWithFiniteNumbers rest

def entryWithFiniteNumbers : String × Value → String × Value
  | (key, v) => (key, withFiniteNumbers v)

def entriesWithFiniteNumbers : Entries → Entries
  | [] => []
  | entry :: rest => entryWithFiniteNumbers entry :: entriesWithFiniteNumbers rest

end

namespace Codec

/-- Refuses a whole value. -/
def refuse {α : Type} (complaint : Complaint) (v : Value) : Except (List Mismatch) α :=
  .error [⟨[], complaint, v⟩]

/-- A type of which a value is read as a whole. -/
def whole {α : Type} (name : String) (read : Value → Except Complaint α) (write : α → Value) :
    Codec α where
  name
  read v :=
    match read v with
    | .ok a => .ok a
    | .error complaint => refuse complaint v
  write

def text : Codec String := whole "str" Coercion.text .str
def integer : Codec Int := whole "int" Coercion.integer .int
def flag : Codec Bool := whole "bool" Coercion.flag .bool

/-- Any value is taken as it is. Numbers that are not finite are written as null. -/
def any : Codec Value := ⟨"any", .ok, withFiniteNumbers⟩

/-- Reads every item; the first of them has the place `index`. -/
def readList {α : Type} (read : Value → Except (List Mismatch) α) :
    (index : Nat) → List Value → Except (List Mismatch) (List α)
  | _, [] => .ok []
  | index, v :: rest =>
    (both (within (.index index) (read v)) (readList read (index + 1) rest)).map fun (a, more) => a :: more

def list {α : Type} (item : Codec α) : Codec (List α) where
  name := "list[" ++ item.name ++ "]"
  read
    | .arr items => readList item.read 0 items
    | v => refuse .list v
  write items := .arr (items.map item.write)

/-- A type whose members, all of them given, are named by integers. An integer of more than 64 bits is
refused as such, whatever it was written as. -/
def choice {α : Type} (name : String) (members : List α) (toInt : α → Int) : Codec α where
  name
  read v :=
    match Coercion.integer v with
    | .error _ => refuse (.member (members.map toInt)) v
    | .ok i =>
      if Coercion.fitsWord i then
        match members.find? (toInt · = i) with
        | some a => .ok a
        | none => refuse (.member (members.map toInt)) v
      else refuse .integerSize (.int i)
  write a := .int (toInt a)

/-- Reads the values under arbitrary keys. -/
def readEntries {α : Type} (read : Value → Except (List Mismatch) α) :
    Entries → Except (List Mismatch) (List (String × α))
  | [] => .ok []
  | (key, v) :: rest =>
    (both (within (.key key) (read v)) (readEntries read rest)).map fun (a, more) => (key, a) :: more

/-- Values under arbitrary keys. -/
def mapping {α : Type} (item : Codec α) : Codec (List (String × α)) where
  name := "dict[str," ++ item.name ++ "]"
  read
    | .obj entries => readEntries item.read entries
    | v => refuse .mapping v
  write entries := .obj (entries.map fun entry => (entry.1, item.write entry.2))

/-- Reads one of the types that a value may have. -/
def branch {α β : Type} (codec : Codec α) (of : α → β) (v : Value) : Except (List Mismatch) β :=
  (within (.key codec.name) (codec.read v)).map of

/-- The first result that there is, or all that is wrong. -/
def firstOf {α : Type} : List (Except (List Mismatch) α) → Except (List Mismatch) α
  | [] => .error []
  | .ok a :: _ => .ok a
  | .error wrong :: rest => (firstOf rest).mapError (wrong ++ ·)

end Codec

/-- Capitalises the letters that follow underscores and drops the underscores. -/
def camelChars : List Char → List Char
  | [] => []
  | '_' :: c :: rest => c.toUpper :: camelChars rest
  | c :: rest => c :: camelChars rest

/-- The wire key of a snake_case field name. -/
def wireKey (name : String) : String := String.ofList (camelChars name.toList)

/-- Reading of some fields of an object, and the entries that are written for them. -/
structure Fields (α : Type) where
  read : Entries → Except (List Mismatch) α
  write : α → Entries

namespace Fields

/-- The value given for a field, with the key that it is given under. -/
def lookup (name : String) (entries : Entries) : Option (String × Value) :=
  ((Entries.get? (wireKey name) entries).map fun v => (wireKey name, v)).or
    ((Entries.get? name entries).map fun v => (name, v))

/-- A field that has to be there. -/
def required {α : Type} (name : String) (codec : Codec α) : Fields α where
  read entries :=
    match lookup name entries with
    | none => .error [⟨[.key (wireKey name)], .missing, .obj entries⟩]
    | some (key, v) => within (.key key) (codec.read v)
  write a := [(wireKey name, codec.write a)]

/-- A field with a value of its own when it is not there. -/
def defaulted {α : Type} (name : String) (codec : Codec α) (default : α) : Fields α where
  read entries :=
    match lookup name entries with
    | none => .ok default
    | some (key, v) => within (.key key) (codec.read v)
  write a := [(wireKey name, codec.write a)]

/-- A field that may be absent or null. -/
def nullable {α : Type} (name : String) (codec : Codec α) : Fields (Option α) where
  read entries :=
    match lookup name entries with
    | none => .ok none
    | some (_, .null) => .ok none
    | some (key, v) => (within (.key key) (codec.read v)).map some
  write
    | none => []
    | some a => [(wireKey name, codec.write a)]

/-- A field that can only hold one text, which is also its default. -/
def constant (name text : String) : Fields Unit where
  read entries :=
    match lookup name entries with
    | none => .ok ()
    | some (key, v) =>
      match Coercion.oneOf [text] id v with
      | .ok _ => .ok ()
      | .error complaint => .error [⟨[.key key], complaint, v⟩]
  write _ := [(wireKey name, .str text)]

/-- Fields side by side. -/
def and {α β : Type} (first : Fields α) (second : Fields β) : Fields (α × β) where
  read entries := both (first.read entries) (second.read entries)
  write ab := first.write ab.1 ++ second.write ab.2

/-- The codec of an object with these fields. -/
def codec {α β : Type} (name : String) (fields : Fields α) (of : α → β) (parts : β → α) : Codec β where
  name
  read
    | .obj entries => (fields.read entries).map of
    | v => Codec.refuse (.object name) v
  write b := .obj (fields.write (parts b))

end Fields

end EditorAssist.Payload

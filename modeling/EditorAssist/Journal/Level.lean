import EditorAssist.Text.UpperCase

/-!
# Record levels and formats

Both are read from names with blanks around them, in any case.
-/

namespace EditorAssist.Journal

open EditorAssist.Text

/-- Severity of a record, lowest first. -/
inductive Level where
  | debug
  | info
  | warn
  | error
  deriving Repr, DecidableEq

def Level.name : Level → String
  | .debug => "DEBUG"
  | .info => "INFO"
  | .warn => "WARN"
  | .error => "ERROR"

def Level.rank : Level → Nat
  | .debug => 0
  | .info => 1
  | .warn => 2
  | .error => 3

/-- The name as written in records. -/
def Level.label (level : Level) : String := level.name.toLower

/-- Layout of a record. -/
inductive Format where
  | pairs
  | json
  | pretty
  deriving Repr, DecidableEq

def Format.name : Format → String
  | .pairs => "kv"
  | .json => "json"
  | .pretty => "pretty"

/-- Why a name is refused. -/
inductive NameFault where
  | level (value : String)
  | format (value : String)
  deriving Repr, DecidableEq

def NameFault.message : NameFault → String
  | .level value => "invalid log level: " ++ value
  | .format value => "invalid log format: " ++ value

/-- Reads a level; the long form of a warning is accepted and no value at all means `info`. -/
def Level.parse : Option String → Except NameFault Level
  | none => .ok .info
  | some value =>
    let name := String.ofList (upperCase (trim value.toList))
    if name == "DEBUG" then .ok .debug
    else if name == "INFO" then .ok .info
    else if name == "WARN" || name == "WARNING" then .ok .warn
    else if name == "ERROR" then .ok .error
    else .error (.level value)

/-- Reads a format; no value at all means key-value pairs. -/
def Format.parse : Option String → Except NameFault Format
  | none => .ok .pairs
  | some value =>
    let name := String.ofList (lowerCase (trim value.toList))
    if name == "kv" then .ok .pairs
    else if name == "json" then .ok .json
    else if name == "pretty" then .ok .pretty
    else .error (.format value)

end EditorAssist.Journal

import EditorAssist.Payload.Coercion
import EditorAssist.Text.Search

/-!
# Arguments

Options are read from the arguments of a program. A long option is followed by its value or carries it
after an equals sign; letters of short options may be written together. Of several values for one
option the last counts. Two dashes end the options.
-/

namespace EditorAssist.Terminal

open EditorAssist.Json EditorAssist.Payload EditorAssist.Text

/-- What an option takes. -/
inductive Takes where
  | text
  | integer
  /-- No value: the option alone switches something on or off. -/
  | nothing (switch : Bool)
  deriving Repr, DecidableEq

/-- An option: its names, the key that it sets and what it takes. -/
structure OptionSpec where
  names : List String
  key : String
  takes : Takes
  deriving Repr, DecidableEq

/-- Why arguments are refused. -/
inductive UsageFault where
  | unknownOption (name : String)
  | missingValue (name : String)
  | unexpectedValue (name : String)
  | notInteger (key value : String)
  | unknownCommand (name : String)
  | missingArgument (name : String)
  | unexpectedArgument (value : String)
  deriving Repr, DecidableEq

def UsageFault.message : UsageFault → String
  | .unknownOption name => "No such option: " ++ name
  | .missingValue name => "Option '" ++ name ++ "' requires an argument."
  | .unexpectedValue name => "Option '" ++ name ++ "' does not take a value."
  | .notInteger key value => "Invalid value for '" ++ key ++ "': '" ++ value ++ "' is not a valid integer."
  | .unknownCommand name => "No such command '" ++ name ++ "'."
  | .missingArgument name => "Missing argument '" ++ name ++ "'."
  | .unexpectedArgument value => "Got unexpected extra argument (" ++ value ++ ")"

/-- An option that was given, its text not yet read. -/
structure Given where
  key : String
  takes : Takes
  value : String
  deriving Repr, DecidableEq

/-- Options that were given and the arguments that are none. -/
structure Parsed where
  given : List Given
  rest : List String
  deriving Repr, DecidableEq

def Parsed.cons (given : Given) (parsed : Parsed) : Parsed := ⟨given :: parsed.given, parsed.rest⟩

def Parsed.consRest (argument : String) (parsed : Parsed) : Parsed :=
  ⟨parsed.given, argument :: parsed.rest⟩

def findOption (specs : List OptionSpec) (name : String) : Except UsageFault OptionSpec :=
  match specs.find? (·.names.contains name) with
  | some spec => .ok spec
  | none => .error (.unknownOption name)

/-- Where the letters of short options lead: options are complete, or the last one needs the next
argument as its value. -/
structure Letters where
  given : List Given
  pending : Option OptionSpec

/-- Reads letters of short options; the rest of the letters is the value of the first option that takes
one. -/
def letters (specs : List OptionSpec) : List Char → Except UsageFault Letters
  | [] => .ok ⟨[], none⟩
  | c :: rest =>
    match findOption specs (String.ofList ['-', c]) with
    | .error fault => .error fault
    | .ok spec =>
      match spec.takes with
      | .nothing _ =>
        (letters specs rest).map fun more => ⟨⟨spec.key, spec.takes, ""⟩ :: more.given, more.pending⟩
      | _ =>
        if rest.isEmpty then .ok ⟨[], some spec⟩
        else .ok ⟨[⟨spec.key, spec.takes, String.ofList rest⟩], none⟩

/-- What an argument with a dash in front leads to. -/
def optionLetters (specs : List OptionSpec) (argument : String) : Except UsageFault Letters :=
  let (name, value) := match breakOn ['='] argument.toList with
    | some (name, value) => (String.ofList name, some (String.ofList value))
    | none => (argument, none)
  match findOption (specs.filter fun spec => 2 < name.length && spec.names.contains name) name with
  | .ok spec =>
    match spec.takes, value with
    | .nothing _, some _ => .error (.unexpectedValue name)
    | .nothing _, none => .ok ⟨[⟨spec.key, spec.takes, ""⟩], none⟩
    | _, some value => .ok ⟨[⟨spec.key, spec.takes, value⟩], none⟩
    | _, none => .ok ⟨[], some spec⟩
  | .error fault =>
    match argument.toList with
    | '-' :: '-' :: _ => .error fault
    | _ :: rest => letters specs rest
    | [] => .error fault

/-- Whether an argument is written like an option. -/
def looksLikeOption (argument : String) : Bool :=
  match argument.toList with
  | '-' :: _ :: _ => true
  | _ => false

/-- Reads arguments. What is no option ends the options unless they may be `interspersed`. -/
def parseArguments (specs : List OptionSpec) (interspersed : Bool) :
    List String → Except UsageFault Parsed
  | [] => .ok ⟨[], []⟩
  | argument :: rest =>
    if argument == "--" then .ok ⟨[], rest⟩
    else if looksLikeOption argument then
      match optionLetters specs argument with
      | .error fault => .error fault
      | .ok ⟨given, none⟩ =>
        (parseArguments specs interspersed rest).map fun more => ⟨given ++ more.given, more.rest⟩
      | .ok ⟨given, some spec⟩ =>
        match rest with
        | [] => .error (.missingValue argument)
        | value :: rest =>
          (parseArguments specs interspersed rest).map fun more =>
            ⟨given ++ ⟨spec.key, spec.takes, value⟩ :: more.given, more.rest⟩
    else if interspersed then
      (parseArguments specs interspersed rest).map (Parsed.consRest argument)
    else .ok ⟨[], argument :: rest⟩

/-- The options that count: of several for one key the last. -/
def lastGiven : List Given → List Given
  | [] => []
  | first :: rest =>
    if rest.any (·.key == first.key) then lastGiven rest else first :: lastGiven rest

/-- The value of an option. -/
def Given.read (given : Given) : Except UsageFault Value :=
  match given.takes with
  | .text => .ok (.str given.value)
  | .nothing switch => .ok (.bool switch)
  | .integer =>
    match Coercion.integerOfText given.value.toList with
    | .ok i => .ok (.int i)
    | .error _ => .error (.notInteger given.key given.value)

/-- The values of options by key. -/
def readGiven : List Given → Except UsageFault Entries
  | [] => .ok []
  | given :: rest =>
    match given.read with
    | .error fault => .error fault
    | .ok value => (readGiven rest).map ((given.key, value) :: ·)

/-- The values of the options that count, by key. -/
def optionValues (given : List Given) : Except UsageFault Entries := readGiven (lastGiven given)

/-- Whether an option was given. -/
def isGiven (key : String) (given : List Given) : Bool := given.any (·.key == key)

end EditorAssist.Terminal

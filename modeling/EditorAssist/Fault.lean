import EditorAssist.Json.Parser
import EditorAssist.Json.Printer
import EditorAssist.Number.Integer
import EditorAssist.Text.Literal

/-!
# Faults

Everything that can go wrong while the server works, as causes: faults of the backends and their
registry, of the configuration and the batch runner, and faults raised by a provider's client, which
carry a class name, its module and some attributes. Texts for the user are computed here and nowhere
else.
-/

namespace EditorAssist

open EditorAssist.Json EditorAssist.Text EditorAssist.Number

/-- What went wrong. -/
inductive FaultKind where
  /-- A backend did not answer in time. -/
  | backendTimeout (backend : String) (timeoutMs : Int)
  /-- A backend call failed or returned nothing usable. -/
  | backendFailure (backend message : String)
  /-- A backend fault of no particular kind. -/
  | backend (backend message : String)
  /-- No backend of that name is registered. -/
  | backendNotFound (name : String) (available : List String)
  /-- No backend is selected. -/
  | notConfigured
  | config (message : String) (path : Option String)
  | batch (message : String)
  /-- A token stands in a configuration file where none of its kind may. -/
  | misplacedToken
  /-- A text for the terminal closes a tag that is not open. -/
  | markup
  /-- A fault of a standard class. -/
  | standard (name : String) (argument : Option String)
  /-- A fault of a class that a provider's package brings along. -/
  | provider (package name : String) (argument : Option String)
  deriving Repr, DecidableEq

/-- A fault with the attributes set on it and the fault that caused it. -/
inductive Fault where
  | mk (kind : FaultKind) (attributes : Entries) (cause : Option Fault)

namespace Fault

def kind : Fault → FaultKind
  | mk kind _ _ => kind

def attributes : Fault → Entries
  | mk _ attributes _ => attributes

def cause : Fault → Option Fault
  | mk _ _ cause => cause

/-- A fault without attributes or cause. -/
def of (kind : FaultKind) : Fault := mk kind [] none

def backendTimeout (backend : String) (timeoutMs : Int) : Fault := of (.backendTimeout backend timeoutMs)
def backendFailure (backend message : String) : Fault := of (.backendFailure backend message)
def backendNotFound (name : String) (available : List String) : Fault :=
  of (.backendNotFound name available)
def notConfigured : Fault := of .notConfigured
def config (message : String) (path : Option String) : Fault := of (.config message path)
def batch (message : String) : Fault := of (.batch message)

def standard (name : String) (argument : Option String) : Fault := of (.standard name argument)

/-- The deadline of an awaited operation passed. -/
def deadline : Fault := standard "TimeoutError" none

/-- A number does not fit where it is needed. -/
def overflow : Fault := standard "OverflowError" none

/-- Values nest deeper than is read. -/
def nesting : Fault := standard "RecursionError" none

/-- The JSON reader met one of its limits. -/
def ofLimit : Json.Cause → Fault
  | .deepNesting => nesting
  | _ => standard "ValueError" none

end Fault

/-- The name of the class of a fault. -/
def FaultKind.className : FaultKind → String
  | .backendTimeout .. => "BackendTimeout"
  | .backendFailure .. => "BackendFailure"
  | .backend .. => "BackendError"
  | .backendNotFound .. => "BackendNotFoundError"
  | .notConfigured => "BackendNotConfiguredError"
  | .config .. => "ConfigError"
  | .batch .. => "HarnessError"
  | .misplacedToken => "UnexpectedToken"
  | .markup => "MarkupError"
  | .standard name _ => name
  | .provider _ name _ => name

/-- The text of a fault. A missing key is shown as a literal. -/
def FaultKind.text : FaultKind → String
  | .backendTimeout _ ms => "request timed out after " ++ toString ms ++ "ms"
  | .backendFailure _ message => message
  | .backend _ message => message
  | .backendNotFound name available =>
    if available.isEmpty then "backend not found: " ++ name
    else "backend not found: " ++ name ++ " (registered: " ++ ", ".intercalate available ++ ")"
  | .notConfigured => "no backend configured"
  | .config message none => message
  | .config message (some path) =>
    if path.isEmpty then message else "Config error in " ++ path ++ ": " ++ message
  | .batch message => message
  | .misplacedToken => "unexpected token"
  | .markup => "unmatched closing tag"
  | .standard _ none => ""
  | .standard name (some argument) =>
    if name == "KeyError" then String.ofList (literal argument.toList) else argument
  | .provider _ _ argument => argument.getD ""

namespace Fault

def className (f : Fault) : String := f.kind.className
def text (f : Fault) : String := f.kind.text

/-- The class with the package that brings it along, if one does. -/
def qualifiedName (f : Fault) : String :=
  match f.kind with
  | .provider package name _ => package ++ "." ++ name
  | kind => kind.className

/-- What a fault is once it leaves a piece of suspended work: the signal that an iteration is over
must not end anything outside the work, so it arrives as the cause of a fault of running. -/
def leavingWork (f : Fault) : Fault :=
  match f.kind with
  | .standard "StopIteration" _ =>
    mk (.standard "RuntimeError" (some "coroutine raised StopIteration")) [] (some f)
  | _ => f

/-- Whether the fault is the standard timeout. -/
def isDeadline (f : Fault) : Bool :=
  match f.kind with
  | .standard name _ => name == "TimeoutError"
  | _ => false

/-- Whether the fault is one of a backend. -/
def isBackendFault (f : Fault) : Bool :=
  match f.kind with
  | .backendTimeout .. | .backendFailure .. | .backend .. => true
  | _ => false

/-- Provider classes for a request that took too long. -/
def timeoutClasses : List String := ["openai.APITimeoutError", "anthropic.APITimeoutError"]

/-- Provider classes for a request that did not get through. -/
def connectionClasses : List String := ["openai.APIConnectionError", "anthropic.APIConnectionError"]

def isTimeout (f : Fault) : Bool := f.isDeadline || timeoutClasses.contains f.qualifiedName

/-- The integer that a status value is or spells; an infinite one fits no integer. -/
def statusNumber? : Value → Except Fault (Option Int)
  | .int i => .ok (some i)
  | .bool b => .ok (some (if b then 1 else 0))
  | .float x =>
    match Binary64.ofFloat x with
    | .infinite _ => .error overflow
    | number => .ok number.truncate?
  | .str s => .ok (integer? s.toList)
  | _ => .ok none

/-- The text of a status that is a number already. -/
def wholeStatus? : Value → Option String
  | .int i => some (toString i)
  | .bool b => some (if b then "True" else "False")
  | _ => none

/-- The status code of a fault as shown: its own, or the one of its response. -/
def status? (f : Fault) : Except Fault (Option String) :=
  match (Entries.get? "status_code" f.attributes).bind wholeStatus? with
  | some status => .ok (some status)
  | none =>
    match (Entries.get? "response" f.attributes).bind (Value.get? "status_code") with
    | none => .ok none
    | some code =>
      match wholeStatus? code with
      | some status => .ok (some status)
      | none => (statusNumber? code).map fun number => number.map toString

/-- The value that a fault was made with, unless an attribute of that name was set on it. -/
def valueOf (f : Fault) (key : String) (own : Value) : Value :=
  (Entries.get? key f.attributes).getD own

/-- The backend of a fault that is one of a backend. -/
def backend? (f : Fault) : Option Value :=
  match f.kind with
  | .backendTimeout backend _ | .backendFailure backend _ | .backend backend _ =>
    some (f.valueOf "backend" (.str backend))
  | _ => none

end Fault

end EditorAssist

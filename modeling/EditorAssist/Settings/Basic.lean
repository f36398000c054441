import EditorAssist.Fault
import EditorAssist.Settings.Environment

/-!
# Settings

What can be configured, with defaults. Durations are in milliseconds.
-/

namespace EditorAssist

open EditorAssist.Text

namespace Settings

/-- How progress is shown: as a diagnostic in the document, or by the editor's own means. -/
inductive ProgressMode where
  | diagnostic
  | progress
  deriving Repr, DecidableEq

def ProgressMode.name : ProgressMode → String
  | .diagnostic => "diagnostic"
  | .progress => "progress"

end Settings

/-- Everything that can be configured. -/
structure Settings where
  handler : String
  openaiKey : Option String
  openaiModel : String
  openaiChatModel : String
  openaiEndpoint : String
  anthropicKey : Option String
  anthropicModel : String
  anthropicChatModel : String
  anthropicEndpoint : String
  debounce : Nat
  triggerCharacters : List String
  suggestions : Nat
  logFile : String
  logLevel : String
  fetchTimeout : Nat
  actionTimeout : Nat
  completionTimeout : Nat
  spinner : Bool
  spinnerInterval : Nat
  progressMode : Settings.ProgressMode
  diagnosticTimeout : Nat
  deriving Repr, DecidableEq

namespace Settings

/-- The defaults, with a place for the records. -/
def defaults (logFile : String) : Settings where
  handler := "openai"
  openaiKey := none
  openaiModel := "gpt-4.1-mini"
  openaiChatModel := "gpt-5"
  openaiEndpoint := "https://api.openai.com/v1"
  anthropicKey := none
  anthropicModel := "claude-haiku-4-5"
  anthropicChatModel := "claude-sonnet-4-5"
  anthropicEndpoint := "https://api.anthropic.com"
  debounce := 200
  triggerCharacters := ["\x7b", "(", " "]
  suggestions := 1
  logFile
  logLevel := "info"
  fetchTimeout := 15000
  actionTimeout := 15000
  completionTimeout := 15000
  spinner := true
  spinnerInterval := 200
  progressMode := .diagnostic
  diagnosticTimeout := 3000

/-- Names of the handlers. -/
def handlers : List String := ["openai", "anthropic"]

/-- The key for a handler. -/
def keyFor (s : Settings) (handler : String) : Option String :=
  if handler = "openai" then s.openaiKey
  else if handler = "anthropic" then s.anthropicKey
  else none

/-- A key that is there and not empty. -/
def hasKey (s : Settings) (handler : String) : Bool := !((s.keyFor handler).getD "").isEmpty

def handlerLabel (handler : String) : String := if handler = "openai" then "OpenAI" else "Anthropic"

/-- Why a server cannot start with these settings: the handler has to exist and to have a key. -/
def check (s : Settings) : Option Fault :=
  if !handlers.contains s.handler then
    some (Fault.config ("handler must be one of 'openai', 'anthropic', got "
      ++ String.ofList (literal s.handler.toList)) none)
  else if !s.hasKey s.handler then
    some (Fault.config (handlerLabel s.handler ++ " API key is required when using " ++ s.handler
      ++ " handler") none)
  else none

end Settings

end EditorAssist

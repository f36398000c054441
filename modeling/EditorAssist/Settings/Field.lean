import EditorAssist.Payload.Codec
import EditorAssist.Settings.Basic

/-!
# Fields of the settings

Every setting has a name, the environment variable that sets it and a rule by which values for it are
read. A setting is also known by its wire key.
-/

namespace EditorAssist.Settings

open EditorAssist.Json EditorAssist.Payload EditorAssist.Text

/-- What is wrong with a value, and where. -/
structure Problem where
  place : String
  complaint : Complaint
  deriving Repr, DecidableEq

def Problem.message (p : Problem) : String := p.place ++ ": " ++ p.complaint.message

/-- Characters that trigger a completion, written as one text. -/
def splitTriggers (text : String) : List String :=
  (splitOn '|' ['|'] text.toList).map String.ofList

namespace Reader

/-- A whole number that is no less than `bound`. -/
def atLeast (bound : Nat) (v : Value) : Except Complaint Nat :=
  match Coercion.integer v with
  | .error complaint => .error complaint
  | .ok i => if i < bound then .error (.atLeast bound) else .ok i.toNat

/-- A whole number above zero. -/
def positive (v : Value) : Except Complaint Nat :=
  match Coercion.integer v with
  | .error complaint => .error complaint
  | .ok i => if i ≤ 0 then .error (.above 0) else .ok i.toNat

def optionalText : Value → Except Complaint (Option String)
  | .null => .ok none
  | v => (Coercion.text v).map some

def progressMode : Value → Except Complaint ProgressMode :=
  Coercion.oneOf [.diagnostic, .progress] ProgressMode.name

end Reader

/-- A setting. -/
structure Field where
  name : String
  /-- The environment variable for it. -/
  environmentName : String
  /-- Reads a value into the change of the settings that it stands for. -/
  read : Value → Except (List Problem) (Settings → Settings)
  /-- The value in force. -/
  shown : Settings → Value

namespace Field

/-- A field with one value. -/
def single {α : Type} (name environmentName : String) (read : Value → Except Complaint α)
    (set : α → Settings → Settings) (shown : Settings → Value) : Field where
  name
  environmentName
  read v :=
    match read v with
    | .ok a => .ok (set a)
    | .error complaint => .error [⟨name, complaint⟩]
  shown

def text (name environmentName : String) (set : String → Settings → Settings)
    (shown : Settings → String) : Field :=
  single name environmentName Coercion.text set fun s => .str (shown s)

def optionalText (name environmentName : String) (set : Option String → Settings → Settings)
    (shown : Settings → Option String) : Field :=
  single name environmentName Reader.optionalText set fun s =>
    match shown s with
    | some value => .str value
    | none => .null

def count (bound : Nat) (name environmentName : String) (set : Nat → Settings → Settings)
    (shown : Settings → Nat) : Field :=
  single name environmentName (Reader.atLeast bound) set fun s => .int (shown s)

def positive (name environmentName : String) (set : Nat → Settings → Settings)
    (shown : Settings → Nat) : Field :=
  single name environmentName Reader.positive set fun s => .int (shown s)

/-- Items of a list that are no texts, by their place in it. -/
def itemProblems (name : String) : (index : Nat) → List Value → List Problem
  | _, [] => []
  | index, .str _ :: rest => itemProblems name (index + 1) rest
  | index, _ :: rest =>
    ⟨name ++ "." ++ toString index, .text⟩ :: itemProblems name (index + 1) rest

/-- A list of texts, or one text that is split. -/
def readTriggers (name : String) : Value → Except (List Problem) (Settings → Settings)
  | .str s => .ok fun settings => { settings with triggerCharacters := splitTriggers s }
  | .arr items =>
    let problems := itemProblems name 0 items
    if problems.isEmpty then
      .ok fun settings => { settings with triggerCharacters := items.filterMap Value.str? }
    else .error problems
  | _ => .error [⟨name, .list⟩]

def triggers : Field where
  name := "trigger_characters"
  environmentName := "TRIGGER_CHARACTERS"
  read := readTriggers "trigger_characters"
  shown s := .arr (s.triggerCharacters.map .str)

/-- Every field, in the order in which problems are reported. -/
def all : List Field :=
  [text "handler" "HANDLER" (fun v s => { s with handler := v }) (·.handler),
   optionalText "openai_key" "OPENAI_API_KEY" (fun v s => { s with openaiKey := v }) (·.openaiKey),
   text "openai_model" "OPENAI_MODEL" (fun v s => { s with openaiModel := v }) (·.openaiModel),
   text "openai_model_for_chat" "OPENAI_MODEL_FOR_CHAT"
    (fun v s => { s with openaiChatModel := v }) (·.openaiChatModel),
   text "openai_endpoint" "OPENAI_ENDPOINT" (fun v s => { s with openaiEndpoint := v })
    (·.openaiEndpoint),
   optionalText "anthropic_key" "ANTHROPIC_API_KEY" (fun v s => { s with anthropicKey := v })
    (·.anthropicKey),
   text "anthropic_model" "ANTHROPIC_MODEL" (fun v s => { s with anthropicModel := v })
    (·.anthropicModel),
   text "anthropic_model_for_chat" "ANTHROPIC_MODEL_FOR_CHAT"
    (fun v s => { s with anthropicChatModel := v }) (·.anthropicChatModel),
   text "anthropic_endpoint" "ANTHROPIC_ENDPOINT" (fun v s => { s with anthropicEndpoint := v })
    (·.anthropicEndpoint),
   count 0 "debounce" "DEBOUNCE" (fun v s => { s with debounce := v }) (·.debounce),
   triggers,
   count 1 "num_suggestions" "NUM_SUGGESTIONS" (fun v s => { s with suggestions := v })
    (·.suggestions),
   text "log_file" "LOG_FILE" (fun v s => { s with logFile := v }) (·.logFile),
   text "log_level" "LOG_LEVEL" (fun v s => { s with logLevel := v }) (·.logLevel),
   positive "fetch_timeout" "FETCH_TIMEOUT" (fun v s => { s with fetchTimeout := v })
    (·.fetchTimeout),
   positive "action_timeout" "ACTION_TIMEOUT" (fun v s => { s with actionTimeout := v })
    (·.actionTimeout),
   positive "completion_timeout" "COMPLETION_TIMEOUT" (fun v s => { s with completionTimeout := v })
    (·.completionTimeout),
   single "enable_progress_spinner" "ENABLE_PROGRESS_SPINNER" Coercion.flag
    (fun v s => { s with spinner := v }) (fun s => .bool s.spinner),
   positive "progress_update_interval" "PROGRESS_UPDATE_INTERVAL"
    (fun v s => { s with spinnerInterval := v }) (·.spinnerInterval),
   single "progress_mode" "PROGRESS_MODE" Reader.progressMode
    (fun v s => { s with progressMode := v }) (fun s => .str s.progressMode.name),
   count 0 "diagnostic_timeout" "DIAGNOSTIC_TIMEOUT" (fun v s => { s with diagnosticTimeout := v })
    (·.diagnosticTimeout)]

/-- The field known by a name or by a wire key. -/
def find? (key : String) : Option Field :=
  (all.find? (·.name == key)).or (all.find? fun field => wireKey field.name == key)

/-- What is wrong with the value given for a field. -/
def problems (field : Field) (given : Entries) : List Problem :=
  match Entries.get? field.name given with
  | none => []
  | some v =>
    match field.read v with
    | .ok _ => []
    | .error problems => problems

/-- Takes the value given for a field over, if there is one. -/
def apply (field : Field) (given : Entries) (s : Settings) : Settings :=
  match Entries.get? field.name given with
  | none => s
  | some v =>
    match field.read v with
    | .ok change => change s
    | .error _ => s

end Field

/-- The values in force, by name. -/
def toEntries (s : Settings) : Entries :=
  Field.all.map fun field => (field.name, field.shown s)

/-- Settings with the given values in place of the defaults, or everything that is wrong with them. -/
def ofEntries (defaults : Settings) (given : Entries) : Except (List Problem) Settings :=
  let problems := Field.all.flatMap (·.problems given)
  if problems.isEmpty then .ok (Field.all.foldl (fun s field => field.apply given s) defaults)
  else .error problems

end EditorAssist.Settings

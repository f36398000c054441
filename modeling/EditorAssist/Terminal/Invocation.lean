import EditorAssist.Settings.Field
import EditorAssist.Terminal.Arguments

/-!
# Invocations

What the user asks for: the server, which is the default, one request on trial, or a batch of cases.
Options before the command set values of the settings for all commands; a batch has its own options
for the handler, the number of suggestions and the timeout, which take the place of those.
-/

namespace EditorAssist.Terminal

open EditorAssist.Json

/-- Settings from the command line. -/
structure Overrides where
  configPath : Option String
  entries : Entries

/-- What a batch is run on. -/
structure BatchOptions where
  path : String
  language : Option String
  provider : Option String
  verbose : Bool

inductive Invocation where
  | version
  | help
  /-- The server, or one request for a text that is not empty. -/
  | server (overrides : Overrides) (trial : String)
  | batch (overrides : Overrides) (options : BatchOptions)

/-- An option that sets a field of the settings. -/
def fieldOption (takes : Takes) (option field : String) : OptionSpec := ⟨["--" ++ option], field, takes⟩

def helpOption : OptionSpec := ⟨["--help"], "help", .nothing true⟩

/-- Options before the command. -/
def serverOptions : List OptionSpec :=
  [⟨["--version", "-v"], "version", .nothing true⟩, helpOption,
   fieldOption .text "config" "config", fieldOption .text "debug-query" "trial",
   fieldOption .text "handler" "handler",
   fieldOption .text "openai-key" "openai_key",
   fieldOption .text "openai-model" "openai_model",
   fieldOption .text "openai-model-for-chat" "openai_model_for_chat",
   fieldOption .text "openai-endpoint" "openai_endpoint",
   fieldOption .text "anthropic-key" "anthropic_key",
   fieldOption .text "anthropic-model" "anthropic_model",
   fieldOption .text "anthropic-model-for-chat" "anthropic_model_for_chat",
   fieldOption .text "anthropic-endpoint" "anthropic_endpoint",
   fieldOption .integer "debounce" "debounce",
   fieldOption .text "trigger-chars" "trigger_characters",
   fieldOption .integer "num-suggestions" "num_suggestions",
   fieldOption .text "log-file" "log_file",
   fieldOption .text "log-level" "log_level",
   fieldOption .integer "fetch-timeout" "fetch_timeout",
   fieldOption .integer "action-timeout" "action_timeout",
   fieldOption .integer "completion-timeout" "completion_timeout",
   fieldOption (.nothing true) "enable-progress-spinner" "enable_progress_spinner",
   fieldOption (.nothing false) "disable-progress-spinner" "enable_progress_spinner",
   fieldOption .integer "progress-update-interval" "progress_update_interval",
   fieldOption .text "progress-mode" "progress_mode",
   fieldOption .integer "diagnostic-timeout" "diagnostic_timeout"]

/-- Options of a batch. -/
def batchOptions : List OptionSpec :=
  [helpOption,
   ⟨["--language", "-l"], "language", .text⟩, ⟨["--provider", "-p"], "handler", .text⟩,
   ⟨["--num-suggestions", "-n"], "num_suggestions", .integer⟩,
   ⟨["--timeout"], "completion_timeout", .integer⟩,
   ⟨["--verbose"], "verbose", .nothing true⟩, ⟨["--no-color"], "no_color", .nothing true⟩]

def textValue? (key : String) (values : Entries) : Option String :=
  match Entries.get? key values with
  | some (.str s) => some s
  | _ => none

/-- Sets a value that may be missing; then nothing is set for its key. -/
def replaceEntry (values : Entries) (key : String) (entries : Entries) : Entries :=
  match Entries.get? key values with
  | some v => Entries.set key v entries
  | none => entries.filter (·.1 != key)

/-- The settings that a batch is run with. -/
def batchOverrides (overrides : Overrides) (values : Entries) : Overrides :=
  { overrides with
    entries := ["handler", "num_suggestions", "completion_timeout"].foldl
      (fun entries key => replaceEntry values key entries) overrides.entries }

namespace Invocation

/-- Reads the arguments of a batch. -/
def ofBatch (overrides : Overrides) (arguments : List String) : Except UsageFault Invocation := do
  let parsed ← parseArguments batchOptions true arguments
  if isGiven "help" parsed.given then return .help
  let values ← optionValues parsed.given
  match parsed.rest with
  | [] => throw (.missingArgument "PATH")
  | path :: [] =>
    return .batch (batchOverrides overrides values)
      { path
        language := textValue? "language" values
        provider := textValue? "handler" values
        verbose := isGiven "verbose" parsed.given }
  | _ :: extra :: _ => throw (.unexpectedArgument extra)

/-- Reads the arguments of the server given as a command. -/
def ofServer (overrides : Overrides) (arguments : List String) : Except UsageFault Invocation := do
  let parsed ← parseArguments [helpOption] true arguments
  if isGiven "help" parsed.given then return .help
  match parsed.rest with
  | [] => return .server overrides ""
  | extra :: _ => throw (.unexpectedArgument extra)

/-- Arguments that start with `name`, which is no command. One that is written like an option stands behind
two dashes; then the arguments are read once more, but only for questions about the program. -/
def afterDashes (name : String) (arguments : List String) : Except UsageFault Invocation := do
  if looksLikeOption name then
    let parsed ← parseArguments serverOptions false arguments
    if isGiven "version" parsed.given then return .version
    if isGiven "help" parsed.given then return .help
  throw (.unknownCommand name)

/-- Reads the arguments of the program. -/
def ofArguments (arguments : List String) : Except UsageFault Invocation := do
  let parsed ← parseArguments serverOptions false arguments
  if isGiven "version" parsed.given then return .version
  if isGiven "help" parsed.given then return .help
  let values ← optionValues parsed.given
  let overrides : Overrides := ⟨textValue? "config" values, values⟩
  match parsed.rest with
  | [] => return .server overrides ((textValue? "trial" values).getD "")
  | "serve" :: rest => ofServer overrides rest
  | "test" :: rest => ofBatch overrides rest
  | name :: _ => afterDashes name parsed.rest

end Invocation

end EditorAssist.Terminal

import EditorAssist.Backend.Station
import EditorAssist.Settings.Basic

/-!
# Backends from settings

Every backend with a key is registered, and the one that handles requests is selected.
-/

namespace EditorAssist.Settings

open EditorAssist.Backend EditorAssist.Journal

/-- The backend of a kind, with the answers that its provider will give. -/
def provider (s : Settings) (answers : ProviderKind → List Answer) (kind : ProviderKind) : Provider :=
  match kind with
  | .openai =>
    .of kind s.openaiModel (some s.openaiChatModel) s.fetchTimeout (answers kind)
  | .anthropic =>
    .of kind s.anthropicModel (some s.anthropicChatModel) s.fetchTimeout (answers kind)

/-- Whether the backend of a kind is to be registered. -/
def wants (s : Settings) (only : Option String) (kind : ProviderKind) : Bool :=
  s.hasKey kind.name && (only.isNone || only == some kind.name)

/-- Registers the backend of a kind, if it is wanted. -/
def enroll (s : Settings) (only : Option String) (answers : ProviderKind → List Answer)
    (station : Station) (kind : ProviderKind) : Station :=
  if s.wants only kind then
    let provider := s.provider answers kind
    (station.register kind.name provider).log .info "cli.serve"
      ("registered " ++ handlerLabel kind.name ++ " backend") [("model", .text provider.model)]
  else station

/-- Registers what has a key, or only one backend of it, and selects the handler. -/
def enrollAll (s : Settings) (only : Option String) (answers : ProviderKind → List Answer)
    (station : Station) : Except Fault Station :=
  let chosen := match only with
    | some name => if name.isEmpty then s.handler else name
    | none => s.handler
  (s.enroll only answers (s.enroll only answers station .openai) .anthropic).select chosen

end EditorAssist.Settings

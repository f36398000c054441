import EditorAssist.Payload.Codec

/-!
# Payload types

What editor and server exchange: positions and ranges, documents, completions, code actions,
diagnostics, progress and server capabilities, each with its codec.
-/

namespace EditorAssist.Payload

open EditorAssist.Json

/-- Names a request or a progress report: an integer or a text. -/
inductive RequestId where
  | number (n : Int)
  | name (s : String)
  deriving Repr, DecidableEq

/-- Texts stay texts; anything else has to be an integer. -/
def RequestId.read : Value → Except (List Mismatch) RequestId
  | .str s => .ok (.name s)
  | v => Codec.firstOf [Codec.branch .integer .number v, Codec.branch .text .name v]

def RequestId.toValue : RequestId → Value
  | .number n => .int n
  | .name s => .str s

def RequestId.codec : Codec RequestId := ⟨"int,str", RequestId.read, RequestId.toValue⟩

inductive MessageType where
  | error
  | warning
  | info
  | log
  deriving Repr, DecidableEq

def MessageType.toInt : MessageType → Int
  | .error => 1
  | .warning => 2
  | .info => 3
  | .log => 4

def MessageType.codec : Codec MessageType :=
  Codec.choice "MessageType" [.error, .warning, .info, .log] toInt

inductive Severity where
  | error
  | warning
  | information
  | hint
  deriving Repr, DecidableEq

def Severity.toInt : Severity → Int
  | .error => 1
  | .warning => 2
  | .information => 3
  | .hint => 4

def Severity.codec : Codec Severity :=
  Codec.choice "DiagnosticSeverity" [.error, .warning, .information, .hint] toInt

inductive SyncKind where
  | off
  | full
  | incremental
  deriving Repr, DecidableEq

def SyncKind.toInt : SyncKind → Int
  | .off => 0
  | .full => 1
  | .incremental => 2

def SyncKind.codec : Codec SyncKind :=
  Codec.choice "TextDocumentSyncKind" [.off, .full, .incremental] toInt

/-- A zero-based line and column. -/
structure Position where
  line : Int
  character : Int
  deriving Repr, DecidableEq

def Position.codec : Codec Position :=
  ((Fields.required "line" .integer).and (Fields.required "character" .integer)).codec "Position"
    (fun (line, character) => ⟨line, character⟩) (fun p => (p.line, p.character))

structure Range where
  start : Position
  stop : Position
  deriving Repr, DecidableEq

def Range.codec : Codec Range :=
  ((Fields.required "start" Position.codec).and (Fields.required "end" Position.codec)).codec "Range"
    (fun (start, stop) => ⟨start, stop⟩) (fun r => (r.start, r.stop))

def Range.of (startLine startCharacter stopLine stopCharacter : Int) : Range :=
  ⟨⟨startLine, startCharacter⟩, ⟨stopLine, stopCharacter⟩⟩

structure Diagnostic where
  message : String
  range : Range
  source : Option String
  severity : Option Severity
  deriving Repr, DecidableEq

def Diagnostic.codec : Codec Diagnostic :=
  ((Fields.required "message" .text).and ((Fields.required "range" Range.codec).and
    ((Fields.nullable "source" .text).and (Fields.nullable "severity" Severity.codec)))).codec "Diagnostic"
    (fun (message, range, source, severity) => ⟨message, range, source, severity⟩)
    (fun d => (d.message, d.range, d.source, d.severity))

structure DocumentId where
  uri : String
  deriving Repr, DecidableEq

def DocumentId.codec : Codec DocumentId :=
  (Fields.required "uri" .text).codec "TextDocumentIdentifier" (fun uri => ⟨uri⟩) (fun d => d.uri)

structure VersionedDocumentId where
  uri : String
  version : Int
  deriving Repr, DecidableEq

def VersionedDocumentId.codec : Codec VersionedDocumentId :=
  ((Fields.required "uri" .text).and (Fields.defaulted "version" .integer 0)).codec "VersionedTextDocumentIdentifier"
    (fun (uri, version) => ⟨uri, version⟩) (fun d => (d.uri, d.version))

structure DocumentItem where
  uri : String
  languageId : String
  version : Int
  text : String
  deriving Repr, DecidableEq

def DocumentItem.codec : Codec DocumentItem :=
  ((Fields.required "uri" .text).and ((Fields.defaulted "language_id" .text "").and
    ((Fields.defaulted "version" .integer 0).and (Fields.defaulted "text" .text "")))).codec "TextDocumentItem"
    (fun (uri, languageId, version, text) => ⟨uri, languageId, version, text⟩)
    (fun d => (d.uri, d.languageId, d.version, d.text))

structure DidOpenParams where
  textDocument : DocumentItem
  deriving Repr, DecidableEq

def DidOpenParams.codec : Codec DidOpenParams :=
  (Fields.required "text_document" DocumentItem.codec).codec "DidOpenParams" (fun d => ⟨d⟩) (·.textDocument)

structure ContentChange where
  text : String
  deriving Repr, DecidableEq

def ContentChange.codec : Codec ContentChange :=
  (Fields.required "text" .text).codec "ContentChange" (fun text => ⟨text⟩) (·.text)

structure DidChangeParams where
  textDocument : VersionedDocumentId
  contentChanges : List ContentChange
  deriving Repr, DecidableEq

def DidChangeParams.codec : Codec DidChangeParams :=
  ((Fields.required "text_document" VersionedDocumentId.codec).and
    (Fields.defaulted "content_changes" (.list ContentChange.codec) [])).codec "DidChangeParams"
    (fun (textDocument, changes) => ⟨textDocument, changes⟩)
    (fun p => (p.textDocument, p.contentChanges))

structure DidCloseParams where
  textDocument : DocumentId
  deriving Repr, DecidableEq

def DidCloseParams.codec : Codec DidCloseParams :=
  (Fields.required "text_document" DocumentId.codec).codec "DidCloseParams" (fun d => ⟨d⟩) (·.textDocument)

structure CompletionParams where
  textDocument : DocumentId
  position : Position
  workDoneToken : Option RequestId
  deriving Repr, DecidableEq

def CompletionParams.codec : Codec CompletionParams :=
  ((Fields.required "text_document" DocumentId.codec).and
    ((Fields.required "position" Position.codec).and
      (Fields.nullable "work_done_token" RequestId.codec))).codec "CompletionParams"
    (fun (textDocument, position, token) => ⟨textDocument, position, token⟩)
    (fun p => (p.textDocument, p.position, p.workDoneToken))

structure TextEdit where
  range : Range
  newText : String
  deriving Repr, DecidableEq

def TextEdit.codec : Codec TextEdit :=
  ((Fields.required "range" Range.codec).and (Fields.required "new_text" .text)).codec "TextEdit"
    (fun (range, newText) => ⟨range, newText⟩) (fun e => (e.range, e.newText))

structure CompletionItem where
  label : String
  kind : Option Int
  detail : Option String
  insertText : Option String
  insertTextFormat : Option Int
  sortText : Option String
  preselect : Option Bool
  additionalTextEdits : Option (List TextEdit)
  deriving Repr, DecidableEq

def CompletionItem.codec : Codec CompletionItem :=
  ((Fields.required "label" .text).and ((Fields.nullable "kind" .integer).and
    ((Fields.nullable "detail" .text).and ((Fields.nullable "insert_text" .text).and
      ((Fields.nullable "insert_text_format" .integer).and
        ((Fields.nullable "sort_text" .text).and ((Fields.nullable "preselect" .flag).and
          (Fields.nullable "additional_text_edits" (.list TextEdit.codec))))))))).codec "CompletionItem"
    (fun (label, kind, detail, insertText, format, sortText, preselect, edits) =>
      ⟨label, kind, detail, insertText, format, sortText, preselect, edits⟩)
    (fun i => (i.label, i.kind, i.detail, i.insertText, i.insertTextFormat, i.sortText,
      i.preselect, i.additionalTextEdits))

structure CompletionList where
  isIncomplete : Bool
  items : List CompletionItem
  deriving Repr, DecidableEq

def CompletionList.codec : Codec CompletionList :=
  ((Fields.defaulted "is_incomplete" .flag false).and
    (Fields.defaulted "items" (.list CompletionItem.codec) [])).codec "CompletionList"
    (fun (isIncomplete, items) => ⟨isIncomplete, items⟩) (fun l => (l.isIncomplete, l.items))

structure CodeActionContext where
  diagnostics : List Diagnostic
  deriving Repr, DecidableEq

def CodeActionContext.codec : Codec CodeActionContext :=
  (Fields.defaulted "diagnostics" (.list Diagnostic.codec) []).codec "CodeActionContext" (fun d => ⟨d⟩) (·.diagnostics)

structure CodeActionParams where
  textDocument : DocumentId
  range : Range
  context : CodeActionContext
  deriving Repr, DecidableEq

def CodeActionParams.codec : Codec CodeActionParams :=
  ((Fields.required "text_document" DocumentId.codec).and
    ((Fields.required "range" Range.codec).and
      (Fields.defaulted "context" CodeActionContext.codec ⟨[]⟩))).codec "CodeActionParams"
    (fun (textDocument, range, context) => ⟨textDocument, range, context⟩)
    (fun p => (p.textDocument, p.range, p.context))

structure Command where
  title : String
  command : String
  arguments : Option (List Value)

def Command.codec : Codec Command :=
  ((Fields.required "title" .text).and ((Fields.required "command" .text).and
    (Fields.nullable "arguments" (.list .any)))).codec "Command"
    (fun (title, command, arguments) => ⟨title, command, arguments⟩)
    (fun c => (c.title, c.command, c.arguments))

structure CodeAction where
  title : String
  kind : Option String
  diagnostics : Option (List Value)
  command : Option Command

def CodeAction.codec : Codec CodeAction :=
  ((Fields.required "title" .text).and ((Fields.nullable "kind" .text).and
    ((Fields.nullable "diagnostics" (.list .any)).and
      (Fields.nullable "command" Command.codec)))).codec "CodeAction"
    (fun (title, kind, diagnostics, command) => ⟨title, kind, diagnostics, command⟩)
    (fun a => (a.title, a.kind, a.diagnostics, a.command))

structure ExecuteCommandParams where
  command : String
  arguments : List Value
  workDoneToken : Option RequestId

def ExecuteCommandParams.codec : Codec ExecuteCommandParams :=
  ((Fields.required "command" .text).and ((Fields.defaulted "arguments" (.list .any) []).and
    (Fields.nullable "work_done_token" RequestId.codec))).codec "ExecuteCommandParams"
    (fun (command, arguments, token) => ⟨command, arguments, token⟩)
    (fun p => (p.command, p.arguments, p.workDoneToken))

/-- What a code action hands to its command: the selection, the query and the messages of the
diagnostics around it. -/
structure CommandArgument where
  range : Range
  query : String
  diagnostics : List String
  deriving Repr, DecidableEq

def CommandArgument.codec : Codec CommandArgument :=
  ((Fields.required "range" Range.codec).and ((Fields.defaulted "query" .text "").and
    (Fields.defaulted "diagnostics" (.list .text) []))).codec "CommandArgument"
    (fun (range, query, diagnostics) => ⟨range, query, diagnostics⟩)
    (fun a => (a.range, a.query, a.diagnostics))

/-- Edits by document. -/
structure WorkspaceEdit where
  changes : List (String × List TextEdit)
  deriving Repr, DecidableEq

def WorkspaceEdit.codec : Codec WorkspaceEdit :=
  (Fields.required "changes" (.mapping (.list TextEdit.codec))).codec "WorkspaceEdit" (fun c => ⟨c⟩) (·.changes)

structure ApplyEditParams where
  label : String
  edit : WorkspaceEdit
  deriving Repr, DecidableEq

def ApplyEditParams.codec : Codec ApplyEditParams :=
  ((Fields.required "label" .text).and (Fields.required "edit" WorkspaceEdit.codec)).codec "ApplyWorkspaceEditParams"
    (fun (label, edit) => ⟨label, edit⟩) (fun p => (p.label, p.edit))

structure PublishDiagnosticsParams where
  uri : String
  diagnostics : List Diagnostic
  deriving Repr, DecidableEq

def PublishDiagnosticsParams.codec : Codec PublishDiagnosticsParams :=
  ((Fields.required "uri" .text).and
    (Fields.required "diagnostics" (.list Diagnostic.codec))).codec "PublishDiagnosticsParams"
    (fun (uri, diagnostics) => ⟨uri, diagnostics⟩) (fun p => (p.uri, p.diagnostics))

structure ShowMessageParams where
  type : MessageType
  message : String
  deriving Repr, DecidableEq

def ShowMessageParams.codec : Codec ShowMessageParams :=
  ((Fields.required "type" MessageType.codec).and (Fields.required "message" .text)).codec "ShowMessageParams"
    (fun (type, message) => ⟨type, message⟩) (fun p => (p.type, p.message))

structure ProgressBegin where
  title : String
  message : Option String
  cancellable : Option Bool
  deriving Repr, DecidableEq

def ProgressBegin.codec : Codec ProgressBegin :=
  ((Fields.constant "kind" "begin").and ((Fields.required "title" .text).and
    ((Fields.nullable "message" .text).and (Fields.nullable "cancellable" .flag)))).codec "WorkDoneProgressBegin"
    (fun (_, title, message, cancellable) => ⟨title, message, cancellable⟩)
    (fun p => ((), p.title, p.message, p.cancellable))

structure ProgressReport where
  message : Option String
  deriving Repr, DecidableEq

def ProgressReport.codec : Codec ProgressReport :=
  ((Fields.constant "kind" "report").and (Fields.nullable "message" .text)).codec "WorkDoneProgressReport"
    (fun (_, message) => ⟨message⟩) (fun p => ((), p.message))

structure ProgressEnd where
  message : Option String
  deriving Repr, DecidableEq

def ProgressEnd.codec : Codec ProgressEnd :=
  ((Fields.constant "kind" "end").and (Fields.nullable "message" .text)).codec "WorkDoneProgressEnd"
    (fun (_, message) => ⟨message⟩) (fun p => ((), p.message))

/-- One step of a progress report. -/
inductive ProgressValue where
  | begin_ (value : ProgressBegin)
  | report (value : ProgressReport)
  | end_ (value : ProgressEnd)
  deriving Repr, DecidableEq

/-- A value without a kind is a begin when it has a title and a report otherwise. -/
def ProgressValue.read (v : Value) : Except (List Mismatch) ProgressValue :=
  Codec.firstOf [Codec.branch ProgressBegin.codec .begin_ v, Codec.branch ProgressReport.codec .report v,
    Codec.branch ProgressEnd.codec .end_ v]

def ProgressValue.write : ProgressValue → Value
  | .begin_ value => ProgressBegin.codec.write value
  | .report value => ProgressReport.codec.write value
  | .end_ value => ProgressEnd.codec.write value

def ProgressValue.codec : Codec ProgressValue :=
  ⟨"progress", ProgressValue.read, ProgressValue.write⟩

structure ProgressParams where
  token : RequestId
  value : ProgressValue
  deriving Repr, DecidableEq

def ProgressParams.codec : Codec ProgressParams :=
  ((Fields.required "token" RequestId.codec).and
    (Fields.required "value" ProgressValue.codec)).codec "ProgressParams"
    (fun (token, value) => ⟨token, value⟩) (fun p => (p.token, p.value))

structure CompletionOptions where
  triggerCharacters : Option (List String)
  deriving Repr, DecidableEq

def CompletionOptions.codec : Codec CompletionOptions :=
  (Fields.nullable "trigger_characters" (.list .text)).codec "CompletionOptions" (fun t => ⟨t⟩) (·.triggerCharacters)

structure ExecuteCommandOptions where
  commands : List String
  deriving Repr, DecidableEq

def ExecuteCommandOptions.codec : Codec ExecuteCommandOptions :=
  (Fields.required "commands" (.list .text)).codec "ExecuteCommandOptions" (fun c => ⟨c⟩) (·.commands)

structure ServerCapabilities where
  textDocumentSync : SyncKind
  completionProvider : Option CompletionOptions
  codeActionProvider : Option Bool
  executeCommandProvider : Option ExecuteCommandOptions
  deriving Repr, DecidableEq

def ServerCapabilities.codec : Codec ServerCapabilities :=
  ((Fields.defaulted "text_document_sync" SyncKind.codec .full).and
    ((Fields.nullable "completion_provider" CompletionOptions.codec).and
      ((Fields.nullable "code_action_provider" .flag).and
        (Fields.nullable "execute_command_provider" ExecuteCommandOptions.codec)))).codec "ServerCapabilities"
    (fun (sync, completion, actions, commands) => ⟨sync, completion, actions, commands⟩)
    (fun c => (c.textDocumentSync, c.completionProvider, c.codeActionProvider,
      c.executeCommandProvider))

structure ServerInfo where
  name : String
  version : Option String
  deriving Repr, DecidableEq

def ServerInfo.codec : Codec ServerInfo :=
  ((Fields.required "name" .text).and (Fields.nullable "version" .text)).codec "ServerInfo"
    (fun (name, version) => ⟨name, version⟩) (fun i => (i.name, i.version))

structure InitializeResult where
  capabilities : ServerCapabilities
  serverInfo : Option ServerInfo
  deriving Repr, DecidableEq

def InitializeResult.codec : Codec InitializeResult :=
  ((Fields.required "capabilities" ServerCapabilities.codec).and
    (Fields.nullable "server_info" ServerInfo.codec)).codec "InitializeResult"
    (fun (capabilities, info) => ⟨capabilities, info⟩) (fun r => (r.capabilities, r.serverInfo))

end EditorAssist.Payload

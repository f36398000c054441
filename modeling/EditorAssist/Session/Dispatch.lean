import EditorAssist.Session.Commanding
import EditorAssist.Session.Completing
import EditorAssist.Wire.Model

/-!
# Handling messages

A message is handled by every handler of its method, each as work of its own. What has no handler is
refused if it is a request and ignored otherwise; responses of the client are ignored.
-/

namespace EditorAssist.Session

open EditorAssist.Journal EditorAssist.Json EditorAssist.Payload EditorAssist.Settings
open EditorAssist.Time EditorAssist.Wire

/-- The handler that every session has for a method. -/
def Handler.ofMethod? : String → Option Handler
  | "initialize" => some .handshake
  | "initialized" => some .greeting
  | "textDocument/didOpen" => some .opening
  | "textDocument/didChange" => some .change
  | "textDocument/didClose" => some .closing
  | "shutdown" => some .shutdown
  | "exit" => some .exit
  | "textDocument/completion" => some .completion
  | "textDocument/codeAction" => some .codeAction
  | "workspace/executeCommand" => some .command
  | _ => none

/-- All handlers of a method, the session's own one first. -/
def handlersFor (s : Session) (method : String) : List Handler :=
  (Handler.ofMethod? method).toList ++
    (s.added.filter (·.1 == method)).map (·.2)

/-- Adds a handler for a method. -/
def addHandler (s : Session) (method : String) (script : HandlerScript) : Session :=
  { s with added := s.added ++ [(method, .scripted script)] }

/-- Starts one handler on a message. -/
def invoke (message : Message) (s : Session) (handler : Handler) : Session :=
  let number := s.invocations.length
  let method := message.method.getD ""
  let invocation : Invocation := { number, method, outcome := none }
  let noted := { s with invocations := s.invocations ++ [invocation] }
  (noted.spawn (.handle number handler message)).1

/-- Starts all handlers of a message. -/
def emit (s : Session) (message : Message) : Session :=
  (s.handlersFor (message.method.getD "")).foldl (invoke message) s

/-- Notifications that are not noted when they arrive. -/
def quietMethods : List String := ["textDocument/didOpen", "textDocument/didChange"]

/-- A message with a method has arrived. -/
def handleCall (s : Session) (message : Message) (method : String) : Session :=
  let noted := if quietMethods.contains method then s
    else s.log .debug "lsp.service" "received"
      [("method", .text method), ("id", idTag message.id)]
  if (noted.handlersFor method).isEmpty then
    if message.id.isSome then
      (noted.log .warn "lsp.service" "method not found" [("method", .text method)]).refuse message.id
        (.methodNotFound ("Method Not Found: " ++ method))
    else noted.log .debug "lsp.service" "unhandled notification" [("method", .text method)]
  else noted.emit message

/-- A message has arrived. -/
def handle (s : Session) (message : Message) : Session :=
  match message.method with
  | some method => s.handleCall message method
  | none =>
    if message.id.isSome then
      let error := match message.error with
        | some entries => Datum.ofValue (.obj entries)
        | none => .null
      s.log .debug "lsp.service" "ignoring client response"
        [("id", idTag message.id), ("error", error)]
    else s.log .warn "lsp.service" "ignoring message without id or method" []

/-- The parameters of a message; whatever counts as absent is an empty object. -/
def givenParams (message : Message) : Value :=
  if message.params.isFalsy then .obj [] else message.params

/-- Refuses the parameters of a message, if it has an id. -/
def refuseParams (s : Session) (message : Message) (name : String) (wrong : List Mismatch) : Session :=
  let noted := s.log .error "lsp.service" "invalid params"
    [("method", methodTag message.method), ("error", .text (Mismatch.report name wrong))]
  match message.id with
  | none => noted
  | some id =>
    noted.refuse (some id) (.invalidParams ("Invalid params for " ++ (methodTag message.method).display))

/-- Reads the parameters of a message and goes on with them. -/
def withParams {α : Type} (codec : Codec α) (s : Session) (invocation : Nat) (message : Message)
    (next : α → Session) : Session :=
  match codec.read (givenParams message) with
  | .ok params => next params
  | .error wrong => (s.refuseParams message codec.name wrong).finish invocation

/-- What the server can do. -/
def capabilities (settings : Settings) : ServerCapabilities where
  textDocumentSync := .full
  completionProvider := some ⟨some settings.triggerCharacters⟩
  codeActionProvider := some true
  executeCommandProvider := some ⟨Action.commands.map (·.key)⟩

def version : String := "0.1.0"

def serverInfo : ServerInfo := ⟨"helix-assist", some version⟩

def didOpen (s : Session) (params : DidOpenParams) : Session :=
  let item := params.textDocument
  { s with documents := s.documents.set ⟨item.uri, item.text, item.version, item.languageId⟩ }.log .info
    "lsp.service" "received didOpen" [("uri", .text item.uri), ("language", .text item.languageId)]

def didChange (s : Session) (params : DidChangeParams) : Session :=
  let id := params.textDocument
  let changed := match params.contentChanges with
    | [] => s
    | first :: _ => { s with documents := s.documents.updateText id.uri id.version first.text }
  changed.log .debug "lsp.service" "received didChange"
    [("uri", .text id.uri), ("version", .int id.version)]

def didClose (s : Session) (params : DidCloseParams) : Session :=
  let uri := params.textDocument.uri
  { s with documents := s.documents.delete uri }.log .info "lsp.service" "received didClose"
    [("uri", .text uri)]

/-- Withdraws all delayed work and answers. -/
def shutdown (s : Session) (message : Message) : Session :=
  let noted := s.log .info "lsp.service" "received shutdown request" []
  let cancelled := { noted with shutdownRequested := true }.cancelAllPending
  if message.id.isSome then cancelled.respond message.id .null else cancelled

/-- Ends the process: without a fault only after a shutdown. -/
def exit (s : Session) : Session :=
  let code := if s.shutdownRequested then 0 else 1
  let noted := s.log .info "lsp.service" "received exit notification" [("code", .int (code : Nat))]
  { noted with sink := noted.sink.close, exits := noted.exits ++ [code] }

/-- Offers the code actions for a selection, whose document becomes the current one. -/
def offerActions (s : Session) (id : Option RequestId) (params : CodeActionParams) : Session :=
  { s with documents := s.documents.setCurrent params.textDocument.uri }.respond id
    (.arr ((Action.codeActions params).map CodeAction.codec.write))

/-- The part of a script after its payload was read. -/
def runScriptTail (s : Session) (invocation : Nat) (script : HandlerScript) (message : Message) :
    Session :=
  match script.fails with
  | some fault =>
    (s.log .error "lsp.service" "handler fault"
      [("method", methodTag message.method), ("error", .text fault.headline)]).conclude
        invocation (some fault)
  | none =>
    let responded := match script.respond with
      | some v => s.respond message.id v
      | none => s
    let notified := match script.notify with
      | some method => responded.notify method (.obj [("params", message.params)])
      | none => responded
    notified.finish invocation

/-- The part of a script after its sleep. -/
def runScript (s : Session) (invocation : Nat) (script : HandlerScript) (message : Message) : Session :=
  match script.parse with
  | none => s.runScriptTail invocation script message
  | some name =>
    match Model.find? name with
    | none => s.finish invocation
    | some model =>
      match model.normalize (givenParams message) with
      | .ok payload => (s.respond message.id payload).runScriptTail invocation script message
      | .error wrong => (s.refuseParams message name wrong).finish invocation

/-- A handler sets to work on a message. -/
def runHandler (s : Session) (ticket invocation : Nat) (handler : Handler) (message : Message) :
    Session :=
  match handler with
  | .handshake =>
    (s.respond message.id
      (InitializeResult.codec.write ⟨capabilities s.settings, some serverInfo⟩)).finish invocation
  | .greeting => (s.log .info "lsp.service" "client initialized" []).finish invocation
  | .opening =>
    withParams DidOpenParams.codec s invocation message fun params => (s.didOpen params).finish invocation
  | .change =>
    withParams DidChangeParams.codec s invocation message fun params =>
      (s.didChange params).finish invocation
  | .closing =>
    withParams DidCloseParams.codec s invocation message fun params =>
      (s.didClose params).finish invocation
  | .shutdown => (s.shutdown message).finish invocation
  | .exit => s.exit.finish invocation
  | .completion =>
    withParams CompletionParams.codec s invocation message (s.requestCompletion invocation message.id)
  | .codeAction =>
    withParams CodeActionParams.codec s invocation message fun params =>
      (s.offerActions message.id params).finish invocation
  | .command =>
    withParams ExecuteCommandParams.codec s invocation message
      (s.requestCommand invocation message.id)
  | .scripted script =>
    match script.sleep with
    | none => s.runScript invocation script message
    | some span => s.waitFor span ticket (.resume invocation script message)

end EditorAssist.Session

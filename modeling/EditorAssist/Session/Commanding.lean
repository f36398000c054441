import EditorAssist.Session.Completing
import EditorAssist.Text.Indent

/-!
# Commands

A command has the selected lines of the current document revised by the chat of the backend. The
answer is sent to the client as an edit, indented like the selection; the command itself is answered
with null, whatever happens. The chat is work of its own, which the handler of the command waits for.
-/

namespace EditorAssist.Session

open EditorAssist.Action EditorAssist.Backend EditorAssist.Journal EditorAssist.Payload
open EditorAssist.Settings EditorAssist.Text EditorAssist.Time EditorAssist.Wire

/-- Answers a command and ends its handler. -/
def answerCommand (s : Session) (job : CommandJob) : Session :=
  (s.respond job.id .null).finish job.invocation

/-- The revised lines, indented by `amount`. -/
def indentedResult (amount : Nat) (result : List Char) : List Char := pad amount (trim result) ++ ['\n']

/-- Shows why a command did not lead to an edit. -/
def publishFailure (s : Session) (job : CommandJob) (text : String) : Session :=
  s.publishOne text job.argument.range .error (.ofMillis s.settings.diagnosticTimeout)

/-- Sends the edit that a chat answer leads to. -/
def applyResult (s : Session) (pending : Commanding) (result : String) : Session :=
  let job := pending.job
  if isBlankText result.toList then
    (s.log .warn "handler.actions" "chat returned nothing"
      [("command", .text job.command.key)]).publishFailure job "No completion found"
  else
    let text := indentedResult pending.padding result.toList
    let noted := s.log .debug "handler.actions" "received chat result"
      [("command", .text job.command.key), ("length", .int text.length)]
    let edit : WorkspaceEdit := ⟨[(pending.uri, [⟨job.argument.range, String.ofList text⟩])]⟩
    (noted.requestWith fun id => .applyEdit id ⟨job.command.key, edit⟩).resetDiagnostics

/-- Answers a command whose handler ends with a fault. -/
def breakCommand (s : Session) (job : CommandJob) (fault : Fault) : Session :=
  ((s.respond job.id .null).log .error "lsp.service" "handler fault"
    [("method", .text "workspace/executeCommand"), ("error", .text fault.headline)]).conclude
      job.invocation (some fault)

/-- The outcome of a command that the backend worked on. -/
def deliverChat (s : Session) (pending : Commanding) (result : Except Fault Suggestion) : Session :=
  match result with
  | .ok (.str text) => (s.applyResult pending text).answerCommand pending.job
  | .ok other => s.breakCommand pending.job (noTextFault other)
  | .error fault =>
    let text := fault.describe
    ((s.log .error "handler.actions" "chat failed"
      [("command", .text pending.job.command.key), ("error", .text text)]).publishFailure
        pending.job text).answerCommand pending.job

/-- The handler of a command goes on when its chat is over. -/
def takeReply (s : Session) (pending : Commanding) (result : Except Fault Suggestion) : Session :=
  (s.stopSignal pending.active).1.deliverChat pending result

/-- Notes the length of a chat answer that is taken as it is. -/
def noteReply (s : Session) (provider : Provider) (result : Except Fault Provider.ChatReply) :
    Session :=
  match result with
  | .ok ⟨_, some length⟩ => s.log .debug provider.kind.service "chat reply" [("length", .int length)]
  | _ => s

/-- The chat is over. After an answer its handler is told; at the deadline the handler itself ends the
chat and goes on at once. -/
def endChat (s : Session) (ticket : Nat) (chat : Chatting) (outcome : Option (Except Fault Response)) :
    Session :=
  let ended := s.endTimed chat.since chat.provider.kind.service "chat"
    [("model", .text chat.provider.chatModel)]
  match outcome with
  | none => ended.takeReply chat.pending (.error Fault.deadline)
  | some outcome =>
    let result := chat.provider.chatResult chat.pending.query outcome
    (ended.noteReply chat.provider result).enqueue ticket
      (.tell chat.pending (result.map (·.content)))

/-- Asks the selected backend to revise the selected lines. -/
def askChat (s : Session) (ticket : Nat) (pending : Commanding) : Session :=
  match s.registry.get none with
  | .error fault => s.enqueue ticket (.tell pending (.error fault))
  | .ok (name, provider) =>
    let timed := s.beginTimed provider.kind.service "chat" [("model", .text provider.chatModel)]
    let (answer, registry) := timed.registry.call name provider (.chat pending.query)
    let asked := { timed with registry }
    let chat : Chatting := { pending, provider, since := s.now }
    if answer.delay.isInstant then asked.endChat ticket chat (some answer.outcome)
    else
      let arrival := s.now.after answer.delay
      let deadline := s.now.after (.ofMillis s.settings.actionTimeout)
      if deadline.nanos ≤ arrival.nanos then asked.waitUntil deadline ticket (.answer chat none)
      else asked.waitUntil arrival ticket (.answer chat (some answer.outcome))

def commandSignal (settings : Settings) (job : CommandJob) : Signal where
  range := job.argument.range
  enabled := settings.spinner
  interval := tickInterval settings.spinnerInterval
  mode := settings.progressMode
  timeout := .ofMillis settings.actionTimeout
  token := none
  title := job.command.label

/-- The query of a command: its own one, unless the argument brings another. -/
def commandQuery (job : CommandJob) : String :=
  if job.argument.query.isEmpty then job.command.query else job.argument.query

/-- Has the selected lines of a document revised by a chat, which starts when it is its turn. -/
def runCommand (s : Session) (job : CommandJob) (document : Document) : Session :=
  let uri := document.uri
  let selection := s.documents.textInRange uri job.argument.range
  let query : ChatQuery :=
    { instruction := instruction (commandQuery job) job.argument.diagnostics
      selection := String.ofList selection
      path := uri
      language := document.languageId }
  let noted := s.log .info "handler.actions" "executing command"
    [("command", .text job.command.key), ("uri", .text uri), ("backend", .text s.registry.current)]
  let told := if s.settings.spinner then noted
    else noted.publishOne ("Executing " ++ job.command.key ++ "...") job.argument.range .information
      (.ofMillis s.settings.actionTimeout)
  let (signalled, active) := told.startSignal ⟨commandSignal s.settings job, none⟩
  (signalled.spawn (.chat { job, uri, padding := padding selection, active, query })).1

/-- A command that was accepted is carried out on the current document. -/
def startCommand (s : Session) (job : CommandJob) : Session :=
  let uri := s.documents.currentUri
  if uri.isEmpty then
    (s.log .warn "handler.actions" "no current document"
      [("command", .text job.command.key)]).answerCommand job
  else
    match s.documents.get? uri with
    | none =>
      (s.log .warn "handler.actions" "document not found" [("uri", .text uri)]).answerCommand job
    | some document => s.runCommand job document

/-- A command has arrived: it has to be known and to bring a selection. -/
def requestCommand (s : Session) (invocation : Nat) (id : Option RequestId)
    (params : ExecuteCommandParams) : Session :=
  match find? params.command with
  | none =>
    ((s.log .warn "handler.actions" "unknown command" [("command", .text params.command)]).refuse id
      (.methodNotFound ("Unknown command: " ++ params.command))).finish invocation
  | some command =>
    match params.arguments with
    | [] => (s.refuse id (.invalidParams (command.key ++ " requires an argument"))).finish invocation
    | first :: _ =>
      match CommandArgument.codec.read first with
      | .error wrong =>
        let report := Mismatch.report CommandArgument.codec.name wrong
        ((s.log .error "handler.actions" "invalid command argument"
          [("command", .text command.key), ("error", .text report)]).refuse id
          (.invalidParams ("Invalid argument for " ++ command.key))).finish invocation
      | .ok argument => s.startCommand { invocation, id, command, argument }

end EditorAssist.Session

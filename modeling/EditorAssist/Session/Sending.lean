import EditorAssist.Session.State

/-!
# Sending

Every message goes through `Session.send`. Diagnostics are published for the current document; those
with a timeout are cleared again when it has passed, unless something is published before.
-/

namespace EditorAssist.Session

open EditorAssist.Backend EditorAssist.Debounce EditorAssist.Journal EditorAssist.Json
open EditorAssist.Payload EditorAssist.Time EditorAssist.Wire

/-- Bytes of the body of a message. -/
def bodySize (m : Outbound) : Nat := (encodeBody m.toValue).length

/-- Notes that a message was sent. -/
def noteSent (s : Session) (m : Outbound) : Session :=
  if Level.debug.rank < s.sink.level.rank then s
  else
    let tag (key : String) : Datum := Datum.ofValue ((Entries.get? key m.entries).getD .null)
    s.log .debug "lsp.service" "sent"
      [("size", .int (bodySize m)), ("method", tag "method"), ("id", tag "id")]

/-- Sends a message. One that cannot be written only leaves a record. -/
def send (s : Session) (m : Outbound) : Session :=
  let given := { s with outbox := s.outbox ++ [m] }
  match m.encodeFault? with
  | some fault => given.log .error "lsp.service" "failed to write frame" [("error", .fault fault)]
  | none => given.noteSent m

def respond (s : Session) (id : Option RequestId) (result : Value) : Session :=
  s.send (.response id result)

def refuse (s : Session) (id : Option RequestId) (error : Refusal) : Session :=
  s.send (.refusal id error)

def notify (s : Session) (method : String) (params : Value) : Session :=
  s.send (.notification method params)

def showMessage (s : Session) (type : MessageType) (text : String) : Session :=
  s.send (.message ⟨type, text⟩)

/-- Sends a request, which is given the next number. -/
def requestWith (s : Session) (message : Nat → Outbound) : Session :=
  { s with requested := s.requested + 1 }.send (message (s.requested + 1))

/-- Answers a completion request. -/
def respondItems (s : Session) (id : Option RequestId) (items : List CompletionItem) : Session :=
  s.respond id (CompletionList.codec.write ⟨false, items⟩)

/-- The debounced clearing of a document's diagnostics. -/
def diagnosticsKey (uri : String) : String := "diagnostics:" ++ uri

/-- The source that diagnostics carry. -/
def diagnosticSource : String := "helix-assist"

def clearDiagnostics (s : Session) (uri : String) : Session := s.send (.diagnostics ⟨uri, []⟩)

/-- Tells whoever waits for a debounced action that it was withdrawn. -/
def withdrawn (s : Session) (entry : Entry DelayedAction) : Session :=
  let noted := s.log .debug "debounce" "debounced action cancelled" [("key", .text entry.key)]
  match entry.callback with
  | .clear _ => noted
  | .complete job =>
    ((noted.log .debug "handler.completion" "completion superseded" [("id", idTag job.id)]).respondItems
      job.id []).finish job.invocation

/-- Schedules an action under a key, in place of the one that is pending. -/
def schedule (s : Session) (key : String) (span : Span) (action : DelayedAction) : Session :=
  let (desk, previous) := s.desk.schedule key (.delay key span action) action
  let scheduled := { s with desk }
  match previous with
  | none => scheduled
  | some entry => scheduled.withdrawn entry

/-- Withdraws what is pending for a key. -/
def cancelPending (s : Session) (key : String) : Session :=
  let (desk, found) := s.desk.cancel key
  let cancelled := { s with desk }
  match found with
  | none => cancelled
  | some entry => cancelled.withdrawn entry

/-- Withdraws everything that is pending. -/
def cancelAllPending (s : Session) : Session :=
  let (desk, entries) := s.desk.cancelAll
  entries.foldl withdrawn { s with desk }

/-- Publishes diagnostics for the current document; with a positive timeout they are cleared when it
has passed. -/
def publish (s : Session) (diagnostics : List Diagnostic) (timeout : Span) : Session :=
  let uri := s.documents.currentUri
  if uri.isEmpty then s
  else
    let own := diagnostics.map fun d => { d with source := some diagnosticSource }
    let sent := (s.log .debug "lsp.service" "sending diagnostics"
      [("uri", .text uri), ("count", .int own.length)]).send (.diagnostics ⟨uri, own⟩)
    if timeout.isInstant then sent.cancelPending (diagnosticsKey uri)
    else sent.schedule (diagnosticsKey uri) timeout (.clear uri)

/-- Publishes one diagnostic. -/
def publishOne (s : Session) (text : String) (range : Range) (severity : Severity) (timeout : Span) :
    Session :=
  s.publish [⟨text, range, none, some severity⟩] timeout

/-- Clears the diagnostics of the current document at once. -/
def resetDiagnostics (s : Session) : Session :=
  let uri := s.documents.currentUri
  if uri.isEmpty then s
  else (s.cancelPending (diagnosticsKey uri)).clearDiagnostics uri

def createProgress (s : Session) (token : RequestId) : Session :=
  s.requestWith (.createProgress · token)

def progressBegin (s : Session) (token : RequestId) (title : String) : Session :=
  s.send (.progress ⟨token, .begin_ ⟨title, none, none⟩⟩)

def progressReport (s : Session) (token : RequestId) (text : String) : Session :=
  s.send (.progress ⟨token, .report ⟨some text⟩⟩)

def progressEnd (s : Session) (token : RequestId) : Session :=
  s.send (.progress ⟨token, .end_ ⟨none⟩⟩)

end EditorAssist.Session

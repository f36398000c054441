import EditorAssist.Session.Progress

/-!
# Completions

A completion request waits for its delay, during which a later one supersedes it. Then, if its
document has not moved on, the backend is asked and the answer becomes a list of items. Whatever
happens, the request is answered once.
-/

namespace EditorAssist.Session

open EditorAssist.Backend EditorAssist.Completion EditorAssist.Journal EditorAssist.Payload
open EditorAssist.Settings EditorAssist.Time EditorAssist.Wire

/-- The one key that completions are debounced under. -/
def completionKey : String := "completion"

/-- Answers a completion request and ends its handler. -/
def answerCompletion (s : Session) (job : CompletionJob) (items : List CompletionItem) : Session :=
  (s.respondItems job.id items).finish job.invocation

/-- The fault of a suggestion that is no text. -/
def noTextFault (suggestion : Suggestion) : Fault :=
  .standard "AttributeError" (some ("'" ++ suggestion.className ++ "' object has no attribute 'strip'"))

/-- The items for suggestions, all of which have to be texts. -/
def itemsFor (context : CursorContext) (position : Position) :
    List Suggestion → Except Fault (List CompletionItem)
  | [] => .ok []
  | .str raw :: rest =>
    (itemsFor context position rest).map (completionItem raw.toList context position :: ·)
  | other :: _ => .error (noTextFault other)

/-- The outcome of a completion that the backend worked on. -/
def deliver (s : Session) (job : CompletionJob) (context : CursorContext) (range : Range)
    (result : Except Fault (List Suggestion)) : Session :=
  match result with
  | .ok suggestions =>
    let noted := s.log .info "handler.completion" "completion hints"
      [("count", .int suggestions.length)]
    match itemsFor context job.params.position suggestions with
    | .ok items => noted.answerCompletion job items
    | .error fault =>
      (noted.log .error "handler.completion" "completion fault"
        [("error", .text fault.headline)]).answerCompletion job []
  | .error fault =>
    let text := fault.describe
    let noted := s.log .error "handler.completion" "completion error"
      [("uri", .text job.params.textDocument.uri), ("error", .text text)]
    (noted.publishOne text range .error (.ofMillis s.settings.diagnosticTimeout)).answerCompletion job []

/-- Tags of the record of a completion. -/
def completionTags (p : Provider) (q : CompletionQuery) : Tags :=
  [("model", .text p.model), ("count", .int q.count)]

/-- Ends the backend's work on a completion. -/
def endCompletion (s : Session) (pending : Completing) (result : Except Fault (List Suggestion)) : Session :=
  let ended := s.endTimed pending.since pending.provider.kind.service "completion"
    (completionTags pending.provider pending.query)
  (ended.stopSignal pending.active).1.deliver pending.job pending.context pending.range result

/-- Notes why a collection ended early. -/
def notePartial (s : Session) (c : Collection) (cause : Fault) : Session :=
  s.log .warn "backend" "keeping partial suggestions"
    [("backend", .text c.backend), ("attempt", .int c.attempt), ("kept", .int c.kept.length),
     ("error", .text cause.text)]

/-- Asks the backend for suggestions, again as long as its answers take no time; `remaining` further
requests may follow. -/
def ask (ticket : Nat) : (remaining : Nat) → Completing → Session → Session
  | remaining, pending, s =>
    let provider := (s.registry.find? pending.backend).getD pending.provider
    let (answer, registry) := s.registry.call pending.backend provider (.completion pending.query)
    let asked := { s with registry }
    if answer.delay.isInstant then
      match pending.collection.feed (provider.batchOf answer.outcome) with
      | .finished result => asked.endCompletion pending result
      | .failed cause => asked.endCompletion pending (.error cause)
      | .partly result cause =>
        (asked.notePartial pending.collection cause).endCompletion pending result
      | .again next =>
        match remaining with
        | 0 => asked.endCompletion pending (Suggestion.distinct next.kept)
        | more + 1 => ask ticket more { pending with collection := next } asked
    else
      let (due, late) := pending.collection.resolution s.now answer.delay
      let outcome := if late then .error Fault.deadline else provider.batchOf answer.outcome
      asked.waitUntil due ticket (.suggestions pending outcome)

/-- An answer of the backend has arrived, or the deadline has come. -/
def takeSuggestions (s : Session) (ticket : Nat) (pending : Completing)
    (outcome : Except Fault (List Suggestion)) : Session :=
  match pending.collection.feed outcome with
  | .finished result => s.endCompletion pending result
  | .failed cause => s.endCompletion pending (.error cause)
  | .partly result cause =>
    (s.notePartial pending.collection cause).endCompletion pending result
  | .again next => ask ticket next.remaining { pending with collection := next } s

/-- The lines that progress and errors of a completion are shown at. -/
def completionRange (position : Position) : Range :=
  Range.of position.line 0 (position.line + 1) 0

def completionSignal (settings : Settings) (params : CompletionParams) : Signal where
  range := completionRange params.position
  enabled := settings.spinner
  interval := tickInterval settings.spinnerInterval
  mode := settings.progressMode
  timeout := .ofMillis settings.diagnosticTimeout
  token := params.workDoneToken
  title := "Fetching completion"

def completionQuery (settings : Settings) (document : Document) (context : CursorContext) :
    CompletionQuery where
  before := String.ofList context.contentBefore
  after := String.ofList context.afterForPrompt
  path := document.uri
  language := document.languageId
  count := settings.suggestions
  timeoutMs := some (settings.completionTimeout : Int)

/-- Asks the selected backend for the completion of a document at a position. -/
def fetchCompletion (s : Session) (ticket : Nat) (job : CompletionJob) (document : Document) : Session :=
  let position := job.params.position
  let context := CursorContext.at_ document.text.toList position.line position.character
  let range := completionRange position
  let called := s.log .info "handler.completion" "calling completion"
    [("language", .text document.languageId), ("backend", .text s.registry.current)]
  let told := if s.settings.spinner then called
    else called.showMessage .info "Fetching completion..."
  let (signalled, active) := told.startSignal ⟨completionSignal s.settings job.params, none⟩
  match s.registry.get none with
  | .error fault => (signalled.stopSignal active).1.deliver job context range (.error fault)
  | .ok (backend, provider) =>
    let query := completionQuery s.settings document context
    let timed := signalled.beginTimed provider.kind.service "completion" (completionTags provider query)
    let collection := Collection.start provider.kind.name query.count query.timeoutMs s.now
    ask ticket collection.remaining
      { job, context, range, active, backend, provider, query, since := s.now, collection } timed

/-- The delay of a completion has passed. -/
def complete (s : Session) (ticket : Nat) (job : CompletionJob) : Session :=
  let uri := job.params.textDocument.uri
  let skip := (s.log .info "handler.completion" "skipping stale completion"
    [("uri", .text uri), ("version", .int job.version)]).answerCompletion job []
  match s.documents.get? uri with
  | none => skip
  | some document =>
    if job.version < document.version then skip else s.fetchCompletion ticket job document

/-- A completion request has arrived. -/
def requestCompletion (s : Session) (invocation : Nat) (id : Option RequestId)
    (params : CompletionParams) : Session :=
  match s.documents.get? params.textDocument.uri with
  | none => (s.respondItems id []).finish invocation
  | some document =>
    let context := CursorContext.at_ document.text.toList params.position.line params.position.character
    if context.lastCharacter = some '.' then (s.respondItems id []).finish invocation
    else
      s.schedule completionKey (.ofMillis s.settings.debounce)
        (.complete { invocation, id, params, version := document.version })

end EditorAssist.Session

import EditorAssist.Action
import EditorAssist.Backend.Collection
import EditorAssist.Completion.Edit
import EditorAssist.Debounce.Desk
import EditorAssist.Document
import EditorAssist.Journal.Sink
import EditorAssist.Session.Outbound
import EditorAssist.Settings.Basic
import EditorAssist.Wire.Message

/-!
# The state of a session

A session is a value: settings, backends, documents, the messages sent, and an agenda of the work that
handlers have left to do. Handlers overlap, but each piece of work runs by itself, so a session is
described by what one piece of work does to it.
-/

namespace EditorAssist.Session

open EditorAssist.Backend EditorAssist.Completion EditorAssist.Debounce EditorAssist.Journal
open EditorAssist.Json EditorAssist.Payload EditorAssist.Settings EditorAssist.Time EditorAssist.Wire

/-- A sign of progress while a request is under way. -/
structure Signal where
  range : Range
  enabled : Bool
  interval : Span
  mode : ProgressMode
  /-- How long a diagnostic is shown at most, if that is limited. -/
  timeout : Span
  token : Option RequestId
  title : String

/-- A signal that shows ticks: the ticket of its work and when it was started. -/
structure Ticking where
  ticket : Nat
  since : Instant

/-- A signal with what it is doing. -/
structure ActiveSignal where
  signal : Signal
  ticking : Option Ticking

/-- What a handler does that was added from outside, in this order. -/
structure HandlerScript where
  sleep : Option Span
  /-- The payload type that the parameters are read as; they are sent back as the response. -/
  parse : Option String
  fails : Option Fault
  respond : Option Value
  notify : Option String

/-- Who takes care of a message. -/
inductive Handler where
  | handshake
  | greeting
  | opening
  | change
  | closing
  | shutdown
  | exit
  | completion
  | codeAction
  | command
  | scripted (script : HandlerScript)

/-- A completion that was asked for, before its delay has passed. -/
structure CompletionJob where
  invocation : Nat
  id : Option RequestId
  params : CompletionParams
  /-- Version of the document when the request arrived. -/
  version : Int

/-- What the debouncer waits for. -/
inductive DelayedAction where
  | complete (job : CompletionJob)
  | clear (uri : String)

/-- A completion that a backend works on. -/
structure Completing where
  job : CompletionJob
  context : CursorContext
  range : Range
  active : ActiveSignal
  backend : String
  provider : Provider
  query : CompletionQuery
  since : Instant
  collection : Collection

/-- A command that was accepted. -/
structure CommandJob where
  invocation : Nat
  id : Option RequestId
  command : Action.ActionCommand
  argument : CommandArgument

/-- A command whose handler waits for the chat. -/
structure Commanding where
  job : CommandJob
  uri : String
  padding : Nat
  active : ActiveSignal
  query : ChatQuery

/-- A chat that a backend works on, and the command that waits for it. -/
structure Chatting where
  pending : Commanding
  provider : Provider
  since : Instant

/-- A piece of work. -/
inductive Work where
  | handle (invocation : Nat) (handler : Handler) (message : Message)
  | resume (invocation : Nat) (script : HandlerScript) (message : Message)
  | delay (key : String) (span : Span) (action : DelayedAction)
  | fire (key : String) (action : DelayedAction)
  | suggestions (pending : Completing) (outcome : Except Fault (List Suggestion))
  /-- The chat of a command starts. -/
  | chat (pending : Commanding)
  /-- The answer to a chat arrives; there is none when the deadline comes first. -/
  | answer (chat : Chatting) (outcome : Option (Except Fault Response))
  /-- A chat is over: its handler is told. -/
  | tell (pending : Commanding) (result : Except Fault Suggestion)
  /-- The handler goes on with what it was told. -/
  | reply (pending : Commanding) (result : Except Fault Suggestion)
  | animate (signal : Signal)
  | tick (signal : Signal) (since : Instant) (frame : Nat)

/-- A handler at work on a message, or done with it. -/
structure Invocation where
  number : Nat
  method : String
  /-- The outcome, once there is one: nothing, or the fault that ended the handler. -/
  outcome : Option (Option Fault)

end Session

/-- Everything that is known during a session. -/
structure Session where
  settings : Settings
  registry : Backend.Registry
  sink : Journal.Sink
  documents : DocumentStore
  /-- Agenda and debounced actions. -/
  desk : Debounce.Desk Session.Work Session.DelayedAction
  /-- Messages given to the connection, oldest first. Those that cannot be written stop there. -/
  outbox : List Session.Outbound
  /-- Number of requests sent. -/
  requested : Nat
  /-- Number of tokens made up. -/
  tokens : Nat
  shutdownRequested : Bool
  exits : List Nat
  /-- Handlers added from outside, by method. -/
  added : List (String × Session.Handler)
  invocations : List Session.Invocation

namespace Session

open EditorAssist.Backend EditorAssist.Completion EditorAssist.Debounce EditorAssist.Journal
open EditorAssist.Json EditorAssist.Payload EditorAssist.Settings EditorAssist.Time EditorAssist.Wire

/-- What keeps a message from being written, if anything does. -/
def Outbound.encodeFault? (m : Outbound) : Option Fault := Wire.encodeFault? m.toValue

/-- The messages that can be written. -/
def writable (messages : List Outbound) : List Outbound :=
  messages.filter (·.encodeFault?.isNone)

/-- A session that has just started. -/
def start (settings : Settings) (registry : Registry) (sink : Sink) : Session where
  settings
  registry
  sink
  documents := .empty
  desk := .empty
  outbox := []
  requested := 0
  tokens := 0
  shutdownRequested := false
  exits := []
  added := []
  invocations := []

/-- The messages sent, oldest first. -/
def sent (s : Session) : List Outbound := writable s.outbox

def now (s : Session) : Instant := s.desk.agenda.now

/-- Writes a record of a service. -/
def log (s : Session) (level : Level) (service message : String) (tags : Tags) : Session :=
  { s with sink := s.sink.log s.now level service message tags }

/-- Notes that a timed operation begins. -/
def beginTimed (s : Session) (service message : String) (tags : Tags) : Session :=
  s.log .info service message tags.started

/-- Notes that an operation begun at `since` is over. -/
def endTimed (s : Session) (since : Instant) (service message : String) (tags : Tags) : Session :=
  s.log .info service message (tags.completed (since.millisBetween s.now))

/-- The tag for an id. -/
def idTag : Option RequestId → Datum
  | none => .null
  | some (.number n) => .int n
  | some (.name name) => .text name

/-- The tag for a method; a message without one has none. -/
def methodTag : Option String → Datum
  | none => .null
  | some method => .text method

def mapAgenda (s : Session) (f : Agenda Work → Agenda Work) : Session :=
  { s with desk := { s.desk with agenda := f s.desk.agenda } }

/-- Makes new work ready and returns its ticket. -/
def spawn (s : Session) (work : Work) : Session × Nat :=
  let (agenda, ticket) := s.desk.agenda.spawn work
  ({ s with desk := { s.desk with agenda } }, ticket)

def waitFor (s : Session) (span : Span) (ticket : Nat) (work : Work) : Session :=
  s.mapAgenda (·.waitFor span ⟨ticket, work⟩)

def waitUntil (s : Session) (due : Instant) (ticket : Nat) (work : Work) : Session :=
  s.mapAgenda (·.waitUntil due ⟨ticket, work⟩)

/-- Puts a job behind what is ready. -/
def enqueue (s : Session) (ticket : Nat) (work : Work) : Session :=
  s.mapAgenda (·.enqueue ⟨ticket, work⟩)

/-- Number of handlers that are still at work. -/
def inFlight (s : Session) : Nat := (s.invocations.filter (·.outcome.isNone)).length

/-- Notes how a handler ended, if it has not ended before. -/
def conclude (s : Session) (number : Nat) (fault : Option Fault) : Session :=
  { s with
    invocations := s.invocations.map fun invocation =>
      if invocation.number == number && invocation.outcome.isNone then
        { invocation with outcome := some fault }
      else invocation }

/-- A handler came to its end. -/
def finish (s : Session) (number : Nat) : Session := s.conclude number none

end Session

end EditorAssist

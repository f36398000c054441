import EditorAssist.Session.Dispatch
import EditorAssist.Wire.Frame

/-!
# Running a session

`Session.perform` does one piece of work. Running a session repeats it: `settle` until nothing is
ready, `advance` over a span of time, `drain` until no handler is at work. `serve` handles a whole
stream of frames.
-/

namespace EditorAssist.Session

open EditorAssist.Backend EditorAssist.Journal EditorAssist.Settings EditorAssist.Time
open EditorAssist.Wire

/-- A debounced action has waited for its delay: from now on it cannot be withdrawn. -/
def fire (s : Session) (ticket : Nat) (key : String) (action : DelayedAction) : Session :=
  let released := { s with desk := s.desk.release key ticket }
  match action with
  | .complete job => released.complete ticket job
  | .clear uri => released.clearDiagnostics uri

/-- Does one piece of work. -/
def perform (job : Job Work) (s : Session) : Session :=
  match job.work with
  | .handle invocation handler message => s.runHandler job.ticket invocation handler message
  | .resume invocation script message => s.runScript invocation script message
  | .delay key span action => s.waitFor span job.ticket (.fire key action)
  | .fire key action => s.fire job.ticket key action
  | .suggestions pending outcome => s.takeSuggestions job.ticket pending outcome
  | .chat pending => s.askChat job.ticket pending
  | .answer chat outcome => s.endChat job.ticket chat outcome
  | .tell pending result => s.enqueue job.ticket (.reply pending result)
  | .reply pending result => s.takeReply pending result
  | .animate signal => s.animate job.ticket signal
  | .tick signal since frame => s.tick job.ticket signal since frame

/-- How many pieces of work can follow from a debounced action, the action included. -/
def DelayedAction.weight (suggestions : Nat) : DelayedAction → Nat
  | .clear _ => 1
  | .complete _ => suggestions + 10

/-- How many pieces of work can follow from one before the clock moves far, itself included. A signal
ticks anew in every interval, which is counted once. -/
def Work.weight (suggestions : Nat) : Work → Nat
  | .handle .. => suggestions + 16
  | .resume .. => 1
  | .delay _ _ action => action.weight suggestions + 1
  | .fire _ action => action.weight suggestions
  | .suggestions pending _ => pending.collection.remaining + 4
  | .chat _ => 7
  | .answer .. => 6
  | .tell .. => 5
  | .reply .. => 4
  | .animate _ => 4
  | .tick .. => 3

/-- The engine that runs a session. -/
def engine (settings : Settings) : Engine Session Work where
  agenda s := s.desk.agenda
  withAgenda s agenda := s.mapAgenda fun _ => agenda
  perform
  weight := Work.weight settings.suggestions

/-- Does everything that is ready. -/
def settle (s : Session) : Session := (engine s.settings).settle s

/-- Lets a span of time pass. -/
def advance (s : Session) (span : Span) : Session := (engine s.settings).advance span s

/-- An instant by which every handler of a settled session is done: all of them wait for a timer, and
after it for suggestions at most. -/
def lastResort (s : Session) : Instant :=
  s.desk.agenda.horizon.after (.ofMillis s.settings.completionTimeout)

/-- Lets time pass until no handler is at work. -/
def drain (s : Session) : Session :=
  let settled := s.settle
  ((engine s.settings).advanceWhile (fun s => 0 < s.inFlight) settled.lastResort settled).settle

/-- Handles messages that arrive at once. -/
def handleAll (s : Session) (messages : List Message) : Session := messages.foldl handle s

/-- Writes down what the reader noticed. -/
def noteRead (s : Session) (note : ReadNote) : Session :=
  match note with
  | .badLength value =>
    s.log .warn "lsp.framing" "invalid Content-Length header"
      [("value", .text (String.ofList (asciiText value)))]
  | .truncated expected missing =>
    s.log .warn "lsp.framing" "stream ended inside a frame body"
      [("expected", .int expected), ("missing", .int missing)]
  | .malformed failure size =>
    s.log .error "lsp.framing" "dropping malformed frame"
      [("error", .text failure.message), ("size", .int size)]

/-- Serves a stream: reads it as far as it can be read, handles its messages in order, waits for the
handlers and withdraws what is still delayed. A breach of the stream is for the caller. -/
def serve (s : Session) (source : Source) : Session × Option Breach :=
  let inbox := readMessages source
  let listening := s.log .info "lsp.service" "listening" []
  let noted := inbox.notes.foldl noteRead listening
  let closed := match inbox.breach with
    | some _ => noted
    | none => noted.log .info "lsp.framing" "input stream closed" []
  (((closed.handleAll inbox.messages).drain).cancelAllPending, inbox.breach)

end EditorAssist.Session

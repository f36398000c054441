import EditorAssist.Session.Sending

/-!
# Signals of progress

A signal ticks while it is running: in every interval it publishes a diagnostic at its range or sends
a report for its token. Stopping it withdraws the next tick before anything else is sent, so that no
tick follows.
-/

namespace EditorAssist.Session

open EditorAssist.Journal EditorAssist.Payload EditorAssist.Settings EditorAssist.Time

/-- The pictures of the spinner. -/
def spinnerFrames : List Char := ['⠋', '⠙', '⠹', '⠸', '⠼', '⠴', '⠦', '⠧', '⠇', '⠏']

/-- The text of a tick. -/
def tickText (since now : Instant) (frame : Nat) : String :=
  String.ofList (spinnerFrames.getD (frame % 10) '⠋' :: ' ' :: '(' ::
    (Instant.elapsedText since now).toList ++ [')'])

/-- The time between two ticks, a millisecond at least. -/
def tickInterval (ms : Int) : Span := .ofMillis (max ms 1)

/-- A token that no client has given. -/
def freshToken (number : Nat) : RequestId := .name ("helix-assist/uuid-" ++ toString number)

/-- The token of a signal, made up and announced if it has none, and the begin of its progress. -/
def announce (s : Session) (signal : Signal) : Session × Signal :=
  match signal.mode, signal.token with
  | .diagnostic, _ => (s, signal)
  | .progress, some token => (s.progressBegin token signal.title, signal)
  | .progress, none =>
    let token := freshToken (s.tokens + 1)
    (({ s with tokens := s.tokens + 1 }.createProgress token).progressBegin token signal.title,
      { signal with token := some token })

/-- Starts a signal, unless it is disabled or running. -/
def startSignal (s : Session) (active : ActiveSignal) : Session × ActiveSignal :=
  if !active.signal.enabled || active.ticking.isSome then (s, active)
  else
    let (announced, signal) := s.announce active.signal
    let (spawned, ticket) := announced.spawn (.animate signal)
    (spawned.log .debug "progress" "progress started" [("mode", .text signal.mode.name)],
      ⟨signal, some ⟨ticket, s.now⟩⟩)

/-- Stops a signal and clears what it shows, if it is running. -/
def stopSignal (s : Session) (active : ActiveSignal) : Session × ActiveSignal :=
  match active.ticking with
  | none => (s, active)
  | some ticking =>
    let stopped := (s.mapAgenda (·.cancel ticking.ticket)).log .debug "progress" "progress stopped"
      [("mode", .text active.signal.mode.name),
       ("elapsed", .text (Instant.elapsedText ticking.since s.now))]
    let cleared := match active.signal.mode, active.signal.token with
      | .progress, some token => stopped.progressEnd token
      | .progress, none => stopped
      | .diagnostic, _ => stopped.resetDiagnostics
    (cleared, ⟨active.signal, none⟩)

/-- Shows a tick. -/
def showTick (s : Session) (signal : Signal) (text : String) : Session :=
  match signal.mode, signal.token with
  | .progress, some token => s.progressReport token text
  | .progress, none => s
  | .diagnostic, _ => s.publishOne text signal.range .information signal.timeout

/-- Work of a running signal: the first wait. -/
def animate (s : Session) (ticket : Nat) (signal : Signal) : Session :=
  s.waitFor signal.interval ticket (.tick signal s.now 0)

/-- Work of a running signal: a tick and the wait for the next one. -/
def tick (s : Session) (ticket : Nat) (signal : Signal) (since : Instant) (frame : Nat) : Session :=
  (s.showTick signal (tickText since s.now frame)).waitFor signal.interval ticket
    (.tick signal since (frame + 1))

end EditorAssist.Session

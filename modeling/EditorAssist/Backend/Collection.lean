import EditorAssist.Backend.Suggestion
import EditorAssist.Time.Instant

/-!
# Collecting suggestions

Suggestions are collected by asking a backend several times under one deadline. What has been
gathered is kept when a later attempt fails; only when nothing has been gathered does a failure
surface. `Collection.feed` takes the outcome of one attempt. The result has every suggestion once.
-/

namespace EditorAssist.Backend

open EditorAssist.Time

/-- A collection in progress. -/
structure Collection where
  backend : String
  timeoutMs : Option Int
  deadline : Option Instant
  /-- Number of attempts made before the current one. -/
  attempt : Nat
  /-- Number of attempts after the current one. -/
  remaining : Nat
  kept : List Suggestion

/-- What an attempt leads to. -/
inductive Collection.Step where
  | again (next : Collection)
  | finished (result : Except Fault (List Suggestion))
  /-- The collection ends early with what it has. -/
  | partly (result : Except Fault (List Suggestion)) (cause : Fault)
  | failed (cause : Fault)

namespace Collection

/-- A collection that starts now. -/
def start (backend : String) (count : Int) (timeoutMs : Option Int) (now : Instant) : Collection :=
  { backend
    timeoutMs
    deadline := timeoutMs.map fun ms => now.after (.ofMillis ms)
    attempt := 0
    remaining := (max count 1).toNat - 1
    kept := [] }

/-- Ends a collection because of a failure. -/
def stop (c : Collection) (cause : Fault) : Step :=
  if c.kept.isEmpty then .failed cause else .partly (Suggestion.distinct c.kept) cause

/-- Takes the outcome of an attempt. -/
def feed (c : Collection) : Except Fault (List Suggestion) → Step
  | .ok batch =>
    let kept := c.kept ++ batch.filter (!·.isNothing)
    match c.remaining with
    | 0 => .finished (Suggestion.distinct kept)
    | more + 1 => .again { c with kept, remaining := more, attempt := c.attempt + 1 }
  | .error f =>
    if f.isDeadline then c.stop (Fault.backendTimeout c.backend (c.timeoutMs.getD 0))
    else if f.isBackendFault then c.stop f
    else .failed f

/-- When an attempt that takes `delay` is over, and whether the deadline comes first. -/
def resolution (c : Collection) (now : Instant) (delay : Span) : Instant × Bool :=
  let arrival := now.after delay
  match c.deadline with
  | none => (arrival, false)
  | some deadline =>
    if deadline.nanos ≤ arrival.nanos then (deadline, true) else (arrival, false)

/-- An attempt whose answer is one of the given ones, with the time it took. -/
structure Attempt where
  outcome : Except Fault (List Suggestion)
  delay : Span

/-- Collects from attempts made one after another, the first one at `now`: the result, the number of
attempts and the instant of the end. When the attempts run out, further ones find nothing. -/
def run : (c : Collection) → (now : Instant) → List Attempt →
    Except Fault (List Suggestion) × Nat × Instant
  | c, now, [] => (Suggestion.distinct c.kept, c.attempt + c.remaining + 1, now)
  | c, now, attempt :: rest =>
    let (due, late) := c.resolution now attempt.delay
    let (outcome, ending) :=
      if attempt.delay.isInstant then (attempt.outcome, now)
      else (if late then .error Fault.deadline else attempt.outcome,
        if due.nanos < now.nanos then now else due)
    match c.feed outcome with
    | .again next => run next ending rest
    | .finished result => (result, c.attempt + 1, ending)
    | .partly result _ => (result, c.attempt + 1, ending)
    | .failed cause => (.error cause, c.attempt + 1, ending)

end Collection

end EditorAssist.Backend

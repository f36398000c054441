import EditorAssist.Number.Total
import EditorAssist.Time.Instant

/-!
# The agenda

Work that is ready runs in the order in which it became ready; work that waits becomes ready when
the clock reaches it. The clock stands still while anything is ready, so whatever happens at one
instant happens in one order. Every piece of work has a ticket, by which it can be withdrawn before
it runs.
-/

namespace EditorAssist.Time

/-- Work under a ticket. -/
structure Job (ω : Type) where
  ticket : Nat
  work : ω

/-- A job and the instant at which it becomes ready. -/
structure Timer (ω : Type) where
  due : Instant
  job : Job ω

/-- The clock, the jobs that are ready and those that wait, soonest first. -/
structure Agenda (ω : Type) where
  now : Instant
  ready : List (Job ω)
  timers : List (Timer ω)
  issued : Nat

namespace Agenda

variable {ω : Type}

def empty : Agenda ω := ⟨.start, [], [], 0⟩

/-- Puts a timer behind all that are due no later. -/
def insertTimer (timer : Timer ω) : List (Timer ω) → List (Timer ω)
  | [] => [timer]
  | other :: rest =>
    if timer.due.nanos < other.due.nanos then timer :: other :: rest
    else other :: insertTimer timer rest

/-- Makes new work ready. -/
def spawn (agenda : Agenda ω) (work : ω) : Agenda ω × Nat :=
  ({ agenda with ready := agenda.ready ++ [⟨agenda.issued, work⟩], issued := agenda.issued + 1 },
    agenda.issued)

/-- Puts a job behind what is ready. -/
def enqueue (agenda : Agenda ω) (job : Job ω) : Agenda ω := { agenda with ready := agenda.ready ++ [job] }

/-- Lets a job wait until an instant; when it has come, the job lines up behind what is ready. -/
def waitUntil (agenda : Agenda ω) (due : Instant) (job : Job ω) : Agenda ω :=
  if due.nanos ≤ agenda.now.nanos then agenda.enqueue job
  else { agenda with timers := insertTimer ⟨due, job⟩ agenda.timers }

/-- Lets a job wait for a span. -/
def waitFor (agenda : Agenda ω) (span : Span) (job : Job ω) : Agenda ω :=
  agenda.waitUntil (agenda.now.after span) job

/-- Withdraws the job with a ticket. -/
def cancel (agenda : Agenda ω) (ticket : Nat) : Agenda ω :=
  { agenda with
    ready := agenda.ready.filter (·.ticket != ticket)
    timers := agenda.timers.filter (·.job.ticket != ticket) }

/-- Takes the job that is ready first. -/
def next? (agenda : Agenda ω) : Option (Job ω × Agenda ω) :=
  match agenda.ready with
  | [] => none
  | job :: rest => some (job, { agenda with ready := rest })

/-- Moves the clock to the soonest timer that is due by `limit` and makes its job ready. -/
def wake? (agenda : Agenda ω) (limit : Instant) : Option (Agenda ω) :=
  match agenda.timers with
  | [] => none
  | timer :: rest =>
    if timer.due.nanos ≤ limit.nanos then
      some { agenda with now := timer.due, ready := agenda.ready ++ [timer.job], timers := rest }
    else none

/-- Every job that is ready or waits. -/
def jobs (agenda : Agenda ω) : List (Job ω) := agenda.ready ++ agenda.timers.map (·.job)

/-- The instant of the last timer, or now. -/
def horizon (agenda : Agenda ω) : Instant := (agenda.timers.getLast?.map (·.due)).getD agenda.now

end Agenda

/-- A state with an agenda and a way to do its work. -/
structure Engine (σ ω : Type) where
  agenda : σ → Agenda ω
  withAgenda : σ → Agenda ω → σ
  perform : Job ω → σ → σ
  /-- How many jobs can follow from one at most, itself included. -/
  weight : ω → Nat

namespace Engine

variable {σ ω : Type}

/-- Work that is left in the agenda of a state. -/
def load (engine : Engine σ ω) (s : σ) : Nat :=
  Number.total ((engine.agenda s).jobs.map fun job => engine.weight job.work)

/-- Runs what is ready, `fuel` jobs at most. -/
def settleFor (engine : Engine σ ω) : (fuel : Nat) → σ → σ
  | 0, s => s
  | fuel + 1, s =>
    match (engine.agenda s).next? with
    | none => s
    | some (job, rest) => settleFor engine fuel (engine.perform job (engine.withAgenda s rest))

/-- Runs everything that is ready. -/
def settle (engine : Engine σ ω) (s : σ) : σ := settleFor engine (engine.load s + 1) s

/-- Runs what is due until `limit`, `fuel` timers at most, and stops when the work at an instant is
done and `going` no longer holds. -/
def advanceFor (engine : Engine σ ω) (going : σ → Bool) (limit : Instant) : (fuel : Nat) → σ → σ
  | 0, s => s
  | fuel + 1, s =>
    let settled := engine.settle s
    if going settled then
      match (engine.agenda settled).wake? limit with
      | none => settled
      | some woken => advanceFor engine going limit fuel (engine.withAgenda settled woken)
    else settled

/-- Whole milliseconds of a span, rounded up. -/
def millisOf (nanos : Int) : Nat := (nanos / 1000000).toNat + 1

/-- Runs what is due until `limit` while `going` holds. No job waits for less than a millisecond
more than once, which bounds the number of timers. -/
def advanceWhile (engine : Engine σ ω) (going : σ → Bool) (limit : Instant) (s : σ) : σ :=
  let elapsed := limit.nanos - (engine.agenda s).now.nanos
  engine.advanceFor going limit ((engine.load s + 1) * (millisOf elapsed + 1)) s

/-- Runs everything due until `limit`, where the clock then stands. -/
def advanceTo (engine : Engine σ ω) (limit : Instant) (s : σ) : σ :=
  let done := engine.advanceWhile (fun _ => true) limit s
  engine.withAgenda done { engine.agenda done with now := limit }

/-- Lets a span of time pass and sets the clock to the exact time. -/
def advance (engine : Engine σ ω) (span : Span) (s : σ) : σ :=
  engine.advanceTo (.ofNanos ((engine.agenda s).now.nanos + span.nanos)) s

end Engine

end EditorAssist.Time

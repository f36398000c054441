import EditorAssist.Proofs.Session.Fuel
import EditorAssist.Proofs.Session.Ledger

/-!
# Runs of sessions

A message may arrive at any moment, between any two pieces of work. Apart from that a session takes turns
while anything is ready, and otherwise lets the next timer ring or the clock go on. A run is a path of such
steps and lists the messages and the turns. Settling, advancing and handling messages are runs.
-/

namespace EditorAssist.Session

open EditorAssist.Backend EditorAssist.Debounce EditorAssist.Journal EditorAssist.Payload
open EditorAssist.Settings EditorAssist.Time EditorAssist.Wire

/-- What happens in a session: a message arrives, or the job that is ready first is done. -/
inductive Event where
  | received (m : Message)
  | turn (s : Session) (job : Job Work)

/-- A step of a session. -/
inductive Step : Session → List Event → Session → Prop
  | receive (s : Session) (m : Message) : Step s [.received m] (s.handle m)
  | turn {s : Session} {job : Job Work} {rest : List (Job Work)} (ready : s.desk.agenda.ready = job :: rest) :
      Step s [.turn s job] (perform job (s.taken rest))
  | wake {s : Session} {timer : Timer Work} {rest : List (Timer Work)} (idle : s.desk.agenda.ready = [])
      (soonest : s.desk.agenda.timers = timer :: rest) : Step s [] (s.mapAgenda (·.ring timer rest))
  | pass {s : Session} {instant : Instant} (idle : s.desk.agenda.ready = [])
      (quiet : s.desk.agenda.wake? instant = none) (forward : s.now.nanos ≤ instant.nanos) :
      Step s [] (s.mapAgenda fun agenda => { agenda with now := instant })

/-- A run of a session. -/
abbrev Run : Session → List Event → Session → Prop := Path Step

/-- The messages that arrive. -/
def received (events : List Event) : List Message :=
  events.filterMap fun
    | .received m => some m
    | .turn .. => none

section Invariants

variable {s t : Session} {events : List Event} {owed : List RequestId}

theorem received_append {first later : List Event} :
    received (first ++ later) = received first ++ received later :=
  List.filterMap_append

theorem Step.sound (step : Step s events t) (sound : Sound [] s) : Sound [] t := by
  cases step with
  | receive m => exact sound.handle m
  | turn ready => exact sound.turn ready
  | wake _ soonest => exact sound.ring soonest
  | pass _ quiet _ => exact sound.setClock quiet

theorem Step.settings (step : Step s events t) (sound : Sound [] s) : t.settings = s.settings := by
  cases step with
  | receive m =>
    rcases handle_cases sound.own m with ⟨sink, handler, _, started⟩ | ⟨sink, _, refused⟩
    · rw [started]
      rfl
    · rw [refused]
  | turn ready => exact (turn_steady sound ready).1
  | wake _ _ => rfl
  | pass _ _ _ => rfl

theorem Run.sound (run : Run s events t) (sound : Sound [] s) : Sound [] t :=
  run.invariant (Sound []) (fun sound step => step.sound sound) sound

theorem Run.settings (run : Run s events t) (sound : Sound [] s) : t.settings = s.settings := by
  induction run with
  | nil => rfl
  | cons step _ ih => exact (ih (step.sound sound)).trans (step.settings sound)

/-- The answers that some messages have to get. -/
def owedBy (messages : List Message) : List RequestId := messages.filterMap owedFor

theorem Step.ledger (step : Step s events t) (sound : Sound [] s) (ledger : Ledger owed s.charges s) :
    Ledger (owed ++ owedBy (received events)) t.charges t := by
  have same : owed ++ owedBy [] = owed := List.append_nil _
  cases step with
  | receive m =>
    have handled := ledger.handle sound m
    have one : owedBy [m] = (owedFor m).toList := by
      rw [owedBy, List.filterMap_cons]
      cases owedFor m <;> rfl
    show Ledger (owed ++ owedBy [m]) _ _
    rw [one]
    exact handled
  | turn ready =>
    show Ledger (owed ++ owedBy []) _ _
    rw [same]
    exact ledger.turn sound ready
  | wake _ soonest =>
    show Ledger (owed ++ owedBy []) _ _
    rw [same]
    have jobs : (s.desk.agenda.ring _ _).jobs = s.desk.agenda.jobs := Agenda.jobs_ring soonest
    have charges : (s.mapAgenda (·.ring _ _)).charges = s.charges := congrArg (delayed s.desk.pending ++ debts ·) jobs
    rw [charges]
    exact ledger.of_same rfl rfl
  | pass _ _ _ =>
    show Ledger (owed ++ owedBy []) _ _
    rw [same]
    exact ledger.of_same rfl rfl

/-- The ledger balances throughout a run. -/
theorem Run.ledger (run : Run s events t) (sound : Sound [] s) (ledger : Ledger owed s.charges s) :
    Ledger (owed ++ owedBy (received events)) t.charges t := by
  induction run generalizing owed with
  | nil s =>
    show Ledger (owed ++ owedBy []) _ _
    rw [owedBy, List.filterMap_nil, List.append_nil]
    exact ledger
  | cons step _ ih =>
    have whole := ih (step.sound sound) (step.ledger sound ledger)
    rw [List.append_assoc, owedBy, owedBy, ← List.filterMap_append, ← received_append] at whole
    exact whole

end Invariants

/-! ## What the loops do -/

section Loops

variable {s t : Session}

/-- A run in which no message arrives. -/
def Works (s t : Session) : Prop := ∃ events, Run s events t ∧ received events = []

theorem Works.refl (s : Session) : Works s s := ⟨[], .nil s, rfl⟩

theorem Works.step {u : Session} {events : List Event} (works : Works s t) (step : Step t events u)
    (quiet : received events = []) : Works s u := by
  obtain ⟨before, run, none⟩ := works
  exact ⟨_, run.append (.single step), by rw [received_append, none, quiet]; rfl⟩

theorem settle_works (s : Session) : Works s s.settle := by
  refine @Engine.settle_invariant _ _ (engine s.settings) (Works s) ?_ s (.refl s)
  exact fun works ready => works.step (.turn ready) rfl

/-- While the clock is on its way to an instant, it does not go past it. -/
theorem advanceWhile_works (going : Session → Bool) {limit : Instant} (sound : Sound [] s)
    (ahead : s.now.nanos ≤ limit.nanos) :
    Works s ((engine s.settings).advanceWhile going limit s) ∧
      ((engine s.settings).advanceWhile going limit s).now.nanos ≤ limit.nanos := by
  refine @Engine.advanceWhile_invariant _ _ _ _ _ going limit (adequate s.settings)
    (fun t => Works s t ∧ t.now.nanos ≤ limit.nanos) ?_ ?_ s ⟨sound, rfl⟩ ⟨.refl s, ahead⟩
  · rintro t job rest ⟨still, _⟩ ⟨works, before⟩ ready
    refine ⟨works.step (.turn ready) rfl, ?_⟩
    have now := (turn_steady still ready).2
    show (perform job (t.taken rest)).now.nanos ≤ limit.nanos
    rw [now]
    exact before
  · rintro t timer rest _ ⟨works, _⟩ idle soonest due
    exact ⟨works.step (.wake idle soonest) rfl, due⟩

/-- Letting a span of time pass. -/
theorem advance_works (sound : Sound [] s) {span : Span} (forward : 0 ≤ span.nanos) :
    Works s (s.advance span) := by
  have ahead : s.now.nanos ≤ (Instant.ofNanos (s.now.nanos + span.nanos)).nanos := by
    show s.now.nanos ≤ s.now.nanos + span.nanos
    omega
  obtain ⟨works, before⟩ := advanceWhile_works (fun _ => true) sound ahead
  obtain ⟨idle, quiet⟩ := Engine.advanceWhile_always (adequate s.settings) ⟨sound, rfl⟩
    (Instant.ofNanos (s.now.nanos + span.nanos))
  exact works.step (.pass idle quiet before) rfl

theorem handleAll_run (s : Session) (messages : List Message) :
    ∃ events, Run s events (s.handleAll messages) ∧ received events = messages := by
  induction messages generalizing s with
  | nil => exact ⟨[], .nil s, rfl⟩
  | cons m rest ih =>
    obtain ⟨events, run, same⟩ := ih (s.handle m)
    refine ⟨.received m :: events, .cons (.receive s m) run, ?_⟩
    rw [received, List.filterMap_cons]
    exact congrArg (m :: ·) same

end Loops

end EditorAssist.Session

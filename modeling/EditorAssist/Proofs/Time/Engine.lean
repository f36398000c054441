import EditorAssist.Proofs.Time.Agenda
import EditorAssist.Proofs.Time.Path

/-!
# What an engine does

Running an engine is a path of turns, in which the first job that is ready is done, of timers that ring
while nothing is ready, and of the clock being set while no timer is due. The fuel of the loops is no
bound on what they do: every turn leaves less work that is ready, and a potential bounds how often the
clock moves, so `settle` ends with nothing ready and `advanceWhile` with nothing due.
-/

namespace EditorAssist.Time

open EditorAssist.Number

namespace Engine

variable {σ ω : Type}

/-- A step of an engine. A turn lists the state in which it begins and its job. -/
inductive Step (engine : Engine σ ω) : σ → List (σ × Job ω) → σ → Prop
  | turn {s : σ} {job : Job ω} {rest : List (Job ω)} (ready : (engine.agenda s).ready = job :: rest) :
      Step engine s [(s, job)]
        (engine.perform job (engine.withAgenda s ((engine.agenda s).behind rest)))
  | wake {s : σ} {timer : Timer ω} {rest : List (Timer ω)} (idle : (engine.agenda s).ready = [])
      (soonest : (engine.agenda s).timers = timer :: rest) :
      Step engine s [] (engine.withAgenda s ((engine.agenda s).ring timer rest))
  | pass {s : σ} {instant : Instant} (idle : (engine.agenda s).ready = [])
      (quiet : (engine.agenda s).wake? instant = none) :
      Step engine s [] (engine.withAgenda s { engine.agenda s with now := instant })

/-- Work that is ready. -/
def pressure (engine : Engine σ ω) (s : σ) : Nat :=
  total ((engine.agenda s).ready.map fun job => engine.weight job.work)

theorem pressure_le_load (engine : Engine σ ω) (s : σ) : engine.pressure s ≤ engine.load s := by
  rw [load, pressure, Agenda.jobs, List.map_append, total_append]
  omega

/-- Why the loops of an engine come to their ends in the states that are `good`. The `potential` bounds
how many timers are due until an instant, those included that are set in between. -/
structure Adequate (engine : Engine σ ω) (good : σ → Prop) (potential : Instant → σ → Nat) : Prop where
  stays : ∀ {s notes t}, good s → engine.Step s notes t → good t
  lighter : ∀ {s job rest}, good s → (engine.agenda s).ready = job :: rest →
    engine.pressure (engine.perform job (engine.withAgenda s ((engine.agenda s).behind rest))) <
      engine.pressure s
  turn : ∀ {limit s job rest}, good s → (engine.agenda s).ready = job :: rest →
    potential limit (engine.perform job (engine.withAgenda s ((engine.agenda s).behind rest))) ≤
      potential limit s
  ring : ∀ {limit s timer rest}, good s → (engine.agenda s).ready = [] →
    (engine.agenda s).timers = timer :: rest → timer.due.nanos ≤ limit.nanos →
    potential limit (engine.withAgenda s ((engine.agenda s).ring timer rest)) < potential limit s
  fits : ∀ {limit s}, good s →
    potential limit s <
      (engine.load s + 1) * (millisOf (limit.nanos - (engine.agenda s).now.nanos) + 1)
  /-- The agenda of a state is the one that was put there. -/
  agenda_withAgenda : ∀ {s agenda}, engine.agenda (engine.withAgenda s agenda) = agenda

section Settling

variable {engine : Engine σ ω} {kept : σ → Prop}

theorem settleFor_invariant
    (turn : ∀ {s job rest}, kept s → (engine.agenda s).ready = job :: rest →
      kept (engine.perform job (engine.withAgenda s ((engine.agenda s).behind rest))))
    {s : σ} (start : kept s) (fuel : Nat) : kept (engine.settleFor fuel s) := by
  induction fuel generalizing s with
  | zero => exact start
  | succ fuel ih =>
    rw [settleFor]
    split
    · exact start
    · next taken =>
      obtain ⟨rest, ready, rfl⟩ := Agenda.next?_eq_some taken
      exact ih (turn start ready)

theorem settleFor_of_idle {s : σ} (idle : (engine.agenda s).ready = []) (fuel : Nat) :
    engine.settleFor fuel s = s := by
  cases fuel with
  | zero => rfl
  | succ fuel => rw [settleFor, Agenda.next?_eq_none.mpr idle]

theorem settle_of_idle {s : σ} (idle : (engine.agenda s).ready = []) : engine.settle s = s :=
  settleFor_of_idle idle _

/-- One job that makes nothing ready is all that is done. -/
theorem settle_of_single {s : σ} {job : Job ω} (ready : (engine.agenda s).ready = [job])
    (idle : (engine.agenda (engine.perform job (engine.withAgenda s ((engine.agenda s).behind [])))).ready = []) :
    engine.settle s = engine.perform job (engine.withAgenda s ((engine.agenda s).behind [])) := by
  have taken : (engine.agenda s).next? = some (job, (engine.agenda s).behind []) := by
    rw [Agenda.next?, ready]
    rfl
  rw [settle, settleFor, taken]
  exact settleFor_of_idle idle _

/-- The first thing that advancing does is to settle. -/
theorem advanceFor_settle {s : σ} (idle : (engine.agenda (engine.settle s)).ready = []) (going : σ → Bool)
    (limit : Instant) (fuel : Nat) :
    engine.advanceFor going limit (fuel + 1) s = engine.advanceFor going limit (fuel + 1) (engine.settle s) := by
  rw [advanceFor, advanceFor, settle_of_idle idle]

/-- Nothing happens while nothing is ready and nothing is due. -/
theorem advanceFor_of_quiet {s : σ} {going : σ → Bool} {limit : Instant} (idle : (engine.agenda s).ready = [])
    (quiet : (engine.agenda s).wake? limit = none) (fuel : Nat) : engine.advanceFor going limit fuel s = s := by
  cases fuel with
  | zero => rfl
  | succ fuel =>
    rw [advanceFor, settle_of_idle idle, quiet]
    split <;> rfl

/-- While nothing is ready, the timer rings that is due first. -/
theorem advanceFor_of_due {s : σ} {going : σ → Bool} {limit : Instant} {timer : Timer ω} {rest : List (Timer ω)}
    (idle : (engine.agenda s).ready = []) (goes : going s = true) (soonest : (engine.agenda s).timers = timer :: rest)
    (due : timer.due.nanos ≤ limit.nanos) (fuel : Nat) :
    engine.advanceFor going limit (fuel + 1) s =
      engine.advanceFor going limit fuel (engine.withAgenda s ((engine.agenda s).ring timer rest)) := by
  have rings : (engine.agenda s).wake? limit = some ((engine.agenda s).ring timer rest) := by
    rw [Agenda.wake?, soonest]
    exact if_pos due
  rw [advanceFor, settle_of_idle idle, goes, if_pos rfl, rings]

/-- What every turn keeps, settling keeps. -/
theorem settle_invariant
    (turn : ∀ {s job rest}, kept s → (engine.agenda s).ready = job :: rest →
      kept (engine.perform job (engine.withAgenda s ((engine.agenda s).behind rest))))
    {s : σ} (start : kept s) : kept (engine.settle s) :=
  settleFor_invariant turn start _

/-- Settling takes turns. -/
theorem settle_path (engine : Engine σ ω) (s : σ) : ∃ notes, Path engine.Step s notes (engine.settle s) := by
  refine @settle_invariant _ _ engine (fun t => ∃ notes, Path engine.Step s notes t) ?_ s ⟨[], .nil s⟩
  rintro t job rest ⟨notes, path⟩ ready
  exact ⟨_, path.append (.single (.turn ready))⟩

end Settling

section Adequacy

variable {engine : Engine σ ω} {good : σ → Prop} {potential : Instant → σ → Nat}

theorem settleFor_idle (adequate : engine.Adequate good potential) {fuel : Nat} {s : σ} (start : good s)
    (enough : engine.pressure s < fuel) : (engine.agenda (engine.settleFor fuel s)).ready = [] := by
  induction fuel generalizing s with
  | zero => omega
  | succ fuel ih =>
    rw [settleFor]
    split
    · next idle => exact Agenda.next?_eq_none.mp idle
    · next taken =>
      obtain ⟨rest, ready, rfl⟩ := Agenda.next?_eq_some taken
      have := adequate.lighter start ready
      exact ih (adequate.stays start (.turn ready)) (by omega)

/-- Settling ends when nothing is ready. -/
theorem settle_idle (adequate : engine.Adequate good potential) {s : σ} (start : good s) :
    (engine.agenda (engine.settle s)).ready = [] :=
  settleFor_idle adequate start (Nat.lt_succ_of_le (engine.pressure_le_load s))

theorem settle_good (adequate : engine.Adequate good potential) {s : σ} (start : good s) :
    good (engine.settle s) := by
  obtain ⟨_, path⟩ := engine.settle_path s
  exact path.invariant good adequate.stays start

theorem settleFor_potential (adequate : engine.Adequate good potential) (limit : Instant) {s : σ}
    (start : good s) (fuel : Nat) :
    potential limit (engine.settleFor fuel s) ≤ potential limit s := by
  induction fuel generalizing s with
  | zero => exact Nat.le_refl _
  | succ fuel ih =>
    rw [settleFor]
    split
    · exact Nat.le_refl _
    · next taken =>
      obtain ⟨rest, ready, rfl⟩ := Agenda.next?_eq_some taken
      exact Nat.le_trans (ih (adequate.stays start (.turn ready))) (adequate.turn start ready)

variable {going : σ → Bool} {limit : Instant}

/-- What holds when an advance is over: nothing is ready, and it was to stop or nothing is due. -/
theorem advanceFor_done (adequate : engine.Adequate good potential) {fuel : Nat} {s : σ} (start : good s)
    (enough : potential limit s < fuel) :
    (engine.agenda (engine.advanceFor going limit fuel s)).ready = [] ∧
      (going (engine.advanceFor going limit fuel s) = false ∨
        (engine.agenda (engine.advanceFor going limit fuel s)).wake? limit = none) := by
  induction fuel generalizing s with
  | zero => omega
  | succ fuel ih =>
    have idle := settle_idle adequate start
    simp only [advanceFor]
    split
    · split
      · next quiet => exact ⟨idle, .inr quiet⟩
      · next woken rung =>
        obtain ⟨timer, rest, soonest, due, rfl⟩ := Agenda.wake?_eq_some rung
        have settled := settleFor_potential adequate limit start (engine.load s + 1)
        have spent := adequate.ring (settle_good adequate start) idle soonest due
        refine ih (adequate.stays (settle_good adequate start) (.wake idle soonest)) ?_
        rw [settle] at spent ⊢
        omega
    · next stop => exact ⟨idle, .inl (by simpa using stop)⟩

theorem advanceFor_invariant (adequate : engine.Adequate good potential) {kept : σ → Prop}
    (turn : ∀ {s job rest}, good s → kept s → (engine.agenda s).ready = job :: rest →
      kept (engine.perform job (engine.withAgenda s ((engine.agenda s).behind rest))))
    (ring : ∀ {s timer rest}, good s → kept s → (engine.agenda s).ready = [] →
      (engine.agenda s).timers = timer :: rest → timer.due.nanos ≤ limit.nanos →
      kept (engine.withAgenda s ((engine.agenda s).ring timer rest)))
    {s : σ} (sound : good s) (start : kept s) (fuel : Nat) :
    kept (engine.advanceFor going limit fuel s) := by
  induction fuel generalizing s with
  | zero => exact start
  | succ fuel ih =>
    have both : good (engine.settle s) ∧ kept (engine.settle s) := by
      refine @settle_invariant _ _ engine (fun t => good t ∧ kept t) ?_ s ⟨sound, start⟩
      rintro t job rest ⟨sound, start⟩ ready
      exact ⟨adequate.stays sound (.turn ready), turn sound start ready⟩
    have idle := settle_idle adequate sound
    simp only [advanceFor]
    split
    · split
      · exact both.2
      · next woken rung =>
        obtain ⟨timer, rest, soonest, due, rfl⟩ := Agenda.wake?_eq_some rung
        exact ih (adequate.stays both.1 (.wake idle soonest)) (ring both.1 both.2 idle soonest due)
    · exact both.2

/-- What turns keep, and timers that ring until the limit, advancing keeps. -/
theorem advanceWhile_invariant (adequate : engine.Adequate good potential) {kept : σ → Prop}
    (turn : ∀ {s job rest}, good s → kept s → (engine.agenda s).ready = job :: rest →
      kept (engine.perform job (engine.withAgenda s ((engine.agenda s).behind rest))))
    (ring : ∀ {s timer rest}, good s → kept s → (engine.agenda s).ready = [] →
      (engine.agenda s).timers = timer :: rest → timer.due.nanos ≤ limit.nanos →
      kept (engine.withAgenda s ((engine.agenda s).ring timer rest)))
    {s : σ} (sound : good s) (start : kept s) : kept (engine.advanceWhile going limit s) :=
  advanceFor_invariant adequate turn ring sound start _

theorem advanceWhile_done (adequate : engine.Adequate good potential) {s : σ} (start : good s) :
    (engine.agenda (engine.advanceWhile going limit s)).ready = [] ∧
      (going (engine.advanceWhile going limit s) = false ∨
        (engine.agenda (engine.advanceWhile going limit s)).wake? limit = none) :=
  advanceFor_done adequate start (adequate.fits start)

theorem advanceWhile_path (adequate : engine.Adequate good potential) {s : σ} (start : good s) :
    ∃ notes, Path engine.Step s notes (engine.advanceWhile going limit s) := by
  refine @advanceWhile_invariant _ _ engine good potential going limit adequate
    (fun t => ∃ notes, Path engine.Step s notes t) ?_ ?_ s start ⟨[], .nil s⟩
  · rintro t job rest _ ⟨notes, path⟩ ready
    exact ⟨_, path.append (.single (.turn ready))⟩
  · rintro t timer rest _ ⟨notes, path⟩ idle soonest _
    exact ⟨_, path.append (.single (.wake idle soonest))⟩

/-- Before the clock is set, everything that is due has been done. -/
theorem advanceWhile_always (adequate : engine.Adequate good potential) {s : σ} (start : good s)
    (limit : Instant) :
    (engine.agenda (engine.advanceWhile (fun _ => true) limit s)).ready = [] ∧
      (engine.agenda (engine.advanceWhile (fun _ => true) limit s)).wake? limit = none := by
  obtain ⟨idle, stopped | quiet⟩ :=
    @advanceWhile_done _ _ _ _ _ (fun _ => true) limit adequate s start
  · cases stopped
  · exact ⟨idle, quiet⟩

theorem advanceTo_path (adequate : engine.Adequate good potential) {s : σ} (start : good s)
    (limit : Instant) : ∃ notes, Path engine.Step s notes (engine.advanceTo limit s) := by
  obtain ⟨notes, path⟩ : ∃ notes,
      Path engine.Step s notes (engine.advanceWhile (fun _ => true) limit s) :=
    advanceWhile_path adequate start
  obtain ⟨idle, quiet⟩ := advanceWhile_always adequate start limit
  exact ⟨_, path.append (.single (.pass idle quiet))⟩

end Adequacy

end Engine

end EditorAssist.Time

import EditorAssist.Proofs.Session.Outlay
import EditorAssist.Proofs.Time.Engine

/-!
# Sessions come to rest

The loops that run a session have enough fuel. Every turn leaves less weight behind than the work that it
does, so settling ends with nothing ready. The timers that can still ring until an instant are bounded as
well: a debounced action sets one, a completion one for each of its attempts, a command two, and only the
ticks of a signal go on, a millisecond apart at least.
-/

namespace EditorAssist.Session

open EditorAssist.Backend EditorAssist.Debounce EditorAssist.Number EditorAssist.Settings EditorAssist.Time

/-! ## Turns that are ready -/

/-- The weight of work that is ready; timers weigh nothing. -/
def weights (suggestions : Nat) : Prices := ⟨Work.weight suggestions, fun _ => 0⟩

theorem weights_bound (suggestions : Nat) : (weights suggestions).Bound 2 4 :=
  ⟨fun _ _ => Nat.le_refl 2, fun _ => Nat.le_refl 4⟩

theorem weights_wait_le (suggestions : Nat) (now due : Instant) (ticket : Nat) (next : Work) :
    (weights suggestions).wait now due ticket next ≤ (weights suggestions).work next + 0 := by
  unfold Prices.wait
  split
  · exact Nat.le_refl _
  · exact Nat.zero_le _

/-- The weight of work covers more than what follows from it. -/
theorem weights_cover (settings : Settings) (now : Instant) (work : Work) :
    Covers (weights settings.suggestions) settings now 2 4 0 work (work.weight settings.suggestions - 1) where
  ends := by
    rcases work with _ | _ | _ | ⟨_, _ | _⟩ | _ | _ | _ | _ | _ | _ | _ <;>
      simp only [Work.lastDeeds, Work.weight, DelayedAction.weight] <;> omega
  goes := by
    intro next succeeds
    cases succeeds <;> simp only [Work.deeds, weights, Work.weight, DelayedAction.weight] <;> omega
  delays := by
    rintro number message rfl span job
    simp only [weights, Work.weight, DelayedAction.weight]
    omega
  ticks := by
    intro own next signal ticket span slow
    have later : ¬(now.after span).nanos ≤ now.nanos := by
      simp only [Instant.after]
      omega
    rw [Prices.wait, if_neg later]
    cases work with
    | animate signal => exact Nat.le_succ 2
    | tick signal since frame => exact Nat.le_refl 2
    | _ => cases own

theorem pressure_eq (settings : Settings) (s : Session) :
    (engine settings).pressure s = (weights settings.suggestions).cost s := by
  rw [Prices.cost, Agenda.timerCost, weights, total_map_eq_zero fun _ _ => rfl]
  rfl

/-! ## Timers that ring -/

/-- How many timers an action sets once it has started. -/
def DelayedAction.timers (suggestions : Nat) : DelayedAction → Nat
  | .complete _ => suggestions + 2
  | .clear _ => 0

/-- How many timers follow from some work, apart from the ticks of signals. -/
def Work.timers (suggestions : Nat) : Work → Nat
  | .handle .. => suggestions + 6
  | .resume .. => 0
  | .delay _ _ action => action.timers suggestions + 1
  | .fire _ action => action.timers suggestions
  | .suggestions pending _ => pending.collection.remaining + 1
  | .chat _ => 4
  | .answer .. => 3
  | .tell .. => 2
  | .reply .. => 1
  | .animate _ => 0
  | .tick .. => 0

/-- How many timers follow in every millisecond: the ticks of one signal, and what they clear. -/
def Work.ticks : Work → Nat
  | .handle .. => 2
  | .delay _ _ (.complete _) => 2
  | .fire _ (.complete _) => 2
  | .animate _ => 2
  | .tick .. => 2
  | _ => 0

/-- How many timers follow from some work until an instant. -/
def Work.fare (suggestions : Nat) (limit now : Instant) (work : Work) : Nat :=
  if now.nanos ≤ limit.nanos then
    work.timers suggestions + work.ticks * Engine.millisOf (limit.nanos - now.nanos)
  else 0

/-- The timers that follow from a timer, itself included. -/
def timerFare (suggestions : Nat) (limit : Instant) (timer : Timer Work) : Nat :=
  if timer.due.nanos ≤ limit.nanos then timer.job.work.fare suggestions limit timer.due + 1 else 0

def fares (suggestions : Nat) (limit now : Instant) : Prices :=
  ⟨Work.fare suggestions limit now, timerFare suggestions limit⟩

section Fares

variable {suggestions : Nat} {limit now : Instant}

/-- The less time is left, the fewer timers follow. -/
theorem fare_anti {due : Instant} (later : now.nanos ≤ due.nanos) (work : Work) :
    work.fare suggestions limit due ≤ work.fare suggestions limit now := by
  unfold Work.fare
  split
  · next inside =>
    have fewer : Engine.millisOf (limit.nanos - due.nanos) ≤ Engine.millisOf (limit.nanos - now.nanos) := by
      unfold Engine.millisOf
      omega
    rw [if_pos (by omega)]
    exact Nat.add_le_add_left (Nat.mul_le_mul_left _ fewer) _
  · exact Nat.zero_le _

theorem fares_wait_le (due : Instant) (ticket : Nat) (next : Work) :
    (fares suggestions limit now).wait now due ticket next ≤ (fares suggestions limit now).work next + 1 := by
  unfold Prices.wait
  split
  · exact Nat.le_succ _
  · next later =>
    have fewer : next.fare suggestions limit due ≤ next.fare suggestions limit now :=
      fare_anti (by omega) next
    simp only [fares, timerFare]
    split <;> omega

theorem fares_bound (inside : now.nanos ≤ limit.nanos) :
    (fares suggestions limit now).Bound 1 (2 * Engine.millisOf (limit.nanos - now.nanos)) := by
  constructor
  · intro uri span
    simp only [fares, Work.fare, if_pos inside, Work.timers, DelayedAction.timers, Work.ticks, Nat.zero_mul]
    omega
  · intro signal
    simp only [fares, Work.fare, if_pos inside, Work.timers, Work.ticks, Nat.zero_add]
    exact Nat.le_refl _

/-- A tick that is a millisecond later at least is paid by the ticks that are left. -/
theorem fares_tick_le {span : Span} (slow : 1000000 ≤ span.nanos)
    {next : Work} (signal : next.isSignal = true) (ticket : Nat) :
    1 + (fares suggestions limit now).wait now (now.after span) ticket next ≤
      2 * Engine.millisOf (limit.nanos - now.nanos) := by
  have later : ¬(now.after span).nanos ≤ now.nanos := by
    simp only [Instant.after]
    omega
  have free : next.timers suggestions = 0 ∧ next.ticks = 2 := by
    cases next <;> first | exact ⟨rfl, rfl⟩ | cases signal
  have some : 1 ≤ Engine.millisOf (limit.nanos - now.nanos) := Nat.succ_pos _
  rw [Prices.wait, if_neg later]
  simp only [fares, timerFare]
  split
  · next reached =>
    have fewer : Engine.millisOf (limit.nanos - (now.after span).nanos) + 1 ≤
        Engine.millisOf (limit.nanos - now.nanos) := by
      simp only [Instant.after] at reached ⊢
      unfold Engine.millisOf
      omega
    rw [Work.fare, if_pos reached, free.1, free.2]
    omega
  · omega

/-- The timers that follow from some work cover those that follow from what it leaves. -/
theorem fares_cover (settings : Settings) (inside : now.nanos ≤ limit.nanos) (work : Work) :
    Covers (fares settings.suggestions limit now) settings now 1
      (2 * Engine.millisOf (limit.nanos - now.nanos)) 1 work
      (work.fare settings.suggestions limit now) where
  ends := by
    rcases work with _ | _ | _ | ⟨_, _ | _⟩ | _ | _ | _ | _ | _ | _ | _ <;>
      simp only [Work.lastDeeds, Work.fare, if_pos inside, Work.timers, DelayedAction.timers, Work.ticks] <;>
      omega
  goes := by
    intro next succeeds
    cases succeeds <;>
      simp only [fares, Work.deeds, Work.fare, if_pos inside, Work.timers, DelayedAction.timers, Work.ticks] <;>
      omega
  delays := by
    rintro number message rfl span job
    simp only [fares, Work.fare, if_pos inside, Work.timers, DelayedAction.timers, Work.ticks]
    omega
  ticks := by
    intro own next signal ticket span slow
    have free : work.timers settings.suggestions = 0 ∧ work.ticks = 2 := by
      cases work <;> first | exact ⟨rfl, rfl⟩ | cases own
    have tick := @fares_tick_le settings.suggestions limit now span slow next signal ticket
    rw [Work.fare, if_pos inside, free.1, free.2]
    omega

end Fares

/-! ## Adequacy -/

/-- How many timers can still ring until an instant. -/
def timersToRing (suggestions : Nat) (limit : Instant) (s : Session) : Nat :=
  (fares suggestions limit s.now).cost s

section Adequacy

variable {settings : Settings} {limit : Instant} {s : Session} {job : Job Work} {rest : List (Job Work)}

/-- After the instant no timer counts. -/
theorem timersToRing_late {suggestions : Nat} (orderly : s.desk.agenda.Orderly)
    (late : limit.nanos < s.now.nanos) : timersToRing suggestions limit s = 0 := by
  have ready : s.desk.agenda.readyWeight (Work.fare suggestions limit s.now) = 0 :=
    total_map_eq_zero fun job _ => if_neg (by omega)
  have timers : s.desk.agenda.timerCost (timerFare suggestions limit) = 0 :=
    total_map_eq_zero fun timer member => if_neg (by
      have ahead : s.now.nanos ≤ timer.due.nanos := orderly.ahead timer member
      omega)
  rw [timersToRing, Prices.cost, fares, ready, timers]

/-- A turn leaves less weight that is ready. -/
theorem weight_turn_lt (sound : Sound [] s) (fixed : s.settings = settings)
    (ready : s.desk.agenda.ready = job :: rest) :
    (weights settings.suggestions).cost (perform job (s.taken rest)) <
      (weights settings.suggestions).cost s := by
  have covers := weights_cover settings s.now job.work
  rw [← fixed] at covers ⊢
  have cost := turn_cost_le (weights_bound _) sound ready (weights_wait_le _ _) covers
    (fun key span action own => by rw [own]; exact Nat.le_refl _)
  have positive : 0 < (weights s.settings.suggestions).work job.work := by
    rcases job.work with _ | _ | _ | ⟨_, _ | _⟩ | _ | _ | _ | _ | _ | _ | _ <;> exact Nat.succ_pos _
  have same : (weights s.settings.suggestions).work job.work = job.work.weight s.settings.suggestions := rfl
  omega

/-- A turn leaves no more timers to ring. -/
theorem timersToRing_turn_le (sound : Sound [] s) (fixed : s.settings = settings)
    (ready : s.desk.agenda.ready = job :: rest) :
    timersToRing settings.suggestions limit (perform job (s.taken rest)) ≤
      timersToRing settings.suggestions limit s := by
  have now := (turn_steady sound ready).2
  by_cases inside : s.now.nanos ≤ limit.nanos
  · have covers := fares_cover settings inside job.work
    rw [← fixed] at covers ⊢
    have cost := turn_cost_le (fares_bound inside) sound ready fares_wait_le covers
      (fun key span action own => by
        simp only [own, fares, Work.fare, if_pos inside, Work.timers]
        cases action <;> simp only [Work.ticks] <;> omega)
    rw [timersToRing, timersToRing, now]
    have same : (fares s.settings.suggestions limit s.now).work job.work =
      job.work.fare s.settings.suggestions limit s.now := rfl
    omega
  · rw [timersToRing_late (sound.turn ready).orderly (by rw [now]; omega)]
    exact Nat.zero_le _

/-- A timer that rings counts no more. -/
theorem timersToRing_ring_lt {suggestions : Nat} {timer : Timer Work} {later : List (Timer Work)}
    (idle : s.desk.agenda.ready = []) (soonest : s.desk.agenda.timers = timer :: later)
    (due : timer.due.nanos ≤ limit.nanos) :
    timersToRing suggestions limit (s.mapAgenda (·.ring timer later)) < timersToRing suggestions limit s := by
  have before : timersToRing suggestions limit s =
      timerFare suggestions limit timer +
        (s.desk.agenda.ring timer later).timerCost (timerFare suggestions limit) := by
    rw [timersToRing, Prices.cost, Agenda.readyWeight, idle]
    exact (Nat.zero_add _).trans (Agenda.timerCost_of_timers _ soonest)
  have after : timersToRing suggestions limit (s.mapAgenda (·.ring timer later)) =
      timer.job.work.fare suggestions limit timer.due +
        (s.desk.agenda.ring timer later).timerCost (timerFare suggestions limit) := by
    show total ((s.desk.agenda.ready ++ [timer.job]).map _) + _ = _
    rw [idle]
    rfl
  rw [before, after, timerFare, if_pos due]
  omega

/-- More fuel belongs to some work than timers follow from it. -/
theorem fare_lt (inside : s.now.nanos ≤ limit.nanos) (suggestions : Nat) (work : Work) :
    work.fare suggestions limit s.now + 1 ≤
      work.weight suggestions * (Engine.millisOf (limit.nanos - s.now.nanos) + 1) := by
  have timers : work.timers suggestions + 1 ≤ work.weight suggestions ∧
      work.ticks ≤ work.weight suggestions := by
    rcases work with _ | _ | ⟨_, _, _ | _⟩ | ⟨_, _ | _⟩ | _ | _ | _ | _ | _ | _ | _ <;>
      simp only [Work.timers, Work.ticks, Work.weight, DelayedAction.timers, DelayedAction.weight] <;> omega
  have ticks := Nat.mul_le_mul_right (Engine.millisOf (limit.nanos - s.now.nanos)) timers.2
  rw [Work.fare, if_pos inside, Nat.mul_add, Nat.mul_one]
  omega

/-- The timers to ring are few in comparison with the fuel. -/
theorem timersToRing_lt (orderly : s.desk.agenda.Orderly) :
    timersToRing settings.suggestions limit s < ((engine settings).load s + 1) *
      (Engine.millisOf (limit.nanos - s.now.nanos) + 1) := by
  by_cases inside : s.now.nanos ≤ limit.nanos
  · have ready : s.desk.agenda.readyWeight (Work.fare settings.suggestions limit s.now) ≤
        total (s.desk.agenda.ready.map fun job => job.work.weight settings.suggestions *
          (Engine.millisOf (limit.nanos - s.now.nanos) + 1)) := by
      refine total_map_le fun job _ => ?_
      have fuel := fare_lt inside settings.suggestions job.work
      omega
    have timers : s.desk.agenda.timerCost (timerFare settings.suggestions limit) ≤
        total (s.desk.agenda.timers.map fun timer => timer.job.work.weight settings.suggestions *
          (Engine.millisOf (limit.nanos - s.now.nanos) + 1)) := by
      refine total_map_le fun timer member => ?_
      have ahead : s.now.nanos ≤ timer.due.nanos := orderly.ahead timer member
      have fuel := fare_lt inside settings.suggestions timer.job.work
      have fewer : timer.job.work.fare settings.suggestions limit timer.due ≤
        timer.job.work.fare settings.suggestions limit s.now := fare_anti ahead _
      unfold timerFare
      split <;> omega
    have load : (engine settings).load s =
        total (s.desk.agenda.ready.map fun job => job.work.weight settings.suggestions) +
          total (s.desk.agenda.timers.map fun timer => timer.job.work.weight settings.suggestions) := by
      show total (s.desk.agenda.jobs.map fun job => job.work.weight settings.suggestions) = _
      rw [Agenda.jobs, List.map_append, total_append, List.map_map]
      rfl
    rw [total_map_mul] at ready timers
    rw [load, Nat.add_mul, Nat.add_mul, timersToRing, Prices.cost]
    show s.desk.agenda.readyWeight _ + s.desk.agenda.timerCost _ < _
    simp only [fares]
    omega
  · rw [timersToRing_late orderly (by omega)]
    exact Nat.mul_pos (Nat.succ_pos _) (Nat.succ_pos _)

/-- Sessions with the same settings never run out of fuel. -/
theorem adequate (settings : Settings) :
    (engine settings).Adequate (fun s => Sound [] s ∧ s.settings = settings)
      (timersToRing settings.suggestions) where
  stays := by
    rintro s notes t ⟨sound, fixed⟩ step
    cases step with
    | turn ready => exact ⟨sound.turn ready, (turn_steady sound ready).1.trans fixed⟩
    | wake idle soonest => exact ⟨sound.ring soonest, fixed⟩
    | pass idle quiet => exact ⟨sound.setClock quiet, fixed⟩
  lighter := by
    rintro s job rest ⟨sound, fixed⟩ ready
    rw [pressure_eq, pressure_eq]
    exact weight_turn_lt sound fixed ready
  turn := by
    rintro limit s job rest ⟨sound, fixed⟩ ready
    exact timersToRing_turn_le sound fixed ready
  ring := by
    rintro limit s timer rest _ idle soonest due
    exact timersToRing_ring_lt idle soonest due
  fits := by
    rintro limit s ⟨sound, _⟩
    exact timersToRing_lt sound.orderly
  agenda_withAgenda := rfl

end Adequacy

end EditorAssist.Session

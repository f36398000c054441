import EditorAssist.Proofs.Number.Total
import EditorAssist.Time.Agenda

/-!
# Jobs and timers of an agenda

Every operation of an agenda adds jobs, drops the jobs of one ticket, or moves a job between what is
ready and what waits. Timers stand in the order of their instants and none of them is behind the clock.
-/

namespace EditorAssist.Time

open EditorAssist.Number

variable {ω : Type}

namespace Agenda

/-! ## Timers -/

theorem insertTimer_perm (timer : Timer ω) (timers : List (Timer ω)) :
    (insertTimer timer timers).Perm (timer :: timers) := by
  induction timers with
  | nil => exact .refl _
  | cons other rest ih =>
    rw [insertTimer]
    split
    · exact .refl _
    · exact (ih.cons other).trans (.swap timer other rest)

theorem mem_insertTimer {timer other : Timer ω} {timers : List (Timer ω)} :
    other ∈ insertTimer timer timers ↔ other = timer ∨ other ∈ timers := by
  rw [(insertTimer_perm timer timers).mem_iff, List.mem_cons]

/-- Timers stand in the order in which they are due. -/
def InOrder (timers : List (Timer ω)) : Prop :=
  timers.Pairwise fun sooner later => sooner.due.nanos ≤ later.due.nanos

theorem insertTimer_inOrder (timer : Timer ω) {timers : List (Timer ω)} (sorted : InOrder timers) :
    InOrder (insertTimer timer timers) := by
  induction timers with
  | nil => exact List.pairwise_singleton _ timer
  | cons other rest ih =>
    obtain ⟨first, tail⟩ := List.pairwise_cons.mp sorted
    rw [insertTimer]
    split
    · next sooner =>
      refine List.pairwise_cons.mpr ⟨fun later member => ?_, sorted⟩
      rcases List.mem_cons.mp member with rfl | behind
      · omega
      · have := first later behind
        omega
    · next later =>
      refine List.pairwise_cons.mpr ⟨fun some_timer member => ?_, ih tail⟩
      rcases mem_insertTimer.mp member with rfl | behind
      · omega
      · exact first some_timer behind

/-- Timers are in order and none lies in the past. -/
structure Orderly (agenda : Agenda ω) : Prop where
  sorted : InOrder agenda.timers
  ahead : ∀ timer ∈ agenda.timers, agenda.now.nanos ≤ timer.due.nanos

theorem Orderly.empty : (Agenda.empty : Agenda ω).Orderly := ⟨.nil, by simp [Agenda.empty]⟩

section Operations

variable {agenda : Agenda ω}

/-- What is ready has no bearing on the timers. -/
theorem Orderly.of_timers {other : Agenda ω} (orderly : agenda.Orderly) (timers : other.timers = agenda.timers)
    (now : other.now = agenda.now) : other.Orderly := by
  refine ⟨?_, ?_⟩
  · rw [timers]
    exact orderly.sorted
  · rw [timers, now]
    exact orderly.ahead

theorem Orderly.waitUntil (orderly : agenda.Orderly) (due : Instant) (job : Job ω) :
    (agenda.waitUntil due job).Orderly := by
  unfold Agenda.waitUntil
  split
  · exact orderly.of_timers rfl rfl
  · refine ⟨insertTimer_inOrder _ orderly.sorted, fun timer member => ?_⟩
    show agenda.now.nanos ≤ timer.due.nanos
    rcases mem_insertTimer.mp member with rfl | old
    · simp only
      omega
    · exact orderly.ahead timer old

theorem Orderly.cancel (orderly : agenda.Orderly) (ticket : Nat) : (agenda.cancel ticket).Orderly :=
  ⟨orderly.sorted.filter _, fun timer member => orderly.ahead timer (List.mem_filter.mp member).1⟩

/-- The soonest timer of an agenda rings: the clock goes to it and its job is ready. -/
def ring (agenda : Agenda ω) (timer : Timer ω) (rest : List (Timer ω)) : Agenda ω :=
  { agenda with now := timer.due, ready := agenda.ready ++ [timer.job], timers := rest }

theorem Orderly.ring (orderly : agenda.Orderly) {timer : Timer ω} {rest : List (Timer ω)}
    (soonest : agenda.timers = timer :: rest) : (agenda.ring timer rest).Orderly := by
  have sorted := orderly.sorted
  rw [soonest] at sorted
  obtain ⟨first, tail⟩ := List.pairwise_cons.mp sorted
  exact ⟨tail, first⟩

/-- The first timer says when the next one is due. -/
theorem Orderly.all_after (orderly : agenda.Orderly) {limit : Instant} (quiet : agenda.wake? limit = none) :
    ∀ timer ∈ agenda.timers, limit.nanos < timer.due.nanos := by
  have sorted := orderly.sorted
  unfold wake? at quiet
  split at quiet
  · next empty => simp [empty]
  · next timer rest soonest =>
    split at quiet
    · cases quiet
    · next late =>
      rw [soonest] at sorted ⊢
      intro other member
      rcases List.mem_cons.mp member with rfl | behind
      · omega
      · have := (List.pairwise_cons.mp sorted).1 other behind
        omega

theorem wake?_eq_some {limit : Instant} {woken : Agenda ω} (rung : agenda.wake? limit = some woken) :
    ∃ timer rest, agenda.timers = timer :: rest ∧ timer.due.nanos ≤ limit.nanos ∧
      woken = agenda.ring timer rest := by
  unfold wake? at rung
  split at rung
  · cases rung
  · next timer rest soonest =>
    split at rung
    · next due => exact ⟨timer, rest, soonest, due, (Option.some.inj rung).symm⟩
    · cases rung

/-! ## Jobs -/

/-- The agenda once its first job is taken. -/
def behind (agenda : Agenda ω) (rest : List (Job ω)) : Agenda ω := { agenda with ready := rest }

theorem next?_eq_none : agenda.next? = none ↔ agenda.ready = [] := by
  unfold next?
  split <;> simp [*]

theorem next?_eq_some {job : Job ω} {after : Agenda ω} (taken : agenda.next? = some (job, after)) :
    ∃ rest, agenda.ready = job :: rest ∧ after = agenda.behind rest := by
  unfold next? at taken
  split at taken
  · cases taken
  · next first rest ready =>
    cases taken
    exact ⟨rest, ready, rfl⟩

theorem jobs_of_ready {job : Job ω} {rest : List (Job ω)} (ready : agenda.ready = job :: rest) :
    agenda.jobs = job :: (agenda.behind rest).jobs := by
  simp [jobs, behind, ready]

theorem jobs_ring {timer : Timer ω} {rest : List (Timer ω)} (soonest : agenda.timers = timer :: rest) :
    (agenda.ring timer rest).jobs = agenda.jobs := by
  simp [jobs, ring, soonest]

theorem jobs_spawn (work : ω) :
    (agenda.spawn work).1.jobs.Perm (⟨agenda.issued, work⟩ :: agenda.jobs) := by
  simp only [jobs, spawn, List.append_assoc, List.singleton_append]
  exact List.perm_middle

theorem jobs_enqueue (job : Job ω) : (agenda.enqueue job).jobs.Perm (job :: agenda.jobs) := by
  simp only [jobs, enqueue, List.append_assoc, List.singleton_append]
  exact List.perm_middle

theorem jobs_waitUntil (due : Instant) (job : Job ω) :
    (agenda.waitUntil due job).jobs.Perm (job :: agenda.jobs) := by
  unfold Agenda.waitUntil
  split
  · exact jobs_enqueue job
  · exact ((insertTimer_perm _ _).map (·.job)).append_left agenda.ready |>.trans List.perm_middle

theorem jobs_cancel (ticket : Nat) :
    (agenda.cancel ticket).jobs = agenda.jobs.filter (·.ticket != ticket) := by
  simp only [jobs, Agenda.cancel, List.filter_append, List.filter_map]
  rfl

theorem now_waitUntil (due : Instant) (job : Job ω) : (agenda.waitUntil due job).now = agenda.now := by
  unfold Agenda.waitUntil
  split <;> rfl

theorem issued_waitUntil (due : Instant) (job : Job ω) :
    (agenda.waitUntil due job).issued = agenda.issued := by
  unfold Agenda.waitUntil
  split <;> rfl

/-- What an operation leaves ready was ready, or is the job that it lets wait. -/
theorem mem_ready_waitUntil {due : Instant} {job other : Job ω} (member : other ∈ agenda.ready) :
    other ∈ (agenda.waitUntil due job).ready := by
  unfold Agenda.waitUntil
  split
  · exact List.mem_append_left _ member
  · exact member

theorem mem_timers_waitUntil {due : Instant} {job : Job ω} {timer : Timer ω}
    (member : timer ∈ agenda.timers) : timer ∈ (agenda.waitUntil due job).timers := by
  unfold Agenda.waitUntil
  split
  · exact member
  · exact mem_insertTimer.mpr (.inr member)

end Operations

/-! ## Weights -/

section Weights

variable {agenda : Agenda ω} (weight : ω → Nat) (cost : Timer ω → Nat)

/-- The weight of the jobs that are ready. -/
def readyWeight (agenda : Agenda ω) : Nat := total (agenda.ready.map fun job => weight job.work)

/-- The cost of the timers. -/
def timerCost (agenda : Agenda ω) : Nat := total (agenda.timers.map cost)

theorem readyWeight_of_ready {job : Job ω} {rest : List (Job ω)} (ready : agenda.ready = job :: rest) :
    agenda.readyWeight weight = weight job.work + (agenda.behind rest).readyWeight weight := by
  simp only [readyWeight, behind, ready, List.map_cons, total_cons]

theorem readyWeight_enqueue (job : Job ω) :
    (agenda.enqueue job).readyWeight weight = agenda.readyWeight weight + weight job.work := by
  simp only [readyWeight, enqueue, List.map_append, total_append, List.map_cons, total_cons,
    List.map_nil, total_nil, Nat.add_zero]

theorem readyWeight_spawn (work : ω) :
    (agenda.spawn work).1.readyWeight weight = agenda.readyWeight weight + weight work := by
  simp only [readyWeight, spawn, List.map_append, total_append, List.map_cons, total_cons,
    List.map_nil, total_nil, Nat.add_zero]

theorem readyWeight_waitUntil_le (due : Instant) (job : Job ω) :
    (agenda.waitUntil due job).readyWeight weight ≤ agenda.readyWeight weight + weight job.work := by
  unfold Agenda.waitUntil
  split
  · exact Nat.le_of_eq (readyWeight_enqueue weight job)
  · exact Nat.le_add_right ..

theorem readyWeight_cancel_le (ticket : Nat) :
    (agenda.cancel ticket).readyWeight weight ≤ agenda.readyWeight weight :=
  total_le_of_sublist (List.filter_sublist.map _)

theorem timerCost_of_timers {timer : Timer ω} {rest : List (Timer ω)}
    (soonest : agenda.timers = timer :: rest) :
    agenda.timerCost cost = cost timer + (agenda.ring timer rest).timerCost cost := by
  simp only [timerCost, ring, soonest, List.map_cons, total_cons]

/-- A job that has nothing to wait for lines up, any other one costs its timer. -/
theorem waitUntil_cases (due : Instant) (job : Job ω) :
    due.nanos ≤ agenda.now.nanos ∧ agenda.waitUntil due job = agenda.enqueue job ∨
      agenda.now.nanos < due.nanos ∧
        (agenda.waitUntil due job).ready = agenda.ready ∧
        (agenda.waitUntil due job).timerCost cost = cost ⟨due, job⟩ + agenda.timerCost cost := by
  unfold Agenda.waitUntil
  split
  · next past => exact .inl ⟨past, rfl⟩
  · next later =>
    refine .inr ⟨by omega, rfl, ?_⟩
    simp only [timerCost]
    rw [total_perm ((insertTimer_perm _ _).map cost), List.map_cons, total_cons]

theorem timerCost_cancel_le (ticket : Nat) :
    (agenda.cancel ticket).timerCost cost ≤ agenda.timerCost cost :=
  total_le_of_sublist (List.filter_sublist.map _)

end Weights

end Agenda

end EditorAssist.Time

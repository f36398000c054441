import EditorAssist.Proofs.Session.Jobs
import EditorAssist.Proofs.Session.Running

/-!
# Draining

Suggestions have a deadline, and only delays, suggestions, answers and ticks wait for a timer. So when no more
messages arrive every handler is done by the last resort of a settled session, and draining ends with no
handler at work.
-/

namespace EditorAssist.Session

open EditorAssist.Backend EditorAssist.Debounce EditorAssist.Journal EditorAssist.Payload
open EditorAssist.Settings EditorAssist.Time EditorAssist.Wire

/-! ## Deadlines -/

/-- Work that may wait for a timer. -/
def Work.isTimed : Work → Bool
  | .fire .. => true
  | .suggestions .. => true
  | .answer .. => true
  | work => work.isSignal

/-- Work that is over by an instant, if it is the collection of suggestions. -/
def Work.LimitedBy (last : Int) : Work → Prop
  | .suggestions pending _ =>
    ∃ deadline, pending.collection.deadline = some deadline ∧ deadline.nanos ≤ last
  | _ => True

/-- When the suggestions of a session are due at the latest that are asked for now. -/
def deadline (s : Session) : Int := (s.now.after (.ofMillis s.settings.completionTimeout)).nanos

/-- Deadlines are not too far away, and only some work waits. -/
structure Punctual (s : Session) : Prop where
  timers : ∀ timer ∈ s.desk.agenda.timers, timer.job.work.isTimed = true
  limited : ∀ job ∈ s.desk.agenda.jobs, job.work.LimitedBy s.deadline

theorem Work.LimitedBy.mono {work : Work} {last later : Int} (limited : work.LimitedBy last)
    (more : last ≤ later) : work.LimitedBy later := by
  cases work with
  | suggestions pending outcome =>
    obtain ⟨deadline, limit, before⟩ := limited
    exact ⟨deadline, limit, by omega⟩
  | _ => trivial

section Deadlines

variable {settings : Settings} {now due : Instant} {work next : Work} {last : Int}

/-- Work that goes on keeps the deadline, or is given one. -/
theorem Succeeds.limited (succeeds : Succeeds settings now work next) (limited : work.LimitedBy last)
    (fresh : ∀ key job, work = .fire key (.complete job) →
      (now.after (.ofMillis settings.completionTimeout)).nanos ≤ last) : next.LimitedBy last := by
  cases succeeds with
  | fetched _ _ deadline => exact ⟨_, deadline, fresh _ _ rfl⟩
  | again _ _ deadline =>
    obtain ⟨before, limit, early⟩ := limited
    exact ⟨before, deadline.trans limit, early⟩
  | command | asked | refused | answered | told => trivial

theorem limited_of_isIdle (idle : work.isIdle = true) : work.LimitedBy last := by
  cases work <;> trivial

theorem limited_of_isSignal (signal : work.isSignal = true) : work.LimitedBy last := by
  cases work <;> trivial

theorem Follows.limited (follows : Follows settings now work next) (limited : work.LimitedBy last)
    (fresh : ∀ key job, work = .fire key (.complete job) →
      (now.after (.ofMillis settings.completionTimeout)).nanos ≤ last) : next.LimitedBy last := by
  cases follows with
  | idle idle => exact limited_of_isIdle idle
  | succeeds succeeds => exact succeeds.limited limited fresh
  | delayed | fires => trivial
  | ticks _ signal => exact limited_of_isSignal signal

theorem FollowsAt.limited (follows : FollowsAt settings now work due next) (limited : work.LimitedBy last)
    (fresh : ∀ key job, work = .fire key (.complete job) →
      (now.after (.ofMillis settings.completionTimeout)).nanos ≤ last) : next.LimitedBy last := by
  cases follows with
  | succeeds succeeds _ => exact succeeds.limited limited fresh
  | fires => trivial
  | ticks _ signal => exact limited_of_isSignal signal

theorem FollowsAt.isTimed (follows : FollowsAt settings now work due next) : next.isTimed = true := by
  cases follows with
  | succeeds _ may => cases next <;> first | rfl | exact may.elim
  | fires => rfl
  | ticks _ signal => cases next <;> first | rfl | cases signal

end Deadlines

section Punctual

variable {s t : Session} {events : List Event}

theorem Punctual.start (settings : Settings) (registry : Registry) (sink : Sink) :
    Punctual (Session.start settings registry sink) :=
  ⟨by simp [Session.start, Desk.empty, Agenda.empty],
    by simp [Session.start, Desk.empty, Agenda.empty, Agenda.jobs]⟩

theorem Punctual.turn {job : Job Work} {rest : List (Job Work)} (punctual : Punctual s) (sound : Sound [] s)
    (ready : s.desk.agenda.ready = job :: rest) : Punctual (perform job (s.taken rest)) := by
  have succession := turn_succession sound ready
  have old : ∀ other ∈ (s.taken rest).desk.agenda.jobs, other ∈ s.desk.agenda.jobs := by
    intro other member
    rw [Agenda.jobs_of_ready ready]
    exact List.mem_cons_of_mem _ member
  have own : job.work.LimitedBy s.deadline :=
    punctual.limited job (by rw [Agenda.jobs_of_ready ready]; exact List.mem_cons_self ..)
  have steady := turn_steady sound ready
  have same : (perform job (s.taken rest)).deadline = s.deadline := by
    rw [deadline, steady.1, steady.2, deadline]
  refine ⟨fun timer member => ?_, fun other member => ?_⟩
  · rcases succession.timers timer member with before | follows
    · exact punctual.timers timer before
    · exact follows.isTimed
  · rw [same]
    rcases List.mem_append.mp member with there | there
    · rcases succession.ready other there with before | follows
      · exact punctual.limited other (old other (List.mem_append_left _ before))
      · exact follows.limited own fun _ _ _ => Int.le_refl _
    · obtain ⟨timer, waits, rfl⟩ := List.mem_map.mp there
      rcases succession.timers timer waits with before | follows
      · exact punctual.limited _ (old _ (List.mem_append_right _ (List.mem_map_of_mem before)))
      · exact follows.limited own fun _ _ _ => Int.le_refl _

theorem Step.punctual (step : Step s events t) (sound : Sound [] s) (punctual : Punctual s) : Punctual t := by
  cases step with
  | receive m =>
    rcases handle_cases sound.own m with ⟨sink, handler, _, started⟩ | ⟨sink, _, refused⟩
    · rw [started]
      refine ⟨punctual.timers, fun job member => ?_⟩
      rcases List.mem_cons.mp ((Agenda.jobs_spawn _).mem_iff.mp member) with rfl | old
      · trivial
      · exact punctual.limited job old
    · rw [refused]
      exact ⟨punctual.timers, punctual.limited⟩
  | turn ready => exact punctual.turn sound ready
  | @wake timer rest _ soonest =>
    have there : timer ∈ s.desk.agenda.timers := by
      rw [soonest]
      exact List.mem_cons_self ..
    have ahead : s.now.nanos ≤ timer.due.nanos := sound.orderly.ahead timer there
    refine ⟨fun other member => punctual.timers other (by rw [soonest]; exact List.mem_cons_of_mem _ member),
      fun job member => ?_⟩
    have old : job ∈ s.desk.agenda.jobs := by
      rw [← Agenda.jobs_ring soonest]
      exact member
    refine (punctual.limited job old).mono ?_
    exact Int.add_le_add_right ahead _
  | pass _ _ forward =>
    refine ⟨punctual.timers, fun job member => (punctual.limited job member).mono ?_⟩
    exact Int.add_le_add_right forward _

theorem Run.punctual (run : Run s events t) (sound : Sound [] s) (punctual : Punctual s) : Punctual t := by
  induction run with
  | nil => exact punctual
  | cons step _ ih => exact ih (step.sound sound) (step.punctual sound punctual)

end Punctual

/-! ## No more messages -/

/-- Work that may be left when no more messages arrive and everything that was ready has been done. -/
def Work.isLeft : Work → Bool
  | .handle .. => false
  | .resume .. => false
  | .chat _ => false
  | .delay _ _ (.complete _) => false
  | _ => true

/-- A session that drains: completions start until the `horizon`, and every handler is done by the `last`
instant. -/
structure Draining (horizon last : Int) (s : Session) : Prop where
  left : ∀ job ∈ s.desk.agenda.jobs, job.work.isLeft = true
  limited : ∀ job ∈ s.desk.agenda.jobs, job.work.LimitedBy last
  starts : ∀ job ∈ s.desk.agenda.ready, job.work.awaited? ≠ none → s.now.nanos ≤ horizon
  fires : ∀ timer ∈ s.desk.agenda.timers, timer.job.work.awaited? ≠ none → timer.due.nanos ≤ horizon
  due : ∀ timer ∈ s.desk.agenda.timers, timer.job.work.charge? ≠ none → timer.due.nanos ≤ last

section Followers

variable {settings : Settings} {now due : Instant} {work next : Work} {last : Int}

theorem Succeeds.isLeft (succeeds : Succeeds settings now work next) (left : work.isLeft = true) :
    next.isLeft = true ∧ next.awaited? = none := by
  cases succeeds <;> first | exact ⟨rfl, rfl⟩ | cases left

theorem awaited?_of_isSignal (signal : work.isSignal = true) : work.awaited? = none := by
  cases work <;> trivial

theorem isLeft_of_isSignal (signal : work.isSignal = true) : work.isLeft = true := by
  cases work <;> trivial

/-- A delay that is left clears some diagnostics. -/
theorem isLeft_delay {key : String} {span : Span} {action : DelayedAction}
    (left : (Work.delay key span action).isLeft = true) : ∃ uri, action = .clear uri := by
  cases action with
  | complete job => cases left
  | clear uri => exact ⟨uri, rfl⟩

theorem Follows.isLeft (follows : Follows settings now work next) (left : work.isLeft = true) :
    next.isLeft = true ∧ next.awaited? = none := by
  cases follows with
  | idle idle =>
    rcases next with _ | _ | ⟨_, _, _ | _⟩ | _ | _ | _ | _ | _ | _ | _ | _ <;>
      first | exact ⟨rfl, rfl⟩ | cases idle
  | succeeds succeeds => exact succeeds.isLeft left
  | delayed own =>
    rw [own] at left
    cases left
  | fires own =>
    rw [own] at left
    obtain ⟨uri, rfl⟩ := isLeft_delay left
    exact ⟨rfl, rfl⟩
  | ticks _ signal => exact ⟨isLeft_of_isSignal signal, awaited?_of_isSignal signal⟩

theorem FollowsAt.isLeft (follows : FollowsAt settings now work due next) (left : work.isLeft = true) :
    next.isLeft = true ∧ next.awaited? = none := by
  cases follows with
  | succeeds succeeds _ => exact succeeds.isLeft left
  | fires own _ =>
    rw [own] at left
    obtain ⟨uri, rfl⟩ := isLeft_delay left
    exact ⟨rfl, rfl⟩
  | ticks _ signal => exact ⟨isLeft_of_isSignal signal, awaited?_of_isSignal signal⟩

/-- What waits is due before the deadline, unless nobody is charged with it. -/
theorem FollowsAt.due_le (follows : FollowsAt settings now work due next) (left : work.isLeft = true)
    (limited : next.LimitedBy last) (charged : next.charge? ≠ none) : due.nanos ≤ last := by
  cases follows with
  | succeeds succeeds may =>
    cases next with
    | suggestions pending outcome =>
      obtain ⟨deadline, limit, before⟩ := limited
      have prompt := may deadline limit
      omega
    | answer chatting outcome =>
      cases succeeds
      cases left
    | _ => exact may.elim
  | fires own _ =>
    rw [own] at left
    obtain ⟨uri, rfl⟩ := isLeft_delay left
    exact absurd rfl charged
  | ticks _ signal =>
    refine absurd ?_ charged
    cases next <;> trivial

end Followers

section Draining

variable {horizon last : Int} {s t : Session}

theorem Draining.turn {job : Job Work} {rest : List (Job Work)} (draining : Draining horizon last s)
    (sound : Sound [] s) (ready : s.desk.agenda.ready = job :: rest)
    (enough : horizon + s.settings.completionTimeout * 1000000 ≤ last) :
    Draining horizon last (perform job (s.taken rest)) := by
  obtain ⟨left, limited, starts, fires, due⟩ := draining
  have succession := turn_succession sound ready
  have now := (turn_steady sound ready).2
  have first : job ∈ s.desk.agenda.jobs := by
    rw [Agenda.jobs_of_ready ready]
    exact List.mem_cons_self ..
  have old : ∀ other ∈ (s.taken rest).desk.agenda.jobs, other ∈ s.desk.agenda.jobs := by
    intro other member
    rw [Agenda.jobs_of_ready ready]
    exact List.mem_cons_of_mem _ member
  have own := left job first
  have fresh : ∀ key completion, job.work = .fire key (.complete completion) →
      (s.now.after (.ofMillis s.settings.completionTimeout)).nanos ≤ last := by
    intro key completion same
    have started : s.now.nanos ≤ horizon := by
      refine starts job (by rw [ready]; exact List.mem_cons_self ..) ?_
      rw [same]
      exact nofun
    show s.now.nanos + s.settings.completionTimeout * 1000000 ≤ last
    omega
  refine ⟨fun other member => ?_, fun other member => ?_, fun other member awaited => ?_,
    fun timer member awaited => ?_, fun timer member charged => ?_⟩
  · rcases List.mem_append.mp member with there | there
    · rcases succession.ready other there with before | follows
      · exact left other (old other (List.mem_append_left _ before))
      · exact (follows.isLeft own).1
    · obtain ⟨timer, waits, rfl⟩ := List.mem_map.mp there
      rcases succession.timers timer waits with before | follows
      · exact left _ (old _ (List.mem_append_right _ (List.mem_map_of_mem before)))
      · exact (follows.isLeft own).1
  · rcases List.mem_append.mp member with there | there
    · rcases succession.ready other there with before | follows
      · exact limited other (old other (List.mem_append_left _ before))
      · exact follows.limited (limited job first) fresh
    · obtain ⟨timer, waits, rfl⟩ := List.mem_map.mp there
      rcases succession.timers timer waits with before | follows
      · exact limited _ (old _ (List.mem_append_right _ (List.mem_map_of_mem before)))
      · exact follows.limited (limited job first) fresh
  · rw [now]
    rcases succession.ready other member with before | follows
    · exact starts other (by rw [ready]; exact List.mem_cons_of_mem _ before) awaited
    · exact absurd (follows.isLeft own).2 awaited
  · rcases succession.timers timer member with before | follows
    · exact fires timer before awaited
    · exact absurd (follows.isLeft own).2 awaited
  · rcases succession.timers timer member with before | follows
    · exact due timer before charged
    · exact follows.due_le own (follows.limited (limited job first) fresh) charged

theorem Draining.ring {timer : Timer Work} {rest : List (Timer Work)} (draining : Draining horizon last s)
    (idle : s.desk.agenda.ready = []) (soonest : s.desk.agenda.timers = timer :: rest) :
    Draining horizon last (s.mapAgenda (·.ring timer rest)) := by
  obtain ⟨left, limited, starts, fires, due⟩ := draining
  have jobs : (s.desk.agenda.ring timer rest).jobs = s.desk.agenda.jobs := Agenda.jobs_ring soonest
  have later : ∀ other ∈ rest, other ∈ s.desk.agenda.timers := by
    intro other member
    rw [soonest]
    exact List.mem_cons_of_mem _ member
  refine ⟨fun job member => left job (jobs ▸ member), fun job member => limited job (jobs ▸ member),
    fun job member awaited => ?_, fun other member => fires other (later other member),
    fun other member => due other (later other member)⟩
  have own : job = timer.job := by
    have there : job ∈ s.desk.agenda.ready ++ [timer.job] := member
    rw [idle] at there
    exact List.mem_singleton.mp there
  exact fires timer (by rw [soonest]; exact List.mem_cons_self ..) (own ▸ awaited)

/-- The last timer is due at the horizon. -/
theorem due_le_horizon {agenda : Agenda Work} (orderly : agenda.Orderly) :
    ∀ timer ∈ agenda.timers, timer.due.nanos ≤ agenda.horizon.nanos := by
  intro timer member
  have sorted := orderly.sorted
  unfold Agenda.horizon
  obtain ⟨before, last, same⟩ := List.eq_nil_or_concat agenda.timers |>.resolve_left fun empty => by
    rw [empty] at member
    cases member
  rw [List.concat_eq_append] at same
  rw [same] at member sorted ⊢
  rw [List.getLast?_append, List.getLast?_singleton, Option.some_or, Option.map_some, Option.getD_some]
  rcases List.mem_append.mp member with earlier | final
  · exact (List.pairwise_append.mp sorted).2.2 timer earlier last (List.mem_singleton_self _)
  · exact Int.le_of_eq (by rw [List.mem_singleton.mp final])

theorem now_le_horizon {agenda : Agenda Work} (orderly : agenda.Orderly) :
    agenda.now.nanos ≤ agenda.horizon.nanos := by
  unfold Agenda.horizon
  cases last : agenda.timers.getLast? with
  | none => exact Int.le_refl _
  | some timer => exact orderly.ahead timer (List.mem_of_getLast? last)

/-- A settled session drains by the last resort. -/
theorem Draining.of_idle (sound : Sound [] s) (punctual : Punctual s) (idle : s.desk.agenda.ready = []) :
    Draining s.desk.agenda.horizon.nanos s.lastResort.nanos s := by
  have jobs : s.desk.agenda.jobs = s.desk.agenda.timers.map (·.job) := by rw [Agenda.jobs, idle]; rfl
  have longer : s.desk.agenda.horizon.nanos ≤ s.lastResort.nanos := by
    show _ ≤ _ + (s.settings.completionTimeout : Int) * 1000000
    omega
  refine ⟨fun job member => ?_, fun job member => ?_, fun job member => ?_, fun timer member _ => ?_,
    fun timer member _ => ?_⟩
  · rw [jobs] at member
    obtain ⟨timer, there, rfl⟩ := List.mem_map.mp member
    have timed := punctual.timers timer there
    cases work : timer.job.work <;> rw [work] at timed <;> first | rfl | cases timed
  · exact (punctual.limited job member).mono (Int.add_le_add_right (now_le_horizon sound.orderly) _)
  · rw [idle] at member
    cases member
  · exact due_le_horizon sound.orderly timer member
  · exact Int.le_trans (due_le_horizon sound.orderly timer member) longer

/-- When everything that was due has been done, nobody is charged with anything. -/
theorem Draining.charges (draining : Draining horizon last s) (sound : Sound [] s)
    (idle : s.desk.agenda.ready = []) (passed : ∀ timer ∈ s.desk.agenda.timers, last < timer.due.nanos) :
    s.charges = [] := by
  have free : ∀ job ∈ s.desk.agenda.jobs, job.work.charge? = none := by
    intro job member
    rw [Agenda.jobs, idle] at member
    obtain ⟨timer, there, rfl⟩ := List.mem_map.mp member
    by_contra charged
    have before := draining.due timer there charged
    have after := passed timer there
    omega
  have table : delayed s.desk.pending = [] := by
    refine List.filterMap_eq_nil_iff.mpr fun entry pending => ?_
    obtain ⟨job, member, _, slot⟩ := (sound.coherent.entries entry).mp pending
    have nothing := free job member
    cases work : job.work <;> rw [work] at slot nothing <;>
      simp only [Work.slot, Option.some.injEq, Prod.mk.injEq, reduceCtorEq] at slot <;>
      rw [← slot.2] <;> exact nothing
  have jobs : debts s.desk.agenda.jobs = [] := by
    refine List.filterMap_eq_nil_iff.mpr fun job member => ?_
    rw [Work.debt?, free job member]
    split <;> rfl
  rw [Session.charges, table, jobs]
  rfl

end Draining

/-! ## The drained session -/

section Drained

variable {s : Session} {owed : List RequestId}

theorem Ledger.idle (ledger : Ledger owed [] s) : s.inFlight = 0 := by
  have none : s.unfinished = [] := ledger.handlers.eq_nil
  rw [inFlight, List.map_eq_nil_iff.mp none]
  rfl

theorem settle_of_idle (idle : s.desk.agenda.ready = []) : s.settle = s := by
  unfold settle Engine.settle Engine.settleFor
  split
  · rfl
  · next taken =>
    obtain ⟨rest, ready, _⟩ := Agenda.next?_eq_some taken
    have ready : s.desk.agenda.ready = _ := ready
    rw [idle] at ready
    cases ready

theorem settle_ready (sound : Sound [] s) : s.settle.desk.agenda.ready = [] :=
  Engine.settle_idle (adequate s.settings) ⟨sound, rfl⟩

/-- Draining is work without messages, after which no handler is at work and nothing is ready. -/
theorem drain_idle (sound : Sound [] s) (punctual : Punctual s) (ledger : Ledger owed s.charges s) :
    Works s s.drain ∧ s.drain.desk.agenda.ready = [] ∧ s.drain.inFlight = 0 := by
  obtain ⟨events, run, quiet⟩ := settle_works s
  have settled := run.sound sound
  have fixed := run.settings sound
  have idle := settle_ready sound
  have limit : s.settle.now.nanos ≤ s.settle.lastResort.nanos := by
    have := now_le_horizon settled.orderly
    show s.settle.desk.agenda.now.nanos ≤ _ + (s.settle.settings.completionTimeout : Int) * 1000000
    omega
  have enough : s.settle.desk.agenda.horizon.nanos + s.settle.settings.completionTimeout * 1000000 ≤
      s.settle.lastResort.nanos := Int.le_refl _
  have begins := Draining.of_idle settled (run.punctual sound punctual) idle
  obtain ⟨later, _⟩ := advanceWhile_works (fun s => 0 < s.inFlight) settled limit
  rw [fixed] at later
  have drains : Draining s.settle.desk.agenda.horizon.nanos s.settle.lastResort.nanos
      ((engine s.settings).advanceWhile (fun s => 0 < s.inFlight) s.settle.lastResort s.settle) := by
    refine @Engine.advanceWhile_invariant _ _ _ _ _ _ _ (adequate s.settings)
      (Draining s.settle.desk.agenda.horizon.nanos s.settle.lastResort.nanos) ?_ ?_ _ ⟨settled, fixed⟩ begins
    · rintro t job rest ⟨still, same⟩ draining ready
      exact draining.turn still ready (by rw [same, ← fixed]; exact enough)
    · rintro t timer rest _ draining idle soonest _
      exact draining.ring idle soonest
  obtain ⟨done, stopped⟩ := @Engine.advanceWhile_done _ _ _ _ _ (fun s : Session => decide (0 < s.inFlight))
    s.settle.lastResort (adequate s.settings) s.settle ⟨settled, fixed⟩
  have whole : s.drain = ((engine s.settings).advanceWhile (fun s => 0 < s.inFlight)
      s.settle.lastResort s.settle).settle := rfl
  generalize (engine s.settings).advanceWhile (fun s => 0 < s.inFlight) s.settle.lastResort s.settle = u at *
  obtain ⟨waiting, while_, silent⟩ := later
  have sound' := while_.sound settled
  have done : u.desk.agenda.ready = [] := done
  rw [whole, settle_of_idle done]
  refine ⟨⟨_, run.append while_, by rw [received_append, quiet, silent]; rfl⟩, done, ?_⟩
  rcases stopped with stopped | passed
  · have idle : ¬0 < u.inFlight := of_decide_eq_false stopped
    omega
  · have passed : u.desk.agenda.wake? s.settle.lastResort = none := passed
    have nothing := drains.charges sound' done (sound'.orderly.all_after passed)
    have balance := while_.ledger settled (run.ledger sound ledger)
    rw [nothing] at balance
    exact balance.idle

/-- When no handler is at work, nobody is charged with what is still delayed. -/
theorem cancelAllPending_idle (sound : Sound [] s) (ledger : Ledger owed s.charges s) (idle : s.inFlight = 0) :
    Ledger owed [] s.cancelAllPending := by
  have nothing := (ledger.settled idle).1
  have jobs : debts s.desk.agenda.jobs = [] := (List.append_eq_nil_iff.mp nothing).2
  have cancelled := @Ledger.cancelAllPending [] owed [] s ledger sound
  rw [charges_cancelAllPending sound, jobs] at cancelled
  exact cancelled

/-- Records of what was read change nothing else. -/
theorem foldl_noteRead_eq (notes : List ReadNote) (s : Session) :
    ∃ sink, notes.foldl noteRead s = { s with sink } := by
  induction notes generalizing s with
  | nil => exact ⟨_, rfl⟩
  | cons note rest ih =>
    have one : ∃ sink, s.noteRead note = { s with sink } := by
      cases note <;> exact ⟨_, rfl⟩
    obtain ⟨sink, noted⟩ := one
    rw [List.foldl_cons, noted]
    exact ih _

/-- Serving a stream is a run on its messages until no handler is at work and nothing is ready. Then what is
still delayed is withdrawn. -/
theorem serve_run (settings : Settings) (registry : Registry) (sink : Sink) (source : Source) :
    ∃ sink' events s, Run (Session.start settings registry sink') events s ∧
      received events = (readMessages source).messages ∧ s.desk.agenda.ready = [] ∧ s.inFlight = 0 ∧
      ((Session.start settings registry sink).serve source).1 = s.cancelAllPending := by
  obtain ⟨sink₁, noted⟩ := foldl_noteRead_eq (readMessages source).notes
    ((Session.start settings registry sink).log .info "lsp.service" "listening" [])
  have closed : ∃ sink₂, ((Session.start settings registry sink).serve source).1 =
      (((Session.start settings registry sink₂).handleAll (readMessages source).messages).drain).cancelAllPending := by
    unfold serve
    dsimp only
    rw [noted]
    split
    · exact ⟨_, rfl⟩
    · exact ⟨_, rfl⟩
  obtain ⟨sink₂, same⟩ := closed
  have sound := Sound.start settings registry sink₂
  obtain ⟨events, run, arrived⟩ := handleAll_run (Session.start settings registry sink₂)
    (readMessages source).messages
  have ledger := run.ledger sound (Ledger.start settings registry sink₂)
  have punctual := run.punctual sound (.start settings registry sink₂)
  obtain ⟨⟨later, drains, quiet⟩, ready, idle⟩ := drain_idle (run.sound sound) punctual ledger
  refine ⟨sink₂, _, _, run.append drains, ?_, ready, idle, same⟩
  rw [received_append, arrived, quiet, List.append_nil]

/-- Serving a stream ends with no handler at work, and with the answers that its messages have to get. -/
theorem serve_ledger (settings : Settings) (registry : Registry) (sink : Sink) (source : Source) :
    Ledger (owedBy (readMessages source).messages) []
      ((Session.start settings registry sink).serve source).1 := by
  obtain ⟨sink', events, s, run, arrived, -, idle, same⟩ := serve_run settings registry sink source
  have sound := Sound.start settings registry sink'
  have ledger := run.ledger sound (Ledger.start settings registry sink')
  rw [arrived, List.nil_append] at ledger
  rw [same]
  exact cancelAllPending_idle (run.sound sound) ledger idle

end Drained

end EditorAssist.Session

import EditorAssist.Proofs.Session.Showing

/-!
# Work that is expected

A job that no turn of other work disturbs stays on the agenda until it is its turn: the clock does not pass it,
and in the meantime only other work is done. So a run in which some work is expected either still expects it in
the end or comes to its turn, at an instant at which it was expected.
-/

namespace EditorAssist.Session

open EditorAssist.Backend EditorAssist.Debounce EditorAssist.Payload EditorAssist.Settings
open EditorAssist.Time EditorAssist.Wire

/-- Some work is ready, or will be, at an instant at which it is expected. -/
inductive Expects (when : Work → Int → Prop) (s : Session) : Prop
  | ready {job : Job Work} (member : job ∈ s.desk.agenda.ready) (timely : when job.work s.now.nanos)
  | waits {timer : Timer Work} (member : timer ∈ s.desk.agenda.timers)
      (timely : when timer.job.work timer.due.nanos)

/-- Work that is expected at some instant. -/
def anyTime (when : Work → Int → Prop) (work : Work) : Prop := ∃ instant, when work instant

section Expecting

variable {when other : Work → Int → Prop} {s t : Session} {events : List Event} {first : Job Work}
  {rest : List (Job Work)} {next : Work} {ticket : Nat}

theorem Expects.mono (expects : Expects when s) (weaker : ∀ work instant, when work instant → other work instant) :
    Expects other s := by
  cases expects with
  | ready member timely => exact .ready member (weaker _ _ timely)
  | waits member timely => exact .waits member (weaker _ _ timely)

/-- The job of the work that is expected. -/
theorem Expects.job (expects : Expects when s) : ∃ job ∈ s.desk.agenda.jobs, anyTime when job.work := by
  cases expects with
  | ready member timely => exact ⟨_, List.mem_append_left _ member, _, timely⟩
  | waits member timely => exact ⟨_, List.mem_append_right _ (List.mem_map_of_mem member), _, timely⟩

/-- The clock does not pass the instant at which work is expected. -/
theorem Expects.ahead (expects : Expects when s) (sound : Sound [] s) :
    ∃ work instant, when work instant ∧ s.now.nanos ≤ instant := by
  cases expects with
  | ready member timely => exact ⟨_, _, timely, Int.le_refl _⟩
  | waits member timely => exact ⟨_, _, timely, sound.orderly.ahead _ member⟩

/-- What is left alone is still expected. -/
theorem Expects.of_stays (expects : Expects when s) (stays : Stays (anyTime when) s t) (now : t.now = s.now) :
    Expects when t := by
  cases expects with
  | ready member timely => exact .ready (stays.ready _ member ⟨_, timely⟩) (by rw [now]; exact timely)
  | waits member timely => exact .waits (stays.timers _ member ⟨_, timely⟩) timely

/-- Work is expected that lines up now. -/
theorem Expects.enqueue (timely : when next s.now.nanos) : Expects when (s.enqueue ticket next) :=
  .ready (List.mem_append_right _ (List.mem_singleton_self _)) timely

theorem Expects.spawn (timely : when next s.now.nanos) : Expects when (s.spawn next).1 :=
  .ready (List.mem_append_right _ (List.mem_singleton_self _)) timely

/-- Work is expected that waits until an instant that has not passed. -/
theorem Expects.waitUntil {due : Instant} (ahead : s.now.nanos ≤ due.nanos) (timely : when next due.nanos) :
    Expects when (s.waitUntil due ticket next) := by
  unfold Session.waitUntil Session.mapAgenda Agenda.waitUntil
  dsimp only
  split
  · next past =>
    have past : due.nanos ≤ s.now.nanos := past
    have now : due.nanos = s.now.nanos := Int.le_antisymm past ahead
    exact .enqueue (now ▸ timely)
  · exact .waits (Agenda.mem_insertTimer.mpr (.inl rfl)) timely

/-- The job that is ready first is expected now, or the work is expected behind it. -/
theorem Expects.first_or (expects : Expects when s) (ready : s.desk.agenda.ready = first :: rest) :
    when first.work s.now.nanos ∨ Expects when (s.taken rest) := by
  cases expects with
  | ready member timely =>
    rw [ready] at member
    rcases List.mem_cons.mp member with rfl | later
    · exact .inl timely
    · exact .inr (.ready later timely)
  | waits member timely => exact .inr (.waits member timely)

theorem Expects.receive (expects : Expects when s) (sound : Sound [] s) (m : Message) :
    Expects when (s.handle m) := by
  rcases handle_cases sound.own m with ⟨sink, handler, _, started⟩ | ⟨sink, _, refused⟩
  · rw [started]
    exact expects.of_stays (.spawn rfl rfl) rfl
  · rw [refused]
    exact expects.of_stays (.of_agenda rfl) rfl

theorem Expects.ring {timer : Timer Work} {later : List (Timer Work)} (expects : Expects when s)
    (idle : s.desk.agenda.ready = []) (soonest : s.desk.agenda.timers = timer :: later) :
    Expects when (s.mapAgenda (·.ring timer later)) := by
  cases expects with
  | ready member =>
    rw [idle] at member
    cases member
  | waits member timely =>
    rw [soonest] at member
    rcases List.mem_cons.mp member with rfl | still
    · exact .ready (List.mem_append_right _ (List.mem_singleton_self _)) timely
    · exact .waits still timely

theorem Expects.pass (expects : Expects when s) (idle : s.desk.agenda.ready = []) (instant : Instant) :
    Expects when (s.mapAgenda fun agenda => { agenda with now := instant }) := by
  cases expects with
  | ready member =>
    rw [idle] at member
    cases member
  | waits member timely => exact .waits member timely

/-- Work that is expected comes to its turn, or is still expected. What the turns of other work are shown to be
holds of everything that happens before. -/
theorem Run.expected (run : Run s events t) (quiet : Event → Prop) (balanced : Balanced s)
    (expects : Expects when s) (received : ∀ m, quiet (.received m))
    (others : ∀ {u job rest}, .turn u job ∈ events → Balanced u → u.desk.agenda.ready = job :: rest →
      Expects when (u.taken rest) → quiet (.turn u job) ∧
        Stays (anyTime when) (u.taken rest) (perform job (u.taken rest))) :
    Expects when t ∧ (∀ e ∈ events, quiet e) ∨
      ∃ earlier u job later, events = earlier ++ .turn u job :: later ∧ (∀ e ∈ earlier, quiet e) ∧
        when job.work u.now.nanos := by
  induction run with
  | nil => exact .inl ⟨expects, fun e member => absurd member List.not_mem_nil⟩
  | @cons s mid t first later step path ih =>
    have sound := balanced.sound
    have onward {u job rest} (member : .turn u job ∈ later) := @others u job rest (List.mem_append_right _ member)
    -- One more event that is quiet and leaves the work alone.
    have goes (expects : Expects when mid) (here : ∀ e ∈ first, quiet e) :
        Expects when t ∧ (∀ e ∈ first ++ later, quiet e) ∨
          ∃ earlier u job after, first ++ later = earlier ++ .turn u job :: after ∧ (∀ e ∈ earlier, quiet e) ∧
            when job.work u.now.nanos := by
      rcases ih (step.balanced balanced) expects onward with ⟨still, silent⟩ | ⟨earlier, u, job, after, rfl, silent, timely⟩
      · exact .inl ⟨still, fun e member => (List.mem_append.mp member).elim (here e) (silent e)⟩
      · refine .inr ⟨first ++ earlier, u, job, after, by rw [List.append_assoc], fun e member => ?_, timely⟩
        exact (List.mem_append.mp member).elim (here e) (silent e)
    cases step with
    | receive m =>
      refine goes (expects.receive sound m) fun e member => ?_
      rw [List.mem_singleton.mp member]
      exact received m
    | wake idle soonest => exact goes (expects.ring idle soonest) fun e member => absurd member List.not_mem_nil
    | pass idle quiet forward => exact goes (expects.pass idle _) fun e member => absurd member List.not_mem_nil
    | @turn job rest ready =>
      rcases expects.first_or ready with now | behind
      · exact .inr ⟨[], s, job, later, rfl, fun e member => absurd member List.not_mem_nil, now⟩
      · obtain ⟨silent, stays⟩ := others (List.mem_append_left _ (List.mem_singleton_self _)) balanced ready behind
        refine goes (behind.of_stays stays (turn_steady sound ready).2) fun e member => ?_
        rw [List.mem_singleton.mp member]
        exact silent

/-- Nobody is charged with the work of a signal. -/
theorem charge?_of_isSignal {work : Work} (signal : work.isSignal = true) : work.charge? = none := by
  cases work <;> first | rfl | cases signal

/-- Work that a handler is charged with stays on the agenda, unless it can be withdrawn through the table. -/
theorem Act.not_disturbs {work : Work} (plain : work.slot = none) {charge : Charge}
    (charged : work.charge? = some charge) (act : Act) : ¬act.Disturbs work := by
  intro disturbs
  cases act with
  | shows | wipes | admits =>
    obtain ⟨action, slot⟩ := disturbs
    rw [plain] at slot
    cases slot
  | drops => exact disturbs plain
  | stops =>
    rw [charge?_of_isSignal disturbs] at charged
    cases charged
  | _ => exact disturbs

/-- While work of a handler is expected that cannot be withdrawn, the handler takes no turn. -/
theorem Run.expected_of_handler {number : Nat} (run : Run s events t) (balanced : Balanced s)
    (expects : Expects when s)
    (charged : ∀ work instant, when work instant → ∃ id, work.charge? = some ⟨number, id⟩)
    (plain : ∀ work instant, when work instant → work.slot = none) :
    Expects when t ∧ (∀ e ∈ events, e.isBy number = false) ∨
      ∃ earlier u job later, events = earlier ++ .turn u job :: later ∧
        (∀ e ∈ earlier, e.isBy number = false) ∧ when job.work u.now.nanos := by
  refine run.expected (·.isBy number = false) balanced expects (fun _ => rfl) fun {u job rest} _ balanced ready behind => ?_
  constructor
  · obtain ⟨other, member, instant, timely⟩ := behind.job
    obtain ⟨id, own⟩ := charged _ _ timely
    refine Bool.eq_false_iff.mpr fun taken => ?_
    obtain ⟨charge, same, rfl⟩ := Option.map_eq_some_iff.mp (beq_iff_eq.mp taken)
    obtain ⟨owed, ledger⟩ := balanced.ledger
    exact ledger.alone balanced.sound ready same member own rfl
  · obtain ⟨acts, account⟩ := turn_account balanced.sound ready
    refine account.stays _ fun work ⟨instant, timely⟩ act _ => ?_
    obtain ⟨id, own⟩ := charged _ _ timely
    exact act.not_disturbs (plain _ _ timely) own

end Expecting

end EditorAssist.Session

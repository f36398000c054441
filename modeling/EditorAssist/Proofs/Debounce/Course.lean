import EditorAssist.Proofs.Debounce.Operations

/-!
# The course of one action

An action that can be withdrawn waits in one of three places: it has not begun to wait, it sleeps on a
timer that is due exactly when its delay has elapsed, or it was woken at that instant. Turns and timers
lead from one place to the next, and from the last one to its start. Once it has started or was withdrawn,
nothing can start or withdraw it again.
-/

namespace EditorAssist.Debounce

open EditorAssist.Number EditorAssist.Time

/-- Where the job of an action is that can be withdrawn. -/
inductive Place (script : Script) (ticket : Nat) (due : Int) (agenda : Agenda Stage) : Prop
  | fresh (ready : ⟨ticket, .wait script⟩ ∈ agenda.ready)
      (sum : agenda.now.nanos + max 0 script.delay.nanos = due)
  | asleep (timer : Timer Stage) (waits : timer ∈ agenda.timers)
      (job : timer.job = ⟨ticket, .run script⟩) (on : timer.due.nanos = due)
  | awake (ready : ⟨ticket, .run script⟩ ∈ agenda.ready) (now : agenda.now.nanos = due)

/-- An action that has neither started nor been withdrawn. -/
structure Waiting (script : Script) (ticket : Nat) (due : Int) (t : Trial) : Prop where
  untold : t.outcomes (toString ticket) = []
  place : Place script ticket due t.desk.agenda

/-- An action that can neither be started nor be withdrawn any more, and what was told about it. -/
structure Over (ticket : Nat) (outcomes : List Outcome) (t : Trial) : Prop where
  told : t.outcomes (toString ticket) = outcomes
  gone : ∀ job ∈ t.desk.agenda.jobs, job.ticket = ticket → job.work.slot = none
  past : ticket < t.desk.agenda.issued

variable {t : Trial} {script : Script} {ticket : Nat} {due : Int} {outcomes : List Outcome}

/-- The job of an action that waits. -/
theorem Place.job {agenda : Agenda Stage} (place : Place script ticket due agenda) :
    ∃ work, ⟨ticket, work⟩ ∈ agenda.jobs ∧ work.script = script ∧
      work.slot = some (script.key, ⟨script.name, script.notice⟩) := by
  cases place with
  | fresh ready _ => exact ⟨_, List.mem_append_left _ ready, rfl, rfl⟩
  | awake ready _ => exact ⟨_, List.mem_append_left _ ready, rfl, rfl⟩
  | asleep timer waits job _ =>
    exact ⟨_, List.mem_append_right _ (List.mem_map.mpr ⟨timer, waits, job⟩), rfl, rfl⟩

theorem Waiting.named (waiting : Waiting script ticket due t) (sound : t.Sound) :
    script.name = toString ticket := by
  obtain ⟨work, member, rfl, _⟩ := waiting.place.job
  exact (sound.plain _ member).2

theorem Waiting.issued (waiting : Waiting script ticket due t) (sound : t.Sound) :
    ticket < t.desk.agenda.issued := by
  obtain ⟨work, member, _⟩ := waiting.place.job
  exact sound.coherent.issued _ member

/-- An action that waits stands in the table. -/
theorem Waiting.pending (waiting : Waiting script ticket due t) (sound : t.Sound) :
    ⟨script.key, ticket, script.name, script.notice⟩ ∈ t.desk.pending := by
  obtain ⟨work, member, _, slot⟩ := waiting.place.job
  exact sound.coherent.entry_of_slot member slot

/-- One that is over does not. -/
theorem Over.not_pending (closed : Over ticket outcomes t) (sound : t.Sound) :
    ∀ entry ∈ t.desk.pending, entry.ticket ≠ ticket := by
  intro entry member same
  obtain ⟨job, there, own, slot⟩ := (sound.coherent.entries entry).mp member
  rw [closed.gone job there (own.trans same)] at slot
  cases slot

/-! ## Turns -/

section Turns

variable {job : Job Stage} {rest : List (Job Stage)}

/-- A turn leaves all other jobs where they are. -/
theorem turn_keeps (sound : t.Sound) (ready : t.desk.agenda.ready = job :: rest) :
    (∀ other ∈ rest, other ∈ (Trial.perform job (t.taken rest)).desk.agenda.ready) ∧
      (∀ timer ∈ t.desk.agenda.timers,
        timer ∈ (Trial.perform job (t.taken rest)).desk.agenda.timers) ∧
      (Trial.perform job (t.taken rest)).desk.agenda.now = t.desk.agenda.now := by
  have waits : ∀ (due : Instant) (next : Job Stage),
      (∀ other ∈ rest, other ∈ ((t.desk.agenda.behind rest).waitUntil due next).ready) ∧
      (∀ timer ∈ t.desk.agenda.timers,
        timer ∈ ((t.desk.agenda.behind rest).waitUntil due next).timers) ∧
      ((t.desk.agenda.behind rest).waitUntil due next).now = t.desk.agenda.now := fun due next =>
    ⟨fun _ member => Agenda.mem_ready_waitUntil member,
      fun _ member => Agenda.mem_timers_waitUntil member, Agenda.now_waitUntil due next⟩
  cases Trial.turned (t := t.taken rest) (sound.plain_first ready).1 with
  | waits script work desk _ =>
    rw [desk]
    exact waits _ _
  | ends script work desk _ =>
    rw [desk]
    exact ⟨fun _ member => member, fun _ member => member, rfl⟩
  | starts script work desk _ =>
    rcases desk with ends | ⟨span, runs⟩
    · rw [ends]
      exact ⟨fun _ member => member, fun _ member => member, rfl⟩
    · rw [runs]
      exact waits _ _

/-- The only job that a turn may add carries the action of the turn on. -/
theorem turn_jobs (sound : t.Sound) (ready : t.desk.agenda.ready = job :: rest) :
    ∀ other ∈ (Trial.perform job (t.taken rest)).desk.agenda.jobs,
      other ∈ (t.desk.agenda.behind rest).jobs ∨ other.ticket = job.ticket ∧
        (∃ script, job.work = .wait script ∧ other.work = .run script ∨
          job.work = .run script ∧ other.work = .finish script) := by
  cases Trial.turned (t := t.taken rest) (sound.plain_first ready).1 with
  | waits script work desk _ =>
    rw [desk]
    intro other member
    rcases List.mem_cons.mp ((Agenda.jobs_waitUntil _ _).mem_iff.mp member) with rfl | old
    · exact .inr ⟨rfl, script, .inl ⟨work, rfl⟩⟩
    · exact .inl old
  | ends script work desk _ =>
    rw [desk]
    exact fun other member => .inl member
  | starts script work desk _ =>
    rcases desk with ends | ⟨span, runs⟩
    · rw [ends]
      exact fun other member => .inl member
    · rw [runs]
      intro other member
      rcases List.mem_cons.mp ((Agenda.jobs_waitUntil _ _).mem_iff.mp member) with rfl | old
      · exact .inr ⟨rfl, script, .inr ⟨work, rfl⟩⟩
      · exact .inl old

/-- No other job has the ticket of the turn. -/
theorem behind_ticket (sound : t.Sound) (ready : t.desk.agenda.ready = job :: rest) :
    ∀ other ∈ (t.desk.agenda.behind rest).jobs, other.ticket ≠ job.ticket := by
  have apart := (List.nodup_cons.mp (sound.coherent.take ready).distinct).1
  exact fun other member same => apart (List.mem_map.mpr ⟨other, member, same⟩)

theorem Over.turn (closed : Over ticket outcomes t) (sound : t.Sound)
    (ready : t.desk.agenda.ready = job :: rest) :
    Over ticket outcomes (Trial.perform job (t.taken rest)) := by
  have jobs := Agenda.jobs_of_ready ready
  have first : job.ticket = ticket → job.work.slot = none :=
    closed.gone job (by rw [jobs]; exact List.mem_cons_self ..)
  refine ⟨?_, ?_, ?_⟩
  · by_cases own : job.ticket = ticket
    · -- The turn of the action itself can only be its end.
      have ending := first own
      cases Trial.turned (t := t.taken rest) (sound.plain_first ready).1 with
      | waits script work _ _ => simp [work, Stage.slot] at ending
      | starts script work _ _ => simp [work, Stage.slot] at ending
      | ends script work _ events =>
        obtain ⟨said, events, ended⟩ := events
        rw [Trial.outcomes, events, told_append, told_ended ended, List.append_nil]
        exact closed.told
    · rw [Trial.outcomes_turn sound ready (Ne.symm own)]
      exact closed.told
  · intro other member own
    rcases turn_jobs sound ready other member with old | ⟨same, script, ⟨work, _⟩ | ⟨work, _⟩⟩
    · exact closed.gone other (by rw [jobs]; exact List.mem_cons_of_mem _ old) own
    · have ending := first (same.symm.trans own)
      simp [work, Stage.slot] at ending
    · have ending := first (same.symm.trans own)
      simp [work, Stage.slot] at ending
  · rw [Trial.issued_turn sound ready]
    exact closed.past

/-- In a turn an action that waits goes on waiting for the same instant, or it starts at that instant. -/
theorem Waiting.turn (waiting : Waiting script ticket due t) (sound : t.Sound)
    (ready : t.desk.agenda.ready = job :: rest) :
    Waiting script ticket due (Trial.perform job (t.taken rest)) ∨
      Over ticket [.started due] (Trial.perform job (t.taken rest)) ∧
        due = t.now := by
  have named := waiting.named sound
  obtain ⟨stays, timers, now⟩ := turn_keeps sound ready
  have others := behind_ticket sound ready
  have untold : job.ticket ≠ ticket →
      (Trial.perform job (t.taken rest)).outcomes (toString ticket) = [] := fun other =>
    (Trial.outcomes_turn sound ready (Ne.symm other)).trans waiting.untold
  obtain ⟨quiet, place⟩ := waiting
  cases place with
  | asleep timer waits sleeper on =>
    have other : job.ticket ≠ ticket := by
      have := others timer.job (List.mem_append_right _ (List.mem_map_of_mem waits))
      rw [sleeper] at this
      exact Ne.symm this
    exact .inl ⟨untold other, .asleep timer (timers timer waits) sleeper on⟩
  | fresh member sum =>
    rw [ready, List.mem_cons] at member
    rcases member with rfl | behind
    · -- Its first turn: it lies down to sleep, unless its delay is over at once.
      left
      cases Trial.turned (t := t.taken rest) (sound.plain_first ready).1 with
      | starts script work _ _ => cases work
      | ends script work _ _ => cases work
      | waits script work desk events =>
        cases work
        refine ⟨?_, ?_⟩
        · rw [Trial.outcomes, events]
          exact quiet
        · rw [desk]
          show Place script ticket due ((t.desk.agenda.behind rest).waitUntil
            (t.desk.agenda.now.after script.delay) ⟨ticket, .run script⟩)
          unfold Agenda.waitUntil
          split
          · next elapsed =>
            have none_left : script.delay.nanos ≤ 0 := by
              simp only [Instant.after, Agenda.behind] at elapsed
              omega
            exact .awake (List.mem_append_right _ (List.mem_singleton_self _))
              (by simp only [Agenda.enqueue, Agenda.behind]; omega)
          · next later =>
            refine .asleep ⟨_, _⟩ (Agenda.mem_insertTimer.mpr (.inl rfl)) rfl ?_
            simp only [Instant.after, Agenda.behind] at later ⊢
            omega
    · have other : job.ticket ≠ ticket :=
        Ne.symm (others _ (List.mem_append_left _ behind))
      exact .inl ⟨untold other, .fresh (stays _ behind) (by rw [now]; exact sum)⟩
  | awake member on =>
    rw [ready, List.mem_cons] at member
    rcases member with rfl | behind
    · -- Its second turn: it starts, and no job is left that could be withdrawn.
      right
      refine ⟨⟨?_, ?_, ?_⟩, on.symm⟩
      · cases Trial.turned (t := t.taken rest) (sound.plain_first ready).1 with
        | waits script work _ _ => cases work
        | ends script work _ _ => cases work
        | starts script work _ events =>
          cases work
          obtain ⟨said, events, ended⟩ := events
          rw [named] at events ended
          have before : told (toString ticket) (t.taken rest).events = [] := quiet
          rw [Trial.outcomes, events, told_append, before, told_started ended, ← on]
          rfl
      · intro other there own
        rcases turn_jobs sound ready other there with old | ⟨_, _, ⟨work, _⟩ | ⟨_, next⟩⟩
        · exact absurd own (others other old)
        · cases work
        · rw [next]
          rfl
      · rw [Trial.issued_turn sound ready]
        exact sound.coherent.issued _ (by
          rw [List.nil_append, Agenda.jobs_of_ready ready]
          exact List.mem_cons_self ..)
    · have other : job.ticket ≠ ticket :=
        Ne.symm (others _ (List.mem_append_left _ behind))
      exact .inl ⟨untold other, .awake (stays _ behind) (by rw [now]; exact on)⟩

end Turns

/-! ## Time -/

section Time

theorem Over.withAgenda (closed : Over ticket outcomes t) {agenda : Agenda Stage}
    (jobs : agenda.jobs = t.desk.agenda.jobs) (issued : agenda.issued = t.desk.agenda.issued) :
    Over ticket outcomes (Trial.engine.withAgenda t agenda) := by
  refine ⟨closed.told, ?_, ?_⟩
  · show ∀ job ∈ agenda.jobs, _
    rw [jobs]
    exact closed.gone
  · show ticket < agenda.issued
    rw [issued]
    exact closed.past

/-- While nothing is ready, an action that waits sleeps. -/
theorem Waiting.sleeps (waiting : Waiting script ticket due t) (idle : t.desk.agenda.ready = []) :
    ∃ timer ∈ t.desk.agenda.timers, timer.job = ⟨ticket, .run script⟩ ∧ timer.due.nanos = due := by
  cases waiting.place with
  | fresh ready _ => simp [idle] at ready
  | awake ready _ => simp [idle] at ready
  | asleep timer waits job on => exact ⟨timer, waits, job, on⟩

/-- A timer that rings wakes the action whose timer it is. -/
theorem Waiting.ring (waiting : Waiting script ticket due t) (idle : t.desk.agenda.ready = [])
    {timer : Timer Stage} {rest : List (Timer Stage)} (soonest : t.desk.agenda.timers = timer :: rest) :
    Waiting script ticket due (Trial.engine.withAgenda t (t.desk.agenda.ring timer rest)) := by
  obtain ⟨own, member, job, on⟩ := waiting.sleeps idle
  refine ⟨waiting.untold, ?_⟩
  rw [soonest, List.mem_cons] at member
  rcases member with rfl | later
  · refine .awake ?_ on
    show ⟨ticket, .run script⟩ ∈ t.desk.agenda.ready ++ [own.job]
    rw [job]
    exact List.mem_append_right _ (List.mem_singleton_self _)
  · exact .asleep own later job on

/-- An action that waits, or has started when its delay was over. -/
def OnTime (script : Script) (ticket : Nat) (due : Int) (t : Trial) : Prop :=
  Waiting script ticket due t ∨
    Over ticket [.started due] t ∧ due ≤ t.now

theorem OnTime.turn {job : Job Stage} {rest : List (Job Stage)} (onTime : OnTime script ticket due t)
    (sound : t.Sound) (ready : t.desk.agenda.ready = job :: rest) :
    OnTime script ticket due (Trial.perform job (t.taken rest)) := by
  have now : (Trial.perform job (t.taken rest)).now = t.now :=
    congrArg (·.nanos) (turn_keeps sound ready).2.2
  rcases onTime with waiting | ⟨closed, past⟩
  · rcases waiting.turn sound ready with still | ⟨started, same⟩
    · exact .inl still
    · exact .inr ⟨started, Int.le_of_eq (same.trans now.symm)⟩
  · exact .inr ⟨closed.turn sound ready, by rw [now]; exact past⟩

theorem OnTime.ring {timer : Timer Stage} {rest : List (Timer Stage)} (onTime : OnTime script ticket due t)
    (sound : t.Sound) (idle : t.desk.agenda.ready = []) (soonest : t.desk.agenda.timers = timer :: rest) :
    OnTime script ticket due (Trial.engine.withAgenda t (t.desk.agenda.ring timer rest)) := by
  rcases onTime with waiting | ⟨closed, past⟩
  · exact .inl (waiting.ring idle soonest)
  · refine .inr ⟨closed.withAgenda (Agenda.jobs_ring soonest) rfl, Int.le_trans past ?_⟩
    exact sound.orderly.ahead timer (by rw [soonest]; exact List.mem_cons_self ..)

/-- No timer is due now. -/
def Ahead (t : Trial) : Prop := ∀ timer ∈ t.desk.agenda.timers, t.now < timer.due.nanos

theorem Ahead.turn {job : Job Stage} {rest : List (Job Stage)} (ahead : Ahead t) (sound : t.Sound)
    (ready : t.desk.agenda.ready = job :: rest) : Ahead (Trial.perform job (t.taken rest)) := by
  have waits : ∀ (due : Instant) (next : Job Stage),
      ∀ timer ∈ ((t.desk.agenda.behind rest).waitUntil due next).timers,
        t.now < timer.due.nanos := by
    intro due next timer member
    unfold Agenda.waitUntil at member
    split at member
    · exact ahead timer member
    · next later =>
      rcases Agenda.mem_insertTimer.mp member with rfl | old
      · exact Int.not_le.mp later
      · exact ahead timer old
  unfold Ahead Trial.now
  rw [(turn_keeps sound ready).2.2]
  cases Trial.turned (t := t.taken rest) (sound.plain_first ready).1 with
  | waits script work desk _ =>
    rw [desk]
    exact waits _ _
  | ends script work desk _ =>
    rw [desk]
    exact ahead
  | starts script work desk _ =>
    rcases desk with ends | ⟨span, runs⟩
    · rw [ends]
      exact ahead
    · rw [runs]
      exact waits _ _

/-- What turns and timers that ring keep in sound trials. -/
structure Lasting (kept : Trial → Prop) : Prop where
  turn : ∀ {t job rest}, t.Sound → kept t → t.desk.agenda.ready = job :: rest →
    kept (Trial.perform job (t.taken rest))
  ring : ∀ {t timer rest}, t.Sound → kept t → t.desk.agenda.ready = [] →
    t.desk.agenda.timers = timer :: rest →
    kept (Trial.engine.withAgenda t (t.desk.agenda.ring timer rest))

theorem OnTime.lasting : Lasting (OnTime script ticket due) :=
  ⟨fun sound onTime ready => onTime.turn sound ready,
    fun sound onTime idle soonest => onTime.ring sound idle soonest⟩

theorem Over.lasting : Lasting (Over ticket outcomes) :=
  ⟨fun sound closed ready => closed.turn sound ready,
    fun _ closed _ soonest => closed.withAgenda (Agenda.jobs_ring soonest) rfl⟩

theorem Lasting.settle {kept : Trial → Prop} (lasting : Lasting kept) (sound : t.Sound) (here : kept t) :
    kept t.settle := by
  refine (@Engine.settle_invariant _ _ Trial.engine (fun u => u.Sound ∧ kept u) ?_ t ⟨sound, here⟩).2
  rintro u job rest ⟨sound, here⟩ ready
  exact ⟨sound.turn ready, lasting.turn sound here ready⟩

/-- Settling leaves nothing ready and does not take time. -/
theorem settle_keeps (sound : t.Sound) (ahead : Ahead t) :
    t.settle.Sound ∧ Ahead t.settle ∧ t.settle.now = t.now ∧ t.settle.desk.agenda.ready = [] := by
  have kept : t.settle.Sound ∧ Ahead t.settle ∧ t.settle.now = t.now := by
    refine @Engine.settle_invariant _ _ Trial.engine
      (fun u => u.Sound ∧ Ahead u ∧ u.now = t.now) ?_ t ⟨sound, ahead, rfl⟩
    rintro u job rest ⟨sound, ahead, now⟩ ready
    exact ⟨sound.turn ready, ahead.turn sound ready,
      (congrArg (·.nanos) (turn_keeps sound ready).2.2).trans now⟩
  exact ⟨kept.1, kept.2.1, kept.2.2, Engine.settle_idle Trial.adequate sound⟩

/-- The trial at the end of an advance, before the clock is set. -/
def ran (t : Trial) (span : Span) : Trial :=
  Trial.engine.advanceWhile (fun _ => true) (.ofNanos (t.now + span.nanos)) t

theorem advance_eq (t : Trial) (span : Span) : t.advance span = Trial.engine.withAgenda (ran t span)
    { (ran t span).desk.agenda with now := .ofNanos (t.now + span.nanos) } := rfl

theorem Lasting.ran {kept : Trial → Prop} (lasting : Lasting kept) (sound : t.Sound) (here : kept t)
    (span : Span) : kept (ran t span) :=
  Engine.advanceWhile_invariant Trial.adequate lasting.turn
    (fun sound here idle soonest _ => lasting.ring sound here idle soonest) sound here

/-- An advance does everything that is due, in time. -/
theorem ran_keeps (sound : t.Sound) {span : Span} (forward : 0 ≤ span.nanos) :
    (ran t span).Sound ∧ (ran t span).now ≤ t.now + span.nanos ∧ (ran t span).desk.agenda.ready = [] ∧
      ∀ timer ∈ (ran t span).desk.agenda.timers, t.now + span.nanos < timer.due.nanos := by
  have settled : (ran t span).Sound ∧ (ran t span).now ≤ t.now + span.nanos := by
    refine @Engine.advanceWhile_invariant _ _ Trial.engine _ _ (fun _ => true) _ Trial.adequate
      (fun u => u.Sound ∧ u.now ≤ t.now + span.nanos) ?_ ?_ t sound ⟨sound, by omega⟩
    · rintro u job rest sound ⟨_, within⟩ ready
      refine ⟨sound.turn ready, ?_⟩
      have now : (Trial.perform job (u.taken rest)).now = u.now :=
        congrArg (·.nanos) (turn_keeps sound ready).2.2
      exact Int.le_trans (Int.le_of_eq now) within
    · rintro u timer rest sound _ idle soonest due
      exact ⟨sound.step (.wake idle soonest), due⟩
  obtain ⟨idle, quiet⟩ := Engine.advanceWhile_always Trial.adequate sound
    (.ofNanos (t.now + span.nanos))
  exact ⟨settled.1, settled.2, idle, settled.1.orderly.all_after quiet⟩

theorem advance_keeps (sound : t.Sound) {span : Span} (forward : 0 ≤ span.nanos) :
    (t.advance span).Sound ∧ Ahead (t.advance span) ∧ (t.advance span).now = t.now + span.nanos := by
  obtain ⟨settled, _, idle, later⟩ := ran_keeps sound forward
  refine ⟨?_, later, rfl⟩
  rw [advance_eq]
  refine ⟨settled.coherent.setClock _, ⟨settled.orderly.sorted, fun timer member => ?_⟩,
    settled.plain, settled.future⟩
  exact Int.le_of_lt (later timer member)

/-- When nothing is ready and no timer is due by `limit`, an action has started if its delay is over by
then, and waits otherwise. -/
theorem OnTime.resolve (onTime : OnTime script ticket due t) {limit : Int} (within : t.now ≤ limit)
    (idle : t.desk.agenda.ready = [])
    (later : ∀ timer ∈ t.desk.agenda.timers, limit < timer.due.nanos) :
    (due ≤ limit → Over ticket [.started due] t) ∧
      (limit < due → Waiting script ticket due t) := by
  constructor
  · intro elapsed
    rcases onTime with waiting | ⟨started, _⟩
    · obtain ⟨timer, member, _, on⟩ := waiting.sleeps idle
      have := later timer member
      omega
    · exact started
  · intro early
    rcases onTime with waiting | ⟨_, past⟩
    · exact waiting
    · omega

theorem Waiting.settle (waiting : Waiting script ticket due t) (sound : t.Sound) (ahead : Ahead t) :
    (due ≤ t.now → Over ticket [.started due] t.settle) ∧
      (t.now < due → Waiting script ticket due t.settle) := by
  obtain ⟨_, still, now, idle⟩ := settle_keeps sound ahead
  unfold Ahead at still
  rw [now] at still
  exact (OnTime.lasting.settle sound (.inl waiting)).resolve (Int.le_of_eq now) idle still

theorem Waiting.advance (waiting : Waiting script ticket due t) (sound : t.Sound) {span : Span}
    (forward : 0 ≤ span.nanos) :
    (due ≤ t.now + span.nanos → Over ticket [.started due] (t.advance span)) ∧
      (t.now + span.nanos < due → Waiting script ticket due (t.advance span)) := by
  obtain ⟨_, within, idle, later⟩ := ran_keeps sound forward
  obtain ⟨past, early⟩ := (OnTime.lasting.ran sound (.inl waiting) span).resolve within idle later
  refine ⟨fun due_by => (past due_by).withAgenda rfl rfl, fun due_after => ?_⟩
  obtain ⟨untold, _⟩ := early due_after
  obtain ⟨timer, member, job, on⟩ := (early due_after).sleeps idle
  exact ⟨untold, .asleep timer member job on⟩

end Time

/-! ## Withdrawals -/

section Withdrawals

variable {gone kept : Pending Callback} {after : Trial}

theorem Over.withdrew (closed : Over ticket outcomes t) (sound : t.Sound)
    (withdrew : Trial.Withdrew gone kept t after) : Over ticket outcomes after := by
  refine ⟨?_, ?_, ?_⟩
  · rw [withdrew.told, sound.withdrawals_other _ withdrew.inside, List.append_nil]
    · exact closed.told
    · exact fun entry member => closed.not_pending sound entry (withdrew.inside entry member)
  · exact fun job member own => closed.gone job (withdrew.mem_jobs.mp member).1 own
  · rw [withdrew.issued_eq]
    exact closed.past

/-- The entry of an action that waits. -/
def entryOf (script : Script) (ticket : Nat) : Entry Callback :=
  ⟨script.key, ticket, script.name, script.notice⟩

/-- A withdrawal of other entries leaves an action where it is. -/
theorem Waiting.spared (waiting : Waiting script ticket due t) (sound : t.Sound)
    (withdrew : Trial.Withdrew gone kept t after) (spared : entryOf script ticket ∉ gone) :
    Waiting script ticket due after := by
  have others : ∀ entry ∈ gone, entry.ticket ≠ ticket := by
    intro entry member same
    have own := sound.coherent.entry_of_ticket (withdrew.inside entry member)
      (waiting.pending sound) same
    rw [own] at member
    exact spared member
  refine ⟨?_, ?_⟩
  · rw [withdrew.told, sound.withdrawals_other _ withdrew.inside others, List.append_nil]
    exact waiting.untold
  · have unlisted : gone.all (·.ticket != ticket) = true := by
      rw [List.all_eq_true]
      exact fun entry member => bne_iff_ne.mpr (others entry member)
    rw [withdrew.agenda]
    cases waiting.place with
    | fresh ready sum => exact .fresh (List.mem_filter.mpr ⟨ready, unlisted⟩) sum
    | awake ready on => exact .awake (List.mem_filter.mpr ⟨ready, unlisted⟩) on
    | asleep timer waits job on =>
      exact .asleep timer (List.mem_filter.mpr ⟨waits, by rw [job]; exact unlisted⟩) job on

/-- What is told of a withdrawn action. -/
def withdrawnAt (script : Script) (now : Int) : List Outcome :=
  if script.notice = .nobody then [] else [.withdrawn now]

/-- A withdrawal of its entry is told once, and ends the action. -/
theorem Waiting.withdrawn (waiting : Waiting script ticket due t) (sound : t.Sound)
    (withdrew : Trial.Withdrew gone kept t after) (listed : entryOf script ticket ∈ gone)
    (once : gone.Nodup) : Over ticket (withdrawnAt script t.now) after := by
  have others : ∀ entry ∈ gone, entry ≠ entryOf script ticket → entry.ticket ≠ ticket := by
    intro entry member differs same
    exact differs (sound.coherent.entry_of_ticket (withdrew.inside entry member)
      (waiting.pending sound) same)
  refine ⟨?_, ?_, ?_⟩
  · obtain ⟨before, behind, split⟩ := List.append_of_mem listed
    rw [split] at once others
    have apart := List.nodup_append.mp once
    have own : Trial.withdrawal t.now (toString ticket) (entryOf script ticket) =
        withdrawnAt script t.now := by
      simp only [Trial.withdrawal, withdrawnAt, entryOf, waiting.named sound, true_and]
      by_cases silent : script.notice = .nobody <;> simp [silent]
    have inside : ∀ entry ∈ before ++ entryOf script ticket :: behind, entry ∈ t.desk.pending := by
      rw [← split]
      exact withdrew.inside
    have first : before.flatMap (Trial.withdrawal t.now (toString ticket)) = [] := by
      refine sound.withdrawals_other _
        (fun entry member => inside entry (List.mem_append_left _ member)) fun entry member => ?_
      exact others entry (List.mem_append_left _ member)
        (apart.2.2 entry member _ (List.mem_cons_self ..))
    have last : behind.flatMap (Trial.withdrawal t.now (toString ticket)) = [] := by
      refine sound.withdrawals_other _ (fun entry member => inside entry
        (List.mem_append_right _ (List.mem_cons_of_mem _ member))) fun entry member => ?_
      refine others entry (List.mem_append_right _ (List.mem_cons_of_mem _ member)) fun same => ?_
      exact (List.nodup_cons.mp apart.2.1).1 (same ▸ member)
    rw [withdrew.told, waiting.untold, split, List.flatMap_append, List.flatMap_cons, first, last, own]
    simp
  · intro job member own
    exact absurd own.symm ((withdrew.mem_jobs.mp member).2 _ listed)
  · rw [withdrew.issued_eq]
    exact waiting.issued sound

end Withdrawals

end EditorAssist.Debounce

import EditorAssist.Proofs.Session.Keeping

/-!
# What becomes of jobs

Work on the side adds work that stands by itself, and completions that wait for their delay are untouched by
it. So what is ready or waits after a turn was there before, or follows from the work that was done.
-/

namespace EditorAssist.Session

open EditorAssist.Backend EditorAssist.Debounce EditorAssist.Settings EditorAssist.Time EditorAssist.Wire

/-- Work that nobody waits for: the clearing of diagnostics and the first turn of a signal. -/
def Work.isIdle : Work → Bool
  | .delay _ _ (.clear _) => true
  | .animate _ => true
  | _ => false

/-- The completion that work waits to start. -/
def Work.awaited? : Work → Option CompletionJob
  | .delay _ _ (.complete job) => some job
  | .fire _ (.complete job) => some job
  | _ => none

/-- What work on the side leaves of an agenda. -/
structure Carried (s t : Session) : Prop where
  ready : ∀ job ∈ t.desk.agenda.ready, job ∈ s.desk.agenda.ready ∨ job.work.isIdle = true
  timers : ∀ timer ∈ t.desk.agenda.timers, timer ∈ s.desk.agenda.timers
  kept : ∀ job ∈ s.desk.agenda.ready, job.work.awaited? ≠ none → job ∈ t.desk.agenda.ready
  set : ∀ timer ∈ s.desk.agenda.timers, timer.job.work.awaited? ≠ none → timer ∈ t.desk.agenda.timers

section Aside

variable {hand : List (Job Work)} {s t u : Session}

theorem Carried.of_agenda (agenda : t.desk.agenda = s.desk.agenda) : Carried s t := by
  refine ⟨?_, ?_, ?_, ?_⟩ <;> rw [agenda]
  · exact fun job member => .inl member
  · exact fun timer member => member
  · exact fun job member _ => member
  · exact fun timer member _ => member

theorem Carried.trans (first : Carried s t) (second : Carried t u) : Carried s u where
  ready := fun job member => (second.ready job member).elim (first.ready job) .inr
  timers := fun timer member => first.timers timer (second.timers timer member)
  kept := fun job member awaited => second.kept job (first.kept job member awaited) awaited
  set := fun timer member awaited => second.set timer (first.set timer member awaited) awaited

/-- Jobs of some ticket are withdrawn, none of which waits to start a completion. -/
theorem Carried.cancel (ticket : Nat)
    (others : ∀ job ∈ s.desk.agenda.jobs, job.ticket = ticket → job.work.awaited? = none)
    (agenda : t.desk.agenda = s.desk.agenda.cancel ticket) : Carried s t := by
  refine ⟨?_, ?_, ?_, ?_⟩ <;> rw [agenda]
  · exact fun job member => .inl (List.mem_filter.mp member).1
  · exact fun timer member => (List.mem_filter.mp member).1
  · intro job member awaited
    refine List.mem_filter.mpr ⟨member, bne_iff_ne.mpr fun own => awaited ?_⟩
    exact others job (List.mem_append_left _ member) own
  · intro timer member awaited
    refine List.mem_filter.mpr ⟨member, bne_iff_ne.mpr fun own => awaited ?_⟩
    exact others timer.job (List.mem_append_right _ (List.mem_map_of_mem member)) own

/-- Idle work is added. -/
theorem Carried.spawn {agenda : Agenda Work} {work : Work} (idle : work.isIdle = true)
    (before : s.desk.agenda = agenda) (spawned : t.desk.agenda = (agenda.spawn work).1) : Carried s t := by
  refine ⟨?_, ?_, ?_, ?_⟩ <;> rw [spawned, before]
  · intro job member
    rcases List.mem_append.mp member with old | new
    · exact .inl old
    · rw [List.mem_singleton.mp new]
      exact .inr idle
  · exact fun timer member => member
  · exact fun job member _ => List.mem_append_left _ member
  · exact fun timer member _ => member

/-- What waits for its delay stands under its own key. -/
theorem awaited?_of_slot {work : Work} {key : String} {action : DelayedAction}
    (slot : work.slot = some (key, action)) (clear : ∃ uri, action = .clear uri) : work.awaited? = none := by
  obtain ⟨uri, rfl⟩ := clear
  cases work <;> simp only [Work.slot, Option.some.injEq, Prod.mk.injEq, reduceCtorEq] at slot <;>
    rw [slot.2] <;> rfl

theorem Carried.disarm (sound : Sound hand s) (uri : String) :
    Carried s { s with desk := (s.desk.cancel (diagnosticsKey uri)).1 } := by
  rcases s.desk.cancel_cases (diagnosticsKey uri) with ⟨_, same⟩ | ⟨entry, pending, own, gone⟩
  · exact .of_agenda (by rw [same])
  · refine .cancel entry.ticket ?_ (by rw [gone])
    intro job member ticket
    have slot := sound.coherent.slot_of_ticket pending (List.mem_append_right _ member) ticket
    exact awaited?_of_slot slot (DelayedAction.eq_clear ((sound.key_of_entry pending).symm.trans own))

theorem Micro.carried {deeds : List Deed} (step : Micro hand s deeds t) (sound : Sound hand s) :
    Carried s t := by
  cases step with
  | note sink requested tokens flag exits => exact .of_agenda rfl
  | edit documents => exact .of_agenda rfl
  | call name provider topic => exact .of_agenda rfl
  | say m silent =>
    obtain ⟨sink, sent⟩ := send_eq s m
    rw [sent]
    exact .of_agenda rfl
  | arm uri span =>
    obtain ⟨sink, same⟩ := arm_eq sound uri span
    rw [same, sound.coherent.schedule_eq]
    exact (Carried.disarm sound uri).trans (.spawn rfl rfl rfl)
  | disarm uri =>
    obtain ⟨sink, same⟩ := disarm_eq sound uri
    rw [same]
    exact (Carried.disarm sound uri).trans (.of_agenda rfl)
  | start signal slow => exact .spawn rfl rfl rfl
  | stop ticket signal =>
    refine .cancel ticket (fun job member own => ?_) rfl
    have other := signal.signal job (List.mem_append_right _ member) own
    cases work : job.work <;> simp_all [Work.isSignal, Work.awaited?]

theorem Does.carried {arms starts : Nat} {topics : List Topic} (does : Does hand s arms starts topics t)
    (sound : Sound hand s) : Carried s t := by
  obtain ⟨deeds, aside, -⟩ := does
  induction aside with
  | nil s => exact .of_agenda rfl
  | cons step _ ih => exact (step.carried sound).trans (ih (step.sound sound))

end Aside

/-! ## Turns -/

/-- What can be ready after a turn of some work that was not ready before. -/
inductive Follows (settings : Settings) (now : Instant) (work : Work) : Work → Prop
  | idle {next : Work} (idle : next.isIdle = true) : Follows settings now work next
  | succeeds {next : Work} (succeeds : Succeeds settings now work next) : Follows settings now work next
  | delayed {number : Nat} {message : Message} {job : CompletionJob}
      (own : work = .handle number .completion message) :
      Follows settings now work (.delay completionKey (.ofMillis settings.debounce) (.complete job))
  | fires {key : String} {span : Span} {action : DelayedAction} (own : work = .delay key span action) :
      Follows settings now work (.fire key action)
  | ticks {next : Work} (own : work.isSignal = true) (signal : next.isSignal = true) :
      Follows settings now work next

/-- What can wait for an instant after a turn of some work that did not wait before. -/
inductive FollowsAt (settings : Settings) (now : Instant) (work : Work) (due : Instant) : Work → Prop
  | succeeds {next : Work} (succeeds : Succeeds settings now work next) (may : next.MayWait due) :
      FollowsAt settings now work due next
  | fires {key : String} {span : Span} {action : DelayedAction} (own : work = .delay key span action)
      (then_ : due = now.after span) : FollowsAt settings now work due (.fire key action)
  | ticks {next : Work} (own : work.isSignal = true) (signal : next.isSignal = true) :
      FollowsAt settings now work due next

/-- Every job of a session was there before, or follows from the work that was done. -/
structure Succession (settings : Settings) (now : Instant) (work : Work) (s t : Session) : Prop where
  ready : ∀ job ∈ t.desk.agenda.ready,
    job ∈ s.desk.agenda.ready ∨ Follows settings now work job.work
  timers : ∀ timer ∈ t.desk.agenda.timers,
    timer ∈ s.desk.agenda.timers ∨ FollowsAt settings now work timer.due timer.job.work

section Turns

variable {hand : List (Job Work)} {s t u : Session} {settings : Settings} {now due : Instant} {ticket : Nat}
  {work next : Work}

theorem Carried.succession (carried : Carried s t) : Succession settings now work s t :=
  ⟨fun job member => (carried.ready job member).imp_right .idle,
    fun timer member => .inl (carried.timers timer member)⟩

theorem Succession.enqueue (before : Succession settings now work s t) (follows : Follows settings now work next) :
    Succession settings now work s (t.enqueue ticket next) := by
  refine ⟨fun job member => ?_, before.timers⟩
  rcases List.mem_append.mp member with old | new
  · exact before.ready job old
  · rw [List.mem_singleton.mp new]
    exact .inr follows

theorem Succession.spawn (before : Succession settings now work s t) (follows : Follows settings now work next) :
    Succession settings now work s (t.spawn next).1 := by
  refine ⟨fun job member => ?_, before.timers⟩
  rcases List.mem_append.mp member with old | new
  · exact before.ready job old
  · rw [List.mem_singleton.mp new]
    exact .inr follows

theorem Succession.waitUntil (before : Succession settings now work s t)
    (follows : Follows settings now work next) (later : FollowsAt settings now work due next) :
    Succession settings now work s (t.waitUntil due ticket next) := by
  have lined : Succession settings now work s (t.enqueue ticket next) := before.enqueue follows
  unfold Session.waitUntil Session.mapAgenda Agenda.waitUntil
  dsimp only
  split
  · exact lined
  · refine ⟨before.ready, fun timer member => ?_⟩
    rcases Agenda.mem_insertTimer.mp member with rfl | old
    · exact .inr later
    · exact before.timers timer old

/-- What withdrawals leave was there before. -/
theorem Succession.of_fewer (ready : t.desk.agenda.ready ⊆ s.desk.agenda.ready)
    (timers : t.desk.agenda.timers ⊆ s.desk.agenda.timers) : Succession settings now work s t :=
  ⟨fun _ member => .inl (ready member), fun _ member => .inl (timers member)⟩

theorem Succession.of_agenda (before : Succession settings now work s t)
    (agenda : u.desk.agenda = t.desk.agenda) : Succession settings now work s u :=
  ⟨agenda ▸ before.ready, agenda ▸ before.timers⟩

theorem Succession.cancelled (s : Session) (key : String) :
    Succession settings now work s { s with desk := (s.desk.cancel key).1 } := by
  rcases s.desk.cancel_cases key with ⟨_, same⟩ | ⟨entry, _, _, gone⟩
  · exact .of_fewer (by rw [same]; exact List.Subset.refl _) (by rw [same]; exact List.Subset.refl _)
  · exact .of_fewer (by rw [gone]; exact List.filter_subset_self _) (by rw [gone]; exact List.filter_subset_self _)

theorem Succession.cancelledAll (s : Session) :
    Succession settings now work s s.cancelAllPending := by
  obtain ⟨sink, outbox, invocations, same⟩ :=
    foldl_withdrawn_eq s.desk.cancelAll.2 { s with desk := s.desk.cancelAll.1 }
  have agenda : s.cancelAllPending.desk.agenda = s.desk.cancelAll.1.agenda := by
    show (s.desk.cancelAll.2.foldl Session.withdrawn { s with desk := s.desk.cancelAll.1 }).desk.agenda = _
    rw [same]
  rw [Desk.cancelAll, agenda_foldl_withdraw] at agenda
  exact .of_fewer (by rw [agenda]; exact List.filter_subset_self _) (by rw [agenda]; exact List.filter_subset_self _)

theorem Effect.succession (effect : Effect hand s ticket work t) (sound : Sound hand s) :
    Succession s.settings s.now work s t := by
  cases effect with
  | silent _ does => exact (does.carried sound).succession.of_agenda rfl
  | @answers _ _ _ mid _ m _ _ does _ _ after =>
    obtain ⟨sink, sent⟩ := send_eq mid m
    have soundly : Sound hand (mid.send m) := by
      rw [sent]
      exact (does.keeps sound).1.of_desk rfl rfl
    have told : Carried mid (mid.send m) := .of_agenda (by rw [sent])
    exact ((does.carried sound).trans (told.trans (after.carried soundly))).succession.of_agenda rfl
  | @goesOn _ mid _ _ does _ succeeds _ placed =>
    have carried : Succession s.settings s.now work s mid := (does.carried sound).succession
    cases placed with
    | lined => exact carried.enqueue (.succeeds succeeds)
    | spawned => exact carried.spawn (.succeeds succeeds)
    | waits due prompt => exact carried.waitUntil (.succeeds succeeds) (.succeeds succeeds prompt)
  | @delays number message params document own _ _ =>
    rw [schedule_eq sound]
    obtain ⟨sink, outbox, invocations, same⟩ := foldl_withdrawn_eq (s.desk.cancel completionKey).2.toList
      { s with
        desk := (s.desk.cancel completionKey).1.add completionKey
          (.delay completionKey (.ofMillis s.settings.debounce)
            (.complete ⟨number, message.id, params, document.version⟩))
          (.complete ⟨number, message.id, params, document.version⟩) }
    rw [same]
    exact ((Succession.cancelled s completionKey).spawn (.delayed own)).of_agenda rfl
  | @shutsDown number message _ =>
    obtain ⟨sink, same⟩ := shutdown_eq s message
    have cancelled : Succession s.settings s.now work s.closing s.closing.cancelAllPending :=
      .cancelledAll s.closing
    have whole : Succession s.settings s.now work s s.closing.cancelAllPending :=
      ⟨cancelled.ready, cancelled.timers⟩
    refine whole.of_agenda ?_
    show (s.shutdown message).desk.agenda = _
    rw [same]
  | clears _ does => exact (does.carried sound).succession
  | ticks own does signal _ _ =>
    exact (does.carried sound).succession.waitUntil (.ticks own signal) (.ticks own signal)

/-- What is ready or waits after a turn. -/
theorem turn_succession {job : Job Work} {rest : List (Job Work)} (sound : Sound [] s)
    (ready : s.desk.agenda.ready = job :: rest) :
    Succession s.settings s.now job.work (s.taken rest) (perform job (s.taken rest)) := by
  obtain ⟨ticket, work⟩ := job
  rcases work.delay_or with ⟨key, span, action, rfl⟩ | starts
  · have nothing : Succession s.settings s.now (.delay key span action) (s.taken rest) (s.taken rest) :=
      .of_fewer (List.Subset.refl _) (List.Subset.refl _)
    exact nothing.waitUntil (.fires rfl) (.fires rfl rfl)
  · have effect := (perform_effect sound ready starts).succession (sound.begun ready starts)
    have begun : (s.begun ⟨ticket, work⟩ rest).settings = s.settings ∧
        (s.begun ⟨ticket, work⟩ rest).now = s.now ∧
        (s.begun ⟨ticket, work⟩ rest).desk.agenda = (s.taken rest).desk.agenda := by
      cases work <;> exact ⟨rfl, rfl, rfl⟩
    rw [begun.1, begun.2.1] at effect
    exact ⟨begun.2.2 ▸ effect.ready, begun.2.2 ▸ effect.timers⟩

end Turns

end EditorAssist.Session

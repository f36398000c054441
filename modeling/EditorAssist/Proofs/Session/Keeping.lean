import EditorAssist.Proofs.Session.Handling

/-!
# Sessions stay sound

Every turn and every message leaves a session sound, and so does the clock.
-/

namespace EditorAssist.Session

open EditorAssist.Debounce EditorAssist.Journal EditorAssist.Payload EditorAssist.Settings
open EditorAssist.Time EditorAssist.Wire

/-! ## Withdrawing -/

section Withdrawing

variable {hand : List (Job Work)} {s t : Session}

/-- The answer to a completion without items. -/
def noItems (id : Option RequestId) : Outbound :=
  .response id (CompletionList.codec.write ⟨false, []⟩)

/-- A completion that is withdrawn is answered without items, and its handler comes to its end. -/
theorem withdrawn_complete (s : Session) {entry : Entry DelayedAction} {job : CompletionJob}
    (callback : entry.callback = .complete job) :
    ∃ sink, s.withdrawn entry =
      { s with
        sink
        outbox := s.outbox ++ [noItems job.id]
        invocations := (s.finish job.invocation).invocations } := by
  unfold withdrawn
  rw [callback]
  obtain ⟨sink, sent⟩ := send_eq ((s.log .debug "debounce" "debounced action cancelled"
    [("key", .text entry.key)]).log .debug "handler.completion" "completion superseded"
      [("id", idTag job.id)]) (noItems job.id)
  refine ⟨sink, ?_⟩
  rw [noItems] at sent
  dsimp only
  rw [respondItems, respond, sent]
  rfl

/-- Whoever is told of a withdrawal touches neither the agenda nor the table. -/
theorem withdrawn_eq (s : Session) (entry : Entry DelayedAction) :
    ∃ sink outbox invocations, s.withdrawn entry = { s with sink, outbox, invocations } := by
  cases callback : entry.callback with
  | clear uri =>
    obtain ⟨sink, same⟩ := withdrawn_clear s callback
    exact ⟨sink, _, _, same⟩
  | complete job =>
    obtain ⟨sink, same⟩ := withdrawn_complete s callback
    exact ⟨sink, _, _, same⟩

theorem foldl_withdrawn_eq (entries : List (Entry DelayedAction)) (s : Session) :
    ∃ sink outbox invocations, entries.foldl withdrawn s = { s with sink, outbox, invocations } := by
  induction entries generalizing s with
  | nil => exact ⟨_, _, _, rfl⟩
  | cons entry rest ih =>
    obtain ⟨sink, outbox, invocations, one⟩ := withdrawn_eq s entry
    rw [List.foldl_cons, one]
    exact ih _

/-- Scheduling withdraws what was pending for the key. -/
theorem schedule_eq (sound : Sound hand s) (key : String) (span : Span) (action : DelayedAction) :
    s.schedule key span action = (s.desk.cancel key).2.toList.foldl Session.withdrawn
      { s with desk := (s.desk.cancel key).1.add key (.delay key span action) action } := by
  unfold schedule
  rw [sound.coherent.schedule_eq]
  dsimp only
  cases (s.desk.cancel key).2 <;> rfl

theorem Sound.withdrawn (sound : Sound hand s) (entry : Entry DelayedAction) :
    Sound hand (s.withdrawn entry) := by
  obtain ⟨sink, outbox, invocations, same⟩ := withdrawn_eq s entry
  rw [same]
  exact sound.of_desk rfl rfl

/-- Scheduling an action under its key, with the withdrawal of another. -/
theorem Sound.scheduled (sound : Sound hand s) {key : String} {action : DelayedAction} (span : Span)
    (own : key = action.key) : Sound hand (s.schedule key span action) := by
  have scheduled := sound.schedule span own
  unfold Session.schedule
  dsimp only
  split
  · exact scheduled
  · exact scheduled.withdrawn _

theorem Sound.cancelAllPending (sound : Sound hand s) : Sound hand s.cancelAllPending := by
  obtain ⟨sink, outbox, invocations, same⟩ :=
    foldl_withdrawn_eq s.desk.cancelAll.2 { s with desk := s.desk.cancelAll.1 }
  show Sound hand (s.desk.cancelAll.2.foldl Session.withdrawn { s with desk := s.desk.cancelAll.1 })
  rw [same]
  exact sound.cancelAll.of_desk rfl rfl

/-- A session that withdraws whatever is delayed because it is to shut down. -/
def closing (s : Session) : Session :=
  { s.log .info "lsp.service" "received shutdown request" [] with shutdownRequested := true }

/-- The answer to a shutdown. -/
def goodbye (message : Message) : List Outbound :=
  if message.id.isSome then [.response message.id .null] else []

/-- A shutdown withdraws whatever is delayed and is answered if it has an id. -/
theorem shutdown_eq (s : Session) (message : Message) :
    ∃ sink, s.shutdown message =
      { s.closing.cancelAllPending with
        sink, outbox := s.closing.cancelAllPending.outbox ++ goodbye message } := by
  unfold shutdown goodbye
  dsimp only
  split
  · obtain ⟨sink, sent⟩ := send_eq s.closing.cancelAllPending (.response message.id .null)
    exact ⟨sink, sent⟩
  · refine ⟨s.closing.cancelAllPending.sink, ?_⟩
    rw [List.append_nil]
    rfl

end Withdrawing

/-! ## Turns -/

section Turns

variable {s t : Session} {ticket : Nat} {work next : Work}

/-- Work that is over leaves nothing behind. -/
theorem Sound.leave (sound : Sound [⟨ticket, work⟩] s) : Sound [] s := by
  have plain := sound.plain _ (List.mem_singleton_self _)
  refine sound.of_jobs (sound.coherent.drop plain) (by simp) sound.orderly rfl (Nat.le_refl _) ?_
  exact fun job member => .inl (List.mem_cons_of_mem _ member)

theorem Owned.of_stops {hand : List (Job Work)}
    (owned : ∀ active, work.active? = some active → Owned hand s active) {number : Nat}
    (stops : work.stops? = some number) : OfSignal hand s number := by
  obtain ⟨active, shows, running⟩ := Option.bind_eq_some_iff.mp stops
  obtain ⟨ticking, on, rfl⟩ := Option.map_eq_some_iff.mp running
  exact owned active shows ticking on

/-- The work of a signal cannot be withdrawn and stops no other signal. -/
theorem Work.plain_of_isSignal (signal : work.isSignal = true) :
    work.slot = none ∧ work.active? = none ∧ work.begun = work := by
  cases work <;> first | exact ⟨rfl, rfl, rfl⟩ | cases signal

/-- Work may go on under its ticket as other work of its sort. -/
theorem Sound.becomes (sound : Sound [⟨ticket, work⟩] s) (plain : next.slot = none) (proper : next.Proper)
    (stops : ∀ active, next.active? = some active → Owned [⟨ticket, work⟩] s active)
    (like : next.isSignal = work.isSignal) : Sound [⟨ticket, next⟩] s := by
  have slotless := sound.plain _ (List.mem_singleton_self _)
  have signal : ∀ number, OfSignal [⟨ticket, work⟩] s number → OfSignal [⟨ticket, next⟩] s number := by
    rintro number ⟨issued, own⟩
    refine ⟨issued, fun job member same => ?_⟩
    rcases List.mem_cons.mp member with rfl | there
    · rw [like]
      exact own ⟨ticket, work⟩ (List.mem_cons_self ..) same
    · exact own job (List.mem_cons_of_mem _ there) same
  refine sound.of_jobs (sound.coherent.become (plain.trans slotless.symm)) ?_ sound.orderly rfl
    (Nat.le_refl _) ?_
  · intro job member
    rw [List.mem_singleton.mp member]
    exact plain
  · intro job member
    rcases List.mem_cons.mp member with rfl | there
    · refine .inr ⟨proper, fun number stopped => ?_, fun _ => ?_⟩
      · exact signal _ (Owned.of_stops stops stopped)
      · exact ⟨⟨ticket, work⟩, List.mem_cons_self .., rfl, like.symm⟩
    · exact .inl (List.mem_cons_of_mem _ there)

/-- Work in hand may be put on the agenda. -/
theorem Sound.put {agenda : Agenda Work} (sound : Sound [⟨ticket, work⟩] s)
    (coherent : Coherent Work.slot [] { s.desk with agenda }) (orderly : agenda.Orderly)
    (issued : agenda.issued = s.desk.agenda.issued)
    (jobs : agenda.jobs.Perm (⟨ticket, work⟩ :: s.desk.agenda.jobs)) :
    Sound [] (s.mapAgenda fun _ => agenda) :=
  sound.of_jobs coherent (by simp) orderly rfl (Nat.le_of_eq issued.symm)
    fun _ member => .inl (jobs.mem_iff.mp member)

theorem Sound.waits (sound : Sound [⟨ticket, work⟩] s) (due : Instant) :
    Sound [] (s.waitUntil due ticket work) :=
  sound.put (sound.coherent.wait due) (sound.orderly.waitUntil _ _) (Agenda.issued_waitUntil _ _)
    (Agenda.jobs_waitUntil _ _)

theorem Sound.lined (sound : Sound [⟨ticket, work⟩] s) : Sound [] (s.enqueue ticket work) :=
  sound.put sound.coherent.enqueue (sound.orderly.of_timers rfl rfl) rfl (Agenda.jobs_enqueue _)

/-- Work that goes on cannot be withdrawn, and is not that of a signal. -/
theorem Succeeds.plain {settings : Settings} {now : Instant} (succeeds : Succeeds settings now work next) :
    next.slot = none ∧ next.isSignal = false ∧ next.Proper ∧ work.begun.isSignal = false := by
  cases succeeds <;> refine ⟨rfl, rfl, trivial, rfl⟩

/-- What some work leads to is sound. -/
theorem Sound.effect (sound : Sound [⟨ticket, work.begun⟩] s)
    (effect : Effect [⟨ticket, work.begun⟩] s ticket work t) : Sound [] t := by
  cases effect with
  | silent _ does => exact (does.keeps sound).1.leave.of_desk rfl rfl
  | @answers _ _ _ mid _ m _ _ does _ _ after =>
    have before : Sound [⟨ticket, work.begun⟩] (mid.send m) := by
      obtain ⟨sink, sent⟩ := send_eq mid m
      rw [sent]
      exact (does.keeps sound).1.of_desk rfl rfl
    exact (after.keeps before).1.leave.of_desk rfl rfl
  | @goesOn _ mid _ next does _ succeeds owned placed =>
    obtain ⟨plain, other, proper, same⟩ := succeeds.plain
    have kept := (does.keeps sound).1
    have later := kept.becomes plain proper owned (by rw [other, same])
    cases placed with
    | lined => exact later.lined
    | waits due => exact later.waits due
    | spawned =>
      have grown : Sound [⟨ticket, work.begun⟩] (mid.spawn next).1 :=
        kept.spawned (kept.coherent.spawn plain) rfl proper fun _ => Owned.of_stops owned
      exact grown.leave
  | @delays number message params document _ _ _ =>
    have own : completionKey =
        (DelayedAction.complete ⟨number, message.id, params, document.version⟩).key := rfl
    exact (sound.scheduled _ own).leave
  | @shutsDown number message _ =>
    obtain ⟨sink, same⟩ := shutdown_eq s message
    rw [same]
    have noted := (sound.leave.of_desk rfl rfl : Sound [] (s.closing))
    exact noted.cancelAllPending.of_desk rfl rfl
  | clears _ does => exact (does.keeps sound).1.leave
  | @ticks mid span next own does signal proper _ =>
    obtain ⟨plain, silent, _⟩ := Work.plain_of_isSignal signal
    obtain ⟨_, _, same⟩ := Work.plain_of_isSignal own
    have kept := (does.keeps sound).1
    have stops : ∀ active, next.active? = some active → Owned [⟨ticket, work.begun⟩] mid active := by
      intro active shows
      rw [silent] at shows
      cases shows
    exact (kept.becomes plain proper stops (by rw [same, own, signal])).waits _

/-- A turn changes neither the settings nor the clock. -/
theorem Effect.steady {hand : List (Job Work)} (sound : Sound hand s) (effect : Effect hand s ticket work t) :
    t.settings = s.settings ∧ t.now = s.now := by
  have aside : ∀ {mid : Session} {arms starts : Nat} {topics : List Backend.Topic},
      Does hand s arms starts topics mid → mid.settings = s.settings ∧ mid.now = s.now :=
    fun does => ⟨(does.keeps sound).2.settings, (does.keeps sound).2.now⟩
  cases effect with
  | silent _ does =>
    obtain ⟨settings, now⟩ := aside does
    exact ⟨settings, now⟩
  | @answers _ _ _ mid _ m _ _ does _ _ after =>
    obtain ⟨sink, sent⟩ := send_eq mid m
    have before : Sound hand (mid.send m) := by
      rw [sent]
      exact (does.keeps sound).1.of_desk rfl rfl
    have kept := (after.keeps before).2
    have settings := kept.settings
    have now := kept.now
    rw [sent] at settings now
    exact ⟨settings.trans (aside does).1, now.trans (aside does).2⟩
  | goesOn does _ _ _ placed =>
    obtain ⟨settings, now⟩ := aside does
    cases placed with
    | lined => exact ⟨settings, now⟩
    | spawned => exact ⟨settings, now⟩
    | waits due => exact ⟨settings, (Agenda.now_waitUntil _ _).trans now⟩
  | delays _ _ _ =>
    rw [schedule_eq sound]
    obtain ⟨sink, outbox, invocations, same⟩ := foldl_withdrawn_eq (s.desk.cancel completionKey).2.toList
      { s with desk := (s.desk.cancel completionKey).1.add completionKey (.delay completionKey _ _) _ }
    rw [same]
    exact ⟨rfl, s.desk.now_cancel _⟩
  | @shutsDown number message _ =>
    obtain ⟨sink, same⟩ := shutdown_eq s message
    obtain ⟨_, outbox, invocations, cancelled⟩ := foldl_withdrawn_eq s.closing.desk.cancelAll.2
      { s.closing with desk := s.closing.desk.cancelAll.1 }
    rw [same]
    show s.closing.cancelAllPending.settings = _ ∧ s.closing.cancelAllPending.now = _
    have all : s.closing.cancelAllPending = _ := cancelled
    rw [all]
    refine ⟨rfl, ?_⟩
    show (s.desk.pending.foldl Desk.withdraw { s.desk with pending := [] }).agenda.now = _
    rw [agenda_foldl_withdraw]
    rfl
  | clears _ does => exact aside does
  | ticks _ does =>
    obtain ⟨settings, now⟩ := aside does
    exact ⟨settings, (Agenda.now_waitUntil _ _).trans now⟩

/-- Work is the delay of an action that begins, or not. -/
theorem Work.delay_or (work : Work) : (∃ key span action, work = .delay key span action) ∨
    ∀ key span action, work ≠ .delay key span action := by
  cases work with
  | delay key span action => exact .inl ⟨key, span, action, rfl⟩
  | _ => exact .inr fun _ _ _ => nofun

/-- The first job that is ready is done. -/
theorem Sound.turn {job : Job Work} {rest : List (Job Work)} (sound : Sound [] s)
    (ready : s.desk.agenda.ready = job :: rest) : Sound [] (perform job (s.taken rest)) := by
  obtain ⟨ticket, work⟩ := job
  rcases work.delay_or with ⟨key, span, action, rfl⟩ | starts
  · have held := sound.coherent.take ready
    have first : ⟨ticket, .delay key span action⟩ ∈ s.desk.agenda.jobs := by
      rw [Agenda.jobs_of_ready ready]
      exact List.mem_cons_self ..
    have fires : Coherent Work.slot [⟨ticket, .fire key action⟩] (s.taken rest).desk :=
      held.become rfl
    have orderly : (s.taken rest).desk.agenda.Orderly := sound.orderly.of_timers rfl rfl
    refine sound.of_jobs (fires.wait _) (by simp) (orderly.waitUntil _ _) rfl ?_ ?_
    · show s.desk.agenda.issued ≤ ((s.taken rest).desk.agenda.waitUntil _ _).issued
      rw [Agenda.issued_waitUntil]
      exact Nat.le_refl _
    intro job member
    rcases List.mem_cons.mp ((Agenda.jobs_waitUntil _ _).mem_iff.mp member) with rfl | there
    · have own : (Work.delay key span action).Proper := sound.proper _ first
      exact .inr ⟨own, by rintro _ ⟨⟩, fun _ => ⟨_, first, rfl, rfl⟩⟩
    · refine .inl ?_
      show job ∈ s.desk.agenda.jobs
      rw [Agenda.jobs_of_ready ready]
      exact List.mem_cons_of_mem _ there
  · exact (sound.begun ready starts).effect (perform_effect sound ready starts)

theorem turn_steady {job : Job Work} {rest : List (Job Work)} (sound : Sound [] s)
    (ready : s.desk.agenda.ready = job :: rest) :
    (perform job (s.taken rest)).settings = s.settings ∧ (perform job (s.taken rest)).now = s.now := by
  obtain ⟨ticket, work⟩ := job
  rcases work.delay_or with ⟨key, span, action, rfl⟩ | starts
  · exact ⟨rfl, Agenda.now_waitUntil _ _⟩
  · have begun : (s.begun ⟨ticket, work⟩ rest).settings = s.settings ∧
        (s.begun ⟨ticket, work⟩ rest).now = s.now := by cases work <;> exact ⟨rfl, rfl⟩
    obtain ⟨settings, now⟩ := (perform_effect sound ready starts).steady (sound.begun ready starts)
    exact ⟨settings.trans begun.1, now.trans begun.2⟩

end Turns

/-! ## The clock -/

section Clock

variable {s : Session}

theorem Sound.ring {timer : Timer Work} {rest : List (Timer Work)} (sound : Sound [] s)
    (soonest : s.desk.agenda.timers = timer :: rest) : Sound [] (s.mapAgenda (·.ring timer rest)) := by
  refine sound.of_jobs (sound.coherent.ring soonest) (by simp) (sound.orderly.ring soonest) rfl
    (Nat.le_refl _) fun job member => .inl ?_
  show job ∈ s.desk.agenda.jobs
  rw [← Agenda.jobs_ring soonest]
  exact member

/-- The clock may be set as long as no timer is passed over. -/
theorem Sound.setClock {instant : Instant} (sound : Sound [] s)
    (quiet : s.desk.agenda.wake? instant = none) :
    Sound [] (s.mapAgenda fun agenda => { agenda with now := instant }) := by
  have orderly : ({ s.desk.agenda with now := instant } : Agenda Work).Orderly :=
    ⟨sound.orderly.sorted, fun timer member => Int.le_of_lt (sound.orderly.all_after quiet timer member)⟩
  exact sound.of_jobs (sound.coherent.setClock instant) (by simp) orderly rfl (Nat.le_refl _)
    fun job member => .inl member

end Clock

/-! ## Messages -/

section Messages

variable {s : Session}

/-- The handler that takes care of a message, if there is one. -/
def handler? (m : Message) : Option Handler := m.method.bind Handler.ofMethod?

/-- What a request is told whose method nobody takes care of. -/
def unknown (m : Message) : List Outbound :=
  match m.method, m.id with
  | some method, some id => [.refusal (some id) (.methodNotFound ("Method Not Found: " ++ method))]
  | _, _ => []

/-- A message is handed to its handler; without one a request is refused. -/
theorem handle_cases (own : s.added = []) (m : Message) :
    (∃ sink handler, handler? m = some handler ∧ s.handle m = invoke m { s with sink } handler) ∨
      ∃ sink, handler? m = none ∧ s.handle m = { s with sink, outbox := s.outbox ++ unknown m } := by
  unfold handle
  cases called : m.method with
  | none =>
    have silent : unknown m = [] := by rw [unknown, called]
    refine .inr ?_
    rw [silent, List.append_nil, handler?, called]
    dsimp only
    split
    · exact ⟨_, rfl, rfl⟩
    · exact ⟨_, rfl, rfl⟩
  | some method =>
    unfold handleCall
    dsimp only
    generalize noting : (if quietMethods.contains method = true then _ else _) = noted
    have same : ∃ sink, noted = { s with sink } := by
      rw [← noting]
      split
      · exact ⟨s.sink, rfl⟩
      · exact ⟨_, rfl⟩
    obtain ⟨sink, rfl⟩ := same
    have handlers : ({ s with sink } : Session).handlersFor method = (Handler.ofMethod? method).toList := by
      simp [handlersFor, own]
    have handler : handler? m = Handler.ofMethod? method := by rw [handler?, called, Option.bind_some]
    rw [handlers, handler, emit, called, Option.getD_some, handlers]
    cases known : Handler.ofMethod? method with
    | some handler => exact .inl ⟨sink, handler, rfl, rfl⟩
    | none =>
      refine .inr ?_
      rw [unknown, called]
      cases named : m.id with
      | none =>
        rw [List.append_nil]
        exact ⟨_, rfl, rfl⟩
      | some id =>
        obtain ⟨later, sent⟩ := send_eq (({ s with sink } : Session).log .warn "lsp.service" "method not found"
          [("method", .text method)]) (.refusal (some id) (.methodNotFound ("Method Not Found: " ++ method)))
        refine ⟨later, rfl, ?_⟩
        simp only [Option.toList_none, List.isEmpty_nil, Option.isSome_some, if_true, refuse]
        exact sent

/-- No handler was added to those that every session has. -/
theorem ofMethod?_ne_scripted {method : String} {script : HandlerScript} :
    Handler.ofMethod? method ≠ some (.scripted script) := by
  unfold Handler.ofMethod?
  split <;> exact nofun

/-- Messages leave a session sound. -/
theorem Sound.handle (sound : Sound [] s) (m : Message) : Sound [] (s.handle m) := by
  rcases handle_cases sound.own m with ⟨sink, handler, known, started⟩ | ⟨sink, _, refused⟩
  · rw [started]
    have proper : (Work.handle s.invocations.length handler m).Proper := by
      obtain ⟨method, _, own⟩ := Option.bind_eq_some_iff.mp known
      rintro script rfl
      exact ofMethod?_ne_scripted own
    have noted : Sound [] ({ s with
        sink, invocations := s.invocations ++ [⟨s.invocations.length, m.method.getD "", none⟩] } : Session) :=
      sound.of_desk rfl rfl
    exact noted.spawned (noted.coherent.spawn rfl) rfl proper (by rintro _ ⟨⟩)
  · rw [refused]
    exact sound.of_desk rfl rfl

end Messages

end EditorAssist.Session

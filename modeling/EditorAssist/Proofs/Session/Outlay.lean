import EditorAssist.Proofs.Session.Keeping

/-!
# What a turn costs

Work that is ready has a price and a timer has another. What a turn leaves behind is priced by what its
work may do on the side and by the work that it hands on to, for any prices; the next module puts two sets of
prices in.
-/

namespace EditorAssist.Session

open EditorAssist.Backend EditorAssist.Debounce EditorAssist.Number EditorAssist.Payload
open EditorAssist.Settings EditorAssist.Time EditorAssist.Wire

/-- Prices of work that is ready and of timers. -/
structure Prices where
  work : Work → Nat
  timer : Timer Work → Nat

namespace Prices

variable (prices : Prices)

/-- What the agenda of a session costs. -/
def cost (s : Session) : Nat :=
  s.desk.agenda.readyWeight prices.work + s.desk.agenda.timerCost prices.timer

/-- What it costs to have work wait until an instant, the clock standing at another. -/
def wait (now due : Instant) (ticket : Nat) (work : Work) : Nat :=
  if due.nanos ≤ now.nanos then prices.work work else prices.timer ⟨due, ticket, work⟩

/-- The most that a clearing of diagnostics and the start of a signal cost. -/
structure Bound (arm start : Nat) : Prop where
  arm : ∀ uri span, prices.work (.delay (diagnosticsKey uri) span (.clear uri)) ≤ arm
  start : ∀ signal, prices.work (.animate signal) ≤ start

end Prices

section Costs

variable {prices : Prices} {hand : List (Job Work)} {s t : Session} {arm start : Nat}

theorem cost_of_agenda (agenda : t.desk.agenda = s.desk.agenda) : prices.cost t = prices.cost s := by
  rw [Prices.cost, Prices.cost, agenda]

/-- Withdrawing makes nothing dearer. -/
theorem cost_cancel_le (prices : Prices) (s : Session) (key : String) :
    prices.cost { s with desk := (s.desk.cancel key).1 } ≤ prices.cost s := by
  rcases s.desk.cancel_cases key with ⟨_, same⟩ | ⟨entry, _, _, gone⟩
  · exact Nat.le_of_eq (by rw [same])
  · rw [gone]
    exact Nat.add_le_add (Agenda.readyWeight_cancel_le _ _) (Agenda.timerCost_cancel_le _ _)

theorem cost_stop_le (s : Session) (ticket : Nat) :
    prices.cost (s.mapAgenda (·.cancel ticket)) ≤ prices.cost s :=
  Nat.add_le_add (Agenda.readyWeight_cancel_le _ _) (Agenda.timerCost_cancel_le _ _)

theorem cost_spawn {work : Work} {agenda : Agenda Work} (spawned : t.desk.agenda = (agenda.spawn work).1)
    (before : s.desk.agenda = agenda) : prices.cost t = prices.cost s + prices.work work := by
  rw [Prices.cost, Prices.cost, spawned, Agenda.readyWeight_spawn, before]
  show _ + agenda.timerCost _ = _
  omega

theorem cost_enqueue (s : Session) (ticket : Nat) (work : Work) :
    prices.cost (s.enqueue ticket work) = prices.cost s + prices.work work := by
  show (s.desk.agenda.enqueue ⟨ticket, work⟩).readyWeight _ + s.desk.agenda.timerCost _ = _
  rw [Agenda.readyWeight_enqueue, Prices.cost]
  dsimp only
  omega

theorem cost_waitUntil (s : Session) (due : Instant) (ticket : Nat) (work : Work) :
    prices.cost (s.waitUntil due ticket work) = prices.cost s + prices.wait s.now due ticket work := by
  have cases := s.desk.agenda.waitUntil_cases prices.timer due ⟨ticket, work⟩
  show (s.desk.agenda.waitUntil due ⟨ticket, work⟩).readyWeight _ +
    (s.desk.agenda.waitUntil due ⟨ticket, work⟩).timerCost _ =
      prices.cost s + prices.wait s.desk.agenda.now due ticket work
  rcases cases with ⟨past, lined⟩ | ⟨later, ready, waits⟩
  · rw [lined, Prices.wait, if_pos past, Agenda.readyWeight_enqueue, Prices.cost]
    show _ + prices.work work + s.desk.agenda.timerCost _ = _
    omega
  · rw [waits, Prices.wait, if_neg (Int.not_le.mpr later), Agenda.readyWeight, ready, Prices.cost,
      Agenda.readyWeight]
    omega

theorem Micro.cost_le {deeds : List Deed} (bound : prices.Bound arm start) (step : Micro hand s deeds t)
    (sound : Sound hand s) :
    prices.cost t ≤ prices.cost s + arm * total (deeds.map Deed.arms) +
      start * total (deeds.map Deed.starts) := by
  cases step with
  | note sink requested tokens flag exits => exact Nat.le_add_right_of_le (Nat.le_add_right ..)
  | edit documents => exact Nat.le_add_right_of_le (Nat.le_add_right ..)
  | call name provider topic => exact Nat.le_add_right_of_le (Nat.le_add_right ..)
  | say m silent =>
    obtain ⟨sink, sent⟩ := send_eq s m
    rw [sent]
    exact Nat.le_add_right_of_le (Nat.le_add_right ..)
  | arm uri span =>
    obtain ⟨sink, same⟩ := arm_eq sound uri span
    rw [same, sound.coherent.schedule_eq]
    have cancelled := cost_cancel_le prices s (diagnosticsKey uri)
    have grown : prices.cost
        { s with
          desk := (s.desk.cancel (diagnosticsKey uri)).1.add (diagnosticsKey uri)
            (.delay (diagnosticsKey uri) span (.clear uri)) (.clear uri)
          sink } =
        prices.cost { s with desk := (s.desk.cancel (diagnosticsKey uri)).1 } +
          prices.work (.delay (diagnosticsKey uri) span (.clear uri)) := cost_spawn rfl rfl
    have price := bound.arm uri span
    simp only [List.map_cons, List.map_nil, total_cons, total_nil, Deed.arms, Deed.starts]
    omega
  | disarm uri =>
    obtain ⟨sink, same⟩ := disarm_eq sound uri
    rw [same]
    have cancelled := cost_cancel_le prices s (diagnosticsKey uri)
    exact Nat.le_add_right_of_le (Nat.le_add_right_of_le cancelled)
  | start signal slow =>
    have grown : prices.cost (s.spawn (.animate signal)).1 = prices.cost s + prices.work (.animate signal) :=
      cost_spawn rfl rfl
    have price := bound.start signal
    simp only [List.map_cons, List.map_nil, total_cons, total_nil, Deed.arms, Deed.starts]
    omega
  | stop ticket signal => exact Nat.le_add_right_of_le (Nat.le_add_right_of_le (cost_stop_le s ticket))

/-- Work on the side costs its clearings and its signals. -/
theorem Does.cost_le {arms starts : Nat} {topics : List Topic} (bound : prices.Bound arm start)
    (does : Does hand s arms starts topics t) (sound : Sound hand s) :
    prices.cost t ≤ prices.cost s + arm * arms + start * starts := by
  obtain ⟨deeds, aside, armed, started, -⟩ := does
  have whole : prices.cost t ≤ prices.cost s + arm * total (deeds.map Deed.arms) +
      start * total (deeds.map Deed.starts) := by
    clear armed started
    induction aside with
    | nil s => exact Nat.le_add_right_of_le (Nat.le_add_right ..)
    | cons step _ ih =>
      have first := step.cost_le bound sound
      have later := ih (step.sound sound)
      simp only [List.map_append, total_append, Nat.mul_add]
      omega
  have some := Nat.mul_le_mul_left arm armed
  have others := Nat.mul_le_mul_left start started
  omega

end Costs

/-! ## Turns -/

/-- Some work can pay for what its turn leaves behind out of a budget. Waiting costs `slack` more than
being ready, at most. -/
structure Covers (prices : Prices) (settings : Settings) (now : Instant) (arm start slack : Nat) (work : Work)
    (budget : Nat) : Prop where
  ends : arm * work.lastDeeds.1 + start * work.lastDeeds.2 ≤ budget
  goes : ∀ next, Succeeds settings now work next →
    arm * work.deeds.1 + start * work.deeds.2 + prices.work next + slack ≤ budget
  delays : ∀ number message, work = .handle number .completion message → ∀ span job,
    prices.work (.delay completionKey span (.complete job)) ≤ budget
  ticks : work.isSignal = true → ∀ next, next.isSignal = true → ∀ ticket span, 1000000 ≤ span.nanos →
    arm + prices.wait now (now.after span) ticket next ≤ budget

section Turns

variable {prices : Prices} {hand : List (Job Work)} {s t : Session} {arm start slack ticket budget : Nat}
  {work : Work}

theorem cost_foldl_withdrawn (entries : List (Entry DelayedAction)) (s : Session) :
    prices.cost (entries.foldl Session.withdrawn s) = prices.cost s := by
  obtain ⟨sink, outbox, invocations, same⟩ := foldl_withdrawn_eq entries s
  rw [same]
  rfl

theorem cost_cancelAllPending_le (prices : Prices) (s : Session) : prices.cost s.cancelAllPending ≤ prices.cost s := by
  show prices.cost (s.desk.cancelAll.2.foldl Session.withdrawn { s with desk := s.desk.cancelAll.1 }) ≤ _
  rw [cost_foldl_withdrawn, Prices.cost, Desk.cancelAll, agenda_foldl_withdraw]
  exact Nat.add_le_add (total_le_of_sublist (List.filter_sublist.map _))
    (total_le_of_sublist (List.filter_sublist.map _))

/-- What a turn leads to is paid out of the budget of its work. -/
theorem Effect.cost_le (bound : prices.Bound arm start) (sound : Sound hand s)
    (waits : ∀ due ticket next, prices.wait s.now due ticket next ≤ prices.work next + slack)
    (covers : Covers prices s.settings s.now arm start slack work budget)
    (effect : Effect hand s ticket work t) : prices.cost t ≤ prices.cost s + budget := by
  cases effect with
  | @silent _ mid _ _ does =>
    have cost := does.cost_le bound sound
    show prices.cost mid ≤ _
    omega
  | @answers _ _ _ mid after m _ _ does _ _ afterwards =>
    obtain ⟨sink, sent⟩ := send_eq mid m
    have soundly : Sound hand (mid.send m) := by
      rw [sent]
      exact (does.keeps sound).1.of_desk rfl rfl
    have same : prices.cost (mid.send m) = prices.cost mid := cost_of_agenda (by rw [sent])
    have first := does.cost_le bound sound
    have later := afterwards.cost_le bound soundly
    have ends := covers.ends
    show prices.cost after ≤ _
    omega
  | @goesOn _ mid _ next does _ succeeds _ placed =>
    have first := does.cost_le bound sound
    have goes := covers.goes next succeeds
    have now : mid.now = s.now := (does.keeps sound).2.now
    cases placed with
    | lined =>
      rw [cost_enqueue]
      omega
    | spawned =>
      have grown : prices.cost (mid.spawn next).1 = prices.cost mid + prices.work next := cost_spawn rfl rfl
      omega
    | waits due =>
      rw [cost_waitUntil, now]
      have price := waits due ticket next
      omega
  | @delays number message params document own _ _ =>
    have delay := covers.delays number message own (.ofMillis s.settings.debounce)
      ⟨number, message.id, params, document.version⟩
    have cancelled := cost_cancel_le prices s completionKey
    rw [schedule_eq sound, cost_foldl_withdrawn]
    rw [cost_spawn (s := { s with desk := (s.desk.cancel completionKey).1 }) rfl rfl]
    omega
  | @shutsDown number message own =>
    obtain ⟨sink, same⟩ := shutdown_eq s message
    have closing : prices.cost s.closing = prices.cost s := rfl
    have cancelled := cost_cancelAllPending_le prices s.closing
    have after : prices.cost ((s.shutdown message).finish number) = prices.cost s.closing.cancelAllPending := by
      rw [same]
      rfl
    omega
  | clears _ does =>
    have cost := does.cost_le bound sound
    omega
  | @ticks mid span next own does signal _ slow =>
    have first := does.cost_le bound sound
    have now : mid.now = s.now := (does.keeps sound).2.now
    have ticks := covers.ticks own next signal ticket span slow
    show prices.cost (mid.waitUntil (mid.now.after span) ticket next) ≤ _
    rw [cost_waitUntil, now]
    omega

/-- What a turn leaves is paid out of the price of its job and what is added to it. -/
theorem turn_cost_le {job : Job Work} {rest : List (Job Work)} (bound : prices.Bound arm start)
    (sound : Sound [] s) (ready : s.desk.agenda.ready = job :: rest)
    (waits : ∀ due ticket next, prices.wait s.now due ticket next ≤ prices.work next + slack)
    (covers : Covers prices s.settings s.now arm start slack job.work budget)
    (fires : ∀ key span action, job.work = .delay key span action →
      prices.work (.fire key action) + slack ≤ budget) :
    prices.cost (perform job (s.taken rest)) + prices.work job.work ≤ prices.cost s + budget := by
  obtain ⟨ticket, work⟩ := job
  dsimp only at covers fires ⊢
  have taken : prices.cost s = prices.cost (s.taken rest) + prices.work work := by
    have weight := Agenda.readyWeight_of_ready prices.work ready
    dsimp only at weight
    show _ + _ = (s.desk.agenda.behind rest).readyWeight _ + s.desk.agenda.timerCost _ + _
    omega
  rcases work.delay_or with ⟨key, span, action, rfl⟩ | starts
  · have price := waits (s.now.after span) ticket (.fire key action)
    have fire := fires key span action rfl
    show prices.cost ((s.taken rest).waitUntil (s.now.after span) ticket (.fire key action)) + _ ≤ _
    rw [cost_waitUntil]
    show _ + prices.wait s.now _ _ _ + _ ≤ _
    omega
  · have same : prices.cost (s.begun ⟨ticket, work⟩ rest) = prices.cost (s.taken rest) := by
      cases work <;> rfl
    have begun : (s.begun ⟨ticket, work⟩ rest).settings = s.settings ∧
        (s.begun ⟨ticket, work⟩ rest).now = s.now := by cases work <;> exact ⟨rfl, rfl⟩
    have effect := perform_effect sound ready starts
    rw [← begun.1, ← begun.2] at covers
    rw [← begun.2] at waits
    have cost := effect.cost_le bound (sound.begun ready starts) waits covers
    omega

end Turns

end EditorAssist.Session

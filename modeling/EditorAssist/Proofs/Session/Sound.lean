import EditorAssist.Proofs.Debounce.Desk
import EditorAssist.Session.Run

/-!
# Sound sessions

What holds of a session between any two pieces of work, and while one is being done: the table of
debounced actions is in step with the agenda, each action stands under its own key, and a ticket by which
a signal will be stopped belongs to the work of that signal only.
-/

namespace EditorAssist.Session

open EditorAssist.Backend EditorAssist.Debounce EditorAssist.Payload EditorAssist.Settings
open EditorAssist.Time EditorAssist.Wire

/-! ## Work -/

/-- The key that an action is debounced under. -/
def DelayedAction.key : DelayedAction → String
  | .complete _ => completionKey
  | .clear uri => diagnosticsKey uri

namespace Work

/-- What waits for its delay can be withdrawn, until it fires. -/
def slot : Work → Option (String × DelayedAction)
  | delay key _ action => some (key, action)
  | fire key action => some (key, action)
  | _ => none

/-- Whether work belongs to a running signal. -/
def isSignal : Work → Bool
  | animate _ => true
  | tick .. => true
  | _ => false

/-- The signal that a request shows while it is worked on. -/
def active? : Work → Option ActiveSignal
  | suggestions pending _ => some pending.active
  | chat pending => some pending.active
  | answer chatting _ => some chatting.pending.active
  | tell pending _ => some pending.active
  | reply pending _ => some pending.active
  | _ => none

/-- The ticket of the signal that is to be stopped. -/
def stops? (work : Work) : Option Nat := work.active?.bind fun active => active.ticking.map (·.ticket)

/-- Actions stand under their own keys, signals take time, and no handler was added. -/
def Proper : Work → Prop
  | handle _ handler _ => ∀ script, handler ≠ .scripted script
  | resume .. => False
  | delay key _ action => key = action.key
  | fire key action => key = action.key
  | animate signal => 1000000 ≤ signal.interval.nanos
  | tick signal _ _ => 1000000 ≤ signal.interval.nanos
  | _ => True

end Work

/-- Completions and diagnostics are debounced under different keys. -/
theorem completionKey_ne_diagnosticsKey (uri : String) : completionKey ≠ diagnosticsKey uri := by
  intro same
  have first : completionKey.toList.head? = (diagnosticsKey uri).toList.head? := by rw [same]
  have letter : (diagnosticsKey uri).toList.head? = some 'd' := by
    rw [diagnosticsKey, String.toList_append]
    rfl
  rw [letter] at first
  revert first
  decide

/-- An action under the key of some diagnostics clears them. -/
theorem DelayedAction.eq_clear {action : DelayedAction} {uri : String}
    (key : action.key = diagnosticsKey uri) : ∃ other, action = .clear other := by
  cases action with
  | clear other => exact ⟨other, rfl⟩
  | complete job => exact absurd key (completionKey_ne_diagnosticsKey uri)

/-! ## The invariant -/

/-- A ticket that no other work than that of a signal has. -/
structure OfSignal (hand : List (Job Work)) (s : Session) (ticket : Nat) : Prop where
  issued : ticket < s.desk.agenda.issued
  signal : ∀ job ∈ hand ++ s.desk.agenda.jobs, job.ticket = ticket → job.work.isSignal = true

/-- What holds of every session, with the jobs in hand that are being done. -/
structure Sound (hand : List (Job Work)) (s : Session) : Prop where
  coherent : Coherent Work.slot hand s.desk
  plain : ∀ job ∈ hand, job.work.slot = none
  orderly : s.desk.agenda.Orderly
  proper : ∀ job ∈ hand ++ s.desk.agenda.jobs, job.work.Proper
  stops : ∀ job ∈ hand ++ s.desk.agenda.jobs, ∀ ticket, job.work.stops? = some ticket →
    OfSignal hand s ticket
  own : s.added = []

theorem Sound.start (settings : Settings) (registry : Registry) (sink : Journal.Sink) :
    Sound [] (Session.start settings registry sink) :=
  ⟨.empty, by simp, .empty, by simp [Session.start, Desk.empty, Agenda.empty, Agenda.jobs],
    by simp [Session.start, Desk.empty, Agenda.empty, Agenda.jobs], rfl⟩

section Facts

variable {hand : List (Job Work)} {s : Session}

/-- Entries stand under the keys of their actions. -/
theorem Sound.key_of_entry (sound : Sound hand s) {entry : Entry DelayedAction}
    (pending : entry ∈ s.desk.pending) : entry.key = entry.callback.key := by
  obtain ⟨⟨ticket, work⟩, member, _, slot⟩ := (sound.coherent.entries entry).mp pending
  have proper := sound.proper _ member
  cases work <;> simp only [Work.slot, Option.some.injEq, Prod.mk.injEq, reduceCtorEq] at slot <;>
    rw [← slot.1, ← slot.2] <;> exact proper

/-- The session may change around its agenda and its table, as far as these are in order. -/
theorem Sound.of_desk {t : Session} (sound : Sound hand s) (desk : t.desk = s.desk)
    (added : t.added = s.added) : Sound hand t := by
  obtain ⟨coherent, plain, orderly, proper, stops, own⟩ := sound
  refine ⟨desk ▸ coherent, plain, desk ▸ orderly, desk ▸ proper, ?_, added.trans own⟩
  intro job member ticket stopped
  rw [desk] at member
  obtain ⟨issued, signal⟩ := stops job member ticket stopped
  exact ⟨desk ▸ issued, desk ▸ signal⟩

/-- What an operation has to keep, apart from the table: its jobs are old ones, or new ones that are in
order and stop nothing. -/
theorem Sound.of_jobs {t : Session} {hand' : List (Job Work)} (sound : Sound hand s)
    (coherent : Coherent Work.slot hand' t.desk) (plain : ∀ job ∈ hand', job.work.slot = none)
    (orderly : t.desk.agenda.Orderly)
    (added : t.added = s.added) (issued : s.desk.agenda.issued ≤ t.desk.agenda.issued)
    (jobs : ∀ job ∈ hand' ++ t.desk.agenda.jobs, job ∈ hand ++ s.desk.agenda.jobs ∨
      job.work.Proper ∧ (∀ ticket, job.work.stops? = some ticket → OfSignal hand' t ticket) ∧
        (job.ticket < s.desk.agenda.issued → ∃ old ∈ hand ++ s.desk.agenda.jobs,
          old.ticket = job.ticket ∧ old.work.isSignal = job.work.isSignal)) :
    Sound hand' t := by
  refine ⟨coherent, plain, orderly, ?_, ?_, added.trans sound.own⟩
  · intro job member
    rcases jobs job member with old | ⟨proper, _⟩
    · exact sound.proper job old
    · exact proper
  · intro job member ticket stopped
    rcases jobs job member with old | ⟨_, fresh, _⟩
    · obtain ⟨given, signal⟩ := sound.stops job old ticket stopped
      refine ⟨Nat.lt_of_lt_of_le given issued, fun other there same => ?_⟩
      rcases jobs other there with here | ⟨_, _, known⟩
      · exact signal other here same
      · obtain ⟨before, held, own, like⟩ := known (by rw [same]; exact given)
        rw [← like]
        exact signal before held (own.trans same)
    · exact fresh ticket stopped

/-- Withdrawing an entry takes its job off the agenda. -/
theorem Sound.cancel (sound : Sound hand s) (key : String) :
    Sound hand { s with desk := (s.desk.cancel key).1 } := by
  have coherent : Coherent Work.slot hand (s.desk.cancel key).1 := sound.coherent.cancel sound.plain
  rcases s.desk.cancel_cases key with ⟨_, same⟩ | ⟨entry, _, _, gone⟩
  · rw [same]
    exact sound.of_desk rfl rfl
  · rw [gone] at coherent ⊢
    refine sound.of_jobs coherent sound.plain (sound.orderly.cancel _) rfl (Nat.le_refl _) ?_
    intro job member
    refine .inl ((List.mem_append.mp member).elim (List.mem_append_left _) fun there => ?_)
    rw [Agenda.jobs_cancel] at there
    exact List.mem_append_right _ (List.mem_filter.mp there).1

theorem Sound.cancelAll (sound : Sound hand s) : Sound hand { s with desk := s.desk.cancelAll.1 } := by
  have agenda := agenda_foldl_withdraw s.desk.pending { s.desk with pending := [] }
  have jobs : ∀ job ∈ s.desk.cancelAll.1.agenda.jobs, job ∈ s.desk.agenda.jobs := by
    intro job member
    rw [Desk.cancelAll, agenda] at member
    rcases List.mem_append.mp member with ready | waits
    · exact List.mem_append_left _ (List.mem_filter.mp ready).1
    · obtain ⟨timer, there, rfl⟩ := List.mem_map.mp waits
      exact List.mem_append_right _ (List.mem_map_of_mem (List.mem_filter.mp there).1)
  refine sound.of_jobs (sound.coherent.cancelAll sound.plain) sound.plain ?_ rfl ?_ ?_
  · show (s.desk.pending.foldl Desk.withdraw _).agenda.Orderly
    rw [agenda]
    exact ⟨sound.orderly.sorted.filter _,
      fun timer member => sound.orderly.ahead timer (List.mem_filter.mp member).1⟩
  · show s.desk.agenda.issued ≤ (s.desk.pending.foldl Desk.withdraw _).agenda.issued
    exact Nat.le_of_eq (by rw [agenda])
  · intro job member
    exact .inl ((List.mem_append.mp member).elim (List.mem_append_left _)
      fun there => List.mem_append_right _ (jobs job there))

/-- New work, which stops nothing but signals that are there. -/
theorem Sound.spawned (sound : Sound hand s) {desk : Desk Work DelayedAction} {work : Work}
    (coherent : Coherent Work.slot hand desk) (agenda : desk.agenda = (s.desk.agenda.spawn work).1)
    (proper : work.Proper) (stops : ∀ ticket, work.stops? = some ticket → OfSignal hand s ticket) :
    Sound hand { s with desk } := by
  have jobs : ∀ job ∈ hand ++ desk.agenda.jobs,
      job = ⟨s.desk.agenda.issued, work⟩ ∨ job ∈ hand ++ s.desk.agenda.jobs := by
    intro job member
    rw [agenda] at member
    rcases List.mem_append.mp member with held | there
    · exact .inr (List.mem_append_left _ held)
    · rcases List.mem_cons.mp ((Agenda.jobs_spawn work).mem_iff.mp there) with new | old
      · exact .inl new
      · exact .inr (List.mem_append_right _ old)
  refine sound.of_jobs coherent sound.plain ?_ rfl ?_ ?_
  · rw [agenda]
    exact sound.orderly.of_timers rfl rfl
  · rw [agenda]
    exact Nat.le_succ _
  · intro job member
    rcases jobs job member with rfl | old
    · refine .inr ⟨proper, fun ticket stopped => ?_, fun issued => absurd issued (Nat.lt_irrefl _)⟩
      obtain ⟨issued, signal⟩ := stops ticket stopped
      refine ⟨Nat.lt_of_lt_of_le issued (by rw [agenda]; exact Nat.le_succ _), fun other there same => ?_⟩
      rcases jobs other there with rfl | here
      · exact absurd same (Nat.ne_of_gt issued)
      · exact signal other here same
    · exact .inl old

/-- Scheduling an action under its key. -/
theorem Sound.schedule (sound : Sound hand s) {key : String} {action : DelayedAction} (span : Span)
    (own : key = action.key) :
    Sound hand { s with desk := (s.desk.schedule key (.delay key span action) action).1 } := by
  have coherent : Coherent Work.slot hand
      (s.desk.schedule key (.delay key span action) action).1 :=
    sound.coherent.schedule sound.plain rfl
  rw [sound.coherent.schedule_eq] at coherent ⊢
  exact (sound.cancel key).spawned coherent rfl own (by rintro _ ⟨⟩)

/-- The signal of the work that is in hand may be stopped. -/
theorem Sound.stop (sound : Sound hand s) {ticket : Nat} (signal : OfSignal hand s ticket) :
    Sound hand (s.mapAgenda (·.cancel ticket)) := by
  have unslotted : ∀ job ∈ s.desk.agenda.jobs, job.ticket = ticket → job.work.slot = none := by
    intro job member own
    have := signal.signal job (List.mem_append_right _ member) own
    cases work : job.work <;> simp_all [Work.isSignal, Work.slot]
  refine sound.of_jobs (sound.coherent.stop unslotted) sound.plain (sound.orderly.cancel _) rfl
    (Nat.le_refl _) ?_
  intro job member
  refine .inl ((List.mem_append.mp member).elim (List.mem_append_left _) fun there => ?_)
  have there : job ∈ (s.desk.agenda.cancel ticket).jobs := there
  rw [Agenda.jobs_cancel] at there
  exact List.mem_append_right _ (List.mem_filter.mp there).1

end Facts

end EditorAssist.Session

import EditorAssist.Proofs.Session.Sound
import EditorAssist.Proofs.Time.Path

/-!
# What is done on the side

A piece of work writes records, sends messages that answer nothing, shows and clears diagnostics, starts
and stops a signal and asks a backend. None of this answers a request, ends a handler or bears on a
completion that waits. The sequence of these small steps is a path, which lists the work that they make
ready and the requests to backends.
-/

namespace EditorAssist.Session

open EditorAssist.Backend EditorAssist.Debounce EditorAssist.Journal EditorAssist.Payload
open EditorAssist.Settings EditorAssist.Time EditorAssist.Wire

/-- What is to be known of a small step. -/
inductive Deed where
  | spawned (work : Work)
  | called (topic : Topic)

def Deed.work? : Deed → Option Work
  | spawned work => some work
  | called _ => none

def Deed.topic? : Deed → Option Topic
  | spawned _ => none
  | called topic => some topic

/-- A small step of work that is done on the side. -/
inductive Micro (hand : List (Job Work)) : Session → List Deed → Session → Prop
  /-- Records are written and numbers are given out. -/
  | note (s : Session) (sink : Sink) (requested tokens : Nat) (flag : Bool) (exits : List Nat) :
      Micro hand s [] { s with sink, requested, tokens, shutdownRequested := flag, exits }
  | say (s : Session) (m : Outbound) (silent : m.answers? = none) : Micro hand s [] (s.send m)
  | edit (s : Session) (documents : DocumentStore) : Micro hand s [] { s with documents }
  | call (s : Session) (name : String) (provider : Provider) (topic : Topic) :
      Micro hand s [.called topic] { s with registry := (s.registry.call name provider topic).2 }
  /-- The clearing of some diagnostics is scheduled. -/
  | arm (s : Session) (uri : String) (span : Span) :
      Micro hand s [.spawned (.delay (diagnosticsKey uri) span (.clear uri))]
        (s.schedule (diagnosticsKey uri) span (.clear uri))
  /-- The clearing of some diagnostics is withdrawn. -/
  | disarm (s : Session) (uri : String) : Micro hand s [] (s.cancelPending (diagnosticsKey uri))
  | start (s : Session) (signal : Signal) (slow : 1000000 ≤ signal.interval.nanos) :
      Micro hand s [.spawned (.animate signal)] (s.spawn (.animate signal)).1
  | stop (s : Session) (ticket : Nat) (signal : OfSignal hand s ticket) :
      Micro hand s [] (s.mapAgenda (·.cancel ticket))

/-- Work on the side: some small steps. -/
abbrev Aside (hand : List (Job Work)) : Session → List Deed → Session → Prop := Path (Micro hand)

/-! ## Small steps as changes of a session -/

section Changes

variable {hand : List (Job Work)} {s : Session}

/-- A message goes into the outbox, with a record of it. -/
theorem send_eq (s : Session) (m : Outbound) :
    ∃ sink, s.send m = { s with outbox := s.outbox ++ [m], sink } := by
  unfold send
  split
  · exact ⟨_, rfl⟩
  · unfold noteSent
    dsimp only
    split
    · exact ⟨_, rfl⟩
    · exact ⟨_, rfl⟩

/-- Whoever waits for the clearing of diagnostics is not told of its withdrawal. -/
theorem withdrawn_clear (s : Session) {entry : Entry DelayedAction} {uri : String}
    (callback : entry.callback = .clear uri) : ∃ sink, s.withdrawn entry = { s with sink } := by
  unfold withdrawn
  rw [callback]
  exact ⟨_, rfl⟩

theorem disarm_eq (sound : Sound hand s) (uri : String) :
    ∃ sink, s.cancelPending (diagnosticsKey uri) =
      { s with desk := (s.desk.cancel (diagnosticsKey uri)).1, sink } := by
  unfold cancelPending
  rcases s.desk.cancel_cases (diagnosticsKey uri) with ⟨_, same⟩ | ⟨entry, pending, own, gone⟩
  · rw [same]
    exact ⟨_, rfl⟩
  · obtain ⟨other, callback⟩ := DelayedAction.eq_clear ((sound.key_of_entry pending).symm.trans own)
    rw [gone]
    exact withdrawn_clear _ callback

theorem arm_eq (sound : Sound hand s) (uri : String) (span : Span) :
    ∃ sink, s.schedule (diagnosticsKey uri) span (.clear uri) =
      { s with
        desk := (s.desk.schedule (diagnosticsKey uri)
          (.delay (diagnosticsKey uri) span (.clear uri)) (.clear uri)).1
        sink } := by
  unfold schedule
  rw [sound.coherent.schedule_eq]
  rcases s.desk.cancel_cases (diagnosticsKey uri) with ⟨_, same⟩ | ⟨entry, pending, own, gone⟩
  · rw [same]
    exact ⟨_, rfl⟩
  · obtain ⟨other, callback⟩ := DelayedAction.eq_clear ((sound.key_of_entry pending).symm.trans own)
    rw [gone]
    exact withdrawn_clear _ callback

end Changes

/-! ## What small steps keep -/

section Kept

variable {hand : List (Job Work)} {s t : Session} {deeds : List Deed}

/-- The ids that were answered. -/
def answered (s : Session) : List RequestId := s.outbox.filterMap (·.answers?.join)

theorem answered_send (s : Session) (m : Outbound) :
    (s.send m).answered = s.answered ++ m.answers?.join.toList := by
  obtain ⟨sink, sent⟩ := send_eq s m
  rw [sent, answered, List.filterMap_append]
  cases h : m.answers?.join <;> simp [answered, h]

theorem Micro.sound (step : Micro hand s deeds t) (sound : Sound hand s) : Sound hand t := by
  cases step with
  | note sink requested tokens flag exits => exact sound.of_desk rfl rfl
  | edit documents => exact sound.of_desk rfl rfl
  | call name provider topic => exact sound.of_desk rfl rfl
  | say m silent =>
    obtain ⟨sink, sent⟩ := send_eq s m
    rw [sent]
    exact sound.of_desk rfl rfl
  | arm uri span =>
    obtain ⟨sink, same⟩ := arm_eq sound uri span
    have own : diagnosticsKey uri = (DelayedAction.clear uri).key := rfl
    rw [same]
    exact (sound.schedule span own).of_desk rfl rfl
  | disarm uri =>
    obtain ⟨sink, same⟩ := disarm_eq sound uri
    rw [same]
    exact (sound.cancel _).of_desk rfl rfl
  | start signal slow => exact sound.spawned (sound.coherent.spawn rfl) rfl slow (by rintro _ ⟨⟩)
  | stop ticket signal => exact sound.stop signal

/-- What neither a small step nor any other work on the side changes. -/
structure Unmoved (s t : Session) : Prop where
  settings : t.settings = s.settings
  invocations : t.invocations = s.invocations
  now : t.desk.agenda.now = s.desk.agenda.now
  issued : s.desk.agenda.issued ≤ t.desk.agenda.issued
  answered : t.answered = s.answered

theorem Unmoved.refl (s : Session) : Unmoved s s := ⟨rfl, rfl, rfl, Nat.le_refl _, rfl⟩

theorem Unmoved.trans {u : Session} (first : Unmoved s t) (second : Unmoved t u) : Unmoved s u :=
  ⟨second.settings.trans first.settings, second.invocations.trans first.invocations,
    second.now.trans first.now, Nat.le_trans first.issued second.issued,
    second.answered.trans first.answered⟩

theorem Micro.unmoved (step : Micro hand s deeds t) (sound : Sound hand s) : Unmoved s t := by
  cases step with
  | note sink requested tokens flag exits => exact ⟨rfl, rfl, rfl, Nat.le_refl _, rfl⟩
  | edit documents => exact ⟨rfl, rfl, rfl, Nat.le_refl _, rfl⟩
  | call name provider topic => exact ⟨rfl, rfl, rfl, Nat.le_refl _, rfl⟩
  | start signal slow => exact ⟨rfl, rfl, rfl, Nat.le_succ _, rfl⟩
  | stop ticket signal => exact ⟨rfl, rfl, rfl, Nat.le_refl _, rfl⟩
  | say m silent =>
    have answered := answered_send s m
    rw [silent, Option.join_none, Option.toList_none, List.append_nil] at answered
    obtain ⟨sink, sent⟩ := send_eq s m
    rw [sent] at answered ⊢
    exact ⟨rfl, rfl, rfl, Nat.le_refl _, answered⟩
  | arm uri span =>
    obtain ⟨sink, same⟩ := arm_eq sound uri span
    rw [same, sound.coherent.schedule_eq]
    refine ⟨rfl, rfl, ?_, ?_, rfl⟩
    · exact s.desk.now_cancel _
    · show s.desk.agenda.issued ≤ (s.desk.cancel (diagnosticsKey uri)).1.agenda.issued + 1
      rw [s.desk.issued_cancel]
      exact Nat.le_succ _
  | disarm uri =>
    obtain ⟨sink, same⟩ := disarm_eq sound uri
    rw [same]
    exact ⟨rfl, rfl, s.desk.now_cancel _, Nat.le_of_eq (s.desk.issued_cancel _).symm, rfl⟩

/-- Work on the side leaves a session sound and moves nothing. -/
theorem Aside.keeps (aside : Aside hand s deeds t) (sound : Sound hand s) : Sound hand t ∧ Unmoved s t := by
  induction aside with
  | nil s => exact ⟨sound, .refl s⟩
  | cons step _ ih =>
    obtain ⟨kept, unmoved⟩ := ih (step.sound sound)
    exact ⟨kept, (step.unmoved sound).trans unmoved⟩

/-- A small step takes back no message. -/
theorem Micro.said (step : Micro hand s deeds t) (sound : Sound hand s) :
    ∃ said, t.outbox = s.outbox ++ said := by
  cases step with
  | note | edit | call | start | stop => exact ⟨[], (List.append_nil _).symm⟩
  | say m =>
    obtain ⟨sink, sent⟩ := send_eq s m
    exact ⟨[m], by rw [sent]⟩
  | arm uri span =>
    obtain ⟨sink, same⟩ := arm_eq sound uri span
    exact ⟨[], by rw [same, List.append_nil]⟩
  | disarm uri =>
    obtain ⟨sink, same⟩ := disarm_eq sound uri
    exact ⟨[], by rw [same, List.append_nil]⟩

theorem Aside.said (aside : Aside hand s deeds t) (sound : Sound hand s) :
    ∃ said, t.outbox = s.outbox ++ said := by
  induction aside with
  | nil s => exact ⟨[], (List.append_nil _).symm⟩
  | cons step _ ih =>
    obtain ⟨first, one⟩ := step.said sound
    obtain ⟨later, others⟩ := ih (step.sound sound)
    exact ⟨first ++ later, by rw [others, one, List.append_assoc]⟩

/-- The jobs that a small step leaves are old ones, or the work that it lists. -/
theorem Micro.jobs (step : Micro hand s deeds t) (sound : Sound hand s) :
    ∀ job ∈ t.desk.agenda.jobs, job ∈ s.desk.agenda.jobs ∨
      s.desk.agenda.issued ≤ job.ticket ∧ job.work ∈ deeds.filterMap Deed.work? := by
  have cancelled : ∀ key, ∀ job ∈ (s.desk.cancel key).1.agenda.jobs, job ∈ s.desk.agenda.jobs := by
    intro key job member
    rcases s.desk.cancel_cases key with ⟨_, same⟩ | ⟨entry, _, _, gone⟩
    · rw [same] at member
      exact member
    · rw [gone, Agenda.jobs_cancel] at member
      exact (List.mem_filter.mp member).1
  cases step with
  | note sink requested tokens flag exits => exact fun job member => .inl member
  | edit documents => exact fun job member => .inl member
  | call name provider topic => exact fun job member => .inl member
  | say m silent =>
    obtain ⟨sink, sent⟩ := send_eq s m
    rw [sent]
    exact fun job member => .inl member
  | arm uri span =>
    obtain ⟨sink, same⟩ := arm_eq sound uri span
    rw [same, sound.coherent.schedule_eq]
    intro job member
    rcases List.mem_cons.mp ((Agenda.jobs_spawn _).mem_iff.mp member) with rfl | old
    · exact .inr ⟨Nat.le_of_eq (s.desk.issued_cancel _).symm, List.mem_singleton_self _⟩
    · exact .inl (cancelled _ job old)
  | disarm uri =>
    obtain ⟨sink, same⟩ := disarm_eq sound uri
    rw [same]
    exact fun job member => .inl (cancelled _ job member)
  | start signal slow =>
    intro job member
    rcases List.mem_cons.mp ((Agenda.jobs_spawn _).mem_iff.mp member) with rfl | old
    · exact .inr ⟨Nat.le_refl _, List.mem_singleton_self _⟩
    · exact .inl old
  | stop ticket signal =>
    intro job member
    have member : job ∈ (s.desk.agenda.cancel ticket).jobs := member
    rw [Agenda.jobs_cancel] at member
    exact .inl (List.mem_filter.mp member).1

/-- The ticket of a signal stays that of a signal. -/
theorem OfSignal.aside {ticket : Nat} (signal : OfSignal hand s ticket) (aside : Aside hand s deeds t)
    (sound : Sound hand s) : OfSignal hand t ticket := by
  induction aside with
  | nil s => exact signal
  | cons step _ ih =>
    refine ih ?_ (step.sound sound)
    refine ⟨Nat.lt_of_lt_of_le signal.issued (step.unmoved sound).issued, fun job member own => ?_⟩
    rcases List.mem_append.mp member with held | there
    · exact signal.signal job (List.mem_append_left _ held) own
    · rcases step.jobs sound job there with old | ⟨fresh, _⟩
      · exact signal.signal job (List.mem_append_right _ old) own
      · have := signal.issued
        omega

end Kept

end EditorAssist.Session

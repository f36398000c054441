import EditorAssist.Proofs.Session.Events
import EditorAssist.Proofs.Session.Turning

/-!
# What the events of a run show

Every event gives messages to the connection and makes requests to backends. The outbox at the end of a run is
what its events gave, one after the other, and the messages that are sent are those among them that can be
written.
-/

namespace EditorAssist.Session

open EditorAssist.Backend EditorAssist.Debounce EditorAssist.Journal EditorAssist.Payload
open EditorAssist.Settings EditorAssist.Time EditorAssist.Wire

namespace Event

/-- The messages that an event gives to the connection. -/
def gives : Event → List Outbound
  | received m => if (handler? m).isSome then [] else unknown m
  | turn s job => (s.turned job).outbox.drop s.outbox.length

/-- The messages that an event sends. -/
def sends (e : Event) : List Outbound := writable e.gives

/-- The requests that an event makes to backends. -/
def asked : Event → List Request
  | received _ => []
  | turn s job => (s.turned job).registry.requests.drop s.registry.requests.length

end Event

section Showing

variable {s t : Session} {events : List Event} {job : Job Work} {rest : List (Job Work)} {acts : List Act}

theorem Account.gives (account : Account s job rest acts (perform job (s.taken rest)))
    (ready : s.desk.agenda.ready = job :: rest) :
    (Event.turn s job).gives = acts.flatMap Act.messages := by
  rw [Event.gives, turned_eq ready, account.framed.outbox, List.drop_left' rfl]

theorem Account.asked (account : Account s job rest acts (perform job (s.taken rest)))
    (ready : s.desk.agenda.ready = job :: rest) :
    (Event.turn s job).asked = acts.filterMap Act.request? := by
  rw [Event.asked, turned_eq ready, account.framed.requests, List.drop_left' rfl]

/-- What a turn gives to the connection is added to the messages that were given. -/
theorem outbox_turned (sound : Sound [] s) (ready : s.desk.agenda.ready = job :: rest) :
    (perform job (s.taken rest)).outbox = s.outbox ++ (Event.turn s job).gives := by
  obtain ⟨acts, account⟩ := turn_account sound ready
  rw [account.gives ready, account.framed.outbox]

/-- What a turn asks is added to the requests that were made. -/
theorem requests_turned (sound : Sound [] s) (ready : s.desk.agenda.ready = job :: rest) :
    (perform job (s.taken rest)).registry.requests = s.registry.requests ++ (Event.turn s job).asked := by
  obtain ⟨acts, account⟩ := turn_account sound ready
  rw [account.asked ready, account.framed.requests]

/-- Work that may ask no backend asks none. -/
theorem asked_eq_nil (sound : Sound [] s) (ready : s.desk.agenda.ready = job :: rest)
    (never : ∀ topic, ¬job.work.AsksFor s topic) : (Event.turn s job).asked = [] := by
  obtain ⟨acts, account⟩ := turn_account sound ready
  rw [account.asked ready, List.filterMap_eq_nil_iff]
  intro act done
  cases act with
  | asks request => exact absurd (account.fits _ done) (never request.topic)
  | _ => rfl

/-- A message makes ready what takes it up, and nothing else. -/
theorem handle_jobs (sound : Sound [] s) (m : Message) : ∀ job ∈ (s.handle m).desk.agenda.jobs,
    job ∈ s.desk.agenda.jobs ∨
      ∃ number handler, handler? m = some handler ∧ job.work = .handle number handler m := by
  intro job member
  rcases handle_cases sound.own m with ⟨sink, handler, known, started⟩ | ⟨sink, _, refused⟩
  · rw [started] at member
    have member : job ∈ (s.desk.agenda.spawn (.handle s.invocations.length handler m)).1.jobs := member
    rcases List.mem_cons.mp ((Agenda.jobs_spawn _).mem_iff.mp member) with rfl | old
    · exact .inr ⟨_, _, known, rfl⟩
    · exact .inl old
  · rw [refused] at member
    exact .inl member

theorem Step.outbox (step : Step s events t) (sound : Sound [] s) :
    t.outbox = s.outbox ++ events.flatMap Event.gives := by
  cases step with
  | receive m =>
    rcases handle_cases sound.own m with ⟨sink, handler, known, started⟩ | ⟨sink, unhandled, refused⟩
    · rw [started]
      simp [Event.gives, known, invoke, spawn]
    · rw [refused]
      simp [Event.gives, unhandled]
  | turn ready =>
    rw [outbox_turned sound ready, List.flatMap_singleton]
  | wake => exact (List.append_nil _).symm
  | pass => exact (List.append_nil _).symm

/-- The outbox at the end of a run is what its events gave. -/
theorem Run.outbox (run : Run s events t) (sound : Sound [] s) :
    t.outbox = s.outbox ++ events.flatMap Event.gives := by
  induction run with
  | nil s => exact (List.append_nil _).symm
  | cons step _ ih =>
    rw [ih (step.sound sound), step.outbox sound, List.flatMap_append, List.append_assoc]

/-- If everything can be written, every event sends what it gives. -/
theorem Run.sends (run : Run s events t) (sound : Sound [] s) (written : ∀ m ∈ t.outbox, m.encodeFault? = none) :
    ∀ e ∈ events, e.sends = e.gives := by
  intro e member
  refine List.filter_eq_self.mpr fun m given => ?_
  have there : m ∈ t.outbox := by
    rw [run.outbox sound]
    exact List.mem_append_right _ (List.mem_flatMap.mpr ⟨e, member, given⟩)
  rw [written m there]
  rfl

/-- What has been sent at the end of a run is what its events sent. -/
theorem Run.sent (run : Run s events t) (sound : Sound [] s) : t.sent = s.sent ++ events.flatMap Event.sends := by
  rw [Session.sent, writable, run.outbox sound, List.filter_append, List.filter_flatMap]
  rfl

end Showing

end EditorAssist.Session

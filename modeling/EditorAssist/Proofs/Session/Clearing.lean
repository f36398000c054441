import EditorAssist.Proofs.Session.Answers
import EditorAssist.Proofs.Session.Executing
import EditorAssist.Proofs.Settings

/-!
# Diagnostics do not stick

Whoever publishes diagnostics sets a timer for their document that clears them, and only what publishes for the
same document again moves that timer or withdraws it. So as long as a session is not shut down, the last
diagnostics that are shown for a document are either empty or to be cleared when their time is over.
-/

namespace EditorAssist.Session

open EditorAssist.Backend EditorAssist.Debounce EditorAssist.Journal EditorAssist.Payload
open EditorAssist.Settings EditorAssist.Text EditorAssist.Time EditorAssist.Wire

/-! ## What is shown for a document -/

/-- The diagnostics that some messages publish for a document. -/
def publishedFor (uri : String) (messages : List Outbound) : List (List Diagnostic) :=
  messages.filterMap fun m => m.published?.bind fun params =>
    if params.uri = uri then some params.diagnostics else none

section Published

variable {uri other : String} {diagnostics : List Diagnostic} {d : Diagnostic} {ds : List Diagnostic} {act : Act}

theorem publishedFor_flatMap {α : Type} (uri : String) (items : List α) (f : α → List Outbound) :
    publishedFor uri (items.flatMap f) = items.flatMap fun a => publishedFor uri (f a) :=
  List.filterMap_flatMap ..

theorem publishedFor_append (uri : String) (first later : List Outbound) :
    publishedFor uri (first ++ later) = publishedFor uri first ++ publishedFor uri later :=
  List.filterMap_append

theorem publishedFor_diagnostics :
    publishedFor uri [.diagnostics ⟨other, diagnostics⟩] = if other = uri then [diagnostics] else [] := by
  unfold publishedFor
  by_cases own : other = uri
  · simp [Outbound.published?, own]
  · simp [Outbound.published?, own]

theorem publishedFor_unpublished {messages : List Outbound} (plain : ∀ m ∈ messages, m.published? = none) :
    publishedFor uri messages = [] :=
  List.filterMap_eq_nil_iff.mpr fun m member => by rw [plain m member, Option.bind_none]

end Published

/-! ## Sessions in which nothing sticks -/

/-- A session that shows diagnostics for some time and then clears them, as long as it is not to shut down. -/
structure Timed (s : Session) : Prop where
  balanced : Balanced s
  clearing : 0 < s.settings.diagnosticTimeout
  limited : 0 < s.settings.actionTimeout
  lasting : ∀ job ∈ s.desk.agenda.jobs, ∀ signal, job.work.signal? = some signal → signal.timeout.isInstant = false
  stays : ∀ job ∈ s.desk.agenda.jobs, ∀ number message, job.work ≠ .handle number .shutdown message
  begun : ∀ timer ∈ s.desk.agenda.timers, ∀ key span action, timer.job.work ≠ .delay key span action

section Timing

variable {s t : Session} {events : List Event} {job : Job Work} {rest : List (Job Work)} {next work : Work}

theorem isInstant_ofMillis {millis : Nat} (positive : 0 < millis) : (Span.ofMillis millis).isInstant = false := by
  refine decide_eq_false fun past => ?_
  have past : (millis : Int) * 1000000 ≤ 0 := past
  omega

theorem Timed.start {settings : Settings} (registry : Registry) (sink : Sink)
    (clearing : 0 < settings.diagnosticTimeout) (limited : 0 < settings.actionTimeout) :
    Timed (Session.start settings registry sink) := by
  refine ⟨.start settings registry sink, clearing, limited, ?_, ?_, ?_⟩ <;>
    exact fun _ member => absurd member List.not_mem_nil

theorem mem_of_ready (ready : s.desk.agenda.ready = job :: rest) : job ∈ s.desk.agenda.jobs := by
  rw [Agenda.jobs_of_ready ready]
  exact List.mem_cons_self ..

/-- The work of a session shows diagnostics for some time. -/
theorem Timed.shownFor (timed : Timed s) (member : job ∈ s.desk.agenda.jobs) :
    (job.work.shownFor s.settings).isInstant = false := by
  have lasting := timed.lasting job member
  obtain ⟨ticket, work⟩ := job
  cases work with
  | tick signal since frame => exact lasting signal rfl
  | handle => exact isInstant_ofMillis timed.limited
  | _ => exact isInstant_ofMillis timed.clearing

/-- Signals that arise show for as long as what they arise from. -/
theorem Arises.lasting (arises : Arises s work next) {signal : Signal} (own : next.signal? = some signal) :
    signal.timeout = work.shownFor s.settings ∨ work.signal? = some signal := by
  cases arises with
  | animated shown =>
    cases own
    exact .inl shown
  | handed hands => exact .inr (hands.plain.2 ▸ own)
  | _ => cases own

/-- Only messages that arrive are to be taken up. -/
theorem Arises.not_handle (arises : Arises s work next) (number : Nat) (handler : Handler) (message : Message) :
    next ≠ .handle number handler message := by
  rintro rfl
  cases arises with
  | handed hands => cases hands

/-- Delays do not wait for timers. -/
theorem FollowsAt.not_delay {settings : Settings} {now due : Instant}
    (follows : FollowsAt settings now work due next) (key : String) (span : Span) (action : DelayedAction) :
    next ≠ .delay key span action := by
  rintro rfl
  cases follows with
  | succeeds succeeds => cases succeeds
  | ticks _ signal => cases signal

/-- What is on the agenda after a step. -/
theorem Step.jobs (step : Step s events t) (sound : Sound [] s) : ∀ other ∈ t.desk.agenda.jobs,
    other ∈ s.desk.agenda.jobs ∨
      (∃ m ∈ received events, ∃ number handler, handler? m = some handler ∧ other.work = .handle number handler m) ∨
      ∃ job ∈ s.desk.agenda.jobs, Arises s job.work other.work := by
  intro other member
  cases step with
  | receive m =>
    refine (handle_jobs sound m other member).imp_right fun taken => ?_
    exact .inl ⟨m, List.mem_singleton_self _, taken⟩
  | turn ready =>
    obtain ⟨acts, account⟩ := turn_account sound ready
    rcases account.arises other member with old | arises
    · refine .inl ?_
      rw [Agenda.jobs_of_ready ready]
      exact List.mem_cons_of_mem _ old
    · exact .inr (.inr ⟨_, mem_of_ready ready, arises⟩)
  | wake idle soonest => exact .inl (Agenda.jobs_ring soonest ▸ member)
  | pass => exact .inl member

/-- Only a message that asks for it is taken up by the shutdown. -/
theorem method_of_shutdown {m : Message} (handler : handler? m = some .shutdown) : m.method = some "shutdown" := by
  unfold handler? at handler
  cases called : m.method with
  | none =>
    rw [called] at handler
    cases handler
  | some method =>
    rw [called, Option.bind_some] at handler
    rcases ofMethod?_cases method with unhandled | known
    · rw [unhandled] at handler
      cases handler
    · rw [handler] at known
      simp at known
      rw [known]

/-- No step sets a timer for a delay that has not begun. -/
theorem Step.begun (step : Step s events t) (sound : Sound [] s)
    (begun : ∀ timer ∈ s.desk.agenda.timers, ∀ key span action, timer.job.work ≠ .delay key span action) :
    ∀ timer ∈ t.desk.agenda.timers, ∀ key span action, timer.job.work ≠ .delay key span action := by
  cases step with
  | receive m =>
    rcases handle_cases sound.own m with ⟨sink, handler, _, started⟩ | ⟨sink, _, refused⟩
    · rw [started]
      exact begun
    · rw [refused]
      exact begun
  | turn ready =>
    intro timer member key span action
    rcases (turn_succession sound ready).timers timer member with old | follows
    · exact begun timer old key span action
    · exact follows.not_delay key span action
  | wake idle soonest =>
    intro timer member
    refine begun timer ?_
    rw [soonest]
    exact List.mem_cons_of_mem _ member
  | pass => exact begun

theorem Step.timed (step : Step s events t) (timed : Timed s)
    (stays : ∀ m ∈ received events, m.method ≠ some "shutdown") : Timed t := by
  have sound := timed.balanced.sound
  have settings := step.settings sound
  refine ⟨step.balanced timed.balanced, settings ▸ timed.clearing, settings ▸ timed.limited, ?_, ?_,
    step.begun sound timed.begun⟩
  · intro other member signal own
    rcases step.jobs sound other member with old | ⟨m, -, number, handler, -, taken⟩ | ⟨job, here, arises⟩
    · exact timed.lasting other old signal own
    · rw [taken] at own
      cases own
    · rcases arises.lasting own with shown | same
      · rw [shown]
        exact timed.shownFor here
      · exact timed.lasting job here signal same
  · intro other member number message own
    rcases step.jobs sound other member with old | ⟨m, there, _, handler, known, taken⟩ | ⟨job, here, arises⟩
    · exact timed.stays other old number message own
    · cases own.symm.trans taken
      exact stays _ there (method_of_shutdown known)
    · exact arises.not_handle number .shutdown message own

theorem Run.timed (run : Run s events t) (timed : Timed s)
    (stays : ∀ m ∈ received events, m.method ≠ some "shutdown") : Timed t := by
  induction run with
  | nil => exact timed
  | cons step _ ih =>
    rw [received_append] at stays
    refine ih (step.timed timed fun m member => ?_) fun m member => ?_
    · exact stays m (List.mem_append_left _ member)
    · exact stays m (List.mem_append_right _ member)

end Timing

/-! ## The clearing -/

/-- Work that clears the diagnostics of a document at an instant, when its delay is over. -/
def Work.ClearsAt (uri : String) (due : Int) (work : Work) (instant : Int) : Prop :=
  (∃ span : Span, span.isInstant = false ∧ work = .delay (diagnosticsKey uri) span (.clear uri) ∧
    instant + span.nanos = due) ∨
    work = .fire (diagnosticsKey uri) (.clear uri) ∧ instant = due

/-- Whether an event is the clearing of a document's diagnostics when their time is over. -/
def Event.isClearing (uri : String) : Event → Bool
  | turn _ ⟨_, .fire _ (.clear other)⟩ => other == uri
  | _ => false

section Clearings

variable {uri : String} {due : Int} {d : Diagnostic} {ds : List Diagnostic} {s t : Session} {events : List Event}
  {job : Job Work} {rest : List (Job Work)}

theorem Work.ClearsAt.slot {work : Work} {instant : Int} (clears : work.ClearsAt uri due instant) :
    work.slot = some (diagnosticsKey uri, .clear uri) := by
  rcases clears with ⟨span, -, rfl, -⟩ | ⟨rfl, -⟩ <;> rfl

theorem Work.ClearsAt.le {work : Work} {instant : Int} (clears : work.ClearsAt uri due instant) : instant ≤ due := by
  rcases clears with ⟨span, lasting, -, rfl⟩ | ⟨-, rfl⟩
  · have ahead : ¬span.nanos ≤ 0 := of_decide_eq_false lasting
    omega
  · exact Int.le_refl _

theorem Event.work_of_isClearing (own : (Event.turn s job).isClearing uri = true) :
    ∃ key, job.work = .fire key (.clear uri) := by
  obtain ⟨ticket, work⟩ := job
  unfold Event.isClearing at own
  split at own
  · next same =>
    obtain ⟨-, same⟩ := Event.turn.inj same
    obtain rfl := beq_iff_eq.mp own
    exact ⟨_, congrArg Job.work same⟩
  · cases own

/-- The clearing sends an empty list. -/
theorem fire_gives (key : String) (ticket : Nat)
    (ready : s.desk.agenda.ready = ⟨ticket, .fire key (.clear uri)⟩ :: rest) :
    (Event.turn s ⟨ticket, .fire key (.clear uri)⟩).gives = [.diagnostics ⟨uri, []⟩] := by
  obtain ⟨sink, sent⟩ := send_eq (s.begun ⟨ticket, .fire key (.clear uri)⟩ rest) (.diagnostics ⟨uri, []⟩)
  have outbox : (perform ⟨ticket, .fire key (.clear uri)⟩ (s.taken rest)).outbox =
      s.outbox ++ [.diagnostics ⟨uri, []⟩] := congrArg Session.outbox sent
  rw [Event.gives, turned_eq ready, outbox, List.drop_left' rfl]

/-- Nothing is published when a message arrives. -/
theorem received_publishes_nothing (uri : String) (m : Message) :
    publishedFor uri (Event.received m).gives = [] := by
  refine publishedFor_unpublished fun other given => ?_
  rw [Event.gives] at given
  split at given
  · cases given
  · rw [unknown] at given
    split at given
    · rw [List.mem_singleton.mp given]
      rfl
    · cases given

end Clearings

end EditorAssist.Session

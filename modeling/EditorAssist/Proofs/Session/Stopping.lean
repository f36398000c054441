import EditorAssist.Proofs.Session.Clearing
import EditorAssist.Proofs.Session.Signalling
import EditorAssist.Proofs.Session.Spinning

/-!
# What a stop clears

A signal in diagnostic mode shows each tick in the document that is current at that time, and its stop clears the
document that is current then. So the last tick in any other document stays, until its timeout has passed or for
good if there is none.
-/

namespace EditorAssist.Session

open EditorAssist.Backend EditorAssist.Debounce EditorAssist.Journal EditorAssist.Json
open EditorAssist.Payload EditorAssist.Settings EditorAssist.Text EditorAssist.Time EditorAssist.Wire

/-! ## Tickets -/

section Tickets

variable {hand : List (Job Work)} {s t u : Session} {acts : List Act} {job : Job Work} {rest : List (Job Work)}

/-- Strokes give out new tickets, and all of their jobs but the old ones have new tickets. -/
structure Ticketed (s t : Session) : Prop where
  issued : s.desk.agenda.issued ≤ t.desk.agenda.issued
  jobs : ∀ job ∈ t.desk.agenda.jobs, job ∈ s.desk.agenda.jobs ∨ s.desk.agenda.issued ≤ job.ticket

theorem Ticketed.of_agenda (agenda : t.desk.agenda = s.desk.agenda) : Ticketed s t := by
  constructor
  · rw [agenda]
  · rw [agenda]
    exact fun job member => .inl member

theorem Ticketed.trans (first : Ticketed s t) (second : Ticketed t u) : Ticketed s u where
  issued := Nat.le_trans first.issued second.issued
  jobs := fun job member =>
    (second.jobs job member).elim (first.jobs job) fun new => .inr (Nat.le_trans first.issued new)

theorem Ticketed.spawn {work : Work} (before : Ticketed s t)
    (spawned : u.desk.agenda = (t.desk.agenda.spawn work).1) : Ticketed s u := by
  constructor <;> rw [spawned]
  · exact Nat.le_succ_of_le before.issued
  · intro job member
    rcases List.mem_cons.mp ((Agenda.jobs_spawn _).mem_iff.mp member) with rfl | old
    · exact .inr before.issued
    · exact before.jobs job old

theorem Ticketed.cancel (s : Session) (ticket : Nat) : Ticketed s (s.mapAgenda (·.cancel ticket)) := by
  refine ⟨Nat.le_refl _, fun job member => ?_⟩
  have there : job ∈ (s.desk.agenda.cancel ticket).jobs := member
  rw [Agenda.jobs_cancel] at there
  exact .inl (List.mem_filter.mp there).1

theorem Ticketed.withdraw (s : Session) (key : String) : Ticketed s { s with desk := (s.desk.cancel key).1 } := by
  rcases s.desk.cancel_cases key with ⟨_, same⟩ | ⟨entry, _, _, gone⟩
  · exact .of_agenda (by rw [same])
  · exact (Ticketed.cancel s entry.ticket).trans (.of_agenda (by rw [gone]; rfl))

theorem Stroke.ticketed (stroke : Stroke hand s acts t) (sound : Sound hand s) : Ticketed s t := by
  cases stroke with
  | note | edit | ask => exact .of_agenda rfl
  | say m other =>
    obtain ⟨sink, sent⟩ := send_eq s m
    rw [sent]
    exact .of_agenda rfl
  | clear uri =>
    obtain ⟨sink, sent⟩ := send_eq s (.diagnostics ⟨uri, []⟩)
    rw [clearDiagnostics, sent]
    exact .of_agenda rfl
  | publish diagnostics timeout current =>
    obtain ⟨sink, same⟩ := publish_eq sound current diagnostics timeout
    have gone : Ticketed s { s with desk := (s.desk.cancel (diagnosticsKey s.documents.currentUri)).1 } := .withdraw s _
    rw [same]
    by_cases instant : timeout.isInstant = true
    · exact gone.trans (.of_agenda (by simp only [if_pos instant]))
    · exact gone.spawn (by simp only [if_neg instant]; rfl)
  | wipe current =>
    obtain ⟨sink, same⟩ := resetDiagnostics_eq sound current
    rw [same]
    exact (Ticketed.withdraw s _).trans (.of_agenda rfl)
  | start signal slow => exact (Ticketed.of_agenda rfl).spawn rfl
  | stop ticket signal => exact .cancel s ticket
  | postpone job => exact (Ticketed.withdraw s completionKey).spawn rfl
  | tell entries =>
    obtain ⟨sink, invocations, same⟩ := withdrawn_outbox entries s
    rw [same]
    exact .of_agenda rfl
  | drop =>
    have agenda := agenda_foldl_withdraw s.desk.pending { s.desk with pending := [] }
    refine ⟨?_, fun job member => .inl ?_⟩
    · show s.desk.agenda.issued ≤ (s.desk.pending.foldl Desk.withdraw { s.desk with pending := [] }).agenda.issued
      rw [agenda]
    · have member : job ∈ (s.desk.pending.foldl Desk.withdraw { s.desk with pending := [] }).agenda.jobs := member
      rw [agenda] at member
      rcases List.mem_append.mp member with ready | waits
      · exact List.mem_append_left _ (List.mem_filter.mp ready).1
      · obtain ⟨timer, there, rfl⟩ := List.mem_map.mp waits
        exact List.mem_append_right _ (List.mem_map_of_mem (List.mem_filter.mp there).1)

theorem Strokes.ticketed (strokes : Strokes hand s acts t) (sound : Sound hand s) : Ticketed s t := by
  induction strokes with
  | nil s => exact .of_agenda rfl
  | cons stroke _ ih => exact (stroke.ticketed sound).trans (ih (stroke.sound sound))

/-- The jobs after a turn are old ones, or new ones, or what goes on under the ticket of the job that was done. -/
theorem turn_tickets (sound : Sound [] s) (ready : s.desk.agenda.ready = job :: rest) :
    s.desk.agenda.issued ≤ (perform job (s.taken rest)).desk.agenda.issued ∧
      ∀ other ∈ (perform job (s.taken rest)).desk.agenda.jobs, other ∈ (s.taken rest).desk.agenda.jobs ∨
        s.desk.agenda.issued ≤ other.ticket ∨
        other.ticket = job.ticket ∧ other.work.signal? = job.work.signal? := by
  obtain ⟨ticket, work⟩ := job
  rcases work.delay_or with ⟨key, span, action, rfl⟩ | starts
  · refine ⟨?_, fun other member => ?_⟩
    · show s.desk.agenda.issued ≤ ((s.taken rest).desk.agenda.waitUntil _ _).issued
      rw [Agenda.issued_waitUntil]
      exact Nat.le_refl _
    rcases List.mem_cons.mp ((Agenda.jobs_waitUntil _ _).mem_iff.mp member) with rfl | old
    · exact .inr (.inr ⟨rfl, rfl⟩)
    · exact .inl old
  · have soundly := sound.begun ready starts
    obtain ⟨pending, same⟩ := begun_eq s ⟨ticket, work⟩ rest
    obtain ⟨u, ⟨acts, strokes, -⟩, left⟩ := perform_turnsTo sound ready starts
    have ticketed := strokes.ticketed soundly
    rw [same] at ticketed
    have grown (other : Job Work) (member : other ∈ u.desk.agenda.jobs) :
        other ∈ (s.taken rest).desk.agenda.jobs ∨ s.desk.agenda.issued ≤ other.ticket ∨
          other.ticket = ticket ∧ other.work.signal? = work.signal? :=
      (ticketed.jobs other member).imp_right .inl
    generalize perform ⟨ticket, work⟩ (s.taken rest) = t at left
    cases left with
    | ends => exact ⟨ticketed.issued, grown⟩
    | lined hands =>
      refine ⟨ticketed.issued, fun other member => ?_⟩
      rcases List.mem_cons.mp ((Agenda.jobs_enqueue _).mem_iff.mp member) with rfl | old
      · exact .inr (.inr ⟨rfl, hands.plain.2⟩)
      · exact grown other old
    | spawned hands =>
      refine ⟨Nat.le_succ_of_le ticketed.issued, fun other member => ?_⟩
      rcases List.mem_cons.mp ((Agenda.jobs_spawn _).mem_iff.mp member) with rfl | old
      · exact .inr (.inl ticketed.issued)
      · exact grown other old
    | waits due hands =>
      refine ⟨Nat.le_trans ticketed.issued (Nat.le_of_eq (Agenda.issued_waitUntil _ _).symm), fun other member => ?_⟩
      rcases List.mem_cons.mp ((Agenda.jobs_waitUntil _ _).mem_iff.mp member) with rfl | old
      · exact .inr (.inr ⟨rfl, hands.plain.2⟩)
      · exact grown other old

/-- What is to clear diagnostics after a turn was to do so before, or is to clear what the turn has published. -/
theorem turn_arms (sound : Sound [] s) (ready : s.desk.agenda.ready = job :: rest) {other : Job Work}
    (member : other ∈ (perform job (s.taken rest)).desk.agenda.jobs) {key uri : String}
    (slot : other.work.slot = some (key, .clear uri)) :
    other ∈ (s.taken rest).desk.agenda.jobs ∨ job.work.slot = some (key, .clear uri) ∨
      publishedFor uri (Event.turn s job).gives ≠ [] ∧ (job.work.shownFor s.settings).isInstant = false := by
  obtain ⟨ticket, work⟩ := job
  rcases work.delay_or with ⟨key', span, action, rfl⟩ | starts
  · rcases List.mem_cons.mp ((Agenda.jobs_waitUntil _ _).mem_iff.mp member) with rfl | old
    · exact .inr (.inl slot)
    · exact .inl old
  · have soundly := sound.begun ready starts
    obtain ⟨pending, same⟩ := begun_eq s ⟨ticket, work⟩ rest
    obtain ⟨u, ⟨acts, strokes, fits⟩, left⟩ := perform_turnsTo sound ready starts
    have grown := strokes.grown soundly
    have outbox := (left.framed (strokes.framed soundly)).outbox
    rw [same] at fits grown outbox
    have gives : (Event.turn s ⟨ticket, work⟩).gives = acts.flatMap Act.messages := by
      rw [Event.gives, turned_eq ready, outbox]
      exact List.drop_left' rfl
    rcases left.jobs other member with before | hands
    · rcases List.mem_append.mp before with lined | waits
      · rcases grown.ready other lined with old | ⟨act, done, spawns⟩
        · exact .inl (List.mem_append_left _ old)
        · cases act with
          | shows shown diagnostics timeout =>
            obtain ⟨lasting, own⟩ := spawns
            rw [own] at slot
            cases slot
            have fit : timeout = work.shownFor s.settings := fits _ done
            refine .inr (.inr ⟨?_, fit ▸ lasting⟩)
            rw [gives, publishedFor_flatMap]
            intro silent
            have nothing := List.flatMap_eq_nil_iff.mp silent _ done
            rw [Act.messages, publishedFor_diagnostics, if_pos rfl] at nothing
            cases nothing
          | starts =>
            have own : other.work = _ := spawns
            rw [own] at slot
            cases slot
          | admits =>
            have own : other.work = _ := spawns
            rw [own] at slot
            cases slot
          | _ => exact spawns.elim
      · obtain ⟨timer, there, rfl⟩ := List.mem_map.mp waits
        exact .inl (List.mem_append_right _ (List.mem_map_of_mem (grown.timers timer there)))
    · rw [hands.plain.1] at slot
      cases slot

end Tickets

/-! ## A session with a signal at hand -/

/-- What happens while a signal is at hand: the session goes on, or the signal is started or stopped. -/
inductive Happening where
  | event (e : Event)
  | started (s : Session) (active : ActiveSignal)
  | stopped (s : Session) (active : ActiveSignal)

/-- A step of a session with a signal at hand. -/
inductive SignalStep : Session × ActiveSignal → List Happening → Session × ActiveSignal → Prop
  | session {s t : Session} {events : List Event} (active : ActiveSignal) (step : Step s events t) :
      SignalStep (s, active) (events.map .event) (t, active)
  | start (s : Session) (active : ActiveSignal) : SignalStep (s, active) [.started s active] (s.startSignal active)
  | stop (s : Session) (active : ActiveSignal) : SignalStep (s, active) [.stopped s active] (s.stopSignal active)

/-- A run of a session with a signal at hand. -/
abbrev SignalRun : Session × ActiveSignal → List Happening → Session × ActiveSignal → Prop := Path SignalStep

/-- The ticket that a signal has after it is started. -/
def Happening.ticket? : Happening → Option Nat
  | started s active => (s.startSignal active).2.ticking.map (·.ticket)
  | _ => none

/-- The tickets that the signal at hand was given. -/
def tickets (happenings : List Happening) : List Nat := happenings.filterMap Happening.ticket?

/-- Whether an event is a tick of a signal that was given some tickets. -/
def Event.isTick (tickets : List Nat) : Event → Bool
  | turn _ ⟨ticket, .tick ..⟩ => tickets.contains ticket
  | _ => false

/-- The signal at hand is the only publisher of diagnostics: apart from the clearing of what is shown no longer,
whatever publishes diagnostics is a tick of the signal. -/
def OnlyPublisher (happenings : List Happening) : Prop :=
  ∀ earlier e later, happenings = earlier ++ .event e :: later → ∀ uri, publishedFor uri e.gives ≠ [] →
    e.isTick (tickets earlier) = true ∨ e.isClearing uri = true

/-- A tick of the signal at hand was published in a document. -/
def Ticked (uri : String) (happenings : List Happening) : Prop :=
  ∃ earlier e later, happenings = earlier ++ .event e :: later ∧ e.isTick (tickets earlier) = true ∧
    publishedFor uri e.sends ≠ []

/-- What holds of a session with a signal at hand that is the only publisher of diagnostics. -/
structure Watched (signal : Signal) (tickets : List Nat) (s : Session) (active : ActiveSignal) : Prop where
  sound : Sound [] s
  same : active.signal = signal
  issued : ∀ ticket ∈ tickets, ticket < s.desk.agenda.issued
  listed : ∀ ticking, active.ticking = some ticking → ticking.ticket ∈ tickets
  /-- Only work of the signal has one of its tickets, and it is the one that the signal is running under. -/
  alone : ∀ job ∈ s.desk.agenda.jobs, job.ticket ∈ tickets →
    job.work.signal? = some signal ∧ active.ticking.map (·.ticket) = some job.ticket
  /-- Without a timeout nothing is to be cleared. -/
  unarmed : signal.timeout.isInstant = true → ∀ job ∈ s.desk.agenda.jobs, ∀ key uri,
    job.work.slot ≠ some (key, .clear uri)

section Watching

variable {signal : Signal} {known : List Nat} {s t : Session} {active : ActiveSignal} {job : Job Work}
  {rest : List (Job Work)} {uri : String}

theorem isSignal_of_signal? {work : Work} (own : work.signal? = some signal) : work.isSignal = true := by
  cases work <;> first | rfl | cases own

theorem Watched.owned (watched : Watched signal known s active) : Owned [] s active := by
  intro ticking running
  have known := watched.listed ticking running
  refine ⟨watched.issued _ known, fun job member own => ?_⟩
  exact isSignal_of_signal? (watched.alone job member (own ▸ known)).1

/-- A session in which the same jobs are left, or fewer. -/
theorem Watched.of_jobs (watched : Watched signal known s active) (sound : Sound [] t)
    (issued : s.desk.agenda.issued ≤ t.desk.agenda.issued)
    (jobs : ∀ job ∈ t.desk.agenda.jobs, job ∈ s.desk.agenda.jobs) : Watched signal known t active where
  sound := sound
  same := watched.same
  issued := fun ticket member => Nat.lt_of_lt_of_le (watched.issued ticket member) issued
  listed := watched.listed
  alone := fun job member => watched.alone job (jobs job member)
  unarmed := fun instant job member => watched.unarmed instant job (jobs job member)

theorem Watched.receive (watched : Watched signal known s active) (m : Message) :
    Watched signal known (s.handle m) active := by
  have sound := watched.sound.handle m
  rcases handle_cases watched.sound.own m with ⟨sink, handler, _, started⟩ | ⟨sink, _, refused⟩
  · rw [started] at sound ⊢
    have jobs : ∀ job ∈ (invoke m { s with sink } handler).desk.agenda.jobs,
        job = ⟨s.desk.agenda.issued, .handle s.invocations.length handler m⟩ ∨ job ∈ s.desk.agenda.jobs :=
      fun job member => List.mem_cons.mp ((Agenda.jobs_spawn _).mem_iff.mp member)
    refine ⟨sound, watched.same, fun ticket member => Nat.lt_succ_of_lt (watched.issued ticket member),
      watched.listed, fun job member own => ?_, fun instant job member key uri => ?_⟩
    · rcases jobs job member with rfl | old
      · exact absurd (watched.issued _ own) (Nat.lt_irrefl _)
      · exact watched.alone job old own
    · rcases jobs job member with rfl | old
      · exact nofun
      · exact watched.unarmed instant job old key uri
  · rw [refused] at sound ⊢
    exact watched.of_jobs sound (Nat.le_refl _) fun job member => member

theorem Event.work_of_isTick (own : (Event.turn s job).isTick known = true) :
    job.ticket ∈ known ∧ ∃ signal since frame, job.work = .tick signal since frame := by
  obtain ⟨ticket, work⟩ := job
  unfold Event.isTick at own
  split at own
  · next same =>
    obtain ⟨-, same⟩ := Event.turn.inj same
    cases same
    exact ⟨List.contains_iff_mem.mp own, _, _, _, rfl⟩
  · cases own

theorem Watched.turn (watched : Watched signal known s active) (ready : s.desk.agenda.ready = job :: rest)
    (only : ∀ uri, publishedFor uri (Event.turn s job).gives ≠ [] →
      (Event.turn s job).isTick known = true ∨ (Event.turn s job).isClearing uri = true) :
    Watched signal known (perform job (s.taken rest)) active := by
  obtain ⟨issued, jobs⟩ := turn_tickets watched.sound ready
  have here := mem_of_ready ready
  have old {other : Job Work} (member : other ∈ (s.taken rest).desk.agenda.jobs) : other ∈ s.desk.agenda.jobs := by
    rw [Agenda.jobs_of_ready ready]
    exact List.mem_cons_of_mem _ member
  refine ⟨watched.sound.turn ready, watched.same,
    fun ticket member => Nat.lt_of_lt_of_le (watched.issued ticket member) issued, watched.listed,
    fun other member own => ?_, fun instant other member key uri slot => ?_⟩
  · rcases jobs other member with before | new | ⟨ticket, like⟩
    · exact watched.alone other (old before) own
    · exact absurd (watched.issued _ own) (Nat.not_lt.mpr new)
    · rw [ticket, like]
      exact watched.alone job here (ticket ▸ own)
  · rcases turn_arms watched.sound ready member slot with before | own | ⟨shown, lasting⟩
    · exact watched.unarmed instant other (old before) key uri slot
    · exact watched.unarmed instant job here key uri own
    · rcases only uri shown with tick | clearing
      · obtain ⟨ticket, signal', since, frame, work⟩ := Event.work_of_isTick tick
        have own := (watched.alone job here ticket).1
        rw [work] at own lasting
        cases own
        exact absurd instant (Bool.eq_false_iff.mp lasting)
      · obtain ⟨key, work⟩ := Event.work_of_isClearing clearing
        exact watched.unarmed instant job here key uri (by rw [work]; rfl)

/-- A signal in diagnostic mode needs no name. -/
theorem named_of_diagnostic (mode : signal.mode = .diagnostic) (s : Session) : s.named signal = signal := by
  rw [Session.named, mode]

/-- Starting a signal in diagnostic mode gives no message: it makes its work ready, unless it is disabled or running. -/
theorem startSignal_cases (mode : signal.mode = .diagnostic) (ticking : Option Ticking) (s : Session) :
    s.startSignal ⟨signal, ticking⟩ = (s, ⟨signal, ticking⟩) ∨
      ticking = none ∧ (s.startSignal ⟨signal, ticking⟩).2 = ⟨signal, some ⟨s.desk.agenda.issued, s.now⟩⟩ ∧
        (s.startSignal ⟨signal, ticking⟩).1.desk.agenda = (s.desk.agenda.spawn (.animate signal)).1 ∧
        (s.startSignal ⟨signal, ticking⟩).1.outbox = s.outbox := by
  cases ticking with
  | some ticking => exact .inl (by rw [startSignal]; exact if_pos (Bool.or_true _))
  | none =>
    cases enabled : signal.enabled with
    | false => exact .inl (by rw [startSignal, enabled]; exact if_pos rfl)
    | true =>
      obtain ⟨⟨requested, tokens, gives⟩, active⟩ := @gives_startSignal s signal enabled
      rw [named_of_diagnostic mode] at gives active
      have silent : s.announcement signal ++ (s.channel signal).opening = [] := by
        rw [announcement, Session.channel, mode]
        rfl
      rw [silent] at gives
      exact .inr ⟨rfl, active, gives.agenda_eq, gives.outbox_eq.trans (List.append_nil _)⟩

/-- A reset takes jobs off the agenda and adds none. -/
theorem resetDiagnostics_jobs {hand : List (Job Work)} (sound : Sound hand s) :
    s.resetDiagnostics.desk.agenda.issued = s.desk.agenda.issued ∧
      ∀ job ∈ s.resetDiagnostics.desk.agenda.jobs, job ∈ s.desk.agenda.jobs := by
  cases current : s.documents.currentUri.isEmpty with
  | true =>
    have same : s.resetDiagnostics = s := if_pos current
    rw [same]
    exact ⟨rfl, fun job member => member⟩
  | false =>
    obtain ⟨sink, same⟩ := resetDiagnostics_eq sound current
    rw [same]
    rcases s.desk.cancel_cases (diagnosticsKey s.documents.currentUri) with ⟨_, kept⟩ | ⟨entry, _, _, gone⟩
    · rw [kept]
      exact ⟨rfl, fun job member => member⟩
    · rw [gone]
      refine ⟨rfl, fun job member => ?_⟩
      rw [Agenda.jobs_cancel] at member
      exact (List.mem_filter.mp member).1

/-- What a reset gives: an empty list for the current document, if there is one. -/
def wiped (s : Session) : List Outbound :=
  if s.documents.currentUri.isEmpty then [] else [.diagnostics ⟨s.documents.currentUri, []⟩]

theorem outbox_resetDiagnostics {hand : List (Job Work)} (sound : Sound hand s) :
    s.resetDiagnostics.outbox = s.outbox ++ s.wiped := by
  unfold wiped
  cases current : s.documents.currentUri.isEmpty with
  | true =>
    have same : s.resetDiagnostics = s := if_pos current
    rw [same]
    exact (List.append_nil _).symm
  | false =>
    obtain ⟨sink, same⟩ := resetDiagnostics_eq sound current
    rw [same]
    rfl

/-- Stopping a signal in diagnostic mode that is running withdraws its work and clears the current document. -/
theorem stopSignal_running (mode : signal.mode = .diagnostic) (ticking : Ticking) (sound : Sound [] s)
    (owned : Owned [] s ⟨signal, some ticking⟩) :
    (s.stopSignal ⟨signal, some ticking⟩).2 = ⟨signal, none⟩ ∧
      (s.stopSignal ⟨signal, some ticking⟩).1.desk.agenda.issued = s.desk.agenda.issued ∧
      (∀ job ∈ (s.stopSignal ⟨signal, some ticking⟩).1.desk.agenda.jobs,
        job ∈ s.desk.agenda.jobs ∧ job.ticket ≠ ticking.ticket) ∧
      (s.stopSignal ⟨signal, some ticking⟩).1.outbox = s.outbox ++ s.wiped := by
  have stopped : Sound [] ((s.mapAgenda (·.cancel ticking.ticket)).log .debug "progress" "progress stopped"
      [("mode", .text signal.mode.name), ("elapsed", .text (Instant.elapsedText ticking.since s.now))]) :=
    (sound.stop (owned ticking rfl)).log ..
  obtain ⟨issued, jobs⟩ := resetDiagnostics_jobs stopped
  have outbox := outbox_resetDiagnostics stopped
  unfold Session.stopSignal
  rw [mode] at issued jobs outbox ⊢
  refine ⟨rfl, issued, fun job member => ?_, outbox⟩
  have there : job ∈ (s.desk.agenda.cancel ticking.ticket).jobs := jobs job member
  rw [Agenda.jobs_cancel] at there
  obtain ⟨old, other⟩ := List.mem_filter.mp there
  exact ⟨old, bne_iff_ne.mp other⟩

theorem Watched.start (watched : Watched signal known s active) (mode : signal.mode = .diagnostic)
    (slow : 1000000 ≤ signal.interval.nanos) :
    Watched signal (known ++ ((s.startSignal active).2.ticking.map (·.ticket)).toList) (s.startSignal active).1
      (s.startSignal active).2 := by
  have sound : Sound [] (s.startSignal active).1 := by
    have acted : Acted [] (fun _ => True) s (s.startSignal active).1 :=
      (Acted.refl s).startSignal active (by rw [watched.same]; exact slow) (fun _ _ => trivial) fun _ _ => trivial
    exact acted.sound watched.sound
  obtain ⟨own, ticking⟩ := active
  obtain rfl : own = signal := watched.same
  rcases startSignal_cases mode ticking s with still | ⟨rfl, active, agenda, -⟩
  · rw [still]
    -- The ticket of a signal that is running is known.
    have more : ∀ ticket ∈ known ++ (ticking.map (·.ticket)).toList, ticket ∈ known := by
      intro ticket member
      rcases List.mem_append.mp member with old | given
      · exact old
      · obtain ⟨running, own, rfl⟩ := Option.map_eq_some_iff.mp (Option.mem_toList.mp given)
        exact watched.listed running own
    exact ⟨watched.sound, rfl, fun ticket member => watched.issued ticket (more ticket member),
      fun running own => List.mem_append_left _ (watched.listed running own),
      fun job member given => watched.alone job member (more _ given), watched.unarmed⟩
  · rw [active]
    have jobs : ∀ job ∈ (s.startSignal ⟨own, none⟩).1.desk.agenda.jobs,
        job = ⟨s.desk.agenda.issued, .animate own⟩ ∨ job ∈ s.desk.agenda.jobs := by
      rw [agenda]
      exact fun job member => List.mem_cons.mp ((Agenda.jobs_spawn _).mem_iff.mp member)
    refine ⟨sound, rfl, fun ticket member => ?_, ?_, fun job member given => ?_, fun instant job member key uri => ?_⟩
    · rw [agenda]
      rcases List.mem_append.mp member with old | new
      · exact Nat.lt_succ_of_lt (watched.issued ticket old)
      · rw [List.mem_singleton.mp new]
        exact Nat.lt_succ_self _
    · rintro _ ⟨⟩
      exact List.mem_append_right _ (List.mem_singleton_self _)
    · rcases jobs job member with rfl | old
      · exact ⟨rfl, rfl⟩
      · rcases List.mem_append.mp given with before | new
        · cases (watched.alone job old before).2
        · have earlier := watched.sound.coherent.issued job old
          rw [List.mem_singleton.mp new] at earlier
          exact absurd earlier (Nat.lt_irrefl _)
    · rcases jobs job member with rfl | old
      · exact nofun
      · exact watched.unarmed instant job old key uri

/-- After a stop no work of the signal is left. -/
theorem Watched.stop (watched : Watched signal known s active) (mode : signal.mode = .diagnostic) :
    Watched signal known (s.stopSignal active).1 (s.stopSignal active).2 ∧ (s.stopSignal active).2.ticking = none := by
  have owned := watched.owned
  have sound := watched.sound.stopSignal owned
  obtain ⟨own, ticking⟩ := active
  obtain rfl : own = signal := watched.same
  cases ticking with
  | none => exact ⟨watched, rfl⟩
  | some ticking =>
    obtain ⟨active, issued, jobs, -⟩ := stopSignal_running mode ticking watched.sound owned
    rw [active]
    refine ⟨⟨sound, rfl, fun ticket member => ?_, nofun, fun job member given => ?_, fun instant job member => ?_⟩, rfl⟩
    · rw [issued]
      exact watched.issued ticket member
    · obtain ⟨old, other⟩ := jobs job member
      exact absurd (Option.some.inj (watched.alone job old given).2).symm other
    · exact watched.unarmed instant job (jobs job member).1

/-- A tick that is published is shown in the current document, and nothing else is given. -/
theorem tick_shows {ticket frame : Nat} {since : Instant} (sound : Sound [] s)
    (ready : s.desk.agenda.ready = ⟨ticket, .tick signal since frame⟩ :: rest)
    (shown : publishedFor uri (Event.turn s ⟨ticket, .tick signal since frame⟩).gives ≠ []) :
    uri.isEmpty = false ∧
      ∃ diagnostics, (Event.turn s ⟨ticket, .tick signal since frame⟩).gives = [.diagnostics ⟨uri, diagnostics⟩] := by
  rw [gives_tick sound ready] at shown ⊢
  unfold tickMessages at shown ⊢
  split at shown
  · exact absurd rfl shown
  · exact absurd rfl shown
  · split at shown
    · exact absurd rfl shown
    · next current =>
      rw [publishedFor_diagnostics] at shown
      split at shown
      · next own =>
        rw [if_neg current, ← own]
        exact ⟨Bool.eq_false_iff.mpr current, _, rfl⟩
      · exact absurd rfl shown

/-- Whatever is published in a document tells that its name can be written. -/
theorem hasHalf_of_published {diagnostics : List Diagnostic}
    (written : (Outbound.diagnostics ⟨uri, diagnostics⟩).encodeFault? = none) : hasHalf uri.toList = false := by
  have encodable : Value.all _ (.obj [("method", .str "textDocument/publishDiagnostics"), ("params", .obj
      [("uri", .str uri), ("diagnostics", .arr (diagnostics.map Diagnostic.codec.write))]), ("jsonrpc", .str "2.0")]) =
      true := Wire.encodeFault?_eq_none_iff.mp written
  simp only [all_isEncodable_obj, all_isEncodable_str, List.all_cons, Bool.and_eq_true, Bool.not_eq_true'] at encodable
  exact encodable.2.1.2.1.2

end Watching

section Runs

variable {signal : Signal} {p q : Session × ActiveSignal} {past happened first later : List Happening}
  {u : Session} {job : Job Work} {uri : String}

theorem tickets_append : tickets (first ++ later) = tickets first ++ tickets later :=
  List.filterMap_append

theorem OnlyPublisher.nil : OnlyPublisher [] := by
  intro earlier e later same
  cases List.append_eq_nil_iff.mp same.symm |>.2

theorem OnlyPublisher.snoc (only : OnlyPublisher past) {happening : Happening}
    (own : ∀ e, happening = .event e → ∀ uri, publishedFor uri e.gives ≠ [] →
      e.isTick (tickets past) = true ∨ e.isClearing uri = true) : OnlyPublisher (past ++ [happening]) := by
  intro earlier e later same uri shown
  rcases List.append_eq_append_iff.mp same with ⟨between, rfl, split⟩ | ⟨between, rfl, split⟩
  · cases between with
    | nil =>
      rw [List.append_nil]
      exact own e (List.cons.inj split).1 uri shown
    | cons h between => cases (List.append_eq_nil_iff.mp (List.cons.inj split).2.symm).2
  · cases between with
    | nil =>
      rw [List.append_nil] at own
      exact own e (List.cons.inj split.symm).1 uri shown
    | cons h between =>
      obtain ⟨rfl, -⟩ := List.cons.inj split
      exact only earlier e between rfl uri shown

theorem OnlyPublisher.before (only : OnlyPublisher (first ++ later)) : OnlyPublisher first := by
  rintro earlier e after rfl uri shown
  exact only earlier e (after ++ later) (List.append_assoc ..) uri shown

/-- The jobs that a run does are ready when it does them. -/
theorem SignalStep.turns (step : SignalStep p happened q) (sound : Sound [] p.1)
    (member : .event (.turn u job) ∈ happened) : Sound [] u ∧ ∃ rest, u.desk.agenda.ready = job :: rest := by
  cases step with
  | session active step =>
    cases step with
    | receive m => cases List.mem_singleton.mp member
    | turn ready =>
      cases List.mem_singleton.mp member
      exact ⟨sound, _, ready⟩
    | wake | pass => cases member
  | start | stop => cases List.mem_singleton.mp member

theorem SignalStep.watched (step : SignalStep p happened q) (mode : signal.mode = .diagnostic)
    (slow : 1000000 ≤ signal.interval.nanos) (watched : Watched signal (tickets past) p.1 p.2)
    (only : OnlyPublisher (past ++ happened)) : Watched signal (tickets (past ++ happened)) q.1 q.2 := by
  rw [tickets_append]
  cases step with
  | session active step =>
    have silent (events : List Event) : tickets (events.map .event) = [] :=
      List.filterMap_eq_nil_iff.mpr fun happening member => by
        obtain ⟨e, -, rfl⟩ := List.mem_map.mp member
        rfl
    rw [silent, List.append_nil]
    cases step with
    | receive m => exact watched.receive m
    | turn ready => exact watched.turn ready (only past _ [] rfl)
    | wake idle soonest =>
      exact watched.of_jobs (watched.sound.ring soonest) (Nat.le_refl _) fun job member =>
        Agenda.jobs_ring soonest ▸ member
    | pass idle quiet => exact watched.of_jobs (watched.sound.setClock quiet) (Nat.le_refl _) fun job member => member
  | start s active =>
    have same : tickets [.started s active] = ((s.startSignal active).2.ticking.map (·.ticket)).toList := by
      rw [tickets, List.filterMap_cons, Happening.ticket?]
      cases (s.startSignal active).2.ticking <;> rfl
    rw [same]
    exact watched.start mode slow
  | stop s active =>
    have same : tickets [.stopped s active] = [] := rfl
    rw [same, List.append_nil]
    exact (watched.stop mode).1

theorem SignalRun.watched (run : SignalRun p happened q) (mode : signal.mode = .diagnostic)
    (slow : 1000000 ≤ signal.interval.nanos) (watched : Watched signal (tickets past) p.1 p.2)
    (only : OnlyPublisher (past ++ happened)) :
    Watched signal (tickets (past ++ happened)) q.1 q.2 ∧
      ∀ u job, .event (.turn u job) ∈ happened → Sound [] u ∧ ∃ rest, u.desk.agenda.ready = job :: rest := by
  induction run generalizing past with
  | nil p =>
    rw [List.append_nil]
    exact ⟨watched, fun _ _ member => absurd member List.not_mem_nil⟩
  | @cons p mid q first later step path ih =>
    rw [← List.append_assoc] at only ⊢
    obtain ⟨after, turns⟩ := ih (step.watched mode slow watched only.before) only
    refine ⟨after, fun u job member => ?_⟩
    rcases List.mem_append.mp member with here | there
    · exact step.turns watched.sound here
    · exact turns u job there

/-- A session and a signal at hand that has not been started. -/
theorem Watched.begin {settings : Settings} (registry : Registry) (sink : Sink) (signal : Signal) :
    Watched signal (tickets []) (Session.start settings registry sink) ⟨signal, none⟩ where
  sound := .start settings registry sink
  same := rfl
  issued := nofun
  listed := nofun
  alone := fun _ member => absurd member List.not_mem_nil
  unarmed := fun _ _ member => absurd member List.not_mem_nil

theorem publishedFor_writable (uri : String) (messages : List Outbound) :
    (publishedFor uri (writable messages)).Sublist (publishedFor uri messages) :=
  List.filter_sublist.filterMap _

/-- A document in which a tick of the signal at hand was published has a name, and it can be written. -/
theorem Ticked.named (ticked : Ticked uri happened)
    (turns : ∀ u job, .event (.turn u job) ∈ happened → Sound [] u ∧ ∃ rest, u.desk.agenda.ready = job :: rest) :
    uri.isEmpty = false ∧ hasHalf uri.toList = false := by
  obtain ⟨earlier, e, later, rfl, tick, shown⟩ := ticked
  cases e with
  | received m => cases tick
  | turn u job =>
    obtain ⟨sound, rest, ready⟩ := turns u job (List.mem_append_right _ (List.mem_cons_self ..))
    obtain ⟨-, own, since, frame, work⟩ := Event.work_of_isTick tick
    obtain ⟨ticket, work⟩ := job
    cases work
    have given : publishedFor uri (Event.turn u ⟨ticket, .tick own since frame⟩).gives ≠ [] := fun silent =>
      shown (List.sublist_nil.mp (silent ▸ publishedFor_writable ..))
    obtain ⟨named, diagnostics, gives⟩ := tick_shows sound ready given
    refine ⟨named, hasHalf_of_published (?_ : (Outbound.diagnostics ⟨uri, diagnostics⟩).encodeFault? = none)⟩
    cases refused : (Outbound.diagnostics ⟨uri, diagnostics⟩).encodeFault? with
    | none => rfl
    | some fault =>
      rw [Event.sends, gives, writable, List.filter_cons_of_neg (by rw [refused]; exact Bool.false_ne_true)] at shown
      exact absurd rfl shown

theorem SignalStep.still (step : SignalStep p happened q) (watched : Watched signal (tickets past) p.1 p.2)
    (only : OnlyPublisher (past ++ happened)) (idle : p.2.ticking = none)
    (again : ∀ s active, .started s active ∉ happened) :
    q.2.ticking = none ∧ ∃ more, q.1.outbox = p.1.outbox ++ more ∧
      ∀ uri, ∀ shown ∈ publishedFor uri more, shown = [] ∧ signal.timeout.isInstant = false := by
  cases step with
  | @session s t events active step =>
    refine ⟨idle, _, step.outbox watched.sound, fun uri shown member => ?_⟩
    cases step with
    | receive m =>
      rw [List.flatMap_singleton, received_publishes_nothing] at member
      cases member
    | @turn job rest ready =>
      have here := mem_of_ready ready
      rw [List.flatMap_singleton] at member
      rcases only past _ [] rfl uri (List.ne_nil_of_mem member) with tick | clearing
      · cases idle.symm.trans (Option.map_eq_some_iff.mp
          (watched.alone job here (Event.work_of_isTick tick).1).2).choose_spec.1
      · obtain ⟨key, work⟩ := Event.work_of_isClearing clearing
        obtain ⟨ticket, own⟩ := job
        obtain rfl : own = .fire key (.clear uri) := work
        rw [fire_gives key ticket ready, publishedFor_diagnostics, if_pos rfl] at member
        refine ⟨List.mem_singleton.mp member, Bool.eq_false_iff.mpr fun instant => ?_⟩
        exact watched.unarmed instant _ here key uri rfl
    | wake | pass => cases member
  | start s active => exact absurd (List.mem_singleton_self _) (again s active)
  | stop s active =>
    obtain ⟨own, ticking⟩ := active
    obtain rfl : ticking = none := idle
    exact ⟨rfl, [], (List.append_nil _).symm, nofun⟩

/-- As long as the signal is not started again, only empty lists are published, and nothing at all if what the
signal shows has no timeout. -/
theorem SignalRun.still (run : SignalRun p happened q) (mode : signal.mode = .diagnostic)
    (slow : 1000000 ≤ signal.interval.nanos) (watched : Watched signal (tickets past) p.1 p.2)
    (only : OnlyPublisher (past ++ happened)) (idle : p.2.ticking = none)
    (again : ∀ s active, .started s active ∉ happened) :
    ∃ more, q.1.outbox = p.1.outbox ++ more ∧
      ∀ uri, ∀ shown ∈ publishedFor uri more, shown = [] ∧ signal.timeout.isInstant = false := by
  induction run generalizing past with
  | nil p => exact ⟨[], (List.append_nil _).symm, nofun⟩
  | @cons p mid q first later step path ih =>
    rw [← List.append_assoc] at only
    obtain ⟨idle, before, own, empty⟩ := step.still watched only.before idle fun s active member =>
      again s active (List.mem_append_left _ member)
    obtain ⟨after, outbox, onward⟩ := ih (step.watched mode slow watched only.before) only idle fun s active member =>
      again s active (List.mem_append_right _ member)
    refine ⟨before ++ after, by rw [outbox, own, List.append_assoc], fun uri shown member => ?_⟩
    rw [publishedFor_append] at member
    exact (List.mem_append.mp member).elim (empty uri shown) (onward uri shown)

/-- The stop of a signal in diagnostic mode that is running gives an empty list for the current document. -/
theorem sent_stopSignal {s : Session} {active : ActiveSignal} (watched : Watched signal (tickets past) s active)
    (mode : signal.mode = .diagnostic) :
    (s.stopSignal active).1.sent = s.sent ++ if active.ticking.isSome then writable s.wiped else [] := by
  have owned := watched.owned
  obtain ⟨own, ticking⟩ := active
  obtain rfl : own = signal := watched.same
  cases ticking with
  | none => exact (List.append_nil _).symm
  | some ticking =>
    obtain ⟨-, -, -, outbox⟩ := stopSignal_running mode ticking watched.sound owned
    rw [Session.sent, writable, outbox, List.filter_append]
    rfl

/-- Only the current document is cleared, if its name can be written. -/
theorem publishedFor_wiped {s : Session} (named : uri.isEmpty = false) (encodable : hasHalf uri.toList = false) :
    publishedFor uri (writable s.wiped) = if uri = s.documents.currentUri then [[]] else [] := by
  unfold wiped
  split
  · next current =>
    rw [if_neg]
    · rfl
    · rintro rfl
      rw [named] at current
      cases current
  · split
    · next current own =>
      have written : (Outbound.diagnostics ⟨uri, []⟩).encodeFault? = none :=
        encodeFault?_diagnostics encodable fun _ member => absurd member List.not_mem_nil
      rw [← own, writable, List.filter_cons_of_pos (by rw [written]; rfl)]
      exact publishedFor_diagnostics.trans (if_pos rfl)
    · next current other =>
      refine List.sublist_nil.mp ((publishedFor_writable ..).trans ?_)
      rw [publishedFor_diagnostics, if_neg (Ne.symm other)]

end Runs

/-- Stopping a signal in diagnostic mode clears the current document, and only that one: if the signal is the only
publisher of diagnostics, the last list that is published in a document in which it ticked is empty after a stop if
and only if the stop finds the signal running and this document is the current one, or the last list was empty
before. What is left elsewhere is cleared when its timeout has passed; without a timeout it stays for as long as
the signal is not started again. -/
theorem stop_clears_the_current_document {settings : Settings} (registry : Registry) (sink : Sink) {signal : Signal}
    {happened : List Happening} {t : Session} {active : ActiveSignal} (mode : signal.mode = .diagnostic)
    (slow : 1000000 ≤ signal.interval.nanos)
    (run : SignalRun (Session.start settings registry sink, ⟨signal, none⟩) happened (t, active))
    (only : OnlyPublisher happened) :
    (∀ uri, Ticked uri happened →
      ((publishedFor uri (t.stopSignal active).1.sent).getLast? = some [] ↔
        active.ticking.isSome = true ∧ uri = t.documents.currentUri ∨
          (publishedFor uri t.sent).getLast? = some [])) ∧
      ∀ further p, SignalRun (t.stopSignal active) further p → (∀ s again, .started s again ∉ further) →
        OnlyPublisher (happened ++ .stopped t active :: further) →
        ∃ more, p.1.sent = (t.stopSignal active).1.sent ++ more ∧
          ∀ uri, ∀ shown ∈ publishedFor uri more, shown = [] ∧ signal.timeout.isInstant = false := by
  obtain ⟨watched, turns⟩ := run.watched mode slow (.begin registry sink signal) only
  refine ⟨fun uri ticked => ?_, fun further p path again only => ?_⟩
  · obtain ⟨named, encodable⟩ := ticked.named turns
    rw [sent_stopSignal watched mode, publishedFor_append, List.getLast?_append]
    cases active.ticking with
    | none => simp [publishedFor]
    | some ticking =>
      rw [Option.isSome_some, if_pos rfl, publishedFor_wiped named encodable]
      by_cases current : uri = t.documents.currentUri
      · simp [current]
      · simp [current]
  · obtain ⟨after, idle⟩ := watched.stop mode
    rw [← List.singleton_append, ← List.append_assoc] at only
    have same : tickets (happened ++ [.stopped t active]) = tickets happened := by
      rw [tickets_append]
      exact List.append_nil _
    obtain ⟨more, outbox, empty⟩ := path.still mode slow (same.symm ▸ after) only idle again
    refine ⟨writable more, ?_, fun uri shown member => ?_⟩
    · rw [Session.sent, writable, outbox, List.filter_append]
      rfl
    · exact empty uri shown ((publishedFor_writable ..).subset member)

/-! ## A tick that stays -/

/-- Another document is opened. -/
def switchingMessage : Message :=
  ⟨"2.0", none, some "textDocument/didOpen", .obj [("textDocument", .obj [("uri", .str "file:///b.c"),
    ("languageId", .str "c"), ("version", .int 1), ("text", .str "int x")])], .null, none⟩

/-- A signal that shows its ticks in the current document, without a timeout. -/
def shownSignal : Signal := ⟨.of 0 0 0 0, true, tickInterval 250, .diagnostic, .zero, none, "busy"⟩

/-- A session with an open document. -/
def openedSession : Session := (blankSession.handle openingMessage).turned ⟨0, .handle 0 .opening openingMessage⟩

/-- The session when the signal is running. -/
def startedSession : Session × ActiveSignal := openedSession.startSignal ⟨shownSignal, none⟩

/-- Its first tick. -/
def firstTick : Job Work := ⟨1, .tick shownSignal startedSession.1.now 0⟩

/-- The session as the signal is to tick. -/
def tickingSession : Session :=
  (startedSession.1.turned ⟨1, .animate shownSignal⟩).mapAgenda
    (·.ring ⟨startedSession.1.now.after shownSignal.interval, firstTick⟩ [])

/-- The session after the tick. -/
def tickedSession : Session := tickingSession.turned firstTick

/-- The session when another document is open. -/
def switchedSession : Session :=
  (tickedSession.handle switchingMessage).turned ⟨2, .handle 1 .opening switchingMessage⟩

/-- What happens until the tick. -/
def untilTick : List Happening :=
  [.event (.received openingMessage),
    .event (.turn (blankSession.handle openingMessage) ⟨0, .handle 0 .opening openingMessage⟩),
    .started openedSession ⟨shownSignal, none⟩,
    .event (.turn startedSession.1 ⟨1, .animate shownSignal⟩)]

/-- What happens until the tick has been shown. -/
def pastTick : List Happening :=
  untilTick ++ [.event (.turn tickingSession firstTick)]

/-- What happens after the tick, until another document is open. -/
def untilSwitch : List Happening :=
  [.event (.received switchingMessage),
    .event (.turn (tickedSession.handle switchingMessage) ⟨2, .handle 1 .opening switchingMessage⟩)]

theorem ready_startedSession : startedSession.1.desk.agenda.ready = [⟨1, .animate shownSignal⟩] := by
  exact rfl

theorem ready_tickingSession : tickingSession.desk.agenda.ready = [firstTick] := by
  exact rfl

theorem run_tickedSession : SignalRun (blankSession, ⟨shownSignal, none⟩) pastTick
    (tickedSession, startedSession.2) := by
  have idle : (startedSession.1.turned ⟨1, .animate shownSignal⟩).desk.agenda.ready = [] := by
    exact rfl
  have soonest : (startedSession.1.turned ⟨1, .animate shownSignal⟩).desk.agenda.timers =
      [⟨startedSession.1.now.after shownSignal.interval, firstTick⟩] := by
    exact rfl
  have animated := Step.turn ready_startedSession
  have ticked := Step.turn ready_tickingSession
  rw [← turned_eq ready_startedSession] at animated
  rw [← turned_eq ready_tickingSession] at ticked
  have opened : SignalRun (blankSession, ⟨shownSignal, none⟩)
      ([.event (.received openingMessage)] ++
        ([.event (.turn _ ⟨0, .handle 0 .opening openingMessage⟩)] ++ [])) (openedSession, ⟨shownSignal, none⟩) :=
    .cons (.session _ (.receive _ _)) (.cons (.session _ (.turn rfl)) (.nil _))
  have started : SignalRun (openedSession, ⟨shownSignal, none⟩)
      ([.started openedSession ⟨shownSignal, none⟩] ++
        ([.event (.turn startedSession.1 ⟨1, .animate shownSignal⟩)] ++
          ([] ++ ([.event (.turn tickingSession firstTick)] ++ []))))
      (tickedSession, startedSession.2) :=
    .cons (.start _ _) (.cons (.session _ animated) (.cons (.session _ (.wake idle soonest))
      (.cons (.session _ ticked) (.nil _))))
  exact opened.append started

theorem onlyPublisher_tickedSession : OnlyPublisher pastTick := by
  refine (((((OnlyPublisher.nil.snoc ?_).snoc ?_).snoc ?_).snoc ?_)).snoc ?_
  · rintro e ⟨⟩ uri shown
    exact absurd (received_publishes_nothing ..) shown
  · rintro e ⟨⟩ uri shown
    exact absurd rfl shown
  · intro e same
    cases same
  · rintro e ⟨⟩ uri shown
    exact absurd rfl shown
  · rintro e ⟨⟩ uri shown
    exact .inl rfl

/-- The tick. -/
def firstShown : Diagnostic :=
  ⟨tickText startedSession.1.now tickingSession.now 0, .of 0 0 0 0, some diagnosticSource, some .information⟩

theorem watched_tickedSession :
    Watched shownSignal (tickets pastTick) tickedSession startedSession.2 ∧
      ∀ u job, .event (.turn u job) ∈ pastTick →
        Sound [] u ∧ ∃ rest, u.desk.agenda.ready = job :: rest :=
  run_tickedSession.watched rfl (tickInterval_slow 250) (.begin _ _ shownSignal) onlyPublisher_tickedSession

theorem gives_firstTick :
    (Event.turn tickingSession firstTick).gives = [.diagnostics ⟨"file:///a.c", [firstShown]⟩] :=
  gives_tick (watched_tickedSession.2 _ _ (List.mem_append_right _ (List.mem_singleton_self _))).1
    ready_tickingSession

theorem writable_firstShown : writable [.diagnostics ⟨"file:///a.c", [firstShown]⟩] =
    [.diagnostics ⟨"file:///a.c", [firstShown]⟩] := by
  have written : (Outbound.diagnostics ⟨"file:///a.c", [firstShown]⟩).encodeFault? = none :=
    @Channel.update_written (.diagnostics "file:///a.c" (.of 0 0 0 0)) rfl _ (hasHalf_tickText ..)
  rw [writable, List.filter_cons_of_pos (by rw [written]; rfl)]
  rfl

theorem ticked_firstTick {later : List Happening} :
    Ticked "file:///a.c" (untilTick ++ .event (.turn tickingSession firstTick) :: later) := by
  refine ⟨untilTick, _, later, rfl, rfl, ?_⟩
  rw [Event.sends, gives_firstTick, writable_firstShown, publishedFor_diagnostics, if_pos rfl]
  exact List.cons_ne_nil _ _

/-- The tick shows itself and sets the timer for the next one. -/
theorem tickedSession_eq : ∃ sink, tickedSession = Session.waitFor
    { tickingSession.taken [] with
      sink
      outbox := tickingSession.outbox ++ [.diagnostics ⟨"file:///a.c", [firstShown]⟩]
      desk := ((tickingSession.taken []).desk.cancel (diagnosticsKey "file:///a.c")).1 }
    shownSignal.interval 1 (.tick shownSignal startedSession.1.now 1) := by
  have sound := (watched_tickedSession.2 _ _ (List.mem_append_right _ (List.mem_singleton_self _))).1
  obtain ⟨sink, shown⟩ := publish_eq (sound.begun ready_tickingSession nofun) rfl
    [⟨tickText startedSession.1.now tickingSession.now 0, .of 0 0 0 0, none, some .information⟩] shownSignal.timeout
  refine ⟨sink, ?_⟩
  rw [tickedSession, turned_eq ready_tickingSession]
  exact congrArg (Session.waitFor · shownSignal.interval 1 (.tick shownSignal startedSession.1.now 1)) shown

/-- As long as its document is current, the tick is cleared. -/
theorem tick_in_the_current_document_is_cleared :
    (publishedFor "file:///a.c" (tickedSession.stopSignal startedSession.2).1.sent).getLast? = some [] := by
  have current : tickedSession.documents.currentUri = "file:///a.c" := by
    obtain ⟨sink, same⟩ := tickedSession_eq
    rw [same]
    rfl
  exact ((stop_clears_the_current_document _ _ rfl (tickInterval_slow 250) run_tickedSession
    onlyPublisher_tickedSession).1 "file:///a.c" ticked_firstTick).mpr (.inl ⟨rfl, current.symm⟩)

theorem ready_switching : (tickedSession.handle switchingMessage).desk.agenda.ready =
    [⟨2, .handle 1 .opening switchingMessage⟩] := by
  obtain ⟨sink, same⟩ := tickedSession_eq
  rw [same]
  exact rfl

theorem outbox_switchedSession : switchedSession.outbox = tickedSession.outbox := by
  obtain ⟨sink, same⟩ := tickedSession_eq
  rw [switchedSession, same]
  exact rfl

theorem run_switchedSession : SignalRun (blankSession, ⟨shownSignal, none⟩) (pastTick ++ untilSwitch)
    (switchedSession, startedSession.2) := by
  have switched := Step.turn ready_switching
  rw [← turned_eq ready_switching] at switched
  have late : SignalRun (tickedSession, startedSession.2)
      ([.event (.received switchingMessage)] ++
        ([.event (.turn _ ⟨2, .handle 1 .opening switchingMessage⟩)] ++ [])) (switchedSession, startedSession.2) :=
    .cons (.session _ (.receive _ _)) (.cons (.session _ switched) (.nil _))
  exact run_tickedSession.append late

theorem onlyPublisher_switchedSession : OnlyPublisher (pastTick ++ untilSwitch) := by
  have silent : (Event.turn (tickedSession.handle switchingMessage) ⟨2, .handle 1 .opening switchingMessage⟩).gives =
      [] := by
    have kept : (tickedSession.handle switchingMessage).outbox = tickedSession.outbox := by
      obtain ⟨sink, same⟩ := tickedSession_eq
      rw [same]
      exact rfl
    rw [Event.gives, kept, ← switchedSession, outbox_switchedSession, List.drop_length]
  have received : OnlyPublisher (pastTick ++ [.event (.received switchingMessage)]) := by
    refine onlyPublisher_tickedSession.snoc ?_
    rintro e ⟨⟩ uri shown
    exact absurd (received_publishes_nothing ..) shown
  have whole : OnlyPublisher (pastTick ++ [.event (.received switchingMessage)] ++
      [.event (.turn (tickedSession.handle switchingMessage) ⟨2, .handle 1 .opening switchingMessage⟩)]) := by
    refine received.snoc ?_
    rintro e ⟨⟩ uri shown
    rw [silent] at shown
    exact absurd rfl shown
  rw [List.append_assoc] at whole
  exact whole

/-- A tick stays in a document that is not current any more when the signal is stopped. -/
theorem tick_in_another_document_stays :
    ¬∀ (settings : Settings) (registry : Registry) (sink : Sink) (signal : Signal) (happened : List Happening)
      (t : Session) (active : ActiveSignal), signal.mode = .diagnostic → 1000000 ≤ signal.interval.nanos →
      SignalRun (Session.start settings registry sink, ⟨signal, none⟩) happened (t, active) →
      OnlyPublisher happened → ∀ uri, Ticked uri happened →
        (publishedFor uri (t.stopSignal active).1.sent).getLast? = some [] := by
  intro always
  have cleared := always _ _ _ _ _ _ _ rfl (tickInterval_slow 250) run_switchedSession onlyPublisher_switchedSession
    "file:///a.c" (by rw [pastTick, List.append_assoc]; exact ticked_firstTick)
  obtain ⟨watched, -⟩ := run_switchedSession.watched rfl (tickInterval_slow 250) (.begin _ _ shownSignal)
    onlyPublisher_switchedSession
  have sent : (switchedSession.stopSignal startedSession.2).1.sent = switchedSession.sent ++
      if startedSession.2.ticking.isSome then writable switchedSession.wiped else [] := sent_stopSignal watched rfl
  have outbox : switchedSession.outbox = [.diagnostics ⟨"file:///a.c", [firstShown]⟩] := by
    obtain ⟨sink, same⟩ := tickedSession_eq
    rw [outbox_switchedSession, same]
    exact rfl
  have running : startedSession.2.ticking.isSome = true := by
    exact rfl
  have other : switchedSession.documents.currentUri = "file:///b.c" := by
    exact rfl
  rw [sent, publishedFor_append, if_pos running, publishedFor_wiped rfl (by decide), other, if_neg (by decide),
    List.append_nil, Session.sent, outbox, writable_firstShown, publishedFor_diagnostics, if_pos rfl] at cleared
  cases cleared

end EditorAssist.Session

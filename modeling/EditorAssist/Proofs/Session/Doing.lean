import EditorAssist.Proofs.Number.Total
import EditorAssist.Proofs.Session.Aside

/-!
# Work on the side, counted

The parts that handlers are made of are work on the side. For each it is counted how many clearings of
diagnostics it schedules and how many signals it starts, at most, and what it asks the backends.
-/

namespace EditorAssist.Session

open EditorAssist.Backend EditorAssist.Debounce EditorAssist.Journal EditorAssist.Number
open EditorAssist.Payload EditorAssist.Settings EditorAssist.Time EditorAssist.Wire

/-- Clearings of diagnostics that are scheduled. -/
def Deed.arms : Deed → Nat
  | spawned (.delay ..) => 1
  | _ => 0

/-- Signals that are started. -/
def Deed.starts : Deed → Nat
  | spawned (.animate _) => 1
  | _ => 0

/-- Work on the side that schedules some clearings and starts some signals at most, and asks this. -/
def Does (hand : List (Job Work)) (s : Session) (arms starts : Nat) (topics : List Topic) (t : Session) :
    Prop :=
  ∃ deeds, Aside hand s deeds t ∧ total (deeds.map Deed.arms) ≤ arms ∧
    total (deeds.map Deed.starts) ≤ starts ∧ deeds.filterMap Deed.topic? = topics

/-- A signal whose ticket, if it has one, belongs to its own work. -/
def Owned (hand : List (Job Work)) (s : Session) (active : ActiveSignal) : Prop :=
  ∀ ticking, active.ticking = some ticking → OfSignal hand s ticking.ticket

section Composition

variable {hand : List (Job Work)} {s t u : Session} {arms arms' starts starts' : Nat}
  {topics topics' : List Topic} {deeds : List Deed}

theorem Does.refl (s : Session) : Does hand s 0 0 [] s := ⟨[], .nil s, Nat.le_refl _, Nat.le_refl _, rfl⟩

theorem Does.trans (first : Does hand s arms starts topics t)
    (second : Does hand t arms' starts' topics' u) :
    Does hand s (arms + arms') (starts + starts') (topics ++ topics') u := by
  obtain ⟨deeds, aside, armed, started, asked⟩ := first
  obtain ⟨deeds', aside', armed', started', asked'⟩ := second
  refine ⟨deeds ++ deeds', aside.append aside', ?_, ?_, ?_⟩
  · rw [List.map_append, total_append]
    omega
  · rw [List.map_append, total_append]
    omega
  · rw [List.filterMap_append, asked, asked']

theorem Does.mono (does : Does hand s arms starts topics t) (more : arms ≤ arms') (longer : starts ≤ starts') :
    Does hand s arms' starts' topics t := by
  obtain ⟨deeds, aside, armed, started, asked⟩ := does
  exact ⟨deeds, aside, Nat.le_trans armed more, Nat.le_trans started longer, asked⟩

/-- One more small step that makes nothing ready and asks nothing. -/
theorem Does.step (does : Does hand s arms starts topics t) (step : Micro hand t [] u) :
    Does hand s arms starts topics u := by
  have next : Does hand t 0 0 [] u := ⟨[], .single step, Nat.le_refl _, Nat.le_refl _, rfl⟩
  have both := does.trans next
  rw [List.append_nil] at both
  exact both

theorem Does.keeps (does : Does hand s arms starts topics t) (sound : Sound hand s) :
    Sound hand t ∧ Unmoved s t := by
  obtain ⟨deeds, aside, _⟩ := does
  exact aside.keeps sound

theorem Does.said (does : Does hand s arms starts topics t) (sound : Sound hand s) :
    ∃ said, t.outbox = s.outbox ++ said := by
  obtain ⟨deeds, aside, _⟩ := does
  exact aside.said sound

theorem Owned.does {active : ActiveSignal} (owned : Owned hand s active)
    (does : Does hand s arms starts topics t) (sound : Sound hand s) : Owned hand t active := by
  obtain ⟨deeds, aside, _⟩ := does
  exact fun ticking running => (owned ticking running).aside aside sound

end Composition

/-! ## The parts of handlers -/

section Parts

variable {hand : List (Job Work)} {s t : Session} {arms starts : Nat} {topics : List Topic}

theorem Does.log (does : Does hand s arms starts topics t) (level : Level) (service message : String)
    (tags : Tags) : Does hand s arms starts topics (t.log level service message tags) :=
  does.step (.note t _ t.requested t.tokens t.shutdownRequested t.exits)

theorem Does.say (does : Does hand s arms starts topics t) (m : Outbound) (silent : m.answers? = none) :
    Does hand s arms starts topics (t.send m) :=
  does.step (.say t m silent)

theorem Does.requestWith (does : Does hand s arms starts topics t) (message : Nat → Outbound)
    (silent : ∀ number, (message number).answers? = none) :
    Does hand s arms starts topics (t.requestWith message) :=
  (does.step (.note t t.sink (t.requested + 1) t.tokens t.shutdownRequested t.exits)).say _ (silent _)

theorem Does.call (does : Does hand s arms starts topics t) {name : String} {provider : Provider}
    {topic : Topic} {answer : Answer} {registry : Registry}
    (called : t.registry.call name provider topic = (answer, registry)) :
    Does hand s arms starts (topics ++ [topic]) { t with registry } := by
  have step : Micro hand t [.called topic] { t with registry := (t.registry.call name provider topic).2 } :=
    .call t name provider topic
  rw [called] at step
  have next : Does hand t 0 0 [topic] { t with registry } :=
    ⟨[.called topic], .single step, Nat.le_refl _, Nat.le_refl _, rfl⟩
  exact does.trans next

theorem Does.arm (does : Does hand s arms starts topics t) (uri : String) (timeout : Span) :
    Does hand s (arms + 1) starts topics (t.schedule (diagnosticsKey uri) timeout (.clear uri)) := by
  have next : Does hand t 1 0 [] (t.schedule (diagnosticsKey uri) timeout (.clear uri)) :=
    ⟨_, .single (.arm t uri timeout), Nat.le_refl 1, Nat.le_refl _, rfl⟩
  have both := does.trans next
  rw [List.append_nil] at both
  exact both

theorem Does.start (does : Does hand s arms starts topics t) (signal : Signal)
    (slow : 1000000 ≤ signal.interval.nanos) :
    Does hand s arms (starts + 1) topics (t.spawn (.animate signal)).1 := by
  have next : Does hand t 0 1 [] (t.spawn (.animate signal)).1 :=
    ⟨_, .single (.start t signal slow), Nat.le_refl _, Nat.le_refl 1, rfl⟩
  have both := does.trans next
  rw [List.append_nil] at both
  exact both

theorem Does.progressBegin (does : Does hand s arms starts topics t) (token : RequestId)
    (title : String) : Does hand s arms starts topics (t.progressBegin token title) :=
  does.say _ rfl

theorem Does.createProgress (does : Does hand s arms starts topics t) (token : RequestId) :
    Does hand s arms starts topics (t.createProgress token) :=
  does.requestWith _ fun _ => rfl

/-- Publishing schedules one clearing at most. -/
theorem Does.publish (does : Does hand s arms starts topics t) (diagnostics : List Diagnostic)
    (timeout : Span) : Does hand s (arms + 1) starts topics (t.publish diagnostics timeout) := by
  unfold Session.publish
  dsimp only
  split
  · exact does.mono (Nat.le_succ _) (Nat.le_refl _)
  · have sent := (does.log .debug "lsp.service" "sending diagnostics"
      [("uri", .text t.documents.currentUri), ("count", .int (diagnostics.map fun d =>
        { d with source := some diagnosticSource }).length)]).say (.diagnostics ⟨t.documents.currentUri,
          diagnostics.map fun d => { d with source := some diagnosticSource }⟩) rfl
    split
    · exact (sent.step (.disarm _ _)).mono (Nat.le_succ _) (Nat.le_refl _)
    · exact sent.arm _ timeout

theorem Does.publishOne (does : Does hand s arms starts topics t) (text : String) (range : Range)
    (severity : Severity) (timeout : Span) :
    Does hand s (arms + 1) starts topics (t.publishOne text range severity timeout) :=
  does.publish _ timeout

theorem Does.resetDiagnostics (does : Does hand s arms starts topics t) :
    Does hand s arms starts topics t.resetDiagnostics := by
  unfold Session.resetDiagnostics
  dsimp only
  split
  · exact does
  · exact (does.step (.disarm t t.documents.currentUri)).say _ rfl

theorem Does.announce (does : Does hand s arms starts topics t) (signal : Signal) :
    Does hand s arms starts topics (t.announce signal).1 := by
  unfold Session.announce
  split
  · exact does
  · next token _ _ =>
    dsimp only
    exact does.progressBegin token signal.title
  · dsimp only
    exact ((does.step (.note t t.sink t.requested (t.tokens + 1) t.shutdownRequested
      t.exits)).createProgress (freshToken (t.tokens + 1))).progressBegin (freshToken (t.tokens + 1))
        signal.title

theorem announce_interval (t : Session) (signal : Signal) :
    (t.announce signal).2.interval = signal.interval := by
  unfold Session.announce
  split <;> rfl

theorem tickInterval_slow (ms : Int) : 1000000 ≤ (tickInterval ms).nanos := by
  simp only [tickInterval, Span.ofMillis]
  omega

/-- Starting a signal makes its work ready, and the signal owns its ticket. -/
theorem Does.startSignal (does : Does hand s arms starts topics t) (sound : Sound hand s)
    (active : ActiveSignal) (slow : 1000000 ≤ active.signal.interval.nanos) (off : active.ticking = none) :
    Does hand s arms (starts + 1) topics (t.startSignal active).1 ∧
      Owned hand (t.startSignal active).1 (t.startSignal active).2 := by
  unfold Session.startSignal
  split
  · refine ⟨does.mono (Nat.le_refl _) (Nat.le_succ _), ?_⟩
    intro ticking running
    rw [off] at running
    cases running
  · have announced := does.announce active.signal
    have steady : 1000000 ≤ (t.announce active.signal).2.interval.nanos := by
      rw [announce_interval]
      exact slow
    generalize t.announce active.signal = announcement at announced steady
    obtain ⟨before, signal⟩ := announcement
    obtain ⟨kept, _⟩ := announced.keeps sound
    have started := announced.start signal steady
    refine ⟨started.log .debug "progress" "progress started" [("mode", .text signal.mode.name)], ?_⟩
    rintro ticking ⟨⟩
    refine ⟨Nat.lt_succ_self _, fun job member own => ?_⟩
    have old : ∀ other ∈ hand ++ before.desk.agenda.jobs, other.ticket ≠ before.desk.agenda.issued :=
      fun other there => Nat.ne_of_lt (kept.coherent.issued other there)
    rcases List.mem_append.mp member with held | there
    · exact absurd own (old job (List.mem_append_left _ held))
    · rcases List.mem_cons.mp ((Agenda.jobs_spawn _).mem_iff.mp there) with rfl | waits
      · rfl
      · exact absurd own (old job (List.mem_append_right _ waits))

theorem Does.stopSignal (does : Does hand s arms starts topics t) (sound : Sound hand s)
    {active : ActiveSignal} (owned : Owned hand s active) :
    Does hand s arms starts topics (t.stopSignal active).1 := by
  have still := owned.does does sound
  unfold Session.stopSignal
  split
  · exact does
  · next ticking running =>
    have stopped := (does.step (.stop t ticking.ticket (still ticking running))).log .debug "progress"
      "progress stopped" [("mode", .text active.signal.mode.name),
        ("elapsed", .text (Instant.elapsedText ticking.since t.now))]
    dsimp only
    split
    · exact stopped.say _ rfl
    · exact stopped
    · exact stopped.resetDiagnostics

end Parts

end EditorAssist.Session

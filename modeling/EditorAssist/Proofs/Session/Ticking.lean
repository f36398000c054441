import EditorAssist.Proofs.Session.Handling
import EditorAssist.Proofs.Time.Engine
import Mathlib.Tactic.Linarith
import Mathlib.Tactic.Ring

/-!
# Sessions that only tick

What a signal shows goes to one channel: progress under its token, or diagnostics of one document. In a session
with no other work the timer of a running signal is all that waits, so letting time pass gives one message for
each whole interval since the start, and nothing else.
-/

namespace EditorAssist.Session

open EditorAssist.Journal EditorAssist.Payload EditorAssist.Time

/-! ## Channels -/

/-- Where the messages of a signal go. -/
inductive Channel where
  | progress (token : RequestId) (title : String)
  | diagnostics (uri : String) (range : Range)

namespace Channel

/-- What tells that a signal is running. Diagnostics are shown by its ticks alone. -/
def opening : Channel → List Outbound
  | progress token title => [.progress ⟨token, .begin_ ⟨title, none, none⟩⟩]
  | diagnostics .. => []

/-- What shows the text of a tick. -/
def update (text : String) : Channel → Outbound
  | progress token _ => .progress ⟨token, .report ⟨some text⟩⟩
  | diagnostics uri range => .diagnostics ⟨uri, [⟨text, range, some diagnosticSource, some .information⟩]⟩

/-- What tells that a signal was stopped. -/
def closing : Channel → Outbound
  | progress token _ => .progress ⟨token, .end_ ⟨none⟩⟩
  | diagnostics uri _ => .diagnostics ⟨uri, []⟩

end Channel

/-- The channel of a signal. Progress without a token is given the next one that is made up. -/
def channel (s : Session) (signal : Signal) : Channel :=
  match signal.mode with
  | .progress => .progress (signal.token.getD (freshToken (s.tokens + 1))) signal.title
  | .diagnostic => .diagnostics s.documents.currentUri signal.range

/-- The request to show progress under a token that no client has given. -/
def announcement (s : Session) (signal : Signal) : List Outbound :=
  match signal.mode, signal.token with
  | .progress, none => [.createProgress (s.requested + 1) (freshToken (s.tokens + 1))]
  | _, _ => []

/-- A signal with the token that its progress has. -/
def named (s : Session) (signal : Signal) : Signal :=
  match signal.mode, signal.token with
  | .progress, none => { signal with token := some (freshToken (s.tokens + 1)) }
  | _, _ => signal

/-- A signal whose messages go to a channel, as long as nothing is to be cleared later. -/
structure Feeds (s : Session) (signal : Signal) (channel : Channel) : Prop where
  slow : 1000000 ≤ signal.interval.nanos
  channel : s.channel signal = channel
  token : signal.mode = .progress → signal.token.isSome
  current : signal.mode = .diagnostic → s.documents.currentUri.isEmpty = false
  lasting : signal.mode = .diagnostic → signal.timeout.isInstant = true
  quiet : s.desk.pending = []

/-! ## Giving messages -/

/-- A session gives some messages and has another agenda afterwards. Apart from that only records are written. -/
def Gives (s : Session) (messages : List Outbound) (agenda : Agenda Work) (t : Session) : Prop :=
  ∃ sink, t = { s with sink, outbox := s.outbox ++ messages, desk := { s.desk with agenda } }

section Giving

variable {s t u : Session} {signal : Signal} {channel : Channel} {first second : List Outbound}
  {agenda agenda' : Agenda Work}

theorem Gives.refl (s : Session) : Gives s [] s.desk.agenda s := ⟨s.sink, by rw [List.append_nil]⟩

theorem Gives.trans (before : Gives s first agenda t) (after : Gives t second agenda' u) :
    Gives s (first ++ second) agenda' u := by
  obtain ⟨_, rfl⟩ := before
  obtain ⟨sink, rfl⟩ := after
  exact ⟨sink, by rw [List.append_assoc]⟩

/-- The same messages leave behind what an operation makes of the agenda. -/
theorem Gives.mapAgenda (gives : Gives s first agenda t) (f : Agenda Work → Agenda Work) :
    Gives s first (f agenda) (t.mapAgenda f) := by
  obtain ⟨sink, rfl⟩ := gives
  exact ⟨sink, rfl⟩

/-- It does not matter which agenda is left for another one. -/
theorem Gives.of_mapAgenda {f : Agenda Work → Agenda Work} (gives : Gives (s.mapAgenda f) first agenda t) :
    Gives s first agenda t := by
  obtain ⟨sink, rfl⟩ := gives
  exact ⟨sink, rfl⟩

theorem Gives.log (gives : Gives s first agenda t) (level : Level) (service message : String) (tags : Tags) :
    Gives s first agenda (t.log level service message tags) := by
  obtain ⟨sink, rfl⟩ := gives
  exact ⟨_, rfl⟩

theorem Gives.send (gives : Gives s first agenda t) (m : Outbound) : Gives s (first ++ [m]) agenda (t.send m) := by
  obtain ⟨sink, rfl⟩ := gives
  obtain ⟨later, sent⟩ := send_eq
    { s with sink, outbox := s.outbox ++ first, desk := { s.desk with agenda } } m
  exact ⟨later, by rw [sent, List.append_assoc]⟩

theorem Gives.agenda_eq (gives : Gives s first agenda t) : t.desk.agenda = agenda := by
  obtain ⟨sink, rfl⟩ := gives
  rfl

theorem Gives.outbox_eq (gives : Gives s first agenda t) : t.outbox = s.outbox ++ first := by
  obtain ⟨sink, rfl⟩ := gives
  rfl

theorem Gives.pending_eq (gives : Gives s first agenda t) : t.desk.pending = s.desk.pending := by
  obtain ⟨sink, rfl⟩ := gives
  rfl

theorem Gives.documents_eq (gives : Gives s first agenda t) : t.documents = s.documents := by
  obtain ⟨sink, rfl⟩ := gives
  rfl

/-- A signal that feeds a channel goes on feeding it. -/
theorem Feeds.gives (feeds : Feeds s signal channel) (gives : Gives s first agenda t) : Feeds t signal channel := by
  obtain ⟨sink, rfl⟩ := gives
  exact ⟨feeds.slow, feeds.channel, feeds.token, feeds.current, feeds.lasting, feeds.quiet⟩

theorem Feeds.mapAgenda (feeds : Feeds s signal channel) (f : Agenda Work → Agenda Work) :
    Feeds (s.mapAgenda f) signal channel :=
  feeds.gives ((Gives.refl s).mapAgenda f)

theorem Feeds.later (feeds : Feeds s signal channel) : 0 < signal.interval.nanos := by
  have := feeds.slow
  omega

/-- Nothing is withdrawn where nothing is pending. -/
theorem cancelPending_of_quiet (quiet : s.desk.pending = []) (key : String) : s.cancelPending key = s := by
  have none : s.desk.cancel key = (s.desk, none) := by
    rw [Debounce.Desk.cancel, quiet]
    rfl
  rw [cancelPending, none]

/-- Diagnostics that nothing is to clear later. -/
theorem gives_publish (quiet : s.desk.pending = []) (current : s.documents.currentUri.isEmpty = false)
    {timeout : Span} (lasting : timeout.isInstant = true) (diagnostics : List Diagnostic) :
    Gives s [.diagnostics ⟨s.documents.currentUri,
      diagnostics.map fun d => { d with source := some diagnosticSource }⟩] s.desk.agenda
      (s.publish diagnostics timeout) := by
  unfold publish
  dsimp only
  rw [if_neg (by rw [current]; exact Bool.false_ne_true), if_pos lasting]
  have published := ((Gives.refl s).log .debug "lsp.service" "sending diagnostics"
    [("uri", .text s.documents.currentUri), ("count", .int (diagnostics.map fun d =>
      { d with source := some diagnosticSource }).length)]).send (.diagnostics ⟨s.documents.currentUri,
        diagnostics.map fun d => { d with source := some diagnosticSource }⟩)
  rw [cancelPending_of_quiet (published.pending_eq.trans quiet)]
  exact published

/-- A tick is shown on the channel. -/
theorem Feeds.showTick (feeds : Feeds s signal channel) (text : String) :
    Gives s [channel.update text] s.desk.agenda (s.showTick signal text) := by
  have own := feeds.channel
  unfold Session.channel at own
  unfold Session.showTick
  cases mode : signal.mode with
  | progress =>
    obtain ⟨token, given⟩ := Option.isSome_iff_exists.mp (feeds.token mode)
    rw [mode, given] at own
    rw [given, ← own]
    exact (Gives.refl s).send _
  | diagnostic =>
    rw [mode] at own
    rw [← own]
    exact gives_publish feeds.quiet (feeds.current mode) (feeds.lasting mode) _

/-- A signal that is stopped is closed on its channel, and its work is withdrawn. -/
theorem Feeds.stopSignal (feeds : Feeds s signal channel) (ticking : Ticking) :
    Gives s [channel.closing] (s.desk.agenda.cancel ticking.ticket) (s.stopSignal ⟨signal, some ticking⟩).1 ∧
      (s.stopSignal ⟨signal, some ticking⟩).2 = ⟨signal, none⟩ := by
  refine ⟨?_, rfl⟩
  have own := feeds.channel
  unfold Session.channel at own
  have stopped := ((Gives.refl s).mapAgenda (·.cancel ticking.ticket)).log .debug "progress" "progress stopped"
    [("mode", .text signal.mode.name), ("elapsed", .text (Instant.elapsedText ticking.since s.now))]
  unfold Session.stopSignal
  dsimp only
  cases mode : signal.mode with
  | progress =>
    obtain ⟨token, given⟩ := Option.isSome_iff_exists.mp (feeds.token mode)
    rw [mode, given] at own
    rw [mode] at stopped
    rw [given, ← own]
    exact stopped.send _
  | diagnostic =>
    rw [mode] at own stopped
    rw [← own]
    have current := feeds.current mode
    dsimp only
    unfold resetDiagnostics
    dsimp only
    rw [if_neg (by rw [stopped.documents_eq, current]; exact Bool.false_ne_true),
      cancelPending_of_quiet (stopped.pending_eq.trans feeds.quiet)]
    exact stopped.send _

/-- What announces a signal is its request for a token, if it has none, and what opens its channel. -/
theorem gives_announce (s : Session) (signal : Signal) :
    (∃ requested tokens, Gives { s with requested, tokens } (s.announcement signal ++ (s.channel signal).opening)
        s.desk.agenda (s.announce signal).1) ∧
      (s.announce signal).2 = s.named signal := by
  unfold announce announcement named Session.channel
  cases mode : signal.mode with
  | diagnostic => exact ⟨⟨s.requested, s.tokens, .refl s⟩, rfl⟩
  | progress =>
    cases given : signal.token with
    | some token =>
      have opened := (Gives.refl s).send (.progress ⟨token, .begin_ ⟨signal.title, none, none⟩⟩)
      refine ⟨⟨s.requested, s.tokens, ?_⟩, rfl⟩
      dsimp only [Option.getD_some, Channel.opening]
      exact opened
    | none =>
      have created := (Gives.refl { s with requested := s.requested + 1, tokens := s.tokens + 1 }).send
        (.createProgress (s.requested + 1) (freshToken (s.tokens + 1)))
      have opened := created.send (.progress ⟨freshToken (s.tokens + 1), .begin_ ⟨signal.title, none, none⟩⟩)
      refine ⟨⟨s.requested + 1, s.tokens + 1, ?_⟩, rfl⟩
      dsimp only [Option.getD_none, Channel.opening]
      exact opened

/-- A signal that is started is announced, and its work is ready. -/
theorem gives_startSignal (enabled : signal.enabled = true) :
    (∃ requested tokens, Gives { s with requested, tokens } (s.announcement signal ++ (s.channel signal).opening)
        (s.desk.agenda.spawn (.animate (s.named signal))).1 (s.startSignal ⟨signal, none⟩).1) ∧
      (s.startSignal ⟨signal, none⟩).2 = ⟨s.named signal, some ⟨s.desk.agenda.issued, s.now⟩⟩ := by
  obtain ⟨⟨requested, tokens, announced⟩, own⟩ := gives_announce s signal
  unfold Session.startSignal
  rw [if_neg (by rw [enabled]; exact Bool.false_ne_true)]
  generalize s.announce signal = announced_signal at announced own
  obtain ⟨before, signal'⟩ := announced_signal
  dsimp only at announced own ⊢
  have spawned := announced.mapAgenda fun agenda => (agenda.spawn (.animate (s.named signal))).1
  rw [own]
  refine ⟨⟨requested, tokens, spawned.log ..⟩, ?_⟩
  have issued : (before.spawn (.animate (s.named signal))).2 = s.desk.agenda.issued :=
    congrArg Agenda.issued announced.agenda_eq
  rw [issued]

end Giving

/-! ## Ticks -/

/-- When a signal ticks that was started at an instant. -/
def tickInstant (since : Instant) (interval : Span) : (frame : Nat) → Instant
  | 0 => since.after interval
  | frame + 1 => (tickInstant since interval frame).after interval

theorem nanos_tickInstant (since : Instant) (interval : Span) (frame : Nat) :
    (tickInstant since interval frame).nanos = since.nanos + (frame + 1) * interval.nanos := by
  induction frame with
  | zero => simp [tickInstant, Instant.after]
  | succ frame ih =>
    rw [tickInstant, Instant.after, ih]
    push_cast
    ring

/-- The whole intervals that have passed since an instant. -/
def ticksUntil (since : Instant) (interval : Span) (now : Instant) : Nat :=
  ((now.nanos - since.nanos) / interval.nanos).toNat

/-- What the ticks with some frames show. -/
def Channel.updates (channel : Channel) (since : Instant) (interval : Span) (frames : List Nat) : List Outbound :=
  frames.map fun frame => channel.update (tickText since (tickInstant since interval frame) frame)

/-- Nothing is left to do but the tick with the next frame. -/
structure Waits (ticket : Nat) (signal : Signal) (since : Instant) (frame : Nat) (agenda : Agenda Work) : Prop where
  ready : agenda.ready = []
  timers : agenda.timers = [⟨tickInstant since signal.interval frame, ⟨ticket, .tick signal since frame⟩⟩]

section Ticks

variable {s t : Session} {signal : Signal} {channel : Channel} {agenda : Agenda Work} {ticket frame : Nat}
  {since limit : Instant} (settings : Settings)

/-- A job that waits while nothing else does. -/
theorem waitFor_alone (none : agenda.timers = []) {span : Span} (later : 0 < span.nanos) (job : Job Work) :
    agenda.waitFor span job = { agenda with timers := [⟨agenda.now.after span, job⟩] } := by
  have after : ¬(agenda.now.after span).nanos ≤ agenda.now.nanos := by
    simp only [Instant.after]
    omega
  rw [Agenda.waitFor, Agenda.waitUntil, if_neg after, none]
  rfl

/-- A signal whose job is done waits for its next tick. -/
theorem settle_to_wait {job : Job Work} {messages : List Outbound} {shown : Session}
    (ready : s.desk.agenda.ready = [job]) (none : s.desk.agenda.timers = []) (later : 0 < signal.interval.nanos)
    (gives : Gives (s.taken []) messages (s.desk.agenda.behind []) shown)
    (performed : perform job (s.taken []) = shown.waitFor signal.interval ticket (.tick signal since frame))
    (due : s.now.after signal.interval = tickInstant since signal.interval frame) :
    ∃ agenda, Gives s messages agenda ((engine settings).settle s) ∧ Waits ticket signal since frame agenda ∧
      agenda.now = s.now := by
  have waits := gives.mapAgenda (·.waitFor signal.interval ⟨ticket, .tick signal since frame⟩)
  have alone : (s.desk.agenda.behind []).timers = [] := none
  rw [waitFor_alone alone later] at waits
  have settled : (engine settings).settle s = perform job (s.taken []) :=
    Engine.settle_of_single ready (by
      show (perform job (s.taken [])).desk.agenda.ready = []
      rw [performed]
      exact congrArg Agenda.ready waits.agenda_eq)
  rw [settled, performed]
  refine ⟨_, waits.of_mapAgenda, ⟨rfl, ?_⟩, rfl⟩
  rw [← due]
  rfl

/-- A signal that has just been started sets its first timer. -/
theorem Feeds.settle_begins (feeds : Feeds s signal channel)
    (ready : s.desk.agenda.ready = [⟨ticket, .animate signal⟩]) (none : s.desk.agenda.timers = []) :
    ∃ agenda, Gives s [] agenda ((engine settings).settle s) ∧ Waits ticket signal s.now 0 agenda ∧
      agenda.now = s.now :=
  settle_to_wait settings ready none feeds.later (.refl _) rfl rfl

/-- A tick that is due is shown, and the next timer is set. -/
theorem Feeds.settle_rung (feeds : Feeds s signal channel)
    (ready : s.desk.agenda.ready = [⟨ticket, .tick signal since frame⟩]) (none : s.desk.agenda.timers = [])
    (due : s.now = tickInstant since signal.interval frame) :
    ∃ agenda, Gives s (channel.updates since signal.interval [frame]) agenda ((engine settings).settle s) ∧
      Waits ticket signal since (frame + 1) agenda ∧ agenda.now = s.now := by
  have text : channel.updates since signal.interval [frame] = [channel.update (tickText since s.now frame)] := by
    rw [due]
    rfl
  have shown := (feeds.mapAgenda (·.behind [])).showTick (tickText since s.now frame)
  rw [text]
  exact settle_to_wait settings ready none feeds.later shown rfl (by rw [due]; rfl)

/-- While a limit is not reached, the timer rings, its tick is shown and the next timer is set. -/
theorem Feeds.advanceFor_round (feeds : Feeds s signal channel)
    (waits : Waits ticket signal since frame s.desk.agenda)
    (due : (tickInstant since signal.interval frame).nanos ≤ limit.nanos) (fuel : Nat) :
    ∃ t agenda, Gives s (channel.updates since signal.interval [frame]) agenda t ∧
      Waits ticket signal since (frame + 1) agenda ∧
      (engine settings).advanceFor (fun _ => true) limit (fuel + 2) s =
        (engine settings).advanceFor (fun _ => true) limit (fuel + 1) t := by
  have rung := feeds.mapAgenda (·.ring ⟨tickInstant since signal.interval frame,
    ⟨ticket, .tick signal since frame⟩⟩ [])
  have ready : (s.mapAgenda (·.ring ⟨tickInstant since signal.interval frame,
      ⟨ticket, .tick signal since frame⟩⟩ [])).desk.agenda.ready = [⟨ticket, .tick signal since frame⟩] :=
    congrArg (· ++ [_]) waits.ready
  obtain ⟨agenda, shown, next, _⟩ := rung.settle_rung settings ready rfl rfl
  have idle := (congrArg Agenda.ready shown.agenda_eq).trans next.ready
  refine ⟨_, agenda, shown.of_mapAgenda, next, ?_⟩
  rw [← Engine.advanceFor_settle idle]
  exact Engine.advanceFor_of_due waits.ready rfl waits.timers due (fuel + 1)

/-- Until a limit is reached, the ticks follow one another. -/
theorem Feeds.advanceFor_ticks (feeds : Feeds s signal channel)
    (waits : Waits ticket signal since frame s.desk.agenda) {count fuel : Nat} (enough : count < fuel)
    (due : ∀ earlier < count, (tickInstant since signal.interval (frame + earlier)).nanos ≤ limit.nanos)
    (late : limit.nanos < (tickInstant since signal.interval (frame + count)).nanos) :
    ∃ agenda, Gives s (channel.updates since signal.interval (List.range' frame count)) agenda
        ((engine settings).advanceFor (fun _ => true) limit fuel s) ∧
      Waits ticket signal since (frame + count) agenda := by
  -- Between two ticks nothing waits but the timer of the next one.
  induction count generalizing s frame fuel with
  | zero =>
    have quiet : s.desk.agenda.wake? limit = none := by
      rw [Agenda.wake?, waits.timers]
      exact if_neg (Int.not_le.mpr late)
    have still : (engine settings).advanceFor (fun _ => true) limit fuel s = s :=
      Engine.advanceFor_of_quiet waits.ready quiet fuel
    rw [still]
    exact ⟨_, .refl s, waits⟩
  | succ count ih =>
    obtain ⟨fuel, rfl⟩ : ∃ more, fuel = more + 2 := ⟨fuel - 2, by omega⟩
    obtain ⟨t, agenda, shown, next, rest⟩ := feeds.advanceFor_round settings waits (due 0 (by omega)) fuel
    have later (earlier : Nat) : frame + (earlier + 1) = frame + 1 + earlier := by omega
    rw [← shown.agenda_eq] at next
    obtain ⟨last, others, done⟩ := @ih t (frame + 1) (feeds.gives shown) next (fuel + 1) (by omega)
      (fun earlier before => later earlier ▸ due (earlier + 1) (by omega)) (later count ▸ late)
    rw [rest]
    refine ⟨last, ?_, later count ▸ done⟩
    have all := shown.trans others
    rwa [Channel.updates, Channel.updates, ← List.map_append] at all

end Ticks

/-! ## Whole intervals -/

section Intervals

variable {since now later : Instant} {interval : Span}

/-- The clock stands between the last tick and the next one. -/
theorem ticksUntil_bounds (positive : 0 < interval.nanos) (past : since.nanos ≤ now.nanos) :
    since.nanos + ticksUntil since interval now * interval.nanos ≤ now.nanos ∧
      now.nanos < since.nanos + (ticksUntil since interval now + 1) * interval.nanos := by
  have elapsed : (0 : Int) ≤ (now.nanos - since.nanos) / interval.nanos :=
    Int.ediv_nonneg (by omega) (by omega)
  have whole : ((ticksUntil since interval now : Nat) : Int) = (now.nanos - since.nanos) / interval.nanos :=
    Int.toNat_of_nonneg elapsed
  have lower := Int.ediv_mul_le (now.nanos - since.nanos) (Int.ne_of_gt positive)
  have upper := Int.lt_ediv_add_one_mul_self (now.nanos - since.nanos) positive
  rw [whole]
  constructor <;> omega

theorem ticksUntil_self (since : Instant) (interval : Span) : ticksUntil since interval since = 0 := by
  rw [ticksUntil, Int.sub_self, Int.zero_ediv]
  rfl

theorem ticksUntil_mono (positive : 0 < interval.nanos) (forward : now.nanos ≤ later.nanos) :
    ticksUntil since interval now ≤ ticksUntil since interval later :=
  Int.toNat_le_toNat (Int.ediv_le_ediv positive (by omega))

/-- Intervals last a millisecond at least, so no more of them pass than milliseconds begin. -/
theorem ticksUntil_sub_le (slow : 1000000 ≤ interval.nanos) (past : since.nanos ≤ now.nanos)
    (forward : now.nanos ≤ later.nanos) :
    ticksUntil since interval later - ticksUntil since interval now ≤ Engine.millisOf (later.nanos - now.nanos) := by
  have positive : 0 < interval.nanos := by omega
  have upper := (ticksUntil_bounds positive past).2
  have lower := (ticksUntil_bounds positive (Int.le_trans past forward)).1
  generalize ticksUntil since interval later = last at *
  generalize ticksUntil since interval now = first at *
  unfold Engine.millisOf
  by_cases more : first < last
  · have between : ((last : Int) - first - 1) * interval.nanos < later.nanos - now.nanos := by
      linarith
    have millis : ((last : Int) - first - 1) * 1000000 ≤ ((last : Int) - first - 1) * interval.nanos :=
      Int.mul_le_mul_of_nonneg_left slow (by omega)
    omega
  · omega

end Intervals

/-! ## Letting time pass -/

/-- The work of a signal that was started at an instant: it has not begun, or waits for the tick after the whole
intervals that have passed. -/
inductive Runs (ticket : Nat) (signal : Signal) (since : Instant) (agenda : Agenda Work) : Prop
  | begins (ready : agenda.ready = [⟨ticket, .animate signal⟩]) (none : agenda.timers = [])
      (now : agenda.now = since)
  | waits (waits : Waits ticket signal since (ticksUntil since signal.interval agenda.now) agenda)
      (past : since.nanos ≤ agenda.now.nanos)

/-- The instant that the clock is set to when a span has passed. -/
def passed (now : Instant) (span : Span) : Instant := .ofNanos (now.nanos + span.nanos)

section Passing

variable {s : Session} {signal : Signal} {channel : Channel} {ticket : Nat} {since : Instant} {span : Span}

theorem Runs.past {agenda : Agenda Work} (runs : Runs ticket signal since agenda) :
    since.nanos ≤ agenda.now.nanos := by
  cases runs with
  | begins _ _ now => exact Int.le_of_eq (congrArg Instant.nanos now.symm)
  | waits _ past => exact past

/-- Settling does no more than set the first timer. -/
theorem Feeds.settle (feeds : Feeds s signal channel) (runs : Runs ticket signal since s.desk.agenda) :
    ∃ agenda, Gives s [] agenda s.settle ∧ agenda.now = s.now ∧
      Waits ticket signal since (ticksUntil since signal.interval s.now) agenda := by
  cases runs with
  | begins ready none now =>
    obtain ⟨agenda, gives, waits, same⟩ := feeds.settle_begins s.settings ready none
    have now : s.now = since := now
    rw [now] at waits same ⊢
    rw [ticksUntil_self]
    exact ⟨agenda, gives, same, waits⟩
  | waits waits past =>
    have still : s.settle = s := Engine.settle_of_idle waits.ready
    rw [still]
    exact ⟨_, .refl s, rfl, waits⟩

/-- Letting a span pass settles the session and lets timers ring, with fuel for one a millisecond at least. -/
theorem advance_eq (idle : s.settle.desk.agenda.ready = []) (span : Span) :
    ∃ fuel, Engine.millisOf ((passed s.now span).nanos - s.now.nanos) < fuel ∧
      s.advance span = ((engine s.settings).advanceFor (fun _ => true) (passed s.now span) fuel s.settle).mapAgenda
        fun agenda => { agenda with now := passed s.now span } := by
  let fuel := ((engine s.settings).load s + 1) * (Engine.millisOf ((passed s.now span).nanos - s.now.nanos) + 1)
  have enough : Engine.millisOf ((passed s.now span).nanos - s.now.nanos) + 1 ≤ fuel :=
    Nat.le_mul_of_pos_left _ (Nat.succ_pos _)
  obtain ⟨less, same⟩ : ∃ less, fuel = less + 1 := ⟨fuel - 1, by omega⟩
  have ran : (engine s.settings).advanceWhile (fun _ => true) (passed s.now span) s =
      (engine s.settings).advanceFor (fun _ => true) (passed s.now span) fuel s.settle := by
    rw [same]
    refine Eq.trans ?_ (Engine.advanceFor_settle idle _ _ less)
    exact congrArg (fun fuel => (engine s.settings).advanceFor (fun _ => true) (passed s.now span) fuel s) same
  exact ⟨fuel, enough, congrArg (fun t : Session => t.mapAgenda fun agenda =>
    { agenda with now := passed s.now span }) ran⟩

/-- While a span passes, a running signal ticks once for each whole interval since its start. -/
theorem Feeds.advance (feeds : Feeds s signal channel) (runs : Runs ticket signal since s.desk.agenda)
    (forward : 0 ≤ span.nanos) :
    ∃ agenda, Gives s (channel.updates since signal.interval
        (List.range' (ticksUntil since signal.interval s.now)
          (ticksUntil since signal.interval (passed s.now span) - ticksUntil since signal.interval s.now)))
        agenda (s.advance span) ∧
      agenda.now = passed s.now span ∧ Runs ticket signal since agenda := by
  have past : since.nanos ≤ s.now.nanos := runs.past
  have ahead : s.now.nanos ≤ (passed s.now span).nanos := by
    show s.now.nanos ≤ s.now.nanos + span.nanos
    omega
  have grows := @ticksUntil_mono since _ _ _ feeds.later ahead
  have few := ticksUntil_sub_le feeds.slow past ahead
  have reached := @ticksUntil_bounds since _ _ feeds.later (Int.le_trans past ahead)
  obtain ⟨first, settled, _, waits⟩ := feeds.settle runs
  rw [← settled.agenda_eq] at waits
  obtain ⟨fuel, enough, ran⟩ := advance_eq waits.ready span
  generalize ticksUntil since signal.interval s.now = shown at *
  generalize known : ticksUntil since signal.interval (passed s.now span) = due at *
  -- The ticks that are due are those whose instants the clock passes, and the next one is not among them.
  have sooner (earlier : Nat) (before : earlier < due - shown) :
      (tickInstant since signal.interval (shown + earlier)).nanos ≤ (passed s.now span).nanos := by
    have frames : ((shown + earlier : Nat) : Int) + 1 ≤ due := by omega
    have nanos := Int.mul_le_mul_of_nonneg_right frames (Int.le_of_lt feeds.later)
    rw [nanos_tickInstant]
    omega
  have late : (passed s.now span).nanos < (tickInstant since signal.interval (shown + (due - shown))).nanos := by
    rw [nanos_tickInstant, Nat.add_sub_cancel' grows]
    exact reached.2
  obtain ⟨last, ticked, done⟩ := (feeds.gives settled).advanceFor_ticks s.settings waits
    (Nat.lt_of_le_of_lt few enough) sooner late
  rw [Nat.add_sub_cancel' grows] at done
  have advanced := (settled.trans ticked).mapAgenda fun agenda => { agenda with now := passed s.now span }
  rw [ran]
  refine ⟨{ last with now := passed s.now span }, advanced, rfl, .waits ⟨done.ready, ?_⟩ (Int.le_trans past ahead)⟩
  dsimp only
  rw [known]
  exact done.timers

end Passing

end EditorAssist.Session

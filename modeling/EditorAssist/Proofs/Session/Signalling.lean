import EditorAssist.Proofs.Json.Encodable
import EditorAssist.Proofs.Session.Ticking

/-!
# What a signal sends

A signal may be started and stopped in any order and at any time. What it sends follows from the times at which it
was running: when it is started something opens its channel, each whole interval shows one tick, and when it is
stopped something closes the channel. A start while it is running and a stop while it is not have no effect.
-/

namespace EditorAssist.Session

open EditorAssist.Json EditorAssist.Payload EditorAssist.Text EditorAssist.Time

/-! ## Calls -/

/-- What is done with a signal, and what the session does meanwhile. -/
inductive SignalCall where
  | start
  | stop
  /-- Whatever is ready is done. -/
  | settle
  | advance (span : Span)

def SignalCall.make : SignalCall → Session × ActiveSignal → Session × ActiveSignal
  | start, (s, active) => s.startSignal active
  | stop, (s, active) => s.stopSignal active
  | settle, (s, active) => (s.settle, active)
  | advance span, (s, active) => (s.advance span, active)

/-- The clock does not go back. -/
def SignalCall.Forward : SignalCall → Prop
  | advance span => 0 ≤ span.nanos
  | _ => True

/-- A session and a signal after some calls. -/
def signalled (s : Session) (active : ActiveSignal) (calls : List SignalCall) : Session × ActiveSignal :=
  calls.foldl (fun state call => call.make state) (s, active)

/-! ## The times at which a signal is running -/

/-- The clock, the times at which a signal was running, and since when it is running now. -/
structure Logbook where
  now : Instant
  past : List (Instant × Instant)
  since : Option Instant

namespace Logbook

def opened (now : Instant) : Logbook := ⟨now, [], none⟩

/-- Whether the signal was never started. -/
def isBlank (book : Logbook) : Bool := book.past.isEmpty && book.since.isNone

/-- Only a start of a signal that is not running and a stop of one that is are put down. -/
def note (book : Logbook) : SignalCall → Logbook
  | .start =>
    match book.since with
    | none => { book with since := some book.now }
    | some _ => book
  | .stop =>
    match book.since with
    | none => book
    | some since => { book with past := book.past ++ [(since, book.now)], since := none }
  | .settle => book
  | .advance span => { book with now := passed book.now span }

end Logbook

/-- The times at which a signal is running if these calls are made. -/
def logged (now : Instant) (calls : List SignalCall) : Logbook := calls.foldl Logbook.note (.opened now)

/-- What is sent from a start until an instant: the opening, and one update for each whole interval. -/
def Channel.shown (channel : Channel) (interval : Span) (since now : Instant) : List Outbound :=
  channel.opening ++ channel.updates since interval (List.range (ticksUntil since interval now))

/-- What a signal sends while it is running at some times: what announces it comes before its first start, and each
stop comes with the closing. -/
def Logbook.messages (book : Logbook) (announcement : List Outbound) (channel : Channel) (interval : Span) :
    List Outbound :=
  (if book.isBlank then [] else announcement) ++
    (book.past.flatMap fun (since, stopped) => channel.shown interval since stopped ++ [channel.closing]) ++
    book.since.elim [] fun since => channel.shown interval since book.now

namespace Logbook

variable {book : Logbook} {announcement : List Outbound} {channel : Channel} {interval : Span} {since : Instant}
  {span : Span}

theorem note_start_of_idle (idle : book.since = none) : book.note .start = { book with since := some book.now } := by
  rw [note, idle]

theorem note_start_of_running (running : book.since = some since) : book.note .start = book := by
  rw [note, running]

theorem note_stop_of_idle (idle : book.since = none) : book.note .stop = book := by
  rw [note, idle]

theorem note_stop_of_running (running : book.since = some since) :
    book.note .stop = { book with past := book.past ++ [(since, book.now)], since := none } := by
  rw [note, running]

/-- A start is seen at once. -/
theorem messages_start (idle : book.since = none) :
    (book.note .start).messages announcement channel interval =
      book.messages announcement channel interval ++
        ((if book.isBlank then announcement else []) ++ channel.opening) := by
  obtain ⟨now, past, running⟩ := book
  obtain rfl : running = none := idle
  cases past <;> simp [note, messages, isBlank, Channel.shown, ticksUntil_self, Channel.updates]

/-- A stop is seen at once. -/
theorem messages_stop (running : book.since = some since) :
    (book.note .stop).messages announcement channel interval =
      book.messages announcement channel interval ++ [channel.closing] := by
  obtain ⟨now, past, _⟩ := book
  obtain rfl := running
  simp [note, messages, isBlank]

/-- The ticks that come while a span passes. -/
theorem messages_advance (running : book.since = some since)
    (grows : ticksUntil since interval book.now ≤ ticksUntil since interval (passed book.now span)) :
    (book.note (.advance span)).messages announcement channel interval =
      book.messages announcement channel interval ++
        channel.updates since interval (List.range' (ticksUntil since interval book.now)
          (ticksUntil since interval (passed book.now span) - ticksUntil since interval book.now)) := by
  obtain ⟨now, past, _⟩ := book
  obtain rfl := running
  dsimp only at grows
  generalize known : ticksUntil since interval (passed now span) = due at grows ⊢
  generalize seen : ticksUntil since interval now = shown at grows ⊢
  have frames : List.range shown ++ List.range' shown (due - shown) = List.range due := by
    have both := @List.range'_append_1 0 shown (due - shown)
    rwa [Nat.zero_add, Nat.add_sub_cancel' grows, ← List.range_eq_range', ← List.range_eq_range'] at both
  simp [note, messages, isBlank, Channel.shown, Channel.updates, known, seen, ← frames]

theorem messages_advance_of_idle (idle : book.since = none) :
    (book.note (.advance span)).messages announcement channel interval =
      book.messages announcement channel interval := by
  obtain ⟨now, past, running⟩ := book
  obtain rfl : running = none := idle
  rfl

end Logbook

/-! ## One call -/

/-- A session in which nothing is left to do. -/
structure AtRest (s : Session) : Prop where
  ready : s.desk.agenda.ready = []
  timers : s.desk.agenda.timers = []
  pending : s.desk.pending = []

/-- A signal that can be shown: it is enabled, and if it shows diagnostics there is a document for them, which nothing
but a stop clears. -/
structure CanShow (s : Session) (signal : Signal) : Prop where
  enabled : signal.enabled = true
  slow : 1000000 ≤ signal.interval.nanos
  current : signal.mode = .diagnostic → s.documents.currentUri.isEmpty = false
  lasting : signal.mode = .diagnostic → signal.timeout.isInstant = true

/-- What a logbook says of a session and a signal after the calls that it was kept of. -/
structure Stands (s : Session) (signal : Signal) (book : Logbook) (t : Session) (active : ActiveSignal) : Prop where
  now : t.now = book.now
  documents : t.documents = s.documents
  pending : t.desk.pending = []
  outbox : t.outbox =
    s.outbox ++ book.messages (s.announcement signal) (s.channel signal) signal.interval
  unnamed : book.isBlank = true → active.signal = signal ∧ t.requested = s.requested ∧ t.tokens = s.tokens
  named : book.isBlank = false → active.signal = s.named signal
  idle : book.since = none → active.ticking = none ∧ t.AtRest
  running : ∀ since, book.since = some since →
    ∃ ticket, active.ticking = some ⟨ticket, since⟩ ∧ Runs ticket (s.named signal) since t.desk.agenda

section Calls

variable {s t : Session} {signal : Signal} {book : Logbook} {active : ActiveSignal} {call : SignalCall}
  {since : Instant}

/-- The token is all that a name adds. -/
theorem named_eq (s : Session) (signal : Signal) : ∃ token, s.named signal = { signal with token } := by
  unfold named
  split <;> exact ⟨_, rfl⟩

theorem enabled_named (s : Session) (signal : Signal) : (s.named signal).enabled = signal.enabled := by
  obtain ⟨_, same⟩ := named_eq s signal
  rw [same]

theorem interval_named (s : Session) (signal : Signal) : (s.named signal).interval = signal.interval := by
  obtain ⟨_, same⟩ := named_eq s signal
  rw [same]

theorem isSome_token_named (s : Session) (signal : Signal) (progress : (s.named signal).mode = .progress) :
    (s.named signal).token.isSome := by
  unfold named at progress ⊢
  cases mode : signal.mode <;> cases given : signal.token <;> simp_all

/-- Whoever has a name keeps it. -/
theorem named_named (s t : Session) (signal : Signal) : t.named (s.named signal) = s.named signal := by
  unfold named
  cases mode : signal.mode <;> cases given : signal.token <;> simp [mode, given]

theorem announcement_named (s t : Session) (signal : Signal) : t.announcement (s.named signal) = [] := by
  unfold named announcement
  cases mode : signal.mode <;> cases given : signal.token <;> simp [mode, given]

theorem channel_named (documents : t.documents = s.documents) (signal : Signal) :
    t.channel (s.named signal) = s.channel signal := by
  unfold Session.channel named
  rw [documents]
  cases mode : signal.mode <;> cases given : signal.token <;> simp [mode, given]

theorem CanShow.feeds (shows : CanShow s signal) (documents : t.documents = s.documents)
    (pending : t.desk.pending = []) : Feeds t (s.named signal) (s.channel signal) := by
  have channel := channel_named documents signal
  have token := isSome_token_named s signal
  obtain ⟨name, same⟩ := named_eq s signal
  rw [same] at channel token ⊢
  exact ⟨shows.slow, channel, token, fun mode => documents ▸ shows.current mode, shows.lasting, pending⟩

/-- The first start gives the signal its name, and the others find it named. -/
theorem Stands.announced (stands : Stands s signal book t active) :
    t.named active.signal = s.named signal ∧ t.channel active.signal = s.channel signal ∧
      t.announcement active.signal = if book.isBlank then s.announcement signal else [] := by
  cases blank : book.isBlank with
  | true =>
    obtain ⟨same, requested, tokens⟩ := stands.unnamed blank
    rw [same]
    unfold Session.named Session.channel Session.announcement
    rw [requested, tokens, stands.documents]
    exact ⟨rfl, rfl, rfl⟩
  | false =>
    rw [stands.named blank]
    exact ⟨named_named s t signal, channel_named stands.documents signal, announcement_named s t signal⟩

theorem Stands.feeds (stands : Stands s signal book t active) (shows : CanShow s signal) :
    Feeds t (s.named signal) (s.channel signal) :=
  shows.feeds stands.documents stands.pending

/-- A running signal has its name. -/
theorem Stands.named_of_running (stands : Stands s signal book t active) (running : book.since = some since) :
    active.signal = s.named signal :=
  stands.named (by simp [Logbook.isBlank, running])

theorem Stands.opened (s : Session) (rest : s.AtRest) (signal : Signal) :
    Stands s signal (.opened s.now) s ⟨signal, none⟩ where
  now := rfl
  documents := rfl
  pending := rest.pending
  outbox := (List.append_nil _).symm
  unnamed := fun _ => ⟨rfl, rfl, rfl⟩
  named := nofun
  idle := fun _ => ⟨rfl, rest⟩
  running := nofun

/-- A signal goes on running while the session gives what the logbook says. -/
theorem Stands.goes_on {later : Logbook} {messages : List Outbound} {agenda : Agenda Work} {u : Session}
    (stands : Stands s signal book t active) (running : book.since = some since) (gives : Gives t messages agenda u)
    (now : agenda.now = later.now) (still : later.since = some since)
    (told : later.messages (s.announcement signal) (s.channel signal) signal.interval =
      book.messages (s.announcement signal) (s.channel signal) signal.interval ++ messages)
    (work : ∃ ticket, active.ticking = some ⟨ticket, since⟩ ∧ Runs ticket (s.named signal) since agenda) :
    Stands s signal later u active where
  now := (congrArg Agenda.now gives.agenda_eq).trans now
  documents := gives.documents_eq.trans stands.documents
  pending := gives.pending_eq.trans stands.pending
  outbox := by rw [gives.outbox_eq, stands.outbox, told, List.append_assoc]
  unnamed := fun blank => by simp [Logbook.isBlank, still] at blank
  named := fun _ => stands.named_of_running running
  idle := fun stopped => by
    rw [still] at stopped
    cases stopped
  running := fun other same => by
    obtain rfl : since = other := Option.some.inj (still.symm.trans same)
    rw [gives.agenda_eq]
    exact work

theorem AtRest.settle (rest : t.AtRest) : t.settle = t := Engine.settle_of_idle rest.ready

theorem AtRest.advance (rest : t.AtRest) (span : Span) :
    t.advance span = t.mapAgenda fun agenda => { agenda with now := passed t.now span } := by
  have quiet : t.desk.agenda.wake? (passed t.now span) = none := by
    rw [Agenda.wake?, rest.timers]
  have idle : t.settle.desk.agenda.ready = [] := by rw [rest.settle, rest.ready]
  obtain ⟨fuel, _, ran⟩ := advance_eq idle span
  have still : (engine t.settings).advanceFor (fun _ => true) (passed t.now span) fuel t = t :=
    Engine.advanceFor_of_quiet rest.ready quiet fuel
  rw [ran, rest.settle, still]

theorem Stands.settle (stands : Stands s signal book t active) (shows : CanShow s signal) :
    Stands s signal (book.note .settle) t.settle active := by
  cases running : book.since with
  | none =>
    rw [(stands.idle running).2.settle]
    exact stands
  | some since =>
    obtain ⟨ticket, own, runs⟩ := stands.running since running
    obtain ⟨agenda, gives, now, waits⟩ := (stands.feeds shows).settle runs
    refine stands.goes_on running gives (now.trans stands.now) running (List.append_nil _).symm ⟨ticket, own, ?_⟩
    rw [← now] at waits
    exact .waits waits (now ▸ runs.past)

theorem Stands.advance (stands : Stands s signal book t active) (shows : CanShow s signal) {span : Span}
    (forward : 0 ≤ span.nanos) : Stands s signal (book.note (.advance span)) (t.advance span) active := by
  have now : passed t.now span = (book.note (.advance span)).now := by
    rw [stands.now]
    rfl
  cases running : book.since with
  | none =>
    obtain ⟨off, rest⟩ := stands.idle running
    have told := stands.outbox
    rw [← Logbook.messages_advance_of_idle running] at told
    rw [rest.advance]
    exact ⟨now, stands.documents, stands.pending, told, stands.unnamed, stands.named,
      fun _ => ⟨off, rest.ready, rest.timers, rest.pending⟩, fun since same => by cases running.symm.trans same⟩
  | some since =>
    obtain ⟨ticket, own, runs⟩ := stands.running since running
    obtain ⟨agenda, gives, later, work⟩ := (stands.feeds shows).advance runs forward
    have ahead : book.now.nanos ≤ (passed book.now span).nanos := by
      show book.now.nanos ≤ book.now.nanos + span.nanos
      omega
    rw [interval_named, stands.now] at gives
    have slow := shows.slow
    exact stands.goes_on running gives (later.trans now) running
      (Logbook.messages_advance running (ticksUntil_mono (by omega) ahead)) ⟨ticket, own, work⟩

theorem Stands.start (stands : Stands s signal book t active) (shows : CanShow s signal) :
    Stands s signal (book.note .start) (t.startSignal active).1 (t.startSignal active).2 := by
  cases running : book.since with
  | none =>
    -- The name of the signal is the same at every start, and only the first one announces it.
    obtain ⟨name, channel, announcement⟩ := stands.announced
    obtain ⟨off, rest⟩ := stands.idle running
    obtain ⟨own, _⟩ := active
    obtain rfl := off
    have enabled : own.enabled = true := by
      rw [← enabled_named t own, name, enabled_named, shows.enabled]
    obtain ⟨⟨requested, tokens, gives⟩, started⟩ := @gives_startSignal t own enabled
    rw [announcement, channel, name] at gives
    rw [name] at started
    have noted := Logbook.note_start_of_idle running
    have told : (book.note .start).messages (s.announcement signal) (s.channel signal) signal.interval = _ :=
      Logbook.messages_start running
    rw [started]
    rw [noted] at told ⊢
    refine ⟨(congrArg Agenda.now gives.agenda_eq).trans stands.now, gives.documents_eq.trans stands.documents,
      gives.pending_eq.trans stands.pending, ?_, ?_, fun _ => rfl, nofun, ?_⟩
    · rw [told, ← List.append_assoc, ← stands.outbox]
      exact gives.outbox_eq
    · intro blank
      simp [Logbook.isBlank] at blank
    · rintro _ ⟨⟩
      refine ⟨t.desk.agenda.issued, by rw [stands.now], ?_⟩
      rw [gives.agenda_eq]
      exact .begins (congrArg (· ++ [_]) rest.ready) rest.timers stands.now
  | some since =>
    obtain ⟨ticket, own, _⟩ := stands.running since running
    have still : t.startSignal active = (t, active) := by
      rw [Session.startSignal, own]
      exact if_pos (Bool.or_true _)
    rw [still, Logbook.note_start_of_running running]
    exact stands

/-- Withdrawing the work of a signal leaves nothing. -/
theorem Runs.cancel {ticket : Nat} {agenda : Agenda Work} (runs : Runs ticket signal since agenda) :
    (agenda.cancel ticket).ready = [] ∧ (agenda.cancel ticket).timers = [] := by
  cases runs with
  | begins ready none _ => simp [Agenda.cancel, ready, none]
  | waits waits _ => simp [Agenda.cancel, waits.ready, waits.timers]

theorem Stands.stop (stands : Stands s signal book t active) (shows : CanShow s signal) :
    Stands s signal (book.note .stop) (t.stopSignal active).1 (t.stopSignal active).2 := by
  cases running : book.since with
  | none =>
    have still : t.stopSignal active = (t, active) := by
      rw [Session.stopSignal, (stands.idle running).1]
    rw [still, Logbook.note_stop_of_idle running]
    exact stands
  | some since =>
    obtain ⟨ticket, own, runs⟩ := stands.running since running
    have name := stands.named_of_running running
    obtain ⟨_, _⟩ := active
    obtain rfl := own
    obtain rfl := name
    obtain ⟨gives, stopped⟩ := (stands.feeds shows).stopSignal ⟨ticket, since⟩
    obtain ⟨ready, timers⟩ := runs.cancel
    have noted := Logbook.note_stop_of_running running
    have told : (book.note .stop).messages (s.announcement signal) (s.channel signal) signal.interval = _ :=
      Logbook.messages_stop running
    rw [stopped]
    rw [noted] at told ⊢
    refine ⟨(congrArg Agenda.now gives.agenda_eq).trans stands.now, gives.documents_eq.trans stands.documents,
      gives.pending_eq.trans stands.pending, ?_, ?_, fun _ => rfl, fun _ => ⟨rfl, ?_⟩, nofun⟩
    · rw [gives.outbox_eq, stands.outbox, told, List.append_assoc]
    · intro blank
      simp [Logbook.isBlank] at blank
    · exact ⟨(congrArg Agenda.ready gives.agenda_eq).trans ready, (congrArg Agenda.timers gives.agenda_eq).trans timers,
        gives.pending_eq.trans stands.pending⟩

/-- Every call does what the logbook notes of it. -/
theorem Stands.make (stands : Stands s signal book t active) (shows : CanShow s signal) (forward : call.Forward) :
    Stands s signal (book.note call) (call.make (t, active)).1 (call.make (t, active)).2 := by
  cases call with
  | start => exact stands.start shows
  | stop => exact stands.stop shows
  | settle => exact stands.settle shows
  | advance span => exact stands.advance shows forward

theorem Stands.signalled (stands : Stands s signal book t active) (shows : CanShow s signal)
    {calls : List SignalCall} (forward : ∀ call ∈ calls, call.Forward) :
    Stands s signal (calls.foldl Logbook.note book) (t.signalled active calls).1 (t.signalled active calls).2 := by
  induction calls generalizing book t active with
  | nil => exact stands
  | cons call calls ih =>
    have first := stands.make shows (forward call (List.mem_cons_self ..))
    exact ih first fun other member => forward other (List.mem_cons_of_mem call member)

end Calls

/-! ## What can be written -/

/-- Whether the texts that a channel is given hold no half of a surrogate pair. -/
def Channel.isEncodable : Channel → Bool
  | progress token title => token.toValue.all Value.isEncodable && !hasHalf title.toList
  | diagnostics uri _ => !hasHalf uri.toList

/-- Whether the texts of a signal that tell where it is shown hold no half of a surrogate pair: its title and its token,
or the document of its diagnostics. -/
def Signal.isEncodable (uri : String) (signal : Signal) : Bool :=
  match signal.mode with
  | .progress => (signal.token.all fun token => token.toValue.all Value.isEncodable) && !hasHalf signal.title.toList
  | .diagnostic => !hasHalf uri.toList

section Written

variable {channel : Channel}

theorem hasHalf_freshToken (number : Nat) : (freshToken number).toValue.all Value.isEncodable = true := by
  have front : hasHalf "helix-assist/uuid-".toList = false := by decide
  have text : hasHalf ("helix-assist/uuid-" ++ toString number).toList = false := by
    rw [String.toList_append, hasHalf_append, front]
    exact hasHalf_digits number
  show (!hasHalf ("helix-assist/uuid-" ++ toString number).toList) = true
  rw [text]
  rfl

/-- The picture and the time of a tick can be written. -/
theorem hasHalf_tickText (since now : Instant) (frame : Nat) : hasHalf (tickText since now frame).toList = false := by
  have pictures : ∀ n < 10, half? (spinnerFrames.getD n '⠋') = none := by decide
  have picture := pictures (frame % 10) (Nat.mod_lt frame (by decide))
  have time : hasHalf (Instant.elapsedText since now).toList = false := by
    rw [Instant.elapsedText, String.toList_ofList, hasHalf_append, hasHalf_fixedFloat]
    decide
  unfold tickText
  generalize spinnerFrames.getD (frame % 10) '⠋' = c at picture ⊢
  simp [picture, time, half?_of_ascii]

theorem encodeFault?_createProgress (id : Nat) {token : RequestId}
    (encodable : token.toValue.all Value.isEncodable = true) :
    (Outbound.createProgress id token).encodeFault? = none := by
  refine Wire.encodeFault?_eq_none ?_
  show Value.all _ (.obj [("id", .int id), ("method", .str "window/workDoneProgress/create"),
    ("params", .obj [("token", token.toValue)]), ("jsonrpc", .str "2.0")]) = true
  simp [all_isEncodable_obj, all_isEncodable_str, all_isEncodable_int, half?_of_ascii, encodable]

theorem encodeFault?_progress {token : RequestId} {value : ProgressValue}
    (encodable : token.toValue.all Value.isEncodable = true)
    (whole : (ProgressValue.codec.write value).all Value.isEncodable = true) :
    (Outbound.progress ⟨token, value⟩).encodeFault? = none := by
  refine Wire.encodeFault?_eq_none ?_
  show Value.all _ (.obj [("method", .str "$/progress"), ("params", .obj [("token", token.toValue),
    ("value", ProgressValue.codec.write value)]), ("jsonrpc", .str "2.0")]) = true
  simp [all_isEncodable_obj, all_isEncodable_str, half?_of_ascii, encodable, whole]

theorem encodeFault?_diagnostics {uri : String} {diagnostics : List Diagnostic} (encodable : hasHalf uri.toList = false)
    (whole : ∀ d ∈ diagnostics, (Diagnostic.codec.write d).all Value.isEncodable = true) :
    (Outbound.diagnostics ⟨uri, diagnostics⟩).encodeFault? = none := by
  refine Wire.encodeFault?_eq_none ?_
  show Value.all _ (.obj [("method", .str "textDocument/publishDiagnostics"), ("params", .obj [("uri", .str uri),
    ("diagnostics", .arr (diagnostics.map Diagnostic.codec.write))]), ("jsonrpc", .str "2.0")]) = true
  simpa [all_isEncodable_obj, all_isEncodable_str, all_isEncodable_arr, half?_of_ascii, encodable] using whole

theorem Channel.opening_written (encodable : channel.isEncodable = true) :
    ∀ m ∈ channel.opening, m.encodeFault? = none := by
  intro m member
  cases channel with
  | diagnostics uri range => cases member
  | progress token title =>
    obtain ⟨name, text⟩ := Bool.and_eq_true_iff.mp encodable
    rw [List.mem_singleton.mp member]
    refine encodeFault?_progress name ?_
    show Value.all _ (.obj [("kind", .str "begin"), ("title", .str title)]) = true
    simpa [all_isEncodable_obj, all_isEncodable_str, half?_of_ascii] using text

theorem Channel.update_written (encodable : channel.isEncodable = true) {text : String}
    (whole : hasHalf text.toList = false) : (channel.update text).encodeFault? = none := by
  cases channel with
  | progress token title =>
    obtain ⟨name, _⟩ := Bool.and_eq_true_iff.mp encodable
    refine encodeFault?_progress name ?_
    show Value.all _ (.obj [("kind", .str "report"), ("message", .str text)]) = true
    simp [all_isEncodable_obj, all_isEncodable_str, half?_of_ascii, whole]
  | diagnostics uri range =>
    refine encodeFault?_diagnostics (by simpa [Channel.isEncodable] using encodable) fun d member => ?_
    rw [List.mem_singleton.mp member]
    show Value.all _ (.obj [("message", .str text), ("range", .obj [
      ("start", .obj [("line", .int range.start.line), ("character", .int range.start.character)]),
      ("end", .obj [("line", .int range.stop.line), ("character", .int range.stop.character)])]),
      ("source", .str "helix-assist"), ("severity", .int 3)]) = true
    simp [all_isEncodable_obj, all_isEncodable_str, all_isEncodable_int, half?_of_ascii, whole]

theorem Channel.closing_written (encodable : channel.isEncodable = true) : channel.closing.encodeFault? = none := by
  cases channel with
  | progress token title =>
    obtain ⟨name, _⟩ := Bool.and_eq_true_iff.mp encodable
    refine encodeFault?_progress name ?_
    show Value.all _ (.obj [("kind", .str "end")]) = true
    simp [all_isEncodable_obj, all_isEncodable_str, half?_of_ascii]
  | diagnostics uri range =>
    exact encodeFault?_diagnostics (by simpa [Channel.isEncodable] using encodable) (by simp)

end Written

/-! ## What is sent -/

section Sent

variable {s : Session} {signal : Signal} {calls : List SignalCall}

/-- A session that has just started and has no backends. -/
def blankSession : Session := Session.start (.defaults "") ⟨[], "", []⟩ .initial

end Sent

end EditorAssist.Session

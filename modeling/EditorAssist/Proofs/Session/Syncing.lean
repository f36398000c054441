import EditorAssist.Proofs.Document.Edits
import EditorAssist.Proofs.Session.Answers
import EditorAssist.Proofs.Session.Versions

/-!
# Documents follow the messages

Handlers take their messages up in the order in which these arrive, whatever else is delayed or worked on, and
whatever is withdrawn. The documents change only when a handler takes a message up that it can read, and then
by the one edit that the message brings. So the store of a settled session is the messages' edits, in order.
-/

namespace EditorAssist.Session

open EditorAssist.Backend EditorAssist.Debounce EditorAssist.Journal EditorAssist.Json
open EditorAssist.Payload EditorAssist.Settings EditorAssist.Time EditorAssist.Wire

/-! ## Edits of messages -/

/-- The parameters of a message, if they can be read. -/
def params? {α : Type} (codec : Codec α) (m : Message) : Option α := (codec.read (givenParams m)).toOption

/-- A document is opened. -/
def openingEdit (params : DidOpenParams) : DocumentEdit :=
  .opens ⟨params.textDocument.uri, params.textDocument.text, params.textDocument.version,
    params.textDocument.languageId⟩

/-- Of the texts of a change the first one counts; a change without any changes nothing. -/
def changingEdit? (params : DidChangeParams) : Option DocumentEdit :=
  params.contentChanges.head?.map fun change =>
    .changes params.textDocument.uri params.textDocument.version change.text

/-- The edit that a message brings, if it is about a document and can be read. -/
def documentEdit? (m : Message) : Option DocumentEdit :=
  match m.method with
  | some "textDocument/didOpen" => (params? DidOpenParams.codec m).map openingEdit
  | some "textDocument/didChange" => (params? DidChangeParams.codec m).bind changingEdit?
  | some "textDocument/didClose" =>
    (params? DidCloseParams.codec m).map fun params => .closes params.textDocument.uri
  | some "textDocument/codeAction" =>
    (params? CodeActionParams.codec m).map fun params => .selects params.textDocument.uri
  | _ => none

/-- The edit that a handler makes when it takes a message up. -/
def Handler.edit? (m : Message) : Handler → Option DocumentEdit
  | opening => (params? DidOpenParams.codec m).map openingEdit
  | change => (params? DidChangeParams.codec m).bind changingEdit?
  | closing => (params? DidCloseParams.codec m).map fun params => .closes params.textDocument.uri
  | codeAction => (params? CodeActionParams.codec m).map fun params => .selects params.textDocument.uri
  | _ => none

/-- Whether a handler can read the parameters of a message. -/
def Handler.accepts (m : Message) : Handler → Bool
  | opening => readable DidOpenParams.codec m
  | change => readable DidChangeParams.codec m
  | closing => readable DidCloseParams.codec m
  | completion => readable CompletionParams.codec m
  | codeAction => readable CodeActionParams.codec m
  | command => readable ExecuteCommandParams.codec m
  | _ => true

/-- A message with the handler that takes care of it. -/
structure Call where
  handler : Handler
  message : Message

/-- The call of a message, if there is a handler for it. -/
def call? (m : Message) : Option Call := (handler? m).map (⟨·, m⟩)

/-- The edit of a call. -/
def Call.edit? (call : Call) : Option DocumentEdit := call.handler.edit? call.message

/-- The call that work begins with. -/
def Work.call? : Work → Option Call
  | handle _ handler m => some ⟨handler, m⟩
  | _ => none

/-- The edit that work makes. -/
def Work.edit? (work : Work) : Option DocumentEdit := work.call?.bind Call.edit?

/-- The call that is taken up. -/
def Event.call? : Event → Option Call
  | received _ => none
  | turn _ job => job.work.call?

/-- The edit that is made. -/
def Event.edit? (e : Event) : Option DocumentEdit := e.call?.bind Call.edit?

/-- The calls that wait to be taken up, in order. -/
def waiting (s : Session) : List Call := s.desk.agenda.ready.filterMap (·.work.call?)

section Edits

variable {s t : Session} {hand : List (Job Work)} {acts : List Act} {events : List Event} {job : Job Work}
  {rest : List (Job Work)} {m : Message} {work : Work}

/-- The edit of a message is that of its handler. -/
theorem documentEdit?_eq (m : Message) : documentEdit? m = (call? m).bind Call.edit? := by
  unfold documentEdit? call? handler?
  cases called : m.method with
  | none => rfl
  | some method =>
    dsimp only [Option.bind_some]
    rcases ofMethod?_cases method with unhandled | known
    · rw [unhandled]
      split
      · next same => cases same; cases unhandled
      · next same => cases same; cases unhandled
      · next same => cases same; cases unhandled
      · next same => cases same; cases unhandled
      · rfl
    · simp only [List.mem_cons, Prod.mk.injEq, List.not_mem_nil, or_false] at known
      rcases known with ⟨rfl, _⟩ | ⟨rfl, _⟩ | ⟨rfl, _⟩ | ⟨rfl, _⟩ | ⟨rfl, _⟩ | ⟨rfl, _⟩ | ⟨rfl, _⟩ |
        ⟨rfl, _⟩ | ⟨rfl, _⟩ | ⟨rfl, _⟩ <;> rfl

/-! ## One turn -/

/-- Parameters are read and gone on with, or nothing happens to the documents. -/
theorem documents_withParams {α : Type} (codec : Codec α) (s : Session) (number : Nat) (m : Message)
    (next : α → Session) :
    (withParams codec s number m next).documents =
      ((params? codec m).map fun params => (next params).documents).getD s.documents := by
  unfold withParams params?
  cases read : codec.read (givenParams m) with
  | ok params => rfl
  | error wrong =>
    show (refuseParams s m codec.name wrong).documents = s.documents
    unfold refuseParams
    dsimp only
    split
    · rfl
    · obtain ⟨sink, sent⟩ := send_eq (s.log .error "lsp.service" "invalid params" _) (.refusal _ _)
      rw [refuse, sent]
      rfl

theorem documents_didChange (s : Session) (params : DidChangeParams) :
    (s.didChange params).documents = s.documents.after (changingEdit? params).toList := by
  unfold didChange changingEdit?
  cases params.contentChanges with
  | nil => rfl
  | cons first others => rfl

theorem documents_offerActions (s : Session) (id : Option RequestId) (params : CodeActionParams) :
    (s.offerActions id params).documents = s.documents.setCurrent params.textDocument.uri := by
  obtain ⟨sink, sent⟩ := send_eq { s with documents := s.documents.setCurrent params.textDocument.uri }
    (.response id (.arr ((Action.codeActions params).map CodeAction.codec.write)))
  exact congrArg documents sent

/-- A handler that edits makes the edit of its message. -/
theorem documents_runHandler {handler : Handler} {number ticket : Nat}
    (edits : (Work.handle number handler m).isEdit = true) :
    (s.runHandler ticket number handler m).documents = s.documents.after (handler.edit? m).toList := by
  cases handler with
  | opening =>
    refine (documents_withParams DidOpenParams.codec s number m _).trans ?_
    rw [Handler.edit?]
    cases params? DidOpenParams.codec m with
    | none => rfl
    | some params => rfl
  | change =>
    refine (documents_withParams DidChangeParams.codec s number m _).trans ?_
    rw [Handler.edit?]
    cases params? DidChangeParams.codec m with
    | none => rfl
    | some params => exact documents_didChange s params
  | closing =>
    refine (documents_withParams DidCloseParams.codec s number m _).trans ?_
    rw [Handler.edit?]
    cases params? DidCloseParams.codec m with
    | none => rfl
    | some params => rfl
  | codeAction =>
    refine (documents_withParams CodeActionParams.codec s number m _).trans ?_
    rw [Handler.edit?]
    cases params? CodeActionParams.codec m with
    | none => rfl
    | some params => exact (documents_finish _ _).trans (documents_offerActions s m.id params)
  | _ => cases edits

/-- A turn changes the documents by the edit of its work, and not otherwise. -/
theorem documents_turn (sound : Sound [] s) (ready : s.desk.agenda.ready = job :: rest) :
    (perform job (s.taken rest)).documents = s.documents.after job.work.edit?.toList := by
  by_cases edits : job.work.isEdit = true
  · obtain ⟨ticket, work⟩ := job
    cases work with
    | handle number handler m => exact documents_runHandler edits
    | _ => cases edits
  · obtain ⟨acts, account⟩ := turn_account sound ready
    have none : job.work.edit? = none := by
      obtain ⟨ticket, work⟩ := job
      cases work with
      | handle number handler m =>
        cases handler with
        | opening | change | closing | codeAction => exact absurd rfl edits
        | _ => rfl
      | _ => rfl
    rw [none]
    exact account.framed.documents fun documents edit => edits (account.fits _ edit)

/-! ## Calls that wait -/

/-- A call cannot be withdrawn. -/
theorem Work.slot_of_call? (called : work.call? ≠ none) : work.slot = none ∧ work.isSignal = false := by
  cases work with
  | handle => exact ⟨rfl, rfl⟩
  | _ => exact absurd rfl called

/-- Calls wait for their turns only. -/
theorem Work.call?_of_isTimed (timed : work.isTimed = true) : work.call? = none := by
  cases work with
  | handle => cases timed
  | _ => rfl

theorem waiting_of_ready {jobs : List (Job Work)} (ready : t.desk.agenda.ready = s.desk.agenda.ready ++ jobs)
    (others : ∀ job ∈ jobs, job.work.call? = none) : t.waiting = s.waiting := by
  have none : jobs.filterMap (·.work.call?) = [] := List.filterMap_eq_nil_iff.mpr others
  rw [waiting, ready, List.filterMap_append, none, List.append_nil, waiting]

theorem waiting_of_agenda (agenda : t.desk.agenda = s.desk.agenda) : t.waiting = s.waiting := by
  rw [waiting, agenda, waiting]

/-- Withdrawing jobs that are no calls leaves the calls in order. -/
theorem waiting_filter {p : Job Work → Bool} (ready : t.desk.agenda.ready = s.desk.agenda.ready.filter p)
    (others : ∀ job ∈ s.desk.agenda.ready, p job = false → job.work.call? = none) : t.waiting = s.waiting := by
  rw [waiting, ready]
  exact filterMap_filter_eq others

/-- What is pending for a key is withdrawn. -/
theorem waiting_cancel (sound : Sound hand s) (key : String) :
    ({ s with desk := (s.desk.cancel key).1 } : Session).waiting = s.waiting := by
  rcases s.desk.cancel_cases key with ⟨_, same⟩ | ⟨entry, pending, own, gone⟩
  · exact waiting_of_agenda (by rw [same])
  · refine waiting_filter (p := fun job => job.ticket != entry.ticket) (by rw [gone]; rfl) fun job member out => ?_
    have slot := sound.coherent.slot_of_ticket pending
      (List.mem_append_right _ (List.mem_append_left _ member)) (by simpa using out)
    by_contra called
    rw [(Work.slot_of_call? called).1] at slot
    cases slot

theorem waiting_spawn {agenda : Agenda Work} (before : s.desk.agenda = agenda)
    (spawned : t.desk.agenda = (agenda.spawn work).1) (other : work.call? = none) : t.waiting = s.waiting := by
  have ready : t.desk.agenda.ready = s.desk.agenda.ready ++ [⟨agenda.issued, work⟩] := by
    rw [spawned, before]
    rfl
  refine waiting_of_ready ready fun job member => ?_
  rw [List.mem_singleton.mp member]
  exact other

/-- Strokes neither take calls up nor bring new ones. -/
theorem Stroke.waiting (stroke : Stroke hand s acts t) (sound : Sound hand s) : t.waiting = s.waiting := by
  cases stroke with
  | note => rfl
  | edit => rfl
  | ask => rfl
  | say m other =>
    obtain ⟨sink, sent⟩ := send_eq s m
    rw [sent]
    rfl
  | clear uri =>
    obtain ⟨sink, sent⟩ := send_eq s (.diagnostics ⟨uri, []⟩)
    rw [clearDiagnostics, sent]
    rfl
  | publish diagnostics timeout current =>
    obtain ⟨sink, same⟩ := publish_eq sound current diagnostics timeout
    rw [same, ← waiting_cancel sound (diagnosticsKey s.documents.currentUri)]
    by_cases instant : timeout.isInstant = true
    · exact waiting_of_agenda (by simp only [if_pos instant])
    · have other : (Work.delay (diagnosticsKey s.documents.currentUri) timeout
          (.clear s.documents.currentUri)).call? = none := rfl
      exact waiting_spawn rfl (by simp only [if_neg instant]; rfl) other
  | wipe current =>
    obtain ⟨sink, same⟩ := resetDiagnostics_eq sound current
    rw [same, ← waiting_cancel sound (diagnosticsKey s.documents.currentUri)]
    rfl
  | start signal slow => exact waiting_spawn rfl rfl rfl
  | stop ticket signal =>
    refine waiting_filter (p := fun job => job.ticket != ticket) rfl fun job member out => ?_
    have shows := signal.signal job (List.mem_append_right _ (List.mem_append_left _ member)) (by simpa using out)
    by_contra called
    rw [(Work.slot_of_call? called).2] at shows
    cases shows
  | postpone job =>
    rw [← waiting_cancel sound completionKey]
    exact waiting_spawn rfl rfl rfl
  | tell entries =>
    obtain ⟨sink, invocations, same⟩ := withdrawn_outbox entries s
    rw [same]
    rfl
  | drop =>
    have agenda := agenda_foldl_withdraw s.desk.pending { s.desk with pending := [] }
    refine waiting_filter (congrArg Agenda.ready agenda) fun job member out => ?_
    obtain ⟨entry, pending, same⟩ := List.all_eq_false.mp out
    have own : entry.ticket = job.ticket := by simpa using same
    have slot := sound.coherent.slot_of_ticket pending
      (List.mem_append_right _ (List.mem_append_left _ member)) own.symm
    by_contra called
    rw [(Work.slot_of_call? called).1] at slot
    cases slot

theorem Strokes.waiting (strokes : Strokes hand s acts t) (sound : Sound hand s) : t.waiting = s.waiting := by
  induction strokes with
  | nil => rfl
  | cons stroke _ ih => exact (ih (stroke.sound sound)).trans (stroke.waiting sound)

theorem waiting_waitUntil (due : Instant) (ticket : Nat) (other : work.call? = none) :
    (s.waitUntil due ticket work).waiting = s.waiting := by
  unfold waitUntil mapAgenda Agenda.waitUntil
  dsimp only
  split
  · refine waiting_of_ready rfl fun job member => ?_
    rw [List.mem_singleton.mp member]
    exact other
  · rfl

/-- Handing work on leaves the calls. -/
theorem Left.waiting {u : Session} {ticket : Nat} (left : Left s ticket work u t) : t.waiting = u.waiting := by
  have other {next : Work} (hands : Hands s work next) : next.call? = none := by cases hands <;> rfl
  cases left with
  | ends => rfl
  | lined hands =>
    refine waiting_of_ready rfl fun job member => ?_
    rw [List.mem_singleton.mp member]
    exact other hands
  | spawned hands => exact waiting_spawn rfl rfl (other hands)
  | waits due hands => exact waiting_waitUntil due ticket (other hands)

/-- A turn takes up the first call if its job is one, and leaves the others in order. -/
theorem waiting_turn (sound : Sound [] s) (ready : s.desk.agenda.ready = job :: rest) :
    job.work.call?.toList ++ (perform job (s.taken rest)).waiting = s.waiting := by
  have behind : s.waiting = job.work.call?.toList ++ (s.taken rest).waiting := by
    rw [waiting, ready, List.filterMap_cons]
    cases job.work.call? <;> rfl
  rw [behind]
  congr 1
  rcases job.work.delay_or with ⟨key, span, action, begins⟩ | starts
  · obtain ⟨ticket, work⟩ := job
    obtain rfl := begins
    exact waiting_waitUntil _ _ rfl
  · obtain ⟨pending, same⟩ := begun_eq s job rest
    obtain ⟨u, ⟨acts, strokes, -⟩, left⟩ := perform_turnsTo sound ready starts
    rw [left.waiting, strokes.waiting (sound.begun ready starts), same]
    rfl

/-! ## Runs -/

theorem Step.documents (step : Step s events t) (sound : Sound [] s) :
    t.documents = s.documents.after (events.filterMap Event.edit?) := by
  cases step with
  | receive m => exact handle_documents sound m
  | @turn job rest ready =>
    rw [documents_turn sound ready]
    have made : (Event.turn s job).edit? = job.work.edit? := rfl
    rw [List.filterMap_cons, made]
    cases job.work.edit? <;> rfl
  | wake => rfl
  | pass => rfl

/-- The documents after a run are those that its edits lead to. -/
theorem Run.documents (run : Run s events t) (sound : Sound [] s) :
    t.documents = s.documents.after (events.filterMap Event.edit?) := by
  induction run with
  | nil => rfl
  | cons step _ ih =>
    rw [ih (step.sound sound), step.documents sound, List.filterMap_append, DocumentStore.after_append]

/-- A message queues up behind the calls that wait. -/
theorem waiting_handle (sound : Sound [] s) (m : Message) :
    (s.handle m).waiting = s.waiting ++ (call? m).toList := by
  rcases handle_cases sound.own m with ⟨sink, handler, known, started⟩ | ⟨sink, unhandled, refused⟩
  · rw [started, call?, known]
    exact List.filterMap_append
  · rw [refused, call?, unhandled]
    exact (List.append_nil _).symm

theorem Step.calls (step : Step s events t) (sound : Sound [] s) (punctual : Punctual s) :
    events.filterMap Event.call? ++ t.waiting = s.waiting ++ (received events).filterMap call? := by
  cases step with
  | receive m =>
    rw [waiting_handle sound m]
    show s.waiting ++ _ = s.waiting ++ List.filterMap call? [m]
    rw [List.filterMap_cons]
    cases call? m <;> rfl
  | @turn job rest ready =>
    rw [← waiting_turn sound ready]
    have taken : (Event.turn s job).call? = job.work.call? := rfl
    show List.filterMap Event.call? [.turn s job] ++ _ = _ ++ []
    rw [List.append_nil, List.filterMap_cons, taken]
    cases job.work.call? <;> rfl
  | @wake timer rest idle soonest =>
    have timed := punctual.timers timer (by rw [soonest]; exact List.mem_cons_self ..)
    have rung : (s.mapAgenda (·.ring timer rest)).waiting = s.waiting :=
      waiting_of_ready rfl fun job member => by
        rw [List.mem_singleton.mp member]
        exact Work.call?_of_isTimed timed
    rw [rung]
    exact (List.append_nil _).symm
  | pass => exact (List.append_nil _).symm

/-- Whatever has been taken up and whatever still waits was there before or has arrived, in this order. -/
theorem Run.calls (run : Run s events t) (sound : Sound [] s) (punctual : Punctual s) :
    events.filterMap Event.call? ++ t.waiting = s.waiting ++ (received events).filterMap call? := by
  induction run with
  | nil => exact (List.append_nil _).symm
  | @cons s mid t first later step _ ih =>
    have here := step.calls sound punctual
    have there := ih (step.sound sound) (step.punctual sound punctual)
    rw [received_append, List.filterMap_append, List.filterMap_append, List.append_assoc, there,
      ← List.append_assoc, here, List.append_assoc]

/-- The edits of calls are those of their messages. -/
theorem filterMap_edit?_calls (messages : List Message) :
    (messages.filterMap call?).filterMap Call.edit? = messages.filterMap documentEdit? := by
  rw [List.filterMap_filterMap]
  exact congrArg (List.filterMap · messages) (funext fun m => (documentEdit?_eq m).symm)

/-- The edits that have been made and those that are still to be made are the edits of the messages. -/
theorem Run.edits {settings : Settings} {registry : Registry} {sink : Sink}
    (run : Run (Session.start settings registry sink) events t) :
    events.filterMap Event.edit? ++ t.waiting.filterMap Call.edit? =
      (received events).filterMap documentEdit? := by
  have calls := run.calls (.start settings registry sink) (.start settings registry sink)
  have same : events.filterMap Event.edit? = (events.filterMap Event.call?).filterMap Call.edit? :=
    List.filterMap_filterMap.symm
  rw [same, ← List.filterMap_append, calls]
  exact filterMap_edit?_calls (received events)

end Edits

/-- A change that brings no version and so cannot be read. -/
def misreadChange : Message :=
  ⟨"2.0", none, some "textDocument/didChange",
    .obj [("textDocument", .obj [("uri", .str "file:///a.c")]), ("contentChanges", .arr [])], .null, none⟩

end EditorAssist.Session

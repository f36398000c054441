import EditorAssist.Proofs.Document
import EditorAssist.Proofs.Session.Reaching
import EditorAssist.Proofs.Session.Showing

/-!
# The text that a completion is computed from

A completion reads its document twice: when its request is taken up and when its delay is over. The second look
only compares versions. As long as the versions that are accepted for a document rise, also when it is closed
and opened again, a stored document of no later version is the one that was there before, whatever happened in
between.
-/

namespace EditorAssist.Session

open EditorAssist.Backend EditorAssist.Completion EditorAssist.Debounce EditorAssist.Journal
open EditorAssist.Payload EditorAssist.Settings EditorAssist.Time EditorAssist.Wire

/-! ## Versions -/

/-- The document and the version that work accepts: a document is opened, or the text of one that is open is
replaced. -/
def Work.accepts? (s : Session) : Work → Option (String × Int)
  | handle _ .opening message =>
    match DidOpenParams.codec.read (givenParams message) with
    | .ok params => some (params.textDocument.uri, params.textDocument.version)
    | .error _ => none
  | handle _ .change message =>
    match DidChangeParams.codec.read (givenParams message) with
    | .ok params =>
      if params.contentChanges.isEmpty || (s.documents.get? params.textDocument.uri).isNone then none
      else some (params.textDocument.uri, params.textDocument.version)
    | .error _ => none
  | _ => none

/-- The document and the version that an event accepts. -/
def Event.accepts? : Event → Option (String × Int)
  | received _ => none
  | turn s job => job.work.accepts? s

/-- What some events accept, in order. -/
def accepted (events : List Event) : List (String × Int) := events.filterMap Event.accepts?

/-- Each version is greater than all that were accepted for its document before. -/
def VersionsRise (events : List Event) : Prop :=
  (accepted events).Pairwise fun earlier later => earlier.1 = later.1 → earlier.2 < later.2

section Documents

variable {s t : Session} {events : List Event} {job : Job Work} {rest : List (Job Work)} {uri : String}
  {document : Document}

theorem documents_finish (s : Session) (number : Nat) : (s.finish number).documents = s.documents := rfl

/-- What is stored after parameters were asked for was stored before, or is stored once they were read. -/
theorem stored_withParams {α : Type} {codec : Codec α} {number : Nat} {message : Message} {next : α → Session}
    (stored : (withParams codec s number message next).documents.get? uri = some document) :
    s.documents.get? uri = some document ∨
      ∃ params, codec.read (givenParams message) = .ok params ∧
        (next params).documents.get? uri = some document := by
  unfold withParams at stored
  split at stored
  · next params read => exact .inr ⟨params, read, stored⟩
  · refine .inl ?_
    unfold refuseParams at stored
    dsimp only at stored
    split at stored
    · exact stored
    · obtain ⟨sink, sent⟩ := send_eq (s.log .error "lsp.service" "invalid params" _) (.refusal _ _)
      rw [documents_finish, refuse, sent] at stored
      exact stored

theorem stored_didOpen {params : DidOpenParams} (stored : (s.didOpen params).documents.get? uri = some document) :
    s.documents.get? uri = some document ∨
      params.textDocument.uri = uri ∧ params.textDocument.version = document.version := by
  have stored : (s.documents.set ⟨params.textDocument.uri, params.textDocument.text,
      params.textDocument.version, params.textDocument.languageId⟩).get? uri = some document := stored
  rw [DocumentStore.get?_set] at stored
  split at stored
  · next own =>
    cases stored
    exact .inr ⟨own, rfl⟩
  · exact .inl stored

/-- A change takes effect on a document that is open, if it says anything. -/
theorem stored_didChange {params : DidChangeParams}
    (stored : (s.didChange params).documents.get? uri = some document) :
    s.documents.get? uri = some document ∨
      params.contentChanges.isEmpty = false ∧ (s.documents.get? uri).isSome = true ∧
        params.textDocument.uri = uri ∧ params.textDocument.version = document.version := by
  unfold didChange at stored
  cases changes : params.contentChanges with
  | nil =>
    rw [changes] at stored
    exact .inl stored
  | cons first others =>
    rw [changes] at stored
    have stored : (s.documents.updateText params.textDocument.uri params.textDocument.version
        first.text).get? uri = some document := stored
    rw [DocumentStore.get?_updateText] at stored
    split at stored
    · next own =>
      obtain ⟨before, there, rfl⟩ := Option.map_eq_some_iff.mp stored
      exact .inr ⟨rfl, by rw [there]; rfl, own, rfl⟩
    · exact .inl stored

theorem stored_didClose {params : DidCloseParams}
    (stored : (s.didClose params).documents.get? uri = some document) : s.documents.get? uri = some document := by
  have stored : (s.documents.delete params.textDocument.uri).get? uri = some document := stored
  rw [DocumentStore.get?_delete] at stored
  split at stored
  · cases stored
  · exact stored

theorem get?_offerActions (s : Session) (id : Option RequestId) (params : CodeActionParams) (uri : String) :
    (s.offerActions id params).documents.get? uri = s.documents.get? uri := by
  obtain ⟨sink, sent⟩ := send_eq { s with documents := s.documents.setCurrent params.textDocument.uri }
    (.response id (.arr ((Action.codeActions params).map CodeAction.codec.write)))
  rw [offerActions, respond, sent]
  exact DocumentStore.get?_setCurrent ..

/-- Whatever document is stored after a turn was stored before, or its version is what the turn accepts. -/
theorem turn_stored (sound : Sound [] s) (ready : s.desk.agenda.ready = job :: rest)
    (stored : (perform job (s.taken rest)).documents.get? uri = some document) :
    s.documents.get? uri = some document ∨ job.work.accepts? s = some (uri, document.version) := by
  obtain ⟨acts, account⟩ := turn_account sound ready
  by_cases unedited : ∀ documents, .edits documents ∉ acts
  · rw [account.framed.documents unedited] at stored
    exact .inl stored
  · obtain ⟨documents, edit⟩ := Classical.not_forall.mp unedited
    have edits : job.work.isEdit = true := account.fits _ (Classical.not_not.mp edit)
    obtain ⟨ticket, work⟩ := job
    cases work with
    | handle number handler message =>
      cases handler with
      | opening =>
        have stored : (withParams DidOpenParams.codec (s.taken rest) number message fun params =>
            ((s.taken rest).didOpen params).finish number).documents.get? uri = some document := stored
        rcases stored_withParams stored with before | ⟨params, read, now⟩
        · exact .inl before
        · refine (stored_didOpen now).imp_right fun ⟨own, version⟩ => ?_
          simp only [Work.accepts?, read, own, version]
      | change =>
        have stored : (withParams DidChangeParams.codec (s.taken rest) number message fun params =>
            ((s.taken rest).didChange params).finish number).documents.get? uri = some document := stored
        rcases stored_withParams stored with before | ⟨params, read, now⟩
        · exact .inl before
        · refine (stored_didChange now).imp_right fun ⟨edited, stands, own, version⟩ => ?_
          have stands : (s.documents.get? uri).isSome = true := stands
          rw [Option.isSome_iff_ne_none] at stands
          simp [Work.accepts?, read, edited, own, version, stands]
      | closing =>
        have stored : (withParams DidCloseParams.codec (s.taken rest) number message fun params =>
            ((s.taken rest).didClose params).finish number).documents.get? uri = some document := stored
        rcases stored_withParams stored with before | ⟨params, read, now⟩
        · exact .inl before
        · exact .inl (stored_didClose now)
      | codeAction =>
        have stored : (withParams CodeActionParams.codec (s.taken rest) number message fun params =>
            ((s.taken rest).offerActions message.id params).finish number).documents.get? uri = some document :=
          stored
        rcases stored_withParams stored with before | ⟨params, read, now⟩
        · exact .inl before
        · rw [documents_finish, get?_offerActions] at now
          exact .inl now
      | _ => cases edits
    | _ => cases edits

theorem handle_documents (sound : Sound [] s) (m : Message) : (s.handle m).documents = s.documents := by
  rcases handle_cases sound.own m with ⟨sink, handler, _, started⟩ | ⟨sink, _, refused⟩
  · rw [started]
    rfl
  · rw [refused]

/-- Whatever document is stored after a step was stored before, or its version is what the step accepts. -/
theorem Step.stored (step : Step s events t) (sound : Sound [] s)
    (stored : t.documents.get? uri = some document) :
    s.documents.get? uri = some document ∨ (uri, document.version) ∈ accepted events := by
  cases step with
  | receive m =>
    rw [handle_documents sound m] at stored
    exact .inl stored
  | turn ready =>
    refine (turn_stored sound ready stored).imp_right fun accepts => ?_
    exact List.mem_filterMap.mpr ⟨_, List.mem_singleton_self _, accepts⟩
  | wake => exact .inl stored
  | pass => exact .inl stored

/-- Whatever document is stored after a run was stored before, or its version was accepted in between. -/
theorem Run.stored (run : Run s events t) (sound : Sound [] s)
    (stored : t.documents.get? uri = some document) :
    s.documents.get? uri = some document ∨ (uri, document.version) ∈ accepted events := by
  induction run with
  | nil => exact .inl stored
  | cons step _ ih =>
    rw [accepted, List.filterMap_append]
    rcases ih (step.sound sound) stored with before | later
    · exact (step.stored sound before).imp_right (List.mem_append_left _)
    · exact .inr (List.mem_append_right _ later)

end Documents

/-! ## What works on a completion -/

/-- A completion as it is delayed when its request is taken up in some session, and the document at that time. -/
structure Admitted (a : Session) (number : Nat) (message : Message) (params : CompletionParams)
    (completion : CompletionJob) (document : Document) : Prop where
  admitted : a.admitted? params = some document
  job : completion = ⟨number, message.id, params, document.version⟩

/-- Throughout, only the completion that was delayed is worked on for its handler, and only with its document. -/
structure Pursued (a : Session) (number : Nat) (message : Message) (params : CompletionParams) (s : Session) :
    Prop where
  settings : s.settings = a.settings
  takenUp : TakenUp number s
  /-- A stored document of no later version is the one that was there. -/
  unchanged : ∀ document current, a.documents.get? params.textDocument.uri = some document →
    s.documents.get? params.textDocument.uri = some current → current.version ≤ document.version →
      current = document
  waits : ∀ job ∈ s.desk.agenda.jobs, ∀ completion, job.work.awaited? = some completion →
    completion.invocation = number → ∃ document, Admitted a number message params completion document
  asks : ∀ job ∈ s.desk.agenda.jobs, ∀ pending outcome, job.work = .suggestions pending outcome →
    pending.job.invocation = number → ∃ document, Admitted a number message params pending.job document ∧
      pending.query = pending.job.query a.settings document

section Pursuing

variable {a s t : Session} {events : List Event} {number : Nat} {message : Message} {params : CompletionParams}
  {completion : CompletionJob} {document : Document} {job first : Job Work} {rest : List (Job Work)}

theorem Admitted.stored (admitted : Admitted a number message params completion document) :
    a.documents.get? params.textDocument.uri = some document :=
  (Option.filter_eq_some_iff.mp admitted.admitted).1

/-- The document of a completion that starts is the one of its request. -/
theorem Pursued.current (pursued : Pursued a number message params s)
    (admitted : Admitted a number message params completion document) {current : Document}
    (starts : s.Current completion current) : current = document := by
  obtain ⟨stored, timely⟩ := starts
  rw [admitted.job] at stored timely
  exact pursued.unchanged document current admitted.stored stored timely

/-- Sessions of the same documents and agendas pursue alike. -/
theorem Pursued.of_jobs (pursued : Pursued a number message params s) (settings : t.settings = s.settings)
    (takenUp : TakenUp number t) (documents : t.documents = s.documents)
    (jobs : ∀ job ∈ t.desk.agenda.jobs, job ∈ s.desk.agenda.jobs ∨
      job.work.awaited? = none ∧ ∀ pending outcome, job.work ≠ .suggestions pending outcome) :
    Pursued a number message params t where
  settings := settings.trans pursued.settings
  takenUp := takenUp
  unchanged := by
    rw [documents]
    exact pursued.unchanged
  waits := by
    intro job member completion waits own
    rcases jobs job member with old | ⟨free, -⟩
    · exact pursued.waits job old completion waits own
    · rw [free] at waits
      cases waits
  asks := by
    intro job member pending outcome asks own
    rcases jobs job member with old | ⟨-, free⟩
    · exact pursued.asks job old pending outcome asks own
    · exact absurd asks (free pending outcome)

/-- Work on the completion arises only from work on it, with the same document. -/
theorem Pursued.waits_arises (pursued : Pursued a number message params s) (member : job ∈ s.desk.agenda.jobs)
    {next : Work} (arises : Arises s job.work next) (waits : next.awaited? = some completion)
    (own : completion.invocation = number) : ∃ document, Admitted a number message params completion document := by
  generalize worked : job.work = work at arises
  cases arises with
  | clearing => cases waits
  | animated => cases waits
  | delayed fits =>
    obtain ⟨message', params', document, handles, -⟩ := fits
    cases waits
    rw [own] at handles
    exact absurd (worked.trans handles) (pursued.takenUp.begun job member .completion message')
  | handed hands => cases hands <;> cases waits
  | @fires key span action begins =>
    refine pursued.waits job member completion ?_ own
    rw [worked, begins]
    cases action with
    | complete => exact waits
    | clear => cases waits

theorem Pursued.asks_arises (pursued : Pursued a number message params s) (member : job ∈ s.desk.agenda.jobs)
    {pending : Completing} {outcome : Except Fault (List Suggestion)}
    (arises : Arises s job.work (.suggestions pending outcome)) (own : pending.job.invocation = number) :
    ∃ document, Admitted a number message params pending.job document ∧
      pending.query = pending.job.query a.settings document := by
  generalize worked : job.work = work at arises
  generalize following : Work.suggestions pending outcome = next at arises
  cases arises with
  | handed hands =>
    cases hands with
    | @fetched key completion current _ _ starts same query =>
      cases following
      rw [same] at own ⊢
      obtain ⟨document, admitted⟩ := pursued.waits job member completion (by rw [worked]; rfl) own
      have identical := pursued.current admitted starts
      rw [identical, pursued.settings] at query
      exact ⟨document, admitted, query⟩
    | @again before _ last _ same query =>
      cases following
      rw [same] at own ⊢
      obtain ⟨document, admitted, asked⟩ := pursued.asks job member before last worked own
      exact ⟨document, admitted, query.trans asked⟩
    | _ => cases following
  | _ => cases following

theorem Pursued.turn (pursued : Pursued a number message params s) (sound : Sound [] s)
    (ready : s.desk.agenda.ready = first :: rest)
    (rises : ∀ document version, a.documents.get? params.textDocument.uri = some document →
      first.work.accepts? s = some (params.textDocument.uri, version) → document.version < version) :
    Pursued a number message params (perform first (s.taken rest)) := by
  obtain ⟨acts, account⟩ := turn_account sound ready
  have here : first ∈ s.desk.agenda.jobs := by
    rw [Agenda.jobs_of_ready ready]
    exact List.mem_cons_self ..
  have behind : ∀ job ∈ (s.taken rest).desk.agenda.jobs, job ∈ s.desk.agenda.jobs := by
    intro job member
    rw [Agenda.jobs_of_ready ready]
    exact List.mem_cons_of_mem _ member
  refine ⟨(turn_steady sound ready).1.trans pursued.settings, ?_, ?_, ?_, ?_⟩
  · exact .turn sound ready pursued.takenUp.received fun other member => pursued.takenUp.begun other (behind _ member)
  · intro document current stored now timely
    rcases turn_stored sound ready now with before | accepts
    · exact pursued.unchanged document current stored before timely
    · have later := rises document current.version stored accepts
      omega
  · intro job member completion waits own
    rcases account.arises job member with old | arises
    · exact pursued.waits job (behind job old) completion waits own
    · exact pursued.waits_arises here arises waits own
  · intro job member pending outcome asks own
    rcases account.arises job member with old | arises
    · exact pursued.asks job (behind job old) pending outcome asks own
    · rw [asks] at arises
      exact pursued.asks_arises here arises own

theorem Step.pursued (step : Step s events t) (sound : Sound [] s) (pursued : Pursued a number message params s)
    (rises : ∀ document version, a.documents.get? params.textDocument.uri = some document →
      (params.textDocument.uri, version) ∈ accepted events → document.version < version) :
    Pursued a number message params t := by
  have takenUp := step.takenUp sound pursued.takenUp
  have settings := step.settings sound
  cases step with
  | receive m =>
    refine pursued.of_jobs settings takenUp (handle_documents sound m) fun job member => ?_
    refine (handle_jobs sound m job member).imp_right ?_
    rintro ⟨_, handler, -, work⟩
    rw [work]
    exact ⟨rfl, fun _ _ same => by cases same⟩
  | turn ready =>
    refine pursued.turn sound ready fun document version stored accepts => rises document version stored ?_
    exact List.mem_filterMap.mpr ⟨_, List.mem_singleton_self _, accepts⟩
  | wake idle soonest =>
    refine pursued.of_jobs settings takenUp rfl fun job member => .inl ?_
    rw [← Agenda.jobs_ring soonest]
    exact member
  | pass => exact pursued.of_jobs settings takenUp rfl fun job member => .inl member

theorem Run.pursued (run : Run s events t) (sound : Sound [] s) (pursued : Pursued a number message params s)
    (rises : ∀ document version, a.documents.get? params.textDocument.uri = some document →
      (params.textDocument.uri, version) ∈ accepted events → document.version < version) :
    Pursued a number message params t := by
  induction run with
  | nil => exact pursued
  | cons step _ ih =>
    rw [accepted, List.filterMap_append] at rises
    refine ih (step.sound sound) (step.pursued sound pursued fun document version stored accepts => ?_)
      fun document version stored accepts => ?_
    · exact rises document version stored (List.mem_append_left _ accepts)
    · exact rises document version stored (List.mem_append_right _ accepts)

/-- Work that waits with a completion owes what the completion owes. -/
theorem charge?_of_awaited? {work : Work} (waits : work.awaited? = some completion) :
    work.charge? = some ⟨completion.invocation, completion.id⟩ := by
  cases work with
  | delay key span action =>
    cases action with
    | complete => cases waits; rfl
    | clear => cases waits
  | fire key action =>
    cases action with
    | complete => cases waits; rfl
    | clear => cases waits
  | _ => cases waits

/-- When its request has been taken up, a completion is delayed with its document, or nothing is done for it. -/
theorem Pursued.takenUp_request {owed : List RequestId} {ticket : Nat} (sound : Sound [] a)
    (ledger : Ledger owed a.charges a)
    (ready : a.desk.agenda.ready = ⟨ticket, .handle number .completion message⟩ :: rest)
    (read : CompletionParams.codec.read (givenParams message) = .ok params) :
    Pursued a number message params (perform ⟨ticket, .handle number .completion message⟩ (a.taken rest)) := by
  obtain ⟨acts, account⟩ := turn_account sound ready
  have own : (Work.handle number .completion message).charge? = some ⟨number, message.id⟩ := rfl
  have alone {other : Job Work} (member : other ∈ (a.taken rest).desk.agenda.jobs) {charge : Charge}
      (charged : other.work.charge? = some charge) : charge.number ≠ number :=
    ledger.alone sound ready own member charged
  refine ⟨(turn_steady sound ready).1, ?_, ?_, ?_, ?_⟩
  · have member : ⟨ticket, .handle number .completion message⟩ ∈ a.desk.agenda.jobs := by
      rw [Agenda.jobs_of_ready ready]
      exact List.mem_cons_self ..
    have received := ledger.received (ledger.unfinished_of_charge sound member rfl)
    refine .turn sound ready received fun other member handler message' same => ?_
    have charged : other.work.charge? = some ⟨number, handler.owes message'⟩ := by
      rw [same]
      rfl
    exact alone member charged rfl
  · intro document current stored now _
    rcases turn_stored sound ready now with before | accepts
    · exact Option.some.inj (before.symm.trans stored)
    · cases accepts
  · intro job member completion waits own
    rcases account.arises job member with old | arises
    · exact absurd own (alone old (charge?_of_awaited? waits))
    · generalize following : job.work = next at arises waits
      cases arises with
      | clearing => cases waits
      | animated => cases waits
      | delayed fits =>
        cases waits
        obtain ⟨message', params', document, handles, read', admitted, same⟩ := fits
        cases handles
        rw [read] at read'
        cases read'
        exact ⟨document, admitted, same⟩
      | handed hands => cases hands
      | fires begins => cases begins
  · intro job member pending outcome asks own
    rcases account.arises job member with old | arises
    · have charged : job.work.charge? = some ⟨pending.job.invocation, pending.job.id⟩ := by
        rw [asks]
        rfl
      exact absurd own (alone old charged)
    · generalize following : job.work = next at arises asks
      subst asks
      cases arises with
      | handed hands => cases hands

/-- A turn that asks for a completion has a request for it. -/
theorem Event.asked_of_more (sound : Sound [] s) (ready : s.desk.agenda.ready = first :: rest)
    (more : s.completionsAsked < (s.turned first).completionsAsked) :
    ∃ request ∈ (Event.turn s first).asked, ∃ query, request.topic = .completion query := by
  rw [turned_eq ready, completionsAsked, completionsAsked, requests_turned sound ready, List.countP_append] at more
  obtain ⟨request, member, asks⟩ := List.countP_pos_iff.mp (Nat.pos_of_lt_add_right more)
  refine ⟨request, member, ?_⟩
  cases topic : request.topic with
  | completion query => exact ⟨query, rfl⟩
  | chat query =>
    rw [topic] at asks
    cases asks

/-- Whatever is asked for a completion is asked with the document of its request. -/
theorem Pursued.asked (pursued : Pursued a number message params s) (sound : Sound [] s)
    (ready : s.desk.agenda.ready = first :: rest) {id : Option RequestId}
    (charged : first.work.charge? = some ⟨number, id⟩) {request : Request} {query : CompletionQuery}
    (asked : request ∈ (Event.turn s first).asked) (topic : request.topic = .completion query) :
    ∃ completion document, Admitted a number message params completion document ∧
      query = completion.query a.settings document := by
  obtain ⟨acts, account⟩ := turn_account sound ready
  have here : first ∈ s.desk.agenda.jobs := by
    rw [Agenda.jobs_of_ready ready]
    exact List.mem_cons_self ..
  rw [account.asked ready] at asked
  obtain ⟨act, done, asks⟩ := List.mem_filterMap.mp asked
  have fits := account.fits act done
  cases act with
  | asks other =>
    cases asks
    have fits : first.work.AsksFor s request.topic := fits
    rw [topic] at fits
    cases work : first.work with
    | fire key action =>
      cases action with
      | complete completion =>
        rw [work] at fits charged
        obtain ⟨current, starts, same⟩ := fits
        cases charged
        obtain ⟨document, admitted⟩ := pursued.waits first here completion (by rw [work]; rfl) rfl
        have identical := pursued.current admitted starts
        cases same
        exact ⟨completion, document, admitted, by rw [identical, pursued.settings]⟩
      | clear => rw [work] at fits; cases fits
    | suggestions pending outcome =>
      rw [work] at fits charged
      cases charged
      obtain ⟨document, admitted, same⟩ := pursued.asks first here pending outcome work rfl
      cases fits
      exact ⟨pending.job, document, admitted, same⟩
    | chat => rw [work] at fits; cases fits
    | _ => rw [work] at fits; cases fits
  | _ => cases asks

end Pursuing

/-- Whatever a backend is asked for a completion holds the text around the cursor as it was when the request was
taken up, if the versions of each document rise. -/
theorem completions_use_the_text_of_their_request {settings : Settings} {registry : Registry} {sink : Sink}
    {before after : List Event} {s t : Session} {ticket number : Nat} {message : Message}
    {params : CompletionParams} (read : CompletionParams.codec.read (givenParams message) = .ok params)
    (rise : VersionsRise (before ++ .turn s ⟨ticket, .handle number .completion message⟩ :: after))
    (run : Run (Session.start settings registry sink)
      (before ++ .turn s ⟨ticket, .handle number .completion message⟩ :: after) t) :
    ∀ s' job id, .turn s' job ∈ after → job.work.charge? = some ⟨number, id⟩ →
      ∀ request query, request ∈ (Event.turn s' job).asked → request.topic = .completion query →
        ∃ document, s.documents.get? params.textDocument.uri = some document ∧
          let context := CursorContext.at_ document.text.toList params.position.line params.position.character
          query.before = String.ofList context.contentBefore ∧
            query.after = String.ofList context.afterForPrompt := by
  intro s' job id member charged request query asked topic
  have begins : Sound [] (Session.start settings registry sink) := .start settings registry sink
  obtain ⟨rest, ready, early, late⟩ := run.split
  have sound := early.sound begins
  have ledger := early.ledger begins (.start settings registry sink)
  have taken := Pursued.takenUp_request sound ledger ready read
  obtain ⟨between, others, rfl⟩ := List.append_of_mem member
  obtain ⟨rest', ready', course, -⟩ := late.split
  -- A version that is accepted for the document from now on is later than the one that is stored.
  have rises : ∀ document version, s.documents.get? params.textDocument.uri = some document →
      (params.textDocument.uri, version) ∈ accepted between → document.version < version := by
    intro document version stored accepts
    have sooner : (params.textDocument.uri, document.version) ∈ accepted before :=
      (early.stored begins stored).resolve_left nofun
    rw [VersionsRise, accepted, List.filterMap_append] at rise
    refine (List.pairwise_append.mp rise).2.2 _ sooner (params.textDocument.uri, version) ?_ rfl
    obtain ⟨e, there, own⟩ := List.mem_filterMap.mp accepts
    exact List.mem_filterMap.mpr ⟨e, List.mem_cons_of_mem _ (List.mem_append_left _ there), own⟩
  have pursued := course.pursued (sound.turn ready) taken rises
  obtain ⟨completion, document, admitted, rfl⟩ :=
    pursued.asked (course.sound (sound.turn ready)) ready' charged asked topic
  refine ⟨document, admitted.stored, ?_⟩
  rw [admitted.job]
  exact ⟨rfl, rfl⟩

/-- A session in which a document was opened and a completion at its end has been asked for. -/
def requestedSession : Session :=
  ((eagerSession.handle openingMessage).turned ⟨0, .handle 0 .opening openingMessage⟩).handle completionMessage

/-- The session in which the delay of that completion is over. -/
def startingSession : Session :=
  (requestedSession.turned ⟨1, .handle 1 .completion completionMessage⟩).turned
    ⟨2, .delay completionKey (.ofMillis (0 : Nat)) (.complete delayedCompletion)⟩

theorem run_startingSession : ∃ before between t,
    VersionsRise (before ++ .turn requestedSession ⟨1, .handle 1 .completion completionMessage⟩ ::
      (between ++ [.turn startingSession ⟨2, .fire completionKey (.complete delayedCompletion)⟩])) ∧
    Run eagerSession (before ++ .turn requestedSession ⟨1, .handle 1 .completion completionMessage⟩ ::
      (between ++ [.turn startingSession ⟨2, .fire completionKey (.complete delayedCompletion)⟩])) t := by
  refine ⟨[.received openingMessage,
      .turn (eagerSession.handle openingMessage) ⟨0, .handle 0 .opening openingMessage⟩,
      .received completionMessage],
    [.turn (requestedSession.turned ⟨1, .handle 1 .completion completionMessage⟩)
      ⟨2, .delay completionKey (.ofMillis (0 : Nat)) (.complete delayedCompletion)⟩],
    startingSession.turned ⟨2, .fire completionKey (.complete delayedCompletion)⟩,
    List.pairwise_singleton _ ("file:///a.c", 1), run_promptSession _⟩

/-- The one request for the completion holds the text of the document that was opened. -/
theorem completion_asks_with_the_opened_text :
    ∃ request query,
      request ∈ (Event.turn startingSession ⟨2, .fire completionKey (.complete delayedCompletion)⟩).asked ∧
        request.topic = .completion query ∧ query.before = "int x" ∧ query.after = "" := by
  obtain ⟨before, between, t, rise, run⟩ := run_startingSession
  obtain ⟨_, requested, early, late⟩ := run.split
  obtain ⟨rest, ready, course, -⟩ := late.split
  have sound := course.sound ((early.sound (.start _ _ _)).turn requested)
  obtain ⟨request, member, query, topic⟩ := Event.asked_of_more sound ready
    (by rw [turned_eq ready]; exact fresh_asks completionKey ⟨_, rfl⟩ ⟨_, rfl, Int.le_refl _⟩)
  obtain ⟨document, stored, text⟩ := completions_use_the_text_of_their_request rfl rise run startingSession _ _
    (List.mem_append_right _ (List.mem_singleton_self _)) rfl request _ member topic
  have opened : requestedSession.documents.get? "file:///a.c" = some ⟨"file:///a.c", "int x", 1, "c"⟩ := rfl
  obtain rfl := Option.some.inj (stored.symm.trans opened)
  exact ⟨request, _, member, topic, text.1, text.2⟩

end EditorAssist.Session

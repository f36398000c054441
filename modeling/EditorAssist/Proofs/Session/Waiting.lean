import EditorAssist.Proofs.Session.Asking
import EditorAssist.Proofs.Session.Remaining

/-!
# Completions that wait

A completion that is admitted waits for its delay. Until it starts it stays on the agenda and in the table,
unless it is superseded and answered without items.
-/

namespace EditorAssist.Session

open EditorAssist.Backend EditorAssist.Debounce EditorAssist.Payload EditorAssist.Settings
open EditorAssist.Time EditorAssist.Wire

/-- A completion waits to start at an instant: its delay is about to begin, is running, or is over. -/
inductive Awaits (completion : CompletionJob) (due : Int) (s : Session) : Prop
  | delayed {ticket : Nat}
      (member : ⟨ticket, .delay completionKey (.ofMillis s.settings.debounce) (.complete completion)⟩ ∈
        s.desk.agenda.ready)
      (start : s.now.nanos + s.settings.debounce * 1000000 = due)
  | running {timer : Timer Work} (member : timer ∈ s.desk.agenda.timers)
      (work : timer.job.work = .fire completionKey (.complete completion)) (start : timer.due.nanos = due)
  | elapsed {ticket : Nat} (member : ⟨ticket, .fire completionKey (.complete completion)⟩ ∈ s.desk.agenda.ready)
      (start : s.now.nanos = due)

section Waiting

variable {s t : Session} {completion : CompletionJob} {due : Int} {first : Job Work} {rest : List (Job Work)}

/-- A completion that waits has a job that can be withdrawn. -/
theorem Awaits.job (awaits : Awaits completion due s) :
    ∃ job ∈ s.desk.agenda.jobs, job.work.slot = some (completionKey, .complete completion) ∧
      job.work.charge? = some ⟨completion.invocation, completion.id⟩ := by
  cases awaits with
  | delayed member => exact ⟨_, List.mem_append_left _ member, rfl, rfl⟩
  | @running timer member work =>
    refine ⟨timer.job, List.mem_append_right _ (List.mem_map_of_mem member), ?_⟩
    rw [work]
    exact ⟨rfl, rfl⟩
  | elapsed member => exact ⟨_, List.mem_append_left _ member, rfl, rfl⟩

/-- It is the one that stands in the table. -/
theorem Awaits.pending (awaits : Awaits completion due s) (sound : Sound [] s) :
    ∃ ticket, ⟨completionKey, ticket, .complete completion⟩ ∈ s.desk.pending := by
  obtain ⟨job, member, slot, -⟩ := awaits.job
  exact ⟨job.ticket, sound.coherent.entry_of_slot member slot⟩

/-- The clock does not pass over the instant at which it starts. -/
theorem Awaits.now_le (awaits : Awaits completion due s) (sound : Sound [] s) : s.now.nanos ≤ due := by
  cases awaits with
  | delayed _ start => omega
  | running member _ start =>
    rw [← start]
    exact sound.orderly.ahead _ member
  | elapsed _ start => omega

/-- What is left alone goes on waiting. -/
theorem Awaits.of_retained (awaits : Awaits completion due s) (retained : Retained s t)
    (settings : t.settings = s.settings) (now : t.now = s.now) : Awaits completion due t := by
  cases awaits with
  | delayed member start =>
    rw [← settings] at member
    exact .delayed (retained.ready _ member nofun) (by rw [settings, now]; exact start)
  | running member work start =>
    exact .running (retained.timers _ member (by rw [work]; exact nofun)) work start
  | elapsed member start => exact .elapsed (retained.ready _ member nofun) (by rw [now]; exact start)

/-- The job that is ready first is the one of the completion, or the completion waits behind it. -/
theorem Awaits.first_or (awaits : Awaits completion due s) (ready : s.desk.agenda.ready = first :: rest) :
    first.work = .delay completionKey (.ofMillis s.settings.debounce) (.complete completion) ∧
        s.now.nanos + s.settings.debounce * 1000000 = due ∨
      first.work = .fire completionKey (.complete completion) ∧ s.now.nanos = due ∨
      Awaits completion due (s.taken rest) := by
  cases awaits with
  | delayed member start =>
    rw [ready] at member
    rcases List.mem_cons.mp member with rfl | later
    · exact .inl ⟨rfl, start⟩
    · exact .inr (.inr (.delayed later start))
  | running member work start => exact .inr (.inr (.running member work start))
  | elapsed member start =>
    rw [ready] at member
    rcases List.mem_cons.mp member with rfl | later
    · exact .inr (.inl ⟨rfl, start⟩)
    · exact .inr (.inr (.elapsed later start))

/-- The delay begins. -/
theorem Awaits.begins (s : Session) (ticket : Nat) :
    Awaits completion (s.now.nanos + s.settings.debounce * 1000000)
      (s.waitFor (.ofMillis s.settings.debounce) ticket (.fire completionKey (.complete completion))) := by
  unfold Session.waitFor Session.mapAgenda Agenda.waitFor Agenda.waitUntil
  dsimp only
  split
  · next past =>
    have past : s.now.nanos + s.settings.debounce * 1000000 ≤ s.now.nanos := past
    refine .elapsed (List.mem_append_right _ (List.mem_singleton_self _)) ?_
    show s.now.nanos = _
    omega
  · exact .running (Agenda.mem_insertTimer.mpr (.inl rfl)) rfl rfl

/-- A timer rings. -/
theorem Awaits.ring {timer : Timer Work} {later : List (Timer Work)} (awaits : Awaits completion due s)
    (idle : s.desk.agenda.ready = []) (soonest : s.desk.agenda.timers = timer :: later) :
    Awaits completion due (s.mapAgenda (·.ring timer later)) := by
  cases awaits with
  | delayed member =>
    rw [idle] at member
    cases member
  | @running own member work start =>
    rw [soonest] at member
    rcases List.mem_cons.mp member with rfl | still
    · have last : ⟨own.job.ticket, .fire completionKey (.complete completion)⟩ ∈ [own.job] := by
        rw [← work]
        exact List.mem_singleton_self _
      exact .elapsed (List.mem_append_right _ last) start
    · exact .running still work start
  | elapsed member =>
    rw [idle] at member
    cases member

/-- The clock goes on. -/
theorem Awaits.pass (awaits : Awaits completion due s) (idle : s.desk.agenda.ready = []) (instant : Instant) :
    Awaits completion due (s.mapAgenda fun agenda => { agenda with now := instant }) := by
  cases awaits with
  | delayed member =>
    rw [idle] at member
    cases member
  | running member work start => exact .running member work start
  | elapsed member =>
    rw [idle] at member
    cases member

/-- A message arrives. -/
theorem Awaits.receive (awaits : Awaits completion due s) (sound : Sound [] s) (m : Message) :
    Awaits completion due (s.handle m) := by
  rcases handle_cases sound.own m with ⟨sink, handler, _, started⟩ | ⟨sink, _, refused⟩
  · rw [started]
    have kept : Retained s (invoke m { s with sink } handler) :=
      ⟨fun job member _ => List.mem_append_left _ member, fun timer member _ => member⟩
    exact awaits.of_retained kept rfl rfl
  · rw [refused]
    exact awaits.of_retained (.of_agenda (.refl _) rfl) rfl rfl

/-- A turn of other work that supersedes nothing. -/
theorem Awaits.turn (awaits : Awaits completion due (s.taken rest)) (sound : Sound [] s)
    (ready : s.desk.agenda.ready = first :: rest) (harmless : ¬first.work.supersedes s) :
    Awaits completion due (perform first (s.taken rest)) := by
  obtain ⟨settings, now⟩ := turn_steady sound ready
  exact awaits.of_retained (turn_retained sound ready harmless) settings now

end Waiting

/-! ## Answers without items -/

/-- Between two sessions a handler comes to its end and its request is answered without items. -/
structure EndsEmpty (number : Nat) (id : Option RequestId) (s t : Session) : Prop where
  before : number ∈ s.unfinished
  after : number ∉ t.unfinished
  answer : ∃ said, t.outbox = s.outbox ++ said ∧ noItems id ∈ said

section Empty

variable {s t u : Session} {id : Option RequestId} {number ticket : Nat} {completion : CompletionJob} {due : Int}
  {first : Job Work} {rest : List (Job Work)} {params : CompletionParams} {owed : List RequestId}

theorem EndsEmpty.of_same (ends : EndsEmpty number id s t) (outbox : u.outbox = s.outbox)
    (invocations : u.invocations = s.invocations) : EndsEmpty number id u t := by
  obtain ⟨before, after, answer⟩ := ends
  refine ⟨?_, after, outbox ▸ answer⟩
  rw [unfinished, invocations]
  exact before

theorem notMem_unfinished_conclude (s : Session) (number : Nat) (fault : Option Fault) :
    number ∉ (s.conclude number fault).unfinished := by
  rw [unfinished_conclude, List.mem_filter]
  exact fun still => absurd rfl (bne_iff_ne.mp still.2)

/-- An answer without items, behind work on the side. -/
theorem EndsEmpty.respond {hand : List (Job Work)} {arms starts : Nat} {topics : List Topic}
    (does : Does hand s arms starts topics t) (sound : Sound hand s) (alive : number ∈ s.unfinished) :
    EndsEmpty number id s ((t.respondItems id []).finish number) := by
  obtain ⟨said, outbox⟩ := does.said sound
  obtain ⟨sink, sent⟩ := send_eq t (noItems id)
  rw [noItems] at sent
  rw [respondItems, Session.respond, sent]
  refine ⟨alive, notMem_unfinished_conclude _ _ _, said ++ [noItems id], ?_,
    List.mem_append_right _ (List.mem_singleton_self _)⟩
  show t.outbox ++ [noItems id] = _
  rw [outbox, List.append_assoc]

theorem outbox_withdrawn (s : Session) (entry : Entry DelayedAction) :
    ∃ said, (s.withdrawn entry).outbox = s.outbox ++ said := by
  cases callback : entry.callback with
  | clear uri =>
    obtain ⟨sink, same⟩ := withdrawn_clear s callback
    exact ⟨[], by rw [same, List.append_nil]⟩
  | complete job =>
    obtain ⟨sink, same⟩ := withdrawn_complete s callback
    exact ⟨[noItems job.id], by rw [same]⟩

theorem outbox_foldl_withdrawn (entries : List (Entry DelayedAction)) (s : Session) :
    ∃ said, (entries.foldl Session.withdrawn s).outbox = s.outbox ++ said := by
  induction entries generalizing s with
  | nil => exact ⟨[], (List.append_nil _).symm⟩
  | cons entry rest ih =>
    obtain ⟨said, one⟩ := outbox_withdrawn s entry
    obtain ⟨more, others⟩ := ih (s.withdrawn entry)
    exact ⟨said ++ more, by rw [List.foldl_cons, others, one, List.append_assoc]⟩

/-- A completion that is among those that are withdrawn is answered without items. -/
theorem foldl_withdrawn_answers {entries : List (Entry DelayedAction)} {entry : Entry DelayedAction}
    (member : entry ∈ entries) (callback : entry.callback = .complete completion) (s : Session) :
    completion.invocation ∉ (entries.foldl Session.withdrawn s).unfinished ∧
      ∃ said, (entries.foldl Session.withdrawn s).outbox = s.outbox ++ said ∧ noItems completion.id ∈ said := by
  induction entries generalizing s with
  | nil => cases member
  | cons other rest ih =>
    rw [List.foldl_cons]
    rcases List.mem_cons.mp member with rfl | later
    · obtain ⟨sink, same⟩ := withdrawn_complete s callback
      obtain ⟨more, others⟩ := outbox_foldl_withdrawn rest (s.withdrawn entry)
      constructor
      · intro alive
        have still := (Subsiding.foldl_withdrawn rest (s.withdrawn entry)).unfinished alive
        rw [same] at still
        exact notMem_unfinished_conclude s completion.invocation none still
      · refine ⟨noItems completion.id :: more, ?_, List.mem_cons_self ..⟩
        rw [others, same, List.append_assoc]
        rfl
    · obtain ⟨ended, said, outbox, answer⟩ := ih later (s.withdrawn other)
      obtain ⟨before, one⟩ := outbox_withdrawn s other
      refine ⟨ended, before ++ said, ?_, List.mem_append_right _ answer⟩
      rw [outbox, one, List.append_assoc]

/-- A completion that waits is alive. -/
theorem Awaits.alive (awaits : Awaits completion due s) (sound : Sound [] s) (ledger : Ledger owed s.charges s) :
    completion.invocation ∈ s.unfinished := by
  obtain ⟨job, member, -, charged⟩ := awaits.job
  exact ledger.unfinished_of_charge sound member charged

/-- Scheduling another completion withdraws the one that waits. -/
theorem Awaits.schedule (awaits : Awaits completion due s) (sound : Sound [] s) {hand : List (Job Work)}
    (begun : Sound hand (s.taken rest)) (span : Span) (action : DelayedAction) :
    completion.invocation ∉ ((s.taken rest).schedule completionKey span action).unfinished ∧
      ∃ said, ((s.taken rest).schedule completionKey span action).outbox = s.outbox ++ said ∧
        noItems completion.id ∈ said := by
  obtain ⟨ticket, pending⟩ := awaits.pending sound
  have cancelled : ⟨completionKey, ticket, .complete completion⟩ ∈
      ((s.taken rest).desk.cancel completionKey).2.toList := by
    rw [Option.mem_toList]
    rcases (s.taken rest).desk.cancel_cases completionKey with ⟨none, -⟩ | ⟨entry, there, own, gone⟩
    · exact absurd rfl (Pending.find?_eq_none.mp none _ pending)
    · rw [gone, sound.coherent.eq_of_key there pending own]
  rw [schedule_eq begun]
  exact foldl_withdrawn_answers cancelled rfl _

/-- A shutdown withdraws the completion that waits. -/
theorem Awaits.shutdown (awaits : Awaits completion due s) (sound : Sound [] s) (message : Message) :
    completion.invocation ∉ (((s.taken rest).shutdown message).finish number).unfinished ∧
      ∃ said, (((s.taken rest).shutdown message).finish number).outbox = s.outbox ++ said ∧
        noItems completion.id ∈ said := by
  obtain ⟨ticket, pending⟩ := awaits.pending sound
  obtain ⟨sink, same⟩ := shutdown_eq (s.taken rest) message
  obtain ⟨ended, said, outbox, answer⟩ := foldl_withdrawn_answers pending rfl
    { (s.taken rest).closing with desk := (s.taken rest).closing.desk.cancelAll.1 }
  rw [same]
  constructor
  · exact fun alive => ended ((Subsiding.conclude _ number none).unfinished alive)
  · refine ⟨said ++ goodbye message, ?_, List.mem_append_left _ answer⟩
    show (s.taken rest).closing.cancelAllPending.outbox ++ goodbye message = _
    rw [← List.append_assoc]
    exact congrArg (· ++ goodbye message) outbox

theorem perform_completion {message : Message} (read : CompletionParams.codec.read (givenParams message) = .ok params)
    (s : Session) :
    perform ⟨ticket, .handle number .completion message⟩ s = s.requestCompletion number message.id params := by
  show withParams CompletionParams.codec s number message (s.requestCompletion number message.id) = _
  rw [withParams, read]

/-- What supersedes a completion answers it without items. -/
theorem Awaits.superseded (awaits : Awaits completion due s) (sound : Sound [] s)
    (ledger : Ledger owed s.charges s) (ready : s.desk.agenda.ready = first :: rest)
    (supersedes : first.work.supersedes s) :
    EndsEmpty completion.invocation completion.id s (perform first (s.taken rest)) := by
  obtain ⟨ticket, work⟩ := first
  have alive := awaits.alive sound ledger
  cases work with
  | handle number handler message =>
    cases handler with
    | completion =>
      obtain ⟨params, document, read, admitted⟩ := supersedes
      have begun : Sound [⟨ticket, .handle number .completion message⟩] (s.taken rest) :=
        sound.begun ready nofun
      have later : (s.taken rest).admitted? params = some document := admitted
      rw [perform_completion read, requestCompletion_admitted later]
      obtain ⟨after, answer⟩ := awaits.schedule sound begun _ _
      exact ⟨alive, after, answer⟩
    | shutdown =>
      obtain ⟨after, answer⟩ := awaits.shutdown sound message
      exact ⟨alive, after, answer⟩
    | _ => cases supersedes
  | _ => cases supersedes

/-- A completion that is admitted waits for the delay from now on. -/
theorem Awaits.admitted {document : Document} {message : Message} (sound : Sound [] s)
    (ready : s.desk.agenda.ready = ⟨ticket, .handle number .completion message⟩ :: rest)
    (read : CompletionParams.codec.read (givenParams message) = .ok params)
    (admitted : s.admitted? params = some document) :
    Awaits ⟨number, message.id, params, document.version⟩ (s.now.nanos + s.settings.debounce * 1000000)
      (perform ⟨ticket, .handle number .completion message⟩ (s.taken rest)) := by
  have begun : Sound [⟨ticket, .handle number .completion message⟩] (s.taken rest) := sound.begun ready nofun
  have later : (s.taken rest).admitted? params = some document := admitted
  obtain ⟨settings, now⟩ := turn_steady sound ready
  rw [perform_completion read, requestCompletion_admitted later, schedule_eq begun] at settings now ⊢
  obtain ⟨sink, outbox, invocations, same⟩ := foldl_withdrawn_eq
    ((s.taken rest).desk.cancel completionKey).2.toList
    { s.taken rest with
      desk := ((s.taken rest).desk.cancel completionKey).1.add completionKey
        (.delay completionKey (.ofMillis (s.taken rest).settings.debounce)
          (.complete ⟨number, message.id, params, document.version⟩))
        (.complete ⟨number, message.id, params, document.version⟩) }
  rw [same] at settings now ⊢
  refine .delayed (List.mem_append_right _ (List.mem_singleton_self _)) ?_
  rw [now]
  rfl

/-- Whether the document of a completion is still stored, in no later version. -/
def Fresh (s : Session) (completion : CompletionJob) : Prop :=
  ∃ document, s.documents.get? completion.params.textDocument.uri = some document ∧
    document.version ≤ completion.version

/-- A completion that is stale when it starts is skipped. -/
theorem complete_stale (stale : ¬s.Fresh completion) (ticket : Nat) :
    s.complete ticket completion = (s.log .info "handler.completion" "skipping stale completion"
      [("uri", .text completion.params.textDocument.uri), ("version", .int completion.version)]).answerCompletion
        completion [] := by
  unfold complete
  dsimp only
  split
  · rfl
  · next document stored => exact if_pos (Int.not_le.mp fun older => stale ⟨document, stored, older⟩)

/-- A completion that is fresh when it starts is fetched. -/
theorem complete_fresh (fresh : s.Fresh completion) (ticket : Nat) :
    ∃ document, s.complete ticket completion = s.fetchCompletion ticket completion document := by
  obtain ⟨document, stored, version⟩ := fresh
  refine ⟨document, ?_⟩
  unfold complete
  dsimp only
  rw [stored]
  exact if_neg (Int.not_lt.mpr version)

/-- A completion that is fetched without a backend is answered without items, once an error is shown. -/
theorem fetchCompletion_unselected {hand : List (Job Work)} (sound : Sound hand s) (unselected : ¬s.Selected)
    (ticket : Nat) (completion : CompletionJob) (document : Document) :
    ∃ t, Does hand s 1 1 [] t ∧
      s.fetchCompletion ticket completion document = t.answerCompletion completion [] := by
  have called := (Does.refl s : Does hand s 0 0 [] s).log .info "handler.completion" "calling completion"
    [("language", .text document.languageId), ("backend", .text s.registry.current)]
  unfold fetchCompletion
  dsimp only
  generalize told : (if s.settings.spinner = true then _ else _) = u
  have does : Does hand s 0 0 [] u := by
    rw [← told]
    split
    · exact called
    · exact called.say _ rfl
  obtain ⟨started, owned⟩ := does.startSignal sound
    ⟨completionSignal s.settings completion.params, none⟩ (tickInterval_slow _) rfl
  have stopped := (Does.refl _).stopSignal (started.keeps sound).1 owned
  split
  · refine ⟨_, ?_, rfl⟩
    exact (Does.log (started.trans stopped) _ _ _ _).publishOne _ _ _ _
  · next selected => exact absurd ⟨_, selected⟩ unselected

/-- A completion that starts without a backend, or when it is stale, is answered without items, and no backend is
asked. -/
theorem complete_ends_empty {hand : List (Job Work)} (sound : Sound hand s)
    (alive : completion.invocation ∈ s.unfinished) (idle : ¬(s.Selected ∧ s.Fresh completion)) (ticket : Nat) :
    EndsEmpty completion.invocation completion.id s (s.complete ticket completion) ∧
      (s.complete ticket completion).completionsAsked = s.completionsAsked := by
  by_cases fresh : s.Fresh completion
  · have unselected : ¬s.Selected := fun selected => idle ⟨selected, fresh⟩
    obtain ⟨document, fetched⟩ := complete_fresh fresh ticket
    obtain ⟨t, does, answered⟩ := fetchCompletion_unselected sound unselected ticket completion document
    rw [fetched]
    constructor
    · rw [answered]
      exact .respond does sound alive
    · exact completionsAsked_congr (registry_fetchCompletion unselected ticket completion document)
  · rw [complete_stale fresh]
    have noted : Does hand s 0 0 [] (s.log .info "handler.completion" "skipping stale completion"
        [("uri", .text completion.params.textDocument.uri), ("version", .int completion.version)]) :=
      (Does.refl s).log ..
    exact ⟨.respond noted sound alive, completionsAsked_congr (registry_answerCompletion _ completion [])⟩

/-- So it is for the turn in which its delay is over. -/
theorem idle_ends_empty {key : String} (sound : Sound [] s)
    (ready : s.desk.agenda.ready = ⟨ticket, .fire key (.complete completion)⟩ :: rest)
    (alive : completion.invocation ∈ s.unfinished) (idle : ¬(s.Selected ∧ s.Fresh completion)) :
    EndsEmpty completion.invocation completion.id s
        (perform ⟨ticket, .fire key (.complete completion)⟩ (s.taken rest)) ∧
      (perform ⟨ticket, .fire key (.complete completion)⟩ (s.taken rest)).completionsAsked = s.completionsAsked := by
  obtain ⟨empty, same⟩ := complete_ends_empty (sound.begun ready nofun) alive idle ticket
  exact ⟨empty.of_same rfl rfl, same⟩

/-- For a completion that is fresh when it starts the selected backend is asked. -/
theorem fresh_asks (key : String) (selected : s.Selected) (fresh : s.Fresh completion) :
    s.completionsAsked <
      (perform ⟨ticket, .fire key (.complete completion)⟩ (s.taken rest)).completionsAsked := by
  have there : (s.begun ⟨ticket, .fire key (.complete completion)⟩ rest).Fresh completion := fresh
  obtain ⟨document, fetched⟩ := complete_fresh there ticket
  show _ < ((s.begun ⟨ticket, .fire key (.complete completion)⟩ rest).complete ticket completion).completionsAsked
  rw [fetched]
  exact completionsAsked_fetchCompletion
    (s := s.begun ⟨ticket, .fire key (.complete completion)⟩ rest) selected ticket completion document

end Empty

end EditorAssist.Session

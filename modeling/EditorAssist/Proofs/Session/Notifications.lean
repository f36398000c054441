import EditorAssist.Proofs.Session.Clearing
import EditorAssist.Proofs.Session.Syncing
import EditorAssist.Proofs.Session.Tokens
import Mathlib.Data.List.Perm.Subperm

/-!
# Answers to notifications

A response carries the id of a request that was received, or none. Those without an id are given by handlers that
answer every message whose parameters they can read, notifications included: there are no more of them than
there were such notifications. All other notifications are left without an answer.
-/

namespace EditorAssist.Session

open EditorAssist.Backend EditorAssist.Debounce EditorAssist.Journal EditorAssist.Payload
open EditorAssist.Settings EditorAssist.Time EditorAssist.Wire

/-! ## Replies -/

/-- The ids that answers were given under, or that they had none. -/
def replies (s : Session) : List (Option RequestId) := s.outbox.filterMap (·.answers?)

section Replies

variable {hand : List (Job Work)} {s t : Session} {deeds : List Deed} {arms starts : Nat} {topics : List Topic}

theorem replies_send (s : Session) (m : Outbound) : (s.send m).replies = s.replies ++ m.answers?.toList := by
  obtain ⟨sink, sent⟩ := send_eq s m
  rw [sent, replies, List.filterMap_append]
  cases h : m.answers? <;> simp [replies, h]

/-- Work on the side answers nothing. -/
theorem Micro.replies (step : Micro hand s deeds t) (sound : Sound hand s) : t.replies = s.replies := by
  cases step with
  | say m silent =>
    rw [replies_send, silent, Option.toList_none, List.append_nil]
  | arm uri span =>
    obtain ⟨sink, same⟩ := arm_eq sound uri span
    rw [same]
    rfl
  | disarm uri =>
    obtain ⟨sink, same⟩ := disarm_eq sound uri
    rw [same]
    rfl
  | note | edit | call | start | stop => rfl

theorem Does.replies (does : Does hand s arms starts topics t) (sound : Sound hand s) : t.replies = s.replies := by
  obtain ⟨deeds, aside, _⟩ := does
  clear * - aside sound
  induction aside with
  | nil s => rfl
  | cons step _ ih => exact (ih (step.sound sound)).trans (step.replies sound)

/-- Whoever waits for what is withdrawn is answered. -/
theorem replies_foldl_withdrawn (entries : List (Entry DelayedAction)) (s : Session) :
    (entries.foldl Session.withdrawn s).replies = s.replies ++ (delayed entries).map (·.id) := by
  induction entries generalizing s with
  | nil => exact (List.append_nil _).symm
  | cons entry rest ih =>
    rw [List.foldl_cons, ih, delayed_cons, List.map_append, ← List.append_assoc]
    congr 1
    cases callback : entry.callback with
    | clear uri =>
      obtain ⟨sink, same⟩ := withdrawn_clear s callback
      rw [same]
      simp [delayed, callback, DelayedAction.charge?, replies]
    | complete job =>
      obtain ⟨sink, same⟩ := withdrawn_complete s callback
      rw [same]
      simp [delayed, callback, DelayedAction.charge?, replies, noItems, Outbound.answers?]

end Replies

/-! ## Who answers without an id -/

/-- Whether a handler answers a message even if it has no id. -/
def Handler.answersAnyway (m : Message) : Handler → Bool
  | handshake => true
  | completion => readable CompletionParams.codec m
  | codeAction => readable CodeActionParams.codec m
  | command => readable ExecuteCommandParams.codec m
  | _ => false

/-- Whether work that is charged without an id ends with an answer all the same. -/
def Work.answersAnyway : Work → Bool
  | handle _ handler m => m.id.isNone && handler.answersAnyway m
  | _ => true

/-- Whether a message without an id is answered all the same. -/
def isAnsweredAnyway (m : Message) : Bool :=
  m.id.isNone && match m.method with
    | some "initialize" => true
    | some "textDocument/completion" => readable CompletionParams.codec m
    | some "textDocument/codeAction" => readable CodeActionParams.codec m
    | some "workspace/executeCommand" => readable ExecuteCommandParams.codec m
    | _ => false

/-- It is the handler of a message that decides. -/
theorem isAnsweredAnyway_eq (m : Message) :
    isAnsweredAnyway m = (m.id.isNone && (handler? m).any (·.answersAnyway m)) := by
  unfold isAnsweredAnyway handler?
  congr 1
  cases called : m.method with
  | none => rfl
  | some method =>
    dsimp only [Option.bind_some]
    rcases ofMethod?_cases method with unhandled | known
    · rw [unhandled]
      split <;> first | rfl | (next same => cases same; cases unhandled)
    · simp only [List.mem_cons, Prod.mk.injEq, List.not_mem_nil, or_false] at known
      rcases known with ⟨rfl, _⟩ | ⟨rfl, _⟩ | ⟨rfl, _⟩ | ⟨rfl, _⟩ | ⟨rfl, _⟩ | ⟨rfl, _⟩ | ⟨rfl, _⟩ |
        ⟨rfl, _⟩ | ⟨rfl, _⟩ | ⟨rfl, _⟩ <;> rfl

/-! ## Quiet handlers -/

/-- Nothing was given to the connection, and nothing scheduled. -/
structure Quiet (s t : Session) : Prop where
  outbox : t.outbox = s.outbox
  desk : t.desk = s.desk

section Quietness

variable {b : Session} {ticket number : Nat} {m : Message} {handler : Handler}

/-- Parameters are refused without an answer if the message has no id. -/
theorem Quiet.withParams {α : Type} {codec : Codec α} {next : α → Session}
    (unread : readable codec m = false → m.id = none)
    (reads : ∀ params, codec.read (givenParams m) = .ok params → Quiet b (next params)) :
    Quiet b (Session.withParams codec b number m next) := by
  unfold Session.withParams
  cases read : codec.read (givenParams m) with
  | ok params => exact reads params read
  | error wrong =>
    have anonymous := unread (by rw [readable, read])
    unfold Session.refuseParams
    rw [anonymous]
    exact ⟨rfl, rfl⟩

/-- What cannot be read is not answered if the message has no id. -/
theorem Quiet.of_unread {α : Type} {codec : Codec α} {next : α → Session} (anonymous : m.id = none)
    (unread : readable codec m = false) : Quiet b (Session.withParams codec b number m next) := by
  refine .withParams (fun _ => anonymous) fun params read => ?_
  rw [readable, read] at unread
  cases unread

/-- A handler that owes no answer and gives none without an id is quiet, unless it withdraws what is delayed. -/
theorem quiet_runHandler (own : ∀ script, handler ≠ .scripted script) (stays : handler ≠ .shutdown)
    (owes : handler.owes m = none) (unasked : (m.id.isNone && handler.answersAnyway m) = false) :
    Quiet b (b.runHandler ticket number handler m) := by
  have anonymous (answers : handler.answers m = true) : m.id = none := by
    rw [Handler.owes, if_pos answers] at owes
    exact owes
  have silent (answers : handler.answers m = true) : handler.answersAnyway m = false := by
    rw [anonymous answers] at unasked
    exact unasked
  unfold Session.runHandler
  cases handler with
  | handshake => cases silent rfl
  | greeting | exit => exact ⟨rfl, rfl⟩
  | opening =>
    refine .withParams (fun unread => anonymous ?_) fun params _ => ⟨rfl, rfl⟩
    rw [Handler.answers, unread]
    rfl
  | change =>
    refine .withParams (fun unread => anonymous ?_) fun params _ => ?_
    · rw [Handler.answers, unread]
      rfl
    · unfold Session.didChange
      dsimp only
      split <;> exact ⟨rfl, rfl⟩
  | closing =>
    refine .withParams (fun unread => anonymous ?_) fun params _ => ⟨rfl, rfl⟩
    rw [Handler.answers, unread]
    rfl
  | shutdown => exact absurd rfl stays
  | completion | codeAction | command => exact .of_unread (anonymous rfl) (silent rfl)
  | scripted script => exact absurd rfl (own script)

theorem Quiet.replies {t : Session} (quiet : Quiet b t) : t.replies = b.replies := by
  rw [Session.replies, quiet.outbox]
  rfl

theorem Quiet.charges {t : Session} (quiet : Quiet b t) : t.charges = b.charges := by
  rw [Session.charges, quiet.desk]
  rfl

end Quietness

/-! ## What a turn pays -/

/-- The charges that a turn answers. Each of them was charged to work that can be withdrawn, or to the work of the
turn, which answers without an id only if it answers anyway. -/
structure Pays (s : Session) (work : Work) (paid : List Charge) (t : Session) : Prop where
  replies : t.replies = s.replies ++ paid.map (·.id)
  charges : (paid ++ t.charges).Subperm (work.charge?.toList ++ s.charges)
  own : ∀ charge ∈ paid, charge ∈ delayed s.desk.pending ∨
    work.charge? = some charge ∧ (charge.id = none → work.answersAnyway = true)

section Paying

variable {hand : List (Job Work)} {s t : Session} {ticket number : Nat} {work : Work} {m : Message}

/-- Where nothing is answered, it is enough that nothing new is charged. -/
theorem Pays.none (replies : t.replies = s.replies) (charges : t.charges.Subperm (work.charge?.toList ++ s.charges)) :
    Pays s work [] t :=
  ⟨replies.trans (List.append_nil _).symm, charges, fun _ member => absurd member List.not_mem_nil⟩

theorem subperm_of_perm {charges : List Charge} (same : charges.Perm s.charges) :
    charges.Subperm (work.charge?.toList ++ s.charges) :=
  same.subperm.trans (List.sublist_append_right _ _).subperm

/-- Whatever is delayed is answered at a shutdown, and then the shutdown itself if it has an id. -/
theorem pays_shutdown (sound : Sound hand s) :
    ∃ paid, Pays s (.handle number .shutdown m) paid ((s.shutdown m).finish number) := by
  obtain ⟨sink, same⟩ := shutdown_eq s m
  have closing : Sound hand s.closing := sound.of_desk rfl rfl
  have charges : ((s.shutdown m).finish number).charges = debts s.desk.agenda.jobs := by
    rw [same]
    exact charges_cancelAllPending closing
  have withdrawn : s.closing.cancelAllPending.replies = s.replies ++ (delayed s.desk.pending).map (·.id) :=
    replies_foldl_withdrawn s.desk.pending { s.closing with desk := s.closing.desk.cancelAll.1 }
  have replies : ((s.shutdown m).finish number).replies =
      s.closing.cancelAllPending.replies ++ (goodbye m).filterMap (·.answers?) := by
    rw [same]
    exact List.filterMap_append
  rw [withdrawn] at replies
  cases id : m.id with
  | none =>
    refine ⟨delayed s.desk.pending, ?_, ?_, fun charge member => .inl member⟩
    · rw [replies, goodbye, id]
      exact List.append_nil _
    · rw [charges]
      exact (List.sublist_append_right _ _).subperm
  | some id' =>
    refine ⟨delayed s.desk.pending ++ [⟨number, some id'⟩], ?_, ?_, fun charge member => ?_⟩
    · rw [replies, goodbye, id, List.map_append, List.append_assoc]
      rfl
    · rw [charges, Work.charge?, Handler.owes, Handler.answers, if_pos rfl, id, List.append_assoc]
      exact List.perm_middle.subperm
    · rcases List.mem_append.mp member with there | here
      · exact .inl there
      · rw [List.mem_singleton.mp here]
        refine .inr ⟨?_, fun free => by cases free⟩
        rw [Work.charge?, Handler.owes, Handler.answers, if_pos rfl, id]

/-- What a turn leads to is paid, if only work that answers anyway is charged without an id. -/
theorem Effect.pays (effect : Effect hand s ticket work t) (sound : Sound hand s)
    (loud : ∀ charge, work.charge? = some charge → charge.id = none → work.answersAnyway = true) :
    ∃ paid, Pays s work paid t := by
  cases effect with
  | silent charge does => exact ⟨[], .none (does.replies sound) (subperm_of_perm (does.charges sound))⟩
  | @answers number id _ mid after m fault charge does _ answer afterwards =>
    obtain ⟨sink, sent⟩ := send_eq mid m
    have soundly : Sound hand (mid.send m) := by
      rw [sent]
      exact (does.keeps sound).1.of_desk rfl rfl
    have same : (mid.send m).charges = mid.charges := by
      rw [sent]
      rfl
    have kept := (afterwards.charges soundly).trans ((List.Perm.of_eq same).trans (does.charges sound))
    refine ⟨[⟨number, id⟩], ?_, ?_, fun paid member => ?_⟩
    · have told := replies_send mid m
      rw [answer] at told
      exact (afterwards.replies soundly).trans (told.trans (congrArg (· ++ [id]) (does.replies sound)))
    · rw [charge]
      exact (kept.cons _).subperm
    · rw [List.mem_singleton.mp member]
      exact .inr ⟨charge, loud _ charge⟩
  | @goesOn _ mid _ next does _ succeeds _ placed =>
    obtain ⟨charges, -⟩ := placed.charges
    rw [succeeds.charge] at charges
    have quiet : t.replies = mid.replies := by
      cases placed <;> rfl
    exact ⟨[], .none (quiet.trans (does.replies sound))
      (charges.trans ((does.charges sound).append_left _)).subperm⟩
  | @delays number message params document own _ _ =>
    have charge : work.charge? =
        (DelayedAction.complete ⟨number, message.id, params, document.version⟩).charge? := by
      rw [own]
      rfl
    refine ⟨delayed (s.desk.cancel completionKey).2.toList, ?_, ?_, fun paid member => .inl ?_⟩
    · rw [schedule_eq sound]
      exact replies_foldl_withdrawn _ _
    · rw [charge]
      exact (charges_schedule _ sound).symm.subperm
    · rcases s.desk.cancel_cases completionKey with ⟨_, same⟩ | ⟨entry, pending, _, gone⟩
      · rw [same] at member
        cases member
      · rw [gone] at member
        obtain ⟨other, here, charged⟩ := List.mem_filterMap.mp member
        obtain rfl : other = entry := List.mem_singleton.mp here
        exact List.mem_filterMap.mpr ⟨other, pending, charged⟩
  | @shutsDown number message own =>
    rw [own]
    exact pays_shutdown sound
  | clears free does => exact ⟨[], .none (does.replies sound) (subperm_of_perm (does.charges sound))⟩
  | @ticks mid span next own does signal _ _ =>
    have jobs : (mid.waitFor span ticket next).desk.agenda.jobs.Perm (⟨ticket, next⟩ :: mid.desk.agenda.jobs) :=
      Agenda.jobs_waitUntil _ _
    have charges := charges_of_free (debt?_of_isSignal signal) jobs rfl
    exact ⟨[], .none (does.replies sound) (subperm_of_perm (charges.trans (does.charges sound)))⟩

/-- Work that is charged without an id and answers nothing anyway is that of a handler. -/
theorem Work.answersAnyway_or (work : Work) :
    (∀ charge, work.charge? = some charge → charge.id = none → work.answersAnyway = true) ∨
      ∃ number handler m, work = .handle number handler m ∧ handler.owes m = none ∧
        (m.id.isNone && handler.answersAnyway m) = false := by
  cases work with
  | handle number handler m =>
    cases owes : handler.owes m with
    | some id =>
      refine .inl fun charge charged free => ?_
      cases charged
      rw [owes] at free
      cases free
    | none =>
      cases anyway : m.id.isNone && handler.answersAnyway m with
      | true => exact .inl fun _ _ _ => anyway
      | false => exact .inr ⟨_, _, _, rfl, owes, anyway⟩
  | _ => exact .inl fun _ _ _ => rfl

end Paying

/-! ## Turns -/

section Turns

variable {s t : Session} {job other : Job Work} {rest : List (Job Work)} {number : Nat} {handler : Handler}
  {m : Message} {charge charge' : Charge} {unasked : List Nat} {events : List Event}

/-- The turn of a handler that answers nothing anyway is quiet, unless it withdraws what is delayed. -/
theorem quiet_turn (sound : Sound [] s) (ready : s.desk.agenda.ready = job :: rest)
    (own : job.work = .handle number handler m) (stays : handler ≠ .shutdown) (owes : handler.owes m = none)
    (unasked : (m.id.isNone && handler.answersAnyway m) = false) :
    Quiet (s.taken rest) (perform job (s.taken rest)) := by
  have proper := sound.proper job (List.mem_append_right _ (mem_of_ready ready))
  obtain ⟨ticket, work⟩ := job
  obtain rfl : work = .handle number handler m := own
  exact quiet_runHandler proper stays owes unasked

/-- Every turn is paid. -/
theorem turn_pays (sound : Sound [] s) (ready : s.desk.agenda.ready = job :: rest)
    (starts : ∀ key span action, job.work ≠ .delay key span action) :
    ∃ paid, Pays (s.begun job rest) job.work paid (perform job (s.taken rest)) := by
  rcases job.work.answersAnyway_or with loud | ⟨number, handler, m, own, owes, unasked⟩
  · exact (perform_effect sound ready starts).pays (sound.begun ready starts) loud
  · have soundly := sound.begun ready starts
    obtain ⟨ticket, work⟩ := job
    obtain rfl : work = .handle number handler m := own
    by_cases stays : handler = .shutdown
    · rw [stays] at soundly ⊢
      exact pays_shutdown soundly
    · have quiet := quiet_turn sound ready rfl stays owes unasked
      exact ⟨[], .none quiet.replies (subperm_of_perm (.of_eq quiet.charges))⟩

/-- What arises from some work is charged to its handler. -/
theorem Arises.charged {work next : Work} (arises : Arises s work next) (charged : next.charge? = some charge) :
    ∃ charge', work.charge? = some charge' ∧ charge'.number = charge.number := by
  cases arises with
  | clearing | animated => cases charged
  | delayed fits =>
    obtain ⟨message, params, document, own, -⟩ := fits
    cases charged
    rw [own]
    exact ⟨_, rfl, rfl⟩
  | handed hands =>
    cases hands with
    | fetched _ same | again same =>
      cases charged
      exact ⟨_, rfl, congrArg CompletionJob.invocation same.symm⟩
    | command own =>
      cases charged
      exact ⟨_, rfl, own.symm⟩
    | asked | refused | answered | told => exact ⟨_, charged, rfl⟩
    | animated | ticked => cases charged
  | fires own =>
    rw [own]
    exact ⟨_, charged, rfl⟩

/-- Nothing that is charged arises from a shutdown. -/
theorem Arises.not_shutdown {next : Work} (arises : Arises s (.handle number .shutdown m) next) :
    next.charge? = none := by
  cases arises with
  | clearing | animated => rfl
  | delayed fits =>
    obtain ⟨message, params, document, own, -⟩ := fits
    cases own
  | handed hands => cases hands
  | fires own => cases own

/-- One charge stands for each handler. -/
theorem Balanced.charge_eq (balanced : Balanced s) (here : charge ∈ s.charges) (there : charge' ∈ s.charges)
    (same : charge.number = charge'.number) : charge = charge' := by
  obtain ⟨owed, ledger⟩ := balanced.ledger
  exact List.inj_on_of_nodup_map ledger.nodup here there same

/-- A charge of a handler that answers without an id. -/
def isUnasked (unasked : List Nat) (charge : Charge) : Bool := charge.id.isNone && unasked.contains charge.number

/-- The handlers with some numbers account for all answers without an id: for those that were given and for those that
work on the agenda may still give. -/
structure Marked (unasked : List Nat) (s : Session) : Prop where
  numbers : ∀ number ∈ unasked, number < s.invocations.length
  loud : ∀ job ∈ s.desk.agenda.jobs, ∀ charge, job.work.charge? = some charge → charge.id = none →
    job.work.answersAnyway = true → charge.number ∈ unasked
  few : s.replies.count none + s.charges.countP (isUnasked unasked) ≤ unasked.length

/-- What is charged to actions that are delayed is charged to work that answers anyway. -/
theorem Marked.delayed (marked : Marked unasked s) (sound : Sound [] s) (member : charge ∈ delayed s.desk.pending)
    (free : charge.id = none) : charge.number ∈ unasked := by
  obtain ⟨entry, pending, charged⟩ := List.mem_filterMap.mp member
  obtain ⟨job, there, _, slot⟩ := (sound.coherent.entries entry).mp pending
  have own : job.work.charge? = some charge ∧ job.work.answersAnyway = true := by
    obtain ⟨ticket, work⟩ := job
    cases work <;> simp only [Work.slot, Option.some.injEq, Prod.mk.injEq, reduceCtorEq] at slot <;>
      exact ⟨slot.2 ▸ charged, rfl⟩
  exact marked.loud job there charge own.1 free own.2

/-- Work that a turn adds and that answers anyway belongs to a handler that did before. -/
theorem Marked.loud_turn (marked : Marked unasked s) (balanced : Balanced s)
    (ready : s.desk.agenda.ready = job :: rest) (after : Balanced (perform job (s.taken rest)))
    (member : other ∈ (perform job (s.taken rest)).desk.agenda.jobs) (charged : other.work.charge? = some charge)
    (free : charge.id = none) (anyway : other.work.answersAnyway = true) : charge.number ∈ unasked := by
  have old (there : other ∈ (s.taken rest).desk.agenda.jobs) : charge.number ∈ unasked := by
    refine marked.loud other ?_ charge charged free anyway
    rw [Agenda.jobs_of_ready ready]
    exact List.mem_cons_of_mem _ there
  have first := mem_of_ready ready
  obtain ⟨acts, account⟩ := turn_account balanced.sound ready
  rcases account.arises other member with there | arises
  · exact old there
  · obtain ⟨charge', charged', same⟩ := arises.charged charged
    have before := turn_charged balanced.sound ready charge (after.mem_charges member charged)
    obtain rfl := balanced.charge_eq (balanced.mem_charges first charged') before same
    rcases job.work.answersAnyway_or with loud | ⟨number, handler, m, own, owes, unasked⟩
    · exact marked.loud job first charge' charged' free (loud charge' charged' free)
    · by_cases stays : handler = .shutdown
      · rw [own, stays] at arises
        rw [arises.not_shutdown] at charged
        cases charged
      · have quiet := quiet_turn balanced.sound ready own stays owes unasked
        rw [quiet.desk] at member
        exact old member

/-- A job that is begun leaves no entries but those that were there. -/
theorem pending_begun (s : Session) (job : Job Work) (rest : List (Job Work)) :
    (s.begun job rest).desk.pending.Sublist s.desk.pending := by
  obtain ⟨ticket, work⟩ := job
  cases work with
  | fire key action => exact List.filter_sublist
  | _ => exact .refl _

/-- A turn answers no more without an id than it takes off. -/
theorem Marked.few_turn (marked : Marked unasked s) (sound : Sound [] s) (ready : s.desk.agenda.ready = job :: rest) :
    (perform job (s.taken rest)).replies.count none +
      (perform job (s.taken rest)).charges.countP (isUnasked unasked) ≤ unasked.length := by
  obtain ⟨ticket, work⟩ := job
  rcases work.delay_or with ⟨key, span, action, rfl⟩ | starts
  · have jobs : ((s.taken rest).waitFor span ticket (.fire key action)).desk.agenda.jobs.Perm
        (⟨ticket, .fire key action⟩ :: (s.taken rest).desk.agenda.jobs) := Agenda.jobs_waitUntil _ _
    have before : s.charges.Perm (s.taken rest).charges := charges_of_free rfl (.of_eq (Agenda.jobs_of_ready ready)) rfl
    have after := (charges_of_free rfl jobs rfl).trans before.symm
    exact (Nat.add_le_add_left (Nat.le_of_eq (after.countP_eq _)) _).trans marked.few
  · obtain ⟨paid, pays⟩ := turn_pays sound ready starts
    obtain ⟨pending, same⟩ := begun_eq s ⟨ticket, work⟩ rest
    have replies : (s.begun ⟨ticket, work⟩ rest).replies = s.replies := by
      rw [same]
      rfl
    have unasked_of_paid : ∀ charge ∈ paid, charge.id = none → charge.number ∈ unasked := by
      intro charge member free
      rcases pays.own charge member with there | ⟨charged, anyway⟩
      · exact marked.delayed sound (((pending_begun s ⟨ticket, work⟩ rest).filterMap _).subset there) free
      · exact marked.loud _ (mem_of_ready ready) charge charged free (anyway free)
    have count : (paid.map (·.id)).count none = paid.countP (isUnasked unasked) := by
      rw [List.count, List.countP_map]
      refine List.countP_congr fun charge member => ?_
      have known := unasked_of_paid charge member
      cases free : charge.id <;> simp_all [isUnasked]
    have charges := (pays.charges.countP_le (isUnasked unasked)).trans
      (Nat.le_of_eq ((charges_begun sound ready starts).countP_eq _).symm)
    have few := marked.few
    rw [List.countP_append] at charges
    rw [pays.replies, replies, List.count_append, count]
    omega

theorem Marked.turn (marked : Marked unasked s) (balanced : Balanced s) (ready : s.desk.agenda.ready = job :: rest) :
    Marked unasked (perform job (s.taken rest)) where
  numbers := fun number member =>
    Nat.lt_of_lt_of_eq (marked.numbers number member) (turn_subsiding balanced.sound ready).length.symm
  loud := fun _ member _ charged free anyway =>
    marked.loud_turn balanced ready ((Step.turn ready).balanced balanced) member charged free anyway
  few := marked.few_turn balanced.sound ready

end Turns

/-! ## Runs -/

section Runs

variable {s t : Session} {events : List Event} {m : Message} {unasked : List Nat}

/-- The charges of a session are those of handlers that were started. -/
theorem Balanced.started (balanced : Balanced s) {charge : Charge} (member : charge ∈ s.charges) :
    charge.number < s.invocations.length := by
  obtain ⟨owed, ledger⟩ := balanced.ledger
  exact ledger.received (ledger.handlers.mem_iff.mpr (List.mem_map_of_mem member))

/-- What is refused is told under its id. -/
theorem replies_unknown (m : Message) : ((unknown m).filterMap (·.answers?)).count none = 0 := by
  unfold unknown
  split
  · next id _ => exact List.count_eq_zero.mpr (by simp [Outbound.answers?])
  · rfl

/-- A message that is answered anyway marks its handler, and no other does. -/
theorem Marked.handle (marked : Marked unasked s) (balanced : Balanced s) (m : Message) :
    ∃ unasked', Marked unasked' (s.handle m) ∧
      unasked'.length ≤ unasked.length + [m].countP isAnsweredAnyway := by
  have fresh : s.invocations.length ∉ unasked := fun member => Nat.lt_irrefl _ (marked.numbers _ member)
  rcases handle_cases balanced.sound.own m with ⟨sink, handler, known, started⟩ | ⟨sink, unhandled, refused⟩
  · have decides : isAnsweredAnyway m = (m.id.isNone && handler.answersAnyway m) := by
      rw [isAnsweredAnyway_eq, known]
      rfl
    have spawned : (s.handle m).desk.agenda.jobs.Perm
        (⟨s.desk.agenda.issued, .handle s.invocations.length handler m⟩ :: s.desk.agenda.jobs) := by
      rw [started]
      exact Agenda.jobs_spawn _
    have charges : (s.handle m).charges.Perm (⟨s.invocations.length, handler.owes m⟩ :: s.charges) :=
      charges_of_jobs spawned (by rw [started]; rfl)
    have replies : (s.handle m).replies = s.replies := by
      rw [started]
      rfl
    have length : (s.handle m).invocations.length = s.invocations.length + 1 := by
      rw [started]
      exact List.length_append
    cases anyway : isAnsweredAnyway m with
    | true =>
      refine ⟨s.invocations.length :: unasked,
        ⟨fun number member => ?_, fun job member charge charged free loud => ?_, ?_⟩, ?_⟩
      · rw [length]
        rcases List.mem_cons.mp member with rfl | old
        · exact Nat.lt_succ_self _
        · exact Nat.lt_succ_of_lt (marked.numbers number old)
      · rcases List.mem_cons.mp (spawned.mem_iff.mp member) with rfl | old
        · cases charged
          exact List.mem_cons_self ..
        · exact List.mem_cons_of_mem _ (marked.loud job old charge charged free loud)
      · have others : s.charges.countP (isUnasked (s.invocations.length :: unasked)) =
            s.charges.countP (isUnasked unasked) := by
          refine List.countP_congr fun charge member => ?_
          have other := Nat.ne_of_lt (balanced.started member)
          simp [isUnasked, other]
        have few := marked.few
        rw [replies, charges.countP_eq, List.countP_cons, others, List.length_cons]
        split <;> omega
      · rw [List.length_cons, List.countP_singleton, anyway, if_pos rfl]
    | false =>
      refine ⟨unasked, ⟨fun number member => ?_, fun job member charge charged free loud => ?_, ?_⟩,
        Nat.le_add_right _ _⟩
      · rw [length]
        exact Nat.lt_succ_of_lt (marked.numbers number member)
      · rcases List.mem_cons.mp (spawned.mem_iff.mp member) with rfl | old
        · have silent : (m.id.isNone && handler.answersAnyway m) = true := loud
          rw [← decides, anyway] at silent
          cases silent
        · exact marked.loud job old charge charged free loud
      · have own : isUnasked unasked ⟨s.invocations.length, handler.owes m⟩ = false := by
          simp [isUnasked, fresh]
        rw [replies, charges.countP_eq, List.countP_cons, own, if_neg Bool.false_ne_true]
        exact marked.few
  · have replies : (s.handle m).replies = s.replies ++ (unknown m).filterMap (·.answers?) := by
      rw [refused]
      exact List.filterMap_append
    refine ⟨unasked, ⟨?_, ?_, ?_⟩, Nat.le_add_right _ _⟩
    · rw [refused]
      exact marked.numbers
    · rw [refused]
      exact marked.loud
    · rw [replies, List.count_append, replies_unknown, Nat.add_zero, refused]
      exact marked.few

theorem Step.marked (step : Step s events t) (balanced : Balanced s) (marked : Marked unasked s) :
    ∃ unasked', Marked unasked' t ∧
      unasked'.length ≤ unasked.length + (received events).countP isAnsweredAnyway := by
  cases step with
  | receive m => exact marked.handle balanced m
  | turn ready => exact ⟨unasked, marked.turn balanced ready, Nat.le_add_right _ _⟩
  | @wake timer rest _ soonest =>
    have jobs : (s.desk.agenda.ring timer rest).jobs = s.desk.agenda.jobs := Agenda.jobs_ring soonest
    have charges : (s.mapAgenda (·.ring timer rest)).charges = s.charges :=
      congrArg (delayed s.desk.pending ++ debts ·) jobs
    refine ⟨unasked, ⟨marked.numbers, fun job member => marked.loud job (jobs ▸ member), ?_⟩, Nat.le_add_right _ _⟩
    rw [charges]
    exact marked.few
  | pass => exact ⟨unasked, ⟨marked.numbers, marked.loud, marked.few⟩, Nat.le_add_right _ _⟩

/-- Throughout a run there are no more answers without an id than messages that are answered anyway. -/
theorem Run.marked (run : Run s events t) (balanced : Balanced s) (marked : Marked unasked s) :
    ∃ unasked', Marked unasked' t ∧
      unasked'.length ≤ unasked.length + (received events).countP isAnsweredAnyway := by
  induction run generalizing unasked with
  | nil s => exact ⟨unasked, marked, Nat.le_add_right _ _⟩
  | cons step _ ih =>
    obtain ⟨unasked', marked', fewer⟩ := step.marked balanced marked
    obtain ⟨unasked'', marked'', fewer'⟩ := ih (step.balanced balanced) marked'
    refine ⟨unasked'', marked'', ?_⟩
    rw [received_append, List.countP_append]
    omega

theorem Marked.start (settings : Settings) (registry : Registry) (sink : Sink) :
    Marked [] (Session.start settings registry sink) :=
  ⟨fun _ member => absurd member List.not_mem_nil, fun _ member => absurd member List.not_mem_nil, Nat.le_refl 0⟩

/-- The message that an event brings or takes up. -/
def Event.message? : Event → Option Message
  | received m => some m
  | turn _ job => job.work.call?.map (·.message)

/-- What is taken up has been received, and its handler is that of its method. -/
theorem Run.handler_of_call (run : Run s events t) (sound : Sound [] s) (punctual : Punctual s) (fresh : s.waiting = [])
    {e : Event} {call : Call} (happens : e ∈ events) (called : e.call? = some call) :
    handler? call.message = some call.handler := by
  have calls := run.calls sound punctual
  rw [fresh, List.nil_append] at calls
  have there : call ∈ (received events).filterMap call? := by
    rw [← calls]
    exact List.mem_append_left _ (List.mem_filterMap.mpr ⟨e, happens, called⟩)
  obtain ⟨m, -, own⟩ := List.mem_filterMap.mp there
  obtain ⟨handler, known, rfl⟩ := Option.map_eq_some_iff.mp own
  exact known

/-- While a message without an id is handled, nothing is answered, unless it is answered anyway or shuts the session
down. -/
theorem Run.quiet (run : Run s events t) (balanced : Balanced s) (punctual : Punctual s) (fresh : s.waiting = [])
    {e : Event} (happens : e ∈ events) (own : e.message? = some m) (anonymous : m.id = none)
    (unasked : isAnsweredAnyway m = false) (stays : m.method ≠ some "shutdown") : e.gives = [] := by
  cases e with
  | received m' =>
    obtain rfl : m' = m := Option.some.inj own
    have silent : unknown m' = [] := by
      unfold unknown
      split
      · next named => cases anonymous.symm.trans named
      · rfl
    rw [Event.gives, silent, ite_self]
  | turn u job =>
    obtain ⟨call, called, rfl⟩ := Option.map_eq_some_iff.mp own
    have known : handler? call.message = some call.handler :=
      run.handler_of_call balanced.sound punctual fresh happens called
    obtain ⟨before, after, rfl⟩ := List.mem_iff_append.mp happens
    obtain ⟨rest, ready, here, -⟩ := run.split
    have sound := here.sound balanced.sound
    obtain ⟨number, work⟩ : ∃ number, job.work = .handle number call.handler call.message := by
      cases work : job.work <;> rw [work] at called <;> cases called
      exact ⟨_, rfl⟩
    have owes : call.handler.owes call.message = none := by
      rw [Handler.owes, anonymous, ite_self]
    have silent : (call.message.id.isNone && call.handler.answersAnyway call.message) = false := by
      rw [← unasked, isAnsweredAnyway_eq, known]
      rfl
    have quiet := quiet_turn sound ready work (fun own => stays (method_of_shutdown (own ▸ known))) owes silent
    rw [Event.gives, turned_eq ready, quiet.outbox]
    exact List.drop_length

end Runs

/-! ## Responses -/

/-- Which responses a session has sent to some messages. -/
structure AnswersRequests (messages : List Message) (t : Session) : Prop where
  /-- A response with an id answers a request that was received. -/
  asked : ∀ m ∈ t.sent, ∀ id, m.answers? = some (some id) →
    ∃ request ∈ messages, request.method.isSome ∧ request.id = some id
  /-- There are no more responses without an id than messages that are answered anyway. -/
  unasked : t.sent.countP (·.answers? == some none) ≤ messages.countP isAnsweredAnyway
  /-- If there is no such message, every response carries the id of a request that was received. -/
  all : messages.countP isAnsweredAnyway = 0 → ∀ m ∈ t.sent, ∀ answered, m.answers? = some answered →
    ∃ request ∈ messages, request.method.isSome ∧ request.id.isSome ∧ answered = request.id

section Responses

variable {s t : Session} {messages : List Message}

/-- The answers that a session owes are those of requests that it has received. -/
theorem mem_owedBy {id : RequestId} (owed : id ∈ owedBy messages) :
    ∃ request ∈ messages, request.method.isSome ∧ request.id = some id := by
  obtain ⟨request, member, owes⟩ := List.mem_filterMap.mp owed
  refine ⟨request, member, ?_, ?_⟩
  · cases called : request.method with
    | some method => rfl
    | none =>
      simp [owedFor, handler?, called] at owes
  · rw [owedFor_eq] at owes
    split at owes
    · exact owes
    · cases owes

theorem AnswersRequests.of_replies {charges : List Charge} (ledger : Ledger (owedBy messages) charges t)
    (few : t.replies.count none ≤ messages.countP isAnsweredAnyway) : AnswersRequests messages t := by
  have asked : ∀ m ∈ t.sent, ∀ id, m.answers? = some (some id) →
      ∃ request ∈ messages, request.method.isSome ∧ request.id = some id := by
    intro m sent id answers
    have given : id ∈ t.answered :=
      List.mem_filterMap.mpr ⟨m, List.filter_subset_self _ sent, by rw [answers, Option.join_some]⟩
    exact mem_owedBy (ledger.answers.mem_iff.mp (List.mem_append_left _ given))
  have unasked : t.sent.countP (·.answers? == some none) ≤ messages.countP isAnsweredAnyway := by
    refine (List.Sublist.countP_le List.filter_sublist).trans (Nat.le_trans (Nat.le_of_eq ?_) few)
    rw [replies, List.count_filterMap]
  refine ⟨asked, unasked, fun nobody m sent answered answers => ?_⟩
  cases answered with
  | none =>
    rw [nobody, Nat.le_zero, List.countP_eq_zero] at unasked
    exact absurd (beq_iff_eq.mpr answers) (unasked m sent)
  | some id =>
    obtain ⟨request, member, called, own⟩ := asked m sent id answers
    exact ⟨request, member, called, own ▸ rfl, own.symm⟩

end Responses

/-- Notifications are left without an answer: a response carries the id of a request that was received, or none, and
those without an id are no more than the messages without an id whose handlers answer them anyway. While any other
message without an id is handled no response is sent, unless it shuts the session down, which answers the completions
that it withdraws. -/
theorem only_requests_are_answered (settings : Settings) (registry : Registry) (sink : Sink) :
    (∀ events t, Run (Session.start settings registry sink) events t →
      AnswersRequests (received events) t ∧
        ∀ e ∈ events, ∀ m, e.message? = some m → m.id = none → isAnsweredAnyway m = false →
          m.method ≠ some "shutdown" → ∀ sent ∈ e.sends, sent.answers? = none) ∧
    (∀ source t, t = ((Session.start settings registry sink).serve source).1 →
      AnswersRequests (readMessages source).messages t) := by
  refine ⟨fun events t run => ?_, ?_⟩
  · have balanced := Balanced.start settings registry sink
    have ledger := run.ledger balanced.sound (Ledger.start settings registry sink)
    rw [List.nil_append] at ledger
    obtain ⟨unasked, marked, fewer⟩ := run.marked balanced (.start settings registry sink)
    refine ⟨.of_replies ledger ?_, fun e happens m own anonymous unasked stays sent given => ?_⟩
    · have few := marked.few
      rw [List.length_nil, Nat.zero_add] at fewer
      omega
    · have quiet := run.quiet balanced (.start settings registry sink) rfl happens own anonymous unasked stays
      rw [Event.sends, quiet] at given
      cases given
  · rintro source t rfl
    obtain ⟨sink', events, s, run, arrived, -, idle, same⟩ := serve_run settings registry sink source
    have balanced := Balanced.start settings registry sink'
    obtain ⟨unasked, marked, fewer⟩ := run.marked balanced (.start settings registry sink')
    have ledger := run.ledger balanced.sound (Ledger.start settings registry sink')
    have nothing := (ledger.settled idle).1
    have replies : s.cancelAllPending.replies = s.replies := by
      have withdrawn : s.cancelAllPending.replies = s.replies ++ (delayed s.desk.pending).map (·.id) :=
        replies_foldl_withdrawn s.desk.pending { s with desk := s.desk.cancelAll.1 }
      rw [withdrawn, (List.append_eq_nil_iff.mp nothing).1]
      exact List.append_nil _
    refine .of_replies (serve_ledger settings registry sink source) ?_
    rw [same, replies, ← arrived]
    have few := marked.few
    rw [List.length_nil, Nat.zero_add] at fewer
    omega

theorem only_the_shutdown_is_answered :
    (∃ m ∈ (afterMessages [misreadChange, shutdownRequest]).sent, m.answers? = some (some (.number 7))) ∧
      ∀ m ∈ (afterMessages [misreadChange, shutdownRequest]).sent, ∀ answered, m.answers? = some answered →
        ∃ request ∈ [misreadChange, shutdownRequest],
          request.method.isSome ∧ request.id.isSome ∧ answered = request.id := by
  obtain ⟨events, run, arrived⟩ := run_afterMessages [misreadChange, shutdownRequest]
  have answers := ((only_requests_are_answered _ _ _).1 _ _ run).1
  rw [arrived] at answers
  exact ⟨by decide +kernel, answers.all (by decide +kernel)⟩

/-- A handshake without an id. -/
def handshakeNotification : Message := ⟨"2.0", none, some "initialize", .obj [], .null, none⟩

/-- The handshake answers a notification, so it is not the case that all responses are to requests. -/
theorem handshake_notification_is_answered :
    ¬∀ events t, Run (Session.start (.defaults "") .empty .initial) events t → ∀ m ∈ t.sent, ∀ answered,
      m.answers? = some answered → ∃ request ∈ received events,
        request.method.isSome ∧ request.id.isSome ∧ answered = request.id := by
  intro asked
  obtain ⟨events, run, arrived⟩ := run_afterMessages [handshakeNotification]
  have answered : ∃ m ∈ (afterMessages [handshakeNotification]).sent, m.answers? = some none := by decide +kernel
  obtain ⟨m, sent, answers⟩ := answered
  obtain ⟨request, -, -, named, same⟩ := asked _ _ run m sent none answers
  rw [← same] at named
  cases named

end EditorAssist.Session

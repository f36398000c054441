import EditorAssist.Proofs.Session.Keeping

/-!
# The ledger of a session

Every handler that is at work is charged to exactly one debounced action or piece of work, together with the
id that it still has to answer. The answers given and those still charged are together the answers owed.
-/

namespace EditorAssist.Session

open EditorAssist.Debounce EditorAssist.Journal EditorAssist.Payload EditorAssist.Settings
open EditorAssist.Time EditorAssist.Wire

/-! ## The ledger -/

/-- Numbers of the handlers that are at work. -/
def unfinished (s : Session) : List Nat := (s.invocations.filter (·.outcome.isNone)).map (·.number)

/-- The charges balance: they cover what is owed and not answered, and every handler that is at work. -/
structure Ledger (owed : List RequestId) (charges : List Charge) (s : Session) : Prop where
  answers : (s.answered ++ charges.filterMap (·.id)).Perm owed
  handlers : s.unfinished.Perm (charges.map (·.number))
  numbers : s.invocations.map (·.number) = List.range s.invocations.length

theorem unfinished_conclude (s : Session) (number : Nat) (fault : Option Fault) :
    (s.conclude number fault).unfinished = s.unfinished.filter (· != number) := by
  unfold unfinished conclude
  dsimp only
  induction s.invocations with
  | nil => rfl
  | cons invocation rest ih =>
    obtain ⟨own, method, outcome⟩ := invocation
    by_cases same : own = number <;> cases outcome <;> simp_all

theorem numbers_conclude (s : Session) (number : Nat) (fault : Option Fault) :
    (s.conclude number fault).invocations.map (·.number) = s.invocations.map (·.number) := by
  rw [conclude, List.map_map]
  refine List.map_congr_left fun invocation _ => ?_
  rw [Function.comp_apply]
  split <;> rfl

section Entries

variable {owed : List RequestId} {charges charges' : List Charge} {charge : Charge} {s t : Session}

theorem Ledger.start (settings : Settings) (registry : Backend.Registry) (sink : Sink) :
    Ledger [] [] (Session.start settings registry sink) :=
  ⟨.refl _, .refl _, rfl⟩

theorem Ledger.perm (ledger : Ledger owed charges s) (same : charges.Perm charges') :
    Ledger owed charges' s :=
  ⟨((same.filterMap _).append_left _).symm.trans ledger.answers, ledger.handlers.trans (same.map _),
    ledger.numbers⟩

theorem Ledger.of_same (ledger : Ledger owed charges s) (answered : t.answered = s.answered)
    (invocations : t.invocations = s.invocations) : Ledger owed charges t := by
  obtain ⟨answers, handlers, numbers⟩ := ledger
  refine ⟨answered ▸ answers, ?_, invocations ▸ numbers⟩
  rw [unfinished, invocations]
  exact handlers

/-- Handlers have different numbers. -/
theorem Ledger.nodup (ledger : Ledger owed charges s) : (charges.map (·.number)).Nodup := by
  have all : (s.invocations.map (·.number)).Nodup := by
    rw [ledger.numbers]
    exact List.nodup_range
  exact ledger.handlers.nodup_iff.mp (all.sublist (List.filter_sublist.map _))

/-- A charge is paid: its id is answered and its handler comes to its end. -/
theorem Ledger.pay (fault : Option Fault) (ledger : Ledger owed (charge :: charges) s)
    (answered : t.answered = s.answered ++ charge.id.toList)
    (invocations : t.invocations = (s.conclude charge.number fault).invocations) :
    Ledger owed charges t := by
  have distinct := List.nodup_cons.mp ledger.nodup
  have handlers := ledger.handlers.filter (· != charge.number)
  have others : (charges.map (·.number)).filter (· != charge.number) = charges.map (·.number) :=
    List.filter_eq_self.mpr fun number member =>
      bne_iff_ne.mpr fun same : number = charge.number => by
        rw [same] at member
        exact distinct.1 member
  rw [List.map_cons, List.filter_cons, if_neg (by simp), others, ← unfinished_conclude s _ fault] at handlers
  refine ⟨?_, ?_, ?_⟩
  · rw [answered, List.append_assoc]
    have answers := ledger.answers
    rw [List.filterMap_cons] at answers
    cases id : charge.id with
    | none =>
      rw [id] at answers
      exact answers
    | some id' =>
      rw [id] at answers
      exact answers
  · rw [unfinished, invocations]
    exact handlers
  · rw [invocations, numbers_conclude, ledger.numbers, conclude, List.length_map]

/-- A handler is started and its answer owed. -/
theorem Ledger.enroll (ledger : Ledger owed charges s) {method : String} (id : Option RequestId)
    (answered : t.answered = s.answered)
    (invocations : t.invocations = s.invocations ++ [⟨s.invocations.length, method, none⟩]) :
    Ledger (owed ++ id.toList) (⟨s.invocations.length, id⟩ :: charges) t := by
  obtain ⟨answers, handlers, numbers⟩ := ledger
  refine ⟨?_, ?_, ?_⟩
  · rw [answered, List.filterMap_cons]
    cases id with
    | none =>
      rw [Option.toList_none, List.append_nil]
      exact answers
    | some id => exact List.perm_middle.trans ((answers.cons id).trans (List.perm_append_singleton id owed).symm)
  · rw [unfinished, invocations, List.filter_append, List.map_append]
    exact (List.perm_append_singleton _ _).trans (handlers.cons _)
  · rw [invocations, List.map_append, List.length_append, numbers]
    exact List.range_succ.symm

/-- What is answered without a handler was owed. -/
theorem Ledger.reply (ledger : Ledger owed charges s) {ids : List RequestId}
    (answered : t.answered = s.answered ++ ids) (invocations : t.invocations = s.invocations) :
    Ledger (owed ++ ids) charges t := by
  obtain ⟨answers, handlers, numbers⟩ := ledger
  refine ⟨?_, ?_, invocations ▸ numbers⟩
  · rw [answered, List.append_assoc]
    refine (List.Perm.append_left _ List.perm_append_comm).trans ?_
    rw [← List.append_assoc]
    exact answers.append_right ids
  · rw [unfinished, invocations]
    exact handlers

/-- When no handler is at work, everything that is owed has been answered. -/
theorem Ledger.settled (ledger : Ledger owed charges s) (idle : s.inFlight = 0) :
    charges = [] ∧ s.answered.Perm owed := by
  have none : s.unfinished = [] := by
    rw [unfinished, List.length_eq_zero_iff.mp idle]
    rfl
  have empty : charges = [] := by
    have handlers := ledger.handlers
    rw [none] at handlers
    exact List.map_eq_nil_iff.mp handlers.symm.eq_nil
  refine ⟨empty, ?_⟩
  have answers := ledger.answers
  rw [empty, List.filterMap_nil, List.append_nil] at answers
  exact answers

end Entries

/-! ## What is charged to the work of a session -/

/-- What is charged to work that cannot be withdrawn. -/
def Work.debt? (work : Work) : Option Charge := if work.slot.isNone then work.charge? else none

/-- What is charged to some debounced actions. -/
def delayed (pending : Pending DelayedAction) : List Charge := pending.filterMap (·.callback.charge?)

/-- What is charged to some jobs. -/
def debts (jobs : List (Job Work)) : List Charge := jobs.filterMap (·.work.debt?)

/-- Everything that is charged, to debounced actions and to other work. -/
def charges (s : Session) : List Charge := delayed s.desk.pending ++ debts s.desk.agenda.jobs

/-- What is left out does not count if nothing is charged to it. -/
theorem filterMap_filter_eq {α β : Type} {f : α → Option β} {p : α → Bool} {l : List α}
    (free : ∀ x ∈ l, p x = false → f x = none) : (l.filter p).filterMap f = l.filterMap f := by
  induction l with
  | nil => rfl
  | cons x rest ih =>
    have tail := ih fun y member => free y (List.mem_cons_of_mem _ member)
    cases kept : p x with
    | true => rw [List.filter_cons, if_pos kept, List.filterMap_cons, List.filterMap_cons, tail]
    | false =>
      rw [List.filter_cons, if_neg (by simp [kept]), tail, List.filterMap_cons,
        free x (List.mem_cons_self ..) kept]

/-- A filter that leaves out one member. -/
theorem perm_cons_filter {α : Type} {p : α → Bool} {l : List α} {x : α} (distinct : l.Nodup) (member : x ∈ l)
    (own : ∀ y ∈ l, p y = false ↔ y = x) : l.Perm (x :: l.filter p) := by
  induction l with
  | nil => cases member
  | cons y rest ih =>
    obtain ⟨fresh, tail⟩ := List.nodup_cons.mp distinct
    by_cases same : y = x
    · have kept : rest.filter p = rest := by
        refine List.filter_eq_self.mpr fun z there => ?_
        have other : ¬p z = false := fun gone =>
          fresh (by rw [same, ← (own z (List.mem_cons_of_mem _ there)).mp gone]; exact there)
        simpa using other
      rw [List.filter_cons, if_neg (by simp [(own y (List.mem_cons_self ..)).mpr same]), kept, same]
    · have there : x ∈ rest := (List.mem_cons.mp member).resolve_left fun here => same here.symm
      have kept : p y = true := by
        have other : ¬p y = false := fun gone => same ((own y (List.mem_cons_self ..)).mp gone)
        simpa using other
      rw [List.filter_cons, if_pos kept]
      exact ((ih tail there fun z here => own z (List.mem_cons_of_mem _ here)).cons y).trans
        (List.Perm.swap x y _)

theorem debt?_of_slot {work : Work} {entry : String × DelayedAction} (slot : work.slot = some entry) :
    work.debt? = none := by
  rw [Work.debt?, slot]
  rfl

theorem debt?_of_isSignal {work : Work} (signal : work.isSignal = true) : work.debt? = none := by
  cases work <;> first | rfl | cases signal

section Charges

variable {hand : List (Job Work)} {s t : Session} {entry : Entry DelayedAction}

theorem debts_perm {jobs jobs' : List (Job Work)} (same : jobs.Perm jobs') : (debts jobs).Perm (debts jobs') :=
  same.filterMap _

theorem debts_cons (job : Job Work) (jobs : List (Job Work)) :
    debts (job :: jobs) = job.work.debt?.toList ++ debts jobs := by
  rw [debts, List.filterMap_cons]
  cases job.work.debt? <;> rfl

theorem delayed_cons (entry : Entry DelayedAction) (pending : Pending DelayedAction) :
    delayed (entry :: pending) = delayed [entry] ++ delayed pending := by
  rw [delayed, ← List.singleton_append, List.filterMap_append]
  rfl

/-- Nothing is charged to the job of an entry, only to the entry itself. -/
theorem debts_cancel (sound : Sound hand s) (pending : entry ∈ s.desk.pending) :
    debts (s.desk.agenda.cancel entry.ticket).jobs = debts s.desk.agenda.jobs := by
  rw [Agenda.jobs_cancel]
  refine filterMap_filter_eq fun job member own => ?_
  exact debt?_of_slot (sound.coherent.slot_of_ticket pending (List.mem_append_right _ member)
    (by simpa using own))

/-- Withdrawing what is pending for a key takes its charge off. -/
theorem charges_cancel (sound : Sound hand s) (key : String) :
    s.charges.Perm (delayed (s.desk.cancel key).2.toList ++
      ({ s with desk := (s.desk.cancel key).1 } : Session).charges) := by
  rcases s.desk.cancel_cases key with ⟨_, same⟩ | ⟨entry, pending, own, gone⟩
  · rw [same]
    exact .refl _
  · have distinct : s.desk.pending.Nodup := sound.coherent.keys.of_map _
    have table : s.desk.pending.Perm (entry :: s.desk.pending.remove key) := by
      refine perm_cons_filter distinct pending fun other there => ?_
      constructor
      · intro gone
        exact sound.coherent.eq_of_key there pending ((by simpa using gone : other.key = key).trans own.symm)
      · rintro rfl
        simpa using own
    have jobs := debts_cancel sound pending
    rw [gone]
    show (delayed s.desk.pending ++ debts s.desk.agenda.jobs).Perm
      (delayed [entry] ++ (delayed (s.desk.pending.remove key) ++
        debts (s.desk.agenda.cancel entry.ticket).jobs))
    rw [jobs, ← List.append_assoc]
    exact (((table.filterMap _).trans (.of_eq (delayed_cons entry _))).append_right _)

/-- A job that joins the agenda brings what is charged to its work. -/
theorem charges_of_jobs {ticket : Nat} {work : Work}
    (jobs : t.desk.agenda.jobs.Perm (⟨ticket, work⟩ :: s.desk.agenda.jobs))
    (pending : t.desk.pending = s.desk.pending) :
    t.charges.Perm (work.debt?.toList ++ s.charges) := by
  have more : (debts t.desk.agenda.jobs).Perm (work.debt?.toList ++ debts s.desk.agenda.jobs) :=
    (debts_perm jobs).trans (.of_eq (debts_cons _ _))
  rw [charges, charges, pending, ← List.append_assoc]
  refine (more.append_left _).trans ?_
  rw [← List.append_assoc]
  exact List.perm_append_comm.append_right _

theorem charges_of_free {ticket : Nat} {work : Work} (free : work.debt? = none)
    (jobs : t.desk.agenda.jobs.Perm (⟨ticket, work⟩ :: s.desk.agenda.jobs))
    (pending : t.desk.pending = s.desk.pending) : t.charges.Perm s.charges := by
  have charges := charges_of_jobs jobs pending
  rw [free] at charges
  exact charges

/-- A debounced action that is added brings its charge. -/
theorem charges_add (desk : Desk Work DelayedAction) {key : String} {work : Work} {action : DelayedAction}
    (free : work.debt? = none) :
    ({ s with desk := desk.add key work action } : Session).charges.Perm
      (action.charge?.toList ++ ({ s with desk } : Session).charges) := by
  have more : (debts (desk.agenda.spawn work).1.jobs).Perm (debts desk.agenda.jobs) := by
    refine (debts_perm (Agenda.jobs_spawn work)).trans (.of_eq ?_)
    rw [debts_cons, free]
    rfl
  have table : delayed (desk.pending ++ [⟨key, desk.agenda.issued, action⟩]) =
      delayed desk.pending ++ action.charge?.toList := by
    rw [delayed, List.filterMap_append]
    cases h : action.charge? <;> simp [delayed, h]
  show (delayed (desk.pending ++ [⟨key, desk.agenda.issued, action⟩]) ++
    debts (desk.agenda.spawn work).1.jobs).Perm
      (action.charge?.toList ++ (delayed desk.pending ++ debts desk.agenda.jobs))
  rw [table, ← List.append_assoc]
  exact List.perm_append_comm.append more

/-- What is withdrawn under the key of some diagnostics has no charge. -/
theorem delayed_cancel_clear (sound : Sound hand s) (uri : String) :
    delayed (s.desk.cancel (diagnosticsKey uri)).2.toList = [] := by
  rcases s.desk.cancel_cases (diagnosticsKey uri) with ⟨_, same⟩ | ⟨entry, pending, own, gone⟩
  · rw [same]
    rfl
  · obtain ⟨other, callback⟩ := DelayedAction.eq_clear ((sound.key_of_entry pending).symm.trans own)
    rw [gone]
    simp [delayed, callback, DelayedAction.charge?]

/-- Work on the side changes no charges. -/
theorem Micro.charges {deeds : List Deed} (step : Micro hand s deeds t) (sound : Sound hand s) :
    t.charges.Perm s.charges := by
  have cancelled : ∀ uri, s.charges.Perm
      ({ s with desk := (s.desk.cancel (diagnosticsKey uri)).1 } : Session).charges := by
    intro uri
    have taken := charges_cancel sound (diagnosticsKey uri)
    rw [delayed_cancel_clear sound uri, List.nil_append] at taken
    exact taken
  cases step with
  | note sink requested tokens flag exits => exact .refl _
  | edit documents => exact .refl _
  | call name provider topic => exact .refl _
  | say m silent =>
    obtain ⟨sink, sent⟩ := send_eq s m
    rw [sent]
    exact .refl _
  | arm uri span =>
    obtain ⟨sink, same⟩ := arm_eq sound uri span
    rw [same, sound.coherent.schedule_eq]
    exact (charges_add _ rfl).trans (cancelled uri).symm
  | disarm uri =>
    obtain ⟨sink, same⟩ := disarm_eq sound uri
    rw [same]
    exact (cancelled uri).symm
  | start signal slow =>
    have jobs : (s.spawn (.animate signal)).1.desk.agenda.jobs.Perm
        (⟨s.desk.agenda.issued, .animate signal⟩ :: s.desk.agenda.jobs) := Agenda.jobs_spawn _
    exact charges_of_free rfl jobs rfl
  | stop ticket signal =>
    show (delayed s.desk.pending ++ debts (s.desk.agenda.cancel ticket).jobs).Perm _
    rw [Agenda.jobs_cancel, debts, filterMap_filter_eq]
    · exact .refl _
    · intro job member own
      exact debt?_of_isSignal (signal.signal job (List.mem_append_right _ member) (by simpa using own))

theorem Does.charges {arms starts : Nat} {topics : List Backend.Topic}
    (does : Does hand s arms starts topics t) (sound : Sound hand s) : t.charges.Perm s.charges := by
  obtain ⟨deeds, aside, _⟩ := does
  clear * - aside sound
  induction aside with
  | nil s => exact .refl _
  | cons step _ ih => exact (ih (step.sound sound)).trans (step.charges sound)

/-- The charge of a job that is begun is in hand. -/
theorem charges_begun {job : Job Work} {rest : List (Job Work)} (sound : Sound [] s)
    (ready : s.desk.agenda.ready = job :: rest)
    (starts : ∀ key span action, job.work ≠ .delay key span action) :
    s.charges.Perm (job.work.charge?.toList ++ (s.begun job rest).charges) := by
  obtain ⟨ticket, work⟩ := job
  have jobs : s.desk.agenda.jobs = ⟨ticket, work⟩ :: (s.desk.agenda.behind rest).jobs :=
    Agenda.jobs_of_ready ready
  cases work with
  | delay key span action => exact absurd rfl (starts key span action)
  | fire key action =>
    have first : ⟨ticket, .fire key action⟩ ∈ s.desk.agenda.jobs := by
      rw [jobs]
      exact List.mem_cons_self ..
    have pending : ⟨key, ticket, action⟩ ∈ s.desk.pending := sound.coherent.entry_of_slot first rfl
    have table : s.desk.pending.Perm (⟨key, ticket, action⟩ :: s.desk.pending.release key ticket) := by
      refine perm_cons_filter (sound.coherent.keys.of_map _) pending fun other there => ?_
      constructor
      · intro gone
        have own : other.key = key ∧ other.ticket = ticket := by simpa using gone
        exact sound.coherent.entry_of_ticket there pending own.2
      · rintro rfl
        simp
    rw [Session.charges, jobs, debts_cons]
    show (delayed s.desk.pending ++ debts (s.desk.agenda.behind rest).jobs).Perm
      (action.charge?.toList ++ (delayed (s.desk.pending.release key ticket) ++
        debts (s.desk.agenda.behind rest).jobs))
    rw [← List.append_assoc]
    refine ((table.filterMap _).trans (.of_eq ?_)).append_right _
    rw [List.filterMap_cons]
    cases action.charge? <;> simp [delayed]
  | _ => exact charges_of_jobs (s := s.taken rest) (.of_eq jobs) rfl

end Charges

/-! ## Turns and messages balance -/

section Balance

variable {hand : List (Job Work)} {owed : List RequestId} {rest : List Charge} {s t : Session}

/-- A withdrawal pays what is charged to the entry. -/
theorem Ledger.withdrawn {entry : Entry DelayedAction} (ledger : Ledger owed (delayed [entry] ++ rest) s) :
    Ledger owed rest (s.withdrawn entry) := by
  cases callback : entry.callback with
  | clear uri =>
    obtain ⟨sink, same⟩ := withdrawn_clear s callback
    have free : delayed [entry] = [] := by simp [delayed, callback, DelayedAction.charge?]
    rw [same]
    rw [free, List.nil_append] at ledger
    exact ledger.of_same rfl rfl
  | complete job =>
    obtain ⟨sink, same⟩ := withdrawn_complete s callback
    have charged : delayed [entry] = [⟨job.invocation, job.id⟩] := by
      simp [delayed, callback, DelayedAction.charge?]
    rw [charged] at ledger
    rw [same]
    refine Ledger.pay none ledger ?_ rfl
    rw [answered, List.filterMap_append]
    cases h : job.id <;> simp [noItems, answered, Outbound.answers?]

theorem Ledger.allWithdrawn {entries : List (Entry DelayedAction)}
    (ledger : Ledger owed (delayed entries ++ rest) s) : Ledger owed rest (entries.foldl Session.withdrawn s) := by
  induction entries generalizing s with
  | nil => exact ledger
  | cons entry entries ih =>
    rw [delayed_cons, List.append_assoc] at ledger
    exact ih ledger.withdrawn

/-- Withdrawals touch neither the table nor the agenda. -/
theorem charges_foldl_withdrawn (entries : List (Entry DelayedAction)) (s : Session) :
    (entries.foldl Session.withdrawn s).charges = s.charges := by
  obtain ⟨sink, outbox, invocations, same⟩ := foldl_withdrawn_eq entries s
  rw [same]
  rfl

/-- When everything that is delayed has been withdrawn, only other work is charged. -/
theorem charges_cancelAllPending (sound : Sound hand s) :
    s.cancelAllPending.charges = debts s.desk.agenda.jobs := by
  have agenda := agenda_foldl_withdraw s.desk.pending { s.desk with pending := [] }
  have jobs : debts s.desk.cancelAll.1.agenda.jobs = debts s.desk.agenda.jobs := by
    have filtered : s.desk.cancelAll.1.agenda.jobs =
        s.desk.agenda.jobs.filter fun job => s.desk.pending.all (·.ticket != job.ticket) := by
      rw [Desk.cancelAll, agenda, Agenda.jobs, Agenda.jobs, List.filter_append, List.filter_map]
      rfl
    rw [filtered]
    refine filterMap_filter_eq fun job member gone => ?_
    obtain ⟨entry, pending, own⟩ := List.all_eq_false.mp gone
    exact debt?_of_slot (sound.coherent.slot_of_ticket pending (List.mem_append_right _ member)
      (by simpa using own : entry.ticket = job.ticket).symm)
  rw [← jobs]
  refine (charges_foldl_withdrawn s.desk.pending { s with desk := s.desk.cancelAll.1 }).trans ?_
  show delayed (s.desk.pending.foldl Desk.withdraw { s.desk with pending := [] }).pending ++ _ = _
  rw [pending_foldl_withdraw]
  rfl

/-- Whatever is delayed is paid when it is withdrawn. -/
theorem Ledger.cancelAllPending (ledger : Ledger owed (rest ++ s.charges) s) (sound : Sound hand s) :
    Ledger owed (rest ++ s.cancelAllPending.charges) s.cancelAllPending := by
  have moved : (rest ++ s.charges).Perm (delayed s.desk.pending ++ (rest ++ debts s.desk.agenda.jobs)) :=
    List.perm_append_comm_assoc _ _ _
  rw [charges_cancelAllPending sound]
  exact Ledger.allWithdrawn ((ledger.perm moved).of_same (t := { s with desk := s.desk.cancelAll.1 }) rfl rfl)

/-- Whoever schedules an action under a key withdraws what has been delayed under it. -/
theorem charges_schedule {key : String} {action : DelayedAction} (span : Span) (sound : Sound hand s) :
    (action.charge?.toList ++ s.charges).Perm
      (delayed (s.desk.cancel key).2.toList ++ (s.schedule key span action).charges) := by
  have added : ({ s with desk := (s.desk.cancel key).1.add key (.delay key span action) action } :
      Session).charges.Perm (action.charge?.toList ++
        ({ s with desk := (s.desk.cancel key).1 } : Session).charges) := charges_add _ rfl
  rw [schedule_eq sound, charges_foldl_withdrawn]
  exact ((charges_cancel sound key).append_left action.charge?.toList).trans
    (List.perm_append_comm_assoc _ _ _) |>.trans (added.symm.append_left _)

/-- The charge of an action that is scheduled goes to its entry. -/
theorem Ledger.schedule {key : String} {action : DelayedAction} (span : Span)
    (ledger : Ledger owed (action.charge?.toList ++ s.charges) s) (sound : Sound hand s) :
    Ledger owed (s.schedule key span action).charges (s.schedule key span action) := by
  have moved : Ledger owed (delayed (s.desk.cancel key).2.toList ++ (s.schedule key span action).charges) s :=
    ledger.perm (charges_schedule span sound)
  rw [schedule_eq sound] at moved ⊢
  exact Ledger.allWithdrawn (moved.of_same rfl rfl)

theorem Ledger.does {arms starts : Nat} {topics : List Backend.Topic} (ledger : Ledger owed (rest ++ s.charges) s)
    (does : Does hand s arms starts topics t) (sound : Sound hand s) : Ledger owed (rest ++ t.charges) t := by
  have unmoved := (does.keeps sound).2
  exact (ledger.perm ((does.charges sound).symm.append_left _)).of_same unmoved.answered unmoved.invocations

/-- Work that goes on is charged with the same. -/
theorem Succeeds.charge {work next : Work} {settings : Settings} {now : Instant}
    (succeeds : Succeeds settings now work next) : next.debt? = work.charge? := by
  cases succeeds with
  | fetched same | again same =>
    simp only [Work.debt?, Work.slot, Work.charge?, DelayedAction.charge?, Option.isNone_none, if_true, same]
  | command invocation id =>
    simp only [Work.debt?, Work.slot, Work.charge?, Handler.owes, Handler.answers, Option.isNone_none, if_true,
      invocation, id]
  | asked | refused | answered | told => rfl

theorem Placed.charges {ticket : Nat} {next : Work} (placed : Placed s ticket next t) :
    t.charges.Perm (next.debt?.toList ++ s.charges) ∧ t.answered = s.answered ∧
      t.invocations = s.invocations := by
  cases placed with
  | lined => exact ⟨charges_of_jobs (Agenda.jobs_enqueue _) rfl, rfl, rfl⟩
  | spawned => exact ⟨charges_of_jobs (Agenda.jobs_spawn _) rfl, rfl, rfl⟩
  | waits due => exact ⟨charges_of_jobs (Agenda.jobs_waitUntil _ _) rfl, rfl, rfl⟩

/-- What a turn leads to pays its charge or hands it on. -/
theorem Ledger.effect {ticket : Nat} {work : Work} (ledger : Ledger owed (work.charge?.toList ++ s.charges) s)
    (sound : Sound hand s) (effect : Effect hand s ticket work t) : Ledger owed t.charges t := by
  cases effect with
  | silent charge does =>
    have paid := ledger.does does sound
    rw [charge] at paid
    exact Ledger.pay _ paid (List.append_nil _).symm rfl
  | @answers number id _ mid after m fault charge does _ answer afterwards =>
    have paid := ledger.does does sound
    rw [charge] at paid
    obtain ⟨sink, sent⟩ := send_eq mid m
    have soundly : Sound hand (mid.send m) := by
      rw [sent]
      exact (does.keeps sound).1.of_desk rfl rfl
    have unmoved := (afterwards.keeps soundly).2
    have same : (mid.send m).charges = mid.charges := by
      rw [sent]
      rfl
    have charges := afterwards.charges soundly
    rw [same] at charges
    refine Ledger.pay fault (paid.perm (charges.symm.cons _)) ?_ ?_
    · have told := answered_send mid m
      rw [answer] at told
      exact unmoved.answered.trans told
    · have kept : after.invocations = mid.invocations := by
        rw [unmoved.invocations, sent]
      rw [conclude, conclude, kept]
  | goesOn does _ succeeds _ placed =>
    have handed := ledger.does does sound
    obtain ⟨charges, answered, invocations⟩ := placed.charges
    rw [succeeds.charge] at charges
    exact (handed.perm charges.symm).of_same answered invocations
  | @delays number message params document own _ _ =>
    have charge : work.charge? =
        (DelayedAction.complete ⟨number, message.id, params, document.version⟩).charge? := by
      rw [own]
      rfl
    rw [charge] at ledger
    exact ledger.schedule _ sound
  | @shutsDown number message own =>
    obtain ⟨sink, same⟩ := shutdown_eq s message
    have closing : Sound hand s.closing := sound.of_desk rfl rfl
    have begun : Ledger owed (work.charge?.toList ++ s.closing.charges) s.closing := ledger.of_same rfl rfl
    have paid := begun.cancelAllPending closing
    rw [own] at paid
    rw [same]
    refine Ledger.pay none paid ?_ rfl
    show (s.closing.cancelAllPending.outbox ++ goodbye message).filterMap (·.answers?.join) =
      s.closing.cancelAllPending.answered ++ message.id.toList
    rw [List.filterMap_append]
    cases id : message.id <;> simp [goodbye, id, answered, Outbound.answers?]
  | clears free does =>
    have handed := ledger.does does sound
    rw [free] at handed
    exact handed
  | @ticks mid span next own does signal _ _ =>
    have handed := ledger.does does sound
    have free : work.charge? = none := by
      cases work <;> first | rfl | cases own
    have jobs : (mid.waitFor span ticket next).desk.agenda.jobs.Perm (⟨ticket, next⟩ :: mid.desk.agenda.jobs) :=
      Agenda.jobs_waitUntil _ _
    have charges := charges_of_free (debt?_of_isSignal signal) jobs rfl
    rw [free] at handed
    exact (handed.perm charges.symm).of_same rfl rfl

/-- A turn balances. -/
theorem Ledger.turn {job : Job Work} {later : List (Job Work)} (ledger : Ledger owed s.charges s)
    (sound : Sound [] s) (ready : s.desk.agenda.ready = job :: later) :
    Ledger owed (perform job (s.taken later)).charges (perform job (s.taken later)) := by
  obtain ⟨ticket, work⟩ := job
  rcases work.delay_or with ⟨key, span, action, rfl⟩ | starts
  · have first : s.desk.agenda.jobs = ⟨ticket, .delay key span action⟩ :: (s.taken later).desk.agenda.jobs :=
      Agenda.jobs_of_ready ready
    have jobs : ((s.taken later).waitFor span ticket (.fire key action)).desk.agenda.jobs.Perm
        (⟨ticket, .fire key action⟩ :: (s.taken later).desk.agenda.jobs) := Agenda.jobs_waitUntil _ _
    have before : s.charges.Perm (s.taken later).charges := charges_of_free rfl (.of_eq first) rfl
    have after := charges_of_free rfl jobs rfl
    exact (ledger.perm (before.trans after.symm)).of_same rfl rfl
  · have begun := ledger.perm (charges_begun sound ready starts)
    have same : Ledger owed (work.charge?.toList ++ (s.begun ⟨ticket, work⟩ later).charges)
        (s.begun ⟨ticket, work⟩ later) := by
      refine begun.of_same ?_ ?_ <;> cases work <;> rfl
    exact same.effect (sound.begun ready starts) (perform_effect sound ready starts)

/-- The id that a message has to be answered under. -/
def owedFor (m : Message) : Option RequestId :=
  match handler? m with
  | some handler => handler.owes m
  | none => if m.method.isSome then m.id else none

/-- A message is answered at once, or its answer is owed. -/
theorem Ledger.handle (ledger : Ledger owed s.charges s) (sound : Sound [] s) (m : Message) :
    Ledger (owed ++ (owedFor m).toList) (s.handle m).charges (s.handle m) := by
  rcases handle_cases sound.own m with ⟨sink, handler, known, started⟩ | ⟨sink, unhandled, refused⟩
  · rw [owedFor, known, started]
    have jobs : (invoke m { s with sink } handler).desk.agenda.jobs.Perm
        (⟨s.desk.agenda.issued, .handle s.invocations.length handler m⟩ :: s.desk.agenda.jobs) :=
      Agenda.jobs_spawn _
    have charges := charges_of_jobs jobs rfl
    have enrolled : Ledger (owed ++ (handler.owes m).toList)
        (⟨s.invocations.length, handler.owes m⟩ :: s.charges) (invoke m { s with sink } handler) :=
      ledger.enroll _ rfl rfl
    exact enrolled.perm charges.symm
  · rw [owedFor, unhandled, refused]
    refine Ledger.reply ledger ?_ rfl
    show (s.outbox ++ unknown m).filterMap (·.answers?.join) = _
    rw [List.filterMap_append]
    cases method : m.method <;> cases id : m.id <;> simp [unknown, method, id, answered, Outbound.answers?]

end Balance

end EditorAssist.Session

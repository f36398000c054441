import EditorAssist.Proofs.Session.Jobs
import EditorAssist.Proofs.Session.Ledger

/-!
# What turns leave alone

Whatever is charged is charged to one job. A turn brings no handler back to life, and unless it supersedes
them it leaves the completions alone that wait to start.
-/

namespace EditorAssist.Session

open EditorAssist.Backend EditorAssist.Debounce EditorAssist.Payload EditorAssist.Settings
open EditorAssist.Time EditorAssist.Wire

/-! ## Who is charged -/

/-- The entry of a job that can be withdrawn. -/
def tabled? (job : Job Work) : Option (Entry DelayedAction) :=
  job.work.slot.map fun (key, action) => ⟨key, job.ticket, action⟩

/-- Everything that is charged to some jobs. -/
def borne (jobs : List (Job Work)) : List Charge := jobs.filterMap (·.work.charge?)

section Bearers

variable {s : Session} {owed : List RequestId} {first other : Job Work} {rest : List (Job Work)}
  {charge charge' : Charge}

/-- The table lists the entries of the jobs that can be withdrawn. -/
theorem pending_perm (sound : Sound [] s) : s.desk.pending.Perm (s.desk.agenda.jobs.filterMap tabled?) := by
  have tickets : s.desk.agenda.jobs.Pairwise fun a b => a.ticket ≠ b.ticket :=
    List.pairwise_map.mp sound.coherent.distinct
  refine (List.perm_ext_iff_of_nodup (sound.coherent.keys.of_map _) ?_).mpr ?_
  · refine List.pairwise_filterMap.mpr (tickets.imp ?_)
    intro a b differ entry here entry' there same
    obtain ⟨_, _, rfl⟩ := Option.map_eq_some_iff.mp here
    obtain ⟨_, _, rfl⟩ := Option.map_eq_some_iff.mp there
    exact differ (congrArg Entry.ticket same)
  · intro entry
    rw [sound.coherent.entries, List.mem_filterMap]
    constructor
    · rintro ⟨job, member, ticket, slot⟩
      refine ⟨job, member, ?_⟩
      rw [tabled?, slot, ticket]
      rfl
    · rintro ⟨job, member, own⟩
      obtain ⟨_, slot, rfl⟩ := Option.map_eq_some_iff.mp own
      exact ⟨job, member, rfl, slot⟩

/-- Whatever is charged is charged to a job. -/
theorem charges_perm (sound : Sound [] s) : s.charges.Perm (borne s.desk.agenda.jobs) := by
  have split := (List.filter_append_perm (fun job : Job Work => job.work.slot.isSome)
    s.desk.agenda.jobs).filterMap (·.work.charge?)
  have table : (delayed s.desk.pending).Perm
      ((s.desk.agenda.jobs.filter fun job => job.work.slot.isSome).filterMap (·.work.charge?)) := by
    refine ((pending_perm sound).filterMap _).trans (.of_eq ?_)
    rw [List.filterMap_filterMap, List.filterMap_filter]
    refine List.filterMap_congr fun job _ => ?_
    obtain ⟨ticket, work⟩ := job
    cases work <;> rfl
  have jobs : debts s.desk.agenda.jobs =
      (s.desk.agenda.jobs.filter fun job => !job.work.slot.isSome).filterMap (·.work.charge?) := by
    rw [List.filterMap_filter]
    refine List.filterMap_congr fun job _ => ?_
    rw [Work.debt?]
    cases job.work.slot <;> rfl
  rw [List.filterMap_append, ← jobs] at split
  exact (table.append_right _).trans split

/-- The handler that a job is charged with is at work. -/
theorem Ledger.unfinished_of_charge (ledger : Ledger owed s.charges s) (sound : Sound [] s)
    (member : first ∈ s.desk.agenda.jobs) (charged : first.work.charge? = some charge) :
    charge.number ∈ s.unfinished := by
  have borne : charge ∈ s.charges :=
    (charges_perm sound).mem_iff.mpr (List.mem_filterMap.mpr ⟨first, member, charged⟩)
  exact ledger.handlers.mem_iff.mpr (List.mem_map_of_mem borne)

/-- Handlers are numbered in the order of their messages. -/
theorem Ledger.received {number : Nat} (ledger : Ledger owed s.charges s) (alive : number ∈ s.unfinished) :
    number < s.invocations.length := by
  have numbered : number ∈ s.invocations.map (·.number) := List.map_subset _ (List.filter_subset_self _) alive
  rw [ledger.numbers] at numbered
  exact List.mem_range.mp numbered

/-- No two jobs are charged with one handler. -/
theorem Ledger.alone (ledger : Ledger owed s.charges s) (sound : Sound [] s)
    (ready : s.desk.agenda.ready = first :: rest) (charged : first.work.charge? = some charge)
    (member : other ∈ (s.taken rest).desk.agenda.jobs) (charged' : other.work.charge? = some charge') :
    charge'.number ≠ charge.number := by
  have distinct := ((charges_perm sound).map Charge.number).nodup_iff.mp ledger.nodup
  rw [Agenda.jobs_of_ready ready, borne, List.filterMap_cons, charged, List.map_cons, List.nodup_cons] at distinct
  intro same
  refine distinct.1 (same ▸ List.mem_map_of_mem (List.mem_filterMap.mpr ⟨other, ?_, charged'⟩))
  exact member

end Bearers

/-! ## Work that is left alone -/

/-- Whether a piece of work withdraws the completion that waits: another one is admitted, or the session
shuts down. -/
def Work.supersedes (s : Session) : Work → Prop
  | handle _ .completion message => ∃ params document,
      CompletionParams.codec.read (givenParams message) = .ok params ∧ s.admitted? params = some document
  | handle _ .shutdown _ => True
  | _ => False

/-- Completions that wait to start are left where they are. -/
structure Retained (s t : Session) : Prop where
  ready : ∀ job ∈ s.desk.agenda.ready, job.work.awaited? ≠ none → job ∈ t.desk.agenda.ready
  timers : ∀ timer ∈ s.desk.agenda.timers, timer.job.work.awaited? ≠ none → timer ∈ t.desk.agenda.timers

section Retention

variable {hand : List (Job Work)} {s t u : Session} {ticket : Nat} {work next : Work}

theorem Retained.refl (s : Session) : Retained s s :=
  ⟨fun _ member _ => member, fun _ member _ => member⟩

theorem Carried.retained (carried : Carried s t) : Retained s t := ⟨carried.kept, carried.set⟩

theorem Retained.of_agenda (before : Retained s t) (agenda : u.desk.agenda = t.desk.agenda) : Retained s u :=
  ⟨agenda ▸ before.ready, agenda ▸ before.timers⟩

theorem Retained.enqueue (before : Retained s t) : Retained s (t.enqueue ticket next) :=
  ⟨fun job member awaited => List.mem_append_left _ (before.ready job member awaited), before.timers⟩

theorem Retained.spawn (before : Retained s t) : Retained s (t.spawn next).1 :=
  ⟨fun job member awaited => List.mem_append_left _ (before.ready job member awaited), before.timers⟩

theorem Retained.waitUntil (before : Retained s t) (due : Instant) :
    Retained s (t.waitUntil due ticket next) := by
  have lined : Retained s (t.enqueue ticket next) := before.enqueue
  unfold Session.waitUntil Session.mapAgenda Agenda.waitUntil
  dsimp only
  split
  · exact lined
  · refine ⟨before.ready, fun timer member awaited => ?_⟩
    exact Agenda.mem_insertTimer.mpr (.inr (before.timers timer member awaited))

/-- Work that supersedes nothing leaves completions that wait alone. -/
theorem Effect.retained (effect : Effect hand s ticket work t) (sound : Sound hand s)
    (harmless : ¬work.supersedes s) : Retained s t := by
  cases effect with
  | silent _ does => exact (does.carried sound).retained.of_agenda rfl
  | @answers _ _ _ mid _ m _ _ does _ _ after =>
    obtain ⟨sink, sent⟩ := send_eq mid m
    have soundly : Sound hand (mid.send m) := by
      rw [sent]
      exact (does.keeps sound).1.of_desk rfl rfl
    have told : Carried mid (mid.send m) := .of_agenda (by rw [sent])
    exact ((does.carried sound).trans (told.trans (after.carried soundly))).retained.of_agenda rfl
  | @goesOn _ mid _ _ does _ _ _ placed =>
    have before := (does.carried sound).retained
    cases placed with
    | lined => exact before.enqueue
    | spawned => exact before.spawn
    | waits due => exact before.waitUntil due
  | @delays _ message params document own read admitted =>
    refine absurd ?_ harmless
    rw [own]
    exact ⟨params, document, read, admitted⟩
  | shutsDown own =>
    refine absurd ?_ harmless
    rw [own]
    exact trivial
  | clears _ does => exact (does.carried sound).retained
  | ticks _ does => exact (does.carried sound).retained.waitUntil _

theorem turn_retained {job : Job Work} {rest : List (Job Work)} (sound : Sound [] s)
    (ready : s.desk.agenda.ready = job :: rest) (harmless : ¬job.work.supersedes s) :
    Retained (s.taken rest) (perform job (s.taken rest)) := by
  obtain ⟨ticket, work⟩ := job
  rcases work.delay_or with ⟨key, span, action, rfl⟩ | starts
  · exact (Retained.refl _).waitUntil _
  · have same : ¬work.supersedes (s.begun ⟨ticket, work⟩ rest) := by
      cases work with
      | handle number handler message => exact harmless
      | _ => exact id
    have begun : (s.begun ⟨ticket, work⟩ rest).desk.agenda = (s.taken rest).desk.agenda := by
      cases work <;> rfl
    have kept := (perform_effect sound ready starts).retained (sound.begun ready starts) same
    exact ⟨begun ▸ kept.ready, begun ▸ kept.timers⟩

end Retention

/-! ## Handlers that are done with -/

section Finished

variable {hand : List (Job Work)} {s t u : Session} {ticket : Nat} {work : Work}

/-- No handler is started, and none comes to life again. -/
structure Subsiding (s t : Session) : Prop where
  unfinished : t.unfinished ⊆ s.unfinished
  length : t.invocations.length = s.invocations.length

theorem Subsiding.of_invocations (same : t.invocations = s.invocations) : Subsiding s t := by
  constructor
  · rw [Session.unfinished, same]
    exact List.Subset.refl _
  · rw [same]

theorem Subsiding.trans (first : Subsiding s t) (second : Subsiding t u) : Subsiding s u :=
  ⟨List.Subset.trans second.unfinished first.unfinished, second.length.trans first.length⟩

theorem Subsiding.congr (subsiding : Subsiding s t) (same : u.invocations = s.invocations) : Subsiding u t :=
  Subsiding.trans (.of_invocations same.symm) subsiding

theorem Subsiding.conclude (s : Session) (number : Nat) (fault : Option Fault) :
    Subsiding s (s.conclude number fault) := by
  constructor
  · rw [unfinished_conclude]
    exact List.filter_subset_self _
  · rw [Session.conclude, List.length_map]

theorem Does.subsiding {arms starts : Nat} {topics : List Topic} (does : Does hand s arms starts topics t)
    (sound : Sound hand s) : Subsiding s t :=
  .of_invocations (does.keeps sound).2.invocations

theorem Subsiding.withdrawn (s : Session) (entry : Entry DelayedAction) : Subsiding s (s.withdrawn entry) := by
  cases callback : entry.callback with
  | clear uri =>
    obtain ⟨sink, same⟩ := withdrawn_clear s callback
    rw [same]
    exact .of_invocations rfl
  | complete job =>
    obtain ⟨sink, same⟩ := withdrawn_complete s callback
    rw [same]
    exact (Subsiding.conclude s job.invocation none).trans (.of_invocations rfl)

theorem Subsiding.foldl_withdrawn (entries : List (Entry DelayedAction)) (s : Session) :
    Subsiding s (entries.foldl Session.withdrawn s) := by
  induction entries generalizing s with
  | nil => exact .of_invocations rfl
  | cons entry rest ih => exact (Subsiding.withdrawn s entry).trans (ih _)

theorem Effect.subsiding (effect : Effect hand s ticket work t) (sound : Sound hand s) : Subsiding s t := by
  cases effect with
  | silent _ does => exact (does.subsiding sound).trans (.conclude _ _ _)
  | @answers _ _ _ mid _ m _ _ does _ _ after =>
    obtain ⟨sink, sent⟩ := send_eq mid m
    have soundly : Sound hand (mid.send m) := by
      rw [sent]
      exact (does.keeps sound).1.of_desk rfl rfl
    have told : Subsiding mid (mid.send m) := .of_invocations (by rw [sent])
    exact (does.subsiding sound).trans (told.trans ((after.subsiding soundly).trans (.conclude _ _ _)))
  | goesOn does _ _ _ placed =>
    exact (does.subsiding sound).trans (.of_invocations placed.charges.2.2)
  | delays _ _ _ =>
    rw [schedule_eq sound]
    exact Subsiding.congr (.foldl_withdrawn _ _) rfl
  | @shutsDown _ message _ =>
    obtain ⟨sink, same⟩ := shutdown_eq s message
    have withdrawals := Subsiding.foldl_withdrawn s.closing.desk.cancelAll.2
      { s.closing with desk := s.closing.desk.cancelAll.1 }
    have all : Subsiding s s.closing.cancelAllPending := withdrawals.congr rfl
    have told : Subsiding s (s.shutdown message) := by
      rw [same]
      exact all.trans (.of_invocations rfl)
    exact told.trans (.conclude _ _ _)
  | clears _ does => exact does.subsiding sound
  | ticks _ does => exact (does.subsiding sound).trans (.of_invocations rfl)

theorem turn_subsiding {job : Job Work} {rest : List (Job Work)} (sound : Sound [] s)
    (ready : s.desk.agenda.ready = job :: rest) : Subsiding s (perform job (s.taken rest)) := by
  obtain ⟨ticket, work⟩ := job
  rcases work.delay_or with ⟨key, span, action, rfl⟩ | starts
  · exact .of_invocations rfl
  · have begun : (s.begun ⟨ticket, work⟩ rest).invocations = s.invocations := by cases work <;> rfl
    exact Subsiding.trans (.of_invocations begun)
      ((perform_effect sound ready starts).subsiding (sound.begun ready starts))

end Finished

end EditorAssist.Session

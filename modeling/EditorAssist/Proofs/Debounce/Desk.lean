import EditorAssist.Debounce.Desk
import EditorAssist.Proofs.Time.Agenda
import Mathlib.Data.List.Nodup

/-!
# Desks that are in step with their agendas

The pending table and the jobs on the agenda are two views of one state: an entry stands in the table
exactly as long as the job of its ticket still can be withdrawn. Every operation keeps them in step, also
while one job is in hand, that is, taken from the agenda and being done.
-/

namespace EditorAssist.Debounce

open EditorAssist.Time

variable {ω γ : Type} {slot : ω → Option (String × γ)}

/-- The table and the jobs tell the same. The `slot` of work is the key and the callback of its entry, as
long as it can be withdrawn; `hand` holds the jobs that are being done. -/
structure Coherent (slot : ω → Option (String × γ)) (hand : List (Job ω)) (desk : Desk ω γ) : Prop where
  distinct : ((hand ++ desk.agenda.jobs).map (·.ticket)).Nodup
  issued : ∀ job ∈ hand ++ desk.agenda.jobs, job.ticket < desk.agenda.issued
  keys : (desk.pending.map (·.key)).Nodup
  entries : ∀ entry, entry ∈ desk.pending ↔ ∃ job ∈ hand ++ desk.agenda.jobs,
    job.ticket = entry.ticket ∧ slot job.work = some (entry.key, entry.callback)

theorem Coherent.empty : Coherent slot [] (Desk.empty : Desk ω γ) := by
  refine ⟨?_, ?_, ?_, ?_⟩ <;> simp [Desk.empty, Agenda.empty, Agenda.jobs]

namespace Coherent

variable {desk : Desk ω γ} {hand : List (Job ω)} {job : Job ω} {key : String}

section Entries

/-- Tickets tell jobs apart. -/
theorem eq_of_ticket (coherent : Coherent slot hand desk) {first second : Job ω}
    (here : first ∈ hand ++ desk.agenda.jobs) (there : second ∈ hand ++ desk.agenda.jobs)
    (same : first.ticket = second.ticket) : first = second :=
  List.inj_on_of_nodup_map coherent.distinct here there same

theorem eq_of_key (coherent : Coherent slot hand desk) {first second : Entry γ}
    (here : first ∈ desk.pending) (there : second ∈ desk.pending) (same : first.key = second.key) :
    first = second :=
  List.inj_on_of_nodup_map coherent.keys here there same

/-- A job that can be withdrawn has its entry. -/
theorem entry_of_slot (coherent : Coherent slot hand desk) (member : job ∈ hand ++ desk.agenda.jobs)
    {callback : γ} (withdrawable : slot job.work = some (key, callback)) :
    ⟨key, job.ticket, callback⟩ ∈ desk.pending :=
  (coherent.entries _).mpr ⟨job, member, rfl, withdrawable⟩

/-- What a ticket of an entry belongs to. -/
theorem slot_of_ticket (coherent : Coherent slot hand desk) {entry : Entry γ}
    (pending : entry ∈ desk.pending) (member : job ∈ hand ++ desk.agenda.jobs)
    (same : job.ticket = entry.ticket) : slot job.work = some (entry.key, entry.callback) := by
  obtain ⟨other, there, ticket, withdrawable⟩ := (coherent.entries entry).mp pending
  rw [coherent.eq_of_ticket member there (same.trans ticket.symm)]
  exact withdrawable

theorem entry_issued (coherent : Coherent slot hand desk) {entry : Entry γ}
    (pending : entry ∈ desk.pending) : entry.ticket < desk.agenda.issued := by
  obtain ⟨other, there, ticket, _⟩ := (coherent.entries entry).mp pending
  rw [← ticket]
  exact coherent.issued other there

/-- Two entries of one ticket are one entry. -/
theorem entry_of_ticket (coherent : Coherent slot hand desk) {first second : Entry γ}
    (here : first ∈ desk.pending) (there : second ∈ desk.pending) (same : first.ticket = second.ticket) :
    first = second := by
  obtain ⟨job, member, ticket, withdrawable⟩ := (coherent.entries first).mp here
  have other := coherent.slot_of_ticket there member (ticket.trans same)
  rw [withdrawable, Option.some.injEq, Prod.mk.injEq] at other
  exact coherent.eq_of_key here there other.1

end Entries

section Moves

/-- Moving jobs between the hand, what is ready and what waits changes nothing. -/
theorem congr {other : Desk ω γ} {hand' : List (Job ω)} (coherent : Coherent slot hand desk)
    (jobs : (hand' ++ other.agenda.jobs).Perm (hand ++ desk.agenda.jobs))
    (issued : other.agenda.issued = desk.agenda.issued) (pending : other.pending = desk.pending) :
    Coherent slot hand' other := by
  refine ⟨?_, ?_, ?_, ?_⟩
  · exact (jobs.map _).nodup_iff.mpr coherent.distinct
  · intro job member
    rw [issued]
    exact coherent.issued job (jobs.mem_iff.mp member)
  · rw [pending]
    exact coherent.keys
  · intro entry
    simp only [pending, jobs.mem_iff]
    exact coherent.entries entry

/-- The first job that is ready is taken in hand. -/
theorem take (coherent : Coherent slot [] desk) {rest : List (Job ω)}
    (ready : desk.agenda.ready = job :: rest) :
    Coherent slot [job] { desk with agenda := desk.agenda.behind rest } :=
  coherent.congr (by rw [List.nil_append, Agenda.jobs_of_ready ready]; exact .refl _) rfl rfl

theorem ring (coherent : Coherent slot hand desk) {timer : Timer ω} {rest : List (Timer ω)}
    (soonest : desk.agenda.timers = timer :: rest) :
    Coherent slot hand { desk with agenda := desk.agenda.ring timer rest } :=
  coherent.congr (by rw [Agenda.jobs_ring soonest]) rfl rfl

theorem setClock (coherent : Coherent slot hand desk) (instant : Instant) :
    Coherent slot hand { desk with agenda := { desk.agenda with now := instant } } :=
  coherent.congr (.refl _) rfl rfl

/-- Work in hand may become other work, as far as it stays as withdrawable as it was. -/
theorem become {ticket : Nat} {work next : ω} (coherent : Coherent slot (⟨ticket, work⟩ :: hand) desk)
    (same : slot next = slot work) : Coherent slot (⟨ticket, next⟩ :: hand) desk := by
  refine ⟨coherent.distinct, ?_, coherent.keys, ?_⟩
  · intro job member
    rcases List.mem_cons.mp member with rfl | other
    · exact coherent.issued ⟨ticket, work⟩ (List.mem_cons_self ..)
    · exact coherent.issued job (List.mem_cons_of_mem _ other)
  · intro entry
    rw [coherent.entries entry]
    simp [same]

theorem wait (coherent : Coherent slot (job :: hand) desk) (due : Instant) :
    Coherent slot hand { desk with agenda := desk.agenda.waitUntil due job } :=
  coherent.congr
    (((Agenda.jobs_waitUntil due job).append_left hand).trans List.perm_middle)
    (Agenda.issued_waitUntil due job) rfl

theorem enqueue (coherent : Coherent slot (job :: hand) desk) :
    Coherent slot hand { desk with agenda := desk.agenda.enqueue job } :=
  coherent.congr (((Agenda.jobs_enqueue job).append_left hand).trans List.perm_middle) rfl rfl

/-- Work that cannot be withdrawn may be over. -/
theorem drop (coherent : Coherent slot (job :: hand) desk) (free : slot job.work = none) :
    Coherent slot hand desk := by
  refine ⟨?_, ?_, coherent.keys, ?_⟩
  · exact (List.nodup_cons.mp coherent.distinct).2
  · exact fun other member => coherent.issued other (List.mem_cons_of_mem _ member)
  · intro entry
    rw [coherent.entries entry]
    constructor
    · rintro ⟨other, member, ticket, withdrawable⟩
      rcases List.mem_cons.mp member with rfl | there
      · rw [free] at withdrawable
        cases withdrawable
      · exact ⟨other, there, ticket, withdrawable⟩
    · rintro ⟨other, member, facts⟩
      exact ⟨other, List.mem_cons_of_mem _ member, facts⟩

/-- New work that cannot be withdrawn. -/
theorem spawn (coherent : Coherent slot hand desk) {work : ω} (plain : slot work = none) :
    Coherent slot hand { desk with agenda := (desk.agenda.spawn work).1 } := by
  have jobs : (hand ++ (desk.agenda.spawn work).1.jobs).Perm
      (⟨desk.agenda.issued, work⟩ :: (hand ++ desk.agenda.jobs)) :=
    ((Agenda.jobs_spawn work).append_left hand).trans List.perm_middle
  refine ⟨?_, ?_, coherent.keys, ?_⟩
  · rw [(jobs.map _).nodup_iff, List.map_cons, List.nodup_cons]
    refine ⟨fun used => ?_, coherent.distinct⟩
    obtain ⟨other, member, ticket⟩ := List.mem_map.mp used
    exact absurd (coherent.issued other member) (by rw [ticket]; exact Nat.lt_irrefl _)
  · intro other member
    show other.ticket < desk.agenda.issued + 1
    rcases List.mem_cons.mp (jobs.mem_iff.mp member) with rfl | old
    · exact Nat.lt_succ_self _
    · exact Nat.lt_succ_of_lt (coherent.issued other old)
  · intro entry
    rw [coherent.entries entry]
    constructor
    · rintro ⟨other, member, facts⟩
      exact ⟨other, jobs.mem_iff.mpr (List.mem_cons_of_mem _ member), facts⟩
    · rintro ⟨other, member, ticket, withdrawable⟩
      rcases List.mem_cons.mp (jobs.mem_iff.mp member) with rfl | old
      · rw [plain] at withdrawable
        cases withdrawable
      · exact ⟨other, old, ticket, withdrawable⟩

/-- Jobs that cannot be withdrawn through the table may be stopped by their tickets. -/
theorem stop (coherent : Coherent slot hand desk) {ticket : Nat}
    (plain : ∀ job ∈ desk.agenda.jobs, job.ticket = ticket → slot job.work = none) :
    Coherent slot hand { desk with agenda := desk.agenda.cancel ticket } := by
  have fewer : (hand ++ (desk.agenda.cancel ticket).jobs).Sublist (hand ++ desk.agenda.jobs) := by
    rw [Agenda.jobs_cancel]
    exact List.Sublist.append_left List.filter_sublist hand
  refine ⟨coherent.distinct.sublist (fewer.map _), ?_, coherent.keys, ?_⟩
  · exact fun job member => coherent.issued job (fewer.subset member)
  · intro entry
    rw [coherent.entries entry]
    constructor
    · rintro ⟨job, member, same, withdrawable⟩
      refine ⟨job, ?_, same, withdrawable⟩
      rw [Agenda.jobs_cancel, List.mem_append, List.mem_filter]
      refine (List.mem_append.mp member).imp_right fun there => ⟨there, ?_⟩
      rw [bne_iff_ne]
      intro stopped
      rw [plain job there stopped] at withdrawable
      cases withdrawable
    · rintro ⟨job, member, facts⟩
      exact ⟨job, fewer.subset member, facts⟩

/-- Once its action has started, a job in hand cannot be withdrawn any more. -/
theorem release {ticket : Nat} {work next : ω} {callback : γ}
    (coherent : Coherent slot (⟨ticket, work⟩ :: hand) desk)
    (withdrawable : slot work = some (key, callback)) (plain : slot next = none) :
    Coherent slot (⟨ticket, next⟩ :: hand) (desk.release key ticket) := by
  have member : ⟨ticket, work⟩ ∈ ⟨ticket, work⟩ :: hand ++ desk.agenda.jobs := List.mem_cons_self ..
  refine ⟨coherent.distinct, ?_, ?_, ?_⟩
  · intro job here
    rcases List.mem_cons.mp here with rfl | other
    · exact coherent.issued ⟨ticket, work⟩ member
    · exact coherent.issued job (List.mem_cons_of_mem _ other)
  · exact coherent.keys.sublist (List.filter_sublist.map _)
  · intro entry
    have kept : entry ∈ (desk.release key ticket).pending ↔
        entry ∈ desk.pending ∧ entry.ticket ≠ ticket := by
      simp only [Desk.release, Pending.release, List.mem_filter]
      refine and_congr_right fun here => ?_
      rw [Bool.not_eq_true', Bool.and_eq_false_iff, beq_eq_false_iff_ne, beq_eq_false_iff_ne]
      refine ⟨fun differs same => ?_, .inr⟩
      have own := coherent.slot_of_ticket here member same.symm
      rw [withdrawable, Option.some.injEq, Prod.mk.injEq] at own
      exact differs.elim (· own.1.symm) (· same)
    rw [kept, coherent.entries entry]
    constructor
    · rintro ⟨⟨job, here, same, facts⟩, differs⟩
      rcases List.mem_cons.mp here with rfl | other
      · exact absurd same.symm differs
      · exact ⟨job, List.mem_cons_of_mem _ other, same, facts⟩
    · rintro ⟨job, here, same, facts⟩
      rcases List.mem_cons.mp here with rfl | other
      · rw [plain] at facts
        cases facts
      · refine ⟨⟨job, List.mem_cons_of_mem _ other, same, facts⟩, fun own => ?_⟩
        have apart := (List.nodup_cons.mp coherent.distinct).1
        exact apart (List.mem_map.mpr ⟨job, other, same.trans own⟩)

end Moves

end Coherent

/-! ## Withdrawing and scheduling -/

section Tables

variable {pending : Pending γ} {key : String}

theorem Pending.find?_eq_some {entry : Entry γ} (found : pending.find? key = some entry) :
    entry ∈ pending ∧ entry.key = key := by
  refine ⟨List.mem_of_find?_eq_some found, ?_⟩
  simpa using List.find?_some found

theorem Pending.find?_eq_none : pending.find? key = none ↔ ∀ entry ∈ pending, entry.key ≠ key := by
  simp [Pending.find?, List.find?_eq_none]

theorem Pending.mem_remove {entry : Entry γ} :
    entry ∈ pending.remove key ↔ entry ∈ pending ∧ entry.key ≠ key := by
  simp [Pending.remove, List.mem_filter]

theorem Pending.remove_of_find?_eq_none (missing : pending.find? key = none) :
    pending.remove key = pending := by
  refine List.filter_eq_self.mpr fun entry member => ?_
  simpa using Pending.find?_eq_none.mp missing entry member

theorem Pending.holds_iff : pending.holds key = true ↔ ∃ entry ∈ pending, entry.key = key := by
  simp [Pending.holds]

end Tables

section Operations

variable {desk : Desk ω γ} {hand : List (Job ω)} {key : String}

/-- New withdrawable work under a key. -/
def Desk.add (desk : Desk ω γ) (key : String) (work : ω) (callback : γ) : Desk ω γ :=
  ⟨(desk.agenda.spawn work).1, desk.pending ++ [⟨key, desk.agenda.issued, callback⟩]⟩

/-- Scheduling withdraws what is pending for the key and then adds the new action. -/
theorem Coherent.schedule_eq (coherent : Coherent slot hand desk) (work : ω) (callback : γ) :
    desk.schedule key work callback =
      ((desk.cancel key).1.add key work callback, (desk.cancel key).2) := by
  unfold Desk.schedule Desk.cancel
  cases found : desk.pending.find? key with
  | none => simp only [Desk.add, Agenda.spawn, Pending.remove_of_find?_eq_none found]
  | some entry =>
    have issued := coherent.entry_issued (Pending.find?_eq_some found).1
    have other : (desk.agenda.issued != entry.ticket) = true := bne_iff_ne.mpr (by omega)
    simp only [Desk.withdraw, Desk.add, Agenda.spawn, Agenda.cancel, List.filter_append,
      List.filter_cons, other, ↓reduceIte, List.filter_nil]

/-- Cancelling a key does nothing, or it withdraws the entry of the key. -/
theorem Desk.cancel_cases (desk : Desk ω γ) (key : String) :
    desk.pending.find? key = none ∧ desk.cancel key = (desk, none) ∨
      ∃ entry ∈ desk.pending, entry.key = key ∧ desk.cancel key =
        (⟨desk.agenda.cancel entry.ticket, desk.pending.remove key⟩, some entry) := by
  unfold Desk.cancel
  cases found : desk.pending.find? key with
  | none => exact .inl ⟨rfl, rfl⟩
  | some entry =>
    obtain ⟨member, own⟩ := Pending.find?_eq_some found
    exact .inr ⟨entry, member, own, rfl⟩

theorem Desk.issued_cancel (desk : Desk ω γ) (key : String) :
    (desk.cancel key).1.agenda.issued = desk.agenda.issued := by
  unfold Desk.cancel
  split <;> rfl

theorem Desk.now_cancel (desk : Desk ω γ) (key : String) :
    (desk.cancel key).1.agenda.now = desk.agenda.now := by
  unfold Desk.cancel
  split <;> rfl

theorem Desk.pending_cancel (desk : Desk ω γ) (key : String) :
    (desk.cancel key).1.pending = desk.pending.remove key := by
  unfold Desk.cancel
  split
  · next missing => exact (Pending.remove_of_find?_eq_none missing).symm
  · rfl

/-- Withdrawing a list of entries filters their jobs out. -/
theorem agenda_foldl_withdraw (entries : Pending γ) (desk : Desk ω γ) :
    (entries.foldl Desk.withdraw desk).agenda =
      { desk.agenda with
        ready := desk.agenda.ready.filter fun job => entries.all (·.ticket != job.ticket)
        timers := desk.agenda.timers.filter fun timer => entries.all (·.ticket != timer.job.ticket) } := by
  induction entries generalizing desk with
  | nil => simp
  | cons entry rest ih =>
    rw [List.foldl_cons, ih]
    simp only [Desk.withdraw, Agenda.cancel, List.filter_filter, List.all_cons]
    congr 2
    · funext job
      rw [Bool.and_comm, bne_comm]
    · funext timer
      rw [Bool.and_comm, bne_comm]

theorem pending_foldl_withdraw (entries : Pending γ) (desk : Desk ω γ) :
    (entries.foldl Desk.withdraw desk).pending = desk.pending := by
  induction entries generalizing desk with
  | nil => rfl
  | cons entry rest ih => exact ih (desk.withdraw entry)

/-- Entries that leave the table together with their jobs. -/
theorem Coherent.withdraw (coherent : Coherent slot hand desk)
    (plain : ∀ job ∈ hand, slot job.work = none) {gone kept : Pending γ}
    (members : ∀ entry, entry ∈ kept ↔ entry ∈ desk.pending ∧ entry ∉ gone)
    (table : kept.Sublist desk.pending) (inside : ∀ entry ∈ gone, entry ∈ desk.pending) :
    Coherent slot hand (gone.foldl Desk.withdraw { desk with pending := kept }) := by
  have jobs : (gone.foldl Desk.withdraw { desk with pending := kept }).agenda.jobs =
      desk.agenda.jobs.filter fun job => gone.all (·.ticket != job.ticket) := by
    rw [agenda_foldl_withdraw]
    simp only [Agenda.jobs, List.filter_append, List.filter_map]
    rfl
  have issued : (gone.foldl Desk.withdraw { desk with pending := kept }).agenda.issued =
      desk.agenda.issued := by rw [agenda_foldl_withdraw]
  have fewer : (hand ++ (gone.foldl Desk.withdraw { desk with pending := kept }).agenda.jobs).Sublist
      (hand ++ desk.agenda.jobs) := by
    rw [jobs]
    exact List.Sublist.append_left List.filter_sublist hand
  refine ⟨coherent.distinct.sublist (fewer.map _), ?_, ?_, ?_⟩
  · rw [issued]
    exact fun job member => coherent.issued job (fewer.subset member)
  · rw [pending_foldl_withdraw]
    exact coherent.keys.sublist (table.map _)
  · intro entry
    rw [pending_foldl_withdraw, members, coherent.entries entry]
    constructor
    · rintro ⟨⟨job, member, same, withdrawable⟩, stays⟩
      refine ⟨job, ?_, same, withdrawable⟩
      rw [jobs, List.mem_append, List.mem_filter]
      refine (List.mem_append.mp member).imp_right fun there => ⟨there, ?_⟩
      rw [List.all_eq_true]
      intro other withdrawn
      rw [bne_iff_ne]
      intro ticket
      have pending := coherent.entry_of_slot member withdrawable
      rw [coherent.entry_of_ticket (inside other withdrawn) pending ticket, same] at withdrawn
      exact stays withdrawn
    · rintro ⟨job, member, same, withdrawable⟩
      refine ⟨⟨job, fewer.subset member, same, withdrawable⟩, fun withdrawn => ?_⟩
      rcases List.mem_append.mp member with held | there
      · rw [plain job held] at withdrawable
        cases withdrawable
      · rw [jobs, List.mem_filter, List.all_eq_true] at there
        have := there.2 entry withdrawn
        rw [bne_iff_ne] at this
        exact this same.symm

theorem Coherent.cancel (coherent : Coherent slot hand desk)
    (plain : ∀ job ∈ hand, slot job.work = none) : Coherent slot hand (desk.cancel key).1 := by
  unfold Desk.cancel
  split
  · exact coherent
  · next entry found =>
    obtain ⟨member, own⟩ := Pending.find?_eq_some found
    show Coherent slot hand
      ([entry].foldl Desk.withdraw { desk with pending := desk.pending.remove key })
    refine coherent.withdraw plain ?_ List.filter_sublist ?_
    · intro other
      rw [Pending.mem_remove, List.mem_singleton]
      refine and_congr_right fun here => not_congr ⟨fun same => ?_, fun same => same ▸ own⟩
      exact coherent.eq_of_key here member (same.trans own.symm)
    · intro other here
      rw [List.mem_singleton.mp here]
      exact member

theorem Coherent.cancelAll (coherent : Coherent slot hand desk)
    (plain : ∀ job ∈ hand, slot job.work = none) : Coherent slot hand desk.cancelAll.1 := by
  refine coherent.withdraw plain ?_ (List.nil_sublist _) (fun _ member => member)
  intro entry
  simp

theorem Coherent.add (coherent : Coherent slot hand desk) {work : ω} {callback : γ}
    (withdrawable : slot work = some (key, callback)) (free : ∀ entry ∈ desk.pending, entry.key ≠ key) :
    Coherent slot hand (desk.add key work callback) := by
  have jobs : (hand ++ (desk.agenda.spawn work).1.jobs).Perm
      (⟨desk.agenda.issued, work⟩ :: (hand ++ desk.agenda.jobs)) :=
    ((Agenda.jobs_spawn work).append_left hand).trans List.perm_middle
  refine ⟨?_, ?_, ?_, ?_⟩
  · show ((hand ++ (desk.agenda.spawn work).1.jobs).map (·.ticket)).Nodup
    rw [(jobs.map _).nodup_iff, List.map_cons, List.nodup_cons]
    refine ⟨fun used => ?_, coherent.distinct⟩
    obtain ⟨other, member, ticket⟩ := List.mem_map.mp used
    exact absurd (coherent.issued other member) (by rw [ticket]; exact Nat.lt_irrefl _)
  · intro other member
    show other.ticket < desk.agenda.issued + 1
    rcases List.mem_cons.mp (jobs.mem_iff.mp member) with rfl | old
    · exact Nat.lt_succ_self _
    · exact Nat.lt_succ_of_lt (coherent.issued other old)
  · simp only [Desk.add, List.map_append, List.map_cons, List.map_nil]
    refine List.nodup_append.mpr ⟨coherent.keys, List.nodup_singleton _, ?_⟩
    intro one here other there
    obtain ⟨entry, member, rfl⟩ := List.mem_map.mp here
    rw [List.mem_singleton.mp there]
    exact free entry member
  · intro entry
    simp only [Desk.add, List.mem_append, List.mem_singleton]
    rw [coherent.entries entry]
    constructor
    · rintro (⟨job, member, facts⟩ | rfl)
      · exact ⟨job, List.mem_append.mp (jobs.mem_iff.mpr (List.mem_cons_of_mem _ member)), facts⟩
      · exact ⟨_, List.mem_append.mp (jobs.mem_iff.mpr (List.mem_cons_self ..)), rfl, withdrawable⟩
    · rintro ⟨job, member, same, facts⟩
      rcases List.mem_cons.mp (jobs.mem_iff.mp (List.mem_append.mpr member)) with rfl | old
      · right
        rw [withdrawable, Option.some.injEq, Prod.mk.injEq] at facts
        obtain ⟨rfl, rfl⟩ := facts
        cases entry
        cases same
        rfl
      · exact .inl ⟨job, old, same, facts⟩

theorem Coherent.schedule (coherent : Coherent slot hand desk)
    (plain : ∀ job ∈ hand, slot job.work = none) {work : ω} {callback : γ}
    (withdrawable : slot work = some (key, callback)) :
    Coherent slot hand (desk.schedule key work callback).1 := by
  rw [coherent.schedule_eq]
  refine (coherent.cancel plain).add withdrawable ?_
  rw [Desk.pending_cancel]
  exact fun entry member => (Pending.mem_remove.mp member).2

end Operations

end EditorAssist.Debounce

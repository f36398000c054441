import EditorAssist.Proofs.Debounce.Trial

/-!
# Calls on a trial

What scheduling and withdrawing do to a trial: its desk is that of the bare operation, and all that is said
in the call is that the entries which leave the table were withdrawn now. Whether their callbacks fail
makes no difference.
-/

namespace EditorAssist.Debounce

open EditorAssist.Number EditorAssist.Time

namespace Trial

variable {t : Trial} {key : String}

/-! ## Callbacks -/

/-- What is told about the action of a name when an entry is withdrawn. -/
def withdrawal (now : Int) (name : String) (entry : Entry Callback) : List Outcome :=
  if entry.callback.name = name ∧ entry.callback.notice ≠ .nobody then [.withdrawn now] else []

theorem withdrawal_other {now : Int} {name : String} {entry : Entry Callback}
    (differs : entry.callback.name ≠ name) : withdrawal now name entry = [] := by
  simp [withdrawal, differs]

theorem tell_desk (t : Trial) (entry : Entry Callback) : (t.tell entry).desk = t.desk := by
  unfold tell
  split <;> rfl

theorem tell_outcomes (t : Trial) (entry : Entry Callback) (name : String) :
    (t.tell entry).outcomes name = t.outcomes name ++ withdrawal t.now name entry := by
  have recorded : (t.record (.withdrawn entry.callback.name)).outcomes name =
      t.outcomes name ++ if entry.callback.name = name then [.withdrawn t.now] else [] := by
    rw [outcomes, record, told_append]
    refine congrArg (_ ++ ·) ?_
    by_cases same : entry.callback.name = name
    · simp [told, Occurrence.about?, same, now]
    · simp [told, Occurrence.about?, same]
  unfold tell withdrawal
  split
  · next silent => simp [silent]
  · next loud =>
    rw [recorded]
    simp [loud]
  · next faulty =>
    show (t.record (.withdrawn entry.callback.name)).outcomes name = _
    rw [recorded]
    simp [faulty]

theorem foldl_tell (entries : Pending Callback) (t : Trial) :
    (entries.foldl tell t).desk = t.desk ∧
      ∀ name, (entries.foldl tell t).outcomes name =
        t.outcomes name ++ entries.flatMap (withdrawal t.now name) := by
  induction entries generalizing t with
  | nil => exact ⟨rfl, fun name => (List.append_nil _).symm⟩
  | cons entry rest ih =>
    obtain ⟨desk, said⟩ := ih (t.tell entry)
    refine ⟨desk.trans (tell_desk t entry), fun name => ?_⟩
    have now : (t.tell entry).now = t.now := congrArg (·.agenda.now.nanos) (tell_desk t entry)
    rw [List.foldl_cons, said, tell_outcomes, now, List.flatMap_cons, List.append_assoc]

/-! ## The three calls -/

theorem cancel_desk (t : Trial) (key : String) : (t.cancel key).1.desk = (t.desk.cancel key).1 := by
  unfold cancel
  rcases t.desk.cancel key with ⟨desk, none | entry⟩
  · rfl
  · exact tell_desk _ entry

theorem cancel_outcomes (t : Trial) (key name : String) :
    (t.cancel key).1.outcomes name =
      t.outcomes name ++ (t.desk.pending.find? key).toList.flatMap (withdrawal t.now name) := by
  unfold cancel Desk.cancel
  cases t.desk.pending.find? key with
  | none => exact (List.append_nil _).symm
  | some entry =>
    simp only [tell_outcomes, Option.toList_some, List.flatMap_singleton]
    rfl

/-- A cancellation finds what is pending. -/
theorem cancel_found (t : Trial) (key : String) : (t.cancel key).2 = t.isPending key := by
  rw [Bool.eq_iff_iff]
  show _ ↔ t.desk.pending.holds key = true
  rw [Pending.holds_iff]
  unfold cancel Desk.cancel
  cases found : t.desk.pending.find? key with
  | none => simpa using Pending.find?_eq_none.mp found
  | some entry =>
    obtain ⟨member, own⟩ := Pending.find?_eq_some found
    simpa using ⟨entry, member, own⟩

theorem cancelAll_desk (t : Trial) : t.cancelAll.desk = t.desk.cancelAll.1 :=
  (foldl_tell _ _).1

theorem cancelAll_outcomes (t : Trial) (name : String) :
    t.cancelAll.outcomes name = t.outcomes name ++ t.desk.pending.flatMap (withdrawal t.now name) := by
  have now : ({ t with desk := t.desk.cancelAll.1 } : Trial).now = t.now := by
    show (t.desk.pending.foldl Desk.withdraw { t.desk with pending := [] }).agenda.now.nanos = _
    rw [agenda_foldl_withdraw]
    rfl
  have said := (foldl_tell t.desk.pending { t with desk := t.desk.cancelAll.1 }).2 name
  rw [now] at said
  exact said

/-- Scheduling withdraws what is pending for the key and then adds the new action. -/
theorem schedule_desk (sound : t.Sound) (script : Script) :
    (t.schedule script).desk = (t.cancel script.key).1.desk.add script.key (.wait script)
      ⟨script.name, script.notice⟩ := by
  rw [cancel_desk]
  unfold schedule
  rw [sound.coherent.schedule_eq]
  rcases t.desk.cancel script.key with ⟨desk, none | entry⟩
  · rfl
  · exact tell_desk _ entry

theorem schedule_outcomes (sound : t.Sound) (script : Script) (name : String) :
    (t.schedule script).outcomes name = (t.cancel script.key).1.outcomes name := by
  unfold schedule cancel
  rw [sound.coherent.schedule_eq]
  rcases t.desk.cancel script.key with ⟨desk, none | entry⟩
  · rfl
  · simp only [tell_outcomes]
    rfl

/-! ## Soundness -/

/-- Callbacks are named like the actions that they belong to. -/
theorem Sound.name_of_entry (sound : t.Sound) {entry : Entry Callback}
    (pending : entry ∈ t.desk.pending) : entry.callback.name = toString entry.ticket := by
  obtain ⟨⟨ticket, work⟩, member, same, withdrawable⟩ := (sound.coherent.entries entry).mp pending
  have named := (sound.plain _ member).2
  rw [← same, ← named]
  cases work with
  | finish script => cases withdrawable
  | wait script =>
    simp only [Stage.slot, Option.some.injEq, Prod.mk.injEq] at withdrawable
    rw [← withdrawable.2]
    rfl
  | run script =>
    simp only [Stage.slot, Option.some.injEq, Prod.mk.injEq] at withdrawable
    rw [← withdrawable.2]
    rfl

/-- Nothing is told about actions that have no entry among those that are withdrawn. -/
theorem Sound.withdrawals_other (sound : t.Sound) {entries : Pending Callback} {number : Nat} (now : Int)
    (inside : ∀ entry ∈ entries, entry ∈ t.desk.pending) (other : ∀ entry ∈ entries, entry.ticket ≠ number) :
    entries.flatMap (withdrawal now (toString number)) = [] := by
  refine List.flatMap_eq_nil_iff.mpr fun entry member => withdrawal_other fun same => ?_
  rw [sound.name_of_entry (inside entry member)] at same
  exact other entry member (toString_injective same)

/-- What a withdrawal does: the entries that are `gone` leave the table with their jobs, those that are
`kept` stay, and this is told. -/
structure Withdrew (gone kept : Pending Callback) (t after : Trial) : Prop where
  desk : after.desk = gone.foldl Desk.withdraw { t.desk with pending := kept }
  told : ∀ name, after.outcomes name = t.outcomes name ++ gone.flatMap (withdrawal t.now name)
  members : ∀ entry, entry ∈ kept ↔ entry ∈ t.desk.pending ∧ entry ∉ gone
  table : kept.Sublist t.desk.pending
  inside : ∀ entry ∈ gone, entry ∈ t.desk.pending

theorem Sound.cancel_withdrew (sound : t.Sound) (key : String) :
    Withdrew (t.desk.pending.find? key).toList (t.desk.pending.remove key) t (t.cancel key).1 := by
  have desk : (t.cancel key).1.desk = (t.desk.pending.find? key).toList.foldl Desk.withdraw
      { t.desk with pending := t.desk.pending.remove key } := by
    rw [cancel_desk]
    unfold Desk.cancel
    cases found : t.desk.pending.find? key with
    | none => simp [Pending.remove_of_find?_eq_none found]
    | some entry => rfl
  refine ⟨desk, cancel_outcomes t key, ?_, List.filter_sublist, ?_⟩
  · intro entry
    rw [Pending.mem_remove]
    refine and_congr_right fun here => not_congr ?_
    rw [Option.mem_toList]
    constructor
    · intro own
      cases found : t.desk.pending.find? key with
      | none => exact absurd own (Pending.find?_eq_none.mp found entry here)
      | some other =>
        obtain ⟨there, same⟩ := Pending.find?_eq_some found
        exact congrArg some (sound.coherent.eq_of_key there here (same.trans own.symm))
    · exact fun found => (Pending.find?_eq_some found).2
  · intro entry found
    exact (Pending.find?_eq_some (Option.mem_toList.mp found)).1

theorem cancelAll_withdrew (t : Trial) : Withdrew t.desk.pending [] t t.cancelAll :=
  ⟨cancelAll_desk t, cancelAll_outcomes t, by simp, List.nil_sublist _, fun _ member => member⟩

namespace Withdrew

variable {gone kept : Pending Callback} {after : Trial} {job : Job Stage}

theorem agenda (withdrew : Withdrew gone kept t after) : after.desk.agenda =
    { t.desk.agenda with
      ready := t.desk.agenda.ready.filter fun job => gone.all (·.ticket != job.ticket)
      timers := t.desk.agenda.timers.filter fun timer => gone.all (·.ticket != timer.job.ticket) } := by
  rw [withdrew.desk, agenda_foldl_withdraw]

theorem pending (withdrew : Withdrew gone kept t after) : after.desk.pending = kept := by
  rw [withdrew.desk, pending_foldl_withdraw]

theorem now_eq (withdrew : Withdrew gone kept t after) : after.now = t.now := by
  rw [now, withdrew.agenda]
  rfl

theorem issued_eq (withdrew : Withdrew gone kept t after) :
    after.desk.agenda.issued = t.desk.agenda.issued := by
  rw [withdrew.agenda]

theorem mem_jobs (withdrew : Withdrew gone kept t after) : job ∈ after.desk.agenda.jobs ↔
    job ∈ t.desk.agenda.jobs ∧ ∀ entry ∈ gone, entry.ticket ≠ job.ticket := by
  have jobs : after.desk.agenda.jobs =
      t.desk.agenda.jobs.filter fun job => gone.all (·.ticket != job.ticket) := by
    rw [withdrew.agenda]
    simp only [Agenda.jobs, List.filter_append, List.filter_map]
    rfl
  simp [jobs]

theorem sound (withdrew : Withdrew gone kept t after) (sound : t.Sound) : after.Sound := by
  refine ⟨?_, ?_, ?_, ?_⟩
  · rw [withdrew.desk]
    exact sound.coherent.withdraw (by simp) withdrew.members withdrew.table withdrew.inside
  · rw [withdrew.agenda]
    exact ⟨sound.orderly.sorted.filter _,
      fun timer member => sound.orderly.ahead timer (List.mem_filter.mp member).1⟩
  · exact fun job member => sound.plain job (withdrew.mem_jobs.mp member).1
  · intro number late
    rw [withdrew.issued_eq] at late
    rw [withdrew.told, sound.future number late, List.nil_append]
    refine sound.withdrawals_other _ withdrew.inside fun entry member => ?_
    have := sound.coherent.entry_issued (withdrew.inside entry member)
    omega

end Withdrew

/-- What a newly scheduled action adds. -/
theorem Sound.schedule (sound : t.Sound) {script : Script} (plain : script.Plain)
    (name : script.name = toString t.desk.agenda.issued) : (t.schedule script).Sound := by
  have withdrew := sound.cancel_withdrew script.key
  have cancelled := withdrew.sound sound
  refine ⟨?_, ?_, ?_, ?_⟩
  · rw [schedule_desk sound]
    refine cancelled.coherent.add rfl ?_
    rw [withdrew.pending]
    exact fun entry member => (Pending.mem_remove.mp member).2
  · rw [schedule_desk sound]
    exact cancelled.orderly.of_timers rfl rfl
  · rw [schedule_desk sound]
    intro job member
    rcases List.mem_cons.mp ((Agenda.jobs_spawn _).mem_iff.mp member) with rfl | old
    · refine ⟨plain, ?_⟩
      rw [withdrew.issued_eq]
      exact name
    · exact cancelled.plain job old
  · intro number late
    rw [schedule_desk sound] at late
    rw [schedule_outcomes sound]
    exact cancelled.future number (Nat.le_of_succ_le late)

end Trial

end EditorAssist.Debounce

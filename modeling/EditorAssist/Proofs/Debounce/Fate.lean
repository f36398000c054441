import EditorAssist.Proofs.Debounce.Calls
import Mathlib.Data.List.Induction

/-!
# The fate of every action

What becomes of an action is decided by the calls that come after it: the first one that takes its key
away before its delay has elapsed withdraws it, and if there is none, it starts at that instant. Nothing
else matters, neither other keys nor faults of actions and callbacks.
-/

namespace EditorAssist.Debounce

open EditorAssist.Number EditorAssist.Time

/-- What becomes of an action. -/
inductive Fate where
  | waiting
  | started (instant : Int)
  | withdrawn (instant : Int)
  deriving Repr, DecidableEq

/-- The fate of an action of a key whose delay elapses at `due`, from the calls that come `now`. -/
def fate (key : String) (due : Int) : (now : Int) → List Call → Fate
  | now, [] => if due ≤ now then .started due else .waiting
  | now, call :: rest =>
    if due ≤ now then .started due
    else if call.disturbs key then .withdrawn now
    else fate key due (now + call.nanos) rest

/-- What is told of a fate: one start or one withdrawal, of which nobody may want to know. -/
def Fate.outcomes (notice : Notice) : Fate → List Outcome
  | .waiting => []
  | .started instant => [.started instant]
  | .withdrawn instant => if notice = .nobody then [] else [.withdrawn instant]

theorem fate_of_le {key : String} {due now : Int} {calls : List Call} (past : due ≤ now) :
    fate key due now calls = .started due := by
  cases calls <;> simp [fate, past]

/-- An action that has met its fate in a trial. -/
def Meets (script : Script) (ticket : Nat) (due : Int) (t : Trial) : Fate → Prop
  | .waiting => Waiting script ticket due t
  | other => Over ticket (other.outcomes script.notice) t

variable {t : Trial} {script : Script} {ticket : Nat} {due : Int} {outcomes : List Outcome}
  {call : Call} {calls : List Call}

/-! ## One call -/

theorem Over.added (script : Script) (closed : Over ticket outcomes (t.cancel script.key).1)
    (sound : t.Sound) : Over ticket outcomes (t.schedule script) := by
  refine ⟨?_, ?_, ?_⟩
  · rw [Trial.schedule_outcomes sound]
    exact closed.told
  · rw [agenda_schedule sound]
    intro job member own
    rcases List.mem_cons.mp ((Agenda.jobs_spawn _).mem_iff.mp member) with rfl | old
    · exact absurd own (Nat.ne_of_gt closed.past)
    · exact closed.gone job old own
  · rw [agenda_schedule sound]
    exact Nat.lt_succ_of_lt closed.past

theorem Waiting.added (other : Script) (waiting : Waiting script ticket due (t.cancel other.key).1)
    (sound : t.Sound) : Waiting script ticket due (t.schedule other) := by
  refine ⟨?_, ?_⟩
  · rw [Trial.schedule_outcomes sound]
    exact waiting.untold
  · rw [agenda_schedule sound]
    cases waiting.place with
    | fresh ready sum => exact .fresh (List.mem_append_left _ ready) sum
    | awake ready on => exact .awake (List.mem_append_left _ ready) on
    | asleep timer waits job on => exact .asleep timer waits job on

/-- A newly scheduled action waits for its delay. -/
theorem waiting_schedule (sound : t.Sound) (script : Script) :
    Waiting script t.desk.agenda.issued (t.now + max 0 script.delay.nanos) (t.schedule script) := by
  have withdrew := sound.cancel_withdrew script.key
  refine ⟨?_, ?_⟩
  · rw [Trial.schedule_outcomes sound]
    exact (withdrew.sound sound).future _ (Nat.le_of_eq withdrew.issued_eq)
  · rw [agenda_schedule sound, ← withdrew.issued_eq, ← withdrew.now_eq]
    exact .fresh (List.mem_append_right _ (List.mem_singleton_self _)) rfl

theorem Over.apply (closed : Over ticket outcomes t) (sound : t.Sound) (call : Call) :
    Over ticket outcomes (call.apply t) := by
  cases call with
  | schedule key delay act =>
    exact .added (act.script key delay _) (closed.withdrew sound (sound.cancel_withdrew key)) sound
  | cancel key => exact closed.withdrew sound (sound.cancel_withdrew key)
  | cancelAll => exact closed.withdrew sound t.cancelAll_withdrew
  | settle => exact Over.lasting.settle sound closed
  | advance span => exact (Over.lasting.ran sound closed span).withAgenda rfl rfl

/-- The first call that takes the key away tells of the withdrawal at once. -/
theorem Waiting.disturbed (waiting : Waiting script ticket due t) (sound : t.Sound)
    (disturbs : call.disturbs script.key = true) :
    Over ticket (withdrawnAt script t.now) (call.apply t) := by
  have pending := waiting.pending sound
  have cancelled : ∀ key, key = script.key →
      Over ticket (withdrawnAt script t.now) (t.cancel key).1 := by
    rintro key rfl
    refine waiting.withdrawn sound (sound.cancel_withdrew script.key) ?_ ?_
    · rw [Option.mem_toList]
      cases found : t.desk.pending.find? script.key with
      | none => exact absurd rfl (Pending.find?_eq_none.mp found _ pending)
      | some entry =>
        obtain ⟨member, own⟩ := Pending.find?_eq_some found
        exact congrArg some (sound.coherent.eq_of_key member pending own)
    · cases t.desk.pending.find? script.key <;> simp
  cases call with
  | settle => simp [Call.disturbs] at disturbs
  | advance span => simp [Call.disturbs] at disturbs
  | cancel key => exact cancelled key (by simpa [Call.disturbs] using disturbs)
  | schedule key delay act =>
    exact .added (act.script key delay _)
      (cancelled key (by simpa [Call.disturbs] using disturbs)) sound
  | cancelAll =>
    refine waiting.withdrawn sound t.cancelAll_withdrew pending ?_
    exact List.Nodup.of_map _ sound.coherent.keys

/-- Any other call leaves the action waiting, unless its delay is over in it. -/
theorem Waiting.undisturbed (waiting : Waiting script ticket due t) (steady : Steady t)
    (forward : ∀ span, call = .advance span → 0 ≤ span.nanos)
    (spared : call.disturbs script.key = false) (early : t.now < due) :
    (t.now + call.nanos < due → Waiting script ticket due (call.apply t)) ∧
      (due ≤ t.now + call.nanos → Over ticket [.started due] (call.apply t)) := by
  obtain ⟨sound, ahead⟩ := steady
  have cancelled : ∀ key, key ≠ script.key → Waiting script ticket due (t.cancel key).1 := by
    intro key other
    refine waiting.spared sound (sound.cancel_withdrew key) fun member => other ?_
    exact (Pending.find?_eq_some (Option.mem_toList.mp member)).2.symm
  cases call with
  | cancelAll => simp [Call.disturbs] at spared
  | cancel key =>
    refine ⟨fun _ => cancelled key (by simpa [Call.disturbs] using spared), fun late => ?_⟩
    simp only [Call.nanos] at late
    omega
  | schedule key delay act =>
    refine ⟨fun _ => ?_, fun late => ?_⟩
    · exact .added (act.script key delay _)
        (cancelled key (by simpa [Call.disturbs] using spared)) sound
    · simp only [Call.nanos] at late
      omega
  | settle =>
    refine ⟨fun _ => (waiting.settle sound ahead).2 early, fun late => ?_⟩
    simp only [Call.nanos] at late
    omega
  | advance span =>
    obtain ⟨past, still⟩ := waiting.advance sound (forward span rfl)
    exact ⟨still, past⟩

/-! ## All later calls -/

theorem Over.resume (closed : Over ticket outcomes t) (steady : Steady t)
    (forward : ∀ span, .advance span ∈ calls → 0 ≤ span.nanos) :
    Over ticket outcomes (resume t calls) := by
  induction calls generalizing t with
  | nil => exact closed
  | cons call rest ih =>
    refine ih (closed.apply steady.sound call) ?_ fun span member =>
      forward span (List.mem_cons_of_mem _ member)
    exact (steady.apply fun span same => forward span (by rw [same]; exact List.mem_cons_self ..)).1

/-- A waiting action meets the fate that the later calls decide. An action whose delay is over already
has to be let run first. -/
theorem Waiting.meets (waiting : Waiting script ticket due t) (steady : Steady t)
    (well : regular calls = true) (prompt : t.now < due ∨ calls.head?.any Call.letsRun = true) :
    Meets script ticket due (resume t calls) (fate script.key due t.now calls) := by
  induction calls generalizing t with
  | nil =>
    have early : t.now < due := by simpa using prompt
    rw [fate, if_neg (by omega)]
    exact waiting
  | cons call rest ih =>
    have forward := forward_of_regular well
    have own : ∀ span, call = .advance span → 0 ≤ span.nanos := fun span same =>
      forward span (by rw [same]; exact List.mem_cons_self ..)
    have onward : ∀ span, .advance span ∈ rest → 0 ≤ span.nanos := fun span member =>
      forward span (List.mem_cons_of_mem _ member)
    have tail : regular rest = true := @regular_of_append [call] rest well
    obtain ⟨next, now, _⟩ := steady.apply own
    rcases Int.lt_or_le t.now due with early | late
    · rw [fate, if_neg (by omega)]
      by_cases disturbs : call.disturbs script.key = true
      · rw [if_pos disturbs]
        exact (waiting.disturbed steady.sound disturbs).resume next onward
      · rw [if_neg disturbs]
        obtain ⟨still, past⟩ := waiting.undisturbed steady own (by simpa using disturbs) early
        rcases Int.lt_or_le (t.now + call.nanos) due with later | elapsed
        · rw [← now] at later ⊢
          exact ih (still (by rw [← now]; exact later)) next tail (.inl later)
        · rw [fate_of_le elapsed]
          exact (past elapsed).resume next onward
    · -- The delay is over: what comes next lets the action start.
      rw [fate_of_le late]
      have lets : call.letsRun = true := by
        have : ¬ t.now < due := by omega
        simpa [this] using prompt
      have started : Over ticket [.started due] (call.apply t) := by
        cases call with
        | settle => exact (waiting.settle steady.sound steady.ahead).1 late
        | advance span =>
          have := own span rfl
          exact (waiting.advance steady.sound this).1 (by omega)
        | schedule key delay act => cases lets
        | cancel key => cases lets
        | cancelAll => cases lets
      exact started.resume next onward

/-! ## All calls -/

section Runs

variable {before after : List Call} {key : String} {delay : Span} {act : Act}

/-- The instant at which the delay of an action elapses that is scheduled after some calls. -/
def dueAfter (before : List Call) (delay : Span) : Int := clock before + max 0 delay.nanos

/-- Every scheduled action meets its fate. -/
theorem meets_play (well : regular (before ++ .schedule key delay act :: after) = true) :
    Meets (act.script key delay (scheduled before)) (scheduled before) (dueAfter before delay)
      (play (before ++ .schedule key delay act :: after))
      (fate key (dueAfter before delay) (clock before) after) := by
  have forward := forward_of_regular well
  obtain ⟨steady, now, issued⟩ := play_steady fun span member =>
    forward span (List.mem_append_left _ member)
  have tail := regular_of_append well
  simp only [regular, Bool.and_eq_true, Bool.or_eq_true, decide_eq_true_eq] at tail
  have waiting := waiting_schedule steady.sound (act.script key delay (play before).desk.agenda.issued)
  obtain ⟨next, clock, _⟩ := @Steady.apply _ (.schedule key delay act) steady fun _ same => by cases same
  have later : (Call.apply (play before) (.schedule key delay act)).now = (play before).now :=
    clock.trans (Int.add_zero _)
  have met := @Waiting.meets _ _ _ _ after waiting next tail.2 (by
    refine tail.1.imp_left fun positive => ?_
    show (Call.apply (play before) (.schedule key delay act)).now <
      (play before).now + max 0 delay.nanos
    omega)
  have schedule : (play before).schedule (act.script key delay (play before).desk.agenda.issued) =
      Call.apply (play before) (.schedule key delay act) := rfl
  rw [schedule, later, now, issued] at met
  rw [play, resume_append, resume, List.foldl_cons]
  exact met

theorem outcomes_play (well : regular (before ++ .schedule key delay act :: after) = true) :
    (play (before ++ .schedule key delay act :: after)).outcomes (toString (scheduled before)) =
      (fate key (dueAfter before delay) (clock before) after).outcomes act.notice := by
  have met := meets_play well
  generalize fate key (dueAfter before delay) (clock before) after = course at met ⊢
  cases course with
  | waiting => exact met.untold
  | started instant => exact met.told
  | withdrawn instant => exact met.told

/-- Before a call that lets nothing run, what is due has run. -/
theorem regular_before {call : Call} (lets : call.letsRun = false)
    (well : regular (before ++ call :: after) = true) : regular before = true := by
  induction before with
  | nil => rfl
  | cons first rest ih =>
    have tail : regular rest = true :=
      ih (@regular_of_append [first] (rest ++ call :: after) well)
    cases first with
    | schedule other span other_act =>
      simp only [List.cons_append, regular, Bool.and_eq_true, Bool.or_eq_true] at well ⊢
      refine ⟨well.1.imp_right fun next => ?_, tail⟩
      cases rest with
      | nil => simp [lets] at next
      | cons second more => exact next
    | advance span =>
      simp only [List.cons_append, regular, Bool.and_eq_true] at well ⊢
      exact ⟨well.1, tail⟩
    | cancel other => exact tail
    | cancelAll => exact tail
    | settle => exact tail

/-- The withdrawal of an action is told within the call that takes its key away. -/
theorem withdrawn_in_call {call : Call} (disturbs : call.disturbs key = true) {more : List Call}
    (well : regular (before ++ .schedule key delay act :: after ++ call :: more) = true)
    (waits : fate key (dueAfter before delay) (clock before) after = .waiting) :
    (call.apply (play (before ++ .schedule key delay act :: after))).outcomes
        (toString (scheduled before)) =
      (Fate.withdrawn (clock (before ++ .schedule key delay act :: after))).outcomes act.notice := by
  have lets : call.letsRun = false := by cases call <;> simp_all [Call.disturbs, Call.letsRun]
  have earlier := regular_before lets well
  have met := meets_play earlier
  rw [waits] at met
  obtain ⟨steady, now, _⟩ := play_steady (forward_of_regular earlier)
  rw [(Waiting.disturbed met steady.sound disturbs).told, now]
  rfl

end Runs

/-! ## What is pending -/

section Pending

theorem pending_lasting (entries : Pending Callback) :
    Lasting fun t => ∀ entry ∈ t.desk.pending, entry ∈ entries := by
  refine ⟨?_, fun _ inside _ _ => inside⟩
  intro t job rest sound inside ready
  cases Trial.turned (t := t.taken rest) (sound.plain_first ready).1 with
  | waits script work desk _ =>
    rw [desk]
    exact inside
  | ends script work desk _ =>
    rw [desk]
    exact inside
  | starts script work desk _ =>
    have fewer : ∀ entry ∈ t.desk.pending.release script.key job.ticket, entry ∈ entries :=
      fun entry member => inside entry (List.mem_filter.mp member).1
    rcases desk with ends | ⟨span, runs⟩
    · rw [ends]
      exact fewer
    · rw [runs]
      exact fewer

/-- Only scheduling adds to the table. -/
theorem pending_apply (sound : t.Sound) {entry : Entry Callback}
    (pending : entry ∈ (call.apply t).desk.pending) :
    entry ∈ t.desk.pending ∨
      ∃ delay act, call = .schedule entry.key delay act ∧ entry.ticket = t.desk.agenda.issued := by
  cases call with
  | schedule key delay act =>
    rw [Call.apply, Trial.schedule_desk sound, Desk.add, List.mem_append, List.mem_singleton] at pending
    rcases pending with old | rfl
    · rw [(sound.cancel_withdrew _).pending] at old
      exact .inl (Pending.mem_remove.mp old).1
    · exact .inr ⟨delay, act, rfl, (sound.cancel_withdrew _).issued_eq⟩
  | cancel key =>
    rw [Call.apply, (sound.cancel_withdrew key).pending] at pending
    exact .inl (Pending.mem_remove.mp pending).1
  | cancelAll =>
    rw [Call.apply, t.cancelAll_withdrew.pending] at pending
    cases pending
  | settle => exact .inl ((pending_lasting t.desk.pending).settle sound (fun _ member => member) _ pending)
  | advance span =>
    exact .inl ((pending_lasting t.desk.pending).ran sound (fun _ member => member) span _ pending)

/-- Every entry belongs to an action that was scheduled. -/
theorem pending_play (forward : ∀ span, .advance span ∈ calls → 0 ≤ span.nanos) {entry : Entry Callback}
    (pending : entry ∈ (play calls).desk.pending) :
    ∃ before delay act after, calls = before ++ .schedule entry.key delay act :: after ∧
      scheduled before = entry.ticket := by
  induction calls using List.reverseRecOn with
  | nil => cases pending
  | append_singleton earlier call ih =>
    have forward : ∀ span, .advance span ∈ earlier → 0 ≤ span.nanos := fun span member =>
      forward span (List.mem_append_left _ member)
    obtain ⟨steady, _, issued⟩ := play_steady forward
    rw [play, resume_append] at pending
    rcases pending_apply steady.sound pending with old | ⟨delay, act, rfl, ticket⟩
    · obtain ⟨before, delay, act, after, rfl, number⟩ := ih forward old
      exact ⟨before, delay, act, after ++ [call], by simp, number⟩
    · exact ⟨earlier, delay, act, [], rfl, issued.symm.trans ticket.symm⟩

/-- A key is pending as long as an action of it has neither started nor been withdrawn. -/
theorem isPending_play (well : regular calls = true) (key : String) :
    (play calls).isPending key = true ↔ ∃ before delay act after,
      calls = before ++ .schedule key delay act :: after ∧
        fate key (dueAfter before delay) (clock before) after = .waiting := by
  have forward := forward_of_regular well
  obtain ⟨steady, _⟩ := play_steady forward
  rw [Trial.isPending, Pending.holds_iff]
  constructor
  · rintro ⟨entry, pending, rfl⟩
    obtain ⟨before, delay, act, after, rfl, number⟩ := pending_play forward pending
    refine ⟨before, delay, act, after, rfl, ?_⟩
    have met := meets_play well
    generalize fate entry.key (dueAfter before delay) (clock before) after = course at met ⊢
    cases course with
    | waiting => rfl
    | started instant => exact absurd number.symm (Over.not_pending met steady.sound entry pending)
    | withdrawn instant => exact absurd number.symm (Over.not_pending met steady.sound entry pending)
  · rintro ⟨before, delay, act, after, rfl, waits⟩
    have met := meets_play well
    rw [waits] at met
    exact ⟨_, Waiting.pending met steady.sound, rfl⟩

/-- Two actions of one key do not wait at the same time. -/
theorem waiting_unique (well : regular calls = true) {key : String} {before before' after after' : List Call}
    {delay delay' : Span} {act act' : Act} (one : calls = before ++ .schedule key delay act :: after)
    (other : calls = before' ++ .schedule key delay' act' :: after')
    (waits : fate key (dueAfter before delay) (clock before) after = .waiting)
    (waits' : fate key (dueAfter before' delay') (clock before') after' = .waiting) :
    scheduled before = scheduled before' := by
  obtain ⟨steady, _⟩ := play_steady (forward_of_regular well)
  have met := meets_play (one ▸ well)
  have met' := meets_play (other ▸ well)
  rw [waits, ← one] at met
  rw [waits', ← other] at met'
  have same := steady.sound.coherent.eq_of_key (Waiting.pending met steady.sound)
    (Waiting.pending met' steady.sound) rfl
  exact congrArg (·.ticket) same

end Pending

end EditorAssist.Debounce

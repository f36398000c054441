import EditorAssist.Proofs.Debounce.Fate

/-!
# Keys and faults do not interfere

Calls on other keys can be left out, and actions and callbacks that fail can be replaced by ones that do
not, without any other change to what becomes of an action.
-/

namespace EditorAssist.Debounce

open EditorAssist.Time

variable {key : String} {due now : Int} {calls before after : List Call} {delay : Span} {act : Act}

/-! ## Other keys -/

/-- The calls that are about a key. -/
def about (key : String) (calls : List Call) : List Call := calls.filter (·.touches key)

theorem nanos_of_not_touches {call : Call} (other : call.touches key = false) :
    call.nanos = 0 ∧ call.disturbs key = false ∧ call.letsRun = false := by
  cases call <;> simp_all [Call.touches, Call.disturbs, Call.letsRun, Call.nanos]

theorem touches_schedule : (Call.schedule key delay act).touches key = true := by
  simp [Call.touches, Call.disturbs]

theorem clock_about : clock (about key calls) = clock calls := by
  induction calls with
  | nil => rfl
  | cons call rest ih =>
    simp only [clock, about] at ih ⊢
    rw [List.filter_cons]
    split
    · rw [List.map_cons, List.map_cons, List.sum_cons, List.sum_cons, ih]
    · next other =>
      rw [List.map_cons, List.sum_cons, (nanos_of_not_touches (by simpa using other)).1, ih, Int.zero_add]

theorem regular_about (well : regular calls = true) : regular (about key calls) = true := by
  induction calls with
  | nil => rfl
  | cons call rest ih =>
    have tail : regular (about key rest) = true := ih (@regular_of_append [call] rest well)
    rw [about, List.filter_cons, ← about]
    split
    · cases call with
      | schedule other span other_act =>
        simp only [regular, Bool.and_eq_true, Bool.or_eq_true] at well ⊢
        refine ⟨well.1.imp_right fun next => ?_, tail⟩
        cases rest with
        | nil => cases next
        | cons second more =>
          have lets : second.letsRun = true := next
          rw [about, List.filter_cons_of_pos (by simp [Call.touches, lets])]
          exact next
      | advance span =>
        simp only [regular, Bool.and_eq_true] at well ⊢
        exact ⟨well.1, tail⟩
      | cancel other => exact tail
      | cancelAll => exact tail
      | settle => exact tail
    · exact tail

theorem fate_about : fate key due now (about key calls) = fate key due now calls := by
  induction calls generalizing now with
  | nil => rfl
  | cons call rest ih =>
    rw [about, List.filter_cons, ← about]
    split
    · simp only [fate, ih]
    · next other =>
      obtain ⟨still, spared, _⟩ := nanos_of_not_touches (by simpa using other)
      rcases Int.lt_or_le now due with early | late
      · rw [ih, fate, if_neg (by omega), spared, still, Int.add_zero]
        rfl
      · rw [fate_of_le late, fate_of_le late]

theorem about_append_schedule : about key (before ++ .schedule key delay act :: after) =
    about key before ++ .schedule key delay act :: about key after := by
  rw [about, List.filter_append, List.filter_cons_of_pos touches_schedule]
  rfl

theorem isPending_about (well : regular calls = true) :
    (play (about key calls)).isPending key = (play calls).isPending key := by
  rw [Bool.eq_iff_iff, isPending_play (regular_about well), isPending_play well]
  constructor
  · rintro ⟨before', delay, act, after', split, waits⟩
    obtain ⟨before, more, rfl, rfl, rest⟩ := List.filter_eq_append_iff.mp split
    obtain ⟨skipped, after, rfl, none_touches, _, rfl⟩ := List.filter_eq_cons_iff.mp rest
    have unseen : about key skipped = [] := List.filter_eq_nil_iff.mpr none_touches
    have same : clock (before ++ skipped) = clock (about key before) := by
      rw [← @clock_about key (before ++ skipped), about, List.filter_append, ← about, ← about, unseen,
        List.append_nil]
    refine ⟨before ++ skipped, delay, act, after, by simp, ?_⟩
    rw [dueAfter, same, ← fate_about]
    exact waits
  · rintro ⟨before, delay, act, after, rfl, waits⟩
    refine ⟨about key before, delay, act, about key after, about_append_schedule, ?_⟩
    rw [fate_about, dueAfter, clock_about]
    exact waits

/-! ## Faults -/

/-- The same callback, but it does not fail. -/
def Notice.calm : Notice → Notice
  | .faulty => .callback
  | other => other

/-- The same call, but neither the action nor its callback fails. -/
def Call.calm : Call → Call
  | .schedule key delay act => .schedule key delay ⟨act.runs, false, act.notice.calm⟩
  | other => other

theorem Call.calm_disturbs (call : Call) : call.calm.disturbs key = call.disturbs key := by
  cases call <;> rfl

theorem Call.calm_nanos (call : Call) : call.calm.nanos = call.nanos := by
  cases call <;> rfl

theorem Call.calm_letsRun (call : Call) : call.calm.letsRun = call.letsRun := by
  cases call <;> rfl

theorem clock_calm : clock (calls.map Call.calm) = clock calls := by
  rw [clock, List.map_map]
  exact congrArg List.sum (List.map_congr_left fun call _ => call.calm_nanos)

theorem scheduled_calm : scheduled (calls.map Call.calm) = scheduled calls := by
  rw [scheduled, List.countP_map]
  exact List.countP_congr fun call _ => by cases call <;> rfl

theorem regular_calm : regular (calls.map Call.calm) = regular calls := by
  induction calls with
  | nil => rfl
  | cons call rest ih =>
    have next : (rest.map Call.calm).head?.any Call.letsRun = rest.head?.any Call.letsRun := by
      cases rest with
      | nil => rfl
      | cons second more => exact second.calm_letsRun
    cases call with
    | schedule other span other_act => simp only [List.map_cons, Call.calm, regular, ih, next]
    | advance span => simp only [List.map_cons, Call.calm, regular, ih]
    | cancel other => exact ih
    | cancelAll => exact ih
    | settle => exact ih

theorem fate_calm : fate key due now (calls.map Call.calm) = fate key due now calls := by
  induction calls generalizing now with
  | nil => rfl
  | cons call rest ih => simp only [List.map_cons, fate, call.calm_disturbs, call.calm_nanos, ih]

theorem Fate.outcomes_calm (course : Fate) (notice : Notice) :
    course.outcomes notice.calm = course.outcomes notice := by
  cases course <;> cases notice <;> rfl

theorem isPending_calm (well : regular calls = true) (key : String) :
    (play (calls.map Call.calm)).isPending key = (play calls).isPending key := by
  rw [Bool.eq_iff_iff, isPending_play (regular_calm.trans well), isPending_play well]
  constructor
  · rintro ⟨before', delay, act', after', split, waits⟩
    obtain ⟨before, more, rfl, rfl, rest⟩ := List.map_eq_append_iff.mp split
    obtain ⟨call, after, rfl, same, rfl⟩ := List.map_eq_cons_iff.mp rest
    rw [fate_calm, dueAfter, clock_calm] at waits
    cases call with
    | schedule other span act =>
      cases same
      exact ⟨before, delay, act, after, rfl, waits⟩
    | cancel other => cases same
    | cancelAll => cases same
    | settle => cases same
    | advance span => cases same
  · rintro ⟨before, delay, act, after, rfl, waits⟩
    refine ⟨before.map Call.calm, delay, ⟨act.runs, false, act.notice.calm⟩, after.map Call.calm,
      by rw [List.map_append]; rfl, ?_⟩
    rw [fate_calm, dueAfter, clock_calm]
    exact waits

/-! ## The specification -/

/-- What a debouncer does, for every sequence of calls. Each scheduled action has one fate, which is what
is told of it, no more and no less; a withdrawal is told within the bare call that causes it. A key is
pending, and cancelling it finds something, as long as an action of it waits, of which there is one at
most. Neither calls on other keys nor faults change any of this. -/
theorem every_action_meets_its_fate (calls : List Call) (well : regular calls = true) :
    (∀ before key delay act after, calls = before ++ .schedule key delay act :: after →
      (play calls).outcomes (toString (scheduled before)) =
          (fate key (dueAfter before delay) (clock before) after).outcomes act.notice ∧
        (play (about key calls)).outcomes (toString (scheduled (about key before))) =
          (play calls).outcomes (toString (scheduled before)) ∧
        (play (calls.map Call.calm)).outcomes (toString (scheduled before)) =
          (play calls).outcomes (toString (scheduled before))) ∧
    (∀ before key delay act mid call after,
      calls = before ++ .schedule key delay act :: mid ++ call :: after →
      fate key (dueAfter before delay) (clock before) mid = .waiting → call.disturbs key = true →
      (play (before ++ .schedule key delay act :: mid)).outcomes (toString (scheduled before)) = [] ∧
        (call.apply (play (before ++ .schedule key delay act :: mid))).outcomes
            (toString (scheduled before)) =
          (Fate.withdrawn (clock (before ++ .schedule key delay act :: mid))).outcomes act.notice) ∧
    (∀ key,
      ((play calls).isPending key = true ↔ ∃ before delay act after,
        calls = before ++ .schedule key delay act :: after ∧
          fate key (dueAfter before delay) (clock before) after = .waiting) ∧
      ((play calls).cancel key).2 = (play calls).isPending key ∧
      (play (about key calls)).isPending key = (play calls).isPending key ∧
      (play (calls.map Call.calm)).isPending key = (play calls).isPending key) ∧
    ((play calls).desk.pending.map (·.key)).Nodup ∧
    (∀ key before delay act after before' delay' act' after',
      calls = before ++ .schedule key delay act :: after →
      calls = before' ++ .schedule key delay' act' :: after' →
      fate key (dueAfter before delay) (clock before) after = .waiting →
      fate key (dueAfter before' delay') (clock before') after' = .waiting →
      scheduled before = scheduled before') := by
  refine ⟨?_, ?_, ?_, ?_, ?_⟩
  · rintro before key delay act after rfl
    refine ⟨outcomes_play well, ?_, ?_⟩
    · have alone := @regular_about key _ well
      rw [about_append_schedule] at alone ⊢
      rw [outcomes_play alone, outcomes_play well, fate_about, dueAfter, clock_about, dueAfter]
    · have calm := regular_calm.trans well
      rw [List.map_append] at calm ⊢
      have told := @outcomes_play _ _ key delay ⟨act.runs, false, act.notice.calm⟩ calm
      rw [scheduled_calm, fate_calm, dueAfter, clock_calm, Fate.outcomes_calm] at told
      rw [outcomes_play well]
      exact told
  · rintro before key delay act mid call after rfl waits disturbs
    have lets : call.letsRun = false := by cases call <;> simp_all [Call.disturbs, Call.letsRun]
    refine ⟨?_, withdrawn_in_call disturbs well waits⟩
    rw [outcomes_play (regular_before lets well), waits]
    rfl
  · exact fun key => ⟨isPending_play well key, Trial.cancel_found _ key, isPending_about well,
      isPending_calm well key⟩
  · exact (play_steady (forward_of_regular well)).1.sound.coherent.keys
  · intro key before delay act after before' delay' act' after' one other
    exact waiting_unique well one other

/-- A burst on one key, with an action that fails, and a callback of another key that fails. -/
def burst : List Call :=
  [.schedule "a" (.ofMillis 20) ⟨none, false, .callback⟩, .advance (.ofMillis 10),
    .schedule "a" (.ofMillis 20) ⟨none, true, .callback⟩, .schedule "b" (.ofMillis 5) ⟨none, false, .faulty⟩,
    .cancel "b", .advance (.ofMillis 30)]

/-- The first action is superseded after ten milliseconds, the second starts twenty milliseconds later. -/
theorem burst_meets_its_fate : regular burst = true ∧
    (play burst).outcomes (toString 0) = [.withdrawn 10000000] ∧
    (play burst).outcomes (toString 1) = [.started 30000000] ∧
    (play burst).outcomes (toString 2) = [.withdrawn 10000000] ∧
    ((play burst).cancel "a").2 = (play burst).isPending "a" := by
  have well : regular burst = true := by decide
  obtain ⟨outcomes, _, pending, _⟩ := every_action_meets_its_fate burst well
  refine ⟨well, ?_, ?_, ?_, (pending "a").2.1⟩
  · exact (outcomes [] "a" _ _ _ rfl).1.trans (by decide)
  · exact (outcomes (burst.take 2) "a" _ _ (burst.drop 3) rfl).1.trans (by decide)
  · exact (outcomes (burst.take 3) "b" _ _ (burst.drop 4) rfl).1.trans (by decide)

end EditorAssist.Debounce

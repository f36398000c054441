import EditorAssist.Proofs.Debounce.Course
import Mathlib.Algebra.Ring.Int.Defs

/-!
# Sequences of calls

A debouncer is used from outside by scheduling and withdrawing actions and by letting time pass. Actions
are told apart by the order in which they are scheduled: the name of each is its number.
-/

namespace EditorAssist.Debounce

open EditorAssist.Time

/-- An action, apart from its key and its delay: how long it takes, whether it fails and who is told of
its withdrawal. -/
structure Act where
  runs : Option Span
  fails : Bool
  notice : Notice

/-- The script of the action that is scheduled as the one of a number. It calls nothing. -/
def Act.script (act : Act) (key : String) (delay : Span) (number : Nat) : Script :=
  .mk key (toString number) delay act.runs act.fails act.notice [] none

/-- What is done with a debouncer. -/
inductive Call where
  | schedule (key : String) (delay : Span) (act : Act)
  | cancel (key : String)
  | cancelAll
  /-- What is ready runs. -/
  | settle
  | advance (span : Span)

namespace Call

/-- The bare call: nothing runs in it unless it lets things run. -/
def apply (t : Trial) : Call → Trial
  | schedule key delay act => t.schedule (act.script key delay t.desk.agenda.issued)
  | cancel key => (t.cancel key).1
  | cancelAll => t.cancelAll
  | settle => t.settle
  | advance span => t.advance span

def isSchedule : Call → Bool
  | schedule .. => true
  | _ => false

/-- Whether a call takes the pending action of a key away. -/
def disturbs (key : String) : Call → Bool
  | schedule other .. => other == key
  | cancel other => other == key
  | cancelAll => true
  | _ => false

def letsRun : Call → Bool
  | settle => true
  | advance _ => true
  | _ => false

/-- Whether a call is about a key: it may take its action away, or time passes in it. -/
def touches (key : String) (call : Call) : Bool := call.disturbs key || call.letsRun

/-- The time that passes in a call. -/
def nanos : Call → Int
  | advance span => span.nanos
  | _ => 0

end Call

/-- The trial after some more calls. -/
def resume (t : Trial) (calls : List Call) : Trial := calls.foldl Call.apply t

/-- The trial after some calls. -/
def play (calls : List Call) : Trial := resume .empty calls

/-- The time that has passed in some calls. -/
def clock (calls : List Call) : Int := (calls.map Call.nanos).sum

/-- The number of the next action. -/
def scheduled (calls : List Call) : Nat := calls.countP Call.isSchedule

/-- Time does not run backwards, and what is due runs before the next call: an action without a delay is
due at once. -/
def regular : List Call → Bool
  | [] => true
  | .schedule _ delay _ :: rest => (0 < delay.nanos || rest.head?.any Call.letsRun) && regular rest
  | .advance span :: rest => 0 ≤ span.nanos && regular rest
  | _ :: rest => regular rest

section Lists

variable {calls before after : List Call}

theorem regular_of_append (both : regular (before ++ after) = true) : regular after = true := by
  induction before with
  | nil => exact both
  | cons call rest ih =>
    refine ih ?_
    cases call <;> simp_all [regular]

/-- In regular calls the clock never goes back. -/
theorem forward_of_regular (well : regular calls = true) :
    ∀ span, .advance span ∈ calls → 0 ≤ span.nanos := by
  intro span member
  obtain ⟨before, after, rfl⟩ := List.append_of_mem member
  have tail := regular_of_append well
  simp only [regular, Bool.and_eq_true, decide_eq_true_eq] at tail
  exact tail.1

theorem resume_append (t : Trial) (before after : List Call) :
    resume t (before ++ after) = resume (resume t before) after := List.foldl_append

end Lists

/-! ## What calls keep -/

/-- A trial between two calls. -/
structure Steady (t : Trial) : Prop where
  sound : t.Sound
  ahead : Ahead t

theorem Steady.empty : Steady Trial.empty := ⟨.empty, by simp [Ahead, Trial.empty, Desk.empty, Agenda.empty]⟩

section Steps

variable {t : Trial} {call : Call}

theorem Ahead.withdrew {gone kept : Pending Callback} {after : Trial} (ahead : Ahead t)
    (withdrew : Trial.Withdrew gone kept t after) : Ahead after := by
  unfold Ahead
  rw [withdrew.now_eq, withdrew.agenda]
  exact fun timer member => ahead timer (List.mem_filter.mp member).1

/-- Scheduling only adds a job that is ready. -/
theorem agenda_schedule (sound : t.Sound) (script : Script) :
    (t.schedule script).desk.agenda =
      ((t.cancel script.key).1.desk.agenda.spawn (.wait script)).1 := by
  rw [Trial.schedule_desk sound]
  rfl

theorem now_schedule (sound : t.Sound) (script : Script) : (t.schedule script).now = t.now := by
  rw [Trial.now, agenda_schedule sound]
  exact (sound.cancel_withdrew script.key).now_eq

theorem issued_schedule (sound : t.Sound) (script : Script) :
    (t.schedule script).desk.agenda.issued = t.desk.agenda.issued + 1 := by
  rw [agenda_schedule sound]
  show (t.cancel script.key).1.desk.agenda.issued + 1 = _
  rw [(sound.cancel_withdrew script.key).issued_eq]

theorem issued_lasting (number : Nat) : Lasting fun t => t.desk.agenda.issued = number :=
  ⟨fun sound same ready => (Trial.issued_turn sound ready).trans same, fun _ same _ _ => same⟩

/-- A call leaves a trial steady, takes the time that it says and gives out a number if it schedules. -/
theorem Steady.apply (steady : Steady t) (forward : ∀ span, call = .advance span → 0 ≤ span.nanos) :
    Steady (call.apply t) ∧ (call.apply t).now = t.now + call.nanos ∧
      (call.apply t).desk.agenda.issued = t.desk.agenda.issued + if call.isSchedule then 1 else 0 := by
  obtain ⟨sound, ahead⟩ := steady
  cases call with
  | schedule key delay act =>
    have withdrew := sound.cancel_withdrew key
    refine ⟨⟨sound.schedule ⟨rfl, rfl⟩ rfl, ?_⟩, ?_, issued_schedule sound _⟩
    · unfold Ahead
      rw [Call.apply, now_schedule sound, agenda_schedule sound, ← withdrew.now_eq]
      exact ahead.withdrew withdrew
    · exact (now_schedule sound _).trans (Int.add_zero _).symm
  | cancel key =>
    have withdrew := sound.cancel_withdrew key
    exact ⟨⟨withdrew.sound sound, ahead.withdrew withdrew⟩,
      withdrew.now_eq.trans (Int.add_zero _).symm, withdrew.issued_eq⟩
  | cancelAll =>
    have withdrew := t.cancelAll_withdrew
    exact ⟨⟨withdrew.sound sound, ahead.withdrew withdrew⟩,
      withdrew.now_eq.trans (Int.add_zero _).symm, withdrew.issued_eq⟩
  | settle =>
    obtain ⟨settled, still, now, _⟩ := settle_keeps sound ahead
    exact ⟨⟨settled, still⟩, now.trans (Int.add_zero _).symm,
      (issued_lasting _).settle sound rfl⟩
  | advance span =>
    obtain ⟨advanced, still, now⟩ := advance_keeps sound (forward span rfl)
    refine ⟨⟨advanced, still⟩, now, ?_⟩
    exact (issued_lasting t.desk.agenda.issued).ran sound rfl span

end Steps

section Runs

variable {t : Trial} {calls : List Call}

theorem Steady.resume (steady : Steady t) (forward : ∀ span, .advance span ∈ calls → 0 ≤ span.nanos) :
    Steady (resume t calls) ∧ (resume t calls).now = t.now + clock calls ∧
      (resume t calls).desk.agenda.issued = t.desk.agenda.issued + scheduled calls := by
  induction calls generalizing t with
  | nil => exact ⟨steady, (Int.add_zero _).symm, rfl⟩
  | cons call rest ih =>
    obtain ⟨here, now, issued⟩ := @Steady.apply t call steady fun span same =>
      forward span (by rw [same]; exact List.mem_cons_self ..)
    obtain ⟨later, then_now, then_issued⟩ := ih here fun span member =>
      forward span (List.mem_cons_of_mem _ member)
    refine ⟨later, ?_, ?_⟩
    · rw [Debounce.resume, List.foldl_cons, ← Debounce.resume, then_now, now, clock, clock,
        List.map_cons, List.sum_cons]
      omega
    · rw [Debounce.resume, List.foldl_cons, ← Debounce.resume, then_issued, issued, scheduled, scheduled,
        List.countP_cons]
      omega

/-- After some calls the clock shows the time that has passed, and as many numbers are given out as
actions were scheduled. -/
theorem play_steady (forward : ∀ span, .advance span ∈ calls → 0 ≤ span.nanos) :
    Steady (play calls) ∧ (play calls).now = clock calls ∧
      (play calls).desk.agenda.issued = scheduled calls := by
  obtain ⟨steady, now, issued⟩ := Steady.empty.resume forward
  refine ⟨steady, now.trans (Int.zero_add _), issued.trans (Nat.zero_add _)⟩

end Runs

end EditorAssist.Debounce

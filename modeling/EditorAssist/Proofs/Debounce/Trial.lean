import EditorAssist.Debounce.Script
import EditorAssist.Proofs.Debounce.Desk
import EditorAssist.Proofs.Number.Decimal
import EditorAssist.Proofs.Time.Engine

/-!
# Turns of a trial

Actions and callbacks that do not call the debouncer themselves leave the pending table in step with the
agenda, whether they fail or not. Each action has two timers at most before it is over, its delay and the
time that it takes, so a trial always runs until nothing is ready and nothing is due.
-/

namespace EditorAssist.Debounce

open EditorAssist.Number EditorAssist.Time

namespace Stage

def script : Stage → Script
  | wait script => script
  | run script => script
  | finish script => script

/-- An action can be withdrawn until it starts. -/
def slot : Stage → Option (String × Callback)
  | wait script => some (script.key, ⟨script.name, script.notice⟩)
  | run script => some (script.key, ⟨script.name, script.notice⟩)
  | finish _ => none

/-- How many timers the rest of an action sets at most. -/
def timersLeft : Stage → Nat
  | wait _ => 2
  | run _ => 1
  | finish _ => 0

end Stage

/-- An action that does not call the debouncer. -/
structure Script.Plain (script : Script) : Prop where
  cancels : script.thenCancel = []
  schedules : script.thenSchedule = none

/-- What can become of an action, and when. -/
inductive Outcome where
  | started (instant : Int)
  | withdrawn (instant : Int)
  deriving Repr, DecidableEq

/-- What an occurrence says about the action of a name. -/
def Occurrence.about? (name : String) (o : Occurrence) : Option Outcome :=
  match o.event with
  | .started other => if other = name then some (.started o.instant.nanos) else none
  | .withdrawn other => if other = name then some (.withdrawn o.instant.nanos) else none
  | _ => none

/-- Everything that some occurrences say about what became of an action. -/
def told (name : String) (events : List Occurrence) : List Outcome :=
  events.filterMap (·.about? name)

section Told

variable {name : String} {events said : List Occurrence}

theorem told_append : told name (events ++ said) = told name events ++ told name said :=
  List.filterMap_append

/-- The end of an action does not count. -/
theorem told_ended {ending : String} (ended : ∀ o ∈ said, o.event = .ended ending) :
    told name said = [] := by
  refine List.filterMap_eq_nil_iff.mpr fun o member => ?_
  rw [Occurrence.about?, ended o member]

theorem told_started {instant : Instant} (ended : ∀ o ∈ said, o.event = .ended name) :
    told name (⟨instant, .started name⟩ :: said) = [.started instant.nanos] := by
  have start : (⟨instant, .started name⟩ : Occurrence).about? name =
      some (.started instant.nanos) := by simp [Occurrence.about?]
  rw [told, List.filterMap_cons, start]
  exact congrArg (_ :: ·) (told_ended ended)

theorem told_started_other {other : String} {instant : Instant}
    (ended : ∀ o ∈ said, o.event = .ended other) (differs : other ≠ name) :
    told name (⟨instant, .started other⟩ :: said) = [] := by
  have start : (⟨instant, .started other⟩ : Occurrence).about? name = none := by
    simp [Occurrence.about?, differs]
  rw [told, List.filterMap_cons, start]
  exact told_ended ended

end Told

namespace Trial

/-- What has become of the action of a name. -/
def outcomes (t : Trial) (name : String) : List Outcome := told name t.events

/-- What a trial of plain actions keeps: every action is named after its ticket, and nothing has become
of those that are still to be scheduled. -/
structure Sound (t : Trial) : Prop where
  coherent : Coherent Stage.slot [] t.desk
  orderly : t.desk.agenda.Orderly
  plain : ∀ job ∈ t.desk.agenda.jobs,
    job.work.script.Plain ∧ job.work.script.name = toString job.ticket
  future : ∀ number, t.desk.agenda.issued ≤ number → t.outcomes (toString number) = []

theorem Sound.empty : Sound Trial.empty :=
  ⟨.empty, .empty, by simp [Trial.empty, Desk.empty, Agenda.empty, Agenda.jobs], fun _ _ => rfl⟩

def now (t : Trial) : Int := t.desk.agenda.now.nanos

/-! ## Turns -/

section Turns

variable {t : Trial} {job : Job Stage} {rest : List (Job Stage)} {script : Script}

theorem finish_desk (plain : script.Plain) : (t.finish script).desk = t.desk := by
  unfold finish
  rw [plain.cancels, plain.schedules]
  simp only [cancelKeys]
  split <;> rfl

/-- At its end a plain action is said to have ended, or nothing is said because it failed. -/
theorem finish_events (plain : script.Plain) :
    ∃ said, (t.finish script).events = t.events ++ said ∧
      ∀ occurrence ∈ said, occurrence.event = .ended script.name := by
  unfold finish
  rw [plain.cancels, plain.schedules]
  simp only [cancelKeys]
  split
  · exact ⟨[], by simp [catchFault]⟩
  · exact ⟨[⟨t.desk.agenda.now, .ended script.name⟩], by simp [record]⟩

/-- What the turn of a job does to a trial. -/
inductive Turned (job : Job Stage) (t after : Trial) : Prop
  | waits (script : Script) (work : job.work = .wait script)
      (desk : after.desk = { t.desk with
        agenda := t.desk.agenda.waitFor script.delay ⟨job.ticket, .run script⟩ })
      (events : after.events = t.events)
  | starts (script : Script) (work : job.work = .run script)
      (desk : after.desk = t.desk.release script.key job.ticket ∨ ∃ span, after.desk =
        { t.desk.release script.key job.ticket with
          agenda := t.desk.agenda.waitFor span ⟨job.ticket, .finish script⟩ })
      (events : ∃ said, after.events =
          t.events ++ ⟨t.desk.agenda.now, .started script.name⟩ :: said ∧
        ∀ occurrence ∈ said, occurrence.event = .ended script.name)
  | ends (script : Script) (work : job.work = .finish script) (desk : after.desk = t.desk)
      (events : ∃ said, after.events = t.events ++ said ∧
        ∀ occurrence ∈ said, occurrence.event = .ended script.name)

theorem turned (plain : job.work.script.Plain) : Turned job t (perform job t) := by
  obtain ⟨ticket, work⟩ := job
  cases work with
  | wait script => exact .waits script rfl rfl rfl
  | finish script => exact .ends script rfl (finish_desk plain) (finish_events plain)
  | run script =>
    simp only [perform]
    split
    · have whole : script.Plain := plain
      obtain ⟨said, events, ended⟩ := finish_events
        (t := { t with desk := t.desk.release script.key ticket }.record (.started script.name)) whole
      refine .starts script rfl (.inl (finish_desk plain)) ⟨said, ?_, ended⟩
      rw [events, record, List.append_assoc]
      rfl
    · next span _ =>
      exact .starts script rfl (.inr ⟨span, rfl⟩) ⟨[], rfl, by simp⟩

/-- A trial whose first job is taken. -/
def taken (t : Trial) (rest : List (Job Stage)) : Trial :=
  engine.withAgenda t (t.desk.agenda.behind rest)

theorem Sound.plain_first (sound : t.Sound) (ready : t.desk.agenda.ready = job :: rest) :
    job.work.script.Plain ∧ job.work.script.name = toString job.ticket :=
  sound.plain job (by rw [Agenda.jobs_of_ready ready]; exact List.mem_cons_self ..)

theorem Sound.coherent_turn (sound : t.Sound) (ready : t.desk.agenda.ready = job :: rest) :
    Coherent Stage.slot [] (perform job (t.taken rest)).desk := by
  have held := sound.coherent.take ready
  cases turned (t := t.taken rest) (sound.plain_first ready).1 with
  | waits script work desk _ =>
    rw [desk]
    exact (held.become (by rw [work]; rfl)).wait _
  | ends script work desk _ =>
    rw [desk]
    exact held.drop (by rw [work]; rfl)
  | starts script work desk _ =>
    have released : Coherent Stage.slot [⟨job.ticket, .finish script⟩]
        ((t.taken rest).desk.release script.key job.ticket) :=
      held.release (by rw [work]; rfl) rfl
    rcases desk with ends | ⟨span, runs⟩
    · rw [ends]
      exact released.drop rfl
    · rw [runs]
      exact released.wait _

/-- A turn says nothing about other actions than its own, whose start it may be. -/
theorem outcomes_turn (sound : t.Sound) (ready : t.desk.agenda.ready = job :: rest) {number : Nat}
    (other : number ≠ job.ticket) :
    (perform job (t.taken rest)).outcomes (toString number) = t.outcomes (toString number) := by
  obtain ⟨plain, name⟩ := sound.plain_first ready
  have differs : job.work.script.name ≠ toString number := by
    rw [name]
    exact fun same => other (toString_injective same).symm
  cases turned (t := t.taken rest) plain with
  | waits script work desk events =>
    rw [outcomes, events]
    rfl
  | ends script work desk events =>
    obtain ⟨said, events, ended⟩ := events
    rw [outcomes, events, told_append, told_ended ended, List.append_nil]
    rfl
  | starts script work desk events =>
    obtain ⟨said, events, ended⟩ := events
    rw [work] at differs
    rw [outcomes, events, told_append, told_started_other ended differs, List.append_nil]
    rfl

theorem issued_turn (sound : t.Sound) (ready : t.desk.agenda.ready = job :: rest) :
    (perform job (t.taken rest)).desk.agenda.issued = t.desk.agenda.issued := by
  cases turned (t := t.taken rest) (sound.plain_first ready).1 with
  | waits script work desk _ =>
    rw [desk]
    exact Agenda.issued_waitUntil _ _
  | ends script work desk _ =>
    rw [desk]
    rfl
  | starts script work desk _ =>
    rcases desk with ends | ⟨span, runs⟩
    · rw [ends]
      rfl
    · rw [runs]
      exact Agenda.issued_waitUntil _ _

theorem Sound.turn (sound : t.Sound) (ready : t.desk.agenda.ready = job :: rest) :
    Sound (perform job (t.taken rest)) := by
  have jobs := Agenda.jobs_of_ready ready
  have first := sound.plain_first ready
  have others : ∀ other ∈ (t.desk.agenda.behind rest).jobs,
      other.work.script.Plain ∧ other.work.script.name = toString other.ticket :=
    fun other member => sound.plain other (by rw [jobs]; exact List.mem_cons_of_mem _ member)
  have orderly : (t.desk.agenda.behind rest).Orderly := sound.orderly.of_timers rfl rfl
  have waits : ∀ (due : Instant) (next : Stage), next.script = job.work.script →
      ∀ other ∈ ((t.desk.agenda.behind rest).waitUntil due ⟨job.ticket, next⟩).jobs,
        other.work.script.Plain ∧ other.work.script.name = toString other.ticket := by
    intro due next same other member
    rcases List.mem_cons.mp ((Agenda.jobs_waitUntil due _).mem_iff.mp member) with rfl | old
    · rw [same]
      exact first
    · exact others other old
  have coherent := sound.coherent_turn ready
  have future : ∀ number, (perform job (t.taken rest)).desk.agenda.issued ≤ number →
      (perform job (t.taken rest)).outcomes (toString number) = [] := by
    intro number late
    rw [issued_turn sound ready] at late
    have := sound.coherent.issued job (by rw [jobs]; exact List.mem_cons_self ..)
    rw [outcomes_turn sound ready (by omega)]
    exact sound.future number late
  cases turned (t := t.taken rest) first.1 with
  | waits script work desk _ =>
    refine ⟨coherent, ?_, ?_, future⟩
    · rw [desk]
      exact orderly.waitUntil _ _
    · rw [desk]
      exact waits _ _ (by rw [work]; rfl)
  | ends script work desk _ =>
    refine ⟨coherent, ?_, ?_, future⟩
    · rw [desk]
      exact orderly
    · rw [desk]
      exact others
  | starts script work desk _ =>
    rcases desk with ends | ⟨span, runs⟩
    · refine ⟨coherent, ?_, ?_, future⟩
      · rw [ends]
        exact orderly
      · rw [ends]
        exact others
    · refine ⟨coherent, ?_, ?_, future⟩
      · rw [runs]
        exact orderly.waitUntil _ _
      · rw [runs]
        exact waits _ _ (by rw [work]; rfl)

/-- A trial of plain actions stays one. -/
theorem Sound.step {after : Trial} {notes : List (Trial × Job Stage)} (sound : t.Sound)
    (taken : engine.Step t notes after) : after.Sound := by
  cases taken with
  | turn ready => exact sound.turn ready
  | wake idle soonest =>
    refine ⟨sound.coherent.ring soonest, sound.orderly.ring soonest, ?_, sound.future⟩
    intro job member
    exact sound.plain job (Agenda.jobs_ring soonest ▸ member)
  | pass idle quiet =>
    exact ⟨sound.coherent.setClock _, ⟨sound.orderly.sorted, fun timer member =>
      Int.le_of_lt (sound.orderly.all_after quiet timer member)⟩, sound.plain, sound.future⟩

end Turns

/-! ## Fuel -/

section Fuel

variable {t : Trial} {job : Job Stage} {rest : List (Job Stage)}

theorem weight_of_plain (work : Stage) (plain : work.script.Plain) : weight work = work.timersLeft + 2 := by
  cases work <;> next script =>
    obtain ⟨key, name, delay, runs, fails, notice, keys, next⟩ := script
    obtain ⟨_, rfl⟩ := plain
    rfl

theorem timersLeft_lt_weight (work : Stage) : work.timersLeft < weight work := by
  have least : ∀ script : Script, 4 ≤ script.weight := by
    rintro ⟨_, _, _, _, _, _, _, none | next⟩ <;> simp [Script.weight]
  cases work <;> next script =>
    have := least script
    simp only [Stage.timersLeft, weight]
    omega

/-- A timer that is set, and those that its job still sets. -/
def timersOf (timer : Timer Stage) : Nat := timer.job.work.timersLeft + 1

/-- The timers that are set and those that will be. -/
def timersToCome (t : Trial) : Nat :=
  t.desk.agenda.readyWeight Stage.timersLeft + t.desk.agenda.timerCost timersOf

theorem timersToCome_le_load (t : Trial) : t.timersToCome ≤ engine.load t := by
  have ready : t.desk.agenda.readyWeight Stage.timersLeft ≤
      total (t.desk.agenda.ready.map fun job => weight job.work) :=
    total_map_le fun job _ => Nat.le_of_lt (timersLeft_lt_weight job.work)
  have timers : t.desk.agenda.timerCost timersOf ≤
      total (t.desk.agenda.timers.map fun timer => weight timer.job.work) :=
    total_map_le fun timer _ => timersLeft_lt_weight timer.job.work
  have load : engine.load t = total (t.desk.agenda.ready.map fun job => weight job.work) +
      total (t.desk.agenda.timers.map fun timer => weight timer.job.work) := by
    rw [Engine.load, Agenda.jobs, List.map_append, total_append, List.map_map]
    rfl
  rw [timersToCome, load]
  omega

/-- Letting a job wait makes ready at most that job, and sets its timer at most. -/
theorem waitUntil_costs (agenda : Agenda Stage) (due : Instant) (job : Job Stage) :
    (agenda.waitUntil due job).readyWeight weight ≤ agenda.readyWeight weight + weight job.work ∧
      (agenda.waitUntil due job).readyWeight Stage.timersLeft +
          (agenda.waitUntil due job).timerCost timersOf ≤
        agenda.readyWeight Stage.timersLeft + agenda.timerCost timersOf + job.work.timersLeft + 1 := by
  refine ⟨Agenda.readyWeight_waitUntil_le weight due job, ?_⟩
  rcases Agenda.waitUntil_cases timersOf due job with
    ⟨_, lined⟩ | ⟨_, ready, timers⟩
  · have same : (agenda.enqueue job).timerCost timersOf = agenda.timerCost timersOf := rfl
    rw [lined, Agenda.readyWeight_enqueue, same]
    omega
  · rw [timers, Agenda.readyWeight, ready, ← Agenda.readyWeight]
    simp only [timersOf]
    omega

/-- A turn leaves less ready, and no more timers to come. -/
theorem turn_costs (plain : job.work.script.Plain) (ready : t.desk.agenda.ready = job :: rest) :
    engine.pressure (perform job (t.taken rest)) < engine.pressure t ∧
      (perform job (t.taken rest)).timersToCome ≤ t.timersToCome := by
  show Agenda.readyWeight weight (perform job (t.taken rest)).desk.agenda <
    Agenda.readyWeight weight t.desk.agenda ∧ _
  rw [timersToCome, timersToCome, Agenda.readyWeight_of_ready weight ready,
    Agenda.readyWeight_of_ready Stage.timersLeft ready, weight_of_plain job.work plain]
  have same : t.desk.agenda.timerCost timersOf = (t.desk.agenda.behind rest).timerCost timersOf := rfl
  have waits := waitUntil_costs (t.desk.agenda.behind rest)
  rw [same]
  cases turned (t := t.taken rest) plain with
  | waits script work desk _ =>
    obtain ⟨less, fewer⟩ := waits ((t.desk.agenda.behind rest).now.after script.delay)
      ⟨job.ticket, .run script⟩
    rw [weight_of_plain (.run script) (by rw [work] at plain; exact plain)] at less
    rw [desk, work]
    simp only [Stage.timersLeft] at less fewer ⊢
    exact ⟨Nat.lt_of_le_of_lt less (by omega), Nat.le_trans fewer (by omega)⟩
  | ends script work desk _ =>
    rw [desk]
    show Agenda.readyWeight weight (t.desk.agenda.behind rest) < _ ∧
      Agenda.readyWeight Stage.timersLeft (t.desk.agenda.behind rest) +
        (t.desk.agenda.behind rest).timerCost timersOf ≤ _
    exact ⟨by omega, by omega⟩
  | starts script work desk _ =>
    rcases desk with ends | ⟨span, runs⟩
    · rw [ends]
      show Agenda.readyWeight weight (t.desk.agenda.behind rest) < _ ∧
        Agenda.readyWeight Stage.timersLeft (t.desk.agenda.behind rest) +
        (t.desk.agenda.behind rest).timerCost timersOf ≤ _
      exact ⟨by omega, by omega⟩
    · obtain ⟨less, fewer⟩ := waits ((t.desk.agenda.behind rest).now.after span)
        ⟨job.ticket, .finish script⟩
      rw [weight_of_plain (.finish script) (by rw [work] at plain; exact plain)] at less
      rw [runs, work]
      simp only [Stage.timersLeft] at less fewer ⊢
      exact ⟨Nat.lt_of_le_of_lt less (by omega), Nat.le_trans fewer (by omega)⟩

/-- Trials of plain actions never run out of fuel. -/
theorem adequate : engine.Adequate Sound fun _ t => t.timersToCome where
  stays := Sound.step
  lighter sound ready := (turn_costs (sound.plain_first ready).1 ready).1
  turn sound ready := (turn_costs (sound.plain_first ready).1 ready).2
  ring := by
    intro limit t timer rest _ idle soonest _
    have idle : t.desk.agenda.ready = [] := idle
    have soonest : t.desk.agenda.timers = timer :: rest := soonest
    rw [timersToCome, timersToCome, Agenda.timerCost_of_timers _ soonest]
    simp only [Agenda.readyWeight, engine, Agenda.ring, idle, List.nil_append, List.map_cons,
      List.map_nil, total_cons, total_nil, Agenda.timerCost, timersOf]
    omega
  fits := by
    intro limit t _
    have := timersToCome_le_load t
    exact Nat.lt_of_le_of_lt this (Nat.lt_of_lt_of_le (Nat.lt_succ_self _)
      (Nat.le_mul_of_pos_right _ (Nat.succ_pos _)))
  agenda_withAgenda := rfl

end Fuel

end Trial

end EditorAssist.Debounce

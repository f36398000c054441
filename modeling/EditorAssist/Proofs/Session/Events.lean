import EditorAssist.Proofs.Session.Waiting

/-!
# What happens in a run

Every turn of a run may supersede the completion that waits, start one, or ask a backend. A run splits at each
of its turns. A handler is alive from its message to its end: it asks no backend before its message is taken up
and none after its end.
-/

namespace EditorAssist.Session

open EditorAssist.Backend EditorAssist.Debounce EditorAssist.Journal EditorAssist.Json
open EditorAssist.Payload EditorAssist.Settings EditorAssist.Time EditorAssist.Wire

/-- What a session becomes in the turn of the job that is ready first. -/
def turned (s : Session) (job : Job Work) : Session := perform job (s.taken s.desk.agenda.ready.tail)

/-- Whether work is the action of a completion that starts. -/
def Work.starts (number : Nat) : Work → Prop
  | fire _ (.complete completion) => completion.invocation = number
  | _ => False

namespace Event

/-- A completion that waits is superseded: another one is admitted, or the session shuts down. -/
def supersedes : Event → Prop
  | received _ => False
  | turn s job => job.work.supersedes s

/-- The delay of a completion is over and its action starts. -/
def starts (number : Nat) : Event → Prop
  | received _ => False
  | turn _ job => job.work.starts number

/-- A backend is asked for a completion by work of some handler. -/
def asks (number : Nat) : Event → Prop
  | received _ => False
  | turn s job => (∃ id, job.work.charge? = some ⟨number, id⟩) ∧
      s.completionsAsked < (s.turned job).completionsAsked

/-- Whether an event is a turn of some handler. -/
def isBy (number : Nat) : Event → Bool
  | received _ => false
  | turn _ job => job.work.charge?.map (·.number) == some number

/-- Some handler comes to its end and its request is answered without items. -/
def endsEmpty (number : Nat) (id : Option RequestId) : Event → Prop
  | received _ => False
  | turn s job => EndsEmpty number id s (s.turned job)

/-- Whether an event decides on a completion that waits. -/
def decides (number : Nat) (e : Event) : Prop := e.supersedes ∨ e.starts number

end Event

/-- The first of some events that decides on a completion. -/
def DecidedBy (number : Nat) (events : List Event) (e : Event) : Prop :=
  e.decides number ∧ ∃ earlier later, events = earlier ++ e :: later ∧ ∀ x ∈ earlier, ¬x.decides number

/-- Only one event decides. -/
theorem DecidedBy.unique {number : Nat} {events : List Event} {e e' : Event} (one : DecidedBy number events e)
    (other : DecidedBy number events e') : e = e' := by
  obtain ⟨here, earlier, later, rfl, quiet⟩ := one
  obtain ⟨here', earlier', later', same, quiet'⟩ := other
  induction earlier generalizing earlier' with
  | nil =>
    cases earlier' with
    | nil => exact (List.cons.inj same).1
    | cons x rest =>
      have own := (List.cons.inj same).1
      exact absurd (own ▸ here) (quiet' x (List.mem_cons_self ..))
  | cons x rest ih =>
    cases earlier' with
    | nil =>
      have own := (List.cons.inj same).1
      exact absurd (own ▸ here') (quiet x (List.mem_cons_self ..))
    | cons x' rest' =>
      exact ih (fun y member => quiet y (List.mem_cons_of_mem _ member)) rest' (List.cons.inj same).2
        fun y member => quiet' y (List.mem_cons_of_mem _ member)

/-! ## Sessions whose ledger balances -/

/-- What holds throughout all runs. -/
structure Balanced (s : Session) : Prop where
  sound : Sound [] s
  ledger : ∃ owed, Ledger owed s.charges s

/-- A handler has come to its end. -/
structure Ended (number : Nat) (s : Session) : Prop where
  received : number < s.invocations.length
  gone : number ∉ s.unfinished

/-- The message of a handler has been taken up. -/
structure TakenUp (number : Nat) (s : Session) : Prop where
  received : number < s.invocations.length
  begun : ∀ job ∈ s.desk.agenda.jobs, ∀ handler message, job.work ≠ .handle number handler message

section Order

variable {s t u : Session} {events before after : List Event} {number : Nat} {job : Job Work} {rest : List (Job Work)}

theorem turned_eq (ready : s.desk.agenda.ready = job :: rest) : s.turned job = perform job (s.taken rest) := by
  rw [turned, ready, List.tail_cons]

/-- A run splits at every turn. -/
theorem Run.split (run : Run s (before ++ .turn u job :: after) t) :
    ∃ rest, u.desk.agenda.ready = job :: rest ∧ Run s before u ∧ Run (perform job (u.taken rest)) after t := by
  generalize whole : before ++ .turn u job :: after = events at run
  induction run generalizing before with
  | nil => exact absurd whole (by simp)
  | @cons s mid t first later step path ih =>
    cases step with
    | receive m =>
      cases before with
      | nil => cases (List.cons.inj whole).1
      | cons e before =>
        obtain ⟨rfl, tail⟩ := List.cons.inj whole
        obtain ⟨rest, ready, earlier, run⟩ := ih tail
        exact ⟨rest, ready, .cons (.receive s m) earlier, run⟩
    | @turn own rest ready =>
      cases before with
      | nil =>
        obtain ⟨same, rfl⟩ := List.cons.inj whole
        obtain ⟨rfl, rfl⟩ := Event.turn.inj same
        exact ⟨rest, ready, .nil u, path⟩
      | cons e before =>
        obtain ⟨rfl, tail⟩ := List.cons.inj whole
        obtain ⟨rest', ready', earlier, run⟩ := ih tail
        exact ⟨rest', ready', .cons (.turn ready) earlier, run⟩
    | wake idle soonest =>
      obtain ⟨rest, ready, earlier, run⟩ := ih whole
      exact ⟨rest, ready, .cons (.wake idle soonest) earlier, run⟩
    | pass idle quiet forward =>
      obtain ⟨rest, ready, earlier, run⟩ := ih whole
      exact ⟨rest, ready, .cons (.pass idle quiet forward) earlier, run⟩

theorem Balanced.start (settings : Settings) (registry : Registry) (sink : Sink) :
    Balanced (Session.start settings registry sink) :=
  ⟨.start settings registry sink, [], .start settings registry sink⟩

theorem Step.balanced (step : Step s events t) (balanced : Balanced s) : Balanced t := by
  obtain ⟨sound, owed, ledger⟩ := balanced
  exact ⟨step.sound sound, _, step.ledger sound ledger⟩

theorem Run.balanced (run : Run s events t) (balanced : Balanced s) : Balanced t :=
  run.invariant Balanced (fun balanced step => step.balanced balanced) balanced

/-- The handler of a turn's work is at work. -/
theorem Balanced.alive (balanced : Balanced s) (ready : s.desk.agenda.ready = job :: rest) {charge : Charge}
    (charged : job.work.charge? = some charge) : charge.number ∈ s.unfinished := by
  obtain ⟨owed, ledger⟩ := balanced.ledger
  refine ledger.unfinished_of_charge balanced.sound ?_ charged
  rw [Agenda.jobs_of_ready ready]
  exact List.mem_cons_self ..

theorem Balanced.received (balanced : Balanced s) (alive : number ∈ s.unfinished) :
    number < s.invocations.length := by
  obtain ⟨owed, ledger⟩ := balanced.ledger
  exact ledger.received alive

/-- A session in which one more handler is at work. -/
def enrolled (s : Session) (method : String) : Session :=
  { s with invocations := s.invocations ++ [⟨s.invocations.length, method, none⟩] }

theorem unfinished_enrolled (s : Session) (method : String) :
    (s.enrolled method).unfinished = s.unfinished ++ [s.invocations.length] := by
  rw [unfinished, enrolled, List.filter_append, List.map_append]
  rfl

/-- A handler that has come to its end stays there. -/
theorem Step.ended (step : Step s events t) (sound : Sound [] s) (ended : Ended number s) : Ended number t := by
  obtain ⟨received, gone⟩ := ended
  cases step with
  | receive m =>
    rcases handle_cases sound.own m with ⟨sink, handler, _, started⟩ | ⟨sink, _, refused⟩
    · rw [started]
      refine ⟨?_, fun alive => ?_⟩
      · show number < (s.invocations ++ [_]).length
        rw [List.length_append]
        exact Nat.lt_succ_of_lt received
      · have alive : number ∈ (s.enrolled (m.method.getD "")).unfinished := alive
        rw [unfinished_enrolled, List.mem_append] at alive
        rcases alive with old | new
        · exact gone old
        · have same : number = s.invocations.length := List.mem_singleton.mp new
          omega
    · rw [refused]
      exact ⟨received, gone⟩
  | turn ready =>
    have subsiding := turn_subsiding sound ready
    exact ⟨subsiding.length ▸ received, fun alive => gone (subsiding.unfinished alive)⟩
  | wake => exact ⟨received, gone⟩
  | pass => exact ⟨received, gone⟩

/-- A handler that has come to its end takes no turn any more. -/
theorem Run.ended_idle (run : Run s events t) (balanced : Balanced s) (ended : Ended number s) :
    ∀ e ∈ events, e.isBy number = false := by
  induction run with
  | nil => exact fun e member => absurd member List.not_mem_nil
  | cons step _ ih =>
    have later := ih (step.balanced balanced) (step.ended balanced.sound ended)
    intro e member
    rcases List.mem_append.mp member with here | there
    · cases step with
      | receive m =>
        rw [List.mem_singleton.mp here]
        rfl
      | turn ready =>
        rw [List.mem_singleton.mp here]
        refine Bool.eq_false_iff.mpr fun taken => ?_
        obtain ⟨charge, charged, rfl⟩ := Option.map_eq_some_iff.mp (beq_iff_eq.mp taken)
        exact ended.gone (balanced.alive ready charged)
      | wake => cases here
      | pass => cases here
    · exact later e there

/-- Only the turns of a handler ask a backend for it. -/
theorem Event.isBy_of_asks {e : Event} (asks : e.asks number) : e.isBy number = true := by
  cases e with
  | received => exact asks.elim
  | turn s job =>
    obtain ⟨⟨id, charged⟩, -⟩ := asks
    rw [Event.isBy, charged, Option.map_some, beq_self_eq_true]

/-- A handler that has come to its end asks no backend any more. -/
theorem Run.ended_never (run : Run s events t) (balanced : Balanced s) (ended : Ended number s) :
    ∀ e ∈ events, ¬e.asks number := by
  intro e member asks
  have taken := Event.isBy_of_asks asks
  rw [run.ended_idle balanced ended e member] at taken
  cases taken

end Order

/-! ## Before the message is taken up -/

section TakingUp

variable {s t u : Session} {events : List Event} {number : Nat} {job : Job Work} {rest : List (Job Work)}

/-- Nothing that follows from work takes up a message. -/
theorem Follows.begun {settings : Settings} {now : Instant} {work next : Work}
    (follows : Follows settings now work next) (handler : Handler) (message : Message) :
    next ≠ .handle number handler message := by
  rintro rfl
  cases follows with
  | idle idle => cases idle
  | succeeds succeeds => cases succeeds
  | ticks _ signal => cases signal

theorem FollowsAt.begun {settings : Settings} {now due : Instant} {work next : Work}
    (follows : FollowsAt settings now work due next) (handler : Handler) (message : Message) :
    next ≠ .handle number handler message := by
  rintro rfl
  cases follows with
  | succeeds succeeds _ => cases succeeds
  | ticks _ signal => cases signal

/-- A turn takes up no message behind the job that is ready first. -/
theorem TakenUp.turn (sound : Sound [] s) (ready : s.desk.agenda.ready = job :: rest)
    (received : number < s.invocations.length)
    (begun : ∀ other ∈ (s.taken rest).desk.agenda.jobs, ∀ handler message,
      other.work ≠ .handle number handler message) : TakenUp number (perform job (s.taken rest)) := by
  have succession := turn_succession sound ready
  refine ⟨(turn_subsiding sound ready).length ▸ received, fun other member handler message => ?_⟩
  rcases List.mem_append.mp member with there | there
  · rcases succession.ready other there with before | follows
    · exact begun other (List.mem_append_left _ before) handler message
    · exact follows.begun handler message
  · obtain ⟨timer, waits, rfl⟩ := List.mem_map.mp there
    rcases succession.timers timer waits with before | follows
    · exact begun timer.job (List.mem_append_right _ (List.mem_map_of_mem before)) handler message
    · exact follows.begun handler message

theorem Step.takenUp (step : Step s events t) (sound : Sound [] s) (taken : TakenUp number s) :
    TakenUp number t := by
  obtain ⟨received, begun⟩ := taken
  cases step with
  | receive m =>
    rcases handle_cases sound.own m with ⟨sink, handler, _, started⟩ | ⟨sink, _, refused⟩
    · rw [started]
      refine ⟨?_, fun job member handler' message => ?_⟩
      · show number < (s.invocations ++ [_]).length
        rw [List.length_append]
        exact Nat.lt_succ_of_lt received
      · rcases List.mem_cons.mp ((Agenda.jobs_spawn _).mem_iff.mp member) with rfl | old
        · rintro ⟨⟩
          exact Nat.lt_irrefl _ received
        · exact begun job old handler' message
    · rw [refused]
      exact ⟨received, begun⟩
  | turn ready =>
    refine .turn sound ready received fun other member => begun other ?_
    rw [Agenda.jobs_of_ready ready]
    exact List.mem_cons_of_mem _ member
  | wake _ soonest =>
    refine ⟨received, fun job member => begun job ?_⟩
    rw [← Agenda.jobs_ring soonest]
    exact member
  | pass => exact ⟨received, begun⟩

/-- No other job is charged with the handler of a turn's work. -/
theorem Balanced.alone (balanced : Balanced s) (ready : s.desk.agenda.ready = job :: rest) {id id' : Option RequestId}
    (charged : job.work.charge? = some ⟨number, id⟩) {other : Job Work}
    (member : other ∈ (s.taken rest).desk.agenda.jobs) : other.work.charge? ≠ some ⟨number, id'⟩ := by
  obtain ⟨owed, ledger⟩ := balanced.ledger
  intro charged'
  exact ledger.alone balanced.sound ready charged member charged' rfl

/-- Before its message is taken up, a handler takes no turn. -/
theorem Run.early (run : Run s events u) (balanced : Balanced s) {handler : Handler} {message : Message}
    {ticket : Nat} (ready : u.desk.agenda.ready = ⟨ticket, .handle number handler message⟩ :: rest) :
    ∀ e ∈ events, e.isBy number = false := by
  induction run with
  | nil => exact fun e member => absurd member List.not_mem_nil
  | @cons s mid u first later step path ih =>
    intro e member
    rcases List.mem_append.mp member with here | there
    · cases step with
      | receive m =>
        rw [List.mem_singleton.mp here]
        rfl
      | @turn job rest' own =>
        rw [List.mem_singleton.mp here]
        refine Bool.eq_false_iff.mpr fun taken => ?_
        obtain ⟨charge, charged, rfl⟩ := Option.map_eq_some_iff.mp (beq_iff_eq.mp taken)
        obtain ⟨owed, ledger⟩ := balanced.ledger
        have received := ledger.received (balanced.alive own charged)
        have begun : TakenUp charge.number (perform job (s.taken rest')) := by
          refine .turn balanced.sound own received fun other there handler message same => ?_
          have charged' : other.work.charge? = some ⟨charge.number, handler.owes message⟩ := by
            rw [same]
            rfl
          exact ledger.alone balanced.sound own charged there charged' rfl
        have still := path.invariant (fun s => Sound [] s ∧ TakenUp charge.number s)
          (fun ⟨sound, taken⟩ step => ⟨step.sound sound, step.takenUp sound taken⟩)
          ⟨balanced.sound.turn own, begun⟩
        refine still.2.begun ⟨ticket, .handle charge.number handler message⟩ ?_ handler message rfl
        rw [Agenda.jobs_of_ready ready]
        exact List.mem_cons_self ..
      | wake => cases here
      | pass => cases here
    · exact ih (step.balanced balanced) ready e there

end TakingUp

end EditorAssist.Session

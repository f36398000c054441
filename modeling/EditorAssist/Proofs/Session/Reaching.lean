import EditorAssist.Proofs.Session.Events

/-!
# Which completions reach a backend

A completion that is admitted waits for its delay. The first event after it that supersedes it or starts it
decides: a completion that is superseded, or that starts when it is stale or when no backend is selected, is
answered without items and never reaches a backend, and one that starts fresh, for a backend that is selected,
does.
-/

namespace EditorAssist.Session

open EditorAssist.Backend EditorAssist.Debounce EditorAssist.Journal EditorAssist.Json
open EditorAssist.Payload EditorAssist.Settings EditorAssist.Time EditorAssist.Wire

/-! ## The course of a completion -/

/-- What comes of a completion that waits for an instant, in a run with some events. -/
inductive Course (completion : CompletionJob) (due : Int) (events : List Event) (t : Session) : Prop
  /-- It still waits. -/
  | waits (undecided : ∀ e ∈ events, ¬e.decides completion.invocation)
      (never : ∀ e ∈ events, ¬e.asks completion.invocation) (still : Awaits completion due t)
  /-- It is superseded. -/
  | superseded {e : Event} (decided : DecidedBy completion.invocation events e) (supersedes : e.supersedes)
      (never : ∀ x ∈ events, ¬x.asks completion.invocation)
      (ends : e.endsEmpty completion.invocation completion.id)
  /-- It starts when no backend is selected or when it is no longer fresh. -/
  | idle {s : Session} {job : Job Work} (decided : DecidedBy completion.invocation events (.turn s job))
      (starts : (Event.turn s job).starts completion.invocation) (punctual : s.now.nanos = due)
      (vain : ¬(s.Selected ∧ s.Fresh completion)) (never : ∀ x ∈ events, ¬x.asks completion.invocation)
      (ends : (Event.turn s job).endsEmpty completion.invocation completion.id)
  /-- It starts while it is fresh, for the backend that is selected. -/
  | asked {s : Session} {job : Job Work} (decided : DecidedBy completion.invocation events (.turn s job))
      (starts : (Event.turn s job).starts completion.invocation) (punctual : s.now.nanos = due)
      (serves : s.Selected ∧ s.Fresh completion) (asks : (Event.turn s job).asks completion.invocation)

section Courses

variable {s t : Session} {first events : List Event} {e : Event} {number ticket : Nat} {due : Int}
  {completion : CompletionJob} {job : Job Work} {rest : List (Job Work)}

theorem DecidedBy.head (decides : e.decides number) (events : List Event) : DecidedBy number (e :: events) e :=
  ⟨decides, [], events, rfl, fun _ member => absurd member List.not_mem_nil⟩

theorem DecidedBy.append (decided : DecidedBy number events e) (undecided : ∀ x ∈ first, ¬x.decides number) :
    DecidedBy number (first ++ events) e := by
  obtain ⟨decides, earlier, later, rfl, quiet⟩ := decided
  refine ⟨decides, first ++ earlier, later, by rw [List.append_assoc], fun x member => ?_⟩
  exact (List.mem_append.mp member).elim (undecided x) (quiet x)

/-- Events that do not bear on a completion may come before. -/
theorem Course.append (course : Course completion due events t)
    (undecided : ∀ e ∈ first, ¬e.decides completion.invocation)
    (never : ∀ e ∈ first, ¬e.asks completion.invocation) : Course completion due (first ++ events) t := by
  have both : ∀ {p : Event → Prop}, (∀ e ∈ first, p e) → (∀ e ∈ events, p e) → ∀ e ∈ first ++ events, p e :=
    fun here there e member => (List.mem_append.mp member).elim (here e) (there e)
  cases course with
  | waits quiet silent still => exact .waits (both undecided quiet) (both never silent) still
  | superseded decided supersedes silent ends => exact .superseded (decided.append undecided) supersedes (both never silent) ends
  | idle decided starts punctual vain silent ends =>
    exact .idle (decided.append undecided) starts punctual vain (both never silent) ends
  | asked decided starts punctual serves asks => exact .asked (decided.append undecided) starts punctual serves asks

/-- What starts a completion is charged with its handler. -/
theorem Work.charged_of_starts {work : Work} (starts : work.starts number) :
    ∃ id, work.charge? = some ⟨number, id⟩ := by
  cases work with
  | fire key action =>
    cases action with
    | complete completion =>
      have own : completion.invocation = number := starts
      exact ⟨completion.id, by rw [← own]; rfl⟩
    | clear uri => cases starts
  | _ => cases starts

/-- The turns of other work neither start a completion nor ask for it. -/
theorem Awaits.others (awaits : Awaits completion due (s.taken rest)) (balanced : Balanced s)
    (ready : s.desk.agenda.ready = job :: rest) :
    ¬(Event.turn s job).starts completion.invocation ∧ ¬(Event.turn s job).asks completion.invocation := by
  obtain ⟨own, member, -, charged⟩ := awaits.job
  have other : ¬∃ id, job.work.charge? = some ⟨completion.invocation, id⟩ := fun ⟨id, charged'⟩ =>
    balanced.alone ready charged' member charged
  exact ⟨fun starts => other (Work.charged_of_starts starts), fun asks => other asks.1⟩

/-- When a completion has been answered without items, its course is over. -/
theorem EndsEmpty.ended {id : Option RequestId} (ends : EndsEmpty number id s (perform job (s.taken rest)))
    (balanced : Balanced s) (ready : s.desk.agenda.ready = job :: rest) : Ended number (perform job (s.taken rest)) :=
  ⟨(turn_subsiding balanced.sound ready).length ▸ balanced.received ends.before, ends.after⟩

/-- The course of a completion through a run. -/
theorem Run.course (run : Run s events t) (balanced : Balanced s) (awaits : Awaits completion due s) :
    Course completion due events t := by
  induction run with
  | nil =>
    exact .waits (fun _ member => absurd member List.not_mem_nil) (fun _ member => absurd member List.not_mem_nil)
      awaits
  | @cons s mid t first later step path ih =>
    cases step with
    | receive m =>
      have course := ih ((Step.receive s m).balanced balanced) (awaits.receive balanced.sound m)
      refine course.append ?_ ?_
      · rintro e member (supersedes | starts) <;> rw [List.mem_singleton.mp member] at * <;> assumption
      · rintro e member asks
        rw [List.mem_singleton.mp member] at asks
        exact asks
    | wake idle soonest => exact ih ((Step.wake idle soonest).balanced balanced) (awaits.ring idle soonest)
    | pass idle quiet forward => exact ih ((Step.pass idle quiet forward).balanced balanced) (awaits.pass idle _)
    | @turn job rest ready =>
      have balanced' := (Step.turn ready).balanced balanced
      have turned := turned_eq ready
      -- One more event that does not bear on the completion.
      have goes : ¬job.work.supersedes s → ¬(Event.turn s job).starts completion.invocation →
          ¬(Event.turn s job).asks completion.invocation →
          Awaits completion due (perform job (s.taken rest)) →
          Course completion due ([.turn s job] ++ later) t := by
        intro harmless idle silent still
        refine (ih balanced' still).append ?_ ?_
        · intro e member
          rw [List.mem_singleton.mp member]
          rintro (supersedes | starts)
          · exact harmless supersedes
          · exact idle starts
        · intro e member
          rw [List.mem_singleton.mp member]
          exact silent
      -- The completion comes to its end without a request to a backend.
      have ends : EndsEmpty completion.invocation completion.id s (perform job (s.taken rest)) →
          ¬(Event.turn s job).asks completion.invocation →
          ∀ x ∈ [.turn s job] ++ later, ¬x.asks completion.invocation := by
        intro empty silent x member
        rcases List.mem_append.mp member with here | there
        · rw [List.mem_singleton.mp here]
          exact silent
        · exact Run.ended_never path balanced' (empty.ended balanced ready) x there
      rcases awaits.first_or ready with ⟨own, start⟩ | ⟨own, start⟩ | behind
      · obtain ⟨ticket, work⟩ := job
        cases own
        refine goes id id ?_ ?_
        · rintro ⟨-, more⟩
          rw [turned] at more
          exact Nat.lt_irrefl _ more
        · rw [← start]
          exact .begins (s.taken rest) ticket
      · obtain ⟨ticket, work⟩ := job
        cases own
        have starts : (Event.turn s ⟨ticket, .fire completionKey (.complete completion)⟩).starts
            completion.invocation := rfl
        have decided : DecidedBy completion.invocation
            (.turn s ⟨ticket, .fire completionKey (.complete completion)⟩ :: later)
            (.turn s ⟨ticket, .fire completionKey (.complete completion)⟩) := .head (.inr starts) later
        by_cases serves : s.Selected ∧ s.Fresh completion
        · refine .asked decided starts start serves ⟨⟨completion.id, rfl⟩, ?_⟩
          rw [turned]
          exact fresh_asks completionKey serves.1 serves.2
        · obtain ⟨empty, same⟩ := idle_ends_empty balanced.sound ready (balanced.alive ready rfl) serves
          refine .idle decided starts start serves (ends empty ?_) ?_
          · rintro ⟨-, more⟩
            rw [turned, same] at more
            exact Nat.lt_irrefl _ more
          · show EndsEmpty _ _ s (s.turned _)
            rw [turned]
            exact empty
      · obtain ⟨idle, silent⟩ := behind.others balanced ready
        by_cases supersedes : job.work.supersedes s
        · obtain ⟨owed, ledger⟩ := balanced.ledger
          have empty := awaits.superseded balanced.sound ledger ready supersedes
          have decided : DecidedBy completion.invocation (.turn s job :: later) (.turn s job) :=
            .head (e := .turn s job) (.inl supersedes) later
          refine .superseded decided supersedes (ends empty silent) ?_
          show EndsEmpty _ _ s (s.turned job)
          rw [turned]
          exact empty
        · exact goes supersedes idle silent (behind.turn balanced.sound ready supersedes)

theorem DecidedBy.mem (decided : DecidedBy number events e) : e ∈ events := by
  obtain ⟨-, earlier, later, rfl, -⟩ := decided
  exact List.mem_append_right _ (List.mem_cons_self ..)

/-- It is decided on a completion when its delay is over. -/
theorem Course.decided (course : Course completion due events t) (sound : Sound [] t)
    (late : due < t.now.nanos) : ∃ e, DecidedBy completion.invocation events e := by
  cases course with
  | waits _ _ still => exact absurd late (Int.not_lt.mpr (still.now_le sound))
  | superseded decided => exact ⟨_, decided⟩
  | idle decided => exact ⟨_, decided⟩
  | asked decided => exact ⟨_, decided⟩

end Courses

/-- A document is opened. -/
def openingMessage : Message :=
  ⟨"2.0", none, some "textDocument/didOpen", .obj [("textDocument", .obj [("uri", .str "file:///a.c"),
    ("languageId", .str "c"), ("version", .int 1), ("text", .str "int x")])], .null, none⟩

/-- A completion is asked for at its end. -/
def completionMessage : Message :=
  ⟨"2.0", some (.number 2), some "textDocument/completion",
    .obj [("textDocument", .obj [("uri", .str "file:///a.c")]),
      ("position", .obj [("line", .int 0), ("character", .int 5)])], .null, none⟩

/-- The completion as it is delayed. -/
def delayedCompletion : CompletionJob := ⟨1, some (.number 2), ⟨⟨"file:///a.c"⟩, ⟨0, 5⟩, none⟩, 1⟩

/-- A session that delays completions by nothing. -/
def promptSession (registry : Registry) : Session :=
  Session.start { Settings.defaults "" with debounce := 0 } registry .initial

/-- Such a session in which a document was opened and a completion at its end has been asked for. -/
def promptedSession (registry : Registry) : Session :=
  (((promptSession registry).handle openingMessage).turned ⟨0, .handle 0 .opening openingMessage⟩).handle
    completionMessage

/-- The session in which the completion is delayed. -/
def delayingSession (registry : Registry) : Session :=
  (promptedSession registry).turned ⟨1, .handle 1 .completion completionMessage⟩

/-- The session in which its delay is over. -/
def dueSession (registry : Registry) : Session :=
  (delayingSession registry).turned ⟨2, .delay completionKey (.ofMillis (0 : Nat)) (.complete delayedCompletion)⟩

/-- The completion runs its course, whatever backends there are. -/
theorem run_promptSession (registry : Registry) :
    Run (promptSession registry)
      ([.received openingMessage,
          .turn ((promptSession registry).handle openingMessage) ⟨0, .handle 0 .opening openingMessage⟩,
          .received completionMessage] ++
        .turn (promptedSession registry) ⟨1, .handle 1 .completion completionMessage⟩ ::
          [.turn (delayingSession registry)
              ⟨2, .delay completionKey (.ofMillis (0 : Nat)) (.complete delayedCompletion)⟩,
            .turn (dueSession registry) ⟨2, .fire completionKey (.complete delayedCompletion)⟩])
      ((dueSession registry).turned ⟨2, .fire completionKey (.complete delayedCompletion)⟩) := by
  have early : Run (promptSession registry)
      ([.received openingMessage] ++
        ([.turn ((promptSession registry).handle openingMessage) ⟨0, .handle 0 .opening openingMessage⟩] ++
          ([.received completionMessage] ++ []))) (promptedSession registry) :=
    .cons (.receive _ _) (.cons (.turn rfl) (.cons (.receive _ _) (.nil _)))
  have late : Run (promptedSession registry)
      ([.turn (promptedSession registry) ⟨1, .handle 1 .completion completionMessage⟩] ++
        ([.turn (delayingSession registry)
            ⟨2, .delay completionKey (.ofMillis (0 : Nat)) (.complete delayedCompletion)⟩] ++
          ([.turn (dueSession registry) ⟨2, .fire completionKey (.complete delayedCompletion)⟩] ++ [])))
      ((dueSession registry).turned ⟨2, .fire completionKey (.complete delayedCompletion)⟩) :=
    .cons (.turn rfl) (.cons (.turn rfl) (.cons (.turn rfl) (.nil _)))
  exact early.append late

/-- A session that delays completions by nothing and has one backend. -/
def eagerSession : Session :=
  promptSession ⟨[("openai", .of .openai "gpt-4.1-mini" none 15000 [])], "openai", []⟩

end EditorAssist.Session

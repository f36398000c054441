import EditorAssist.Proofs.Session.Running

/-!
# Requests to backends

Whatever else a session does, it is only the fetching of completions and the chats of commands that make
requests to backends, and a completion that is fetched makes one at least.
-/

namespace EditorAssist.Session

open EditorAssist.Backend EditorAssist.Completion EditorAssist.Debounce EditorAssist.Journal
open EditorAssist.Payload EditorAssist.Settings EditorAssist.Time EditorAssist.Wire

/-- The number of requests for completions that were made to backends. -/
def completionsAsked (s : Session) : Nat :=
  s.registry.requests.countP fun request => match request.topic with
    | .completion _ => true
    | .chat _ => false

/-- A backend is selected that is registered. -/
def Selected (s : Session) : Prop := ∃ backend, s.registry.get none = .ok backend

/-! ## What asks nobody -/

section Silent

variable (s : Session)

@[simp]
theorem registry_log (level : Level) (service message : String) (tags : Tags) :
    (s.log level service message tags).registry = s.registry := rfl

@[simp]
theorem registry_conclude (number : Nat) (fault : Option Fault) :
    (s.conclude number fault).registry = s.registry := rfl

@[simp]
theorem registry_finish (number : Nat) : (s.finish number).registry = s.registry := rfl

@[simp]
theorem registry_spawn (work : Work) : (s.spawn work).1.registry = s.registry := rfl

@[simp]
theorem registry_mapAgenda (f : Agenda Work → Agenda Work) : (s.mapAgenda f).registry = s.registry := rfl

@[simp]
theorem registry_send (m : Outbound) : (s.send m).registry = s.registry := by
  obtain ⟨sink, sent⟩ := send_eq s m
  rw [sent]

@[simp]
theorem registry_respondItems (id : Option RequestId) (items : List CompletionItem) :
    (s.respondItems id items).registry = s.registry := by
  rw [respondItems, respond, registry_send]

@[simp]
theorem registry_answerCompletion (job : CompletionJob) (items : List CompletionItem) :
    (s.answerCompletion job items).registry = s.registry := by
  rw [answerCompletion, registry_finish, registry_respondItems]

@[simp]
theorem registry_withdrawn (entry : Entry DelayedAction) : (s.withdrawn entry).registry = s.registry := by
  obtain ⟨sink, outbox, invocations, same⟩ := withdrawn_eq s entry
  rw [same]

@[simp]
theorem registry_schedule (key : String) (span : Span) (action : DelayedAction) :
    (s.schedule key span action).registry = s.registry := by
  unfold schedule
  dsimp only
  split <;> simp

@[simp]
theorem registry_cancelPending (key : String) : (s.cancelPending key).registry = s.registry := by
  unfold cancelPending
  dsimp only
  split <;> simp

@[simp]
theorem registry_publish (diagnostics : List Diagnostic) (timeout : Span) :
    (s.publish diagnostics timeout).registry = s.registry := by
  unfold publish
  dsimp only
  split
  · rfl
  · split <;> simp

@[simp]
theorem registry_resetDiagnostics : s.resetDiagnostics.registry = s.registry := by
  unfold resetDiagnostics
  dsimp only
  split <;> simp [clearDiagnostics]

@[simp]
theorem registry_startSignal (active : ActiveSignal) : (s.startSignal active).1.registry = s.registry := by
  unfold startSignal announce
  split
  · rfl
  · dsimp only
    split <;> simp [progressBegin, createProgress, requestWith]

@[simp]
theorem registry_stopSignal (active : ActiveSignal) : (s.stopSignal active).1.registry = s.registry := by
  unfold stopSignal
  split
  · rfl
  · dsimp only
    split <;> simp [progressEnd]

@[simp]
theorem registry_deliver (job : CompletionJob) (context : CursorContext) (range : Range)
    (result : Except Fault (List Suggestion)) : (s.deliver job context range result).registry = s.registry := by
  unfold deliver
  split
  · dsimp only
    split <;> simp
  · simp [publishOne]

@[simp]
theorem registry_endCompletion (pending : Completing) (result : Except Fault (List Suggestion)) :
    (s.endCompletion pending result).registry = s.registry := by
  simp [endCompletion, endTimed]

end Silent

/-! ## What asks -/

section Asking

variable {s t : Session}

theorem completionsAsked_congr (same : t.registry = s.registry) : t.completionsAsked = s.completionsAsked := by
  rw [completionsAsked, completionsAsked, same]

/-- A request for a completion is counted. -/
theorem completionsAsked_call {name : String} {provider : Provider} {query : CompletionQuery} {answer : Answer}
    {registry : Registry} (called : s.registry.call name provider (.completion query) = (answer, registry)) :
    s.completionsAsked < ({ s with registry } : Session).completionsAsked := by
  obtain ⟨-, rfl⟩ := Prod.mk.inj called
  unfold completionsAsked
  dsimp only
  rw [List.countP_append]
  exact Nat.lt_succ_self _

/-- Asking a backend makes a request at least. -/
theorem completionsAsked_ask (ticket remaining : Nat) (pending : Completing) (s : Session) :
    s.completionsAsked < (ask ticket remaining pending s).completionsAsked := by
  fun_induction ask ticket remaining pending s with
  | case5 _ _ _ _ _ called => exact Nat.lt_trans (completionsAsked_call called) ‹_›
  | case6 _ _ _ _ _ _ called => exact completionsAsked_call called
  | case1 _ _ _ _ _ _ called | case2 _ _ _ _ _ _ called | case3 _ _ _ _ _ _ called | case4 _ _ _ _ _ called =>
    rw [completionsAsked_congr (registry_endCompletion _ _ _)]
    exact completionsAsked_call called

/-- The selected backend is asked for a completion that is fetched. -/
theorem completionsAsked_fetchCompletion (selected : s.Selected) (ticket : Nat) (job : CompletionJob)
    (document : Document) : s.completionsAsked < (s.fetchCompletion ticket job document).completionsAsked := by
  obtain ⟨⟨backend, provider⟩, found⟩ := selected
  unfold fetchCompletion
  dsimp only
  rw [found]
  refine Nat.lt_of_le_of_lt (Nat.le_of_eq ?_) (completionsAsked_ask ..)
  refine (completionsAsked_congr ?_).symm
  simp only [beginTimed, registry_log, registry_startSignal]
  split <;> simp [showMessage]

/-- Without a backend nobody is asked for a completion that is fetched. -/
theorem registry_fetchCompletion (unselected : ¬s.Selected) (ticket : Nat) (job : CompletionJob)
    (document : Document) : (s.fetchCompletion ticket job document).registry = s.registry := by
  unfold fetchCompletion
  dsimp only
  split
  · simp only [registry_deliver, registry_stopSignal, registry_startSignal]
    split <;> simp [showMessage]
  · next selected => exact absurd ⟨_, selected⟩ unselected

end Asking

/-! ## The selected backend -/

section Selection

variable {hand : List (Job Work)} {s t u : Session} {ticket : Nat} {work : Work}

theorem isSome_find?_put (name wanted : String) (provider : Provider) (backends : List (String × Provider))
    (found : (backends.find? (·.1 == wanted)).isSome) :
    ((Registry.put name provider backends).find? (·.1 == wanted)).isSome := by
  induction backends with
  | nil => cases found
  | cons entry rest ih =>
    rw [List.find?_cons] at found
    unfold Registry.put
    split
    · next own =>
      have own : entry.1 = name := beq_iff_eq.mp own
      rw [List.find?_cons]
      rw [own] at found
      split at found
      · next here =>
        dsimp only
        rw [here]
        rfl
      · next other =>
        dsimp only
        rw [other]
        exact found
    · rw [List.find?_cons]
      split at found
      · rfl
      · exact ih found

/-- A request leaves the selected backend registered. -/
theorem Selected.call (selected : s.Selected) (name : String) (provider : Provider) (topic : Topic) :
    ({ s with registry := (s.registry.call name provider topic).2 } : Session).Selected := by
  obtain ⟨backend, found⟩ := selected
  unfold Registry.get at found
  dsimp only at found
  split at found
  · cases found
  · next given =>
    split at found
    · next provider' there =>
      have kept := isSome_find?_put name s.registry.current (provider.take).2 s.registry.backends
        (by rw [← Option.isSome_map (f := (·.2))]; exact Option.isSome_of_eq_some there)
      obtain ⟨entry, still⟩ := Option.isSome_iff_exists.mp kept
      refine ⟨(s.registry.current, entry.2), ?_⟩
      unfold Registry.get Registry.find? Registry.call
      dsimp only
      rw [if_neg given, still]
      rfl
    · cases found

theorem Selected.of_registry (selected : s.Selected) (same : t.registry = s.registry) : t.Selected := by
  rw [Selected, same]
  exact selected

theorem Micro.selected {deeds : List Deed} (step : Micro hand s deeds t) (selected : s.Selected) : t.Selected := by
  cases step with
  | call name provider topic => exact selected.call name provider topic
  | note | edit | start | stop => exact selected
  | say m => exact selected.of_registry (registry_send s m)
  | arm uri span => exact selected.of_registry (registry_schedule ..)
  | disarm uri => exact selected.of_registry (registry_cancelPending ..)

theorem Does.selected {arms starts : Nat} {topics : List Topic} (does : Does hand s arms starts topics t)
    (selected : s.Selected) : t.Selected := by
  obtain ⟨deeds, aside, -⟩ := does
  exact aside.invariant Selected (fun selected step => step.selected selected) selected

theorem Selected.foldl_withdrawn (selected : s.Selected) (entries : List (Entry DelayedAction)) :
    (entries.foldl Session.withdrawn s).Selected := by
  obtain ⟨sink, outbox, invocations, same⟩ := foldl_withdrawn_eq entries s
  rw [same]
  exact selected

theorem Effect.selected (effect : Effect hand s ticket work t) (selected : s.Selected) : t.Selected := by
  cases effect with
  | silent _ does => exact does.selected selected
  | answers _ does _ _ after =>
    exact after.selected ((does.selected selected).of_registry (registry_send ..))
  | goesOn does _ _ _ placed =>
    have before := does.selected selected
    cases placed <;> exact before
  | delays _ _ _ => exact selected.of_registry (registry_schedule ..)
  | @shutsDown _ message _ =>
    obtain ⟨sink, same⟩ := shutdown_eq s message
    have all : s.closing.cancelAllPending.Selected :=
      Selected.foldl_withdrawn (s := { s.closing with desk := s.closing.desk.cancelAll.1 }) selected _
    show (s.shutdown message).Selected
    rw [same]
    exact all
  | clears _ does => exact does.selected selected
  | ticks _ does => exact does.selected selected

theorem Step.selected {events : List Event} (step : Step s events t) (sound : Sound [] s)
    (selected : s.Selected) : t.Selected := by
  cases step with
  | receive m =>
    rcases handle_cases sound.own m with ⟨sink, handler, _, started⟩ | ⟨sink, _, refused⟩
    · rw [started]
      exact selected
    · rw [refused]
      exact selected
  | @turn job rest ready =>
    obtain ⟨ticket, work⟩ := job
    rcases work.delay_or with ⟨key, span, action, rfl⟩ | starts
    · exact selected
    · refine (perform_effect sound ready starts).selected ?_
      cases work <;> exact selected
  | wake => exact selected
  | pass => exact selected

/-- Throughout a run a backend stays selected. -/
theorem Run.selected {events : List Event} (run : Run s events t) (sound : Sound [] s)
    (selected : s.Selected) : t.Selected :=
  (run.invariant (fun s => Sound [] s ∧ s.Selected)
    (fun ⟨sound, selected⟩ step => ⟨step.sound sound, step.selected sound selected⟩) ⟨sound, selected⟩).2

end Selection

end EditorAssist.Session

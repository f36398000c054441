import EditorAssist.Proofs.Backend.Agreement

/-!
# Requests to the selected backend

A registry whose selected backend is registered passes every request on to it. The request may fail as requests to the
backend do, but never because no backend is found; and whatever comes of it, the next one is passed on just so.
-/

namespace EditorAssist

open EditorAssist.Json

/-! ## Faults of the registry -/

namespace Fault

/-- Whether the fault is that no backend is selected, or that the one selected is not registered. -/
def isSelection (f : Fault) : Bool :=
  match f.kind with
  | .notConfigured | .backendNotFound .. => true
  | _ => false

theorem isSelection_of_isBackendFault {f : Fault} (own : f.isBackendFault = true) : f.isSelection = false := by
  unfold isBackendFault at own
  unfold isSelection
  cases kind : f.kind with
  | backendNotFound | notConfigured =>
    rw [kind] at own
    cases own
  | _ => rfl

/-- Whatever the client of a provider raises, it is no fault of the registry when it leaves the backend. -/
theorem isSelection_ofProvider (backend : String) (ms : Int) (f : Fault) :
    (ofProvider backend ms f).isSelection = false := by
  obtain corresponds | ⟨-, unreadable, -⟩ := ofProvider_cases backend backend ms f
  · exact isSelection_of_isBackendFault corresponds.isBackendFault.1
  · rw [unreadable]
    rfl

end Fault

namespace Backend

open EditorAssist.Time

/-- A result that is no fault of the registry. -/
def Delivered {α : Type} (result : Except Fault α) : Prop := ∀ f, result = .error f → f.isSelection = false

theorem Delivered.ok {α : Type} (found : α) : Delivered (.ok found : Except Fault α) := nofun

theorem Delivered.error {α : Type} {f : Fault} (other : f.isSelection = false) :
    Delivered (.error f : Except Fault α) := by
  rintro _ ⟨⟩
  exact other

theorem Delivered.map {α β : Type} {result : Except Fault α} (delivered : Delivered result) (f : α → β) :
    Delivered (result.map f) := by
  cases result with
  | ok found => exact .ok _
  | error fault => exact .error (delivered fault rfl)

/-! ## Registering and selecting -/

namespace Registry

variable {r : Registry} {name other : String} {p : Provider}

end Registry

namespace Provider

variable {p : Provider} {q : ChatQuery} {r : Response}

theorem itemsOf_delivered (key : String) (v : Value) : Delivered (itemsOf key v) := by
  unfold itemsOf
  dsimp only
  split
  · exact .ok _
  · split
    · exact .ok _
    · exact .ok _
    · exact .error rfl

theorem contents_delivered (p : Provider) (r : Response) : Delivered (p.contents r) := by
  unfold contents
  cases p.kind with
  | openai =>
    cases r with
    | texts items => exact .ok _
    | object v => exact (itemsOf_delivered "choices" v).map _
  | anthropic =>
    cases r with
    | texts items => exact .ok _
    | object v => exact (itemsOf_delivered "content" v).map _

theorem batchOf_delivered (p : Provider) (outcome : Except Fault Response) : Delivered (p.batchOf outcome) := by
  cases outcome with
  | ok r => exact (contents_delivered p r).map _
  | error f => exact .error (Fault.isSelection_ofProvider ..)

/-- The next answer leaves all of a provider but its answers. -/
theorem take_eq (p : Provider) : ∃ answers, p.take.2 = { p with answers } := by
  unfold take
  split
  · exact ⟨p.answers, rfl⟩
  · next rest _ => exact ⟨rest, rfl⟩

end Provider

/-! ## Attempts -/

theorem Suggestion.distinct_delivered (suggestions : List Suggestion) : Delivered (distinct suggestions) := by
  unfold distinct
  split
  · exact .error rfl
  · exact .ok _

namespace Collection

variable {c : Collection} {outcome result : Except Fault (List Suggestion)}

theorem stop_delivered {f : Fault} (other : f.isSelection = false) (ends : (c.stop f).result? = some result) :
    Delivered result := by
  unfold stop at ends
  split at ends
  · cases ends
    exact .error other
  · cases ends
    exact Suggestion.distinct_delivered _

theorem feed_delivered (delivered : Delivered outcome) (ends : (c.feed outcome).result? = some result) :
    Delivered result := by
  unfold feed at ends
  cases outcome with
  | ok batch =>
    dsimp only at ends
    split at ends
    · cases ends
      exact Suggestion.distinct_delivered _
    · cases ends
  | error f =>
    dsimp only at ends
    split at ends
    · exact stop_delivered rfl ends
    · split at ends
      · exact stop_delivered (delivered f rfl) ends
      · cases ends
        exact delivered

theorem outcome_delivered (c : Collection) (p : Provider) (now : Instant) (answer : Answer) :
    Delivered (c.outcome p now answer).1 := by
  unfold Collection.outcome
  split
  · exact Provider.batchOf_delivered p _
  · dsimp only
    split
    · exact .error rfl
    · exact Provider.batchOf_delivered p _

end Collection

/-! ## Requests -/

namespace Station

/-- The station behind a request. -/
def behind (s : Station) : Topic → Station
  | .completion q => (s.completion q).2
  | .chat q => (s.chat q).2

/-- A station whose selected backend is the one of a name: a provider, whatever answers it has left. -/
structure Serves (s : Station) (name : String) (p : Provider) : Prop where
  named : name ≠ ""
  current : s.registry.current = name
  found : ∃ answers, s.registry.find? name = some { p with answers }

section Requests

variable {s : Station} {name : String} {p : Provider} {topic : Topic} {c : Collection} {times : List Instant}
  {ended : Except Fault (List Suggestion) × Station}

theorem Serves.get (serves : s.Serves name p) : ∃ answers, s.registry.get none = .ok (name, { p with answers }) := by
  obtain ⟨answers, found⟩ := serves.found
  exact ⟨answers, Registry.get_none_eq_ok.mpr ⟨serves.current, serves.named, found⟩⟩

theorem Course.delivered (course : Course name topic c s times ended) : Delivered ended.1 := by
  induction course with
  | last _ ends => exact Collection.feed_delivered (Collection.outcome_delivered _ _ _ _) ends
  | again _ _ _ ih => exact ih

/-- A collection leaves the provider with some of its answers. -/
theorem Course.found (course : Course name topic c s times ended)
    (found : s.registry.get (some name) = .ok (name, p)) :
    ∃ answers, ended.2.registry.get (some name) = .ok (name, { p with answers }) := by
  induction course generalizing p with
  | @last _ _ q _ found' =>
    cases found.symm.trans found'
    obtain ⟨answers, left⟩ := q.take_eq
    exact ⟨answers, left ▸ attempted_get _ _ found⟩
  | @again _ _ _ q _ _ found' _ _ ih =>
    cases found.symm.trans found'
    obtain ⟨taken, left⟩ := q.take_eq
    obtain ⟨answers, held⟩ := ih (attempted_get _ _ found)
    rw [left] at held
    exact ⟨answers, held⟩

end Requests

section Completions

variable {s : Station} {name : String} {p : Provider}

/-- A completion follows the course of a collection from the selected backend. -/
theorem Serves.completion (serves : s.Serves name p) (q : CompletionQuery) :
    ∃ begun times ended answers, begun.registry = s.registry ∧ begun.now = s.now ∧
      begun.registry.get (some name) = .ok (name, { p with answers }) ∧
      Course name (.completion q) (.start p.kind.name q.count q.timeoutMs s.now) begun times ended ∧
      (s.completion q).1 = ended.1 ∧ (s.completion q).2.registry = ended.2.registry := by
  obtain ⟨answers, selected⟩ := serves.get
  obtain ⟨-, named, found⟩ := Registry.get_none_eq_ok.mp selected
  let begun := s.begin_ p.kind.service "completion" [("model", .text p.model), ("count", .int q.count)]
  have held : begun.registry.get (some name) = .ok (name, { p with answers }) :=
    Registry.get_some_eq_ok.mpr ⟨named, found⟩
  obtain ⟨times, course⟩ := exists_course (.completion q) (.start p.kind.name q.count q.timeoutMs s.now) held
  refine ⟨begun, times, _, answers, rfl, rfl, held, course, ?_, ?_⟩
  · rw [Station.completion, selected]
    rfl
  · rw [Station.completion, selected]
    rfl

theorem Serves.after_completion (serves : s.Serves name p) (q : CompletionQuery) :
    (s.behind (.completion q)).Serves name p := by
  obtain ⟨begun, times, ended, answers, registry, -, held, course, -, after⟩ := serves.completion q
  obtain ⟨left, found⟩ := course.found held
  rw [behind]
  refine ⟨serves.named, ?_, left, ?_⟩
  · rw [after, course.current, registry, serves.current]
  · rw [after]
    exact (Registry.get_some_eq_ok.mp found).2

end Completions

section Chats

variable {s : Station} {name : String} {p : Provider}

theorem Serves.chat (serves : s.Serves name p) (q : ChatQuery) :
    ∃ answers, s.registry.find? name = some { p with answers } ∧
      (s.chat q).1 = (p.chatResult q { p with answers }.take.1.outcome).map (·.content) ∧
      (s.chat q).2.registry = (s.registry.call name { p with answers } (.chat q)).2 := by
  obtain ⟨answers, selected⟩ := serves.get
  obtain ⟨-, -, found⟩ := Registry.get_none_eq_ok.mp selected
  refine ⟨answers, found, ?_, ?_⟩
  · rw [Station.chat, selected]
    rfl
  · rw [Station.chat, selected]
    dsimp only
    unfold noteReply
    split <;> rfl

theorem Serves.after_chat (serves : s.Serves name p) (q : ChatQuery) : (s.behind (.chat q)).Serves name p := by
  obtain ⟨answers, found, -, after⟩ := serves.chat q
  obtain ⟨left, taken⟩ := Provider.take_eq { p with answers }
  have held := Registry.get_call (Registry.get_some_eq_ok.mpr ⟨serves.named, found⟩) (p := { p with answers }) (.chat q)
  rw [taken] at held
  rw [behind]
  refine ⟨serves.named, ?_, left, ?_⟩
  · rw [after]
    exact serves.current
  · rw [after]
    exact (Registry.get_some_eq_ok.mp held).2

end Chats

section Runs

variable {s : Station} {name : String} {p : Provider}

/-- The selected backend serves on behind every request, -/
theorem Serves.behind (serves : s.Serves name p) (topic : Topic) : (s.behind topic).Serves name p := by
  cases topic with
  | completion q => exact serves.after_completion q
  | chat q => exact serves.after_chat q

end Runs

end Station

end Backend

end EditorAssist

import EditorAssist.Proofs.Backend.Courses

/-!
# Both kinds of backends agree

What a backend suggests does not depend on the kind of its provider. Given the same replies, one kind as choices
and the other as blocks of text, two backends send as many requests at the same instants and come to the same
suggestions, or to faults of the same class with the same text. Reading a status that is infinite is the one
case in which the fault is none of a backend.
-/

namespace EditorAssist

open EditorAssist.Json EditorAssist.Number

/-! ## Faults of two backends -/

namespace Fault

/-- Whether the response of a fault has a status that fits no integer. -/
def HasInfiniteStatus (f : Fault) : Prop :=
  ∃ x negative, (Entries.get? "response" f.attributes).bind (Value.get? "status_code") = some (.float x) ∧
    Binary64.ofFloat x = .infinite negative

/-- Faults that two backends raise for the same reason: they differ in the name of the backend only, and not
even in that when the provider's client raised a backend's fault itself. -/
inductive Corresponds (backend other : String) : Fault → Fault → Prop
  | same {f : Fault} (own : f.isBackendFault = true) : Corresponds backend other f f
  | timeout (ms : Int) (cause : Option Fault) :
      Corresponds backend other (.mk (.backendTimeout backend ms) [] cause) (.mk (.backendTimeout other ms) [] cause)
  | failure (message : String) (cause : Option Fault) :
      Corresponds backend other (.mk (.backendFailure backend message) [] cause)
        (.mk (.backendFailure other message) [] cause)

section Correspondence

variable {backend other : String} {f g fault : Fault} {ms : Int}

theorem Corresponds.isBackendFault (corresponds : Corresponds backend other f g) :
    f.isBackendFault = true ∧ g.isBackendFault = true := by
  cases corresponds with
  | same own => exact ⟨own, own⟩
  | timeout => exact ⟨rfl, rfl⟩
  | failure => exact ⟨rfl, rfl⟩

theorem Corresponds.className (corresponds : Corresponds backend other f g) : g.className = f.className := by
  cases corresponds <;> rfl

theorem Corresponds.text (corresponds : Corresponds backend other f g) : g.text = f.text := by
  cases corresponds <;> rfl

/-- A backend's fault is no timeout of an awaited operation. -/
theorem isDeadline_of_isBackendFault (own : f.isBackendFault = true) : f.isDeadline = false := by
  unfold isBackendFault at own
  unfold isDeadline
  split
  · next same =>
    rw [same] at own
    cases own
  · rfl

theorem statusNumber?_eq_error {code : Value} (wrong : statusNumber? code = .error fault) :
    fault = overflow ∧ ∃ x negative, code = .float x ∧ Binary64.ofFloat x = .infinite negative := by
  cases code with
  | float x =>
    unfold statusNumber? at wrong
    dsimp only at wrong
    split at wrong
    · next negative infinite =>
      cases wrong
      exact ⟨rfl, x, negative, rfl, infinite⟩
    · cases wrong
  | _ => cases wrong

/-- A status can be read unless it is infinite. -/
theorem status?_eq_error (wrong : f.status? = .error fault) : fault = overflow ∧ f.HasInfiniteStatus := by
  unfold status? at wrong
  split at wrong
  · cases wrong
  · split at wrong
    · cases wrong
    · next code given =>
      split at wrong
      · cases wrong
      · cases number : statusNumber? code with
        | ok status =>
          rw [number] at wrong
          cases wrong
        | error met =>
          rw [number] at wrong
          cases wrong
          obtain ⟨rfl, x, negative, rfl, infinite⟩ := statusNumber?_eq_error number
          exact ⟨rfl, x, negative, given, infinite⟩

/-- What a fault of the provider's client means to two backends. -/
theorem ofProvider_cases (backend other : String) (ms : Int) (f : Fault) :
    Corresponds backend other (ofProvider backend ms f) (ofProvider other ms f) ∨
      f.HasInfiniteStatus ∧ ofProvider backend ms f = overflow ∧ ofProvider other ms f = overflow := by
  unfold ofProvider providerKind
  by_cases own : f.isBackendFault = true
  · rw [if_pos own, if_pos own]
    exact .inl (.same own)
  · rw [if_neg own, if_neg own]
    by_cases late : f.isTimeout = true
    · rw [if_pos late, if_pos late]
      exact .inl (.timeout ms (some f))
    · rw [if_neg late, if_neg late]
      by_cases unconnected : connectionClasses.contains f.qualifiedName = true
      · rw [if_pos unconnected, if_pos unconnected]
        exact .inl (.failure _ (some f))
      · rw [if_neg unconnected, if_neg unconnected]
        cases status : f.status? with
        | ok status => exact .inl (.failure _ (some f))
        | error fault =>
          obtain ⟨rfl, infinite⟩ := status?_eq_error status
          exact .inr ⟨infinite, rfl, rfl⟩

end Correspondence

end Fault

namespace Backend

open EditorAssist.Journal EditorAssist.Time

/-! ## Replies -/

/-- What the client of a provider replies: texts or a fault, and the time it takes. -/
structure Reply where
  outcome : Except Fault (List String)
  delay : Span

/-- Texts as the two kinds of providers send them: as the messages of choices, or as blocks of text. -/
def ProviderKind.response (kind : ProviderKind) (texts : List String) : Response :=
  match kind with
  | .openai => .object (.obj [("choices", .arr (texts.map fun text =>
      .obj [("message", .obj [("content", .str text)])]))])
  | .anthropic => .object (.obj [("content", .arr (texts.map fun text =>
      .obj [("type", .str "text"), ("text", .str text)]))])

/-- A reply as an answer of one kind of provider. -/
def Reply.answer (kind : ProviderKind) (r : Reply) : Answer := ⟨r.outcome.map kind.response, r.delay⟩

/-- What there is when the replies have run out. -/
def Reply.exhausted : Reply := ⟨.error (Fault.standard "RuntimeError" (some "no more replies")), .zero⟩

/-- What a reply means to a backend. -/
def Reply.batch (backend : String) (timeoutMs : Int) (r : Reply) : Except Fault (List Suggestion) :=
  match r.outcome with
  | .ok texts => .ok ((texts.filter (!·.isEmpty)).map .str)
  | .error f => .error (Fault.ofProvider backend timeoutMs f)

/-- A provider that is going to give some replies. -/
structure Provider.Gives (p : Provider) (timeoutMs : Int) (script : List Reply) : Prop where
  timeout : p.timeoutMs = timeoutMs
  answers : p.answers = script.map (·.answer p.kind)

section Replies

variable {p : Provider} {timeoutMs : Int} {script : List Reply}

/-- There is something in a text unless it is empty. -/
theorem filter_texts (texts : List String) :
    (texts.map Value.str).filter (!Suggestion.isNothing ·) = (texts.filter (!·.isEmpty)).map .str :=
  List.filter_map

/-- The items of a field that holds a list are those of the list, also when there are none. -/
theorem itemsOf_single (key : String) (items : List Value) :
    Provider.itemsOf key (.obj [(key, .arr items)]) = .ok items := by
  have given : (Value.obj [(key, .arr items)]).get? key = some (.arr items) := by
    simp [Value.get?, Entries.get?]
  unfold Provider.itemsOf
  rw [given]
  cases items with
  | nil => rfl
  | cons first rest => rfl

theorem contents_choices (texts : List String) (own : p.kind = .openai) :
    p.contents (ProviderKind.openai.response texts) = .ok ((texts.filter (!·.isEmpty)).map .str) := by
  have contents : (texts.map fun text => Value.obj [("message", .obj [("content", .str text)])]).filterMap
      (fun choice => (choice.get? "message").bind (·.get? "content")) = texts.map Value.str := by
    rw [List.filterMap_map]
    exact congrFun (List.filterMap_eq_map (f := Value.str)) texts
  unfold Provider.contents
  rw [own]
  show (Provider.itemsOf "choices" _).map _ = _
  rw [itemsOf_single, Except.map, contents, filter_texts]

/-- A text is kept as it is, also an empty one. -/
theorem contentOrEmpty_str (text : String) : Provider.contentOrEmpty (.str text) = .str text := by
  unfold Provider.contentOrEmpty
  split
  · next nothing =>
    have blank : text.isEmpty = true := nothing
    rw [String.isEmpty_iff.mp blank]
  · rfl

theorem contents_blocks (texts : List String) (own : p.kind = .anthropic) :
    p.contents (ProviderKind.anthropic.response texts) = .ok (texts.map Value.str) := by
  have all : (texts.map fun text => Value.obj [("type", .str "text"), ("text", .str text)]).filter
      Provider.isTextBlock = texts.map fun text => Value.obj [("type", .str "text"), ("text", .str text)] := by
    refine List.filter_eq_self.mpr fun block member => ?_
    obtain ⟨text, -, rfl⟩ := List.mem_map.mp member
    rfl
  unfold Provider.contents
  rw [own]
  show (Provider.itemsOf "content" _).map _ = _
  rw [itemsOf_single, Except.map, all, List.map_map]
  exact congrArg Except.ok (List.map_congr_left fun text _ => contentOrEmpty_str text)

/-- Both kinds find the same texts in a reply: those in which there is something. -/
theorem batchOf_answer (p : Provider) (r : Reply) :
    p.batchOf (r.answer p.kind).outcome = r.batch p.kind.name p.timeoutMs := by
  unfold Reply.answer Reply.batch
  cases r.outcome with
  | error f => rfl
  | ok texts =>
    show (p.contents (p.kind.response texts)).map _ = _
    cases own : p.kind with
    | openai =>
      rw [contents_choices texts own, Except.map, filter_texts, List.filter_filter]
      simp only [Bool.and_self]
    | anthropic => rw [contents_blocks texts own, Except.map, filter_texts]

theorem Provider.Gives.take (gives : p.Gives timeoutMs script) :
    p.take.1 = (script.headD .exhausted).answer p.kind ∧ p.take.2.kind = p.kind ∧
      p.take.2.Gives timeoutMs script.tail := by
  obtain ⟨timeout, answers⟩ := gives
  unfold Provider.take
  cases script with
  | nil =>
    rw [answers]
    exact ⟨rfl, rfl, timeout, answers⟩
  | cons reply rest =>
    rw [answers]
    exact ⟨rfl, rfl, timeout, rfl⟩

end Replies

/-! ## Attempts of two backends -/

/-- Whether some reply is a fault whose status is infinite. -/
def HasInfiniteStatus (script : List Reply) : Prop :=
  ∃ reply ∈ script, ∃ f, reply.outcome = .error f ∧ f.HasInfiniteStatus

/-- Results of two backends that agree: the same suggestions, or corresponding faults. Where a status is
infinite both meet the fault of reading it. -/
inductive Agree (backend other : String) (script : List Reply) :
    Except Fault (List Suggestion) → Except Fault (List Suggestion) → Prop
  | suggestions (items : List Suggestion) : Agree backend other script (.ok items) (.ok items)
  | faults {f g : Fault} (corresponds : f.Corresponds backend other g) :
      Agree backend other script (.error f) (.error g)
  | unreadable (infinite : HasInfiniteStatus script) :
      Agree backend other script (.error Fault.overflow) (.error Fault.overflow)

/-- Collections of two backends that stand alike. All they have kept are texts. -/
structure Collection.Alike (c c' : Collection) : Prop where
  timeoutMs : c'.timeoutMs = c.timeoutMs
  deadline : c'.deadline = c.deadline
  remaining : c'.remaining = c.remaining
  kept : c'.kept = c.kept
  texts : ∃ texts : List String, c.kept = texts.map .str

/-- Steps of two backends that lead to alike collections or to results that agree. -/
inductive Collection.Step.Alike (backend other : String) (script : List Reply) : Step → Step → Prop
  | again {next next' : Collection} (alike : next.Alike next') (one : next.backend = backend)
      (two : next'.backend = other) : Alike backend other script (.again next) (.again next')
  | ends {step step' : Step} {result result' : Except Fault (List Suggestion)} (one : step.result? = some result)
      (two : step'.result? = some result') (agree : Agree backend other script result result') :
      Alike backend other script step step'

section Attempts

variable {c c' : Collection} {backend other : String} {script : List Reply} {timeoutMs : Int} {now : Instant}
  {p p' : Provider}

/-- Texts can always be told apart. -/
theorem distinct_texts (texts : List String) : ∃ items, Suggestion.distinct (texts.map .str) = .ok items := by
  unfold Suggestion.distinct
  split
  · next suggestion found =>
    obtain ⟨text, -, rfl⟩ := List.mem_map.mp (List.mem_of_find?_eq_some found)
    have incomparable := List.find?_some found
    cases incomparable
  · exact ⟨_, rfl⟩

/-- Corresponding faults end alike collections alike: with what they have, or with the faults. -/
theorem Collection.Alike.stop (alike : c.Alike c') {f g : Fault} (corresponds : f.Corresponds backend other g) :
    Step.Alike backend other script (c.stop f) (c'.stop g) := by
  unfold Collection.stop
  rw [alike.kept]
  obtain ⟨texts, kept⟩ := alike.texts
  obtain ⟨items, distinct⟩ := distinct_texts texts
  rw [kept, distinct]
  split
  · exact .ends rfl rfl (.faults corresponds)
  · exact .ends rfl rfl (.suggestions items)

/-- When the deadline comes first, both time out. -/
theorem Collection.Alike.late (alike : c.Alike c') (one : c.backend = backend) (two : c'.backend = other) :
    Step.Alike backend other script (c.feed (.error Fault.deadline)) (c'.feed (.error Fault.deadline)) := by
  show Step.Alike _ _ _ (c.stop (Fault.backendTimeout c.backend (c.timeoutMs.getD 0)))
    (c'.stop (Fault.backendTimeout c'.backend (c'.timeoutMs.getD 0)))
  rw [alike.timeoutMs, one, two]
  exact alike.stop (.timeout _ none)

/-- A reply leads alike collections on alike. -/
theorem Collection.Alike.feed (alike : c.Alike c') (one : c.backend = backend) (two : c'.backend = other)
    {reply : Reply}
    (listed : ∀ f, reply.outcome = .error f → f.HasInfiniteStatus → HasInfiniteStatus script) :
    Step.Alike backend other script (c.feed (reply.batch backend timeoutMs))
      (c'.feed (reply.batch other timeoutMs)) := by
  unfold Reply.batch
  cases outcome : reply.outcome with
  | ok texts =>
    obtain ⟨before, kept⟩ := alike.texts
    have gathered : c.kept ++ ((texts.filter (!·.isEmpty)).map Value.str).filter (!Suggestion.isNothing ·) =
        (before ++ texts.filter (!·.isEmpty)).map .str := by
      rw [kept, filter_texts, List.filter_filter, List.map_append]
      simp only [Bool.and_self]
    obtain ⟨items, distinct⟩ := distinct_texts (before ++ texts.filter (!·.isEmpty))
    unfold Collection.feed
    dsimp only
    rw [alike.kept, alike.remaining, gathered]
    cases c.remaining with
    | zero =>
      rw [distinct]
      exact .ends rfl rfl (.suggestions items)
    | succ more => exact .again ⟨alike.timeoutMs, alike.deadline, rfl, rfl, _, rfl⟩ one two
  | error f =>
    rcases Fault.ofProvider_cases backend other timeoutMs f with corresponds | ⟨infinite, here, there⟩
    · obtain ⟨own, own'⟩ := corresponds.isBackendFault
      unfold Collection.feed
      dsimp only
      rw [Fault.isDeadline_of_isBackendFault own, Fault.isDeadline_of_isBackendFault own', own, own']
      exact alike.stop corresponds
    · dsimp only
      rw [here, there]
      exact .ends rfl rfl (.unreadable (listed f outcome infinite))

theorem Collection.Alike.resolution (alike : c.Alike c') (delay : Span) :
    c'.resolution now delay = c.resolution now delay := by
  unfold Collection.resolution
  rw [alike.deadline]

/-- An attempt of either backend is over at the same time and leads them on alike. -/
theorem Collection.Alike.step (alike : c.Alike c') (now : Instant) (one : c.backend = p.kind.name) (two : c'.backend = p'.kind.name)
    (gives : p.Gives timeoutMs script) (gives' : p'.Gives timeoutMs script) :
    Step.Alike p.kind.name p'.kind.name script (c.step p now) (c'.step p' now) ∧
      (c'.outcome p' now p'.take.1).2 = (c.outcome p now p.take.1).2 := by
  have listed : ∀ f, (script.headD .exhausted).outcome = .error f → f.HasInfiniteStatus →
      HasInfiniteStatus script := by
    intro f outcome infinite
    cases script with
    | nil =>
      cases outcome
      obtain ⟨x, negative, given, -⟩ := infinite
      cases given
    | cons reply rest => exact ⟨reply, List.mem_cons_self .., f, outcome, infinite⟩
  have batch := batchOf_answer p (script.headD .exhausted)
  have batch' := batchOf_answer p' (script.headD .exhausted)
  rw [gives.timeout] at batch
  rw [gives'.timeout] at batch'
  have delay (kind : ProviderKind) :
      ((script.headD .exhausted).answer kind).delay = (script.headD .exhausted).delay := rfl
  unfold Collection.step Collection.outcome
  rw [gives.take.1, gives'.take.1, batch, batch', delay, delay, alike.resolution]
  by_cases instant : (script.headD .exhausted).delay.isInstant = true
  · rw [if_pos instant, if_pos instant]
    exact ⟨alike.feed one two listed, rfl⟩
  · rw [if_neg instant, if_neg instant]
    refine ⟨?_, rfl⟩
    dsimp only
    split
    · exact alike.late one two
    · exact alike.feed one two listed

end Attempts

/-! ## Courses of two backends -/

namespace Station

/-- A station at which a backend of some kind is registered under a name that is going to get some replies. -/
def Keeps (s : Station) (name : String) (kind : ProviderKind) (timeoutMs : Int) (script : List Reply) : Prop :=
  ∃ p, s.registry.get (some name) = .ok (name, p) ∧ p.kind = kind ∧ p.Gives timeoutMs script

section Courses

variable {s s' : Station} {name name' : String} {kind kind' : ProviderKind} {timeoutMs : Int}
  {script : List Reply} {topic : Topic} {c c' : Collection} {times : List Instant}
  {ended : Except Fault (List Suggestion) × Station} {p : Provider}

end Courses

/-! ## Completions -/

/-- A station that has selected a backend of some kind that is going to get some replies. -/
def Selects (s : Station) (kind : ProviderKind) (timeoutMs : Int) (script : List Reply) : Prop :=
  ∃ name p, s.registry.get none = .ok (name, p) ∧ p.kind = kind ∧ p.Gives timeoutMs script

/-- The tags of the records of a completion. -/
def completionTags (p : Provider) (q : CompletionQuery) : Tags := [("model", .text p.model), ("count", .int q.count)]

/-- The course of a completion at a station: the instants at which it sends its requests, its result and the
station when all suggestions have been collected. -/
def Completes (s : Station) (q : CompletionQuery) (times : List Instant)
    (ended : Except Fault (List Suggestion) × Station) : Prop :=
  ∃ name p, s.registry.get none = .ok (name, p) ∧
    Course name (.completion q) (Collection.start p.kind.name q.count q.timeoutMs s.now)
      (s.begin_ p.kind.service "completion" (completionTags p q)) times ended

section Completions

variable {s t : Station} {q : CompletionQuery} {times : List Instant} {name : String} {p : Provider}
  {kind : ProviderKind} {script : List Reply} {timeoutMs : Int}
  {ended : Except Fault (List Suggestion) × Station}

/-- A completion is what its course comes to, apart from a record. -/
theorem Completes.completion (completes : s.Completes q times ended) :
    (s.completion q).1 = ended.1 ∧ (s.completion q).2.now = ended.2.now ∧
      (s.completion q).2.registry = ended.2.registry := by
  obtain ⟨name, p, found, course⟩ := completes
  have under : s.registry.get (some name) = .ok (name, p) :=
    Registry.get_some_eq_ok.mpr (Registry.get_none_eq_ok.mp found).2
  have begun : (s.begin_ p.kind.service "completion" (completionTags p q)).registry.get (some name) =
      .ok (name, p) := under
  obtain ⟨times', own⟩ :=
    exists_course (.completion q) (Collection.start p.kind.name q.count q.timeoutMs s.now) begun
  obtain ⟨-, same⟩ := course.unique own
  unfold Station.completion
  rw [found, ← same]
  exact ⟨rfl, rfl, rfl⟩

theorem Selects.of_registry {after : Station} (selects : s.Selects kind timeoutMs script)
    (registry : after.registry = s.registry) : after.Selects kind timeoutMs script := by
  unfold Selects
  rw [registry]
  exact selects

end Completions

end Station

end Backend

end EditorAssist

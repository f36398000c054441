import EditorAssist.Proofs.Session.Turn

/-!
# Turns of completions

A completion whose delay is over is skipped, or asks its backend until the collection has what it needs.
Every such turn answers the request or leaves work that waits for suggestions, until the deadline at most.
-/

namespace EditorAssist.Session

open EditorAssist.Backend EditorAssist.Completion EditorAssist.Debounce EditorAssist.Journal
open EditorAssist.Payload EditorAssist.Settings EditorAssist.Time EditorAssist.Wire

section Completions

variable {hand : List (Job Work)} {b t t₁ : Session} {ticket : Nat} {work : Work} {topics : List Topic}

/-- The outcome of a completion is an answer, with a diagnostic if it failed. -/
theorem Effect.deliver {job : CompletionJob} (charge : work.charge? = some ⟨job.invocation, job.id⟩)
    (deeds : work.lastDeeds = (1, work.deeds.2)) (does : Does hand b 0 work.deeds.2 topics t)
    (asks : ∀ topic ∈ topics, work.mayAsk topic = true) (context : CursorContext) (range : Range)
    (result : Except Fault (List Suggestion)) :
    Effect hand b ticket work (t.deliver job context range result) := by
  have within : ∀ {u : Session}, Does hand b 1 work.deeds.2 topics u →
      Does hand b work.lastDeeds.1 work.lastDeeds.2 topics u := by
    rw [deeds]
    exact fun more => more
  have less : ∀ {u : Session}, Does hand b 0 work.deeds.2 topics u →
      Does hand b work.lastDeeds.1 work.lastDeeds.2 topics u :=
    fun few => within (few.mono (Nat.zero_le _) (Nat.le_refl _))
  unfold Session.deliver
  split
  · have noted := does.log .info "handler.completion" "completion hints"
    dsimp only
    split
    · exact .respond charge (less (noted _)) asks _
    · exact .respond charge (less ((noted _).log _ _ _ _)) asks _
  · exact .respond charge (within ((does.log _ _ _ _).publishOne _ _ _ _)) asks _

/-- What the state of a collection is when another attempt follows. -/
theorem feed_again {c next : Collection} {outcome : Except Fault (List Suggestion)}
    (fed : c.feed outcome = .again next) :
    next.remaining < c.remaining ∧ next.deadline = c.deadline := by
  unfold Collection.feed at fed
  split at fed
  · dsimp only at fed
    split at fed
    · cases fed
    · next more remaining =>
      cases fed
      rw [remaining]
      exact ⟨Nat.lt_succ_self _, rfl⟩
  · unfold Collection.stop at fed
    split at fed <;> (try split at fed) <;> (try split at fed) <;> cases fed

/-- A collection that is handed on may go through another attempt before. -/
theorem Succeeds.next {settings : Settings} {now : Instant} {pending : Completing}
    (succeeds : ∀ outcome, Succeeds settings now work (.suggestions pending outcome)) {next : Collection}
    (fewer : next.remaining < pending.collection.remaining)
    (deadline : next.deadline = pending.collection.deadline) :
    ∀ outcome, Succeeds settings now work (.suggestions { pending with collection := next } outcome) := by
  intro outcome
  cases succeeds outcome with
  | fetched same few by_then =>
    exact .fetched same (Nat.le_trans (Nat.le_of_lt fewer) few) (deadline.trans by_then)
  | again same few by_then => exact .again same (Nat.lt_trans fewer few) (deadline.trans by_then)

/-- An answer, or its absence, is noticed by the deadline. -/
theorem resolution_le {c : Collection} {now deadline due : Instant} {delay : Span} {late : Bool}
    (resolved : c.resolution now delay = (due, late)) (limited : c.deadline = some deadline) :
    due.nanos ≤ deadline.nanos := by
  unfold Collection.resolution at resolved
  rw [limited] at resolved
  dsimp only at resolved
  split at resolved
  · cases resolved
    exact Int.le_refl _
  · next early =>
    cases resolved
    exact Int.le_of_lt (Int.not_le.mp early)

/-- The end of a backend's work on a completion stops its signal and delivers the outcome. The signal
was started before `t₁`. -/
theorem Effect.endCompletion {pending : Completing} (sound : Sound hand t₁)
    (before : Does hand b 0 work.deeds.2 [] t₁) (owned : Owned hand t₁ pending.active)
    (charge : work.charge? = some ⟨pending.job.invocation, pending.job.id⟩)
    (deeds : work.lastDeeds = (1, work.deeds.2)) (does : Does hand t₁ 0 0 topics t)
    (asks : ∀ topic ∈ topics, work.mayAsk topic = true) (result : Except Fault (List Suggestion)) :
    Effect hand b ticket work (t.endCompletion pending result) := by
  have ended := (does.log .info pending.provider.kind.service "completion"
    ((completionTags pending.provider pending.query).completed
      (pending.since.millisBetween t.now))).stopSignal sound owned
  exact Effect.deliver charge deeds (before.trans ended) asks _ _ _

/-- Asking the backend ends with an answer, or with work that waits for suggestions. -/
theorem Effect.ask (pending : Completing) (sound : Sound hand t₁)
    (before : Does hand b 0 work.deeds.2 [] t₁) (owned : Owned hand t₁ pending.active)
    (charge : work.charge? = some ⟨pending.job.invocation, pending.job.id⟩)
    (deeds : work.lastDeeds = (1, work.deeds.2))
    (succeeds : ∀ outcome, Succeeds b.settings b.now work (.suggestions pending outcome))
    (may : ∀ query, work.mayAsk (.completion query) = true) (remaining : Nat)
    (does : Does hand t₁ 0 0 topics t) (asks : ∀ topic ∈ topics, work.mayAsk topic = true) :
    Effect hand b ticket work (Session.ask ticket remaining pending t) := by
  have more : ∀ {topics : List Topic} {query : CompletionQuery},
      (∀ topic ∈ topics, work.mayAsk topic = true) →
        ∀ topic ∈ topics ++ [.completion query], work.mayAsk topic = true := by
    intro topics query asks topic member
    rcases List.mem_append.mp member with old | new
    · exact asks topic old
    · rw [List.mem_singleton.mp new]
      exact may query
  fun_induction Session.ask ticket remaining pending t generalizing topics with
  | case1 _ _ _ _ _ _ called =>
    exact .endCompletion sound before owned charge deeds (does.call called) (more asks) _
  | case2 _ _ _ _ _ _ called =>
    exact .endCompletion sound before owned charge deeds (does.call called) (more asks) _
  | case3 _ _ _ _ _ _ called =>
    exact .endCompletion sound before owned charge deeds ((does.call called).log _ _ _ _) (more asks) _
  | case4 _ _ _ _ _ called =>
    exact .endCompletion sound before owned charge deeds (does.call called) (more asks) _
  | case5 _ _ _ _ _ called _ _ next fed _ =>
    rename_i ih
    obtain ⟨fewer, deadline⟩ := feed_again fed
    exact ih owned charge (Succeeds.next succeeds fewer deadline) (does.call called) (more asks)
  | case6 _ _ _ _ _ _ called =>
    rename_i resolved _
    have asked := does.call called
    have whole := (before.trans asked).mono (Nat.zero_le work.deeds.1) (Nat.le_refl work.deeds.2)
    refine .goesOn whole (more asks) (succeeds _) ?_ (.waits _ ?_)
    · rintro active ⟨⟩
      exact owned.does asked sound
    · exact fun deadline limited => resolution_le resolved limited

/-- An answer of the backend is taken. -/
theorem Effect.takeSuggestions {pending : Completing} {outcome : Except Fault (List Suggestion)}
    (sound : Sound hand b) (owned : Owned hand b pending.active) :
    Effect hand b ticket (.suggestions pending outcome) (b.takeSuggestions ticket pending outcome) := by
  have nothing : Does hand b 0 0 [] b := .refl b
  unfold Session.takeSuggestions
  split
  · exact .endCompletion sound nothing owned rfl rfl nothing (by simp) _
  · exact .endCompletion sound nothing owned rfl rfl nothing (by simp) _
  · exact .endCompletion sound nothing owned rfl rfl (nothing.log _ _ _ _) (by simp) _
  · next following fed =>
    obtain ⟨fewer, deadline⟩ := feed_again fed
    have succeeds : ∀ later, Succeeds b.settings b.now (.suggestions pending outcome)
        (.suggestions { pending with collection := following } later) :=
      fun later => .again rfl fewer deadline
    have may : ∀ query, (Work.suggestions pending outcome).mayAsk (.completion query) = true :=
      fun _ => rfl
    exact .ask { pending with collection := following } sound nothing owned rfl rfl succeeds may _ nothing
      (by simp)

/-- The number of attempts is the number of suggestions that are asked for, or one. -/
theorem start_remaining_le (backend : String) (count : Nat) (timeoutMs : Option Int) (now : Instant) :
    (Collection.start backend count timeoutMs now).remaining ≤ count := by
  simp only [Collection.start]
  omega

/-- The selected backend is asked, or there is none. -/
theorem Effect.fetchCompletion {key : String} {job : CompletionJob} (sound : Sound hand b)
    (document : Document) :
    Effect hand b ticket (.fire key (.complete job)) (b.fetchCompletion ticket job document) := by
  have nothing : Does hand b 0 0 [] b := .refl b
  have called := nothing.log .info "handler.completion" "calling completion"
    [("language", .text document.languageId), ("backend", .text b.registry.current)]
  unfold Session.fetchCompletion
  dsimp only
  generalize told : (if b.settings.spinner = true then _ else _) = t
  have does : Does hand b 0 0 [] t := by
    rw [← told]
    split
    · exact called
    · exact called.say _ rfl
  have unmoved := (does.keeps sound).2
  obtain ⟨started, owned⟩ := does.startSignal sound ⟨completionSignal b.settings job.params, none⟩
    (tickInterval_slow _) rfl
  generalize t.startSignal ⟨completionSignal b.settings job.params, none⟩ = signalled at started owned
  obtain ⟨t₁, active⟩ := signalled
  have soundly := (started.keeps sound).1
  dsimp only at started owned soundly ⊢
  split
  · have stopped := (Does.refl t₁).stopSignal soundly owned
    exact .deliver rfl rfl (started.trans stopped) (by simp) _ _ _
  · next backend provider selected =>
    have succeeds : ∀ outcome, Succeeds b.settings b.now (.fire key (.complete job)) (.suggestions
        { job, context := CursorContext.at_ document.text.toList job.params.position.line
            job.params.position.character
          range := completionRange job.params.position, active, backend, provider
          query := completionQuery b.settings document (CursorContext.at_ document.text.toList
            job.params.position.line job.params.position.character)
          since := b.now
          collection := Collection.start provider.kind.name b.settings.suggestions
            (some (b.settings.completionTimeout : Int)) b.now } outcome) :=
      fun outcome => .fetched rfl (start_remaining_le _ _ _ _) rfl
    have may : ∀ query, (Work.fire key (.complete job)).mayAsk (.completion query) = true :=
      fun _ => rfl
    exact .ask _ soundly started owned rfl rfl succeeds may _ ((Does.refl t₁).log _ _ _ _) (by simp)

/-- When its delay is over, a completion is skipped or fetched. -/
theorem Effect.complete {key : String} {job : CompletionJob} (sound : Sound hand b) :
    Effect hand b ticket (.fire key (.complete job)) (b.complete ticket job) := by
  have skipped : Effect hand b ticket (.fire key (.complete job))
      ((b.log .info "handler.completion" "skipping stale completion"
        [("uri", .text job.params.textDocument.uri), ("version", .int job.version)]).answerCompletion
          job []) :=
    .respond rfl (((Does.refl b).log _ _ _ _).mono (Nat.zero_le _) (Nat.zero_le _)) (by simp) _
  unfold Session.complete
  dsimp only
  split
  · exact skipped
  · split
    · exact skipped
    · exact .fetchCompletion sound _

end Completions

end EditorAssist.Session

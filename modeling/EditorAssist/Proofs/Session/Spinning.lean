import EditorAssist.Proofs.Session.Executing

/-!
# Which turns bear on signals

The signal of a request is started by the turn that begins to work on it and stopped by the turn that answers it,
before anything else is said. In between the request takes turns that say nothing at all. Apart from that only the
ticks of a signal tell of progress, and no other turn starts or stops a signal.
-/

namespace EditorAssist.Session

open EditorAssist.Backend EditorAssist.Completion EditorAssist.Debounce EditorAssist.Journal
open EditorAssist.Payload EditorAssist.Settings EditorAssist.Time EditorAssist.Wire

/-- Messages that tell of the progress of a request. -/
def Outbound.isProgress : Outbound → Bool
  | progress _ => true
  | createProgress .. => true
  | _ => false

namespace Act

/-- Whether a stroke starts or stops a signal. -/
def Spins : Act → Prop
  | starts _ => True
  | stops _ => True
  | _ => False

/-- What bears on no signal and asks no backend: nothing is told of progress, and no signal is started or stopped. -/
def IsCalm : Act → Prop
  | sends m => m.isProgress = false
  | asks _ => False
  | starts _ => False
  | stops _ => False
  | _ => True

/-- What bears on no signal and gives no message. -/
def IsMute : Act → Prop
  | asks _ => True
  | _ => False

theorem IsCalm.steady {act : Act} (calm : act.IsCalm) : ¬act.Spins := by
  cases act with
  | starts | stops => exact calm.elim
  | _ => exact id

theorem IsMute.steady {act : Act} (mute : act.IsMute) : ¬act.Spins := by
  cases act with
  | asks => exact id
  | _ => exact mute.elim

end Act

/-! ## Tokens -/

section Tokens

variable (s : Session)

@[simp]
theorem tokens_send (m : Outbound) : (s.send m).tokens = s.tokens := by
  obtain ⟨sink, sent⟩ := send_eq s m
  rw [sent]

@[simp]
theorem tokens_withdrawn (entry : Entry DelayedAction) : (s.withdrawn entry).tokens = s.tokens := by
  obtain ⟨sink, outbox, invocations, same⟩ := withdrawn_eq s entry
  rw [same]

@[simp]
theorem tokens_schedule (key : String) (span : Span) (action : DelayedAction) :
    (s.schedule key span action).tokens = s.tokens := by
  unfold schedule
  dsimp only
  split <;> simp

@[simp]
theorem tokens_cancelPending (key : String) : (s.cancelPending key).tokens = s.tokens := by
  unfold cancelPending
  dsimp only
  split <;> simp

@[simp]
theorem tokens_cancelAllPending : s.cancelAllPending.tokens = s.tokens := by
  obtain ⟨sink, outbox, invocations, same⟩ :=
    foldl_withdrawn_eq s.desk.cancelAll.2 { s with desk := s.desk.cancelAll.1 }
  show (s.desk.cancelAll.2.foldl Session.withdrawn { s with desk := s.desk.cancelAll.1 }).tokens = _
  rw [same]

@[simp]
theorem tokens_publish (diagnostics : List Diagnostic) (timeout : Span) :
    (s.publish diagnostics timeout).tokens = s.tokens := by
  unfold publish
  dsimp only
  split
  · rfl
  · split <;> simp [log]

@[simp]
theorem tokens_resetDiagnostics : s.resetDiagnostics.tokens = s.tokens := by
  unfold resetDiagnostics
  dsimp only
  split <;> simp [clearDiagnostics]

end Tokens

/-! ## What leaves signals alone -/

/-- Some strokes of one sort, among which no token is made up. -/
structure Kept (hand : List (Job Work)) (sort : Act → Prop) (s t : Session) : Prop where
  acted : Acted hand sort s t
  tokens : t.tokens = s.tokens

/-- What tells nothing of progress and answers a request in the end. -/
structure Concluded (hand : List (Job Work)) (charge : Charge) (s t : Session) : Prop where
  kept : Kept hand Act.IsCalm s t
  answer : ∃ said value, t.outbox = s.outbox ++ said ++ [.response charge.id value]
  gone : charge.number ∉ t.unfinished

section Keeping

variable {hand : List (Job Work)} {sort : Act → Prop} {s t u : Session}

theorem Kept.refl (s : Session) : Kept hand sort s s := ⟨.refl s, rfl⟩

theorem Kept.sound (kept : Kept hand sort s t) (sound : Sound hand s) : Sound hand t := kept.acted.sound sound

theorem Kept.log (kept : Kept hand sort s t) (level : Level) (service message : String) (tags : Tags) :
    Kept hand sort s (t.log level service message tags) := ⟨kept.acted.log .., kept.tokens⟩

theorem Kept.conclude (kept : Kept hand sort s t) (number : Nat) (fault : Option Fault) :
    Kept hand sort s (t.conclude number fault) := ⟨kept.acted.conclude .., kept.tokens⟩

theorem Kept.send (kept : Kept hand Act.IsCalm s t) (m : Outbound) (plain : m.published? = none)
    (other : m.isProgress = false) : Kept hand Act.IsCalm s (t.send m) :=
  ⟨kept.acted.send m plain other, (tokens_send t m).trans kept.tokens⟩

theorem Kept.respond (kept : Kept hand Act.IsCalm s t) (id : Option RequestId) (value : Json.Value) :
    Kept hand Act.IsCalm s (t.respond id value) := kept.send _ rfl rfl

theorem Kept.refuse (kept : Kept hand Act.IsCalm s t) (id : Option RequestId) (error : Refusal) :
    Kept hand Act.IsCalm s (t.refuse id error) := kept.send _ rfl rfl

theorem Kept.requestWith (kept : Kept hand Act.IsCalm s t) (message : Nat → Outbound)
    (plain : ∀ number, (message number).published? = none) (other : ∀ number, (message number).isProgress = false) :
    Kept hand Act.IsCalm s (t.requestWith message) := by
  refine ⟨kept.acted.requestWith message plain other, ?_⟩
  obtain ⟨sink, same⟩ := requestWith_eq t message
  rw [same]
  exact kept.tokens

theorem Kept.call (kept : Kept hand Act.IsMute s t) {name : String} {provider : Provider} {topic : Topic}
    {answer : Answer} {registry : Registry} (called : t.registry.call name provider topic = (answer, registry)) :
    Kept hand Act.IsMute s { t with registry } := ⟨kept.acted.call called trivial, kept.tokens⟩

theorem Kept.publish (kept : Kept hand Act.IsCalm s t) (diagnostics : List Diagnostic) (timeout : Span) :
    Kept hand Act.IsCalm s (t.publish diagnostics timeout) :=
  ⟨kept.acted.publish diagnostics timeout fun _ _ => trivial, (tokens_publish ..).trans kept.tokens⟩

theorem Kept.resetDiagnostics (kept : Kept hand Act.IsCalm s t) : Kept hand Act.IsCalm s t.resetDiagnostics :=
  ⟨kept.acted.resetDiagnostics fun _ => trivial, (tokens_resetDiagnostics t).trans kept.tokens⟩

/-- What is said besides progress. -/
theorem Kept.said (kept : Kept hand Act.IsCalm s t) (sound : Sound hand s) :
    ∃ said, t.outbox = s.outbox ++ said ∧ ∀ m ∈ said, m.isProgress = false := by
  obtain ⟨acts, strokes, calm⟩ := kept.acted
  refine ⟨_, (strokes.framed sound).outbox, fun m member => ?_⟩
  obtain ⟨act, done, told⟩ := List.mem_flatMap.mp member
  have own := calm act done
  cases act with
  | sends other =>
    rw [List.mem_singleton.mp told]
    exact own
  | shows | wipes | clears =>
    rw [List.mem_singleton.mp told]
    rfl
  | tells entries =>
    obtain ⟨entry, -, answer⟩ := List.mem_filterMap.mp told
    split at answer
    · cases answer
    · cases answer
      rfl
  | _ => cases told

/-- Nothing is said where nothing is given. -/
theorem Kept.mute (kept : Kept hand Act.IsMute s t) (sound : Sound hand s) : t.outbox = s.outbox := by
  obtain ⟨acts, strokes, mute⟩ := kept.acted
  have nothing : acts.flatMap Act.messages = [] := by
    refine List.flatMap_eq_nil_iff.mpr fun act done => ?_
    have own := mute act done
    cases act with
    | asks => rfl
    | _ => exact own.elim
  rw [(strokes.framed sound).outbox, nothing, List.append_nil]

/-- What stands in the table of debounced actions is all that comes onto the agenda or goes off it. -/
theorem Kept.mem_jobs (kept : Kept hand sort s t) (sound : Sound hand s) (steady : ∀ act, sort act → ¬act.Spins)
    {job : Job Work} (free : job.work.slot = none) : job ∈ t.desk.agenda.jobs ↔ job ∈ s.desk.agenda.jobs := by
  obtain ⟨acts, strokes, own⟩ := kept.acted
  have grown := strokes.grown sound
  have stays : Stays (fun work => work.slot = none) s t := strokes.stays sound fun work free act done => by
    have still := steady act (own act done)
    cases act with
    | stops => exact absurd trivial still
    | drops => exact fun disturbs => disturbs free
    | shows | wipes | admits =>
      rintro ⟨action, slot⟩
      rw [free] at slot
      cases slot
    | _ => exact id
  constructor
  · intro member
    rcases List.mem_append.mp member with ready | waits
    · rcases grown.ready job ready with old | ⟨act, done, spawns⟩
      · exact List.mem_append_left _ old
      · have still := steady act (own act done)
        cases act with
        | starts => exact absurd trivial still
        | shows =>
          obtain ⟨-, same⟩ := spawns
          rw [same] at free
          cases free
        | admits =>
          have same : job.work = _ := spawns
          rw [same] at free
          cases free
        | _ => exact spawns.elim
    · obtain ⟨timer, there, rfl⟩ := List.mem_map.mp waits
      exact List.mem_append_right _ (List.mem_map_of_mem (grown.timers timer there))
  · intro member
    rcases List.mem_append.mp member with ready | waits
    · exact List.mem_append_left _ (stays.ready job ready free)
    · obtain ⟨timer, there, rfl⟩ := List.mem_map.mp waits
      exact List.mem_append_right _ (List.mem_map_of_mem (stays.timers timer there free))

/-- A request is answered, and its handler comes to its end. -/
theorem Kept.concluded (kept : Kept hand Act.IsCalm s t) (sound : Sound hand s) (id : Option RequestId)
    (value : Json.Value) (number : Nat) (fault : Option Fault) :
    Concluded hand ⟨number, id⟩ s ((t.respond id value).conclude number fault) := by
  obtain ⟨said, outbox, -⟩ := kept.said sound
  refine ⟨(kept.respond id value).conclude number fault, ⟨said, value, ?_⟩, notMem_unfinished_conclude _ _ _⟩
  rw [outbox_conclude, outbox_respond, outbox]

end Keeping

/-! ## How a request goes on -/

/-- A place on the agenda for the work that goes on. -/
inductive Handed (ticket : Nat) (next : Work) (s : Session) : Session → Prop
  | lined : Handed ticket next s (s.enqueue ticket next)
  | spawned : Handed ticket next s (s.spawn next).1
  | waits (due : Instant) : Handed ticket next s (s.waitUntil due ticket next)

/-- The token that a client has given for the progress of a completion. -/
def Work.token? : Work → Option RequestId
  | delay _ _ (.complete job) => job.params.workDoneToken
  | fire _ (.complete job) => job.params.workDoneToken
  | suggestions pending _ => pending.job.params.workDoneToken
  | _ => none

/-- How some work of a request goes on while a signal is shown: without a word, or the signal is stopped before
anything is said, and the request is answered. -/
inductive Resumes (hand : List (Job Work)) (work : Work) (active : ActiveSignal) (ticket : Nat) (s : Session) :
    Session → Prop
  | goesOn {u t : Session} {next : Work} (before : Kept hand Act.IsMute s u) (handed : Handed ticket next u t)
      (shows : next.active? = some active) (own : next.charge? = work.charge?)
      (token : next.token? = work.token?) : Resumes hand work active ticket s t
  | ends {u t : Session} {charge : Charge} (before : Kept hand Act.IsMute s u) (own : work.charge? = some charge)
      (sound : Sound hand (u.stopSignal active).1) (after : Concluded hand charge (u.stopSignal active).1 t) :
      Resumes hand work active ticket s t

section Resuming

variable {hand : List (Job Work)} {b s : Session} {ticket : Nat} {work : Work}

theorem Sound.stopSignal (sound : Sound hand s) {active : ActiveSignal} (owned : Owned hand s active) :
    Sound hand (s.stopSignal active).1 := by
  have acted : Acted hand (fun _ => True) s (s.stopSignal active).1 :=
    (Acted.refl s).stopSignal owned (fun _ _ => trivial) (fun _ => trivial) fun _ => trivial
  exact acted.sound sound

/-- The outcome of a completion is told in its answer, or shown before it. -/
theorem Concluded.deliver (sound : Sound hand s) (job : CompletionJob) (context : CursorContext) (range : Range)
    (result : Except Fault (List Suggestion)) :
    Concluded hand ⟨job.invocation, job.id⟩ s (s.deliver job context range result) := by
  have nothing : Kept hand Act.IsCalm s s := .refl s
  unfold Session.deliver
  split
  · dsimp only
    split
    · exact (nothing.log ..).concluded sound _ _ _ _
    · exact ((nothing.log ..).log ..).concluded sound _ _ _ _
  · exact ((nothing.log ..).publish ..).concluded sound _ _ _ _

theorem Resumes.endCompletion {pending : Completing} (kept : Kept hand Act.IsMute b s) (sound : Sound hand s)
    (owned : Owned hand s pending.active) (own : work.charge? = some ⟨pending.job.invocation, pending.job.id⟩)
    (result : Except Fault (List Suggestion)) :
    Resumes hand work pending.active ticket b (s.endCompletion pending result) := by
  have noted : Sound hand (s.endTimed pending.since pending.provider.kind.service "completion"
      (completionTags pending.provider pending.query)) := sound.log ..
  have stopped := noted.stopSignal (owned.of_desk rfl)
  exact .ends (kept.log ..) own stopped (.deliver stopped ..)

theorem Resumes.ask (pending : Completing) (remaining : Nat) (kept : Kept hand Act.IsMute b s) (sound : Sound hand s)
    (owned : Owned hand s pending.active) (own : work.charge? = some ⟨pending.job.invocation, pending.job.id⟩)
    (token : work.token? = pending.job.params.workDoneToken) :
    Resumes hand work pending.active ticket b (Session.ask ticket remaining pending s) := by
  fun_induction Session.ask ticket remaining pending s with
  | case1 _ _ _ _ _ _ called =>
    exact .endCompletion (kept.call called) (sound.of_desk rfl rfl) (owned.of_desk rfl) own _
  | case2 _ _ _ _ _ _ called =>
    exact .endCompletion (kept.call called) (sound.of_desk rfl rfl) (owned.of_desk rfl) own _
  | case3 _ _ _ _ _ _ called =>
    exact .endCompletion ((kept.call called).log ..) (sound.of_desk rfl rfl) (owned.of_desk rfl) own _
  | case4 _ _ _ _ _ called =>
    exact .endCompletion (kept.call called) (sound.of_desk rfl rfl) (owned.of_desk rfl) own _
  | case5 _ _ _ _ _ called _ _ next fed _ =>
    rename_i ih
    exact ih (kept.call called) (sound.of_desk rfl rfl) (owned.of_desk rfl) own token
  | case6 pending s _ _ _ _ called => exact .goesOn (kept.call called) (.waits _) rfl own.symm token.symm

theorem Resumes.takeSuggestions {pending : Completing} {outcome : Except Fault (List Suggestion)}
    (sound : Sound hand b) (owned : Owned hand b pending.active) :
    Resumes hand (.suggestions pending outcome) pending.active ticket b
      (b.takeSuggestions ticket pending outcome) := by
  unfold Session.takeSuggestions
  split
  · exact .endCompletion (.refl b) sound owned rfl _
  · exact .endCompletion (.refl b) sound owned rfl _
  · exact .endCompletion ((Kept.refl b).log ..) (sound.log ..) (owned.of_desk rfl) rfl _
  · next following _ => exact .ask { pending with collection := following } _ (.refl b) sound owned rfl rfl

theorem Kept.publishFailure (kept : Kept hand Act.IsCalm b s) (job : CommandJob) (text : String) :
    Kept hand Act.IsCalm b (s.publishFailure job text) := kept.publish ..

theorem Kept.applyResult (kept : Kept hand Act.IsCalm b s) (pending : Commanding) (result : String) :
    Kept hand Act.IsCalm b (s.applyResult pending result) := by
  unfold Session.applyResult
  dsimp only
  split
  · exact (kept.log ..).publishFailure _ _
  · exact ((kept.log ..).requestWith _ (fun _ => rfl) fun _ => rfl).resetDiagnostics

/-- The handler of a command stops its signal before it says what its chat came to. -/
theorem Concluded.deliverChat {pending : Commanding} (sound : Sound hand s) (result : Except Fault Suggestion) :
    Concluded hand ⟨pending.job.invocation, pending.job.id⟩ s (s.deliverChat pending result) := by
  have nothing : Kept hand Act.IsCalm s s := .refl s
  unfold Session.deliverChat
  split
  · exact (nothing.applyResult _ _).concluded sound _ _ _ _
  · refine ⟨((nothing.respond _ _).log ..).conclude _ _, ⟨[], .null, ?_⟩, notMem_unfinished_conclude _ _ _⟩
    rw [breakCommand, outbox_conclude, outbox_log, outbox_respond, List.append_nil]
  · exact ((nothing.log ..).publishFailure _ _).concluded sound _ _ _ _

theorem Resumes.takeReply {pending : Commanding} (kept : Kept hand Act.IsMute b s) (sound : Sound hand s)
    (owned : Owned hand s pending.active) (own : work.charge? = some ⟨pending.job.invocation, pending.job.id⟩)
    (result : Except Fault Suggestion) :
    Resumes hand work pending.active ticket b (s.takeReply pending result) :=
  .ends kept own (sound.stopSignal owned) (.deliverChat (sound.stopSignal owned) result)

/-- The records of a chat that is over say nothing. -/
theorem Kept.endedChat (kept : Kept hand Act.IsMute b s) (chatting : Chatting) (answer : Except Fault Response) :
    Kept hand Act.IsMute b ((s.endTimed chatting.since chatting.provider.kind.service "chat"
      [("model", .text chatting.provider.chatModel)]).noteReply chatting.provider
        (chatting.provider.chatResult chatting.pending.query answer)) := by
  unfold Session.noteReply
  split
  · exact (kept.log ..).log ..
  · exact kept.log ..

theorem Resumes.endChat {chatting : Chatting} {outcome : Option (Except Fault Response)} (sound : Sound hand b)
    (owned : Owned hand b chatting.pending.active) :
    Resumes hand (.answer chatting outcome) chatting.pending.active ticket b (b.endChat ticket chatting outcome) := by
  have nothing : Kept hand Act.IsMute b b := .refl b
  unfold Session.endChat
  dsimp only
  split
  · exact .takeReply (nothing.log ..) (sound.log ..) (owned.of_desk rfl) rfl _
  · next answer => exact .goesOn (nothing.endedChat chatting answer) .lined rfl rfl rfl

theorem Resumes.askChat {pending : Commanding} :
    Resumes hand (.chat pending) pending.active ticket b (b.askChat ticket pending) := by
  have nothing : Kept hand Act.IsMute b b := .refl b
  unfold Session.askChat
  split
  · exact .goesOn nothing .lined rfl rfl rfl
  · next name provider _ =>
    have timed := nothing.log .info provider.kind.service "chat"
      (Tags.started [("model", .text provider.chatModel)])
    dsimp only
    generalize called : Registry.call _ name provider (.chat pending.query) = reply
    obtain ⟨answer, registry⟩ := reply
    have asked := timed.call called
    dsimp only
    split
    · exact .goesOn (asked.endedChat ⟨pending, provider, b.now⟩ answer.outcome) .lined rfl rfl rfl
    · split
      · exact .goesOn asked (.waits _) rfl rfl rfl
      · exact .goesOn asked (.waits _) rfl rfl rfl

end Resuming

/-! ## Turns -/

/-- The signal that the turn of some work starts which begins to work on a request. -/
inductive Work.BeginsWith (settings : Settings) : Work → Signal → Prop
  | completion {key : String} {job : CompletionJob} :
      BeginsWith settings (.fire key (.complete job)) (completionSignal settings job.params)
  | command {number : Nat} {message : Message} {job : CommandJob} (known : job.command ∈ Action.commands) :
      BeginsWith settings (.handle number .command message) (commandSignal settings job)

/-- Work of a request either concludes it, or says no more than the answers to completions that it withdraws. -/
def Work.Rests (b t : Session) (work : Work) : Prop :=
  ∀ charge, work.charge? = some charge →
    charge.number ∉ t.unfinished ∨ ∃ entries, t.outbox = b.outbox ++ Act.withdrawals entries

/-- What a turn of some work bears on signals. -/
inductive Bears (hand : List (Job Work)) (b : Session) (ticket : Nat) (work : Work) : Session → Prop
  /-- Nothing. -/
  | calm {t : Session} (free : work.active? = none) (other : work.isSignal = false) (kept : Kept hand Act.IsCalm b t)
      (rests : work.Rests b t) : Bears hand b ticket work t
  /-- The signal of a request is started. If the spinner is enabled, nothing is said before. A completion asks the
  backend that is selected. -/
  | begins {signal : Signal} {u t : Session} (starts : work.BeginsWith b.settings signal)
      (asks : ∀ key job, work = .fire key (.complete job) → b.Selected → b.completionsAsked < t.completionsAsked)
      (before : Kept hand Act.IsCalm b u) (still : b.settings.spinner = true → u.outbox = b.outbox)
      (goes : Resumes hand work (u.startSignal ⟨signal, none⟩).2 ticket (u.startSignal ⟨signal, none⟩).1 t) :
      Bears hand b ticket work t
  | resumes {active : ActiveSignal} {t : Session} (shows : work.active? = some active)
      (goes : Resumes hand work active ticket b t) : Bears hand b ticket work t
  | animates {signal : Signal} (own : work = .animate signal) : Bears hand b ticket work (b.animate ticket signal)
  | ticks {signal : Signal} {since : Instant} {frame : Nat} (own : work = .tick signal since frame) :
      Bears hand b ticket work (b.tick ticket signal since frame)

section Turns

variable {hand : List (Job Work)} {b s : Session} {ticket number : Nat} {message : Message}

/-- The request of some work that bears on no signal comes to its end. -/
theorem Bears.concludes {work : Work} {id : Option RequestId} {fault : Option Fault} (free : work.active? = none)
    (other : work.isSignal = false) (own : work.charge? = some ⟨number, id⟩) (kept : Kept hand Act.IsCalm b s) :
    Bears hand b ticket work (s.conclude number fault) := by
  refine .calm free other (kept.conclude ..) fun charge' same => .inl ?_
  cases own.symm.trans same
  exact notMem_unfinished_conclude _ _ _

theorem Bears.fetchCompletion {key : String} {job : CompletionJob} {document : Document} (sound : Sound hand b) :
    Bears hand b ticket (.fire key (.complete job)) (b.fetchCompletion ticket job document) := by
  have asks (selected : b.Selected) := completionsAsked_fetchCompletion selected ticket job document
  have called := (Kept.refl b : Kept hand Act.IsCalm b b).log .info "handler.completion" "calling completion"
    [("language", .text document.languageId), ("backend", .text b.registry.current)]
  unfold Session.fetchCompletion at asks ⊢
  dsimp only at asks ⊢
  generalize told : (if b.settings.spinner = true then _ else _) = u at asks ⊢
  have kept : Kept hand Act.IsCalm b u := by
    rw [← told]
    split
    · exact called
    · exact called.send _ rfl rfl
  have still : b.settings.spinner = true → u.outbox = b.outbox := by
    intro spinner
    rw [← told, if_pos spinner]
    rfl
  obtain ⟨started, owned⟩ := (Does.refl u).startSignal (kept.sound sound) ⟨completionSignal b.settings job.params, none⟩
    (tickInterval_slow _) rfl
  refine .begins .completion (fun _ _ _ => asks) kept still ?_
  have soundly := (started.keeps (kept.sound sound)).1
  split
  · exact .ends (.refl _) rfl (soundly.stopSignal owned) (.deliver (soundly.stopSignal owned) ..)
  · next backend provider _ =>
    exact .ask ⟨job, _, _, (u.startSignal ⟨completionSignal b.settings job.params, none⟩).2, _, _, _, _, _⟩ _
      ((Kept.refl _).log ..) (soundly.log ..) (owned.of_desk rfl) rfl rfl

theorem Bears.complete {key : String} {job : CompletionJob} (sound : Sound hand b) :
    Bears hand b ticket (.fire key (.complete job)) (b.complete ticket job) := by
  have nothing : Kept hand Act.IsCalm b b := .refl b
  unfold Session.complete
  dsimp only
  split
  · exact .concludes rfl rfl rfl ((nothing.log ..).respond ..)
  · split
    · exact .concludes rfl rfl rfl ((nothing.log ..).respond ..)
    · exact .fetchCompletion sound

theorem Bears.requestCompletion {params : CompletionParams} (sound : Sound hand b) :
    Bears hand b ticket (.handle number .completion message) (b.requestCompletion number message.id params) := by
  have nothing : Kept hand Act.IsCalm b b := .refl b
  cases admitted : b.admitted? params with
  | none =>
    rw [requestCompletion_refused admitted]
    exact .concludes rfl rfl rfl (nothing.respond ..)
  | some document =>
    rw [requestCompletion_admitted admitted]
    have scheduled := schedule_eq sound completionKey (.ofMillis b.settings.debounce)
      (.complete ⟨number, message.id, params, document.version⟩)
    have placed := nothing.acted.one (.postpone b ⟨number, message.id, params, document.version⟩) trivial
    refine .calm rfl rfl ⟨?_, tokens_schedule ..⟩ fun charge own => .inr ⟨(b.desk.cancel completionKey).2.toList, ?_⟩
    · rw [scheduled]
      exact placed.one (.tell _ _) trivial
    · rw [scheduled]
      obtain ⟨sink, invocations, same⟩ := withdrawn_outbox (b.desk.cancel completionKey).2.toList _
      rw [same]

theorem Bears.runCommand {job : CommandJob} {document : Document} (own : job.invocation = number)
    (id : job.id = message.id) (known : job.command ∈ Action.commands) :
    Bears hand b ticket (.handle number .command message) (b.runCommand job document) := by
  have noted := (Kept.refl b : Kept hand Act.IsCalm b b).log .info "handler.actions" "executing command"
    [("command", .text job.command.key), ("uri", .text document.uri), ("backend", .text b.registry.current)]
  unfold Session.runCommand
  dsimp only
  generalize told : (if b.settings.spinner = true then _ else _) = u
  have kept : Kept hand Act.IsCalm b u := by
    rw [← told]
    split
    · exact noted
    · exact noted.publish _ _
  have still : b.settings.spinner = true → u.outbox = b.outbox := by
    intro spinner
    rw [← told, if_pos spinner]
    rfl
  have starts : Work.BeginsWith b.settings (.handle number .command message) (commandSignal b.settings job) :=
    .command known
  refine .begins starts nofun kept still (.goesOn (.refl _) .spawned rfl ?_ rfl)
  show some (Charge.mk job.invocation job.id) = some ⟨number, message.id⟩
  rw [own, id]

theorem Bears.requestCommand (params : ExecuteCommandParams) :
    Bears hand b ticket (.handle number .command message) (b.requestCommand number message.id params) := by
  have nothing : Kept hand Act.IsCalm b b := .refl b
  unfold Session.requestCommand
  split
  · exact .concludes rfl rfl rfl ((nothing.log ..).refuse ..)
  next command known =>
    split
    · exact .concludes rfl rfl rfl (nothing.refuse ..)
    · split
      · exact .concludes rfl rfl rfl ((nothing.log ..).refuse ..)
      · unfold Session.startCommand
        dsimp only
        split
        · exact .concludes rfl rfl rfl ((nothing.log ..).respond ..)
        · split
          · exact .concludes rfl rfl rfl ((nothing.log ..).respond ..)
          · exact .runCommand rfl rfl (List.mem_of_find?_eq_some known)

/-- Parameters are read, or refused if the message has an id. -/
theorem Bears.withParams {α : Type} {codec : Codec α} {handler : Handler} {next : α → Session}
    (reads : ∀ params, codec.read (givenParams message) = .ok params →
      Bears hand b ticket (.handle number handler message) (next params)) :
    Bears hand b ticket (.handle number handler message) (Session.withParams codec b number message next) := by
  unfold Session.withParams
  split
  · next params read => exact reads params read
  · have nothing : Kept hand Act.IsCalm b b := .refl b
    unfold Session.refuseParams
    dsimp only
    split
    · exact .concludes rfl rfl rfl (nothing.log ..)
    · exact .concludes rfl rfl rfl ((nothing.log ..).refuse ..)

theorem Bears.shutdown (b : Session) :
    Bears hand b ticket (.handle number .shutdown message) ((b.shutdown message).finish number) := by
  have closing : Acted hand Act.IsCalm b b.closing :=
    ((Acted.refl b).log .info "lsp.service" "received shutdown request" []).quiet (.note _ _ _ _ true _ _)
  have told : Acted hand Act.IsCalm b b.closing.cancelAllPending :=
    (closing.one (.drop b.closing) trivial).one (.tell _ b.closing.desk.cancelAll.2) trivial
  have kept : Kept hand Act.IsCalm b b.closing.cancelAllPending := ⟨told, tokens_cancelAllPending b.closing⟩
  unfold Session.shutdown
  dsimp only
  split
  · exact .concludes rfl rfl rfl (kept.respond ..)
  · exact .concludes rfl rfl rfl kept

/-- Every handler that a session has from the start. -/
theorem Bears.runHandler {handler : Handler} (sound : Sound hand b) (own : ∀ script, handler ≠ .scripted script) :
    Bears hand b ticket (.handle number handler message) (b.runHandler ticket number handler message) := by
  have nothing : Kept hand Act.IsCalm b b := .refl b
  have edited (documents : DocumentStore) : Kept hand Act.IsCalm b { b with documents } :=
    ⟨nothing.acted.one (.edit b documents) trivial, rfl⟩
  unfold Session.runHandler
  cases handler with
  | handshake => exact .concludes rfl rfl rfl (nothing.respond ..)
  | greeting => exact .concludes rfl rfl rfl (nothing.log ..)
  | opening => exact .withParams fun params _ => .concludes rfl rfl rfl ((edited _).log ..)
  | change =>
    refine .withParams fun params _ => .concludes rfl rfl rfl ?_
    unfold Session.didChange
    dsimp only
    split
    · exact nothing.log ..
    · exact (edited _).log ..
  | closing => exact .withParams fun params _ => .concludes rfl rfl rfl ((edited _).log ..)
  | shutdown => exact .shutdown b
  | exit =>
    have closed : Acted hand Act.IsCalm b b.exit := (nothing.acted.log _ _ _ _).quiet (.note _ _ _ _ _ _ _)
    exact .concludes rfl rfl rfl ⟨closed, rfl⟩
  | completion => exact .withParams fun params _ => .requestCompletion sound
  | codeAction => exact .withParams fun params _ => .concludes rfl rfl rfl ((edited _).respond ..)
  | command => exact .withParams fun params _ => .requestCommand params
  | scripted script => exact absurd rfl (own script)

theorem Bears.clearDiagnostics {key uri : String} (b : Session) :
    Bears hand b ticket (.fire key (.clear uri)) (b.clearDiagnostics uri) :=
  .calm rfl rfl ⟨(Acted.refl b).one (.clear b uri) trivial, tokens_send b (.diagnostics ⟨uri, []⟩)⟩ nofun

/-- What any turn bears on signals, unless it is only the delay of an action that begins. -/
theorem perform_bears {job : Job Work} {rest : List (Job Work)} (sound : Sound [] s)
    (ready : s.desk.agenda.ready = job :: rest) (starts : ∀ key span action, job.work ≠ .delay key span action) :
    Bears [⟨job.ticket, job.work.begun⟩] (s.begun job rest) job.ticket job.work (perform job (s.taken rest)) := by
  have soundly := sound.begun ready starts
  have proper : job.work.Proper := by
    refine sound.proper job (List.mem_append_right _ ?_)
    rw [Agenda.jobs_of_ready ready]
    exact List.mem_cons_self ..
  have owned : ∀ active, job.work.begun.active? = some active →
      Owned [⟨job.ticket, job.work.begun⟩] (s.begun job rest) active :=
    fun active shows => soundly.owned (List.mem_singleton_self _) shows
  obtain ⟨ticket, work⟩ := job
  cases work with
  | handle number handler message => exact .runHandler soundly proper
  | resume number script message => exact proper.elim
  | delay key span action => exact absurd rfl (starts key span action)
  | fire key action =>
    cases action with
    | complete job => exact .complete soundly
    | clear uri => exact .clearDiagnostics _
  | suggestions pending outcome => exact .resumes rfl (.takeSuggestions soundly (owned _ rfl))
  | chat pending => exact .resumes rfl .askChat
  | answer chatting outcome => exact .resumes rfl (.endChat soundly (owned _ rfl))
  | tell pending result => exact .resumes rfl (.goesOn (.refl _) .lined rfl rfl rfl)
  | reply pending result => exact .resumes rfl (.takeReply (.refl _) soundly (owned _ rfl) rfl result)
  | animate signal => exact .animates rfl
  | tick signal since frame => exact .ticks rfl

end Turns

/-! ## Ticks -/

/-- What a tick gives: a report under the token of its signal, or a diagnostic in the current document, if there is
one. -/
def tickMessages (s : Session) (signal : Signal) (text : String) : List Outbound :=
  match signal.mode, signal.token with
  | .progress, some token => [.progress ⟨token, .report ⟨some text⟩⟩]
  | .progress, none => []
  | .diagnostic, _ =>
    if s.documents.currentUri.isEmpty then []
    else [.diagnostics ⟨s.documents.currentUri, ownDiagnostics [⟨text, signal.range, none, some .information⟩]⟩]

theorem outbox_showTick {hand : List (Job Work)} {s : Session} (sound : Sound hand s) (signal : Signal)
    (text : String) : (s.showTick signal text).outbox = s.outbox ++ s.tickMessages signal text := by
  unfold showTick tickMessages
  cases mode : signal.mode with
  | progress =>
    cases given : signal.token with
    | none => exact (List.append_nil _).symm
    | some token =>
      obtain ⟨sink, sent⟩ := send_eq s (.progress ⟨token, .report ⟨some text⟩⟩)
      exact congrArg Session.outbox sent
  | diagnostic =>
    cases current : s.documents.currentUri.isEmpty with
    | true =>
      have same : s.publishOne text signal.range .information signal.timeout = s := if_pos current
      rw [same]
      exact (List.append_nil _).symm
    | false =>
      obtain ⟨sink, same⟩ := publish_eq sound current [⟨text, signal.range, none, some .information⟩] signal.timeout
      rw [publishOne, same]
      rfl

theorem gives_tick {s : Session} {rest : List (Job Work)} {ticket frame : Nat} {signal : Signal} {since : Instant}
    (sound : Sound [] s) (ready : s.desk.agenda.ready = ⟨ticket, .tick signal since frame⟩ :: rest) :
    (Event.turn s ⟨ticket, .tick signal since frame⟩).gives =
      s.tickMessages signal (tickText since s.now frame) := by
  have shown : (perform ⟨ticket, .tick signal since frame⟩ (s.taken rest)).outbox =
      s.outbox ++ s.tickMessages signal (tickText since s.now frame) :=
    outbox_showTick (sound.begun ready nofun) signal (tickText since s.now frame)
  rw [Event.gives, turned_eq ready, shown, List.drop_left' rfl]

end EditorAssist.Session

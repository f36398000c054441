import EditorAssist.Proofs.Session.Remaining
import EditorAssist.Proofs.Session.Strokes

/-!
# Turns as strokes

The parts that handlers are made of are strokes, and so is every turn, up to the work that it hands on. Each kind
of work shows only what is its own: the diagnostics of one timeout, the requests to backends for its own query,
the documents if it is to change them.
-/

namespace EditorAssist.Session

open EditorAssist.Backend EditorAssist.Completion EditorAssist.Debounce EditorAssist.Journal
open EditorAssist.Payload EditorAssist.Settings EditorAssist.Time EditorAssist.Wire

/-- Some strokes, all of which show something of one sort. -/
def Acted (hand : List (Job Work)) (sort : Act → Prop) (s t : Session) : Prop :=
  ∃ acts, Strokes hand s acts t ∧ ∀ act ∈ acts, sort act

/-- Messages about progress and information for the user. -/
def Outbound.isAside : Outbound → Bool
  | message _ => true
  | progress _ => true
  | createProgress .. => true
  | _ => false

/-! ## Composition -/

section Composition

variable {hand : List (Job Work)} {sort : Act → Prop} {s t u : Session} {acts : List Act}

theorem Acted.refl (s : Session) : Acted hand sort s s := ⟨[], .nil s, fun _ member => by cases member⟩

theorem Acted.trans (first : Acted hand sort s t) (second : Acted hand sort t u) : Acted hand sort s u := by
  obtain ⟨acts, strokes, own⟩ := first
  obtain ⟨more, further, own'⟩ := second
  refine ⟨acts ++ more, strokes.append further, fun act member => ?_⟩
  exact (List.mem_append.mp member).elim (own act) (own' act)

theorem Acted.step (acted : Acted hand sort s t) (stroke : Stroke hand t acts u)
    (own : ∀ act ∈ acts, sort act) : Acted hand sort s u :=
  acted.trans ⟨acts, .single stroke, own⟩

/-- A stroke that shows nothing. -/
theorem Acted.quiet (acted : Acted hand sort s t) (stroke : Stroke hand t [] u) : Acted hand sort s u :=
  acted.step stroke (by simp)

/-- A stroke that shows one thing. -/
theorem Acted.one (acted : Acted hand sort s t) {act : Act} (stroke : Stroke hand t [act] u) (own : sort act) :
    Acted hand sort s u :=
  acted.step stroke (by simpa using own)

theorem Acted.sound (acted : Acted hand sort s t) (sound : Sound hand s) : Sound hand t := by
  obtain ⟨acts, strokes, -⟩ := acted
  exact strokes.sound sound

/-- Whose ticket it is depends on the agenda alone. -/
theorem Owned.of_desk {active : ActiveSignal} (owned : Owned hand s active) (desk : t.desk = s.desk) :
    Owned hand t active := by
  intro ticking running
  obtain ⟨issued, signal⟩ := owned ticking running
  exact ⟨desk ▸ issued, desk ▸ signal⟩

end Composition

/-! ## The parts of handlers -/

section Parts

variable {hand : List (Job Work)} {sort : Act → Prop} {s t : Session}

theorem Acted.log (acted : Acted hand sort s t) (level : Level) (service message : String) (tags : Tags) :
    Acted hand sort s (t.log level service message tags) :=
  acted.quiet (.note t _ t.requested t.tokens t.shutdownRequested t.exits t.invocations)

theorem Acted.conclude (acted : Acted hand sort s t) (number : Nat) (fault : Option Fault) :
    Acted hand sort s (t.conclude number fault) :=
  acted.quiet (.note t t.sink t.requested t.tokens t.shutdownRequested t.exits _)

theorem Acted.send (acted : Acted hand sort s t) (m : Outbound) (plain : m.published? = none)
    (own : sort (.sends m)) : Acted hand sort s (t.send m) :=
  acted.one (.say t m plain) own

/-- An answer and the end of its handler. -/
theorem Acted.respond (acted : Acted hand sort s t) (id : Option RequestId) (result : Json.Value)
    (own : ∀ m, sort (.sends m)) (number : Nat) : Acted hand sort s ((t.respond id result).finish number) :=
  (acted.send _ rfl (own _)).conclude number none

theorem Acted.refuse (acted : Acted hand sort s t) (id : Option RequestId) (error : Refusal)
    (own : ∀ m, sort (.sends m)) (number : Nat) : Acted hand sort s ((t.refuse id error).finish number) :=
  (acted.send _ rfl (own _)).conclude number none

theorem Acted.requestWith (acted : Acted hand sort s t) (message : Nat → Outbound)
    (plain : ∀ number, (message number).published? = none) (own : ∀ number, sort (.sends (message number))) :
    Acted hand sort s (t.requestWith message) :=
  (acted.quiet (.note t t.sink (t.requested + 1) t.tokens t.shutdownRequested t.exits t.invocations)).send _
    (plain _) (own _)

theorem Acted.call (acted : Acted hand sort s t) {name : String} {provider : Provider} {topic : Topic}
    {answer : Answer} {registry : Registry} (called : t.registry.call name provider topic = (answer, registry))
    (own : sort (.asks (provider.request topic))) : Acted hand sort s { t with registry } := by
  have stroke : Stroke hand t [.asks (provider.request topic)]
      { t with registry := (t.registry.call name provider topic).2 } := .ask t name provider topic
  rw [called] at stroke
  exact acted.one stroke own

theorem Acted.publish (acted : Acted hand sort s t) (diagnostics : List Diagnostic) (timeout : Span)
    (own : ∀ uri diagnostics, sort (.shows uri diagnostics timeout)) :
    Acted hand sort s (t.publish diagnostics timeout) := by
  cases current : t.documents.currentUri.isEmpty with
  | true =>
    have same : t.publish diagnostics timeout = t := if_pos current
    rw [same]
    exact acted
  | false => exact acted.one (.publish t diagnostics timeout current) (own _ _)

theorem Acted.resetDiagnostics (acted : Acted hand sort s t) (own : ∀ uri, sort (.wipes uri)) :
    Acted hand sort s t.resetDiagnostics := by
  cases current : t.documents.currentUri.isEmpty with
  | true =>
    have same : t.resetDiagnostics = t := if_pos current
    rw [same]
    exact acted
  | false => exact acted.one (.wipe t current) (own _)

theorem Acted.progressBegin (acted : Acted hand sort s t) (token : RequestId) (title : String)
    (own : ∀ m : Outbound, m.isAside = true → sort (.sends m)) :
    Acted hand sort s (t.progressBegin token title) :=
  acted.send (.progress ⟨token, .begin_ ⟨title, none, none⟩⟩) rfl (own _ rfl)

theorem Acted.announce (acted : Acted hand sort s t) (signal : Signal)
    (own : ∀ m : Outbound, m.isAside = true → sort (.sends m)) :
    Acted hand sort s (t.announce signal).1 := by
  unfold Session.announce
  split
  · exact acted
  · next token _ _ =>
    dsimp only
    exact acted.progressBegin token signal.title own
  · dsimp only
    have counted := acted.quiet (.note t t.sink t.requested (t.tokens + 1) t.shutdownRequested t.exits
      t.invocations)
    have created := counted.requestWith (.createProgress · (freshToken (t.tokens + 1))) (fun _ => rfl)
      fun _ => own _ rfl
    exact created.progressBegin (freshToken (t.tokens + 1)) signal.title own

/-- What is announced is the signal, maybe with a token. -/
theorem announce_signal (t : Session) (signal : Signal) :
    (t.announce signal).2.interval = signal.interval ∧ (t.announce signal).2.timeout = signal.timeout := by
  unfold Session.announce
  split <;> exact ⟨rfl, rfl⟩

theorem Acted.startSignal (acted : Acted hand sort s t) (active : ActiveSignal)
    (slow : 1000000 ≤ active.signal.interval.nanos) (own : ∀ m : Outbound, m.isAside = true → sort (.sends m))
    (starts : ∀ signal : Signal, signal.timeout = active.signal.timeout → sort (.starts signal)) :
    Acted hand sort s (t.startSignal active).1 := by
  unfold Session.startSignal
  split
  · exact acted
  · have announced := acted.announce active.signal own
    obtain ⟨interval, timeout⟩ := announce_signal t active.signal
    generalize t.announce active.signal = announcement at announced interval timeout
    obtain ⟨before, signal⟩ := announcement
    exact (announced.one (.start before signal (by rw [interval]; exact slow)) (starts signal timeout)).log _ _ _ _

theorem Acted.stopSignal (acted : Acted hand sort s t) {active : ActiveSignal} (owned : Owned hand t active)
    (own : ∀ m : Outbound, m.isAside = true → sort (.sends m)) (stops : ∀ ticket, sort (.stops ticket))
    (wipes : ∀ uri, sort (.wipes uri)) : Acted hand sort s (t.stopSignal active).1 := by
  unfold Session.stopSignal
  split
  · exact acted
  · next ticking running =>
    have stopped := (acted.one (.stop t ticking.ticket (owned ticking running)) (stops _)).log .debug "progress"
      "progress stopped" [("mode", .text active.signal.mode.name),
        ("elapsed", .text (Instant.elapsedText ticking.since t.now))]
    dsimp only
    split
    · exact stopped.send _ rfl (own _ rfl)
    · exact stopped
    · exact stopped.resetDiagnostics wipes

end Parts

/-! ## What belongs to a kind of work -/

/-- The query of a completion in a document. -/
def CompletionJob.query (job : CompletionJob) (settings : Settings) (document : Document) : CompletionQuery :=
  completionQuery settings document
    (CursorContext.at_ document.text.toList job.params.position.line job.params.position.character)

/-- The document that a completion is computed from when it starts: it is stored, in no later version. -/
def Current (s : Session) (job : CompletionJob) (document : Document) : Prop :=
  s.documents.get? job.params.textDocument.uri = some document ∧ document.version ≤ job.version

namespace Work

/-- The signal that work belongs to. -/
def signal? : Work → Option Signal
  | animate signal => some signal
  | tick signal _ _ => some signal
  | _ => none

/-- How long diagnostics are shown that work publishes, and those of the signal that it starts. -/
def shownFor (settings : Settings) : Work → Span
  | handle .. => .ofMillis settings.actionTimeout
  | tick signal _ _ => signal.timeout
  | _ => .ofMillis settings.diagnosticTimeout

/-- What work asks the backends. -/
def AsksFor (s : Session) (topic : Topic) : Work → Prop
  | fire _ (.complete job) => ∃ document, s.Current job document ∧
      topic = .completion (job.query s.settings document)
  | suggestions pending _ => topic = .completion pending.query
  | chat pending => topic = .chat pending.query
  | _ => False

/-- Whether work is to change the documents. -/
def isEdit : Work → Bool
  | handle _ .opening _ => true
  | handle _ .change _ => true
  | handle _ .closing _ => true
  | handle _ .codeAction _ => true
  | _ => false

end Work

/-- What some work may show. -/
def Act.Fits (s : Session) (work : Work) : Act → Prop
  | sends _ => True
  | shows _ _ timeout => timeout = work.shownFor s.settings
  | wipes _ => True
  | clears uri => ∃ key, work = .fire key (.clear uri)
  | asks request => work.AsksFor s request.topic
  | starts signal => signal.timeout = work.shownFor s.settings
  | stops _ => True
  | edits _ => work.isEdit = true
  | admits job => ∃ message params document, work = .handle job.invocation .completion message ∧
      CompletionParams.codec.read (givenParams message) = .ok params ∧ s.admitted? params = some document ∧
      job = ⟨job.invocation, message.id, params, document.version⟩
  | tells _ => ∃ number message, work = .handle number .completion message ∨ work = .handle number .shutdown message
  | drops => ∃ number message, work = .handle number .shutdown message

/-- What work hands on to. -/
inductive Hands (s : Session) : Work → Work → Prop
  | fetched {key : String} {job : CompletionJob} {document : Document} {pending : Completing}
      {outcome : Except Fault (List Suggestion)} (current : s.Current job document) (same : pending.job = job)
      (query : pending.query = job.query s.settings document) :
      Hands s (.fire key (.complete job)) (.suggestions pending outcome)
  | again {before pending : Completing} {last outcome : Except Fault (List Suggestion)}
      (same : pending.job = before.job) (query : pending.query = before.query) :
      Hands s (.suggestions before last) (.suggestions pending outcome)
  | command {number : Nat} {message : Message} {pending : Commanding} (own : pending.job.invocation = number) :
      Hands s (.handle number .command message) (.chat pending)
  | asked (chatting : Chatting) {outcome : Option (Except Fault Response)} :
      Hands s (.chat chatting.pending) (.answer chatting outcome)
  | refused {pending : Commanding} {result : Except Fault Suggestion} : Hands s (.chat pending) (.tell pending result)
  | answered {chatting : Chatting} {outcome : Option (Except Fault Response)} {result : Except Fault Suggestion} :
      Hands s (.answer chatting outcome) (.tell chatting.pending result)
  | told {pending : Commanding} {result : Except Fault Suggestion} :
      Hands s (.tell pending result) (.reply pending result)
  | animated {signal : Signal} {since : Instant} {frame : Nat} :
      Hands s (.animate signal) (.tick signal since frame)
  | ticked {signal : Signal} {since : Instant} {frame : Nat} :
      Hands s (.tick signal since frame) (.tick signal since (frame + 1))

/-- What is handed on cannot be withdrawn through the table, and the work of a signal stays its own. -/
theorem Hands.plain {s : Session} {work next : Work} (hands : Hands s work next) :
    next.slot = none ∧ next.signal? = work.signal? := by
  cases hands <;> exact ⟨rfl, rfl⟩

/-- Where a turn puts the work that it hands on, if any. -/
inductive Left (s : Session) (ticket : Nat) (work : Work) (u : Session) : Session → Prop
  | ends : Left s ticket work u u
  | lined {next : Work} (hands : Hands s work next) : Left s ticket work u (u.enqueue ticket next)
  | spawned {next : Work} (hands : Hands s work next) : Left s ticket work u (u.spawn next).1
  | waits {next : Work} (due : Instant) (hands : Hands s work next) :
      Left s ticket work u (u.waitUntil due ticket next)

/-- What a turn of some work comes to: strokes that fit it, and what it hands on. -/
def TurnsTo (hand : List (Job Work)) (s : Session) (ticket : Nat) (work : Work) (t : Session) : Prop :=
  ∃ u, Acted hand (Act.Fits s work) s u ∧ Left s ticket work u t

section Ends

variable {hand : List (Job Work)} {s t : Session} {ticket : Nat} {work : Work}

theorem TurnsTo.ends (acted : Acted hand (Act.Fits s work) s t) : TurnsTo hand s ticket work t := ⟨t, acted, .ends⟩

end Ends

/-! ## Completions -/

section Completions

variable {hand : List (Job Work)} {sort : Act → Prop} {b t t₁ : Session} {ticket : Nat} {work : Work}

theorem Acted.deliver (acted : Acted hand sort b t) (job : CompletionJob) (context : CursorContext) (range : Range)
    (result : Except Fault (List Suggestion)) (own : ∀ m, sort (.sends m))
    (shows : ∀ uri diagnostics, sort (.shows uri diagnostics (.ofMillis t.settings.diagnosticTimeout))) :
    Acted hand sort b (t.deliver job context range result) := by
  unfold Session.deliver
  split
  · have noted := acted.log .info "handler.completion" "completion hints"
    dsimp only
    split
    · exact (noted _).respond _ _ own _
    · exact ((noted _).log _ _ _ _).respond _ _ own _
  · exact ((acted.log _ _ _ _).publish _ _ shows).respond _ _ own _

/-- Work on a completion may stop its signal, show an error and answer. -/
structure Answers (sort : Act → Prop) (settings : Settings) : Prop where
  sends : ∀ m, sort (.sends m)
  stops : ∀ ticket, sort (.stops ticket)
  wipes : ∀ uri, sort (.wipes uri)
  shows : ∀ uri diagnostics, sort (.shows uri diagnostics (.ofMillis settings.diagnosticTimeout))

theorem Acted.settings (acted : Acted hand sort b t) (sound : Sound hand b) : t.settings = b.settings := by
  obtain ⟨acts, strokes, -⟩ := acted
  exact (strokes.framed sound).settings

theorem Acted.stopped (acted : Acted hand sort b t) (answers : Answers sort b.settings) {active : ActiveSignal}
    (owned : Owned hand t active) : Acted hand sort b (t.stopSignal active).1 :=
  acted.stopSignal owned (fun m _ => answers.sends m) answers.stops answers.wipes

/-- The outcome of a completion after its signal was stopped. -/
theorem Acted.delivered (acted : Acted hand sort b t) (answers : Answers sort b.settings) (sound : Sound hand b)
    (job : CompletionJob) (context : CursorContext) (range : Range) (result : Except Fault (List Suggestion)) :
    Acted hand sort b (t.deliver job context range result) := by
  refine acted.deliver job context range result answers.sends ?_
  rw [acted.settings sound]
  exact answers.shows

theorem Acted.endCompletion {pending : Completing} (acted : Acted hand sort b t)
    (answers : Answers sort b.settings) (sound : Sound hand b) (owned : Owned hand t pending.active)
    (result : Except Fault (List Suggestion)) : Acted hand sort b (t.endCompletion pending result) := by
  have ended := acted.log .info pending.provider.kind.service "completion"
    ((completionTags pending.provider pending.query).completed (pending.since.millisBetween t.now))
  exact (ended.stopped answers (owned.of_desk rfl)).delivered answers sound _ _ _ _

/-- Asking a backend, again as long as it answers at once. -/
theorem TurnsTo.ask (pending : Completing) (answers : Answers (Act.Fits b work) b.settings) (sound : Sound hand b)
    (owned : Owned hand t pending.active) (asks : work.AsksFor b (.completion pending.query))
    (hands : ∀ collection outcome, Hands b work (.suggestions { pending with collection } outcome))
    (remaining : Nat) (acted : Acted hand (Act.Fits b work) b t) :
    TurnsTo hand b ticket work (Session.ask ticket remaining pending t) := by
  fun_induction Session.ask ticket remaining pending t with
  | case1 _ _ _ _ _ _ called =>
    exact .ends ((acted.call called asks).endCompletion answers sound (owned.of_desk rfl) _)
  | case2 _ _ _ _ _ _ called =>
    exact .ends ((acted.call called asks).endCompletion answers sound (owned.of_desk rfl) _)
  | case3 _ _ _ _ _ _ called =>
    have noted := (acted.call called asks).log .warn "backend" "keeping partial suggestions"
    exact .ends (Acted.endCompletion (noted _) answers sound (owned.of_desk rfl) _)
  | case4 _ _ _ _ _ called =>
    exact .ends ((acted.call called asks).endCompletion answers sound (owned.of_desk rfl) _)
  | case5 _ _ _ _ _ called _ _ next fed _ =>
    rename_i ih
    exact ih (owned.of_desk rfl) asks hands (acted.call called asks)
  | case6 pending s _ _ _ _ called => exact ⟨_, acted.call called asks, .waits _ (hands _ _)⟩

theorem answers_fits_suggestions {pending : Completing} {outcome : Except Fault (List Suggestion)} :
    Answers (Act.Fits b (.suggestions pending outcome)) b.settings :=
  ⟨fun _ => trivial, fun _ => trivial, fun _ => trivial, fun _ _ => rfl⟩

theorem TurnsTo.takeSuggestions {pending : Completing} {outcome : Except Fault (List Suggestion)}
    (sound : Sound hand b) (owned : Owned hand b pending.active) :
    TurnsTo hand b ticket (.suggestions pending outcome) (b.takeSuggestions ticket pending outcome) := by
  have nothing : Acted hand (Act.Fits b (.suggestions pending outcome)) b b := .refl b
  unfold Session.takeSuggestions
  split
  · exact .ends (nothing.endCompletion answers_fits_suggestions sound owned _)
  · exact .ends (nothing.endCompletion answers_fits_suggestions sound owned _)
  · exact .ends (Acted.endCompletion (nothing.log _ _ _ _) answers_fits_suggestions sound (owned.of_desk rfl) _)
  · next following _ =>
    have hands : ∀ collection later, Hands b (.suggestions pending outcome)
        (.suggestions { pending with collection } later) := fun _ _ => .again rfl rfl
    have asks : (Work.suggestions pending outcome).AsksFor b (.completion pending.query) := rfl
    exact .ask { pending with collection := following } answers_fits_suggestions sound owned asks hands _ nothing

theorem answers_fits_fire {key : String} {job : CompletionJob} :
    Answers (Act.Fits b (.fire key (.complete job))) b.settings :=
  ⟨fun _ => trivial, fun _ => trivial, fun _ => trivial, fun _ _ => rfl⟩

theorem TurnsTo.fetchCompletion {key : String} {job : CompletionJob} {document : Document} (sound : Sound hand b)
    (current : b.Current job document) :
    TurnsTo hand b ticket (.fire key (.complete job)) (b.fetchCompletion ticket job document) := by
  have nothing : Acted hand (Act.Fits b (.fire key (.complete job))) b b := .refl b
  have called := nothing.log .info "handler.completion" "calling completion"
    [("language", .text document.languageId), ("backend", .text b.registry.current)]
  unfold Session.fetchCompletion
  dsimp only
  generalize told : (if b.settings.spinner = true then _ else _) = t
  have acted : Acted hand (Act.Fits b (.fire key (.complete job))) b t := by
    rw [← told]
    split
    · exact called
    · exact called.send _ rfl trivial
  have started := acted.startSignal ⟨completionSignal b.settings job.params, none⟩ (tickInterval_slow _)
    (fun _ _ => trivial) fun signal timeout => timeout
  have owned := ((Does.refl t).startSignal (acted.sound sound) ⟨completionSignal b.settings job.params, none⟩
    (tickInterval_slow _) rfl).2
  generalize t.startSignal ⟨completionSignal b.settings job.params, none⟩ = signalled at started owned
  obtain ⟨t₁, active⟩ := signalled
  dsimp only at started owned ⊢
  split
  · exact .ends ((started.stopped answers_fits_fire owned).delivered answers_fits_fire sound _ _ _ _)
  · have still (service : String) (tags : Tags) : Owned hand (t₁.log .info service "completion" tags) active :=
      owned.of_desk rfl
    refine .ask _ answers_fits_fire sound (still _ _) ⟨document, current, rfl⟩ ?_ _ (started.log _ _ _ _)
    exact fun _ _ => .fetched current rfl rfl

theorem TurnsTo.complete {key : String} {job : CompletionJob} (sound : Sound hand b) :
    TurnsTo hand b ticket (.fire key (.complete job)) (b.complete ticket job) := by
  have skipped : TurnsTo hand b ticket (.fire key (.complete job))
      ((b.log .info "handler.completion" "skipping stale completion"
        [("uri", .text job.params.textDocument.uri), ("version", .int job.version)]).answerCompletion job []) :=
    .ends (((Acted.refl b).log _ _ _ _).respond _ _ (fun _ => trivial) _)
  unfold Session.complete
  dsimp only
  split
  · exact skipped
  · next document stored =>
    split
    · exact skipped
    · next timely => exact .fetchCompletion sound ⟨stored, Int.not_lt.mp timely⟩

/-- A completion request is answered at once, or takes the place of the one that waits. -/
theorem TurnsTo.requestCompletion {number : Nat} {message : Message} {params : CompletionParams}
    (sound : Sound hand b) (read : CompletionParams.codec.read (givenParams message) = .ok params) :
    TurnsTo hand b ticket (.handle number .completion message)
      (b.requestCompletion number message.id params) := by
  cases admitted : b.admitted? params with
  | none =>
    rw [requestCompletion_refused admitted]
    exact .ends ((Acted.refl b).respond _ _ (fun _ => trivial) _)
  | some document =>
    rw [requestCompletion_admitted admitted, schedule_eq sound]
    have nothing : Acted hand (Act.Fits b (.handle number .completion message)) b b := .refl b
    have placed := nothing.one (.postpone b ⟨number, message.id, params, document.version⟩)
      ⟨message, params, document, rfl, read, admitted, rfl⟩
    exact .ends (placed.one (.tell _ _) ⟨number, message, .inl rfl⟩)

end Completions

/-! ## Commands -/

section Commands

variable {hand : List (Job Work)} {sort : Act → Prop} {b t : Session} {ticket : Nat} {work : Work}

theorem TurnsTo.requestCommand {number : Nat} {message : Message} (params : ExecuteCommandParams) :
    TurnsTo hand b ticket (.handle number .command message) (b.requestCommand number message.id params) := by
  have nothing : Acted hand (Act.Fits b (.handle number .command message)) b b := .refl b
  unfold Session.requestCommand
  split
  · exact .ends ((nothing.log _ _ _ _).refuse _ _ (fun _ => trivial) _)
  · split
    · exact .ends (nothing.refuse _ _ (fun _ => trivial) _)
    · split
      · exact .ends ((nothing.log _ _ _ _).refuse _ _ (fun _ => trivial) _)
      · next argument _ =>
        unfold Session.startCommand
        dsimp only
        split
        · exact .ends ((nothing.log _ _ _ _).respond _ _ (fun _ => trivial) _)
        · split
          · exact .ends ((nothing.log _ _ _ _).respond _ _ (fun _ => trivial) _)
          · next document _ =>
            have noted := nothing.log .info "handler.actions" "executing command"
            unfold Session.runCommand
            dsimp only
            split
            · refine ⟨_, (noted _).startSignal _ (tickInterval_slow _) (fun _ _ => trivial) ?_, .spawned (.command rfl)⟩
              exact fun signal timeout => timeout
            · refine ⟨_, ((noted _).publish _ _ fun _ _ => rfl).startSignal _ (tickInterval_slow _)
                (fun _ _ => trivial) ?_, .spawned (.command rfl)⟩
              exact fun signal timeout => timeout

theorem Acted.publishFailure (acted : Acted hand sort b t) (answers : Answers sort b.settings) (sound : Sound hand b)
    (job : CommandJob) (text : String) : Acted hand sort b (t.publishFailure job text) := by
  refine acted.publish _ _ ?_
  rw [acted.settings sound]
  exact answers.shows

theorem Acted.applyResult (acted : Acted hand sort b t) (answers : Answers sort b.settings) (sound : Sound hand b)
    (pending : Commanding) (result : String) : Acted hand sort b (t.applyResult pending result) := by
  unfold Session.applyResult
  dsimp only
  split
  · exact (acted.log _ _ _ _).publishFailure answers sound _ _
  · have noted := acted.log .debug "handler.actions" "received chat result"
    exact ((noted _).requestWith _ (fun _ => rfl) fun _ => answers.sends _).resetDiagnostics answers.wipes

theorem Acted.takeReply {pending : Commanding} (acted : Acted hand sort b t) (answers : Answers sort b.settings)
    (sound : Sound hand b) (owned : Owned hand t pending.active) (result : Except Fault Suggestion) :
    Acted hand sort b (t.takeReply pending result) := by
  have stopped := acted.stopped answers owned
  unfold Session.takeReply Session.deliverChat
  split
  · exact (stopped.applyResult answers sound _ _).respond _ _ answers.sends _
  · exact ((stopped.send _ rfl (answers.sends _)).log _ _ _ _).conclude _ _
  · exact ((stopped.log _ _ _ _).publishFailure answers sound _ _).respond _ _ answers.sends _

/-- The records of a chat that is over show nothing. -/
theorem Acted.endedChat (acted : Acted hand sort b t) (chatting : Chatting) (answer : Except Fault Response) :
    Acted hand sort b ((t.endTimed chatting.since chatting.provider.kind.service "chat"
      [("model", .text chatting.provider.chatModel)]).noteReply chatting.provider
        (chatting.provider.chatResult chatting.pending.query answer)) := by
  have ended := acted.log .info chatting.provider.kind.service "chat"
    (Tags.completed [("model", .text chatting.provider.chatModel)] (chatting.since.millisBetween t.now))
  unfold Session.noteReply
  split
  · exact ended.log _ _ _ _
  · exact ended

theorem TurnsTo.endChat {chatting : Chatting} {outcome : Option (Except Fault Response)} (sound : Sound hand b)
    (owned : Owned hand b chatting.pending.active) :
    TurnsTo hand b ticket (.answer chatting outcome) (b.endChat ticket chatting outcome) := by
  have nothing : Acted hand (Act.Fits b (.answer chatting outcome)) b b := .refl b
  have answers : Answers (Act.Fits b (.answer chatting outcome)) b.settings :=
    ⟨fun _ => trivial, fun _ => trivial, fun _ => trivial, fun _ _ => rfl⟩
  unfold Session.endChat
  dsimp only
  split
  · exact .ends (Acted.takeReply (nothing.log _ _ _ _) answers sound (owned.of_desk rfl) _)
  · next answer => exact ⟨_, nothing.endedChat chatting answer, .lined .answered⟩

theorem TurnsTo.askChat {pending : Commanding} :
    TurnsTo hand b ticket (.chat pending) (b.askChat ticket pending) := by
  have nothing : Acted hand (Act.Fits b (.chat pending)) b b := .refl b
  unfold Session.askChat
  split
  · exact ⟨_, nothing, .lined .refused⟩
  · next name provider _ =>
    have timed := nothing.log .info provider.kind.service "chat"
      (Tags.started [("model", .text provider.chatModel)])
    dsimp only
    generalize called : Registry.call _ name provider (.chat pending.query) = reply
    obtain ⟨answer, registry⟩ := reply
    have asked := timed.call called rfl
    dsimp only
    split
    · exact ⟨_, asked.endedChat ⟨pending, provider, b.now⟩ answer.outcome, .lined .refused⟩
    · split
      · exact ⟨_, asked, .waits _ (.asked ⟨pending, provider, b.now⟩)⟩
      · exact ⟨_, asked, .waits _ (.asked ⟨pending, provider, b.now⟩)⟩

theorem TurnsTo.takeReply {pending : Commanding} {result : Except Fault Suggestion} (sound : Sound hand b)
    (owned : Owned hand b pending.active) :
    TurnsTo hand b ticket (.reply pending result) (b.takeReply pending result) :=
  .ends ((Acted.refl b).takeReply ⟨fun _ => trivial, fun _ => trivial, fun _ => trivial, fun _ _ => rfl⟩ sound owned _)

end Commands

/-! ## All turns -/

section Turns

variable {hand : List (Job Work)} {b s : Session} {ticket number : Nat} {message : Message}

/-- Parameters are read, or refused if the message has an id. -/
theorem TurnsTo.withParams {α : Type} {codec : Codec α} {handler : Handler} {next : α → Session}
    (reads : ∀ params, codec.read (givenParams message) = .ok params →
      TurnsTo hand b ticket (.handle number handler message) (next params)) :
    TurnsTo hand b ticket (.handle number handler message) (Session.withParams codec b number message next) := by
  unfold Session.withParams
  split
  · next params read => exact reads params read
  · have nothing : Acted hand (Act.Fits b (.handle number handler message)) b b := .refl b
    have noted := nothing.log .error "lsp.service" "invalid params"
    unfold Session.refuseParams
    dsimp only
    split
    · exact .ends ((noted _).conclude _ _)
    · exact .ends ((noted _).refuse _ _ (fun _ => trivial) _)

theorem TurnsTo.shutdown (b : Session) :
    TurnsTo hand b ticket (.handle number .shutdown message) ((b.shutdown message).finish number) := by
  have nothing : Acted hand (Act.Fits b (.handle number .shutdown message)) b b := .refl b
  have noted : Acted hand (Act.Fits b (.handle number .shutdown message)) b b.closing :=
    (nothing.log .info "lsp.service" "received shutdown request" []).quiet (.note _ _ _ _ true _ _)
  have dropped := noted.one (.drop b.closing) ⟨number, message, rfl⟩
  have told : Acted hand (Act.Fits b (.handle number .shutdown message)) b b.closing.cancelAllPending :=
    dropped.one (.tell _ b.closing.desk.cancelAll.2) ⟨number, message, .inr rfl⟩
  unfold Session.shutdown
  dsimp only
  split
  · exact .ends (told.respond _ _ (fun _ => trivial) _)
  · exact .ends (told.conclude _ _)

/-- Every handler that a session has from the start. -/
theorem TurnsTo.runHandler {handler : Handler} (sound : Sound hand b)
    (own : ∀ script, handler ≠ .scripted script) :
    TurnsTo hand b ticket (.handle number handler message) (b.runHandler ticket number handler message) := by
  have nothing (work : Work) : Acted hand (Act.Fits b work) b b := .refl b
  have edited (work : Work) (edits : work.isEdit = true) (documents : DocumentStore) :
      Acted hand (Act.Fits b work) b { b with documents } :=
    (nothing work).one (.edit b documents) edits
  unfold Session.runHandler
  cases handler with
  | handshake => exact .ends ((nothing _).respond _ _ (fun _ => trivial) _)
  | greeting => exact .ends (((nothing _).log _ _ _ _).conclude _ _)
  | opening => exact .withParams fun params _ => .ends (((edited _ rfl _).log _ _ _ _).conclude _ _)
  | change =>
    refine .withParams fun params _ => .ends (Acted.conclude ?_ _ _)
    unfold Session.didChange
    dsimp only
    split
    · exact (nothing _).log _ _ _ _
    · exact (edited _ rfl _).log _ _ _ _
  | closing => exact .withParams fun params _ => .ends (((edited _ rfl _).log _ _ _ _).conclude _ _)
  | shutdown => exact .shutdown b
  | exit => exact .ends ((((nothing _).log _ _ _ _).quiet (.note _ _ _ _ _ _ _)).conclude _ _)
  | completion => exact .withParams fun params read => .requestCompletion sound read
  | codeAction => exact .withParams fun params _ => .ends ((edited _ rfl _).respond _ _ (fun _ => trivial) _)
  | command => exact .withParams fun params _ => .requestCommand params
  | scripted script => exact absurd rfl (own script)

theorem TurnsTo.tick {signal : Signal} {since : Instant} {frame : Nat} :
    TurnsTo hand b ticket (.tick signal since frame) (b.tick ticket signal since frame) := by
  have nothing : Acted hand (Act.Fits b (.tick signal since frame)) b b := .refl b
  refine ⟨b.showTick signal (tickText since b.now frame), ?_, .waits _ .ticked⟩
  unfold Session.showTick
  split
  · exact nothing.send _ rfl trivial
  · exact nothing
  · exact nothing.publish _ _ fun _ _ => rfl

/-- What a turn comes to, unless it is only the delay of an action that begins. -/
theorem perform_turnsTo {job : Job Work} {rest : List (Job Work)} (sound : Sound [] s)
    (ready : s.desk.agenda.ready = job :: rest) (starts : ∀ key span action, job.work ≠ .delay key span action) :
    TurnsTo [⟨job.ticket, job.work.begun⟩] (s.begun job rest) job.ticket job.work
      (perform job (s.taken rest)) := by
  have sound' := sound.begun ready starts
  have proper : job.work.Proper := by
    refine sound.proper job (List.mem_append_right _ ?_)
    rw [Agenda.jobs_of_ready ready]
    exact List.mem_cons_self ..
  have owned : ∀ active, job.work.begun.active? = some active →
      Owned [⟨job.ticket, job.work.begun⟩] (s.begun job rest) active :=
    fun active shows => sound'.owned (List.mem_singleton_self _) shows
  obtain ⟨ticket, work⟩ := job
  cases work with
  | handle number handler message => exact .runHandler sound' proper
  | resume number script message => exact proper.elim
  | delay key span action => exact absurd rfl (starts key span action)
  | fire key action =>
    cases action with
    | complete job => exact .complete sound'
    | clear uri => exact .ends ((Acted.refl _).one (.clear _ uri) ⟨key, rfl⟩)
  | suggestions pending outcome => exact .takeSuggestions sound' (owned _ rfl)
  | chat pending => exact .askChat
  | answer chatting outcome => exact .endChat sound' (owned _ rfl)
  | tell pending result => exact ⟨_, .refl _, .lined .told⟩
  | reply pending result => exact .takeReply sound' (owned _ rfl)
  | animate signal => exact ⟨_, .refl _, .waits _ .animated⟩
  | tick signal since frame => exact .tick

end Turns

/-! ## The account of a turn -/

/-- Work that is on the agenda after a turn and was not there before. -/
inductive Arises (s : Session) (work : Work) : Work → Prop
  /-- Diagnostics that were published are to be cleared. -/
  | clearing {uri : String} {timeout : Span} (own : timeout = work.shownFor s.settings)
      (lasting : timeout.isInstant = false) :
      Arises s work (.delay (diagnosticsKey uri) timeout (.clear uri))
  | animated {signal : Signal} (own : signal.timeout = work.shownFor s.settings) : Arises s work (.animate signal)
  | delayed {job : CompletionJob} (fits : (Act.admits job).Fits s work) :
      Arises s work (.delay completionKey (.ofMillis s.settings.debounce) (.complete job))
  | handed {next : Work} (hands : Hands s work next) : Arises s work next
  | fires {key : String} {span : Span} {action : DelayedAction} (own : work = .delay key span action) :
      Arises s work (.fire key action)

/-- What a turn shows, what it leaves alone and what it adds. -/
structure Account (s : Session) (job : Job Work) (rest : List (Job Work)) (acts : List Act) (t : Session) :
    Prop where
  framed : Framed acts s t
  fits : ∀ act ∈ acts, act.Fits s job.work
  stays : ∀ keep : Work → Prop, (∀ work, keep work → ∀ act ∈ acts, ¬act.Disturbs work) →
    Stays keep (s.taken rest) t
  arises : ∀ other ∈ t.desk.agenda.jobs, other ∈ (s.taken rest).desk.agenda.jobs ∨ Arises s job.work other.work
  made : ∀ {before act after} {work : Work}, acts = before ++ act :: after → act.Spawns s.settings.debounce work →
    (∀ later ∈ after, ¬later.Disturbs work) → ∃ ticket, ⟨ticket, work⟩ ∈ t.desk.agenda.ready
  unpublished : ∀ m, .sends m ∈ acts → m.published? = none

section Accounts

variable {hand : List (Job Work)} {s b t u : Session} {ticket : Nat} {work next : Work} {acts : List Act}
  {keep : Work → Prop}

theorem Stays.enqueue (stays : Stays keep s u) : Stays keep s (u.enqueue ticket next) :=
  ⟨fun job member kept => List.mem_append_left _ (stays.ready job member kept), stays.timers⟩

theorem Stays.waitUntil (stays : Stays keep s u) (due : Instant) : Stays keep s (u.waitUntil due ticket next) :=
  ⟨fun job member kept => Agenda.mem_ready_waitUntil (stays.ready job member kept),
    fun timer member kept => Agenda.mem_timers_waitUntil (stays.timers timer member kept)⟩

/-- Handing work on shows nothing. -/
theorem Left.framed (left : Left s ticket work u t) (framed : Framed acts b u) : Framed acts b t := by
  cases left with
  | ends => exact framed
  | lined => exact ⟨framed.settings, framed.now, framed.outbox, framed.requests, framed.documents⟩
  | spawned => exact ⟨framed.settings, framed.now, framed.outbox, framed.requests, framed.documents⟩
  | waits due =>
    exact ⟨framed.settings, (Agenda.now_waitUntil _ _).trans framed.now, framed.outbox, framed.requests,
      framed.documents⟩

theorem Left.stays (left : Left s ticket work u t) (stays : Stays keep b u) : Stays keep b t := by
  cases left with
  | ends => exact stays
  | lined => exact stays.enqueue
  | spawned => exact stays.trans (.spawn rfl rfl)
  | waits due => exact stays.waitUntil due

theorem Left.jobs (left : Left s ticket work u t) :
    ∀ job ∈ t.desk.agenda.jobs, job ∈ u.desk.agenda.jobs ∨ Hands s work job.work := by
  intro job member
  cases left with
  | ends => exact .inl member
  | lined hands =>
    rcases List.mem_cons.mp ((Agenda.jobs_enqueue _).mem_iff.mp member) with rfl | old
    · exact .inr hands
    · exact .inl old
  | spawned hands =>
    rcases List.mem_cons.mp ((Agenda.jobs_spawn _).mem_iff.mp member) with rfl | old
    · exact .inr hands
    · exact .inl old
  | waits due hands =>
    rcases List.mem_cons.mp ((Agenda.jobs_waitUntil _ _).mem_iff.mp member) with rfl | old
    · exact .inr hands
    · exact .inl old

/-- What a stroke makes ready arises from the work that it fits. -/
theorem Act.Spawns.arises {act : Act} (spawns : act.Spawns s.settings.debounce next) (fits : act.Fits s work) :
    Arises s work next := by
  cases act with
  | shows uri diagnostics timeout =>
    obtain ⟨lasting, rfl⟩ := spawns
    exact .clearing fits lasting
  | starts signal =>
    cases spawns
    exact .animated fits
  | admits job =>
    cases spawns
    exact .delayed fits
  | _ => cases spawns

theorem TurnsTo.jobs (turns : TurnsTo hand s ticket work t) (sound : Sound hand s) :
    ∀ job ∈ t.desk.agenda.jobs, job ∈ s.desk.agenda.jobs ∨ Arises s work job.work := by
  obtain ⟨u, ⟨acts, strokes, fits⟩, left⟩ := turns
  have grown := strokes.grown sound
  intro job member
  rcases left.jobs job member with before | hands
  · rcases List.mem_append.mp before with ready | waits
    · rcases grown.ready job ready with old | ⟨act, done, spawns⟩
      · exact .inl (List.mem_append_left _ old)
      · exact .inr (spawns.arises (fits act done))
    · obtain ⟨timer, kept, rfl⟩ := List.mem_map.mp waits
      exact .inl (List.mem_append_right _ (List.mem_map_of_mem (grown.timers timer kept)))
  · exact .inr (.handed hands)

/-- What work hands on depends on the settings and the documents. -/
theorem Hands.congr (hands : Hands s work next) (settings : t.settings = s.settings)
    (documents : t.documents = s.documents) : Hands t work next := by
  cases hands with
  | @fetched _ job document _ _ current same query =>
    have current' : t.Current job document := by
      rw [Current, documents]
      exact current
    exact .fetched current' same (settings.symm ▸ query)
  | again same query => exact .again same query
  | command own => exact .command own
  | asked chatting => exact .asked chatting
  | refused => exact .refused
  | answered => exact .answered
  | told => exact .told
  | animated => exact .animated
  | ticked => exact .ticked

theorem Arises.congr (arises : Arises s work next) (settings : t.settings = s.settings)
    (documents : t.documents = s.documents) : Arises t work next := by
  cases arises with
  | clearing own lasting => exact .clearing (settings.symm ▸ own) lasting
  | animated own => exact .animated (settings.symm ▸ own)
  | delayed fits =>
    rw [← settings]
    obtain ⟨message, params, document, own, read, admitted, same⟩ := fits
    refine .delayed ⟨message, params, document, own, read, ?_, same⟩
    rw [admitted?, documents]
    exact admitted
  | handed hands => exact .handed (hands.congr settings documents)
  | fires own => exact .fires own

/-- A job that is begun is off the agenda, and nothing else has changed. -/
theorem begun_eq (s : Session) (job : Job Work) (rest : List (Job Work)) :
    ∃ pending, s.begun job rest = { s.taken rest with desk := { (s.taken rest).desk with pending } } := by
  obtain ⟨ticket, work⟩ := job
  cases work <;> exact ⟨_, rfl⟩

/-- The account of any turn. -/
theorem turn_account {job : Job Work} {rest : List (Job Work)} (sound : Sound [] s)
    (ready : s.desk.agenda.ready = job :: rest) : ∃ acts, Account s job rest acts (perform job (s.taken rest)) := by
  obtain ⟨ticket, work⟩ := job
  rcases work.delay_or with ⟨key, span, action, rfl⟩ | starts
  · refine ⟨[], ?_, by simp, ?_, ?_, by simp, by simp⟩
    · exact ⟨rfl, Agenda.now_waitUntil _ _, (List.append_nil _).symm, (List.append_nil _).symm, fun _ => rfl⟩
    · exact fun keep _ => (Stays.of_agenda rfl).waitUntil _
    · intro other member
      rcases List.mem_cons.mp ((Agenda.jobs_waitUntil _ _).mem_iff.mp member) with rfl | old
      · exact .inr (.fires rfl)
      · exact .inl old
  · have turns := perform_turnsTo sound ready starts
    have soundly := sound.begun ready starts
    obtain ⟨pending, same⟩ := begun_eq s ⟨ticket, work⟩ rest
    have jobs := turns.jobs soundly
    obtain ⟨u, ⟨acts, strokes, fits⟩, left⟩ := turns
    have framed := left.framed (strokes.framed soundly)
    rw [same] at framed fits jobs
    have arises : ∀ other ∈ (perform ⟨ticket, work⟩ (s.taken rest)).desk.agenda.jobs,
        other ∈ (s.taken rest).desk.agenda.jobs ∨ Arises s work other.work :=
      fun other member => (jobs other member).imp_right fun new => new.congr rfl rfl
    refine ⟨acts, ?_, fits, fun keep harmless => ?_, arises, ?_, strokes.unpublished⟩
    · exact ⟨framed.settings, framed.now, framed.outbox, framed.requests, framed.documents⟩
    · have stays : Stays keep (s.begun ⟨ticket, work⟩ rest) (perform ⟨ticket, work⟩ (s.taken rest)) :=
        left.stays (strokes.stays soundly harmless)
      rw [same] at stays
      exact ⟨stays.ready, stays.timers⟩
    · intro before act after next split spawns undisturbed
      have settings : (s.begun ⟨ticket, work⟩ rest).settings = s.settings := by rw [same]; rfl
      obtain ⟨number, ready⟩ := strokes.made soundly split (settings ▸ spawns) undisturbed
      have stays : Stays (· = next) u (perform ⟨ticket, work⟩ (s.taken rest)) := left.stays (.of_agenda rfl)
      exact ⟨number, stays.ready _ ready rfl⟩

end Accounts

end EditorAssist.Session

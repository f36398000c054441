import EditorAssist.Proofs.Session.Doing

/-!
# What a turn of a session does

Every handler that is started owes its end, and most owe an answer to the request that they work on. A
turn pays what its work owes, or hands it on to the work that follows. Besides it only does work on the
side. This is said here once for every kind of work.
-/

namespace EditorAssist.Session

open EditorAssist.Backend EditorAssist.Completion EditorAssist.Debounce EditorAssist.Journal
open EditorAssist.Payload EditorAssist.Settings EditorAssist.Time EditorAssist.Wire

/-! ## What is owed -/

/-- A handler that has not come to its end, and the id that it has to answer. -/
structure Charge where
  number : Nat
  id : Option RequestId
  deriving DecidableEq

/-- Whether the parameters of a message can be read. -/
def readable {α : Type} (codec : Codec α) (message : Message) : Bool :=
  match codec.read (givenParams message) with
  | .ok _ => true
  | .error _ => false

/-- Whether a handler answers a message that has an id. -/
def Handler.answers (message : Message) : Handler → Bool
  | handshake => true
  | shutdown => true
  | completion => true
  | codeAction => true
  | command => true
  | opening => !readable DidOpenParams.codec message
  | change => !readable DidChangeParams.codec message
  | closing => !readable DidCloseParams.codec message
  | greeting => false
  | exit => false
  | scripted _ => false

/-- The id that a handler has to answer. -/
def Handler.owes (handler : Handler) (message : Message) : Option RequestId :=
  if handler.answers message then message.id else none

def DelayedAction.charge? : DelayedAction → Option Charge
  | complete job => some ⟨job.invocation, job.id⟩
  | clear _ => none

namespace Work

/-- What work has to pay, or to hand on. -/
def charge? : Work → Option Charge
  | handle number handler message => some ⟨number, handler.owes message⟩
  | resume number _ _ => some ⟨number, none⟩
  | delay _ _ action => action.charge?
  | fire _ action => action.charge?
  | suggestions pending _ => some ⟨pending.job.invocation, pending.job.id⟩
  | chat pending => some ⟨pending.job.invocation, pending.job.id⟩
  | answer chatting _ => some ⟨chatting.pending.job.invocation, chatting.pending.job.id⟩
  | tell pending _ => some ⟨pending.job.invocation, pending.job.id⟩
  | reply pending _ => some ⟨pending.job.invocation, pending.job.id⟩
  | animate _ => none
  | tick .. => none

/-- What work may ask the backends. -/
def mayAsk : Work → Topic → Bool
  | fire _ (.complete _), .completion _ => true
  | suggestions .., .completion _ => true
  | chat _, .chat _ => true
  | _, _ => false

/-- The clearings of diagnostics that work may schedule when it ends, and the signals it may start. -/
def lastDeeds : Work → Nat × Nat
  | fire _ (.complete _) => (1, 1)
  | suggestions .. => (1, 0)
  | answer .. => (1, 0)
  | reply .. => (1, 0)
  | _ => (0, 0)

/-- The same for work that goes on. -/
def deeds : Work → Nat × Nat
  | handle .. => (1, 1)
  | fire _ (.complete _) => (0, 1)
  | _ => (0, 0)

end Work

/-- What work hands on to, in a session with these settings at some instant. -/
inductive Succeeds (settings : Settings) (now : Instant) : Work → Work → Prop
  | fetched {key : String} {job : CompletionJob} {pending : Completing}
      {outcome : Except Fault (List Suggestion)} (same : pending.job = job)
      (fewer : pending.collection.remaining ≤ settings.suggestions)
      (deadline : pending.collection.deadline = some (now.after (.ofMillis settings.completionTimeout))) :
      Succeeds settings now (.fire key (.complete job)) (.suggestions pending outcome)
  | again {before pending : Completing} {last outcome : Except Fault (List Suggestion)}
      (same : pending.job = before.job)
      (fewer : pending.collection.remaining < before.collection.remaining)
      (deadline : pending.collection.deadline = before.collection.deadline) :
      Succeeds settings now (.suggestions before last) (.suggestions pending outcome)
  | command {number : Nat} {message : Message} {pending : Commanding}
      (invocation : pending.job.invocation = number) (id : pending.job.id = message.id) :
      Succeeds settings now (.handle number .command message) (.chat pending)
  | asked (chatting : Chatting) {outcome : Option (Except Fault Response)} :
      Succeeds settings now (.chat chatting.pending) (.answer chatting outcome)
  | refused {pending : Commanding} {result : Except Fault Suggestion} :
      Succeeds settings now (.chat pending) (.tell pending result)
  | answered {chatting : Chatting} {outcome : Option (Except Fault Response)}
      {result : Except Fault Suggestion} :
      Succeeds settings now (.answer chatting outcome) (.tell chatting.pending result)
  | told {pending : Commanding} {result : Except Fault Suggestion} :
      Succeeds settings now (.tell pending result) (.reply pending result)

/-- Whether work may wait until an instant: suggestions do not arrive after their deadline. -/
def Work.MayWait (due : Instant) : Work → Prop
  | .suggestions pending _ =>
    ∀ deadline, pending.collection.deadline = some deadline → due.nanos ≤ deadline.nanos
  | .answer .. => True
  | _ => False

/-- Where the work is put that goes on. -/
inductive Placed (t : Session) (ticket : Nat) (next : Work) : Session → Prop
  | lined : Placed t ticket next (t.enqueue ticket next)
  | spawned : Placed t ticket next (t.spawn next).1
  | waits (due : Instant) (prompt : next.MayWait due) : Placed t ticket next (t.waitUntil due ticket next)

/-- The document of a completion that is delayed: it is stored, and there is no period before the cursor. -/
def admitted? (s : Session) (params : CompletionParams) : Option Document :=
  (s.documents.get? params.textDocument.uri).filter fun document =>
    (CursorContext.at_ document.text.toList params.position.line params.position.character).lastCharacter !=
      some '.'

/-- What the turn of some work leads to, from a session whose job of that ticket is in hand. -/
inductive Effect (hand : List (Job Work)) (b : Session) (ticket : Nat) (work : Work) : Session → Prop
  /-- A handler comes to its end without an answer. -/
  | silent {number : Nat} {t : Session} {fault : Option Fault} (charge : work.charge? = some ⟨number, none⟩)
      (does : Does hand b 0 0 [] t) : Effect hand b ticket work (t.conclude number fault)
  /-- A request is answered and its handler comes to its end. -/
  | answers {number : Nat} {id : Option RequestId} {topics : List Topic} {t u : Session} {m : Outbound}
      {fault : Option Fault} (charge : work.charge? = some ⟨number, id⟩)
      (does : Does hand b work.lastDeeds.1 work.lastDeeds.2 topics t)
      (asks : ∀ topic ∈ topics, work.mayAsk topic = true) (answer : m.answers? = some id)
      (after : Does hand (t.send m) 0 0 [] u) : Effect hand b ticket work (u.conclude number fault)
  /-- Other work goes on. -/
  | goesOn {topics : List Topic} {t u : Session} {next : Work}
      (does : Does hand b work.deeds.1 work.deeds.2 topics t)
      (asks : ∀ topic ∈ topics, work.mayAsk topic = true)
      (succeeds : Succeeds b.settings b.now work next)
      (owned : ∀ active, next.active? = some active → Owned hand t active)
      (placed : Placed t ticket next u) : Effect hand b ticket work u
  /-- A completion is delayed. -/
  | delays {number : Nat} {message : Message} {params : CompletionParams} {document : Document}
      (own : work = .handle number .completion message)
      (read : CompletionParams.codec.read (givenParams message) = .ok params)
      (admitted : b.admitted? params = some document) :
      Effect hand b ticket work
        (b.schedule completionKey (.ofMillis b.settings.debounce)
          (.complete ⟨number, message.id, params, document.version⟩))
  /-- A shutdown withdraws whatever is delayed. -/
  | shutsDown {number : Nat} {message : Message} (own : work = .handle number .shutdown message) :
      Effect hand b ticket work ((b.shutdown message).finish number)
  /-- Some diagnostics are cleared. -/
  | clears {t : Session} (free : work.charge? = none) (does : Does hand b 0 0 [] t) :
      Effect hand b ticket work t
  /-- A signal shows a tick, or its first wait begins. -/
  | ticks {t : Session} {span : Span} {next : Work} (own : work.isSignal = true)
      (does : Does hand b 1 0 [] t) (signal : next.isSignal = true) (proper : next.Proper)
      (slow : 1000000 ≤ span.nanos) : Effect hand b ticket work (t.waitFor span ticket next)

section Ends

variable {hand : List (Job Work)} {b t : Session} {ticket number : Nat} {work : Work}
  {id : Option RequestId} {topics : List Topic}

theorem Effect.respond (charge : work.charge? = some ⟨number, id⟩)
    (does : Does hand b work.lastDeeds.1 work.lastDeeds.2 topics t)
    (asks : ∀ topic ∈ topics, work.mayAsk topic = true) (result : Json.Value) :
    Effect hand b ticket work ((t.respond id result).finish number) :=
  .answers charge does asks (m := .response id result) rfl (.refl _)

theorem Effect.refuse (charge : work.charge? = some ⟨number, id⟩)
    (does : Does hand b work.lastDeeds.1 work.lastDeeds.2 topics t)
    (asks : ∀ topic ∈ topics, work.mayAsk topic = true) (error : Refusal) :
    Effect hand b ticket work ((t.refuse id error).finish number) :=
  .answers charge does asks (m := .refusal id error) rfl (.refl _)

end Ends

end EditorAssist.Session

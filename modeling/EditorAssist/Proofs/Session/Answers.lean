import EditorAssist.Proofs.Session.Draining

/-!
# Every request is answered once

The answers that a session gives are those that its messages have to get, neither more nor twice, and when no
handler is at work any more none is missing. That is so when a stream has been served to its end.
-/

namespace EditorAssist.Session

open EditorAssist.Backend EditorAssist.Debounce EditorAssist.Journal EditorAssist.Json
open EditorAssist.Payload EditorAssist.Settings EditorAssist.Time EditorAssist.Wire

/-! ## Requests and responses -/

/-- Whether the method of a message is one that is answered: a request proper, or a method that nobody takes
care of. -/
def isAnswerable (m : Message) : Bool :=
  match m.method with
  | some method =>
    ["initialize", "shutdown", "textDocument/completion", "textDocument/codeAction",
      "workspace/executeCommand"].contains method || (Handler.ofMethod? method).isNone
  | none => false

/-- Whether a message is about a document but cannot be read, which it is told if it has an id. -/
def isMisread (m : Message) : Bool :=
  match m.method with
  | some "textDocument/didOpen" => !readable DidOpenParams.codec m
  | some "textDocument/didChange" => !readable DidChangeParams.codec m
  | some "textDocument/didClose" => !readable DidCloseParams.codec m
  | _ => false

/-- The number of messages with an id that are answered. -/
def requestsFor (id : RequestId) (messages : List Message) : Nat :=
  messages.countP fun m => m.id == some id && (isAnswerable m || isMisread m)

/-- The number of messages written with an id and without a method. -/
def responsesTo (s : Session) (id : RequestId) : Nat :=
  s.sent.countP fun m => m.id? == some id && m.method?.isNone

/-- The methods that are taken care of. -/
theorem ofMethod?_cases (method : String) :
    Handler.ofMethod? method = none ∨
      (method, Handler.ofMethod? method) ∈ [("initialize", some Handler.handshake),
        ("initialized", some .greeting), ("textDocument/didOpen", some .opening),
        ("textDocument/didChange", some .change), ("textDocument/didClose", some .closing),
        ("shutdown", some .shutdown), ("exit", some .exit), ("textDocument/completion", some .completion),
        ("textDocument/codeAction", some .codeAction), ("workspace/executeCommand", some .command)] := by
  unfold Handler.ofMethod?
  split <;> simp

/-- A message has to be answered if it has an id and its method or its parameters call for it. -/
theorem owedFor_eq (m : Message) : owedFor m = if isAnswerable m || isMisread m then m.id else none := by
  unfold owedFor handler? isAnswerable isMisread
  cases called : m.method with
  | none => rfl
  | some method =>
    dsimp only [Option.bind_some]
    rcases ofMethod?_cases method with unhandled | known
    · simp [unhandled]
    · simp only [List.mem_cons, Prod.mk.injEq, List.not_mem_nil, or_false] at known
      rcases known with ⟨rfl, _⟩ | ⟨rfl, _⟩ | ⟨rfl, _⟩ | ⟨rfl, _⟩ | ⟨rfl, _⟩ | ⟨rfl, _⟩ | ⟨rfl, _⟩ |
        ⟨rfl, _⟩ | ⟨rfl, _⟩ | ⟨rfl, _⟩ <;> rfl

/-! ## Counting -/

section Counting

variable {s : Session} {id : RequestId}

theorem count_owedBy (messages : List Message) (id : RequestId) :
    (owedBy messages).count id = requestsFor id messages := by
  rw [owedBy, List.count_filterMap, requestsFor]
  refine List.countP_congr fun m _ => ?_
  rw [owedFor_eq]
  split <;> simp_all

/-- A message without a method answers the request of its id. -/
theorem answers?_eq_some {m : Outbound} :
    m.answers?.join = some id ↔ (m.id? == some id && m.method?.isNone) = true := by
  cases m <;> simp [Outbound.answers?, Outbound.id?, Outbound.method?]

theorem count_answered (s : Session) (id : RequestId) :
    s.answered.count id = s.outbox.countP fun m => m.id? == some id && m.method?.isNone := by
  rw [answered, List.count_filterMap]
  refine List.countP_congr fun m _ => ?_
  rw [beq_iff_eq, answers?_eq_some]

/-- What is written was given to be sent. -/
theorem responsesTo_le (s : Session) (id : RequestId) : s.responsesTo id ≤ s.answered.count id := by
  rw [count_answered]
  exact List.Sublist.countP_le List.filter_sublist

/-- If everything can be written, everything is. -/
theorem responsesTo_eq (written : ∀ m ∈ s.outbox, m.encodeFault? = none) :
    s.responsesTo id = s.answered.count id := by
  have all : s.sent = s.outbox := List.filter_eq_self.mpr fun m member => by rw [written m member]; rfl
  rw [count_answered, responsesTo, all]

/-- The balance of a ledger as a count of responses. -/
theorem Ledger.counts {messages : List Message} {charges : List Charge}
    (ledger : Ledger (owedBy messages) charges s) (id : RequestId) :
    s.responsesTo id ≤ requestsFor id messages ∧
      (s.inFlight = 0 → (∀ m ∈ s.outbox, m.encodeFault? = none) →
        s.responsesTo id = requestsFor id messages) := by
  have balance := ledger.answers.count_eq id
  rw [List.count_append, count_owedBy] at balance
  refine ⟨?_, fun idle written => ?_⟩
  · have fewer := responsesTo_le s id
    omega
  · have settled := (ledger.settled idle).2.count_eq id
    rw [responsesTo_eq written, settled, count_owedBy]

end Counting

/-- A shutdown with an id. -/
def shutdownRequest : Message := ⟨"2.0", some (.number 7), some "shutdown", .null, .null, none⟩

/-- A session that has handled some messages and settled. -/
def afterMessages (messages : List Message) : Session :=
  ((Session.start (.defaults "") .empty .initial).handleAll messages).settle

theorem run_afterMessages (messages : List Message) :
    ∃ events, Run (Session.start (.defaults "") .empty .initial) events (afterMessages messages) ∧
      received events = messages := by
  obtain ⟨events, run, arrived⟩ := handleAll_run (Session.start (.defaults "") .empty .initial) messages
  obtain ⟨later, settles, quiet⟩ := settle_works
    ((Session.start (.defaults "") .empty .initial).handleAll messages)
  exact ⟨_, run.append settles, by rw [received_append, arrived, quiet, List.append_nil]⟩

end EditorAssist.Session

import EditorAssist.Proofs.Document
import EditorAssist.Proofs.Session.Expecting
import EditorAssist.Proofs.Session.Reaching

/-!
# What becomes of a command

A command that is accepted has its backend asked once. Its handler then waits for the answer or the deadline,
whatever happens to the documents in the meantime, and says one thing in the end: an edit of the document that
was current when the command was taken up, or the reason why there is none in the document that is current by
then. After that it answers null and takes no further turn.
-/

namespace EditorAssist.Session

open EditorAssist.Action EditorAssist.Backend EditorAssist.Debounce EditorAssist.Journal
open EditorAssist.Payload EditorAssist.Settings EditorAssist.Text EditorAssist.Time EditorAssist.Wire

/-! ## What a command says -/

/-- Messages that neither edit a document nor answer a request. -/
def Outbound.isPlain : Outbound → Bool
  | applyEdit .. => false
  | response .. => false
  | refusal .. => false
  | _ => true

/-- The query of a command on a document. -/
def chatQuery (s : Session) (job : CommandJob) (document : Document) : ChatQuery where
  instruction := instruction (commandQuery job) job.argument.diagnostics
  selection := String.ofList (s.documents.textInRange document.uri job.argument.range)
  path := document.uri
  language := document.languageId

/-- The requests of a chat that starts now: one, if a backend is selected. -/
def chatRequests (s : Session) (query : ChatQuery) : List Request :=
  match s.registry.get none with
  | .error _ => []
  | .ok (_, provider) => [provider.request (.chat query)]

/-- The result of a chat that starts now: what the backend answers, unless the deadline comes before the answer,
which waits for no deadline if it is there at once. -/
def chatResult (s : Session) (query : ChatQuery) : Except Fault Suggestion :=
  match s.registry.get none with
  | .error fault => .error fault
  | .ok (_, provider) =>
    if 0 < provider.take.1.delay.nanos ∧ s.settings.actionTimeout * 1000000 ≤ provider.take.1.delay.nanos then
      .error Fault.deadline
    else (provider.chatResult query provider.take.1.outcome).map (·.content)

/-- Diagnostics that tell in a document why a command did not lead to an edit, if there is a document. -/
def failureShown (current : String) (job : CommandJob) (text : String) : List Outbound :=
  if current.isEmpty then []
  else [.diagnostics ⟨current, [⟨text, job.argument.range, some diagnosticSource, some .error⟩]⟩]

/-- What a command says in the end, by the result of its chat: one edit of the document of a uri, or the failure
in the current document, and then null. -/
inductive Concludes (job : CommandJob) (uri : String) (amount : Nat) (current : String) :
    Except Fault Suggestion → List Outbound → Prop
  | edit {text : String} {id : Nat} {before after : List Outbound} (filled : isBlankText text.toList = false)
      (plain : ∀ m ∈ before ++ after, m.isPlain = true) :
      Concludes job uri amount current (.ok (.str text))
        (before ++ .applyEdit id ⟨job.command.key, ⟨[(uri, [⟨job.argument.range,
          String.ofList (indentedResult amount text.toList)⟩])]⟩⟩ :: after ++ [.response job.id .null])
  | blank {text : String} {before : List Outbound} (blank : isBlankText text.toList = true)
      (plain : ∀ m ∈ before, m.isPlain = true) :
      Concludes job uri amount current (.ok (.str text))
        (before ++ failureShown current job "No completion found" ++ [.response job.id .null])
  | failed {fault : Fault} {before : List Outbound} (plain : ∀ m ∈ before, m.isPlain = true) :
      Concludes job uri amount current (.error fault)
        (before ++ failureShown current job fault.describe ++ [.response job.id .null])
  | odd {content : Suggestion} {before : List Outbound} (odd : ∀ text, content ≠ .str text)
      (plain : ∀ m ∈ before, m.isPlain = true) :
      Concludes job uri amount current (.ok content) (before ++ [.response job.id .null])

section Saying

variable {hand : List (Job Work)} {b s t : Session} {pending : Commanding} {job : CommandJob}
  {result : Except Fault Suggestion}

/-- What shows in plain messages at most, and leaves the documents alone. -/
def Act.IsPlain (act : Act) : Prop :=
  (∀ m ∈ act.messages, m.isPlain = true) ∧ ∀ documents, act ≠ .edits documents

theorem Act.isPlain_of_sends {m : Outbound} (plain : m.isPlain = true) : (Act.sends m).IsPlain := by
  refine ⟨fun other member => ?_, nofun⟩
  rw [List.mem_singleton.mp member]
  exact plain

theorem Act.isPlain_aside (m : Outbound) (aside : m.isAside = true) : (Act.sends m).IsPlain := by
  refine Act.isPlain_of_sends ?_
  cases m <;> first | rfl | cases aside

theorem Act.isPlain_wipes (uri : String) : (Act.wipes uri).IsPlain := by
  refine ⟨fun other member => ?_, nofun⟩
  rw [List.mem_singleton.mp member]
  rfl

theorem Act.isPlain_shows (uri : String) (diagnostics : List Diagnostic) (timeout : Span) :
    (Act.shows uri diagnostics timeout).IsPlain := by
  refine ⟨fun other member => ?_, nofun⟩
  rw [List.mem_singleton.mp member]
  rfl

/-- What is said in plain messages. -/
theorem Acted.told (acted : Acted hand Act.IsPlain s t) (sound : Sound hand s) :
    ∃ said, t.outbox = s.outbox ++ said ∧ (∀ m ∈ said, m.isPlain = true) ∧ t.documents = s.documents := by
  obtain ⟨acts, strokes, plain⟩ := acted
  have framed := strokes.framed sound
  refine ⟨acts.flatMap Act.messages, framed.outbox, fun m member => ?_, framed.documents fun documents edits => ?_⟩
  · obtain ⟨act, done, told⟩ := List.mem_flatMap.mp member
    exact (plain act done).1 m told
  · exact (plain _ edits).2 documents rfl

/-- A failure is shown in the current document. -/
theorem outbox_publishFailure (sound : Sound hand s) (job : CommandJob) (text : String) :
    (s.publishFailure job text).outbox = s.outbox ++ failureShown s.documents.currentUri job text := by
  unfold publishFailure publishOne failureShown
  cases current : s.documents.currentUri.isEmpty with
  | true =>
    have same : s.publish [⟨text, job.argument.range, none, some .error⟩] (.ofMillis s.settings.diagnosticTimeout) = s :=
      if_pos current
    rw [same]
    exact (List.append_nil _).symm
  | false =>
    obtain ⟨sink, same⟩ := publish_eq sound current [⟨text, job.argument.range, none, some .error⟩]
      (.ofMillis s.settings.diagnosticTimeout)
    rw [same]
    rfl

theorem outbox_respond (s : Session) (id : Option RequestId) (value : Json.Value) :
    (s.respond id value).outbox = s.outbox ++ [.response id value] := by
  obtain ⟨sink, sent⟩ := send_eq s (.response id value)
  rw [respond, sent]

theorem outbox_conclude (s : Session) (number : Nat) (fault : Option Fault) :
    (s.conclude number fault).outbox = s.outbox := rfl

theorem outbox_log (s : Session) (level : Level) (service message : String) (tags : Tags) :
    (s.log level service message tags).outbox = s.outbox := rfl

theorem Sound.log (sound : Sound hand s) (level : Level) (service message : String) (tags : Tags) :
    Sound hand (s.log level service message tags) := sound.of_desk rfl rfl

/-- Why a command failed is shown, and it is answered. -/
theorem outbox_failure (sound : Sound hand s) (job : CommandJob) (level : Level) (service message text : String)
    (tags : Tags) :
    (((s.log level service message tags).publishFailure job text).answerCommand job).outbox =
      s.outbox ++ failureShown s.documents.currentUri job text ++ [.response job.id .null] := by
  rw [answerCommand, finish, outbox_conclude, outbox_respond, outbox_publishFailure (sound.log _ _ _ _)]
  rfl

theorem requestWith_eq (s : Session) (message : Nat → Outbound) :
    ∃ sink, s.requestWith message =
      { s with sink, requested := s.requested + 1, outbox := s.outbox ++ [message (s.requested + 1)] } := by
  obtain ⟨sink, sent⟩ := send_eq { s with requested := s.requested + 1 } (message (s.requested + 1))
  exact ⟨sink, sent⟩

/-- An edit is sent, diagnostics are cleared, and the command is answered. -/
theorem outbox_edit (sound : Sound hand s) (job : CommandJob) (edit : WorkspaceEdit) (level : Level)
    (service message : String) (tags : Tags) :
    ∃ id said, (∀ m ∈ said, m.isPlain = true) ∧
      ((((s.log level service message tags).requestWith fun id =>
        .applyEdit id ⟨job.command.key, edit⟩).resetDiagnostics).answerCommand job).outbox =
        s.outbox ++ .applyEdit id ⟨job.command.key, edit⟩ :: said ++ [.response job.id .null] := by
  obtain ⟨sink, asked⟩ := requestWith_eq (s.log level service message tags)
    fun id => .applyEdit id ⟨job.command.key, edit⟩
  rw [asked]
  have soundly : Sound hand { s.log level service message tags with
      sink
      requested := (s.log level service message tags).requested + 1
      outbox := (s.log level service message tags).outbox ++
        [.applyEdit ((s.log level service message tags).requested + 1) ⟨job.command.key, edit⟩] } :=
    sound.of_desk rfl rfl
  obtain ⟨said, outbox, plain, -⟩ := ((Acted.refl _).resetDiagnostics Act.isPlain_wipes).told soundly
  refine ⟨s.requested + 1, said, plain, ?_⟩
  rw [answerCommand, finish, outbox_conclude, outbox_respond, outbox]
  simp [log]

/-- What the handler of a command says when it goes on with the result of its chat. -/
theorem outbox_takeReply (sound : Sound hand b) (owned : Owned hand b pending.active)
    (result : Except Fault Suggestion) :
    ∃ said, (b.takeReply pending result).outbox = b.outbox ++ said ∧
      Concludes pending.job pending.uri pending.padding b.documents.currentUri result said := by
  have stopped : Acted hand Act.IsPlain b (b.stopSignal pending.active).1 :=
    (Acted.refl b).stopSignal owned Act.isPlain_aside (fun _ => ⟨by simp [Act.messages], nofun⟩) Act.isPlain_wipes
  obtain ⟨before, outbox, plain, documents⟩ := stopped.told sound
  have soundly := stopped.sound sound
  unfold takeReply
  generalize (b.stopSignal pending.active).1 = s at outbox documents soundly
  rw [← documents]
  unfold deliverChat
  split
  · next text =>
    unfold applyResult
    dsimp only
    cases filled : isBlankText text.toList with
    | true =>
      refine ⟨_, ?_, .blank filled plain⟩
      rw [if_pos rfl, outbox_failure soundly, outbox, List.append_assoc, List.append_assoc, List.append_assoc]
    | false =>
      rw [if_neg Bool.false_ne_true]
      obtain ⟨id, said, free, told⟩ := outbox_edit soundly pending.job
        ⟨[(pending.uri, [⟨pending.job.argument.range,
          String.ofList (indentedResult pending.padding text.toList)⟩])]⟩ .debug "handler.actions"
        "received chat result" [("command", .text pending.job.command.key),
          ("length", .int (indentedResult pending.padding text.toList).length)]
      have both : ∀ m ∈ before ++ said, m.isPlain = true := fun m member =>
        (List.mem_append.mp member).elim (plain m) (free m)
      refine ⟨before ++ .applyEdit id _ :: said ++ [_], ?_, .edit filled both⟩
      rw [told, outbox, List.append_assoc, List.append_assoc, List.append_assoc]
  · next content odd =>
    refine ⟨_, ?_, .odd odd plain⟩
    rw [breakCommand, outbox_conclude, outbox_log, outbox_respond, outbox, List.append_assoc]
  · refine ⟨_, ?_, .failed plain⟩
    rw [outbox_failure soundly, outbox, List.append_assoc, List.append_assoc, List.append_assoc]

end Saying

/-! ## The stages of a command -/

/-- The result that a chat comes to. -/
def Chatting.result (chatting : Chatting) : Option (Except Fault Response) → Except Fault Suggestion
  | none => .error Fault.deadline
  | some outcome => (chatting.provider.chatResult chatting.pending.query outcome).map (·.content)

/-- Work that brings the result of a chat to the handler that waits for it. -/
def Work.Brings (pending : Commanding) (result : Except Fault Suggestion) : Work → Prop
  | answer chatting outcome => chatting.pending = pending ∧ chatting.result outcome = result
  | tell waiting told => waiting = pending ∧ told = result
  | reply waiting told => waiting = pending ∧ told = result
  | _ => False

/-- A command as its handler waits for it, with everything that was read from the session that took it up. -/
structure CarriesOut (s : Session) (job : CommandJob) (document : Document) (pending : Commanding) : Prop where
  own : pending.job = job
  uri : pending.uri = s.documents.currentUri
  padding : pending.padding = padding (s.documents.textInRange document.uri job.argument.range)
  query : pending.query = s.chatQuery job document

section Stages

variable {hand : List (Job Work)} {s : Session} {ticket number : Nat} {message : Message} {pending : Commanding}
  {result : Except Fault Suggestion} {first : Job Work} {rest : List (Job Work)}

theorem perform_command {params : ExecuteCommandParams} {command : ActionCommand} {value : Json.Value}
    {more : List Json.Value} {argument : CommandArgument} {document : Document}
    (read : ExecuteCommandParams.codec.read (givenParams message) = .ok params)
    (known : Action.find? params.command = some command) (given : params.arguments = value :: more)
    (valid : CommandArgument.codec.read value = .ok argument) (current : s.documents.current? = some document) :
    perform ⟨ticket, .handle number .command message⟩ s =
      s.runCommand ⟨number, message.id, command, argument⟩ document := by
  show withParams ExecuteCommandParams.codec s number message (s.requestCommand number message.id) = _
  rw [withParams, read]
  dsimp only
  rw [requestCommand, known, given]
  dsimp only
  rw [valid]
  dsimp only
  rw [startCommand]
  rw [DocumentStore.current?] at current
  split at current
  · cases current
  · next there =>
    dsimp only
    rw [if_neg there, current]

/-- A command on the current document says nothing yet but plain messages, and its chat is ready to start. -/
theorem runCommand_tells (sound : Sound hand s) (job : CommandJob) (document : Document)
    (current : s.documents.current? = some document) :
    ∃ pending said, CarriesOut s job document pending ∧
      (s.runCommand job document).outbox = s.outbox ++ said ∧ (∀ m ∈ said, m.isPlain = true) ∧
      ∃ t, s.runCommand job document = (Session.spawn t (.chat pending)).1 := by
  have uri : document.uri = s.documents.currentUri := by
    rw [DocumentStore.current?] at current
    split at current
    · cases current
    · exact DocumentStore.uri_of_get? current
  have noted : Acted hand Act.IsPlain s (s.log .info "handler.actions" "executing command"
      [("command", .text job.command.key), ("uri", .text document.uri), ("backend", .text s.registry.current)]) :=
    (Acted.refl s).log _ _ _ _
  unfold runCommand
  dsimp only
  generalize told : (if s.settings.spinner = true then _ else _) = t
  have acted : Acted hand Act.IsPlain s t := by
    rw [← told]
    split
    · exact noted
    · exact noted.publish _ _ fun uri diagnostics => Act.isPlain_shows uri diagnostics _
  have started := acted.startSignal ⟨commandSignal s.settings job, none⟩ (tickInterval_slow _) Act.isPlain_aside
    fun signal _ => ⟨by simp [Act.messages], nofun⟩
  generalize t.startSignal ⟨commandSignal s.settings job, none⟩ = signalled at started
  obtain ⟨t₁, active⟩ := signalled
  obtain ⟨said, outbox, plain, -⟩ := started.told sound
  exact ⟨_, said, ⟨rfl, uri, rfl, rfl⟩, outbox, plain, t₁, rfl⟩

/-- A command is taken up. -/
theorem command_turn {params : ExecuteCommandParams} {command : ActionCommand} {value : Json.Value}
    {more : List Json.Value} {argument : CommandArgument} {document : Document} (sound : Sound [] s)
    (ready : s.desk.agenda.ready = ⟨ticket, .handle number .command message⟩ :: rest)
    (read : ExecuteCommandParams.codec.read (givenParams message) = .ok params)
    (known : Action.find? params.command = some command) (given : params.arguments = value :: more)
    (valid : CommandArgument.codec.read value = .ok argument) (current : s.documents.current? = some document) :
    ∃ pending, CarriesOut s ⟨number, message.id, command, argument⟩ document pending ∧
      (∀ m ∈ (Event.turn s ⟨ticket, .handle number .command message⟩).gives, m.isPlain = true) ∧
      Expects (fun work instant => work = .chat pending ∧ instant = s.now.nanos)
        (perform ⟨ticket, .handle number .command message⟩ (s.taken rest)) := by
  have there : (s.taken rest).documents.current? = some document := current
  have now := (turn_steady sound ready).2
  have more := outbox_turned sound ready
  rw [perform_command read known given valid there] at now more ⊢
  have begun : Sound [⟨ticket, .handle number .command message⟩] (s.taken rest) := sound.begun ready nofun
  obtain ⟨pending, said, own, outbox, plain, t, spawned⟩ :=
    runCommand_tells begun ⟨number, message.id, command, argument⟩ document there
  have same : (Event.turn s ⟨ticket, .handle number .command message⟩).gives = said :=
    List.append_cancel_left (more.symm.trans outbox)
  refine ⟨pending, ⟨own.own, own.uri, own.padding, own.query⟩, same ▸ plain, ?_⟩
  rw [spawned] at now ⊢
  exact .spawn ⟨rfl, congrArg Instant.nanos now⟩

/-- A chat that was answered is told to its handler. -/
theorem endChat_some (s : Session) (ticket : Nat) (chatting : Chatting) (outcome : Except Fault Response) :
    ∃ sink, s.endChat ticket chatting (some outcome) =
      ({ s with sink } : Session).enqueue ticket (.tell chatting.pending (chatting.result (some outcome))) := by
  unfold endChat noteReply
  dsimp only
  split
  · exact ⟨_, rfl⟩
  · exact ⟨_, rfl⟩

/-- A chat asks the selected backend once, and its result is brought before the deadline. -/
theorem askChat_brings (s : Session) (pending : Commanding) (ticket : Nat) :
    (s.askChat ticket pending).outbox = s.outbox ∧
      (s.askChat ticket pending).registry.requests = s.registry.requests ++ s.chatRequests pending.query ∧
      Expects (fun work instant => work.Brings pending (s.chatResult pending.query) ∧
        instant ≤ s.now.nanos + s.settings.actionTimeout * 1000000) (s.askChat ticket pending) := by
  unfold askChat chatRequests chatResult
  cases s.registry.get none with
  | error fault =>
    refine ⟨rfl, (List.append_nil _).symm, .enqueue ⟨⟨rfl, rfl⟩, ?_⟩⟩
    omega
  | ok found =>
    obtain ⟨name, provider⟩ := found
    unfold Registry.call
    dsimp only
    generalize provider.take = taken
    obtain ⟨answer, after⟩ := taken
    dsimp only
    split
    · next instant =>
      have short : answer.delay.nanos ≤ 0 := of_decide_eq_true instant
      rw [if_neg (by omega)]
      generalize asked : ({ Session.beginTimed s _ _ _ with registry := _ } : Session) = t
      obtain ⟨sink, told⟩ := endChat_some t ticket ⟨pending, provider, s.now⟩ answer.outcome
      rw [told, ← asked]
      refine ⟨rfl, rfl, .enqueue ⟨⟨rfl, rfl⟩, ?_⟩⟩
      show s.now.nanos ≤ s.now.nanos + s.settings.actionTimeout * 1000000
      omega
    · next later =>
      have ahead : 0 < answer.delay.nanos := by
        have long : ¬answer.delay.nanos ≤ 0 := fun short => later (decide_eq_true short)
        omega
      split
      · next late =>
        have late : s.now.nanos + s.settings.actionTimeout * 1000000 ≤ s.now.nanos + answer.delay.nanos := late
        rw [if_pos (by omega)]
        refine ⟨rfl, rfl, .waitUntil ?_ ⟨⟨rfl, rfl⟩, Int.le_refl _⟩⟩
        show s.now.nanos ≤ s.now.nanos + s.settings.actionTimeout * 1000000
        omega
      · next soon =>
        have soon : ¬s.now.nanos + s.settings.actionTimeout * 1000000 ≤ s.now.nanos + answer.delay.nanos := soon
        rw [if_neg (by omega)]
        refine ⟨rfl, rfl, .waitUntil ?_ ⟨⟨rfl, rfl⟩, ?_⟩⟩
        · show s.now.nanos ≤ s.now.nanos + answer.delay.nanos
          omega
        · show s.now.nanos + answer.delay.nanos ≤ s.now.nanos + s.settings.actionTimeout * 1000000
          omega

/-- A chat starts. -/
theorem chat_turn (sound : Sound [] s)
    (ready : s.desk.agenda.ready = ⟨ticket, .chat pending⟩ :: rest) :
    (Event.turn s ⟨ticket, .chat pending⟩).gives = [] ∧
      (Event.turn s ⟨ticket, .chat pending⟩).asked = s.chatRequests pending.query ∧
      Expects (fun work instant => work.Brings pending (s.chatResult pending.query) ∧
        instant ≤ s.now.nanos + s.settings.actionTimeout * 1000000)
        (perform ⟨ticket, .chat pending⟩ (s.taken rest)) := by
  have outbox := outbox_turned sound ready
  have requests := requests_turned sound ready
  obtain ⟨silent, asked, brings⟩ := askChat_brings (s.taken rest) pending ticket
  refine ⟨?_, ?_, brings⟩
  · exact List.self_eq_append_right.mp (silent.symm.trans outbox)
  · exact (List.append_cancel_left (asked.symm.trans requests)).symm

/-- A handler that was told of the result of its chat comes to its end. -/
theorem takeReply_ends (pending : Commanding) (result : Except Fault Suggestion) :
    pending.job.invocation ∉ (s.takeReply pending result).unfinished := by
  unfold takeReply deliverChat
  split
  · exact notMem_unfinished_conclude _ _ _
  · exact notMem_unfinished_conclude _ _ _
  · exact notMem_unfinished_conclude _ _ _

/-- Work that brings a result hands it on without a word, or its handler concludes with it. -/
theorem brings_turn (balanced : Balanced s) (ready : s.desk.agenda.ready = first :: rest)
    (brings : first.work.Brings pending result) :
    (Event.turn s first).gives = [] ∧
        Expects (fun work instant => work.Brings pending result ∧ instant = s.now.nanos)
          (perform first (s.taken rest)) ∨
      Concludes pending.job pending.uri pending.padding s.documents.currentUri result
          (Event.turn s first).gives ∧
        Ended pending.job.invocation (perform first (s.taken rest)) := by
  have sound := balanced.sound
  have outbox := outbox_turned sound ready
  have silent {t : Session} (same : t.outbox = s.outbox ++ (Event.turn s first).gives) (kept : t.outbox = s.outbox) :
      (Event.turn s first).gives = [] := List.self_eq_append_right.mp (kept.symm.trans same)
  -- The handler goes on with the result, in the session that is left when its job is taken.
  have concludes {b : Session} (soundly : Sound [⟨first.ticket, first.work⟩] b)
      (documents : b.documents = s.documents) (same : b.outbox = s.outbox)
      (shows : first.work.active? = some pending.active) (begun : first.work.begun = first.work)
      (charged : first.work.charge? = some ⟨pending.job.invocation, pending.job.id⟩)
      (goes : perform first (s.taken rest) = b.takeReply pending result) :
      Concludes pending.job pending.uri pending.padding s.documents.currentUri result
          (Event.turn s first).gives ∧
        Ended pending.job.invocation (perform first (s.taken rest)) := by
    have received := (turn_subsiding sound ready).length
    rw [goes] at outbox received ⊢
    obtain ⟨said, told, ends⟩ := outbox_takeReply soundly
      (soundly.owned (List.mem_singleton_self _) shows) result
    have given : (Event.turn s first).gives = said := by
      rw [told, same] at outbox
      exact (List.append_cancel_left outbox).symm
    obtain ⟨owed, ledger⟩ := balanced.ledger
    refine ⟨?_, ?_, takeReply_ends pending result⟩
    · rw [given, ← documents]
      exact ends
    · rw [received]
      exact ledger.received (balanced.alive ready charged)
  obtain ⟨ticket, work⟩ := first
  cases work with
  | answer chatting outcome =>
    obtain ⟨rfl, rfl⟩ := brings
    have begun : Sound [⟨ticket, .answer chatting outcome⟩] (s.taken rest) := sound.begun ready nofun
    cases outcome with
    | none => exact .inr (concludes (begun.log _ _ _ _) rfl rfl rfl rfl rfl rfl)
    | some outcome =>
      obtain ⟨sink, told⟩ := endChat_some (s.taken rest) ticket chatting outcome
      have same : perform ⟨ticket, .answer chatting (some outcome)⟩ (s.taken rest) = _ := told
      rw [same] at outbox ⊢
      exact .inl ⟨silent outbox rfl, .enqueue ⟨⟨rfl, rfl⟩, rfl⟩⟩
  | tell waiting told =>
    obtain ⟨rfl, rfl⟩ := brings
    exact .inl ⟨silent outbox rfl, .enqueue ⟨⟨rfl, rfl⟩, rfl⟩⟩
  | reply waiting told =>
    obtain ⟨rfl, rfl⟩ := brings
    have begun : Sound [⟨ticket, .reply waiting told⟩] (s.taken rest) := sound.begun ready nofun
    exact .inr (concludes begun rfl rfl rfl rfl rfl rfl)
  | _ => exact brings.elim

end Stages

/-! ## The course of a command -/

namespace Event

/-- Whether a chat starts in an event. -/
def isChat : Event → Bool
  | turn _ ⟨_, .chat _⟩ => true
  | _ => false

/-- An event that starts no chat, asks no backend and sends nothing. -/
structure IsSilent (e : Event) : Prop where
  chat : e.isChat = false
  asked : e.asked = []
  sends : e.sends = []

/-- An event of a session in which the chat of a command starts, at the instant at which the command was taken up:
the backend that is selected is asked, and nothing is sent. -/
structure StartsChat (begun : Session) (job : CommandJob) (document : Document) (s : Session) (e : Event) : Prop where
  turn : ∃ ticket pending, e = .turn s ⟨ticket, .chat pending⟩
  now : s.now.nanos = begun.now.nanos
  asked : e.asked = s.chatRequests (begun.chatQuery job document)
  sends : e.sends = []

end Event

/-- The latest instant at which the chat of a command that is taken up now may be over. -/
def chatDeadline (s : Session) : Int := s.now.nanos + s.settings.actionTimeout * 1000000

/-- How far a command has come by its turns, which was taken up in some session. -/
inductive CommandCourse (begun : Session) (job : CommandJob) (document : Document) (turns : List Event)
    (t : Session) : Prop
  /-- Its chat is about to start, no time has passed. -/
  | begins (none : turns = []) (soon : t.now.nanos ≤ begun.now.nanos)
  /-- Its chat has started, the deadline has not passed. -/
  | waits {s : Session} {chat : Event} {silent : List Event} (all : turns = chat :: silent)
      (starts : chat.StartsChat begun job document s) (quiet : ∀ e ∈ silent, e.IsSilent)
      (soon : t.now.nanos ≤ begun.chatDeadline)
  /-- It has concluded with the result of its chat, not after the deadline. -/
  | concluded {s last : Session} {chat : Event} {silent : List Event} {final : Job Work}
      (all : turns = chat :: (silent ++ [.turn last final])) (starts : chat.StartsChat begun job document s)
      (quiet : ∀ e ∈ silent, e.IsSilent) (soon : last.now.nanos ≤ begun.chatDeadline)
      (chats : (Event.turn last final).isChat = false) (asked : (Event.turn last final).asked = [])
      (concludes : Concludes job begun.documents.currentUri
        (padding (begun.documents.textInRange document.uri job.argument.range)) last.documents.currentUri
        (s.chatResult (begun.chatQuery job document)) (Event.turn last final).sends)

/-- The same by what the turns give to the connection, whether or not it can be written. -/
inductive CommandTurns (begun : Session) (job : CommandJob) (document : Document) (turns : List Event)
    (t : Session) : Prop
  | begins (none : turns = []) (soon : t.now.nanos ≤ begun.now.nanos)
  | waits {s : Session} {chat : Event} {silent : List Event} (all : turns = chat :: silent)
      (starts : chat.StartsChat begun job document s) (quiet : ∀ e ∈ silent, e.IsSilent)
      (mute : ∀ e ∈ chat :: silent, e.gives = []) (soon : t.now.nanos ≤ begun.chatDeadline)
  | concluded {s last : Session} {chat : Event} {silent : List Event} {final : Job Work}
      (all : turns = chat :: (silent ++ [.turn last final])) (starts : chat.StartsChat begun job document s)
      (quiet : ∀ e ∈ silent, e.IsSilent) (mute : ∀ e ∈ chat :: silent, e.gives = [])
      (soon : last.now.nanos ≤ begun.chatDeadline)
      (chats : (Event.turn last final).isChat = false) (asked : (Event.turn last final).asked = [])
      (concludes : Concludes job begun.documents.currentUri
        (padding (begun.documents.textInRange document.uri job.argument.range)) last.documents.currentUri
        (s.chatResult (begun.chatQuery job document)) (Event.turn last final).gives)

section Courses

variable {begun s t : Session} {events turns : List Event} {job : CommandJob} {document : Document}
  {pending : Commanding} {result : Except Fault Suggestion} {deadline : Int}

/-- Work of other handlers does not count. -/
theorem filter_isBy_append {number : Nat} {earlier later : List Event} {e : Event}
    (others : ∀ e ∈ earlier, e.isBy number = false) (own : e.isBy number = true) :
    (earlier ++ e :: later).filter (·.isBy number) = e :: later.filter (·.isBy number) := by
  have none : earlier.filter (·.isBy number) = [] :=
    List.filter_eq_nil_iff.mpr fun e member => by simp [others e member]
  rw [List.filter_append, none, List.nil_append, List.filter_cons, if_pos own]

theorem Work.Brings.facts {work : Work} (brings : work.Brings pending result) :
    work.charge? = some ⟨pending.job.invocation, pending.job.id⟩ ∧ work.slot = none ∧
      (∀ s ticket, (Event.turn s ⟨ticket, work⟩).isChat = false) ∧ ∀ s topic, ¬work.AsksFor s topic := by
  cases work with
  | answer | tell | reply =>
    obtain ⟨rfl, -⟩ := brings
    exact ⟨rfl, rfl, fun _ _ => rfl, fun _ _ => id⟩
  | _ => exact brings.elim

theorem Event.sends_of_mute {e : Event} (mute : e.gives = []) : e.sends = [] := by
  rw [Event.sends, mute]
  rfl

/-- If everything can be written, what the turns give is what they send. -/
theorem CommandTurns.course (course : CommandTurns begun job document turns t)
    (same : ∀ e ∈ turns, e.sends = e.gives) : CommandCourse begun job document turns t := by
  cases course with
  | begins none soon => exact .begins none soon
  | waits all starts quiet _ soon => exact .waits all starts quiet soon
  | @concluded _ last _ _ final all starts quiet _ soon chats asked concludes =>
    refine .concluded all starts quiet soon chats asked ?_
    rw [same (.turn last final) (by simp [all])]
    exact concludes

/-- The result of a chat is brought to its handler without a word, and the handler concludes with it. -/
theorem Run.brought (run : Run s events t) (balanced : Balanced s)
    (expects : Expects (fun work instant => work.Brings pending result ∧ instant ≤ deadline) s) :
    t.now.nanos ≤ deadline ∧ (∀ e ∈ events.filter (·.isBy pending.job.invocation), e.IsSilent ∧ e.gives = []) ∨
      ∃ silent last final,
        events.filter (·.isBy pending.job.invocation) = silent ++ [.turn last final] ∧
        (∀ e ∈ silent, e.IsSilent ∧ e.gives = []) ∧ last.now.nanos ≤ deadline ∧
        (Event.turn last final).isChat = false ∧ (Event.turn last final).asked = [] ∧
        Concludes pending.job pending.uri pending.padding last.documents.currentUri result
          (Event.turn last final).gives := by
  induction length : events.length using Nat.strongRecOn generalizing s events with
  | ind n ih =>
    rcases run.expected_of_handler balanced expects (fun work instant timely => ⟨_, timely.1.facts.1⟩)
        fun work instant timely => timely.1.facts.2.1 with
      ⟨still, others⟩ | ⟨earlier, u, job, later, rfl, others, brings, soon⟩
    · obtain ⟨work, instant, ⟨-, soon⟩, ahead⟩ := still.ahead (run.sound balanced.sound)
      refine .inl ⟨Int.le_trans ahead soon, fun e member => ?_⟩
      obtain ⟨there, own⟩ := List.mem_filter.mp member
      rw [others e there] at own
      cases own
    · obtain ⟨rest, ready, before, after⟩ := run.split
      have balanced' := before.balanced balanced
      obtain ⟨charged, -, chats, asks⟩ := brings.facts
      have own : (Event.turn u job).isBy pending.job.invocation = true := by
        rw [Event.isBy, charged, Option.map_some, beq_self_eq_true]
      have asked := asked_eq_nil balanced'.sound ready (asks u)
      rw [filter_isBy_append others own]
      rcases brings_turn balanced' ready brings with ⟨silent, again⟩ | ⟨concludes, ended⟩
      · have here : (Event.turn u job).IsSilent ∧ (Event.turn u job).gives = [] :=
          ⟨⟨chats u job.ticket, asked, Event.sends_of_mute silent⟩, silent⟩
        have shorter : later.length < n := by
          rw [← length, List.length_append, List.length_cons]
          omega
        have onward := ih later.length shorter after ((Step.turn ready).balanced balanced')
          (again.mono fun work instant timely => ⟨timely.1, timely.2 ▸ soon⟩) rfl
        rcases onward with ⟨limit, quiet⟩ | ⟨silent, last, final, all, quiet, facts⟩
        · exact .inl ⟨limit, List.forall_mem_cons.mpr ⟨here, quiet⟩⟩
        · refine .inr ⟨.turn u job :: silent, last, final, by rw [all, List.cons_append], ?_, facts⟩
          exact List.forall_mem_cons.mpr ⟨here, quiet⟩
      · have idle := after.ended_idle ((Step.turn ready).balanced balanced') ended
        have none : later.filter (·.isBy pending.job.invocation) = [] :=
          List.filter_eq_nil_iff.mpr fun e member => by simp [idle e member]
        rw [none]
        exact .inr ⟨[], u, job, rfl, fun e member => absurd member List.not_mem_nil, soon, chats u job.ticket,
          asked, concludes⟩

/-- The turns of a command whose chat is ready to start. -/
theorem Run.commandTurns (run : Run s events t) (balanced : Balanced s) (settings : s.settings = begun.settings)
    (own : CarriesOut begun job document pending)
    (expects : Expects (fun work instant => work = .chat pending ∧ instant = begun.now.nanos) s) :
    CommandTurns begun job document (events.filter (·.isBy job.invocation)) t := by
  obtain ⟨rfl, uri, amount, query⟩ := own
  have charged : ∀ (work : Work) (instant : Int), work = .chat pending ∧ instant = begun.now.nanos →
      ∃ id, work.charge? = some ⟨pending.job.invocation, id⟩ := by
    rintro _ _ ⟨rfl, -⟩
    exact ⟨pending.job.id, rfl⟩
  rcases run.expected_of_handler balanced expects charged (fun work instant timely => timely.1 ▸ rfl) with
    ⟨still, others⟩ | ⟨earlier, u, ⟨ticket, work⟩, later, rfl, others, rfl, now⟩
  · obtain ⟨work, instant, ⟨-, rfl⟩, ahead⟩ := still.ahead (run.sound balanced.sound)
    exact .begins (List.filter_eq_nil_iff.mpr fun e member => by simp [others e member]) ahead
  · obtain ⟨rest, ready, before, after⟩ := run.split
    have balanced' := before.balanced balanced
    have settings' : u.settings = begun.settings := (before.settings balanced.sound).trans settings
    obtain ⟨silent, asked, brings⟩ := chat_turn balanced'.sound ready
    have turned : (Event.turn u ⟨ticket, .chat pending⟩).isBy pending.job.invocation = true := beq_self_eq_true _
    have starts : (Event.turn u ⟨ticket, .chat pending⟩).StartsChat begun pending.job document u :=
      ⟨⟨ticket, pending, rfl⟩, now, query ▸ asked, Event.sends_of_mute silent⟩
    rw [now, settings', query] at brings
    rw [filter_isBy_append others turned]
    rcases after.brought ((Step.turn ready).balanced balanced') brings with
      ⟨soon, quiet⟩ | ⟨between, last, final, all, quiet, soon, chats, nothing, concludes⟩
    · exact .waits rfl starts (fun e member => (quiet e member).1)
        (List.forall_mem_cons.mpr ⟨silent, fun e member => (quiet e member).2⟩) soon
    · rw [uri, amount] at concludes
      exact .concluded (by rw [all]) starts (fun e member => (quiet e member).1)
        (List.forall_mem_cons.mpr ⟨silent, fun e member => (quiet e member).2⟩) soon chats nothing concludes

end Courses

/-- What an edit asks for. -/
def Outbound.edit? : Outbound → Option ApplyEditParams
  | applyEdit _ params => some params
  | _ => none

/-- The answer of a backend that consists of a text. -/
def textAnswer (text : String) : Except Fault Response := .ok (.texts [.str text])

/-- A session whose backend answers its first request at once. -/
def answeringSession (outcome : Except Fault Response) : Session :=
  Session.start { Settings.defaults "" with spinner := false }
    ⟨[("openai", .of .openai "gpt-4.1-mini" none 15000 [⟨outcome, .zero⟩])], "openai", []⟩ .initial

/-- The line of the document is to be improved. -/
def improvingMessage : Message :=
  ⟨"2.0", some (.number 3), some "workspace/executeCommand",
    .obj [("command", .str "improveCode"), ("arguments", .arr [.obj [("range", .obj [
      ("start", .obj [("line", .int 0), ("character", .int 0)]),
      ("end", .obj [("line", .int 0), ("character", .int 5)])])]])], .null, none⟩

/-- The session as it takes the command up. -/
def commandedSession (outcome : Except Fault Response) : Session :=
  (((answeringSession outcome).handle openingMessage).turned ⟨0, .handle 0 .opening openingMessage⟩).handle
    improvingMessage

/-- The session when all of that is done. -/
def improvedSession (outcome : Except Fault Response) : Session :=
  (perform ⟨1, .handle 1 .command improvingMessage⟩ ((commandedSession outcome).taken [])).settle

/-- What happens until then. -/
def openingEvents (outcome : Except Fault Response) : List Event :=
  [.received openingMessage,
    .turn ((answeringSession outcome).handle openingMessage) ⟨0, .handle 0 .opening openingMessage⟩,
    .received improvingMessage]

theorem run_improvedSession (outcome : Except Fault Response) : ∃ after,
    Run (answeringSession outcome) (openingEvents outcome ++
      .turn (commandedSession outcome) ⟨1, .handle 1 .command improvingMessage⟩ :: after) (improvedSession outcome) ∧
    received (openingEvents outcome ++
      .turn (commandedSession outcome) ⟨1, .handle 1 .command improvingMessage⟩ :: after) =
        [openingMessage, improvingMessage] := by
  have early : Run (answeringSession outcome) ([.received openingMessage] ++
      ([.turn _ ⟨0, .handle 0 .opening openingMessage⟩] ++ ([.received improvingMessage] ++ [])))
      (commandedSession outcome) :=
    .cons (.receive _ _) (.cons (.turn rfl) (.cons (.receive _ _) (.nil _)))
  have taken : Run (commandedSession outcome) [.turn _ ⟨1, .handle 1 .command improvingMessage⟩] _ :=
    .single (.turn rfl)
  obtain ⟨after, settles, quiet⟩ :=
    settle_works (perform ⟨1, .handle 1 .command improvingMessage⟩ ((commandedSession outcome).taken []))
  exact ⟨after, early.append (taken.append settles), congrArg (_ :: _ :: ·) quiet⟩

end EditorAssist.Session

import EditorAssist.Proofs.Session.Turn

/-!
# Turns of commands

A command that is accepted starts a chat. The chat asks the backend and is over when the answer arrives,
or at the deadline; in between its handler waits for it. In the end the command is answered with null.
-/

namespace EditorAssist.Session

open EditorAssist.Action EditorAssist.Backend EditorAssist.Debounce EditorAssist.Journal
open EditorAssist.Payload EditorAssist.Settings EditorAssist.Text EditorAssist.Time EditorAssist.Wire

section Commands

variable {hand : List (Job Work)} {b t : Session} {ticket : Nat} {work : Work} {arms starts : Nat}
  {topics : List Topic}

/-! ## Requests -/

/-- A command that is carried out starts its signal and its chat. -/
theorem Effect.runCommand {number : Nat} {message : Message} (sound : Sound hand b) {job : CommandJob}
    (invocation : job.invocation = number) (id : job.id = message.id) (document : Document) :
    Effect hand b ticket (.handle number .command message) (b.runCommand job document) := by
  have nothing : Does hand b 0 0 [] b := .refl b
  have noted := nothing.log .info "handler.actions" "executing command"
    [("command", .text job.command.key), ("uri", .text document.uri),
      ("backend", .text b.registry.current)]
  unfold Session.runCommand
  dsimp only
  generalize told : (if b.settings.spinner = true then _ else _) = t
  have does : Does hand b 1 0 [] t := by
    rw [← told]
    split
    · exact noted.mono (Nat.zero_le 1) (Nat.le_refl 0)
    · exact noted.publishOne _ _ _ _
  obtain ⟨started, owned⟩ := does.startSignal sound ⟨commandSignal b.settings job, none⟩
    (tickInterval_slow _) rfl
  generalize t.startSignal ⟨commandSignal b.settings job, none⟩ = signalled at started owned
  obtain ⟨t₁, active⟩ := signalled
  refine .goesOn started (by simp) (.command invocation id) ?_ .spawned
  rintro _ ⟨⟩
  exact owned

/-- A command is refused, answered at once or carried out. -/
theorem Effect.requestCommand {number : Nat} {message : Message} (sound : Sound hand b)
    (params : ExecuteCommandParams) :
    Effect hand b ticket (.handle number .command message)
      (b.requestCommand number message.id params) := by
  have nothing : Does hand b 0 0 [] b := .refl b
  unfold Session.requestCommand
  split
  · exact .refuse rfl (nothing.log _ _ _ _) (by simp) _
  · split
    · exact .refuse rfl nothing (by simp) _
    · split
      · exact .refuse rfl (nothing.log _ _ _ _) (by simp) _
      · unfold Session.startCommand
        dsimp only
        split
        · exact .respond rfl (nothing.log _ _ _ _) (by simp) _
        · split
          · exact .respond rfl (nothing.log _ _ _ _) (by simp) _
          · exact Effect.runCommand sound (by rfl) (by rfl) _

/-! ## Chats -/

/-- A failure is shown by one diagnostic. -/
theorem Does.publishFailure (does : Does hand b arms starts topics t) (job : CommandJob) (text : String) :
    Does hand b (arms + 1) starts topics (t.publishFailure job text) :=
  does.publishOne _ _ _ _

/-- An answer of the chat is sent as an edit, unless it is blank. -/
theorem Does.applyResult (does : Does hand b arms starts topics t) (pending : Commanding)
    (result : String) : Does hand b (arms + 1) starts topics (t.applyResult pending result) := by
  unfold Session.applyResult
  dsimp only
  split
  · exact (does.log _ _ _ _).publishFailure _ _
  · have noted := does.log .debug "handler.actions" "received chat result"
      [("command", .text pending.job.command.key),
        ("length", .int (indentedResult pending.padding result.toList).length)]
    exact ((noted.requestWith _ fun _ => rfl).resetDiagnostics).mono (Nat.le_succ _) (Nat.le_refl _)

/-- Whatever a chat leads to, its command is answered. -/
theorem Effect.takeReply {pending : Commanding} (sound : Sound hand b) (owned : Owned hand b pending.active)
    (charge : work.charge? = some ⟨pending.job.invocation, pending.job.id⟩) (deeds : work.lastDeeds = (1, 0))
    (does : Does hand b 0 0 [] t) (result : Except Fault Suggestion) :
    Effect hand b ticket work (t.takeReply pending result) := by
  have stopped := does.stopSignal sound owned
  have within : ∀ {u : Session}, Does hand b 1 0 [] u →
      Does hand b work.lastDeeds.1 work.lastDeeds.2 [] u := by
    rw [deeds]
    exact fun more => more
  unfold Session.takeReply Session.deliverChat
  split
  · exact .respond charge (within (stopped.applyResult _ _)) (by simp) _
  · have free := within (stopped.mono (Nat.zero_le 1) (Nat.le_refl 0))
    exact .answers charge free (by simp) (m := .response pending.job.id .null) rfl
      ((Does.refl _).log _ _ _ _)
  · exact .respond charge (within ((stopped.log _ _ _ _).publishFailure _ _)) (by simp) _

/-- The records of a chat that is over. -/
theorem Does.endedChat (does : Does hand b arms starts topics t) (chatting : Chatting)
    (answer : Except Fault Response) :
    Does hand b arms starts topics ((t.endTimed chatting.since chatting.provider.kind.service "chat"
      [("model", .text chatting.provider.chatModel)]).noteReply chatting.provider
        (chatting.provider.chatResult chatting.pending.query answer)) := by
  have ended := does.log .info chatting.provider.kind.service "chat"
    (Tags.completed [("model", .text chatting.provider.chatModel)] (chatting.since.millisBetween t.now))
  unfold Session.noteReply
  split
  · exact ended.log _ _ _ _
  · exact ended

/-- A chat that is over is told to its handler, which goes on by itself after the deadline. -/
theorem Effect.endChat {chatting : Chatting} {outcome : Option (Except Fault Response)}
    (sound : Sound hand b) (owned : Owned hand b chatting.pending.active) :
    Effect hand b ticket (.answer chatting outcome) (b.endChat ticket chatting outcome) := by
  have nothing : Does hand b 0 0 [] b := .refl b
  unfold Session.endChat
  dsimp only
  split
  · exact .takeReply sound owned rfl rfl (nothing.log _ _ _ _) _
  · next answer =>
    have ended := nothing.endedChat chatting answer
    refine .goesOn ended (by simp) .answered ?_ .lined
    rintro _ ⟨⟩
    exact owned.does ended sound

/-- A chat asks the selected backend, or there is none. -/
theorem Effect.askChat {pending : Commanding} (sound : Sound hand b)
    (owned : Owned hand b pending.active) :
    Effect hand b ticket (.chat pending) (b.askChat ticket pending) := by
  have nothing : Does hand b 0 0 [] b := .refl b
  unfold Session.askChat
  split
  · refine .goesOn nothing (by simp) .refused ?_ .lined
    rintro _ ⟨⟩
    exact owned
  · next name provider _ =>
    have timed := nothing.log .info provider.kind.service "chat"
      (Tags.started [("model", .text provider.chatModel)])
    have asks : ∀ topic ∈ [] ++ [Topic.chat pending.query], (Work.chat pending).mayAsk topic = true := by
      intro topic member
      rw [List.mem_singleton.mp member]
      rfl
    dsimp only
    generalize called : Registry.call _ name provider (.chat pending.query) = reply
    obtain ⟨answer, registry⟩ := reply
    have asked := timed.call called
    have still := owned.does asked sound
    dsimp only
    split
    · have ended := asked.endedChat ⟨pending, provider, b.now⟩ answer.outcome
      refine .goesOn ended asks .refused ?_ .lined
      rintro _ ⟨⟩
      exact owned.does ended sound
    · split
      · refine .goesOn asked asks (.asked ⟨pending, provider, b.now⟩) ?_ (.waits _ trivial)
        rintro _ ⟨⟩
        exact still
      · refine .goesOn asked asks (.asked ⟨pending, provider, b.now⟩) ?_ (.waits _ trivial)
        rintro _ ⟨⟩
        exact still

end Commands

end EditorAssist.Session

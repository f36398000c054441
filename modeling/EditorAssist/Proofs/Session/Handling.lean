import EditorAssist.Proofs.Session.Commanding
import EditorAssist.Proofs.Session.Completing

/-!
# Turns of handlers

A handler refuses parameters that it cannot read and otherwise does its work: it answers, or delays a
completion, or starts the chat of a command. With the turns of signals and of diagnostics that are cleared
these are all the turns of a session in which no handler was added.
-/

namespace EditorAssist.Session

open EditorAssist.Backend EditorAssist.Debounce EditorAssist.Journal EditorAssist.Payload
open EditorAssist.Settings EditorAssist.Time EditorAssist.Wire

/-! ## Handlers -/

section Handlers

variable {hand : List (Job Work)} {b : Session} {ticket number : Nat} {message : Message}

/-- The parameters of a message are read, or refused if it has an id. -/
theorem Effect.withParams {α : Type} {codec : Codec α} {handler : Handler} {next : α → Session}
    (refuses : readable codec message = false → handler.answers message = true)
    (reads : ∀ params, codec.read (givenParams message) = .ok params →
      Effect hand b ticket (.handle number handler message) (next params)) :
    Effect hand b ticket (.handle number handler message) (withParams codec b number message next) := by
  unfold Session.withParams
  split
  · next params read => exact reads params read
  · next wrong read =>
    have answers := refuses (by rw [readable, read])
    have charge : (Work.handle number handler message).charge? = some ⟨number, message.id⟩ := by
      rw [Work.charge?, Handler.owes, if_pos answers]
    have nothing : Does hand b 0 0 [] b := .refl b
    have noted := nothing.log .error "lsp.service" "invalid params"
      [("method", methodTag message.method), ("error", .text (Mismatch.report codec.name wrong))]
    unfold Session.refuseParams
    dsimp only
    split
    · next anonymous =>
      rw [anonymous] at charge
      exact .silent charge noted
    · next id named =>
      rw [named] at charge
      exact .refuse charge (noted.mono (Nat.zero_le _) (Nat.zero_le _)) (by simp) _

/-- A completion that is admitted is delayed. -/
theorem requestCompletion_admitted {params : CompletionParams} {document : Document}
    (admitted : b.admitted? params = some document) (id : Option RequestId) :
    b.requestCompletion number id params =
      b.schedule completionKey (.ofMillis b.settings.debounce)
        (.complete ⟨number, id, params, document.version⟩) := by
  obtain ⟨stored, behind⟩ := Option.filter_eq_some_iff.mp admitted
  unfold Session.requestCompletion
  rw [stored]
  exact if_neg (bne_iff_ne.mp behind)

/-- Any other completion is answered at once, without items. -/
theorem requestCompletion_refused {params : CompletionParams} (refused : b.admitted? params = none)
    (id : Option RequestId) :
    b.requestCompletion number id params = (b.respondItems id []).finish number := by
  unfold Session.requestCompletion
  cases stored : b.documents.get? params.textDocument.uri with
  | none => rfl
  | some document =>
    have period := Option.filter_eq_none_iff.mp refused document stored
    exact if_pos (by simpa using period)

/-- A completion is answered at once or delayed. -/
theorem Effect.requestCompletion {params : CompletionParams}
    (read : CompletionParams.codec.read (givenParams message) = .ok params) :
    Effect hand b ticket (.handle number .completion message)
      (b.requestCompletion number message.id params) := by
  cases admitted : b.admitted? params with
  | none =>
    rw [requestCompletion_refused admitted]
    exact .respond rfl (.refl b) (by simp) _
  | some document =>
    rw [requestCompletion_admitted admitted]
    exact .delays rfl read admitted

/-- Every handler that a session has from the start. -/
theorem Effect.runHandler {handler : Handler} (sound : Sound hand b)
    (own : ∀ script, handler ≠ .scripted script) :
    Effect hand b ticket (.handle number handler message) (b.runHandler ticket number handler message) := by
  have nothing : Does hand b 0 0 [] b := .refl b
  have edited : ∀ documents, Does hand b 0 0 [] { b with documents } :=
    fun documents => nothing.step (.edit b documents)
  unfold Session.runHandler
  cases handler with
  | handshake => exact .respond rfl nothing (by simp) _
  | greeting => exact .silent rfl (nothing.log _ _ _ _)
  | opening =>
    refine .withParams (fun unread => by rw [Handler.answers, unread]; rfl) fun params read => ?_
    exact .silent (by simp [Work.charge?, Handler.owes, Handler.answers, readable, read])
      ((edited _).log _ _ _ _)
  | change =>
    refine .withParams (fun unread => by rw [Handler.answers, unread]; rfl) fun params read => ?_
    refine .silent (by simp [Work.charge?, Handler.owes, Handler.answers, readable, read]) ?_
    unfold Session.didChange
    dsimp only
    split
    · exact nothing.log _ _ _ _
    · exact (edited _).log _ _ _ _
  | closing =>
    refine .withParams (fun unread => by rw [Handler.answers, unread]; rfl) fun params read => ?_
    exact .silent (by simp [Work.charge?, Handler.owes, Handler.answers, readable, read])
      ((edited _).log _ _ _ _)
  | shutdown => exact .shutsDown rfl
  | exit => exact .silent rfl ((nothing.log _ _ _ _).step (.note _ _ _ _ _ _))
  | completion => exact .withParams (fun _ => rfl) fun params read => .requestCompletion read
  | codeAction =>
    exact .withParams (fun _ => rfl) fun params _ => .respond rfl (edited _) (by simp) _
  | command => exact .withParams (fun _ => rfl) fun params _ => .requestCommand sound params
  | scripted script => exact absurd rfl (own script)

end Handlers

/-! ## Signals -/

section Signals

variable {hand : List (Job Work)} {b : Session} {ticket : Nat} {signal : Signal}

/-- A tick is shown by one message at most, or by diagnostics that are cleared later. -/
theorem Does.showTick (b : Session) (signal : Signal) (text : String) :
    Does hand b 1 0 [] (b.showTick signal text) := by
  have nothing : Does hand b 0 0 [] b := .refl b
  unfold Session.showTick
  split
  · exact (nothing.say _ rfl).mono (Nat.zero_le 1) (Nat.le_refl 0)
  · exact nothing.mono (Nat.zero_le 1) (Nat.le_refl 0)
  · exact nothing.publishOne _ _ _ _

theorem Effect.animate (slow : 1000000 ≤ signal.interval.nanos) :
    Effect hand b ticket (.animate signal) (b.animate ticket signal) :=
  .ticks rfl ((Does.refl b).mono (Nat.zero_le 1) (Nat.le_refl 0)) rfl slow slow

theorem Effect.tick {since : Instant} {frame : Nat} (slow : 1000000 ≤ signal.interval.nanos) :
    Effect hand b ticket (.tick signal since frame) (b.tick ticket signal since frame) :=
  .ticks rfl (.showTick b signal _) rfl slow slow

end Signals

/-! ## All turns -/

/-- What stands for a debounced action that has started, since its entry is gone. -/
def Work.underWay : Work := .handle 0 .greeting ⟨"", none, none, .null, .null, none⟩

/-- Work that is under way cannot be withdrawn. -/
def Work.begun : Work → Work
  | fire .. => underWay
  | work => work

/-- A session whose first job is taken. -/
def taken (s : Session) (rest : List (Job Work)) : Session := s.mapAgenda (·.behind rest)

/-- A session in which a job is being done: a debounced action that starts leaves the table. -/
def begun (s : Session) (job : Job Work) (rest : List (Job Work)) : Session :=
  match job.work with
  | .fire key _ => { s.taken rest with desk := (s.taken rest).desk.release key job.ticket }
  | _ => s.taken rest

section Turns

variable {s : Session} {hand : List (Job Work)} {job : Job Work} {rest : List (Job Work)}

theorem Sound.owned (sound : Sound hand s) (member : job ∈ hand) {active : ActiveSignal}
    (shows : job.work.active? = some active) : Owned hand s active := by
  intro ticking running
  refine sound.stops job (List.mem_append_left _ member) ticking.ticket ?_
  rw [Work.stops?, shows, Option.bind_some, running, Option.map_some]

/-- The session stays sound when a job is begun, unless it is only the delay of one. -/
theorem Sound.begun (sound : Sound [] s) (ready : s.desk.agenda.ready = job :: rest)
    (starts : ∀ key span action, job.work ≠ .delay key span action) :
    Sound [⟨job.ticket, job.work.begun⟩] (s.begun job rest) := by
  obtain ⟨ticket, work⟩ := job
  have held := sound.coherent.take ready
  have orderly : (s.desk.agenda.behind rest).Orderly := sound.orderly.of_timers rfl rfl
  have first : ⟨ticket, work⟩ ∈ s.desk.agenda.jobs := by
    rw [Agenda.jobs_of_ready ready]
    exact List.mem_cons_self ..
  have later : ∀ job ∈ (s.desk.agenda.behind rest).jobs, job ∈ s.desk.agenda.jobs := by
    intro job member
    rw [Agenda.jobs_of_ready ready]
    exact List.mem_cons_of_mem _ member
  cases work with
  | fire key action =>
    have released : Coherent Work.slot [⟨ticket, Work.underWay⟩] (s.begun ⟨ticket, .fire key action⟩ rest).desk :=
      held.release rfl rfl
    refine sound.of_jobs released (by simp [Work.begun, Work.underWay, Work.slot]) orderly rfl
      (Nat.le_refl _) ?_
    intro job member
    rcases List.mem_cons.mp member with rfl | there
    · refine .inr ⟨by rintro _ ⟨⟩, by rintro _ ⟨⟩, fun _ => ⟨_, first, rfl, rfl⟩⟩
    · exact .inl (later job there)
  | delay key span action => exact absurd rfl (starts key span action)
  | _ =>
    refine sound.of_jobs held (by simp [Work.begun, Work.slot]) orderly rfl (Nat.le_refl _) ?_
    intro job member
    rcases List.mem_cons.mp member with rfl | there
    · exact .inl first
    · exact .inl (later job there)

/-- What a turn leads to, unless it is only the delay of an action that begins. -/
theorem perform_effect (sound : Sound [] s) (ready : s.desk.agenda.ready = job :: rest)
    (starts : ∀ key span action, job.work ≠ .delay key span action) :
    Effect [⟨job.ticket, job.work.begun⟩] (s.begun job rest) job.ticket job.work
      (perform job (s.taken rest)) := by
  have sound' := sound.begun ready starts
  have proper : job.work.Proper := by
    refine sound.proper job (List.mem_append_right _ ?_)
    rw [Agenda.jobs_of_ready ready]
    exact List.mem_cons_self ..
  have owned : ∀ active, job.work.begun.active? = some active →
      Owned [⟨job.ticket, job.work.begun⟩] (s.begun job rest) active :=
    fun active shows => sound'.owned (List.mem_singleton_self _) shows
  obtain ⟨ticket, work⟩ := job
  cases work with
  | handle number handler message => exact .runHandler sound' proper
  | resume number script message => exact proper.elim
  | delay key span action => exact absurd rfl (starts key span action)
  | fire key action =>
    cases action with
    | complete job => exact .complete sound'
    | clear uri =>
      have nothing : Does [⟨ticket, .underWay⟩] (s.begun ⟨ticket, .fire key (.clear uri)⟩ rest) 0 0 []
        (s.begun ⟨ticket, .fire key (.clear uri)⟩ rest) := .refl _
      exact .clears rfl (nothing.say (.diagnostics ⟨uri, []⟩) rfl)
  | suggestions pending outcome => exact .takeSuggestions sound' (owned _ rfl)
  | chat pending => exact .askChat sound' (owned _ rfl)
  | answer chatting outcome => exact .endChat sound' (owned _ rfl)
  | tell pending result => exact .goesOn (Does.refl _) (by simp) .told (by rintro _ ⟨⟩; exact owned _ rfl) .lined
  | reply pending result => exact .takeReply sound' (owned _ rfl) rfl rfl (Does.refl _) _
  | animate signal => exact .animate proper
  | tick signal since frame => exact .tick proper

end Turns

end EditorAssist.Session

import EditorAssist.Proofs.Session.Keeping

/-!
# The strokes of a turn

A turn is a sequence of small strokes, each of which shows in one place: a message is sent, diagnostics are
published or cleared, a backend is asked, a signal starts or stops, the documents change, a completion is
delayed or withdrawn. Each stroke lists what it shows, so a path of strokes tells in order what the client and
the backends see of a turn, and what it does to the work that waits.
-/

namespace EditorAssist.Session

open EditorAssist.Backend EditorAssist.Debounce EditorAssist.Journal EditorAssist.Payload
open EditorAssist.Settings EditorAssist.Time EditorAssist.Wire

/-- What is published by a message. -/
def Outbound.published? : Outbound → Option PublishDiagnosticsParams
  | diagnostics params => some params
  | _ => none

/-- What a stroke shows. -/
inductive Act where
  | sends (m : Outbound)
  /-- Diagnostics are published, to be cleared when a timeout has passed. -/
  | shows (uri : String) (diagnostics : List Diagnostic) (timeout : Span)
  /-- Diagnostics are cleared at once, and so is what was to clear them. -/
  | wipes (uri : String)
  /-- Diagnostics are cleared whose timeout has passed. -/
  | clears (uri : String)
  | asks (request : Request)
  | starts (signal : Signal)
  | stops (ticket : Nat)
  | edits (documents : DocumentStore)
  /-- A completion is delayed, in place of the one that was. -/
  | admits (job : CompletionJob)
  /-- Whoever waits for some actions is told that they are withdrawn. -/
  | tells (entries : List (Entry DelayedAction))
  /-- Whatever is delayed is withdrawn. -/
  | drops

namespace Act

/-- The answers to the completions among some actions that are withdrawn. -/
def withdrawals (entries : List (Entry DelayedAction)) : List Outbound :=
  entries.filterMap fun entry => match entry.callback with
    | .clear _ => none
    | .complete job => some (noItems job.id)

/-- The messages of a stroke. -/
def messages : Act → List Outbound
  | sends m => [m]
  | shows uri diagnostics _ => [.diagnostics ⟨uri, diagnostics⟩]
  | wipes uri => [.diagnostics ⟨uri, []⟩]
  | clears uri => [.diagnostics ⟨uri, []⟩]
  | tells entries => withdrawals entries
  | _ => []

/-- What a stroke asks a backend. -/
def request? : Act → Option Request
  | asks request => some request
  | _ => none

/-- Whether a stroke takes some work off the agenda. -/
def Disturbs (work : Work) : Act → Prop
  | shows uri _ _ => ∃ action, work.slot = some (diagnosticsKey uri, action)
  | wipes uri => ∃ action, work.slot = some (diagnosticsKey uri, action)
  | stops _ => work.isSignal = true
  | admits _ => ∃ action, work.slot = some (completionKey, action)
  | drops => work.slot ≠ none
  | _ => False

end Act

/-- Diagnostics as they are published. -/
def ownDiagnostics (diagnostics : List Diagnostic) : List Diagnostic :=
  diagnostics.map fun d => { d with source := some diagnosticSource }

/-- A stroke of work. -/
inductive Stroke (hand : List (Job Work)) : Session → List Act → Session → Prop
  /-- Records are written, numbers are given out and handlers come to their ends. -/
  | note (s : Session) (sink : Sink) (requested tokens : Nat) (flag : Bool) (exits : List Nat)
      (invocations : List Invocation) :
      Stroke hand s [] { s with sink, requested, tokens, shutdownRequested := flag, exits, invocations }
  | say (s : Session) (m : Outbound) (other : m.published? = none) : Stroke hand s [.sends m] (s.send m)
  | publish (s : Session) (diagnostics : List Diagnostic) (timeout : Span)
      (current : s.documents.currentUri.isEmpty = false) :
      Stroke hand s [.shows s.documents.currentUri (ownDiagnostics diagnostics) timeout]
        (s.publish diagnostics timeout)
  | wipe (s : Session) (current : s.documents.currentUri.isEmpty = false) :
      Stroke hand s [.wipes s.documents.currentUri] s.resetDiagnostics
  | clear (s : Session) (uri : String) : Stroke hand s [.clears uri] (s.clearDiagnostics uri)
  | ask (s : Session) (name : String) (provider : Provider) (topic : Topic) :
      Stroke hand s [.asks (provider.request topic)]
        { s with registry := (s.registry.call name provider topic).2 }
  | start (s : Session) (signal : Signal) (slow : 1000000 ≤ signal.interval.nanos) :
      Stroke hand s [.starts signal] (s.spawn (.animate signal)).1
  | stop (s : Session) (ticket : Nat) (signal : OfSignal hand s ticket) :
      Stroke hand s [.stops ticket] (s.mapAgenda (·.cancel ticket))
  | edit (s : Session) (documents : DocumentStore) : Stroke hand s [.edits documents] { s with documents }
  | postpone (s : Session) (job : CompletionJob) :
      Stroke hand s [.admits job]
        { s with
          desk := (s.desk.cancel completionKey).1.add completionKey
            (.delay completionKey (.ofMillis s.settings.debounce) (.complete job)) (.complete job) }
  | tell (s : Session) (entries : List (Entry DelayedAction)) :
      Stroke hand s [.tells entries] (entries.foldl Session.withdrawn s)
  | drop (s : Session) : Stroke hand s [.drops] { s with desk := s.desk.cancelAll.1 }

/-- Some strokes, one after the other. -/
abbrev Strokes (hand : List (Job Work)) : Session → List Act → Session → Prop := Path (Stroke hand)

/-! ## Strokes as changes of a session -/

section Changes

variable {hand : List (Job Work)} {s : Session}

/-- Publishing sends one message and moves the clearing, or withdraws it if nothing is to be cleared. -/
theorem publish_eq (sound : Sound hand s) (current : s.documents.currentUri.isEmpty = false)
    (diagnostics : List Diagnostic) (timeout : Span) :
    ∃ sink, s.publish diagnostics timeout =
      { s with
        outbox := s.outbox ++ [.diagnostics ⟨s.documents.currentUri, ownDiagnostics diagnostics⟩]
        sink
        desk :=
          if timeout.isInstant then (s.desk.cancel (diagnosticsKey s.documents.currentUri)).1
          else (s.desk.cancel (diagnosticsKey s.documents.currentUri)).1.add
            (diagnosticsKey s.documents.currentUri)
            (.delay (diagnosticsKey s.documents.currentUri) timeout (.clear s.documents.currentUri))
            (.clear s.documents.currentUri) } := by
  unfold publish
  dsimp only
  rw [if_neg (by rw [current]; exact Bool.false_ne_true)]
  obtain ⟨noted, sent⟩ := send_eq (s.log .debug "lsp.service" "sending diagnostics"
    [("uri", .text s.documents.currentUri), ("count", .int (ownDiagnostics diagnostics).length)])
    (.diagnostics ⟨s.documents.currentUri, ownDiagnostics diagnostics⟩)
  rw [ownDiagnostics] at sent
  rw [sent]
  have still : Sound hand { s with
      outbox := s.outbox ++ [.diagnostics ⟨s.documents.currentUri, ownDiagnostics diagnostics⟩]
      sink := noted } := sound.of_desk rfl rfl
  split
  · exact disarm_eq still s.documents.currentUri
  · obtain ⟨sink, same⟩ := arm_eq still s.documents.currentUri timeout
    rw [still.coherent.schedule_eq] at same
    exact ⟨sink, same⟩

/-- A reset withdraws the clearing and sends an empty list. -/
theorem resetDiagnostics_eq (sound : Sound hand s) (current : s.documents.currentUri.isEmpty = false) :
    ∃ sink, s.resetDiagnostics =
      { s with
        outbox := s.outbox ++ [.diagnostics ⟨s.documents.currentUri, []⟩]
        sink
        desk := (s.desk.cancel (diagnosticsKey s.documents.currentUri)).1 } := by
  unfold resetDiagnostics
  dsimp only
  rw [if_neg (by rw [current]; exact Bool.false_ne_true)]
  obtain ⟨sink, same⟩ := disarm_eq sound s.documents.currentUri
  rw [same, clearDiagnostics]
  obtain ⟨later, sent⟩ := send_eq
    ({ s with desk := (s.desk.cancel (diagnosticsKey s.documents.currentUri)).1, sink } : Session)
    (.diagnostics ⟨s.documents.currentUri, []⟩)
  exact ⟨later, sent⟩

/-- Whoever is told of withdrawals gets the answers and comes to his end. -/
theorem withdrawn_outbox (entries : List (Entry DelayedAction)) (s : Session) :
    ∃ sink invocations, entries.foldl Session.withdrawn s =
      { s with sink, outbox := s.outbox ++ Act.withdrawals entries, invocations } := by
  induction entries generalizing s with
  | nil => exact ⟨s.sink, s.invocations, by simp [Act.withdrawals]⟩
  | cons entry rest ih =>
    rw [List.foldl_cons]
    cases callback : entry.callback with
    | clear uri =>
      obtain ⟨sink, same⟩ := withdrawn_clear s callback
      obtain ⟨later, invocations, others⟩ := ih (s.withdrawn entry)
      refine ⟨later, invocations, ?_⟩
      rw [others, same]
      simp [Act.withdrawals, callback]
    | complete job =>
      obtain ⟨sink, same⟩ := withdrawn_complete s callback
      obtain ⟨later, invocations, others⟩ := ih (s.withdrawn entry)
      refine ⟨later, invocations, ?_⟩
      rw [others, same]
      simp [Act.withdrawals, callback]

end Changes

/-! ## What strokes keep -/

section Kept

variable {hand : List (Job Work)} {s t u : Session} {acts : List Act}

theorem Stroke.sound (stroke : Stroke hand s acts t) (sound : Sound hand s) : Sound hand t := by
  cases stroke with
  | note => exact sound.of_desk rfl rfl
  | edit => exact sound.of_desk rfl rfl
  | ask => exact sound.of_desk rfl rfl
  | say m other =>
    obtain ⟨sink, sent⟩ := send_eq s m
    rw [sent]
    exact sound.of_desk rfl rfl
  | clear uri =>
    obtain ⟨sink, sent⟩ := send_eq s (.diagnostics ⟨uri, []⟩)
    rw [clearDiagnostics, sent]
    exact sound.of_desk rfl rfl
  | publish diagnostics timeout _ => exact (((Does.refl s).publish diagnostics timeout).keeps sound).1
  | wipe => exact ((Does.refl s).resetDiagnostics.keeps sound).1
  | start signal slow => exact sound.spawned (sound.coherent.spawn rfl) rfl slow (by rintro _ ⟨⟩)
  | stop ticket signal => exact sound.stop signal
  | postpone job =>
    have own : completionKey = (DelayedAction.complete job).key := rfl
    have scheduled := sound.schedule (.ofMillis s.settings.debounce) own
    rw [sound.coherent.schedule_eq] at scheduled
    exact scheduled
  | tell entries =>
    obtain ⟨sink, invocations, same⟩ := withdrawn_outbox entries s
    rw [same]
    exact sound.of_desk rfl rfl
  | drop => exact sound.cancelAll

theorem Strokes.sound (strokes : Strokes hand s acts t) (sound : Sound hand s) : Sound hand t :=
  strokes.invariant (Sound hand) (fun sound stroke => stroke.sound sound) sound

/-- What no stroke changes, and what it changes only where its list tells so. -/
structure Framed (acts : List Act) (s t : Session) : Prop where
  settings : t.settings = s.settings
  now : t.now = s.now
  outbox : t.outbox = s.outbox ++ acts.flatMap Act.messages
  requests : t.registry.requests = s.registry.requests ++ acts.filterMap Act.request?
  documents : (∀ documents, .edits documents ∉ acts) → t.documents = s.documents

theorem Framed.refl (s : Session) : Framed [] s s :=
  ⟨rfl, rfl, (List.append_nil _).symm, (List.append_nil _).symm, fun _ => rfl⟩

theorem Framed.trans {more : List Act} (first : Framed acts s t) (second : Framed more t u) :
    Framed (acts ++ more) s u where
  settings := second.settings.trans first.settings
  now := second.now.trans first.now
  outbox := by rw [second.outbox, first.outbox, List.flatMap_append, List.append_assoc]
  requests := by rw [second.requests, first.requests, List.filterMap_append, List.append_assoc]
  documents := fun unedited =>
    (second.documents fun d member => unedited d (List.mem_append_right _ member)).trans
      (first.documents fun d member => unedited d (List.mem_append_left _ member))

theorem Stroke.framed (stroke : Stroke hand s acts t) (sound : Sound hand s) : Framed acts s t := by
  cases stroke with
  | note => exact ⟨rfl, rfl, (List.append_nil _).symm, (List.append_nil _).symm, fun _ => rfl⟩
  | say m other =>
    obtain ⟨sink, sent⟩ := send_eq s m
    rw [sent]
    exact ⟨rfl, rfl, rfl, (List.append_nil _).symm, fun _ => rfl⟩
  | clear uri =>
    obtain ⟨sink, sent⟩ := send_eq s (.diagnostics ⟨uri, []⟩)
    rw [clearDiagnostics, sent]
    exact ⟨rfl, rfl, rfl, (List.append_nil _).symm, fun _ => rfl⟩
  | publish diagnostics timeout current =>
    obtain ⟨sink, same⟩ := publish_eq sound current diagnostics timeout
    rw [same]
    refine ⟨rfl, ?_, rfl, (List.append_nil _).symm, fun _ => rfl⟩
    show (ite _ _ _ : Desk Work DelayedAction).agenda.now = _
    split
    · exact s.desk.now_cancel _
    · exact s.desk.now_cancel _
  | wipe current =>
    obtain ⟨sink, same⟩ := resetDiagnostics_eq sound current
    rw [same]
    exact ⟨rfl, s.desk.now_cancel _, rfl, (List.append_nil _).symm, fun _ => rfl⟩
  | ask name provider topic =>
    exact ⟨rfl, rfl, (List.append_nil _).symm, rfl, fun _ => rfl⟩
  | start => exact ⟨rfl, rfl, (List.append_nil _).symm, (List.append_nil _).symm, fun _ => rfl⟩
  | stop => exact ⟨rfl, rfl, (List.append_nil _).symm, (List.append_nil _).symm, fun _ => rfl⟩
  | edit documents =>
    exact ⟨rfl, rfl, (List.append_nil _).symm, (List.append_nil _).symm,
      fun unedited => absurd (List.mem_singleton_self _) (unedited documents)⟩
  | postpone job =>
    exact ⟨rfl, s.desk.now_cancel _, (List.append_nil _).symm, (List.append_nil _).symm, fun _ => rfl⟩
  | tell entries =>
    obtain ⟨sink, invocations, same⟩ := withdrawn_outbox entries s
    rw [same]
    refine ⟨rfl, rfl, ?_, (List.append_nil _).symm, fun _ => rfl⟩
    simp [Act.messages]
  | drop =>
    refine ⟨rfl, ?_, (List.append_nil _).symm, (List.append_nil _).symm, fun _ => rfl⟩
    show (s.desk.pending.foldl Desk.withdraw _).agenda.now = _
    rw [agenda_foldl_withdraw]
    rfl

theorem Strokes.framed (strokes : Strokes hand s acts t) (sound : Sound hand s) : Framed acts s t := by
  induction strokes with
  | nil s => exact .refl s
  | cons stroke _ ih => exact (stroke.framed sound).trans (ih (stroke.sound sound))

/-! ## What strokes do to the agenda -/

/-- Jobs with some work stay where they are. -/
structure Stays (keep : Work → Prop) (s t : Session) : Prop where
  ready : ∀ job ∈ s.desk.agenda.ready, keep job.work → job ∈ t.desk.agenda.ready
  timers : ∀ timer ∈ s.desk.agenda.timers, keep timer.job.work → timer ∈ t.desk.agenda.timers

section Staying

variable {keep : Work → Prop}

theorem Stays.of_agenda (agenda : t.desk.agenda = s.desk.agenda) : Stays keep s t := by
  constructor <;> rw [agenda]
  · exact fun job member _ => member
  · exact fun timer member _ => member

theorem Stays.trans (first : Stays keep s t) (second : Stays keep t u) : Stays keep s u where
  ready := fun job member kept => second.ready job (first.ready job member kept) kept
  timers := fun timer member kept => second.timers timer (first.timers timer member kept) kept

theorem Stays.spawn {agenda : Agenda Work} {work : Work} (before : s.desk.agenda = agenda)
    (spawned : t.desk.agenda = (agenda.spawn work).1) : Stays keep s t := by
  constructor <;> rw [spawned, before]
  · exact fun job member _ => List.mem_append_left _ member
  · exact fun timer member _ => member

/-- Jobs of a ticket are withdrawn, which is that of no such work. -/
theorem Stays.cancel (ticket : Nat) (others : ∀ job ∈ s.desk.agenda.jobs, keep job.work → job.ticket ≠ ticket)
    (agenda : t.desk.agenda = s.desk.agenda.cancel ticket) : Stays keep s t := by
  constructor <;> rw [agenda]
  · intro job member kept
    exact List.mem_filter.mpr
      ⟨member, bne_iff_ne.mpr (others job (List.mem_append_left _ member) kept)⟩
  · intro timer member kept
    exact List.mem_filter.mpr ⟨member, bne_iff_ne.mpr
      (others timer.job (List.mem_append_right _ (List.mem_map_of_mem member)) kept)⟩

/-- What is pending for a key is withdrawn. -/
theorem Stays.withdraw (sound : Sound hand s) (key : String)
    (others : ∀ work, keep work → ∀ action, work.slot ≠ some (key, action)) :
    Stays keep s { s with desk := (s.desk.cancel key).1 } := by
  rcases s.desk.cancel_cases key with ⟨_, same⟩ | ⟨entry, pending, own, gone⟩
  · exact .of_agenda (by rw [same])
  · refine .cancel entry.ticket (fun job member kept ticket => ?_) (by rw [gone])
    have slot := sound.coherent.slot_of_ticket pending (List.mem_append_right _ member) ticket
    rw [own] at slot
    exact others job.work kept _ slot

/-- Everything that is pending is withdrawn. -/
theorem Stays.withdrawAll (sound : Sound hand s) (others : ∀ work, keep work → work.slot = none) :
    Stays keep s { s with desk := s.desk.cancelAll.1 } := by
  have agenda : ({ s with desk := s.desk.cancelAll.1 } : Session).desk.agenda =
      { s.desk.agenda with
        ready := s.desk.agenda.ready.filter fun job => s.desk.pending.all (·.ticket != job.ticket)
        timers := s.desk.agenda.timers.filter fun timer =>
          s.desk.pending.all (·.ticket != timer.job.ticket) } :=
    agenda_foldl_withdraw s.desk.pending { s.desk with pending := [] }
  have free : ∀ job ∈ s.desk.agenda.jobs, keep job.work →
      (s.desk.pending.all fun entry => entry.ticket != job.ticket) = true := by
    intro job member kept
    refine List.all_eq_true.mpr fun entry pending => bne_iff_ne.mpr fun same => ?_
    have slot := sound.coherent.slot_of_ticket pending (List.mem_append_right _ member) same.symm
    rw [others job.work kept] at slot
    cases slot
  constructor <;> rw [agenda]
  · intro job member kept
    exact List.mem_filter.mpr ⟨member, free job (List.mem_append_left _ member) kept⟩
  · intro timer member kept
    exact List.mem_filter.mpr
      ⟨member, free timer.job (List.mem_append_right _ (List.mem_map_of_mem member)) kept⟩

/-- A stroke leaves the work alone that it does not disturb. -/
theorem Stroke.stays (stroke : Stroke hand s acts t) (sound : Sound hand s)
    (harmless : ∀ work, keep work → ∀ act ∈ acts, ¬act.Disturbs work) : Stays keep s t := by
  cases stroke with
  | note => exact .of_agenda rfl
  | edit => exact .of_agenda rfl
  | ask => exact .of_agenda rfl
  | say m other =>
    obtain ⟨sink, sent⟩ := send_eq s m
    rw [sent]
    exact .of_agenda rfl
  | clear uri =>
    obtain ⟨sink, sent⟩ := send_eq s (.diagnostics ⟨uri, []⟩)
    rw [clearDiagnostics, sent]
    exact .of_agenda rfl
  | publish diagnostics timeout current =>
    obtain ⟨sink, same⟩ := publish_eq sound current diagnostics timeout
    have gone : Stays keep s { s with desk := (s.desk.cancel (diagnosticsKey s.documents.currentUri)).1 } :=
      .withdraw sound _ fun work kept action slot =>
        harmless work kept _ (List.mem_singleton_self _) ⟨action, slot⟩
    rw [same]
    refine gone.trans ?_
    by_cases instant : timeout.isInstant = true
    · exact .of_agenda (by simp only [if_pos instant])
    · exact .spawn rfl (by simp only [if_neg instant]; rfl)
  | wipe current =>
    obtain ⟨sink, same⟩ := resetDiagnostics_eq sound current
    have gone : Stays keep s { s with desk := (s.desk.cancel (diagnosticsKey s.documents.currentUri)).1 } :=
      .withdraw sound _ fun work kept action slot =>
        harmless work kept _ (List.mem_singleton_self _) ⟨action, slot⟩
    rw [same]
    exact gone.trans (.of_agenda rfl)
  | start signal slow => exact .spawn rfl rfl
  | stop ticket signal =>
    refine .cancel ticket (fun job member kept own => ?_) rfl
    exact harmless job.work kept _ (List.mem_singleton_self _)
      (signal.signal job (List.mem_append_right _ member) own)
  | postpone job =>
    have gone : Stays keep s { s with desk := (s.desk.cancel completionKey).1 } :=
      .withdraw sound _ fun work kept action slot =>
        harmless work kept _ (List.mem_singleton_self _) ⟨action, slot⟩
    exact gone.trans (.spawn rfl rfl)
  | tell entries =>
    obtain ⟨sink, invocations, same⟩ := withdrawn_outbox entries s
    rw [same]
    exact .of_agenda rfl
  | drop =>
    refine .withdrawAll sound fun work kept => ?_
    exact Classical.not_not.mp (harmless work kept _ (List.mem_singleton_self _))

theorem Strokes.stays (strokes : Strokes hand s acts t) (sound : Sound hand s)
    (harmless : ∀ work, keep work → ∀ act ∈ acts, ¬act.Disturbs work) : Stays keep s t := by
  induction strokes with
  | nil s => exact .of_agenda rfl
  | cons stroke _ ih =>
    have first := stroke.stays sound fun work kept act member =>
      harmless work kept act (List.mem_append_left _ member)
    exact first.trans (ih (stroke.sound sound) fun work kept act member =>
      harmless work kept act (List.mem_append_right _ member))

end Staying

/-- The work that a stroke makes ready. -/
def Act.Spawns (debounce : Nat) (work : Work) : Act → Prop
  | shows uri _ timeout => timeout.isInstant = false ∧ work = .delay (diagnosticsKey uri) timeout (.clear uri)
  | starts signal => work = .animate signal
  | admits job => work = .delay completionKey (.ofMillis debounce) (.complete job)
  | _ => False

/-- The jobs after some strokes are old ones, or ready and new. -/
structure Grown (acts : List Act) (s t : Session) : Prop where
  ready : ∀ job ∈ t.desk.agenda.ready,
    job ∈ s.desk.agenda.ready ∨ ∃ act ∈ acts, act.Spawns s.settings.debounce job.work
  timers : ∀ timer ∈ t.desk.agenda.timers, timer ∈ s.desk.agenda.timers

section Growing

theorem Grown.of_fewer (ready : t.desk.agenda.ready ⊆ s.desk.agenda.ready)
    (timers : t.desk.agenda.timers ⊆ s.desk.agenda.timers) : Grown acts s t :=
  ⟨fun _ member => .inl (ready member), fun _ member => timers member⟩

theorem Grown.of_agenda (agenda : t.desk.agenda = s.desk.agenda) : Grown acts s t :=
  .of_fewer (by rw [agenda]; exact List.Subset.refl _) (by rw [agenda]; exact List.Subset.refl _)

theorem Grown.withdraw (s : Session) (key : String) :
    Grown acts s { s with desk := (s.desk.cancel key).1 } := by
  rcases s.desk.cancel_cases key with ⟨_, same⟩ | ⟨entry, _, _, gone⟩
  · exact .of_agenda (by rw [same])
  · exact .of_fewer (by rw [gone]; exact List.filter_subset_self _) (by rw [gone]; exact List.filter_subset_self _)

theorem Grown.spawn {work : Work} (before : Grown acts s t)
    (spawns : ∃ act ∈ acts, act.Spawns s.settings.debounce work)
    (spawned : u.desk.agenda = (t.desk.agenda.spawn work).1) : Grown acts s u := by
  constructor <;> rw [spawned]
  · intro job member
    rcases List.mem_append.mp member with old | new
    · exact before.ready job old
    · rw [List.mem_singleton.mp new]
      exact .inr spawns
  · exact before.timers

theorem Stroke.grown (stroke : Stroke hand s acts t) (sound : Sound hand s) : Grown acts s t := by
  cases stroke with
  | note => exact .of_agenda rfl
  | edit => exact .of_agenda rfl
  | ask => exact .of_agenda rfl
  | say m other =>
    obtain ⟨sink, sent⟩ := send_eq s m
    rw [sent]
    exact .of_agenda rfl
  | clear uri =>
    obtain ⟨sink, sent⟩ := send_eq s (.diagnostics ⟨uri, []⟩)
    rw [clearDiagnostics, sent]
    exact .of_agenda rfl
  | publish diagnostics timeout current =>
    obtain ⟨sink, same⟩ := publish_eq sound current diagnostics timeout
    rw [same]
    by_cases instant : timeout.isInstant = true
    · have gone : Grown [.shows s.documents.currentUri (ownDiagnostics diagnostics) timeout] s
          { s with desk := (s.desk.cancel (diagnosticsKey s.documents.currentUri)).1 } := .withdraw s _
      exact ⟨by simp only [if_pos instant]; exact gone.ready, by simp only [if_pos instant]; exact gone.timers⟩
    · refine Grown.spawn (.withdraw s (diagnosticsKey s.documents.currentUri))
        ⟨_, List.mem_singleton_self _, ?_⟩ (by simp only [if_neg instant]; rfl)
      exact ⟨Bool.eq_false_iff.mpr instant, rfl⟩
  | wipe current =>
    obtain ⟨sink, same⟩ := resetDiagnostics_eq sound current
    rw [same]
    have gone : Grown [.wipes s.documents.currentUri] s
        { s with desk := (s.desk.cancel (diagnosticsKey s.documents.currentUri)).1 } := .withdraw s _
    exact ⟨gone.ready, gone.timers⟩
  | start signal slow =>
    exact Grown.spawn (.of_agenda rfl) ⟨_, List.mem_singleton_self _, rfl⟩ rfl
  | stop ticket signal => exact .of_fewer (List.filter_subset_self _) (List.filter_subset_self _)
  | postpone job =>
    exact Grown.spawn (.withdraw s completionKey) ⟨_, List.mem_singleton_self _, rfl⟩ rfl
  | tell entries =>
    obtain ⟨sink, invocations, same⟩ := withdrawn_outbox entries s
    rw [same]
    exact .of_agenda rfl
  | drop =>
    have agenda := agenda_foldl_withdraw s.desk.pending { s.desk with pending := [] }
    refine .of_fewer ?_ ?_
    · show (s.desk.pending.foldl Desk.withdraw { s.desk with pending := [] }).agenda.ready ⊆ _
      rw [agenda]
      exact List.filter_subset_self _
    · show (s.desk.pending.foldl Desk.withdraw { s.desk with pending := [] }).agenda.timers ⊆ _
      rw [agenda]
      exact List.filter_subset_self _

theorem Strokes.grown (strokes : Strokes hand s acts t) (sound : Sound hand s) : Grown acts s t := by
  induction strokes with
  | nil s => exact .of_agenda rfl
  | @cons s mid t first later stroke _ ih =>
    have here := stroke.grown sound
    have there := ih (stroke.sound sound)
    refine ⟨fun job member => ?_, fun timer member => here.timers timer (there.timers timer member)⟩
    rcases there.ready job member with before | ⟨act, done, spawns⟩
    · refine (here.ready job before).imp_right fun ⟨act, done, spawns⟩ => ?_
      exact ⟨act, List.mem_append_left _ done, spawns⟩
    · rw [(stroke.framed sound).settings] at spawns
      exact .inr ⟨act, List.mem_append_right _ done, spawns⟩

/-- What a stroke makes ready. -/
theorem Stroke.made (stroke : Stroke hand s acts t) (sound : Sound hand s) {act : Act} {work : Work}
    (done : act ∈ acts) (spawns : act.Spawns s.settings.debounce work) :
    ∃ ticket, ⟨ticket, work⟩ ∈ t.desk.agenda.ready := by
  cases stroke with
  | note => cases done
  | publish diagnostics timeout current =>
    cases List.mem_singleton.mp done
    obtain ⟨lasting, rfl⟩ := spawns
    obtain ⟨sink, same⟩ := publish_eq sound current diagnostics timeout
    rw [same]
    refine ⟨(s.desk.cancel (diagnosticsKey s.documents.currentUri)).1.agenda.issued, ?_⟩
    simp only [lasting, Bool.false_eq_true, if_false]
    exact List.mem_append_right _ (List.mem_singleton_self _)
  | start | postpone =>
    cases List.mem_singleton.mp done
    cases spawns
    exact ⟨_, List.mem_append_right _ (List.mem_singleton_self _)⟩
  | _ =>
    cases List.mem_singleton.mp done
    cases spawns

/-- What a stroke makes ready stays so, unless later strokes disturb it. -/
theorem Strokes.made (strokes : Strokes hand s acts t) (sound : Sound hand s) {before after : List Act} {act : Act}
    {work : Work} (split : acts = before ++ act :: after) (spawns : act.Spawns s.settings.debounce work)
    (undisturbed : ∀ later ∈ after, ¬later.Disturbs work) : ∃ ticket, ⟨ticket, work⟩ ∈ t.desk.agenda.ready := by
  induction strokes generalizing before with
  | nil => exact absurd split (by simp)
  | @cons s mid t first later stroke path ih =>
    have soundly := stroke.sound sound
    have onward (before : List Act) (split : later = before ++ act :: after) :
        ∃ ticket, ⟨ticket, work⟩ ∈ t.desk.agenda.ready :=
      ih soundly split (by rw [(stroke.framed sound).settings]; exact spawns)
    rcases List.append_eq_append_iff.mp split with ⟨between, -, split⟩ | ⟨between, own, split⟩
    · exact onward between split
    · cases between with
      | nil => exact onward [] split.symm
      | cons _ between =>
        obtain ⟨rfl, rfl⟩ := List.cons.inj split
        obtain ⟨ticket, ready⟩ := stroke.made sound (own ▸ List.mem_append_right _ (List.mem_cons_self ..)) spawns
        have stays : Stays (· = work) mid t := Strokes.stays path soundly fun _ same act member =>
          same ▸ undisturbed act (List.mem_append_right _ member)
        exact ⟨ticket, stays.ready _ ready rfl⟩

/-- Messages that are only sent publish nothing. -/
theorem Strokes.unpublished (strokes : Strokes hand s acts t) :
    ∀ m, .sends m ∈ acts → m.published? = none := by
  induction strokes with
  | nil => exact fun m member => absurd member List.not_mem_nil
  | cons stroke _ ih =>
    intro m member
    rcases List.mem_append.mp member with here | there
    · cases stroke with
      | say _ other =>
        cases List.mem_singleton.mp here
        exact other
      | _ => simp at here
    · exact ih m there

end Growing

end Kept

end EditorAssist.Session

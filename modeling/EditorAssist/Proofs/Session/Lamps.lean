import EditorAssist.Proofs.Session.Spinning
import EditorAssist.Proofs.Session.Ticking
import EditorAssist.Proofs.Session.Versions

/-!
# The lamps of a session

The work of a request that shows a signal and the work of the signal itself are the lamps of a session. A turn
lights two of them, puts two of them out, lets one go on or leaves them all alone. In a session that shows progress
every signal that ticks is that of a request at work, and no two of these requests show their signals under the same
token.
-/

namespace EditorAssist.Session

open EditorAssist.Backend EditorAssist.Debounce EditorAssist.Journal EditorAssist.Payload
open EditorAssist.Settings EditorAssist.Text EditorAssist.Time EditorAssist.Wire

/-! ## What operations do to the lamps -/

/-- Whether work belongs to a signal: it is that of a request that shows one, or of the signal itself. -/
def Work.isLamp (work : Work) : Bool := work.active?.isSome || work.isSignal

/-- The jobs that belong to signals. -/
def lamps (s : Session) : List (Job Work) := s.desk.agenda.jobs.filter (·.work.isLamp)

section Lamps

variable {hand : List (Job Work)} {sort : Act → Prop} {s t : Session} {job : Job Work} {ticket : Nat} {next : Work}
  {signal : Signal}

theorem mem_lamps : job ∈ s.lamps ↔ job ∈ s.desk.agenda.jobs ∧ job.work.isLamp = true := List.mem_filter

/-- Lamps cannot be withdrawn through the table of debounced actions. -/
theorem Work.slot_of_isLamp {work : Work} (lamp : work.isLamp = true) : work.slot = none := by
  cases work <;> first | rfl | cases lamp

theorem Work.isLamp_of_active? {work : Work} {active : ActiveSignal} (shows : work.active? = some active) :
    work.isLamp = true := by
  rw [isLamp, shows]
  rfl

theorem Work.isLamp_of_signal? {work : Work} (own : work.signal? = some signal) : work.isLamp = true := by
  cases work <;> first | rfl | cases own

/-- The work of a signal is not that of a request. -/
theorem Work.active?_of_isSignal {work : Work} (own : work.isSignal = true) : work.active? = none := by
  cases work <;> first | rfl | cases own

/-- What leaves signals alone leaves the lamps alone. -/
theorem Kept.lamps (kept : Kept hand sort s t) (sound : Sound hand s) (steady : ∀ act, sort act → ¬act.Spins)
    (job : Job Work) : job ∈ t.lamps ↔ job ∈ s.lamps := by
  rw [mem_lamps, mem_lamps]
  refine and_congr_left fun lamp => ?_
  exact kept.mem_jobs sound steady (Work.slot_of_isLamp lamp)

/-- A job more that is a lamp. -/
theorem lamps_of_jobs (lamp : next.isLamp = true)
    (jobs : t.desk.agenda.jobs.Perm (⟨ticket, next⟩ :: s.desk.agenda.jobs)) (job : Job Work) :
    job ∈ t.lamps ↔ job = ⟨ticket, next⟩ ∨ job ∈ s.lamps := by
  rw [mem_lamps, mem_lamps, jobs.mem_iff, List.mem_cons, or_and_right]
  refine or_congr_left ⟨And.left, ?_⟩
  rintro rfl
  exact ⟨rfl, lamp⟩

/-- What is handed on is a lamp more. -/
theorem Handed.lamps (handed : Handed ticket next s t) (lamp : next.isLamp = true) :
    ∃ number, ∀ job, job ∈ t.lamps ↔ job = ⟨number, next⟩ ∨ job ∈ s.lamps := by
  cases handed with
  | lined => exact ⟨ticket, lamps_of_jobs lamp (Agenda.jobs_enqueue ⟨ticket, next⟩)⟩
  | spawned => exact ⟨s.desk.agenda.issued, lamps_of_jobs lamp (Agenda.jobs_spawn next)⟩
  | waits due => exact ⟨ticket, lamps_of_jobs lamp (Agenda.jobs_waitUntil due ⟨ticket, next⟩)⟩

/-- What is handed on gives no message and no token. -/
theorem Handed.same (handed : Handed ticket next s t) : t.outbox = s.outbox ∧ t.tokens = s.tokens := by
  cases handed <;> exact ⟨rfl, rfl⟩

/-- Every token that is announced is made up. -/
theorem tokens_announce (s : Session) (signal : Signal) :
    (s.announce signal).1.tokens = s.tokens + (s.announcement signal).length := by
  unfold announce announcement
  cases signal.mode with
  | diagnostic => rfl
  | progress =>
    cases signal.token with
    | some token => exact tokens_send s (.progress ⟨token, .begin_ ⟨signal.title, none, none⟩⟩)
    | none =>
      let counted : Session := { s with requested := s.requested + 1, tokens := s.tokens + 1 }
      let created := counted.send (.createProgress (s.requested + 1) (freshToken (s.tokens + 1)))
      show (created.send (.progress ⟨freshToken (s.tokens + 1), .begin_ ⟨signal.title, none, none⟩⟩)).tokens = _
      rw [tokens_send, tokens_send]
      rfl

end Lamps

/-! ## Who shows what -/

/-- A signal that ticks and shows its progress under a token. -/
structure ActiveSignal.ShownAs (token : RequestId) (active : ActiveSignal) : Prop where
  mode : active.signal.mode = .progress
  named : active.signal.token = some token
  ticking : active.ticking.isSome = true

/-- Work of a request that shows a signal under a token. -/
def Work.Shows (token : RequestId) (work : Work) : Prop :=
  ∃ active, work.active? = some active ∧ active.ShownAs token

/-- The token of some work is that which a client has given for it. If there is none, it is one of those that were
made up so far. -/
def Work.Names (tokens : Nat) (token : RequestId) (work : Work) : Prop :=
  work.token? = some token ∨ work.token? = none ∧ ∃ number ≤ tokens, token = freshToken number

/-- The lamps of a session that shows progress: every signal of a request is shown under a token, a signal that
ticks is that of a request, and two requests show their signals under different tokens. -/
structure Lit (tokens : Nat) (lamps : List (Job Work)) : Prop where
  shown : ∀ job ∈ lamps, ∀ active, job.work.active? = some active →
    ∃ token, active.ShownAs token ∧ job.work.Names tokens token
  held : ∀ job ∈ lamps, ∀ signal, job.work.signal? = some signal →
    ∃ holder ∈ lamps, ∃ ticking, holder.work.active? = some ⟨signal, some ticking⟩ ∧ ticking.ticket = job.ticket
  apart : ∀ job ∈ lamps, ∀ other ∈ lamps, ∀ token, job.work.Shows token → other.work.Shows token →
    job.work.charge? = other.work.charge?

section Lighting

variable {tokens more number : Nat} {lamps others : List (Job Work)} {job : Job Work} {next : Work} {signal : Signal}
  {ticking : Ticking} {token : RequestId}

theorem Work.Names.mono {work : Work} (names : work.Names tokens token) (le : tokens ≤ more) :
    work.Names more token :=
  names.imp_right fun ⟨free, number, early, own⟩ => ⟨free, number, Nat.le_trans early le, own⟩

theorem Lit.congr (lit : Lit tokens lamps) (le : tokens ≤ more) (same : ∀ job, job ∈ others ↔ job ∈ lamps) :
    Lit more others where
  shown := fun job member active shows => by
    obtain ⟨token, shown, names⟩ := lit.shown job ((same job).mp member) active shows
    exact ⟨token, shown, names.mono le⟩
  held := fun job member signal own => by
    obtain ⟨holder, there, held⟩ := lit.held job ((same job).mp member) signal own
    exact ⟨holder, (same holder).mpr there, held⟩
  apart := fun job member other there => lit.apart job ((same job).mp member) other ((same other).mp there)

/-- The work of a signal holds none itself. -/
theorem Work.signal?_of_active? {work : Work} {active : ActiveSignal} (shows : work.active? = some active) :
    work.signal? = none := by
  cases work <;> first | rfl | cases shows

/-- A lamp goes on as another one. -/
theorem Lit.goesOn (lit : Lit tokens (job :: others)) (active : next.active? = job.work.active?)
    (charge : next.charge? = job.work.charge?) (given : next.token? = job.work.token?)
    (own : next.signal? = job.work.signal?) (ticket : next.signal? ≠ none → number = job.ticket) :
    Lit tokens (⟨number, next⟩ :: others) := by
  -- Every lamp stands where one stood that shows the same for the same request.
  have before : ∀ lamp ∈ ⟨number, next⟩ :: others, ∃ old ∈ job :: others, old.work.active? = lamp.work.active? ∧
      old.work.charge? = lamp.work.charge? ∧ old.work.token? = lamp.work.token? := by
    intro lamp member
    rcases List.mem_cons.mp member with rfl | there
    · exact ⟨job, List.mem_cons_self .., active.symm, charge.symm, given.symm⟩
    · exact ⟨lamp, List.mem_cons_of_mem _ there, rfl, rfl, rfl⟩
  refine ⟨fun lamp member shown shows => ?_, fun lamp member signal ticks => ?_,
    fun lamp member other there token shows shows' => ?_⟩
  · obtain ⟨old, there, same, -, token⟩ := before lamp member
    obtain ⟨name, shown, names⟩ := lit.shown old there shown (same.trans shows)
    refine ⟨name, shown, ?_⟩
    rw [Work.Names, ← token]
    exact names
  · have old : ∃ old ∈ job :: others, old.work.signal? = some signal ∧ old.ticket = lamp.ticket := by
      rcases List.mem_cons.mp member with rfl | there
      · refine ⟨job, List.mem_cons_self .., own.symm.trans ticks, (ticket fun none => ?_).symm⟩
        rw [none] at ticks
        cases ticks
      · exact ⟨lamp, List.mem_cons_of_mem _ there, ticks, rfl⟩
    obtain ⟨old, there, ticks, place⟩ := old
    obtain ⟨holder, there, ticking, shows, held⟩ := lit.held old there signal ticks
    rcases List.mem_cons.mp there with rfl | there
    · exact ⟨_, List.mem_cons_self .., ticking, active.trans shows, held.trans place⟩
    · exact ⟨holder, List.mem_cons_of_mem _ there, ticking, shows, held.trans place⟩
  · obtain ⟨old, member, same, charge, -⟩ := before lamp member
    obtain ⟨old', there, same', charge', -⟩ := before other there
    rw [Work.Shows, ← same] at shows
    rw [Work.Shows, ← same'] at shows'
    exact charge.symm.trans ((lit.apart old member old' there token shows shows').trans charge')

/-- A request shows a signal under a token that is free. -/
theorem Lit.light (lit : Lit tokens others) (le : tokens ≤ more) (shows : next.active? = some ⟨signal, some ticking⟩)
    (shown : ActiveSignal.ShownAs token ⟨signal, some ticking⟩) (names : next.Names more token)
    (free : ∀ other ∈ others, ¬other.work.Shows token) :
    Lit more (⟨number, next⟩ :: ⟨ticking.ticket, .animate signal⟩ :: others) := by
  -- What shows anything is the request or was there before.
  have before : ∀ lamp ∈ ⟨number, next⟩ :: ⟨ticking.ticket, .animate signal⟩ :: others, ∀ active,
      lamp.work.active? = some active → lamp = ⟨number, next⟩ ∨ lamp ∈ others := by
    intro lamp member active shows
    rcases List.mem_cons.mp member with rfl | there
    · exact .inl rfl
    · rcases List.mem_cons.mp there with rfl | there
      · cases shows
      · exact .inr there
  have unique : ∀ name, next.Shows name → name = token := by
    rintro name ⟨active, shows', shown'⟩
    cases shows.symm.trans shows'
    exact Option.some.inj (shown'.named.symm.trans shown.named)
  refine ⟨fun lamp member active shows' => ?_, fun lamp member signal' ticks => ?_,
    fun lamp member other there name shows' shows'' => ?_⟩
  · rcases before lamp member active shows' with rfl | there
    · cases shows.symm.trans shows'
      exact ⟨token, shown, names⟩
    · obtain ⟨name, shown, names⟩ := lit.shown lamp there active shows'
      exact ⟨name, shown, names.mono le⟩
  · rcases List.mem_cons.mp member with rfl | there
    · rw [Work.signal?_of_active? shows] at ticks
      cases ticks
    · rcases List.mem_cons.mp there with rfl | there
      · cases ticks
        exact ⟨_, List.mem_cons_self .., ticking, shows, rfl⟩
      · obtain ⟨holder, there, held⟩ := lit.held lamp there signal' ticks
        exact ⟨holder, List.mem_cons_of_mem _ (List.mem_cons_of_mem _ there), held⟩
  · obtain ⟨active, own, -⟩ := id shows'
    obtain ⟨active', own', -⟩ := id shows''
    rcases before lamp member active own with rfl | here <;> rcases before other there active' own' with rfl | there
    · rfl
    · exact absurd (unique name shows' ▸ shows'') (free other there)
    · exact absurd (unique name shows'' ▸ shows') (free lamp here)
    · exact lit.apart lamp here other there name shows' shows''

/-- A request stops its signal. -/
theorem Lit.putOut (lit : Lit tokens (job :: others)) (shows : job.work.active? = some ⟨signal, some ticking⟩)
    (owned : ∀ other ∈ others, other.ticket = ticking.ticket → other.work.isSignal = true) :
    Lit tokens (others.filter (·.ticket != ticking.ticket)) where
  shown := fun lamp member => lit.shown lamp (List.mem_cons_of_mem _ (List.mem_filter.mp member).1)
  held := fun lamp member signal' ticks => by
    obtain ⟨there, other⟩ := List.mem_filter.mp member
    obtain ⟨holder, there, ticking', shows', held⟩ := lit.held lamp (List.mem_cons_of_mem _ there) signal' ticks
    rcases List.mem_cons.mp there with rfl | there
    · cases shows.symm.trans shows'
      exact absurd held.symm (bne_iff_ne.mp other)
    · refine ⟨holder, List.mem_filter.mpr ⟨there, bne_iff_ne.mpr fun same => ?_⟩, ticking', shows', held⟩
      rw [Work.active?_of_isSignal (owned holder there same)] at shows'
      cases shows'
  apart := fun lamp member other there =>
    lit.apart lamp (List.mem_cons_of_mem _ (List.mem_filter.mp member).1) other
      (List.mem_cons_of_mem _ (List.mem_filter.mp there).1)

end Lighting

/-! ## Signals that are started and stopped -/

/-- A signal that is started shows its progress under a token. If none is given, the token is made up and
announced. -/
structure Opens (s t : Session) (given : Option RequestId) (title : String) (signal : Signal) (ticking : Ticking)
    (token : RequestId) (announced : List Outbound) : Prop where
  shown : ActiveSignal.ShownAs token ⟨signal, some ticking⟩
  named : given = some token ∧ t.tokens = s.tokens ∨
    given = none ∧ token = freshToken (s.tokens + 1) ∧ t.tokens = s.tokens + 1
  announces : ∀ m ∈ announced, ∃ id, m = .createProgress id token
  outbox : t.outbox = s.outbox ++ (announced ++ [.progress ⟨token, .begin_ ⟨title, none, none⟩⟩])
  lamps : ∀ lamp, lamp ∈ t.lamps ↔ lamp = ⟨ticking.ticket, .animate signal⟩ ∨ lamp ∈ s.lamps
  new : ticking.ticket = s.desk.agenda.issued

section Signals

variable {hand : List (Job Work)} {s t u v : Session} {signal : Signal} {active : ActiveSignal} {token : RequestId}

theorem opens_startSignal (enabled : signal.enabled = true) (mode : signal.mode = .progress) (s : Session) :
    ∃ own ticking token announced, (s.startSignal ⟨signal, none⟩).2 = ⟨own, some ticking⟩ ∧
      Opens s (s.startSignal ⟨signal, none⟩).1 signal.token signal.title own ticking token announced := by
  obtain ⟨⟨requested, tokens, gives⟩, active⟩ := @gives_startSignal s signal enabled
  have more : (s.startSignal ⟨signal, none⟩).1.tokens = s.tokens + (s.announcement signal).length := by
    rw [← tokens_announce]
    unfold startSignal
    rw [if_neg (by rw [enabled]; exact Bool.false_ne_true)]
    rfl
  have lamps (lamp : Job Work) : lamp ∈ (s.startSignal ⟨signal, none⟩).1.lamps ↔
      lamp = ⟨s.desk.agenda.issued, .animate (s.named signal)⟩ ∨ lamp ∈ s.lamps := by
    refine lamps_of_jobs rfl ?_ lamp
    rw [gives.agenda_eq]
    exact Agenda.jobs_spawn _
  have outbox : (s.startSignal ⟨signal, none⟩).1.outbox =
      s.outbox ++ (s.announcement signal ++ (s.channel signal).opening) := gives.outbox_eq
  cases given : signal.token with
  | some token =>
    have own : s.named signal = signal := by rw [named, mode, given]
    have nothing : s.announcement signal = [] := by rw [announcement, mode, given]
    have channel : s.channel signal = .progress token signal.title := by rw [Session.channel, mode, given]; rfl
    rw [nothing] at more outbox
    rw [channel] at outbox
    rw [own] at active lamps
    exact ⟨signal, _, token, [], active, ⟨mode, given, rfl⟩, .inl ⟨rfl, more⟩, nofun, outbox, lamps, rfl⟩
  | none =>
    have own : s.named signal = { signal with token := some (freshToken (s.tokens + 1)) } := by
      rw [named, mode, given]
    have asks : s.announcement signal = [.createProgress (s.requested + 1) (freshToken (s.tokens + 1))] := by
      rw [announcement, mode, given]
    have channel : s.channel signal = .progress (freshToken (s.tokens + 1)) signal.title := by
      rw [Session.channel, mode, given]
      rfl
    rw [asks] at more outbox
    rw [channel] at outbox
    rw [own] at active lamps
    refine ⟨_, _, _, _, active, ⟨mode, rfl, rfl⟩, .inr ⟨rfl, rfl, more⟩, fun m member => ?_, outbox, lamps, rfl⟩
    exact ⟨_, List.mem_singleton.mp member⟩

/-- A signal that is shown is stopped: its end is told, and its work is withdrawn. -/
theorem stopSignal_shown (shown : active.ShownAs token) (s : Session) :
    ∃ ticking, active.ticking = some ticking ∧
      (s.stopSignal active).1.outbox = s.outbox ++ [.progress ⟨token, .end_ ⟨none⟩⟩] ∧
      (s.stopSignal active).1.tokens = s.tokens ∧
      ∀ lamp, lamp ∈ (s.stopSignal active).1.lamps ↔ lamp ∈ s.lamps ∧ lamp.ticket ≠ ticking.ticket := by
  obtain ⟨mode, named, running⟩ := shown
  obtain ⟨ticking, own⟩ := Option.isSome_iff_exists.mp running
  refine ⟨ticking, own, ?_⟩
  unfold stopSignal
  rw [own, mode, named]
  dsimp only [progressEnd]
  generalize stopped : Session.log _ _ _ _ _ = u
  obtain ⟨sink, sent⟩ := send_eq u (.progress ⟨token, .end_ ⟨none⟩⟩)
  rw [sent, ← stopped]
  refine ⟨rfl, rfl, fun lamp => ?_⟩
  rw [mem_lamps, mem_lamps, and_right_comm]
  refine and_congr_left fun _ => ?_
  show lamp ∈ (s.desk.agenda.cancel ticking.ticket).jobs ↔ _
  rw [Agenda.jobs_cancel, List.mem_filter, bne_iff_ne]

end Signals

/-! ## What turns do -/

/-- The turn in which a request begins to show a signal takes up a command, or a completion that asks the backend if
one is selected. -/
def Reaches (s : Session) (job : Job Work) : Prop :=
  (∃ number message, job.work = .handle number .command message) ∨ (s.Selected → (Event.turn s job).asked ≠ [])

/-- What a turn does to the lamps, and what it says. -/
inductive Shifts (s : Session) (job : Job Work) (rest : List (Job Work)) (t : Session) : Prop
  /-- It leaves the lamps alone and tells nothing of progress. -/
  | calm (dark : job.work.isLamp = false) (plain : ∀ m ∈ (Event.turn s job).gives, m.isProgress = false)
      (asked : (Event.turn s job).asked = [])
      (rests : ∀ charge, job.work.charge? = some charge →
        charge.number ∉ t.unfinished ∨ ∃ entries, (Event.turn s job).gives = Act.withdrawals entries)
      (tokens : t.tokens = s.tokens) (lamps : ∀ lamp, lamp ∈ t.lamps ↔ lamp ∈ (s.taken rest).lamps)
  /-- A lamp goes on without a word, or with a tick. -/
  | goesOn {number : Nat} {next : Work} (lit : job.work.isLamp = true) (active : next.active? = job.work.active?)
      (charge : next.charge? = job.work.charge?) (given : next.token? = job.work.token?)
      (own : next.signal? = job.work.signal?) (ticket : next.signal? ≠ none → number = job.ticket)
      (gives : (Event.turn s job).gives = [] ∨ ∃ signal since now frame, job.work.signal? = some signal ∧
        (Event.turn s job).gives = s.tickMessages signal (tickText since now frame))
      (tokens : t.tokens = s.tokens)
      (lamps : ∀ lamp, lamp ∈ t.lamps ↔ lamp = ⟨number, next⟩ ∨ lamp ∈ (s.taken rest).lamps)
  /-- A request begins to show a signal. -/
  | begins {number : Nat} {next : Work} {charge : Charge} {signal : Signal} {ticking : Ticking} {token : RequestId}
      {title : String} {announced : List Outbound} (dark : job.work.isLamp = false) (reaches : s.Reaches job)
      (charged : job.work.charge? = some charge) (active : next.active? = some ⟨signal, some ticking⟩)
      (charge' : next.charge? = some charge) (given : next.token? = job.work.token?)
      (shown : ActiveSignal.ShownAs token ⟨signal, some ticking⟩)
      (named : job.work.token? = some token ∧ t.tokens = s.tokens ∨
        job.work.token? = none ∧ token = freshToken (s.tokens + 1) ∧ t.tokens = s.tokens + 1)
      (announces : ∀ m ∈ announced, ∃ id, m = .createProgress id token) (whole : hasHalf title.toList = false)
      (gives : (Event.turn s job).gives = announced ++ [.progress ⟨token, .begin_ ⟨title, none, none⟩⟩])
      (lamps : ∀ lamp, lamp ∈ t.lamps ↔
        lamp = ⟨number, next⟩ ∨ lamp = ⟨ticking.ticket, .animate signal⟩ ∨ lamp ∈ (s.taken rest).lamps)
  /-- A request shows a signal and stops it at once. -/
  | flashes {charge : Charge} {token : RequestId} {title : String} {announced said : List Outbound}
      {value : Json.Value} (dark : job.work.isLamp = false) (reaches : s.Reaches job)
      (charged : job.work.charge? = some charge)
      (named : job.work.token? = some token ∧ t.tokens = s.tokens ∨
        job.work.token? = none ∧ token = freshToken (s.tokens + 1) ∧ t.tokens = s.tokens + 1)
      (announces : ∀ m ∈ announced, ∃ id, m = .createProgress id token) (whole : hasHalf title.toList = false)
      (gives : (Event.turn s job).gives = announced ++ .progress ⟨token, .begin_ ⟨title, none, none⟩⟩ ::
        .progress ⟨token, .end_ ⟨none⟩⟩ :: (said ++ [.response charge.id value]))
      (plain : ∀ m ∈ said, m.isProgress = false) (gone : charge.number ∉ t.unfinished)
      (lamps : ∀ lamp, lamp ∈ t.lamps ↔ lamp ∈ (s.taken rest).lamps)
  /-- A request stops its signal. -/
  | ends {charge : Charge} {active : ActiveSignal} {ticking : Ticking} {token : RequestId} {said : List Outbound}
      {value : Json.Value} (shows : job.work.active? = some active) (charged : job.work.charge? = some charge)
      (shown : active.ShownAs token) (running : active.ticking = some ticking)
      (gives : (Event.turn s job).gives = .progress ⟨token, .end_ ⟨none⟩⟩ :: (said ++ [.response charge.id value]))
      (plain : ∀ m ∈ said, m.isProgress = false) (gone : charge.number ∉ t.unfinished) (tokens : t.tokens = s.tokens)
      (lamps : ∀ lamp, lamp ∈ t.lamps ↔ lamp ∈ (s.taken rest).lamps ∧ lamp.ticket ≠ ticking.ticket)

section Turns

variable {hand : List (Job Work)} {s t : Session} {job : Job Work} {rest : List (Job Work)}

theorem gives_of_outbox {said : List Outbound} (ready : s.desk.agenda.ready = job :: rest)
    (outbox : (perform job (s.taken rest)).outbox = s.outbox ++ said) : (Event.turn s job).gives = said := by
  rw [Event.gives, turned_eq ready, outbox, List.drop_left' rfl]

/-- What is calm asks no backend. -/
theorem Kept.unasked (kept : Kept hand Act.IsCalm s t) (sound : Sound hand s) :
    t.registry.requests = s.registry.requests := by
  obtain ⟨acts, strokes, calm⟩ := kept.acted
  have nothing : acts.filterMap Act.request? = [] := by
    refine List.filterMap_eq_nil_iff.mpr fun act done => ?_
    have own := calm act done
    cases act with
    | asks => exact own.elim
    | _ => rfl
  rw [(strokes.framed sound).requests, nothing, List.append_nil]

/-- The signal that a request starts is one of the settings, with the token of its client and a title that can be
written. -/
theorem Work.BeginsWith.facts {settings : Settings} {work : Work} {signal : Signal}
    (starts : work.BeginsWith settings signal) :
    signal.enabled = settings.spinner ∧ signal.mode = settings.progressMode ∧ signal.token = work.token? ∧
      1000000 ≤ signal.interval.nanos ∧ hasHalf signal.title.toList = false ∧ work.isLamp = false ∧
      ∃ charge, work.charge? = some charge := by
  cases starts with
  | completion =>
    have title : hasHalf "Fetching completion".toList = false := by decide
    exact ⟨rfl, rfl, rfl, tickInterval_slow _, title, rfl, _, rfl⟩
  | command known =>
    have titles : ∀ command ∈ Action.commands, hasHalf command.label.toList = false := by decide
    exact ⟨rfl, rfl, rfl, tickInterval_slow _, titles _ known, rfl, _, rfl⟩

/-- The turn of a delay that begins. -/
theorem delay_shifts {ticket : Nat} {key : String} {span : Span} {action : DelayedAction}
    (ready : s.desk.agenda.ready = ⟨ticket, .delay key span action⟩ :: rest) :
    Shifts s ⟨ticket, .delay key span action⟩ rest (perform ⟨ticket, .delay key span action⟩ (s.taken rest)) := by
  have silent : (Event.turn s ⟨ticket, .delay key span action⟩).gives = [] :=
    gives_of_outbox ready (List.append_nil _).symm
  refine .calm rfl (fun m member => ?_) ?_ (fun _ _ => .inr ⟨[], silent⟩) rfl fun lamp => ?_
  · rw [silent] at member
    cases member
  · rw [Event.asked, turned_eq ready]
    exact List.drop_length
  · rw [mem_lamps, mem_lamps]
    refine and_congr_left fun lit => ?_
    have jobs : lamp ∈ (perform ⟨ticket, .delay key span action⟩ (s.taken rest)).desk.agenda.jobs ↔
        lamp = ⟨ticket, .fire key action⟩ ∨ lamp ∈ (s.taken rest).desk.agenda.jobs :=
      (Agenda.jobs_waitUntil _ _).mem_iff.trans List.mem_cons
    rw [jobs]
    refine or_iff_right ?_
    rintro rfl
    cases lit

/-- Showing a tick neither starts nor stops a signal. -/
theorem Kept.showTick (s : Session) (signal : Signal) (text : String) :
    Kept hand (fun act => ¬act.Spins) s (s.showTick signal text) := by
  unfold Session.showTick
  split
  · exact ⟨(Acted.refl s).send _ rfl id, tokens_send ..⟩
  · exact .refl s
  · exact ⟨(Acted.refl s).publish _ _ fun _ _ => id, tokens_publish ..⟩

/-- What is said before the answer tells nothing of progress. -/
theorem Concluded.said {charge : Charge} (concluded : Concluded hand charge s t) (sound : Sound hand s) :
    ∃ said value, t.outbox = s.outbox ++ (said ++ [.response charge.id value]) ∧
      ∀ m ∈ said, m.isProgress = false := by
  obtain ⟨said, value, outbox⟩ := concluded.answer
  obtain ⟨all, same, plain⟩ := concluded.kept.said sound
  rw [outbox, List.append_assoc] at same
  refine ⟨said, value, by rw [outbox, List.append_assoc], fun m member => plain m ?_⟩
  rw [← List.append_cancel_left same]
  exact List.mem_append_left _ member

end Turns

section Shifting

variable {s : Session} {job : Job Work} {rest : List (Job Work)}

/-- What begins to work on a request reaches a backend with it. -/
theorem Work.BeginsWith.reaches {settings : Settings} {signal : Signal} (sound : Sound [] s)
    (ready : s.desk.agenda.ready = job :: rest) (starts : job.work.BeginsWith settings signal)
    (asks : ∀ key completion, job.work = .fire key (.complete completion) → s.Selected →
      s.completionsAsked < (s.turned job).completionsAsked) : s.Reaches job := by
  obtain ⟨ticket, work⟩ := job
  cases starts with
  | completion =>
    refine .inr fun selected => ?_
    obtain ⟨request, member, -⟩ := Event.asked_of_more sound ready (asks _ _ rfl selected)
    exact List.ne_nil_of_mem member
  | command => exact .inl ⟨_, _, rfl⟩

/-- A turn in which a request begins to show a signal. -/
theorem begins_shifts {b u t : Session} {signal : Signal} (soundly : Sound [⟨job.ticket, job.work.begun⟩] b)
    (ready : s.desk.agenda.ready = job :: rest) (after : perform job (s.taken rest) = t)
    (outbox : b.outbox = s.outbox) (tokens : b.tokens = s.tokens) (lamps : b.lamps = (s.taken rest).lamps)
    (spinner : b.settings.spinner = true) (mode : b.settings.progressMode = .progress)
    (starts : job.work.BeginsWith b.settings signal) (reaches : s.Reaches job)
    (before : Kept [⟨job.ticket, job.work.begun⟩] Act.IsCalm b u)
    (still : u.outbox = b.outbox)
    (goes : Resumes [⟨job.ticket, job.work.begun⟩] job.work (u.startSignal ⟨signal, none⟩).2 job.ticket
      (u.startSignal ⟨signal, none⟩).1 t) : Shifts s job rest t := by
  obtain ⟨enabled, own, given, slow, title, dark, charge, charged⟩ := starts.facts
  have started : Acted [⟨job.ticket, job.work.begun⟩] (fun _ => True) u (u.startSignal ⟨signal, none⟩).1 :=
    (Acted.refl u).startSignal _ slow (fun _ _ => trivial) fun _ _ => trivial
  have sound := started.sound (before.sound soundly)
  obtain ⟨shows, ticking, token, announced, active, opens⟩ :=
    opens_startSignal (enabled.trans spinner) (own.trans mode) u
  have counted : u.tokens = s.tokens := before.tokens.trans tokens
  have old (lamp : Job Work) : lamp ∈ u.lamps ↔ lamp ∈ (s.taken rest).lamps := by
    rw [before.lamps soundly (fun _ => Act.IsCalm.steady) lamp, lamps]
  have named := opens.named
  have opened := opens.outbox
  rw [given, counted] at named
  rw [still, outbox] at opened
  rw [active] at goes
  generalize (u.startSignal ⟨signal, none⟩).1 = v at *
  cases goes with
  | @goesOn w t next mute handed lit same given' =>
    obtain ⟨number, placed⟩ := handed.lamps (Work.isLamp_of_active? lit)
    have gives := gives_of_outbox ready (after ▸ handed.same.1.trans ((mute.mute sound).trans opened))
    have lights (lamp : Job Work) : lamp ∈ t.lamps ↔ lamp = ⟨number, next⟩ ∨
        lamp = ⟨ticking.ticket, .animate shows⟩ ∨ lamp ∈ (s.taken rest).lamps := by
      rw [placed, mute.lamps sound (fun _ => Act.IsMute.steady), opens.lamps, old]
    rw [← mute.tokens, ← handed.same.2] at named
    exact .begins dark reaches charged lit (same.trans charged) given' opens.shown named opens.announces title gives
      lights
  | @ends w t charge' mute same stopped concluded =>
    obtain rfl : charge' = charge := Option.some.inj (same.symm.trans charged)
    obtain ⟨ticking', running, ended, kept, out⟩ := stopSignal_shown opens.shown w
    cases running
    obtain ⟨said, value, told, plain⟩ := concluded.said stopped
    have outbox' : (perform job (s.taken rest)).outbox =
        s.outbox ++ (announced ++ .progress ⟨token, .begin_ ⟨signal.title, none, none⟩⟩ ::
          .progress ⟨token, .end_ ⟨none⟩⟩ :: (said ++ [.response charge'.id value])) := by
      rw [after, told, ended, mute.mute sound, opened]
      simp only [List.append_assoc, List.cons_append, List.nil_append]
    rw [← mute.tokens, ← kept, ← concluded.kept.tokens] at named
    refine .flashes dark reaches charged named opens.announces title (gives_of_outbox ready outbox') plain
      concluded.gone fun lamp => ?_
    rw [concluded.kept.lamps stopped (fun _ => Act.IsCalm.steady), out,
      mute.lamps sound (fun _ => Act.IsMute.steady), opens.lamps, ← old, opens.new]
    -- Of what ticked before, nothing has the new ticket.
    constructor
    · rintro ⟨rfl | there, other⟩
      · exact absurd rfl other
      · exact there
    · intro there
      have early := (before.sound soundly).coherent.issued lamp (List.mem_append_right _ (mem_lamps.mp there).1)
      exact ⟨.inr there, Nat.ne_of_lt early⟩

/-- A turn of a request that shows a signal. -/
theorem resumes_shifts {b t : Session} {active : ActiveSignal} {token : RequestId}
    (soundly : Sound [⟨job.ticket, job.work.begun⟩] b) (ready : s.desk.agenda.ready = job :: rest)
    (after : perform job (s.taken rest) = t) (outbox : b.outbox = s.outbox) (tokens : b.tokens = s.tokens)
    (lamps : b.lamps = (s.taken rest).lamps) (shows : job.work.active? = some active) (shown : active.ShownAs token)
    (goes : Resumes [⟨job.ticket, job.work.begun⟩] job.work active job.ticket b t) : Shifts s job rest t := by
  cases goes with
  | @goesOn u t next mute handed lit same given =>
    obtain ⟨number, placed⟩ := handed.lamps (Work.isLamp_of_active? lit)
    have silent : (perform job (s.taken rest)).outbox = s.outbox ++ [] := by
      rw [after, handed.same.1, mute.mute soundly, outbox, List.append_nil]
    have idle := Work.signal?_of_active? lit
    have lights (lamp : Job Work) : lamp ∈ t.lamps ↔ lamp = ⟨number, next⟩ ∨ lamp ∈ (s.taken rest).lamps := by
      rw [placed, mute.lamps soundly (fun _ => Act.IsMute.steady), lamps]
    exact .goesOn (Work.isLamp_of_active? shows) (lit.trans shows.symm) same given
      (idle.trans (Work.signal?_of_active? shows).symm) (absurd idle) (.inl (gives_of_outbox ready silent))
      (handed.same.2.trans (mute.tokens.trans tokens)) lights
  | @ends u t charge mute charged stopped concluded =>
    obtain ⟨ticking, running, ended, kept, out⟩ := stopSignal_shown shown u
    obtain ⟨said, value, told, plain⟩ := concluded.said stopped
    have outbox' : (perform job (s.taken rest)).outbox =
        s.outbox ++ .progress ⟨token, .end_ ⟨none⟩⟩ :: (said ++ [.response charge.id value]) := by
      rw [after, told, ended, mute.mute soundly, outbox, List.append_assoc]
      rfl
    refine .ends shows charged shown running (gives_of_outbox ready outbox') plain concluded.gone ?_ fun lamp => ?_
    · exact concluded.kept.tokens.trans (kept.trans (mute.tokens.trans tokens))
    · rw [concluded.kept.lamps stopped (fun _ => Act.IsCalm.steady), out,
        mute.lamps soundly (fun _ => Act.IsMute.steady), lamps]

/-- The work of a signal that waits for its next tick. -/
theorem waits_shifts {b u : Session} {signal : Signal} {next : Work} {due : Instant}
    (soundly : Sound [⟨job.ticket, job.work.begun⟩] b) (ready : s.desk.agenda.ready = job :: rest)
    (after : perform job (s.taken rest) = u.waitUntil due job.ticket next) (tokens : b.tokens = s.tokens)
    (lamps : b.lamps = (s.taken rest).lamps) (own : job.work.signal? = some signal)
    (idle : next.active? = none ∧ next.charge? = none ∧ next.token? = none) (own' : next.signal? = some signal)
    (kept : Kept [⟨job.ticket, job.work.begun⟩] (fun act => ¬act.Spins) b u)
    (gives : u.outbox = s.outbox ∨
      ∃ since now frame, u.outbox = s.outbox ++ s.tickMessages signal (tickText since now frame)) :
    Shifts s job rest (perform job (s.taken rest)) := by
  obtain ⟨active, charge, token⟩ : job.work.active? = none ∧ job.work.charge? = none ∧ job.work.token? = none := by
    obtain ⟨ticket, work⟩ := job
    cases work <;> first | exact ⟨rfl, rfl, rfl⟩ | cases own
  obtain ⟨active', charge', token'⟩ := idle
  refine .goesOn (Work.isLamp_of_signal? own) (active'.trans active.symm) (charge'.trans charge.symm)
    (token'.trans token.symm) (own'.trans own.symm) (fun _ => rfl) ?_ ?_ fun lamp => ?_
  · rcases gives with silent | ⟨since, now, frame, told⟩
    · refine .inl (gives_of_outbox ready ?_)
      rw [after, List.append_nil]
      exact silent
    · refine .inr ⟨signal, since, now, frame, own, gives_of_outbox ready ?_⟩
      rw [after]
      exact told
  · rw [after]
    exact kept.tokens.trans tokens
  · rw [after, lamps_of_jobs (Work.isLamp_of_signal? own') (Agenda.jobs_waitUntil due ⟨job.ticket, next⟩),
      kept.lamps soundly (fun _ => id), lamps]

/-- What any turn does to the lamps of a session that shows progress. -/
theorem turn_shifts (sound : Sound [] s) (ready : s.desk.agenda.ready = job :: rest)
    (spinner : s.settings.spinner = true) (mode : s.settings.progressMode = .progress)
    (shown : ∀ active, job.work.active? = some active → ∃ token, active.ShownAs token) :
    Shifts s job rest (perform job (s.taken rest)) := by
  rcases job.work.delay_or with ⟨key, span, action, own⟩ | starts
  · obtain ⟨ticket, work⟩ := job
    obtain rfl : work = .delay key span action := own
    exact delay_shifts ready
  have soundly := sound.begun ready starts
  have bears := perform_bears sound ready starts
  obtain ⟨pending, same⟩ := begun_eq s job rest
  have outbox : (s.begun job rest).outbox = s.outbox := by rw [same]; rfl
  have tokens : (s.begun job rest).tokens = s.tokens := by rw [same]; rfl
  have settings : (s.begun job rest).settings = s.settings := by rw [same]; rfl
  have registry : (s.begun job rest).registry = s.registry := by rw [same]; rfl
  have documents : (s.begun job rest).documents = s.documents := by rw [same]; rfl
  have lamps : (s.begun job rest).lamps = (s.taken rest).lamps := by rw [same]; rfl
  generalize s.begun job rest = b at *
  generalize after : perform job (s.taken rest) = t at *
  cases bears with
  | calm free other kept rests =>
    obtain ⟨said, told, plain⟩ := kept.said soundly
    have gives : (Event.turn s job).gives = said := gives_of_outbox ready (by rw [after, told, outbox])
    have dark : job.work.isLamp = false := by rw [Work.isLamp, free, other]; rfl
    have asked : (Event.turn s job).asked = [] := by
      rw [Event.asked, turned_eq ready, after, kept.unasked soundly, registry, List.drop_length]
    have withdraws : ∀ charge, job.work.charge? = some charge →
        charge.number ∉ t.unfinished ∨ ∃ entries, (Event.turn s job).gives = Act.withdrawals entries := by
      intro charge charged
      rcases rests charge charged with gone | ⟨entries, own⟩
      · exact .inl gone
      · exact .inr ⟨entries, gives_of_outbox ready (by rw [after, own, outbox])⟩
    refine .calm dark (gives ▸ plain) asked withdraws (kept.tokens.trans tokens) fun lamp => ?_
    rw [kept.lamps soundly (fun _ => Act.IsCalm.steady), lamps]
  | begins starts asks before still goes =>
    have reaches := starts.reaches sound ready fun key completion own selected => by
      have more := asks key completion own (by rw [Selected, registry]; exact selected)
      rw [completionsAsked, registry, ← after, ← turned_eq ready] at more
      exact more
    rw [← settings] at spinner mode
    exact begins_shifts soundly ready after outbox tokens lamps spinner mode starts reaches before (still spinner) goes
  | resumes shows goes =>
    obtain ⟨token, shown⟩ := shown _ shows
    exact resumes_shifts soundly ready after outbox tokens lamps shows shown goes
  | @animates signal own =>
    rw [← after]
    refine waits_shifts soundly ready after tokens lamps ?_ ⟨rfl, rfl, rfl⟩ rfl (.refl b) (.inl outbox)
    rw [own]
    rfl
  | @ticks signal since frame own =>
    rw [← after]
    refine waits_shifts soundly ready after tokens lamps ?_ ⟨rfl, rfl, rfl⟩ rfl
      (.showTick b signal (tickText since b.now frame)) (.inr ⟨since, b.now, frame, ?_⟩)
    · rw [own]
      rfl
    · rw [outbox_showTick soundly, outbox, tickMessages, tickMessages, documents]

end Shifting

end EditorAssist.Session

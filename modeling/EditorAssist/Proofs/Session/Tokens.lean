import EditorAssist.Proofs.Number.Decimal
import EditorAssist.Proofs.Session.Executing
import EditorAssist.Proofs.Session.Lamps
import EditorAssist.Proofs.Session.Signalling
import Mathlib.Data.List.Pairwise

/-!
# Tokens that are shown

A request shows a token while its signal ticks, and in a session that shows progress no two requests show the same
one. Every turn tells of progress accordingly: a token is shown from the begin that is sent under it until its end,
and signals report under tokens that are shown.
-/

namespace EditorAssist.Session

open EditorAssist.Backend EditorAssist.Debounce EditorAssist.Journal EditorAssist.Json EditorAssist.Payload
open EditorAssist.Settings EditorAssist.Text EditorAssist.Time EditorAssist.Wire

/-! ## Who is charged -/

/-- Everything charged to a handler bears one id. -/
def Billed (number : Nat) (id : Option RequestId) (s : Session) : Prop :=
  ∀ charge ∈ s.charges, charge.number = number → charge.id = id

section Charging

variable {hand : List (Job Work)} {s t : Session} {ticket : Nat} {work : Work} {job other : Job Work}
  {rest : List (Job Work)} {charge charge' : Charge} {number : Nat} {id : Option RequestId} {events : List Event}

/-- A turn charges no more than its work and the session were charged with. -/
theorem Effect.charged (effect : Effect hand s ticket work t) (sound : Sound hand s) :
    ∀ charge ∈ t.charges, charge ∈ work.charge?.toList ++ s.charges := by
  cases effect with
  | silent _ does =>
    exact fun charge member => List.mem_append_right _ ((does.charges sound).mem_iff.mp member)
  | @answers _ _ _ mid after m fault _ does _ _ afterwards =>
    obtain ⟨sink, sent⟩ := send_eq mid m
    have soundly : Sound hand (mid.send m) := by
      rw [sent]
      exact (does.keeps sound).1.of_desk rfl rfl
    have same : (mid.send m).charges = mid.charges := by
      rw [sent]
      rfl
    intro charge member
    have there := (afterwards.charges soundly).mem_iff.mp member
    rw [same] at there
    exact List.mem_append_right _ ((does.charges sound).mem_iff.mp there)
  | goesOn does _ succeeds _ placed =>
    obtain ⟨charges, -⟩ := placed.charges
    rw [succeeds.charge] at charges
    intro charge member
    rcases List.mem_append.mp (charges.mem_iff.mp member) with own | there
    · exact List.mem_append_left _ own
    · exact List.mem_append_right _ ((does.charges sound).mem_iff.mp there)
  | @delays number message params document own _ _ =>
    rw [own]
    intro charge member
    rw [schedule_eq sound, charges_foldl_withdrawn] at member
    rcases List.mem_append.mp ((charges_add _ rfl).mem_iff.mp member) with new | there
    · exact List.mem_append_left _ new
    · exact List.mem_append_right _ ((charges_cancel sound completionKey).mem_iff.mpr (List.mem_append_right _ there))
  | @shutsDown number message own =>
    obtain ⟨sink, same⟩ := shutdown_eq s message
    have closing : Sound hand s.closing := sound.of_desk rfl rfl
    have charges : ((s.shutdown message).finish number).charges = debts s.closing.desk.agenda.jobs := by
      rw [same, ← charges_cancelAllPending closing]
      rfl
    rw [charges]
    exact fun charge member => List.mem_append_right _ (List.mem_append_right _ member)
  | clears _ does => exact fun charge member => List.mem_append_right _ ((does.charges sound).mem_iff.mp member)
  | @ticks mid span next own does signal _ _ =>
    have jobs : (mid.waitFor span ticket next).desk.agenda.jobs.Perm (⟨ticket, next⟩ :: mid.desk.agenda.jobs) :=
      Agenda.jobs_waitUntil _ _
    have charges := charges_of_free (debt?_of_isSignal signal) jobs rfl
    exact fun charge member =>
      List.mem_append_right _ ((does.charges sound).mem_iff.mp (charges.mem_iff.mp member))

/-- A turn charges nothing new. -/
theorem turn_charged (sound : Sound [] s) (ready : s.desk.agenda.ready = job :: rest) :
    ∀ charge ∈ (perform job (s.taken rest)).charges, charge ∈ s.charges := by
  obtain ⟨ticket, work⟩ := job
  rcases work.delay_or with ⟨key, span, action, rfl⟩ | starts
  · have first : s.desk.agenda.jobs = ⟨ticket, .delay key span action⟩ :: (s.taken rest).desk.agenda.jobs :=
      Agenda.jobs_of_ready ready
    have jobs : ((s.taken rest).waitFor span ticket (.fire key action)).desk.agenda.jobs.Perm
        (⟨ticket, .fire key action⟩ :: (s.taken rest).desk.agenda.jobs) := Agenda.jobs_waitUntil _ _
    have before : s.charges.Perm (s.taken rest).charges := charges_of_free rfl (.of_eq first) rfl
    have after := charges_of_free rfl jobs rfl
    exact fun charge member => before.mem_iff.mpr (after.mem_iff.mp member)
  · intro charge member
    have charged := (perform_effect sound ready starts).charged (sound.begun ready starts) charge member
    exact (charges_begun sound ready starts).mem_iff.mpr charged

theorem Balanced.mem_charges (balanced : Balanced s) (member : job ∈ s.desk.agenda.jobs)
    (charged : job.work.charge? = some charge) : charge ∈ s.charges :=
  (charges_perm balanced.sound).mem_iff.mpr (List.mem_filterMap.mpr ⟨job, member, charged⟩)

/-- One job at most is charged with a handler. -/
theorem Balanced.one (balanced : Balanced s) (here : job ∈ s.desk.agenda.jobs) (there : other ∈ s.desk.agenda.jobs)
    (charged : job.work.charge? = some charge) (charged' : other.work.charge? = some charge')
    (same : charge.number = charge'.number) : job = other := by
  obtain ⟨owed, ledger⟩ := balanced.ledger
  have distinct := ((charges_perm balanced.sound).map Charge.number).nodup_iff.mp ledger.nodup
  have pairs := List.pairwise_filterMap.mp (List.pairwise_map.mp distinct)
  have symm : Std.Symm fun one two : Job Work => ∀ c, one.work.charge? = some c → ∀ c', two.work.charge? = some c' →
      c.number ≠ c'.number := ⟨fun _ _ differ c own c' own' same => differ c' own' c own same.symm⟩
  by_contra differ
  exact pairs.forall here there differ _ charged _ charged' same

theorem Step.length_le (step : Step s events t) (sound : Sound [] s) : s.invocations.length ≤ t.invocations.length := by
  cases step with
  | receive m =>
    rcases handle_cases sound.own m with ⟨sink, handler, _, started⟩ | ⟨sink, _, refused⟩
    · rw [started]
      show s.invocations.length ≤ (s.invocations ++ [_]).length
      rw [List.length_append]
      exact Nat.le_succ _
    · rw [refused]
  | turn ready => exact Nat.le_of_eq (turn_subsiding sound ready).length.symm
  | wake | pass => exact Nat.le_refl _

/-- A handler stays charged under one id. -/
theorem Step.billed (step : Step s events t) (balanced : Balanced s) (received : number < s.invocations.length)
    (billed : Billed number id s) : Billed number id t := by
  cases step with
  | receive m =>
    rcases handle_cases balanced.sound.own m with ⟨sink, handler, _, started⟩ | ⟨sink, _, refused⟩
    · rw [started]
      have jobs : (invoke m { s with sink } handler).desk.agenda.jobs.Perm
          (⟨s.desk.agenda.issued, .handle s.invocations.length handler m⟩ :: s.desk.agenda.jobs) :=
        Agenda.jobs_spawn _
      intro charge member own
      rcases List.mem_append.mp ((charges_of_jobs (s := s) jobs rfl).mem_iff.mp member) with new | old
      · obtain rfl : charge = ⟨s.invocations.length, handler.owes m⟩ := List.mem_singleton.mp new
        exact absurd own.symm (Nat.ne_of_lt received)
      · exact billed charge old own
    · rw [refused]
      exact billed
  | turn ready => exact fun charge member => billed charge (turn_charged balanced.sound ready charge member)
  | @wake timer rest _ soonest =>
    refine fun charge member => billed charge ?_
    have jobs : (debts (s.desk.agenda.ring timer rest).jobs).Perm (debts s.desk.agenda.jobs) := by
      rw [Agenda.jobs_ring soonest]
    exact (jobs.append_left _).mem_iff.mp member
  | pass => exact billed

end Charging

/-! ## Who shows which token -/

/-- A request shows a signal under a token. -/
def Shows (s : Session) (token : RequestId) (charge : Charge) : Prop :=
  ∃ job ∈ s.lamps, job.work.charge? = some charge ∧ job.work.Shows token

/-- No two requests at work have the same token from their clients. -/
def Distinct (s : Session) : Prop :=
  ∀ job ∈ s.desk.agenda.jobs, ∀ other ∈ s.desk.agenda.jobs, ∀ token, job.work.token? = some token →
    other.work.token? = some token → job.work.charge? = other.work.charge?

/-- The tokens that clients have given for the requests at work differ from each other and from those that sessions
make up, and they can be written. -/
structure Apart (s : Session) : Prop where
  distinct : s.Distinct
  given : ∀ job ∈ s.desk.agenda.jobs, ∀ number, job.work.token? ≠ some (freshToken number)
  whole : ∀ job ∈ s.desk.agenda.jobs, ∀ token, job.work.token? = some token →
    token.toValue.all Value.isEncodable = true

/-- A session in order that shows progress. -/
structure Lighted (s : Session) : Prop where
  balanced : Balanced s
  spinner : s.settings.spinner = true
  mode : s.settings.progressMode = .progress
  lit : Lit s.tokens s.lamps

section Tokens

variable {s t : Session} {job : Job Work} {rest : List (Job Work)} {token token' : RequestId} {charge charge' : Charge}

theorem freshToken_injective {number number' : Nat} (same : freshToken number = freshToken number') :
    number = number' := by
  have texts := congrArg String.toList (RequestId.name.inj same)
  rw [String.toList_append, String.toList_append] at texts
  exact Number.toString_injective (String.toList_injective (List.append_cancel_left texts))

theorem shows_congr (same : ∀ lamp, lamp ∈ t.lamps ↔ lamp ∈ s.lamps) (token : RequestId) (charge : Charge) :
    t.Shows token charge ↔ s.Shows token charge :=
  exists_congr fun lamp => and_congr_left fun _ => same lamp

theorem lamps_of_dark (ready : s.desk.agenda.ready = job :: rest) (dark : job.work.isLamp = false) (lamp : Job Work) :
    lamp ∈ s.lamps ↔ lamp ∈ (s.taken rest).lamps := by
  rw [mem_lamps, mem_lamps, Agenda.jobs_of_ready ready, List.mem_cons]
  refine and_congr_left fun lit => or_iff_right ?_
  rintro rfl
  rw [dark] at lit
  cases lit

theorem lamps_of_lit (ready : s.desk.agenda.ready = job :: rest) (lit : job.work.isLamp = true) (lamp : Job Work) :
    lamp ∈ s.lamps ↔ lamp ∈ job :: (s.taken rest).lamps := by
  rw [List.mem_cons, mem_lamps, mem_lamps, Agenda.jobs_of_ready ready, List.mem_cons, or_and_right]
  refine or_congr_left ⟨And.left, ?_⟩
  rintro rfl
  exact ⟨rfl, lit⟩

/-- A request shows one token at most. -/
theorem Lighted.token_eq (lighted : Lighted s) (shows : s.Shows token charge) (shows' : s.Shows token' charge')
    (same : charge.number = charge'.number) : token = token' := by
  obtain ⟨job, here, charged, active, own, shown⟩ := shows
  obtain ⟨other, there, charged', active', own', shown'⟩ := shows'
  obtain rfl := lighted.balanced.one (mem_lamps.mp here).1 (mem_lamps.mp there).1 charged charged' same
  cases own.symm.trans own'
  exact Option.some.inj (shown.named.symm.trans shown'.named)

/-- A token is shown by one request at most. -/
theorem Lighted.charge_eq (lighted : Lighted s) (shows : s.Shows token charge) (shows' : s.Shows token charge') :
    charge = charge' := by
  obtain ⟨job, here, charged, lit⟩ := shows
  obtain ⟨other, there, charged', lit'⟩ := shows'
  have same := lighted.lit.apart job here other there token lit lit'
  exact Option.some.inj (charged.symm.trans (same.trans charged'))

/-- A request shows nothing while its work is no lamp. -/
theorem Lighted.dark (lighted : Lighted s) (member : job ∈ s.desk.agenda.jobs) (dark : job.work.isLamp = false)
    (charged : job.work.charge? = some charge) (shows : s.Shows token charge') : charge'.number ≠ charge.number := by
  obtain ⟨lamp, there, charged', -⟩ := shows
  obtain ⟨there, lit⟩ := mem_lamps.mp there
  intro same
  obtain rfl := lighted.balanced.one there member charged' charged same
  rw [dark] at lit
  cases lit

/-- The lamp of what is shown names its token. -/
theorem Lighted.names (lighted : Lighted s) (shows : s.Shows token charge) :
    ∃ job ∈ s.desk.agenda.jobs, job.work.charge? = some charge ∧ job.work.isLamp = true ∧
      job.work.Names s.tokens token := by
  obtain ⟨job, here, charged, active, own, shown⟩ := shows
  obtain ⟨token', shown', names⟩ := lighted.lit.shown job here active own
  obtain rfl : token' = token := Option.some.inj (shown'.named.symm.trans shown.named)
  obtain ⟨there, lit⟩ := mem_lamps.mp here
  exact ⟨job, there, charged, lit, names⟩

/-- What is shown can be written. -/
theorem Lighted.whole (lighted : Lighted s) (apart : s.Apart) (shows : s.Shows token charge) :
    token.toValue.all Value.isEncodable = true := by
  obtain ⟨job, there, -, -, given | ⟨-, number, -, rfl⟩⟩ := lighted.names shows
  · exact apart.whole job there token given
  · exact hasHalf_freshToken number

/-- The token of a request that shows nothing yet is shown by no other one. -/
theorem Lighted.free (lighted : Lighted s) (apart : s.Apart) (member : job ∈ s.desk.agenda.jobs)
    (dark : job.work.isLamp = false) (charged : job.work.charge? = some charge)
    (named : job.work.token? = some token ∨ job.work.token? = none ∧ token = freshToken (s.tokens + 1)) :
    ∀ charge', ¬s.Shows token charge' := by
  intro charge' shows
  have other := lighted.dark member dark charged shows
  obtain ⟨lamp, there, charged', -, names⟩ := lighted.names shows
  rcases named with given | ⟨-, rfl⟩ <;> rcases names with given' | ⟨-, number, early, same⟩
  · have same := apart.distinct lamp there job member token given' given
    exact other (congrArg Charge.number (Option.some.inj (charged'.symm.trans (same.trans charged))))
  · exact apart.given job member number (same ▸ given)
  · exact apart.given lamp there _ given'
  · exact absurd (freshToken_injective same) (Nat.ne_of_gt (Nat.lt_succ_of_le early))

end Tokens

/-! ## What turns tell -/

/-- The begin and the end of progress under a token, and a report in between. -/
def beginUnder (token : RequestId) (title : String) : Outbound := .progress ⟨token, .begin_ ⟨title, none, none⟩⟩

@[inherit_doc beginUnder]
def endUnder (token : RequestId) : Outbound := .progress ⟨token, .end_ ⟨none⟩⟩

@[inherit_doc beginUnder]
def reportUnder (token : RequestId) (text : String) : Outbound := .progress ⟨token, .report ⟨some text⟩⟩

/-- What a turn sends of progress, and what it makes of the tokens that are shown. -/
inductive Spins (s : Session) (job : Job Work) (t : Session) : Prop
  /-- It sends no progress, and a request whose turn it is shows nothing. The request comes to its end or says no
  more than the answers to completions that it withdraws. -/
  | calm (plain : ∀ m ∈ (Event.turn s job).sends, m.isProgress = false) (asked : (Event.turn s job).asked = [])
      (other : (Event.turn s job).isChat = false)
      (dark : ∀ charge, job.work.charge? = some charge → ∀ token charge', s.Shows token charge' →
        charge'.number ≠ charge.number)
      (rests : ∀ charge, job.work.charge? = some charge → charge.number ∉ t.unfinished ∨
        ∃ entries, (Event.turn s job).sends = writable (Act.withdrawals entries))
      (same : ∀ token charge, t.Shows token charge ↔ s.Shows token charge)
  /-- A request that shows a token, or a signal, goes on without a word. -/
  | goesOn (silent : (Event.turn s job).sends = [])
      (shown : ∀ charge, job.work.charge? = some charge → ∃ token, s.Shows token charge)
      (same : ∀ token charge, t.Shows token charge ↔ s.Shows token charge)
  /-- A signal reports under the token that its request shows. -/
  | ticks {token : RequestId} {charge : Charge} {text : String} (free : job.work.charge? = none)
      (shown : s.Shows token charge) (sends : (Event.turn s job).sends = [reportUnder token text])
      (same : ∀ token charge, t.Shows token charge ↔ s.Shows token charge)
  /-- A request begins to show a token. -/
  | begins {charge : Charge} {token : RequestId} {title : String} {announced : List Outbound}
      (charged : job.work.charge? = some charge) (reaches : s.Reaches job)
      (dark : ∀ token charge', s.Shows token charge' → charge'.number ≠ charge.number)
      (free : ∀ charge', ¬s.Shows token charge') (announces : ∀ m ∈ announced, ∃ id, m = .createProgress id token)
      (sends : (Event.turn s job).sends = announced ++ [beginUnder token title])
      (shows : ∀ token' charge', t.Shows token' charge' ↔
        token' = token ∧ charge' = charge ∨ s.Shows token' charge')
  /-- A request shows a token and ceases to at once. -/
  | flashes {charge : Charge} {token : RequestId} {title : String} {announced said : List Outbound}
      {value : Json.Value} (charged : job.work.charge? = some charge) (reaches : s.Reaches job)
      (dark : ∀ token charge', s.Shows token charge' → charge'.number ≠ charge.number)
      (free : ∀ charge', ¬s.Shows token charge') (announces : ∀ m ∈ announced, ∃ id, m = .createProgress id token)
      (sends : (Event.turn s job).sends =
        announced ++ beginUnder token title :: endUnder token :: writable (said ++ [.response charge.id value]))
      (plain : ∀ m ∈ said, m.isProgress = false) (gone : charge.number ∉ t.unfinished)
      (same : ∀ token charge, t.Shows token charge ↔ s.Shows token charge)
  /-- A request ceases to show its token. -/
  | ends {charge : Charge} {token : RequestId} {said : List Outbound} {value : Json.Value}
      (charged : job.work.charge? = some charge) (shown : s.Shows token charge)
      (sends : (Event.turn s job).sends = endUnder token :: writable (said ++ [.response charge.id value]))
      (plain : ∀ m ∈ said, m.isProgress = false) (gone : charge.number ∉ t.unfinished)
      (shows : ∀ token' charge', t.Shows token' charge' ↔ s.Shows token' charge' ∧ token' ≠ token)

section Turns

variable {s t : Session} {job : Job Work} {rest : List (Job Work)} {token : RequestId} {announced : List Outbound}

theorem writable_append (first later : List Outbound) : writable (first ++ later) = writable first ++ writable later :=
  List.filter_append ..

theorem writable_cons {m : Outbound} (written : m.encodeFault? = none) (later : List Outbound) :
    writable (m :: later) = m :: writable later :=
  List.filter_cons_of_pos (by rw [written]; rfl)

theorem writable_announced (whole : token.toValue.all Value.isEncodable = true)
    (announces : ∀ m ∈ announced, ∃ id, m = .createProgress id token) : writable announced = announced := by
  refine List.filter_eq_self.mpr fun m member => ?_
  obtain ⟨id, rfl⟩ := announces m member
  rw [encodeFault?_createProgress id whole]
  rfl

theorem beginUnder_written (whole : token.toValue.all Value.isEncodable = true) {title : String}
    (readable : hasHalf title.toList = false) : (beginUnder token title).encodeFault? = none :=
  @Channel.opening_written (.progress token title)
    (Bool.and_eq_true_iff.mpr ⟨whole, by rw [readable]; rfl⟩) _ (List.mem_singleton_self _)

theorem endUnder_written (whole : token.toValue.all Value.isEncodable = true) : (endUnder token).encodeFault? = none :=
  @Channel.closing_written (.progress token "") (Bool.and_eq_true_iff.mpr ⟨whole, rfl⟩)

theorem reportUnder_written (whole : token.toValue.all Value.isEncodable = true) {text : String}
    (readable : hasHalf text.toList = false) : (reportUnder token text).encodeFault? = none :=
  @Channel.update_written (.progress token "") (Bool.and_eq_true_iff.mpr ⟨whole, rfl⟩) _ readable

/-- The name of a token that a request gets. -/
theorem Lighted.named (lighted : Lighted s) (apart : s.Apart) (member : job ∈ s.desk.agenda.jobs)
    (dark : job.work.isLamp = false) {charge : Charge} (charged : job.work.charge? = some charge)
    (named : job.work.token? = some token ∧ t.tokens = s.tokens ∨
      job.work.token? = none ∧ token = freshToken (s.tokens + 1) ∧ t.tokens = s.tokens + 1) :
    (∀ charge', ¬s.Shows token charge') ∧ token.toValue.all Value.isEncodable = true ∧ s.tokens ≤ t.tokens ∧
      job.work.Names t.tokens token := by
  rcases named with ⟨given, same⟩ | ⟨none, rfl, more⟩
  · exact ⟨lighted.free apart member dark charged (.inl given), apart.whole job member token given,
      Nat.le_of_eq same.symm, .inl given⟩
  · exact ⟨lighted.free apart member dark charged (.inr ⟨none, rfl⟩), hasHalf_freshToken _,
      more ▸ Nat.le_succ _, .inr ⟨none, _, Nat.le_of_eq more.symm, rfl⟩⟩

/-- Whoever shows a token bears a charge. -/
theorem Work.charge_of_active? {work : Work} {active : ActiveSignal} (shows : work.active? = some active) :
    ∃ charge, work.charge? = some charge := by
  cases work <;> first | exact ⟨_, rfl⟩ | cases shows

theorem Lighted.shows (lighted : Lighted s) {lamp : Job Work} (member : lamp ∈ s.lamps) {active : ActiveSignal}
    (own : lamp.work.active? = some active) :
    ∃ token charge, active.ShownAs token ∧ lamp.work.charge? = some charge ∧ s.Shows token charge := by
  obtain ⟨token, shown, -⟩ := lighted.lit.shown lamp member active own
  obtain ⟨charge, charged⟩ := Work.charge_of_active? own
  exact ⟨token, charge, shown, charged, lamp, member, charged, active, own, shown⟩

/-- The tick of a signal reports under the token of its request. -/
theorem Lighted.ticks (lighted : Lighted s) (member : job ∈ s.lamps) {signal : Signal}
    (own : job.work.signal? = some signal) (text : String) :
    ∃ token charge, s.Shows token charge ∧ s.tickMessages signal text = [reportUnder token text] := by
  obtain ⟨holder, there, ticking, active, -⟩ := lighted.lit.held job member signal own
  obtain ⟨token, charge, ⟨mode, named, -⟩, -, shows⟩ := lighted.shows there active
  refine ⟨token, charge, shows, ?_⟩
  rw [tickMessages, mode, named]
  rfl

/-- The ticket of a signal that is shown is that of its own work alone. -/
theorem Sound.ofSignal (sound : Sound [] s) (member : job ∈ s.desk.agenda.jobs) {active : ActiveSignal}
    (own : job.work.active? = some active) {ticking : Ticking} (running : active.ticking = some ticking) :
    OfSignal [] s ticking.ticket := by
  refine sound.stops job member ticking.ticket ?_
  rw [Work.stops?, own, Option.bind_some, running]
  rfl

/-- After a turn every signal is shown under a token of its own again. -/
theorem Shifts.lit (shifts : Shifts s job rest t) (lighted : Lighted s) (apart : s.Apart)
    (ready : s.desk.agenda.ready = job :: rest) : Lit t.tokens t.lamps := by
  have first : job ∈ s.desk.agenda.jobs := by
    rw [Agenda.jobs_of_ready ready]
    exact List.mem_cons_self ..
  cases shifts with
  | calm dark _ _ _ tokens lamps =>
    exact lighted.lit.congr (Nat.le_of_eq tokens.symm) fun lamp =>
      (lamps lamp).trans (lamps_of_dark ready dark lamp).symm
  | @goesOn number next lit active charge given own ticket _ tokens lamps =>
    have before : Lit s.tokens (job :: (s.taken rest).lamps) :=
      lighted.lit.congr (Nat.le_refl _) fun lamp => (lamps_of_lit ready lit lamp).symm
    refine (before.goesOn active charge given own ticket).congr (Nat.le_of_eq tokens.symm) fun lamp => ?_
    rw [lamps, List.mem_cons]
  | @begins number next charge signal ticking token _ _ dark _ charged active charge' given shown named _ _ _ lamps =>
    obtain ⟨free, -, le, names⟩ := lighted.named apart first dark charged named
    have before : Lit s.tokens (s.taken rest).lamps :=
      lighted.lit.congr (Nat.le_refl _) fun lamp => (lamps_of_dark ready dark lamp).symm
    rw [Work.Names, ← given] at names
    have after : Lit t.tokens (⟨number, next⟩ :: ⟨ticking.ticket, .animate signal⟩ :: (s.taken rest).lamps) := by
      refine before.light le active shown names fun other there shows => ?_
      obtain ⟨active', own, -⟩ := id shows
      obtain ⟨charge'', charged''⟩ := Work.charge_of_active? own
      exact free charge'' ⟨other, (lamps_of_dark ready dark other).mpr there, charged'', shows⟩
    refine after.congr (Nat.le_refl _) fun lamp => ?_
    rw [lamps, List.mem_cons, List.mem_cons]
  | flashes dark _ charged named _ _ _ _ _ lamps =>
    obtain ⟨-, -, le, -⟩ := lighted.named apart first dark charged named
    exact lighted.lit.congr le fun lamp => (lamps lamp).trans (lamps_of_dark ready dark lamp).symm
  | @ends charge active ticking token said value own charged shown running _ _ _ tokens lamps =>
    have before : Lit s.tokens (job :: (s.taken rest).lamps) :=
      lighted.lit.congr (Nat.le_refl _) fun lamp => (lamps_of_lit ready (Work.isLamp_of_active? own) lamp).symm
    have owned := lighted.balanced.sound.ofSignal first own running
    obtain ⟨signal, _⟩ := active
    obtain rfl := running
    refine (before.putOut own fun other there => owned.signal other ?_).congr (Nat.le_of_eq tokens.symm) fun lamp => ?_
    · have lit := (lamps_of_lit ready (Work.isLamp_of_active? own) other).mpr (List.mem_cons_of_mem _ there)
      exact (mem_lamps.mp lit).1
    · rw [lamps, List.mem_filter, bne_iff_ne]

section Showing

variable {number : Nat} {next : Work} {active : ActiveSignal} {signal : Signal} {ticking : Ticking} {charge : Charge}

/-- What goes on shows what it showed before. -/
theorem shows_of_next (ready : s.desk.agenda.ready = job :: rest) (lit : job.work.isLamp = true)
    (active : next.active? = job.work.active?) (charge : next.charge? = job.work.charge?)
    (lamps : ∀ lamp, lamp ∈ t.lamps ↔ lamp = ⟨number, next⟩ ∨ lamp ∈ (s.taken rest).lamps) (token : RequestId)
    (bearer : Charge) : t.Shows token bearer ↔ s.Shows token bearer := by
  constructor
  · rintro ⟨lamp, member, charged, shows⟩
    rcases (lamps lamp).mp member with rfl | there
    · refine ⟨job, (lamps_of_lit ready lit job).mpr (List.mem_cons_self ..), charge.symm.trans charged, ?_⟩
      rw [Work.Shows, ← active]
      exact shows
    · exact ⟨lamp, (lamps_of_lit ready lit lamp).mpr (List.mem_cons_of_mem _ there), charged, shows⟩
  · rintro ⟨lamp, member, charged, shows⟩
    rcases List.mem_cons.mp ((lamps_of_lit ready lit lamp).mp member) with rfl | there
    · refine ⟨⟨number, next⟩, (lamps _).mpr (.inl rfl), charge.trans charged, ?_⟩
      rw [Work.Shows, active]
      exact shows
    · exact ⟨lamp, (lamps lamp).mpr (.inr there), charged, shows⟩

/-- A request that is lit shows its token besides those that were shown before. -/
theorem shows_of_lit (ready : s.desk.agenda.ready = job :: rest) (dark : job.work.isLamp = false)
    (active : next.active? = some ⟨signal, some ticking⟩) (charged : next.charge? = some charge)
    (shown : ActiveSignal.ShownAs token ⟨signal, some ticking⟩)
    (lamps : ∀ lamp, lamp ∈ t.lamps ↔
      lamp = ⟨number, next⟩ ∨ lamp = ⟨ticking.ticket, .animate signal⟩ ∨ lamp ∈ (s.taken rest).lamps)
    (other : RequestId) (bearer : Charge) :
    t.Shows other bearer ↔ other = token ∧ bearer = charge ∨ s.Shows other bearer := by
  constructor
  · rintro ⟨lamp, member, charged', active', own, shown'⟩
    rcases (lamps lamp).mp member with rfl | rfl | there
    · cases active.symm.trans own
      cases charged.symm.trans charged'
      exact .inl ⟨Option.some.inj (shown'.named.symm.trans shown.named), rfl⟩
    · cases own
    · exact .inr ⟨lamp, (lamps_of_dark ready dark lamp).mpr there, charged', active', own, shown'⟩
  · rintro (⟨rfl, rfl⟩ | ⟨lamp, member, shows⟩)
    · exact ⟨⟨number, next⟩, (lamps _).mpr (.inl rfl), charged, _, active, shown⟩
    · exact ⟨lamp, (lamps lamp).mpr (.inr (.inr ((lamps_of_dark ready dark lamp).mp member))), shows⟩

/-- A request that stops its signal shows its token no more. -/
theorem Lighted.shows_of_out (lighted : Lighted s) (ready : s.desk.agenda.ready = job :: rest)
    (own : job.work.active? = some active) (charged : job.work.charge? = some charge) (shown : active.ShownAs token)
    (running : active.ticking = some ticking)
    (lamps : ∀ lamp, lamp ∈ t.lamps ↔ lamp ∈ (s.taken rest).lamps ∧ lamp.ticket ≠ ticking.ticket)
    (other : RequestId) (bearer : Charge) : t.Shows other bearer ↔ s.Shows other bearer ∧ other ≠ token := by
  have lit : job.work.isLamp = true := Work.isLamp_of_active? own
  have first : job ∈ s.lamps := (lamps_of_lit ready lit job).mpr (List.mem_cons_self ..)
  have owned := lighted.balanced.sound.ofSignal (mem_lamps.mp first).1 own running
  constructor
  · rintro ⟨lamp, member, charged', shows⟩
    obtain ⟨there, -⟩ := (lamps lamp).mp member
    have before : s.Shows other bearer :=
      ⟨lamp, (lamps_of_lit ready lit lamp).mpr (List.mem_cons_of_mem _ there), charged', shows⟩
    refine ⟨before, ?_⟩
    rintro rfl
    obtain rfl := lighted.charge_eq before ⟨job, first, charged, active, own, shown⟩
    obtain ⟨owed, ledger⟩ := lighted.balanced.ledger
    exact ledger.alone lighted.balanced.sound ready charged (mem_lamps.mp there).1 charged' rfl
  · rintro ⟨⟨lamp, member, charged', active', own', shown'⟩, differs⟩
    rcases List.mem_cons.mp ((lamps_of_lit ready lit lamp).mp member) with rfl | there
    · cases own.symm.trans own'
      exact absurd (Option.some.inj (shown'.named.symm.trans shown.named)) differs
    · refine ⟨lamp, (lamps lamp).mpr ⟨there, fun same => ?_⟩, charged', active', own', shown'⟩
      rw [Work.active?_of_isSignal (owned.signal lamp (mem_lamps.mp member).1 same)] at own'
      cases own'

end Showing

/-- What a turn does to the lamps shows in the tokens and in what is sent. -/
theorem Shifts.spins (shifts : Shifts s job rest t) (lighted : Lighted s) (apart : s.Apart)
    (ready : s.desk.agenda.ready = job :: rest) : Spins s job t := by
  have first : job ∈ s.desk.agenda.jobs := by
    rw [Agenda.jobs_of_ready ready]
    exact List.mem_cons_self ..
  have sends {gives : List Outbound} (same : (Event.turn s job).gives = gives) :
      (Event.turn s job).sends = writable gives := congrArg writable same
  cases shifts with
  | calm dark plain asked rests _ lamps =>
    refine .calm (fun m member => plain m (List.mem_filter.mp member).1) asked ?_
      (fun charge charged token charge' => lighted.dark first dark charged)
      (fun charge charged => (rests charge charged).imp_right fun ⟨entries, own⟩ => ⟨entries, sends own⟩)
      (shows_congr fun lamp => (lamps lamp).trans (lamps_of_dark ready dark lamp).symm)
    obtain ⟨ticket, work⟩ := job
    cases work <;> first | rfl | cases dark
  | @goesOn number next lit active charge _ own _ gives _ lamps =>
    have same := shows_of_next ready lit active charge lamps
    have member : job ∈ s.lamps := mem_lamps.mpr ⟨first, lit⟩
    rcases gives with silent | ⟨signal, since, now, frame, ticking, told⟩
    · refine .goesOn (sends silent) (fun charge charged => ?_) same
      obtain ⟨active', own'⟩ : ∃ active, job.work.active? = some active := by
        refine Option.isSome_iff_exists.mp ((Bool.or_eq_true_iff.mp lit).resolve_right fun signal => ?_)
        rw [charge?_of_isSignal signal] at charged
        cases charged
      obtain ⟨token, charge', -, charged', shows⟩ := lighted.shows member own'
      cases charged.symm.trans charged'
      exact ⟨token, shows⟩
    · obtain ⟨token, charge', shows, reports⟩ := lighted.ticks member ticking (tickText since now frame)
      have free : job.work.charge? = none := by
        obtain ⟨ticket, work⟩ := job
        cases work <;> first | rfl | cases ticking
      have report : (Event.turn s job).sends = [reportUnder token (tickText since now frame)] := by
        rw [sends told, reports]
        exact writable_cons (reportUnder_written (lighted.whole apart shows) (hasHalf_tickText ..)) []
      exact .ticks free shows report same
  | @begins _ _ _ _ _ token title announced dark reaches charged active charge' _ shown named announces whole gives
      lamps =>
    obtain ⟨free, name, -, -⟩ := lighted.named apart first dark charged named
    have told : (Event.turn s job).sends = announced ++ [beginUnder token title] := by
      rw [sends gives, writable_append, writable_announced name announces]
      exact congrArg _ (writable_cons (beginUnder_written name whole) [])
    exact .begins charged reaches (fun token charge' => lighted.dark first dark charged) free announces told
      (shows_of_lit ready dark active charge' shown lamps)
  | @flashes charge token title announced said value dark reaches charged named announces whole gives plain gone
      lamps =>
    obtain ⟨free, name, -, -⟩ := lighted.named apart first dark charged named
    have told : (Event.turn s job).sends =
        announced ++ beginUnder token title :: endUnder token :: writable (said ++ [.response charge.id value]) := by
      rw [sends gives, writable_append, writable_announced name announces]
      refine congrArg _ ((writable_cons (beginUnder_written name whole) _).trans (congrArg _ ?_))
      exact writable_cons (endUnder_written name) _
    exact .flashes charged reaches (fun token charge' => lighted.dark first dark charged) free announces told plain gone
      (shows_congr fun lamp => (lamps lamp).trans (lamps_of_dark ready dark lamp).symm)
  | @ends charge active ticking token said value own charged shown running gives plain gone _ lamps =>
    have member : job ∈ s.lamps := mem_lamps.mpr ⟨first, Work.isLamp_of_active? own⟩
    have showing : s.Shows token charge := ⟨job, member, charged, active, own, shown⟩
    have told : (Event.turn s job).sends = endUnder token :: writable (said ++ [.response charge.id value]) := by
      rw [sends gives]
      exact writable_cons (endUnder_written (lighted.whole apart showing)) _
    exact .ends charged showing told plain gone (lighted.shows_of_out ready own charged shown running lamps)

end Turns

/-! ## What steps tell -/

/-- What a step does that takes no turn: nothing is told of progress, and the lamps are left alone. -/
structure Still (s : Session) (events : List Event) (t : Session) : Prop where
  plain : ∀ e ∈ events, ∀ m ∈ e.sends, m.isProgress = false
  nobody : ∀ e ∈ events, ∀ number, e.isBy number = false
  tokens : t.tokens = s.tokens
  lamps : ∀ lamp, lamp ∈ t.lamps ↔ lamp ∈ s.lamps

section Steps

variable {s t : Session} {events : List Event}

theorem Still.handle (sound : Sound [] s) (m : Message) : Still s [.received m] (s.handle m) := by
  have plain : ∀ e ∈ [Event.received m], ∀ m ∈ e.sends, m.isProgress = false := by
    intro e member other sent
    rw [List.mem_singleton.mp member] at sent
    have given := (List.mem_filter.mp sent).1
    rw [Event.gives] at given
    split at given
    · cases given
    · unfold unknown at given
      split at given
      · rw [List.mem_singleton.mp given]
        rfl
      · cases given
  have nobody : ∀ e ∈ [Event.received m], ∀ number, e.isBy number = false := by
    intro e member number
    rw [List.mem_singleton.mp member]
    rfl
  rcases handle_cases sound.own m with ⟨sink, handler, _, started⟩ | ⟨sink, _, refused⟩
  · rw [started]
    refine ⟨plain, nobody, rfl, fun lamp => ?_⟩
    have jobs : (invoke m { s with sink } handler).desk.agenda.jobs.Perm
        (⟨s.desk.agenda.issued, .handle s.invocations.length handler m⟩ :: s.desk.agenda.jobs) :=
      Agenda.jobs_spawn _
    rw [mem_lamps, mem_lamps, jobs.mem_iff, List.mem_cons]
    refine and_congr_left fun lit => or_iff_right ?_
    rintro rfl
    cases lit
  · rw [refused]
    exact ⟨plain, nobody, rfl, fun lamp => Iff.rfl⟩

/-- Where nothing happens, the lamps are left alone. -/
theorem Still.nothing (tokens : t.tokens = s.tokens) (lamps : ∀ lamp, lamp ∈ t.lamps ↔ lamp ∈ s.lamps) :
    Still s [] t :=
  ⟨fun _ member => absurd member List.not_mem_nil, fun _ member => absurd member List.not_mem_nil, tokens, lamps⟩

/-- A step takes a turn or leaves the signals alone. -/
theorem Step.still_or (step : Step s events t) (sound : Sound [] s) :
    Still s events t ∨ ∃ job rest, s.desk.agenda.ready = job :: rest ∧ events = [.turn s job] ∧
      t = perform job (s.taken rest) := by
  cases step with
  | receive m => exact .inl (.handle sound m)
  | turn ready => exact .inr ⟨_, _, ready, rfl, rfl⟩
  | @wake timer rest _ soonest =>
    refine .inl (.nothing rfl fun lamp => ?_)
    have jobs : lamp ∈ (s.desk.agenda.ring timer rest).jobs ↔ lamp ∈ s.desk.agenda.jobs := by
      rw [Agenda.jobs_ring soonest]
    rw [mem_lamps, mem_lamps]
    exact and_congr_left fun _ => jobs
  | pass => exact .inl (.nothing rfl fun lamp => Iff.rfl)

/-- A step keeps a session lighted, and its turn does to the tokens what turns do. -/
theorem Step.spins (step : Step s events t) (lighted : Lighted s) (apart : ∀ u job, .turn u job ∈ events → u.Apart) :
    Lighted t ∧ (Still s events t ∨ ∃ job ∈ s.desk.agenda.jobs, events = [.turn s job] ∧ Spins s job t) := by
  have balanced := step.balanced lighted.balanced
  have settings := step.settings lighted.balanced.sound
  have spinner := (congrArg Settings.spinner settings).trans lighted.spinner
  have mode := (congrArg Settings.progressMode settings).trans lighted.mode
  rcases step.still_or lighted.balanced.sound with still | ⟨job, rest, ready, rfl, rfl⟩
  · exact ⟨⟨balanced, spinner, mode, lighted.lit.congr (Nat.le_of_eq still.tokens.symm) still.lamps⟩, .inl still⟩
  · have own := apart s job (List.mem_singleton_self _)
    have first : job ∈ s.desk.agenda.jobs := by
      rw [Agenda.jobs_of_ready ready]
      exact List.mem_cons_self ..
    have shifts : Shifts s job rest (perform job (s.taken rest)) := by
      refine turn_shifts lighted.balanced.sound ready lighted.spinner lighted.mode fun active shows => ?_
      obtain ⟨token, -, shown, -⟩ := lighted.shows (mem_lamps.mpr ⟨first, Work.isLamp_of_active? shows⟩) shows
      exact ⟨token, shown⟩
    exact ⟨⟨balanced, spinner, mode, shifts.lit lighted own ready⟩,
      .inr ⟨job, first, rfl, shifts.spins lighted own ready⟩⟩

theorem Lighted.start {settings : Settings} (registry : Registry) (sink : Sink) (spinner : settings.spinner = true)
    (mode : settings.progressMode = .progress) : Lighted (Session.start settings registry sink) where
  balanced := .start settings registry sink
  spinner
  mode
  lit := ⟨fun _ member => absurd member List.not_mem_nil, fun _ member => absurd member List.not_mem_nil,
    fun _ member => absurd member List.not_mem_nil⟩

end Steps

end EditorAssist.Session

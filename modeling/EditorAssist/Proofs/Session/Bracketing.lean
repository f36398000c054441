import EditorAssist.Proofs.Session.Tokens

/-!
# The progress of requests is bracketed

In a session that shows progress every request that reaches a backend tells under one token that it begins and that
it ends, and between the two come all reports under that token, however many requests are at work at once. What the
request itself says comes after its end.
-/

namespace EditorAssist.Session

open EditorAssist.Backend EditorAssist.Debounce EditorAssist.Journal EditorAssist.Json EditorAssist.Payload
open EditorAssist.Settings EditorAssist.Text EditorAssist.Time EditorAssist.Wire

/-! ## Progress under a token -/

/-- The progress that some messages tell under a token. -/
def progressFor (token : RequestId) (messages : List Outbound) : List ProgressValue :=
  messages.filterMap fun
    | .progress told => if told.token = token then some told.value else none
    | _ => none

/-- Reports of some texts. -/
def reports (texts : List String) : List ProgressValue := texts.map fun text => .report ⟨some text⟩

/-- What the turns of a handler send. -/
def sendsBy (number : Nat) (events : List Event) : List Outbound :=
  (events.filter (·.isBy number)).flatMap Event.sends

/-- Progress that begins and ends by turns, with reports between. -/
inductive InBrackets : Bool → List ProgressValue → Bool → Prop
  | nil (isOpen : Bool) : InBrackets isOpen [] isOpen
  | begins {title : String} {later : List ProgressValue} {isOpen : Bool} (rest : InBrackets true later isOpen) :
      InBrackets false (.begin_ ⟨title, none, none⟩ :: later) isOpen
  | reports {text : String} {later : List ProgressValue} {isOpen : Bool} (rest : InBrackets true later isOpen) :
      InBrackets true (.report ⟨some text⟩ :: later) isOpen
  | ends {later : List ProgressValue} {isOpen : Bool} (rest : InBrackets false later isOpen) :
      InBrackets true (.end_ ⟨none⟩ :: later) isOpen

section Values

variable {token token' : RequestId} {first later : List Outbound} {value : ProgressValue} {number : Nat}
  {events : List Event} {e : Event}

theorem InBrackets.append {a b c : Bool} {earlier more : List ProgressValue} (before : InBrackets a earlier b)
    (after : InBrackets b more c) : InBrackets a (earlier ++ more) c := by
  induction before with
  | nil => exact after
  | begins _ ih => exact .begins (ih after)
  | reports _ ih => exact .reports (ih after)
  | ends _ ih => exact .ends (ih after)

theorem progressFor_append (token : RequestId) (first later : List Outbound) :
    progressFor token (first ++ later) = progressFor token first ++ progressFor token later :=
  List.filterMap_append

theorem progressFor_own (token : RequestId) (value : ProgressValue) (later : List Outbound) :
    progressFor token (.progress ⟨token, value⟩ :: later) = value :: progressFor token later :=
  List.filterMap_cons_some (if_pos rfl)

theorem progressFor_other (differs : token' ≠ token) (value : ProgressValue) (later : List Outbound) :
    progressFor token (.progress ⟨token', value⟩ :: later) = progressFor token later :=
  List.filterMap_cons_none (if_neg differs)

theorem progressFor_of_plain (plain : ∀ m ∈ later, m.isProgress = false) : progressFor token later = [] := by
  refine List.filterMap_eq_nil_iff.mpr fun m member => ?_
  have other := plain m member
  cases m <;> first | rfl | cases other

theorem progressFor_announced {announced : List Outbound}
    (announces : ∀ m ∈ announced, ∃ id, m = .createProgress id token') : progressFor token announced = [] := by
  refine List.filterMap_eq_nil_iff.mpr fun m member => ?_
  obtain ⟨id, rfl⟩ := announces m member
  rfl

/-- An answer and what is said before it tell nothing of progress. -/
theorem progressFor_answer {said : List Outbound} (plain : ∀ m ∈ said, m.isProgress = false) (id : Option RequestId)
    (value : Json.Value) : progressFor token (writable (said ++ [.response id value])) = [] := by
  refine progressFor_of_plain fun m member => ?_
  rcases List.mem_append.mp (List.mem_filter.mp member).1 with there | last
  · exact plain m there
  · rw [List.mem_singleton.mp last]
    rfl

theorem sendsBy_append (number : Nat) (first later : List Event) :
    sendsBy number (first ++ later) = sendsBy number first ++ sendsBy number later := by
  rw [sendsBy, List.filter_append, List.flatMap_append]
  rfl

theorem sendsBy_of_nobody (nobody : ∀ e ∈ events, e.isBy number = false) : sendsBy number events = [] := by
  have none : events.filter (·.isBy number) = [] :=
    List.filter_eq_nil_iff.mpr fun e member => by simp [nobody e member]
  rw [sendsBy, none]
  rfl

theorem sendsBy_own (own : e.isBy number = true) : sendsBy number [e] = e.sends := by
  rw [sendsBy, List.filter_cons_of_pos own]
  exact List.append_nil _

theorem sendsBy_silent (silent : e.sends = []) : sendsBy number [e] = [] := by
  rw [sendsBy]
  refine List.flatMap_eq_nil_iff.mpr fun other member => ?_
  rw [List.mem_singleton.mp (List.mem_filter.mp member).1, silent]

theorem isBy_turn {s : Session} {job : Job Work} :
    (Event.turn s job).isBy number = true ↔ ∃ charge, job.work.charge? = some charge ∧ charge.number = number := by
  rw [Event.isBy, beq_iff_eq, Option.map_eq_some_iff]

/-- A turn of one request is none of another. -/
theorem sendsBy_other {s : Session} {job : Job Work} {charge : Charge} (charged : job.work.charge? = some charge)
    (differs : charge.number ≠ number) : sendsBy number [.turn s job] = [] := by
  refine sendsBy_of_nobody fun e member => Bool.eq_false_iff.mpr fun own => ?_
  rw [List.mem_singleton.mp member] at own
  obtain ⟨charge', charged', same⟩ := isBy_turn.mp own
  cases charged.symm.trans charged'
  exact differs same

end Values

/-! ## Steps -/

section Steps

variable {s t : Session} {events : List Event} {token : RequestId} {charge : Charge} {number : Nat}

theorem Still.shows (still : Still s events t) (token : RequestId) (charge : Charge) :
    t.Shows token charge ↔ s.Shows token charge := shows_congr still.lamps token charge

theorem Still.progressFor (still : Still s events t) (token : RequestId) :
    progressFor token (events.flatMap Event.sends) = [] := by
  refine progressFor_of_plain fun m member => ?_
  obtain ⟨e, there, sent⟩ := List.mem_flatMap.mp member
  exact still.plain e there m sent

/-- While a request shows a token, a step tells reports under it at most and nothing by the request. Or the request
tells the end before anything else, and comes to its own. -/
theorem Step.underway (step : Step s events t) (lighted : Lighted s) (apart : ∀ u job, .turn u job ∈ events → u.Apart)
    (shows : s.Shows token charge) :
    (t.Shows token charge ∧ (∃ texts, progressFor token (events.flatMap Event.sends) = reports texts) ∧
        sendsBy charge.number events = []) ∨
      ∃ said value, (∀ m ∈ said, m.isProgress = false) ∧
        progressFor token (events.flatMap Event.sends) = [.end_ ⟨none⟩] ∧
        sendsBy charge.number events = endUnder token :: writable (said ++ [.response charge.id value]) ∧
        charge.number ∉ t.unfinished := by
  obtain ⟨-, still | ⟨job, -, rfl, spins⟩⟩ := step.spins lighted apart
  · exact .inl ⟨(still.shows token charge).mpr shows, ⟨[], still.progressFor token⟩,
      sendsBy_of_nobody fun e member => still.nobody e member _⟩
  rw [List.flatMap_singleton]
  cases spins with
  | calm plain _ _ dark _ same =>
    refine .inl ⟨(same token charge).mpr shows, ⟨[], progressFor_of_plain plain⟩, sendsBy_of_nobody fun e member => ?_⟩
    refine Bool.eq_false_iff.mpr fun own => ?_
    rw [List.mem_singleton.mp member] at own
    obtain ⟨charge', charged, number⟩ := isBy_turn.mp own
    exact dark charge' charged token charge shows number.symm
  | goesOn silent _ same =>
    refine .inl ⟨(same token charge).mpr shows, ⟨[], ?_⟩, sendsBy_silent silent⟩
    rw [silent]
    rfl
  | @ticks token' _ text free _ sends same =>
    refine .inl ⟨(same token charge).mpr shows, ?_, sendsBy_of_nobody fun e member => ?_⟩
    · rw [sends, reportUnder]
      by_cases own : token' = token
      · subst own
        exact ⟨[text], progressFor_own ..⟩
      · exact ⟨[], progressFor_other own ..⟩
    · rw [List.mem_singleton.mp member, Event.isBy, free]
      rfl
  | @begins charge' token' title announced charged _ dark free announces sends told =>
    have differs : token' ≠ token := fun same => free charge (same ▸ shows)
    refine .inl ⟨(told token charge).mpr (.inr shows), ⟨[], ?_⟩, sendsBy_other charged (dark token charge shows).symm⟩
    rw [sends, progressFor_append, progressFor_announced announces, beginUnder, progressFor_other differs]
    rfl
  | @flashes charge' token' title announced said value charged _ dark free announces sends plain _ same =>
    have differs : token' ≠ token := fun same => free charge (same ▸ shows)
    refine .inl ⟨(same token charge).mpr shows, ⟨[], ?_⟩, sendsBy_other charged (dark token charge shows).symm⟩
    rw [sends, progressFor_append, progressFor_announced announces, beginUnder, progressFor_other differs, endUnder,
      progressFor_other differs]
    exact progressFor_answer plain ..
  | @ends charge' token' said value charged shown sends plain gone told =>
    by_cases own : token' = token
    · subst own
      obtain rfl := lighted.charge_eq shown shows
      refine .inr ⟨said, value, plain, ?_, (sendsBy_own (isBy_turn.mpr ⟨_, charged, rfl⟩)).trans sends, gone⟩
      rw [sends, endUnder, progressFor_own, progressFor_answer plain ..]
    · have other : charge'.number ≠ charge.number := fun same => own (lighted.token_eq shown shows same)
      refine .inl ⟨(told token charge).mpr ⟨shows, Ne.symm own⟩, ⟨[], ?_⟩, sendsBy_other charged other⟩
      rw [sends, endUnder, progressFor_other own]
      exact progressFor_answer plain ..

/-- A request shows no token. -/
def Unshown (s : Session) (number : Nat) : Prop :=
  ∀ token charge, s.Shows token charge → charge.number ≠ number

/-- An event in which no backend is reached, and nothing is told of progress. -/
structure Event.Idles (e : Event) : Prop where
  asked : e.asked = []
  other : e.isChat = false
  plain : ∀ m ∈ e.sends, m.isProgress = false

/-- What a turn of a request says before it reaches a backend: other completions are answered that it withdraws. -/
def Event.Withdraws (e : Event) : Prop := ∃ entries, e.sends = writable (Act.withdrawals entries)

/-- A request reaches a backend in some events of a session. -/
def ReachedIn (number : Nat) (events : List Event) : Prop :=
  ∃ s job, .turn s job ∈ events ∧ (Event.turn s job).isBy number = true ∧ s.Reaches job

/-- What a step tells in which a request tells that it begins. -/
inductive Opening (number : Nat) (s : Session) (events : List Event) (t : Session) : Prop
  /-- It begins. -/
  | begins {charge : Charge} {token : RequestId} {title : String} {announced : List Outbound}
      (reached : ReachedIn number events) (there : charge ∈ s.charges) (same : charge.number = number)
      (announces : ∀ m ∈ announced, ∃ id, m = .createProgress id token)
      (values : progressFor token (events.flatMap Event.sends) = [.begin_ ⟨title, none, none⟩])
      (sends : sendsBy number events = announced ++ [beginUnder token title]) (shows : t.Shows token charge) :
      Opening number s events t
  /-- It begins and ends. -/
  | flashes {charge : Charge} {token : RequestId} {title : String} {announced said : List Outbound}
      {value : Json.Value} (reached : ReachedIn number events) (there : charge ∈ s.charges)
      (same : charge.number = number) (announces : ∀ m ∈ announced, ∃ id, m = .createProgress id token)
      (values : progressFor token (events.flatMap Event.sends) = [.begin_ ⟨title, none, none⟩, .end_ ⟨none⟩])
      (sends : sendsBy number events =
        announced ++ beginUnder token title :: endUnder token :: writable (said ++ [.response charge.id value]))
      (plain : ∀ m ∈ said, m.isProgress = false) (gone : number ∉ t.unfinished) : Opening number s events t

/-- While a request shows no token, its turns are idle until one of them tells that it begins. -/
theorem Step.unshown (step : Step s events t) (lighted : Lighted s) (apart : ∀ u job, .turn u job ∈ events → u.Apart)
    (unshown : s.Unshown number) :
    (t.Unshown number ∧ ∀ e ∈ events, e.isBy number = true →
        e.Idles ∧ (number ∉ t.unfinished ∨ e.Withdraws)) ∨ Opening number s events t := by
  obtain ⟨-, still | ⟨job, there, rfl, spins⟩⟩ := step.spins lighted apart
  · refine .inl ⟨fun token charge shows => unshown token charge ((still.shows token charge).mp shows), ?_⟩
    intro e member own
    rw [still.nobody e member] at own
    cases own
  -- A turn of another request is none of this one.
  have others (nobody : ∀ charge, job.work.charge? = some charge → charge.number ≠ number) :
      ∀ e ∈ [Event.turn s job], e.isBy number = true →
        e.Idles ∧ (number ∉ t.unfinished ∨ e.Withdraws) := by
    intro e member own
    rw [List.mem_singleton.mp member] at own
    obtain ⟨charge, charged, same⟩ := isBy_turn.mp own
    exact absurd same (nobody charge charged)
  cases spins with
  | calm plain asked other _ rests same =>
    refine .inl ⟨fun token charge shows => unshown token charge ((same token charge).mp shows), fun e member own => ?_⟩
    obtain rfl := List.mem_singleton.mp member
    obtain ⟨charge, charged, rfl⟩ := isBy_turn.mp own
    exact ⟨⟨asked, other, plain⟩, rests charge charged⟩
  | goesOn _ shown same =>
    refine .inl ⟨fun token charge shows => unshown token charge ((same token charge).mp shows), ?_⟩
    exact others fun charge charged => (shown charge charged).elim fun token shows => unshown token charge shows
  | ticks free _ _ same =>
    refine .inl ⟨fun token charge shows => unshown token charge ((same token charge).mp shows), ?_⟩
    refine others fun charge charged => ?_
    rw [free] at charged
    cases charged
  | @begins charge token title announced charged reaches _ _ announces sends told =>
    by_cases same : charge.number = number
    · have taken : (Event.turn s job).isBy number = true := isBy_turn.mpr ⟨charge, charged, same⟩
      refine .inr (.begins ⟨s, job, List.mem_singleton_self _, taken, reaches⟩
        (lighted.balanced.mem_charges there charged) same announces ?_ ((sendsBy_own taken).trans sends)
        ((told token charge).mpr (.inl ⟨rfl, rfl⟩)))
      rw [List.flatMap_singleton, sends, progressFor_append, progressFor_announced announces, beginUnder,
        progressFor_own]
      rfl
    · refine .inl ⟨fun token' charge' shows => ?_, others fun charge' charged' => ?_⟩
      · rcases (told token' charge').mp shows with ⟨-, rfl⟩ | before
        · exact same
        · exact unshown token' charge' before
      · cases charged.symm.trans charged'
        exact same
  | @flashes charge token title announced said value charged reaches _ _ announces sends plain gone still =>
    by_cases same : charge.number = number
    · subst same
      have taken : (Event.turn s job).isBy charge.number = true := isBy_turn.mpr ⟨charge, charged, rfl⟩
      refine .inr (.flashes ⟨s, job, List.mem_singleton_self _, taken, reaches⟩
        (lighted.balanced.mem_charges there charged) rfl announces ?_ ((sendsBy_own taken).trans sends) plain gone)
      rw [List.flatMap_singleton, sends, progressFor_append, progressFor_announced announces, beginUnder,
        progressFor_own, endUnder, progressFor_own, progressFor_answer plain ..]
      rfl
    · refine .inl ⟨fun token' charge' shows => unshown token' charge' ((still token' charge').mp shows), ?_⟩
      refine others fun charge' charged' => ?_
      cases charged.symm.trans charged'
      exact same
  | @ends charge token _ _ charged shown _ _ _ told =>
    refine .inl ⟨fun token' charge' shows => unshown token' charge' ((told token' charge').mp shows).1, ?_⟩
    refine others fun charge' charged' => ?_
    cases charged.symm.trans charged'
    exact unshown token charge shown

end Steps

/-! ## Runs -/

/-- The progress of a request within a run. Before a stretch of the run, the request has said no more than the answers
to other completions that it withdrew. The stretch tells a begin under a token and then reports, until the request
tells the end before it says anything else. After that it says no more. -/
inductive Bracketed (number : Nat) (id : Option RequestId) (token : RequestId) (events : List Event) : Bool → Prop
  | underway {before stretch : List Event} {announced : List Outbound} {title : String} {texts : List String}
      (split : events = before ++ stretch) (early : ∀ e ∈ before, e.isBy number = true → e.Idles ∧ e.Withdraws)
      (announces : ∀ m ∈ announced, ∃ id, m = .createProgress id token)
      (values : progressFor token (stretch.flatMap Event.sends) = .begin_ ⟨title, none, none⟩ :: reports texts)
      (sends : sendsBy number stretch = announced ++ [beginUnder token title]) : Bracketed number id token events false
  | concluded {before stretch after : List Event} {announced said : List Outbound} {title : String}
      {texts : List String} {value : Json.Value} (split : events = before ++ stretch ++ after)
      (early : ∀ e ∈ before, e.isBy number = true → e.Idles ∧ e.Withdraws)
      (announces : ∀ m ∈ announced, ∃ id, m = .createProgress id token)
      (values : progressFor token (stretch.flatMap Event.sends) =
        .begin_ ⟨title, none, none⟩ :: reports texts ++ [.end_ ⟨none⟩])
      (sends : sendsBy number stretch =
        announced ++ beginUnder token title :: endUnder token :: writable (said ++ [.response id value]))
      (plain : ∀ m ∈ said, m.isProgress = false) (late : ∀ e ∈ after, e.isBy number = false) :
      Bracketed number id token events true

section Runs

variable {s t : Session} {events earlier stretch after : List Event} {token : RequestId} {charge : Charge}
  {number : Nat} {id : Option RequestId} {closed : Bool} {announced said : List Outbound} {title : String}
  {texts : List String} {value : Json.Value}

/-- A run that starts with the turn in which the request begins. -/
theorem Bracketed.fromFirst (announces : ∀ m ∈ announced, ∃ id, m = .createProgress id token)
    (values : progressFor token (events.flatMap Event.sends) = .begin_ ⟨title, none, none⟩ :: reports texts)
    (sends : sendsBy number events = announced ++ [beginUnder token title]) :
    Bracketed number id token events false :=
  .underway (List.nil_append events).symm (fun _ member => absurd member List.not_mem_nil) announces values sends

@[inherit_doc Bracketed.fromFirst]
theorem Bracketed.fromFirst_concluded (split : events = stretch ++ after)
    (announces : ∀ m ∈ announced, ∃ id, m = .createProgress id token)
    (values : progressFor token (stretch.flatMap Event.sends) =
      .begin_ ⟨title, none, none⟩ :: reports texts ++ [.end_ ⟨none⟩])
    (sends : sendsBy number stretch =
      announced ++ beginUnder token title :: endUnder token :: writable (said ++ [.response id value]))
    (plain : ∀ m ∈ said, m.isProgress = false) (late : ∀ e ∈ after, e.isBy number = false) :
    Bracketed number id token events true :=
  .concluded (split.trans (congrArg (· ++ after) (List.nil_append stretch).symm))
    (fun _ member => absurd member List.not_mem_nil) announces values sends plain late

theorem Bracketed.prepend (bracketed : Bracketed number id token events closed)
    (early : ∀ e ∈ earlier, e.isBy number = true → e.Idles ∧ e.Withdraws) :
    Bracketed number id token (earlier ++ events) closed := by
  have both {before : List Event} (quiet : ∀ e ∈ before, e.isBy number = true → e.Idles ∧ e.Withdraws) :
      ∀ e ∈ earlier ++ before, e.isBy number = true → e.Idles ∧ e.Withdraws :=
    fun e member => (List.mem_append.mp member).elim (early e) (quiet e)
  cases bracketed with
  | underway split quiet announces values sends =>
    exact .underway (by rw [split, List.append_assoc]) (both quiet) announces values sends
  | concluded split quiet announces values sends plain late =>
    exact .concluded (by rw [split, List.append_assoc, List.append_assoc, List.append_assoc]) (both quiet) announces
      values sends plain late

theorem reports_append (texts more : List String) : reports texts ++ reports more = reports (texts ++ more) :=
  List.map_append.symm

theorem ReachedIn.sooner (reached : ReachedIn number events) (after : List Event) :
    ReachedIn number (events ++ after) := by
  obtain ⟨s, job, member, own, reaches⟩ := reached
  exact ⟨s, job, List.mem_append_left _ member, own, reaches⟩

theorem ReachedIn.later (reached : ReachedIn number events) (earlier : List Event) :
    ReachedIn number (earlier ++ events) := by
  obtain ⟨s, job, member, own, reaches⟩ := reached
  exact ⟨s, job, List.mem_append_right _ member, own, reaches⟩

/-- What is shown is shown for a request at work. -/
theorem Lighted.unfinished (lighted : Lighted s) (shows : s.Shows token charge) : charge.number ∈ s.unfinished := by
  obtain ⟨job, member, charged, -⟩ := shows
  obtain ⟨owed, ledger⟩ := lighted.balanced.ledger
  exact ledger.unfinished_of_charge lighted.balanced.sound (mem_lamps.mp member).1 charged

theorem Lighted.received (lighted : Lighted s) (shows : s.Shows token charge) :
    charge.number < s.invocations.length := by
  obtain ⟨owed, ledger⟩ := lighted.balanced.ledger
  exact ledger.received (lighted.unfinished shows)

/-- A request that shows a token goes on showing it while only reports are told under it, or it tells the end before
anything else, and comes to its own end. -/
theorem Run.underway (run : Run s events t) (lighted : Lighted s) (apart : ∀ u job, .turn u job ∈ events → u.Apart)
    (shows : s.Shows token charge) :
    ((∃ texts, progressFor token (events.flatMap Event.sends) = reports texts) ∧ sendsBy charge.number events = [] ∧
        charge.number ∈ t.unfinished) ∨
      ∃ stretch after texts said value, events = stretch ++ after ∧ (∀ m ∈ said, m.isProgress = false) ∧
        progressFor token (stretch.flatMap Event.sends) = reports texts ++ [.end_ ⟨none⟩] ∧
        sendsBy charge.number stretch = endUnder token :: writable (said ++ [.response charge.id value]) ∧
        ∀ e ∈ after, e.isBy charge.number = false := by
  induction run with
  | nil s => exact .inl ⟨⟨[], rfl⟩, rfl, lighted.unfinished shows⟩
  | @cons s mid t now later step path ih =>
    have here : ∀ u job, .turn u job ∈ now → u.Apart := fun u job member => apart u job (List.mem_append_left _ member)
    have there : ∀ u job, .turn u job ∈ later → u.Apart :=
      fun u job member => apart u job (List.mem_append_right _ member)
    obtain ⟨lit, -⟩ := step.spins lighted here
    rcases step.underway lighted here shows with
      ⟨still, ⟨texts, told⟩, silent⟩ | ⟨said, value, plain, told, sends, gone⟩
    · rcases ih lit there still with
        ⟨⟨more, told'⟩, silent', alive⟩ | ⟨stretch, after, more, said, value, rfl, plain, told', sends, late⟩
      · refine .inl ⟨⟨texts ++ more, ?_⟩, ?_, alive⟩
        · rw [List.flatMap_append, progressFor_append, told, told', reports_append]
        · rw [sendsBy_append, silent, silent']
          rfl
      · have split := (List.append_assoc now stretch after).symm
        refine .inr ⟨now ++ stretch, after, texts ++ more, said, value, split, plain, ?_, ?_, late⟩
        · rw [List.flatMap_append, progressFor_append, told, told', ← List.append_assoc, reports_append]
        · rw [sendsBy_append, silent, sends]
          rfl
    · have ended : Ended charge.number mid :=
        ⟨Nat.lt_of_lt_of_le (lighted.received shows) (step.length_le lighted.balanced.sound), gone⟩
      exact .inr ⟨now, later, [], said, value, rfl, plain, told, sends, Run.ended_idle path lit.balanced ended⟩

/-- A request that shows no token has idle turns, or its progress is bracketed from the turn on in which it reaches a
backend. -/
theorem Run.unshown (run : Run s events t) (lighted : Lighted s) (apart : ∀ u job, .turn u job ∈ events → u.Apart)
    (received : number < s.invocations.length) (billed : Billed number id s) (unshown : s.Unshown number) :
    (∀ e ∈ events, e.isBy number = true → e.Idles) ∨
      ∃ token closed, Bracketed number id token events closed ∧ (closed = false → number ∈ t.unfinished) ∧
        ReachedIn number events := by
  induction run with
  | nil s => exact .inl fun e member => absurd member List.not_mem_nil
  | @cons s mid t now later step path ih =>
    have here : ∀ u job, .turn u job ∈ now → u.Apart := fun u job member => apart u job (List.mem_append_left _ member)
    have there : ∀ u job, .turn u job ∈ later → u.Apart :=
      fun u job member => apart u job (List.mem_append_right _ member)
    obtain ⟨lit, -⟩ := step.spins lighted here
    have received' := Nat.lt_of_lt_of_le received (step.length_le lighted.balanced.sound)
    have late (gone : number ∉ mid.unfinished) : ∀ e ∈ later, e.isBy number = false :=
      Run.ended_idle path lit.balanced ⟨received', gone⟩
    rcases step.unshown lighted here unshown with ⟨still, idle⟩ | opening
    · by_cases alive : number ∈ mid.unfinished
      · rcases ih lit there received' (step.billed lighted.balanced received billed) still with
          idle' | ⟨token, closed, bracketed, pending, reached⟩
        · exact .inl fun e member own => (List.mem_append.mp member).elim (fun first => (idle e first own).1)
            fun other => idle' e other own
        · refine .inr ⟨token, closed, bracketed.prepend fun e first own => ⟨(idle e first own).1, ?_⟩, pending,
            reached.later now⟩
          exact (idle e first own).2.resolve_left (absurd alive)
      · -- The request has come to its end without a begin, and takes no turn any more.
        refine .inl fun e member own => ?_
        rcases List.mem_append.mp member with first | other
        · exact (idle e first own).1
        · rw [late alive e other] at own
          cases own
    · cases opening with
      | @begins charge token title announced reached mem same announces values sends shows =>
        subst same
        obtain rfl := billed charge mem rfl
        -- From here on the request shows its token, until the end of the run or its own.
        rcases Run.underway path lit there shows with
          ⟨⟨texts, told⟩, silent, alive⟩ | ⟨stretch, after, texts, said, value, rfl, plain, told, ends, late⟩
        · have all : progressFor token ((now ++ later).flatMap Event.sends) =
              .begin_ ⟨title, none, none⟩ :: reports texts := by
            rw [List.flatMap_append, progressFor_append, values, told]
            rfl
          have own : sendsBy charge.number (now ++ later) = announced ++ [beginUnder token title] := by
            rw [sendsBy_append, sends, silent, List.append_nil]
          exact .inr ⟨token, false, .fromFirst announces all own, fun _ => alive, reached.sooner later⟩
        · have all : progressFor token ((now ++ stretch).flatMap Event.sends) =
              .begin_ ⟨title, none, none⟩ :: reports texts ++ [.end_ ⟨none⟩] := by
            rw [List.flatMap_append, progressFor_append, values, told]
            rfl
          have own : sendsBy charge.number (now ++ stretch) = announced ++ beginUnder token title ::
              endUnder token :: writable (said ++ [.response charge.id value]) := by
            rw [sendsBy_append, sends, ends, List.append_assoc]
            rfl
          have split := (List.append_assoc now stretch after).symm
          exact .inr ⟨token, true, .fromFirst_concluded split announces all own plain late, nofun, reached.sooner _⟩
      | @flashes charge token title announced said value reached mem same announces values sends plain gone =>
        subst same
        obtain rfl := billed charge mem rfl
        have all : progressFor token (now.flatMap Event.sends) =
            .begin_ ⟨title, none, none⟩ :: reports [] ++ [.end_ ⟨none⟩] := values
        exact .inr ⟨token, true, .fromFirst_concluded rfl announces all sends plain (late gone), nofun,
          reached.sooner later⟩

/-- A session stays lighted. -/
theorem Run.lighted (run : Run s events t) (lighted : Lighted s) (apart : ∀ u job, .turn u job ∈ events → u.Apart) :
    Lighted t := by
  induction run with
  | nil => exact lighted
  | cons step _ ih =>
    exact ih (step.spins lighted fun u job member => apart u job (List.mem_append_left _ member)).1
      fun u job member => apart u job (List.mem_append_right _ member)

end Runs

/-- The turns of the jobs that are ready, one after the other, at most so many of them, and what the session becomes. -/
def turns : Nat → Session → List Event × Session
  | 0, s => ([], s)
  | more + 1, s =>
    match s.desk.agenda.ready with
    | [] => ([], s)
    | job :: rest =>
      let later := turns more (perform job (s.taken rest))
      (.turn s job :: later.1, later.2)

/-- Only the completion has a token from its client. -/
def OneNamed (name : RequestId) (s : Session) : Prop :=
  ∀ job ∈ s.desk.agenda.jobs, job.work.token? ≠ none →
    job.work.token? = some name ∧ job.work.charge? = some ⟨2, some (.number 2)⟩

instance (name : RequestId) (s : Session) : Decidable (s.OneNamed name) :=
  inferInstanceAs (Decidable (∀ job ∈ s.desk.agenda.jobs, job.work.token? ≠ none →
    job.work.token? = some name ∧ job.work.charge? = some ⟨2, some (.number 2)⟩))

namespace Event

/-- Whether only the completion has a token when a turn begins. -/
def named (name : RequestId) : Event → Bool
  | received _ => true
  | turn s _ => decide (s.OneNamed name)

end Event

section Crowds

variable {registry : Registry} {token : Value} {name : RequestId} {s : Session} {number : Nat}
  {id : Option RequestId} {events : List Event}

theorem OneNamed.distinct (one : s.OneNamed name) : s.Distinct := by
  intro job here other there token named named'
  rw [(one job here (by rw [named]; exact Option.some_ne_none token)).2,
    (one other there (by rw [named']; exact Option.some_ne_none token)).2]

theorem OneNamed.apart (one : s.OneNamed name) (given : ∀ number, name ≠ freshToken number)
    (whole : name.toValue.all Value.isEncodable = true) : s.Apart := by
  have own {job : Job Work} (member : job ∈ s.desk.agenda.jobs) {token : RequestId}
      (named : job.work.token? = some token) : token = name := by
    have same := (one job member (by rw [named]; exact Option.some_ne_none token)).1
    exact Option.some.inj (named.symm.trans same)
  refine ⟨one.distinct, fun job member number named => given number (own member named).symm, ?_⟩
  intro job member token named
  rw [own member named]
  exact whole

end Crowds

/-- A request whose progress is bracketed sends some. -/
theorem Bracketed.tells {number : Nat} {id : Option RequestId} {token : RequestId} {events : List Event} {closed : Bool}
    (bracketed : Bracketed number id token events closed) :
    ∃ e ∈ events, e.isBy number = true ∧ ∃ m ∈ e.sends, m.isProgress = true := by
  have tells {stretch : List Event} {announced later : List Outbound} {title : String}
      (sends : sendsBy number stretch = announced ++ beginUnder token title :: later) :
      ∃ e ∈ stretch, e.isBy number = true ∧ ∃ m ∈ e.sends, m.isProgress = true := by
    have begins : beginUnder token title ∈ sendsBy number stretch := by
      rw [sends]
      exact List.mem_append_right _ (List.mem_cons_self ..)
    obtain ⟨e, mem, sent⟩ := List.mem_flatMap.mp begins
    obtain ⟨there, own⟩ := List.mem_filter.mp mem
    exact ⟨e, there, own, _, sent, rfl⟩
  cases bracketed with
  | underway split _ _ _ sends =>
    obtain ⟨e, there, own⟩ := tells sends
    exact ⟨e, by rw [split]; exact List.mem_append_right _ there, own⟩
  | concluded split _ _ _ sends =>
    obtain ⟨e, there, own⟩ := tells sends
    exact ⟨e, by rw [split]; exact List.mem_append_left _ (List.mem_append_right _ there), own⟩

end EditorAssist.Session

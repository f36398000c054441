import EditorAssist.Proofs.Backend.Agreement
import Mathlib.Data.List.Induction

/-!
# What is collected

A backend is asked for suggestions one time after another until it has been asked often enough, an attempt fails or
the deadline that all attempts share has come. `collection_meets_its_order` says from the replies alone how often
it is asked, when the collection ends and what it comes to.
-/

namespace EditorAssist.Backend

open EditorAssist.Json EditorAssist.Text EditorAssist.Time

/-! ## Texts told apart -/

/-- Texts are kept once, each where it comes first. -/
theorem distinctBy_texts (texts : List String) :
    distinctBy Suggestion.same (texts.map .str) = texts.eraseDups.map .str := by
  induction texts using List.reverseRecOn with
  | nil => rfl
  | append_singleton texts text ih =>
    have known : (texts.eraseDups.map Value.str).any (Suggestion.same (.str text)) = decide (text ∈ texts) := by
      rw [Bool.eq_iff_iff, List.any_eq_true, decide_eq_true_eq, ← List.mem_eraseDups]
      simp [Suggestion.same_str]
    rw [distinctBy] at ih ⊢
    rw [List.map_append, List.foldl_append, ih, List.eraseDups_append, List.map_singleton, List.foldl_cons,
      List.foldl_nil, known]
    by_cases there : text ∈ texts
    · simp [there, List.removeAll]
    · simp [there, List.removeAll, List.eraseDups_cons]

theorem distinct_texts_eq (texts : List String) :
    Suggestion.distinct (texts.map .str) = .ok (texts.eraseDups.map .str) := by
  have comparable : (texts.map Value.str).find? (fun suggestion => !Suggestion.isComparable suggestion) = none := by
    refine List.find?_eq_none.mpr fun suggestion member => ?_
    obtain ⟨text, -, rfl⟩ := List.mem_map.mp member
    exact Bool.false_ne_true
  rw [Suggestion.distinct, comparable]
  exact congrArg Except.ok (distinctBy_texts texts)

/-! ## Runs -/

namespace Collection

/-- The outcome of an attempt that begins at `now`, and when it is over. -/
def Attempt.ended (a : Attempt) (c : Collection) (now : Instant) : Except Fault (List Suggestion) × Instant :=
  if a.delay.isInstant then (a.outcome, now)
  else
    (if (c.resolution now a.delay).2 then .error Fault.deadline else a.outcome,
      if (c.resolution now a.delay).1.nanos < now.nanos then now else (c.resolution now a.delay).1)

/-- A run makes its first attempt, and goes on from there unless it is over. -/
theorem run_cons (c : Collection) (now : Instant) (a : Attempt) (rest : List Attempt) :
    c.run now (a :: rest) =
      match c.feed (a.ended c now).1 with
      | .again next => next.run (a.ended c now).2 rest
      | .finished result => (result, c.attempt + 1, (a.ended c now).2)
      | .partly result _ => (result, c.attempt + 1, (a.ended c now).2)
      | .failed cause => (.error cause, c.attempt + 1, (a.ended c now).2) := by
  rw [run]
  rfl

end Collection

/-! ## Orders -/

/-- Texts in which there is something. -/
def Reply.texts (r : Reply) : List String :=
  match r.outcome with
  | .ok texts => texts.filter (!·.isEmpty)
  | .error _ => []

/-- What there is when there is nothing more to find. -/
def Reply.nothing : Reply := ⟨.ok [], .zero⟩

/-- A reply as an attempt to collect. -/
def Reply.attempt (r : Reply) : Collection.Attempt := ⟨r.outcome.map (·.map .str), r.delay⟩

/-- An order to collect suggestions and the replies that its attempts are going to get; behind them nothing is
found. -/
structure Order where
  backend : String
  count : Int
  timeoutMs : Option Int
  start : Instant
  replies : List Reply

namespace Order

/-- The collection that an order starts: its result, the number of attempts and the instant of its end. -/
def run (o : Order) : Except Fault (List Suggestion) × Nat × Instant :=
  (Collection.start o.backend o.count o.timeoutMs o.start).run o.start (o.replies.map (·.attempt))

/-- The most attempts. -/
def limit (o : Order) : Nat := (max o.count 1).toNat

/-- The reply that an attempt gets; the first attempt has the number 0. -/
def reply (o : Order) (k : Nat) : Reply := o.replies.getD k .nothing

/-- When an attempt begins: the first one at the start, and each other when the one before it is over. -/
def begins (o : Order) : Nat → Int
  | 0 => o.start.nanos
  | k + 1 => o.begins k + max 0 (o.reply k).delay.nanos

/-- When the time of all attempts is up, if it ever is. -/
def deadline (o : Order) : Option Int := o.timeoutMs.map fun ms => o.start.nanos + ms * 1000000

/-- The time is up before an attempt is over. -/
def Late (o : Order) (k : Nat) : Prop := ∃ deadline ∈ o.deadline, deadline < o.begins (k + 1)

/-- An attempt finds texts in time. -/
def Succeeds (o : Order) (k : Nat) : Prop := ¬o.Late k ∧ ∃ texts, (o.reply k).outcome = .ok texts

/-- An attempt is made: there are not enough before it, and all of these succeed. -/
def Makes (o : Order) (k : Nat) : Prop := k < o.limit ∧ ∀ j < k, o.Succeeds j

/-- The texts found by so many attempts in which there is something. -/
def gathered (o : Order) (attempts : Nat) : List String := (o.replies.take attempts).flatMap (·.texts)

/-- An attempt fails in a way that ends the collection with what it has. A request that takes too long by itself is
one for which the time is up. -/
inductive Fails (o : Order) (k : Nat) : Fault → Prop
  | late (late : o.Late k) : Fails o k (Fault.backendTimeout o.backend (o.timeoutMs.getD 0))
  | timeout {f : Fault} (early : ¬o.Late k) (raised : (o.reply k).outcome = .error f) (kind : f.isDeadline = true) :
      Fails o k (Fault.backendTimeout o.backend (o.timeoutMs.getD 0))
  | backend {f : Fault} (early : ¬o.Late k) (raised : (o.reply k).outcome = .error f)
      (kind : f.isBackendFault = true) : Fails o k f

/-- What a collection comes to whose last attempt is that of number `last`. -/
inductive Verdict (o : Order) (last : Nat) : Except Fault (List Suggestion) → Prop
  /-- No attempt fails. -/
  | complete (succeeds : o.Succeeds last) : Verdict o last (.ok ((o.gathered (last + 1)).eraseDups.map .str))
  /-- The last attempt fails, but there is something already. -/
  | partly {f : Fault} (fails : o.Fails last f) (some : o.gathered last ≠ []) :
      Verdict o last (.ok ((o.gathered last).eraseDups.map .str))
  | failed {f : Fault} (fails : o.Fails last f) (none : o.gathered last = []) : Verdict o last (.error f)
  /-- Any other fault is passed on. -/
  | raised {f : Fault} (early : ¬o.Late last) (raised : (o.reply last).outcome = .error f)
      (other : f.isDeadline = false) (foreign : f.isBackendFault = false) : Verdict o last (.error f)

/-- How a collection ends with the attempt of number `last`. -/
structure EndsWith (o : Order) (last : Nat) (result : Except Fault (List Suggestion)) (ending : Instant) : Prop where
  made : o.Makes last
  /-- It ends early only if the attempt fails. -/
  stops : last + 1 < o.limit → ¬o.Succeeds last
  /-- It ends when the attempt is over, -/
  onTime : ¬o.Late last → ending.nanos = o.begins (last + 1)
  /-- or at the deadline when that comes first. -/
  late : o.Late last → some ending.nanos = o.deadline
  inTime : ∀ deadline ∈ o.deadline, ending.nanos ≤ deadline
  verdict : o.Verdict last result

/-! ## One attempt -/

/-- The collection of an order before the attempt of number `n`. -/
structure Underway (o : Order) (n : Nat) (c : Collection) (now : Instant) : Prop where
  backend : c.backend = o.backend
  timeoutMs : c.timeoutMs = o.timeoutMs
  deadline : c.deadline.map (·.nanos) = o.deadline
  attempt : c.attempt = n
  remaining : n + c.remaining + 1 = o.limit
  kept : c.kept = (o.gathered n).map .str
  before : ∀ k < n, o.Succeeds k
  clock : now.nanos = o.begins n
  early : ∀ deadline ∈ o.deadline, now.nanos < deadline

section Attempts

variable {o : Order} {n : Nat} {c : Collection} {now : Instant}

theorem Underway.start (positive : ∀ ms ∈ o.timeoutMs, 0 < ms) :
    o.Underway 0 (Collection.start o.backend o.count o.timeoutMs o.start) o.start where
  backend := rfl
  timeoutMs := rfl
  deadline := by
    rw [Collection.start, Option.map_map]
    rfl
  attempt := rfl
  remaining := by
    simp only [Collection.start, limit]
    omega
  kept := rfl
  before := nofun
  clock := rfl
  early := by
    intro due given
    obtain ⟨ms, timeout, rfl⟩ := Option.map_eq_some_iff.mp given
    have some := positive ms timeout
    omega

/-- What an attempt gathers is added to what there is. -/
theorem gathered_succ (o : Order) (n : Nat) : o.gathered (n + 1) = o.gathered n ++ (o.reply n).texts := by
  rw [gathered, List.take_add_one, List.flatMap_append, gathered, reply, List.getD_eq_getElem?_getD]
  cases o.replies[n]? with
  | none => rfl
  | some reply => exact congrArg (_ ++ ·) (List.flatMap_singleton ..)

/-- An attempt for which the time is up ends at the deadline as one that took too long. -/
theorem Underway.ended_late (underway : o.Underway n c now) (late : o.Late n) :
    ((o.reply n).attempt.ended c now).1 = .error Fault.deadline ∧
      some ((o.reply n).attempt.ended c now).2.nanos = o.deadline := by
  obtain ⟨due, given, late⟩ := late
  have early := underway.early due given
  have clock := underway.clock
  have delay : (o.reply n).attempt.delay = (o.reply n).delay := rfl
  rw [← underway.deadline] at given ⊢
  obtain ⟨deadline, held, rfl⟩ := Option.map_eq_some_iff.mp given
  rw [begins] at late
  have waits : ¬(o.reply n).delay.isInstant = true := by
    simp only [Span.isInstant, decide_eq_true_eq]
    omega
  have first : deadline.nanos ≤ (now.after (o.reply n).delay).nanos := by
    simp only [Instant.after]
    omega
  have behind : ¬deadline.nanos < now.nanos := by omega
  simp only [Collection.Attempt.ended, delay, waits, Bool.false_eq_true, ↓reduceIte, Collection.resolution, held, first,
    behind, Option.map_some, and_self]

/-- An attempt in time ends when its reply arrives. -/
theorem Underway.ended_early (underway : o.Underway n c now) (early : ¬o.Late n)
    (apart : ∀ deadline ∈ o.deadline, o.begins (n + 1) ≠ deadline) :
    ((o.reply n).attempt.ended c now).1 = (o.reply n).attempt.outcome ∧
      ((o.reply n).attempt.ended c now).2.nanos = o.begins (n + 1) ∧
      ∀ deadline ∈ o.deadline, o.begins (n + 1) < deadline := by
  have before : ∀ deadline ∈ o.deadline, o.begins (n + 1) < deadline := by
    intro deadline given
    have other := apart deadline given
    have inTime : ¬deadline < o.begins (n + 1) := fun late => early ⟨deadline, given, late⟩
    omega
  have clock := underway.clock
  have delay : (o.reply n).attempt.delay = (o.reply n).delay := rfl
  have next : o.begins (n + 1) = o.begins n + max 0 (o.reply n).delay.nanos := rfl
  rw [Collection.Attempt.ended, delay]
  by_cases instant : (o.reply n).delay.isInstant = true
  · have nothing : (o.reply n).delay.nanos ≤ 0 := of_decide_eq_true instant
    rw [if_pos instant]
    exact ⟨rfl, by dsimp only; omega, before⟩
  · have waits : 0 < (o.reply n).delay.nanos := by
      simpa only [Span.isInstant, decide_eq_true_eq, Int.not_le] using instant
    have arrives : c.resolution now (o.reply n).delay = (now.after (o.reply n).delay, false) := by
      rw [Collection.resolution]
      cases held : c.deadline with
      | none => rfl
      | some deadline =>
        have given : deadline.nanos ∈ o.deadline := by
          rw [← underway.deadline, held]
          rfl
        have inTime := before deadline.nanos given
        refine if_neg ?_
        simp only [Instant.after]
        omega
    have ahead : ¬(now.after (o.reply n).delay).nanos < now.nanos := by
      simp only [Instant.after]
      omega
    rw [if_neg instant, arrives, if_neg ahead]
    refine ⟨rfl, ?_, before⟩
    simp only [Instant.after]
    omega

/-- An attempt that fails ends a collection with what it has. -/
theorem Underway.stop (underway : o.Underway n c now) (f : Fault) :
    (c.stop f).result? =
      if o.gathered n = [] then some (.error f) else some (.ok ((o.gathered n).eraseDups.map .str)) := by
  rw [Collection.stop, underway.kept, List.isEmpty_map, distinct_texts_eq]
  by_cases none : o.gathered n = []
  · rw [if_pos (List.isEmpty_iff.mpr none), if_pos none]
    rfl
  · rw [if_neg (mt List.isEmpty_iff.mp none), if_neg none]
    rfl

theorem Underway.endsLate (underway : o.Underway n c now) (late : o.Late n) {result : Except Fault (List Suggestion)}
    (verdict : o.Verdict n result) : o.EndsWith n result ((o.reply n).attempt.ended c now).2 := by
  obtain ⟨-, ending⟩ := underway.ended_late late
  have remaining := underway.remaining
  refine ⟨⟨by omega, underway.before⟩, fun _ succeeds => succeeds.1 late, fun early => absurd late early,
    fun _ => ending, ?_, verdict⟩
  intro deadline given
  exact Int.le_of_eq (Option.some.inj (ending.trans given))

theorem Underway.endsEarly (underway : o.Underway n c now) (early : ¬o.Late n)
    (apart : ∀ deadline ∈ o.deadline, o.begins (n + 1) ≠ deadline) (stops : n + 1 < o.limit → ¬o.Succeeds n)
    {result : Except Fault (List Suggestion)} (verdict : o.Verdict n result) :
    o.EndsWith n result ((o.reply n).attempt.ended c now).2 := by
  obtain ⟨-, ending, before⟩ := underway.ended_early early apart
  have remaining := underway.remaining
  refine ⟨⟨by omega, underway.before⟩, stops, fun _ => ending, fun late => absurd late early, ?_, verdict⟩
  intro deadline given
  rw [ending]
  exact Int.le_of_lt (before deadline given)

/-- Where an attempt leads: to the next one, or to an end for which there is a reason. -/
theorem Underway.step (underway : o.Underway n c now)
    (apart : ∀ deadline ∈ o.deadline, o.begins (n + 1) ≠ deadline) :
    (∃ next, c.feed ((o.reply n).attempt.ended c now).1 = .again next ∧
      o.Underway (n + 1) next ((o.reply n).attempt.ended c now).2) ∨
    ∃ result, (c.feed ((o.reply n).attempt.ended c now).1).result? = some result ∧
      o.EndsWith n result ((o.reply n).attempt.ended c now).2 := by
  have failing {f : Fault} (fails : o.Fails n f) : ∃ result, (c.stop f).result? = some result ∧ o.Verdict n result := by
    have stopped := underway.stop f
    split at stopped
    · next none => exact ⟨_, stopped, .failed fails none⟩
    · next some => exact ⟨_, stopped, .partly fails some⟩
  by_cases late : o.Late n
  · obtain ⟨result, ends, verdict⟩ := failing (.late late)
    refine .inr ⟨result, ?_, underway.endsLate late verdict⟩
    rw [(underway.ended_late late).1, ← ends, ← underway.backend, ← underway.timeoutMs]
    rfl
  · obtain ⟨outcome, ending, before⟩ := underway.ended_early late apart
    have given : (o.reply n).attempt.outcome = (o.reply n).outcome.map (·.map .str) := rfl
    rw [outcome, given]
    cases raised : (o.reply n).outcome with
    | ok texts =>
      have succeeds : o.Succeeds n := ⟨late, texts, raised⟩
      have kept : c.kept ++ (texts.map Value.str).filter (!Suggestion.isNothing ·) = (o.gathered (n + 1)).map .str := by
        rw [filter_texts, underway.kept, gathered_succ, List.map_append, Reply.texts, raised]
      have remaining := underway.remaining
      simp only [Except.map, Collection.feed, kept]
      cases left : c.remaining with
      | zero =>
        refine .inr ⟨_, congrArg some (distinct_texts_eq _), underway.endsEarly late apart ?_ (.complete succeeds)⟩
        omega
      | succ more =>
        refine .inl ⟨_, rfl, underway.backend, underway.timeoutMs, underway.deadline, ?_, ?_, rfl, ?_, ending, ?_⟩
        · exact congrArg (· + 1) underway.attempt
        · dsimp only
          omega
        · intro k earlier
          rcases Nat.lt_succ_iff_lt_or_eq.mp earlier with earlier | rfl
          · exact underway.before k earlier
          · exact succeeds
        · intro deadline given
          rw [ending]
          exact before deadline given
    | error f =>
      have stops : n + 1 < o.limit → ¬o.Succeeds n := by
        rintro - ⟨-, texts, found⟩
        cases raised.symm.trans found
      simp only [Except.map, Collection.feed]
      by_cases deadline : f.isDeadline = true
      · obtain ⟨result, ends, verdict⟩ := failing (.timeout late raised deadline)
        refine .inr ⟨result, ?_, underway.endsEarly late apart stops verdict⟩
        rw [if_pos deadline, ← ends, underway.backend, underway.timeoutMs]
      · rw [if_neg deadline]
        by_cases own : f.isBackendFault = true
        · obtain ⟨result, ends, verdict⟩ := failing (.backend late raised own)
          refine .inr ⟨result, ?_, underway.endsEarly late apart stops verdict⟩
          rw [if_pos own, ends]
        · rw [if_neg own]
          refine .inr ⟨.error f, rfl, underway.endsEarly late apart stops ?_⟩
          exact .raised late raised (Bool.eq_false_iff.mpr deadline) (Bool.eq_false_iff.mpr own)

end Attempts

/-! ## All attempts -/

/-- When the replies have run out, nothing more is found. -/
theorem run_nil (c : Collection) (now : Instant) : c.run now [] = c.run now [Reply.nothing.attempt] := by
  have ended : Reply.nothing.attempt.ended c now = (.ok [], now) := rfl
  rw [Collection.run_cons, ended, Collection.run]
  simp only [Collection.feed, List.filter_nil, List.append_nil]
  cases c.remaining with
  | zero => rfl
  | succ more =>
    simp only [Collection.run, Prod.mk.injEq, true_and, and_true]
    omega

/-- An attempt gets its reply, and those behind it get theirs. -/
theorem run_drop (o : Order) (n : Nat) (c : Collection) (now : Instant) :
    c.run now ((o.replies.drop n).map (·.attempt)) =
      c.run now ((o.reply n).attempt :: (o.replies.drop (n + 1)).map (·.attempt)) := by
  rw [reply, List.getD_eq_getElem?_getD]
  by_cases given : n < o.replies.length
  · rw [List.drop_eq_getElem_cons given, List.map_cons, List.getElem?_eq_getElem given, Option.getD_some]
  · rw [List.drop_eq_nil_of_le (by omega), List.drop_eq_nil_of_le (by omega), List.getElem?_eq_none (by omega),
      Option.getD_none, List.map_nil, run_nil]

/-- From wherever a collection is, it ends for a reason. -/
theorem Underway.ends {o : Order} {n : Nat} {c : Collection} {now : Instant} (underway : o.Underway n c now)
    (apart : ∀ k, o.Makes k → ∀ deadline ∈ o.deadline, o.begins (k + 1) ≠ deadline) :
    ∃ last result ending, c.run now ((o.replies.drop n).map (·.attempt)) = (result, last + 1, ending) ∧
      o.EndsWith last result ending := by
  have remaining := underway.remaining
  have made : o.Makes n := ⟨by omega, underway.before⟩
  rw [run_drop, Collection.run_cons]
  obtain ⟨next, again, further⟩ | ⟨result, ends, reason⟩ := underway.step (apart n made)
  · have fewer := Collection.remaining_of_again again
    rw [again]
    exact further.ends apart
  · refine ⟨n, result, _, ?_, reason⟩
    rw [underway.attempt]
    generalize c.feed ((o.reply n).attempt.ended c now).1 = step at ends
    cases step with
    | again => cases ends
    | finished found => exact congrArg (·, n + 1, _) (Option.some.inj ends)
    | partly found cause => exact congrArg (·, n + 1, _) (Option.some.inj ends)
    | failed cause => exact congrArg (·, n + 1, _) (Option.some.inj ends)
termination_by c.remaining
decreasing_by omega

end Order

end EditorAssist.Backend

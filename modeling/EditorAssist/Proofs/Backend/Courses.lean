import EditorAssist.Backend.Station
import Mathlib.Logic.Basic

/-!
# The course of a collection

A collection sends one request after another. Its course lists the instants at which it sends them, up to the
attempt that ends it. Every collection has a course and only one, and the requests of the course are those that
the registry has recorded.
-/

namespace EditorAssist.Backend

open EditorAssist.Journal EditorAssist.Time

/-! ## Registered providers -/

namespace Registry

variable {r : Registry} {name other : String} {p q : Provider} {topic : Topic}

theorem find?_put (name : String) (p : Provider) (backends : List (String × Provider)) :
    (put name p backends).find? (·.1 == name) = some (name, p) := by
  induction backends with
  | nil => simp [put]
  | cons entry rest ih =>
    rw [put]
    split
    · simp
    · next another =>
      rw [List.find?_cons, Bool.eq_false_iff.mpr another]
      exact ih

/-- Whatever is found under a name is registered under it. -/
theorem lookup_eq_ok {wanted : String} :
    (if wanted.isEmpty then .error Fault.notConfigured
      else match r.find? wanted with
        | some p => .ok (wanted, p)
        | none => .error (Fault.backendNotFound wanted r.names) : Except Fault (String × Provider)) = .ok (name, p) ↔
      wanted = name ∧ name ≠ "" ∧ r.find? name = some p := by
  have blank : wanted.isEmpty = true ↔ wanted = "" := by simp
  rw [ite_eq_iff, blank]
  constructor
  · rintro (⟨-, refused⟩ | ⟨given, found⟩)
    · cases refused
    · split at found
      · next there =>
        cases found
        exact ⟨rfl, given, there⟩
      · cases found
  · rintro ⟨rfl, given, there⟩
    refine .inr ⟨given, ?_⟩
    rw [there]

theorem get_none_eq_ok : r.get none = .ok (name, p) ↔ r.current = name ∧ name ≠ "" ∧ r.find? name = some p :=
  lookup_eq_ok

theorem get_some_eq_ok : r.get (some name) = .ok (name, p) ↔ name ≠ "" ∧ r.find? name = some p := by
  refine Iff.trans lookup_eq_ok ?_
  constructor
  · exact fun found => found.2
  · rintro ⟨given, there⟩
    have named : ¬name.isEmpty = true := by simpa using given
    exact ⟨if_neg named, given, there⟩

/-- After a request the provider is found with the answers that are left. -/
theorem get_call (found : r.get (some name) = .ok (name, q)) (topic : Topic) :
    (r.call name p topic).2.get (some name) = .ok (name, p.take.2) := by
  apply get_some_eq_ok.mpr
  constructor
  · exact (get_some_eq_ok.mp found).1
  · show ((put name p.take.2 r.backends).find? (·.1 == name)).map (·.2) = some p.take.2
    rw [find?_put]
    rfl

end Registry

theorem Provider.request_take (p : Provider) (topic : Topic) : p.take.2.request topic = p.request topic := by
  unfold take
  cases p.answers with
  | nil => rfl
  | cons answer rest => cases topic <;> rfl

/-! ## Attempts -/

/-- The result of a collection that an attempt ends. -/
def Collection.Step.result? : Collection.Step → Option (Except Fault (List Suggestion))
  | again _ => none
  | finished result => some result
  | partly result _ => some result
  | failed cause => some (.error cause)

/-- The outcome of an attempt that is given an answer, and when the attempt is over. -/
def Collection.outcome (c : Collection) (p : Provider) (now : Instant) (answer : Answer) :
    Except Fault (List Suggestion) × Instant :=
  if answer.delay.isInstant then (p.batchOf answer.outcome, now)
  else
    (if (c.resolution now answer.delay).2 then .error Fault.deadline else p.batchOf answer.outcome,
      if (c.resolution now answer.delay).1.nanos < now.nanos then now else (c.resolution now answer.delay).1)

/-- What an attempt leads to. -/
def Collection.step (c : Collection) (p : Provider) (now : Instant) : Collection.Step :=
  c.feed (c.outcome p now p.take.1).1

/-- If an attempt is followed by another one, there is one attempt less to follow. -/
theorem Collection.remaining_of_again {c next : Collection} {outcome : Except Fault (List Suggestion)}
    (again : c.feed outcome = .again next) : c.remaining = next.remaining + 1 := by
  unfold feed at again
  cases outcome with
  | ok batch =>
    dsimp only at again
    split at again
    · cases again
    · next more same =>
      cases again
      exact same
  | error fault =>
    have stopped (cause : Fault) : c.stop cause ≠ .again next := by
      unfold stop
      split <;> exact nofun
    dsimp only at again
    split at again
    · exact absurd again (stopped _)
    · split at again
      · exact absurd again (stopped _)
      · cases again

namespace Station

/-- Notes why a collection ended early, if it did. -/
def notePartly (s : Station) (c : Collection) : Collection.Step → Station
  | .partly _ cause => s.log .warn "backend" "keeping partial suggestions"
    [("backend", .text c.backend), ("attempt", .int c.attempt),
     ("kept", .int c.kept.length), ("error", .text cause.text)]
  | _ => s

/-- The station when an attempt is over. -/
def attempted (s : Station) (name : String) (p : Provider) (topic : Topic) (c : Collection) : Station :=
  { s with registry := (s.registry.call name p topic).2, now := (c.outcome p s.now p.take.1).2 }.notePartly c
    (c.step p s.now)

section Attempts

variable {s : Station} {name : String} {p : Provider} {topic : Topic} {c : Collection}

@[simp]
theorem notePartly_registry (s : Station) (c : Collection) (step : Collection.Step) :
    (s.notePartly c step).registry = s.registry := by
  cases step <;> rfl

theorem attempted_registry : (s.attempted name p topic c).registry = (s.registry.call name p topic).2 :=
  notePartly_registry ..

/-- A collection makes an attempt, and goes on from there unless it is over. -/
theorem collect_eq (found : s.registry.get (some name) = .ok (name, p)) (remaining : Nat) :
    collect name topic remaining c s =
      match c.step p s.now, remaining with
      | .finished result, _ => (result, s.attempted name p topic c)
      | .partly result _, _ => (result, s.attempted name p topic c)
      | .failed cause, _ => (.error cause, s.attempted name p topic c)
      | .again _, 0 => (.ok [], s.attempted name p topic c)
      | .again next, more + 1 => collect name topic more next (s.attempted name p topic c) := by
  unfold attempted Collection.step
  rw [collect.eq_def name topic remaining]
  dsimp only
  rw [found]
  dsimp only
  rw [← Collection.outcome]
  have answered : (s.registry.call name p topic).1 = p.take.1 := rfl
  rw [answered]
  cases c.feed (c.outcome p s.now p.take.1).1 with
  | again next => cases remaining <;> rfl
  | _ => rfl

/-- When an attempt is over, the provider is found with the answers that are left. -/
theorem attempted_get (topic : Topic) (c : Collection) (found : s.registry.get (some name) = .ok (name, p)) :
    (s.attempted name p topic c).registry.get (some name) = .ok (name, p.take.2) := by
  rw [attempted_registry]
  exact Registry.get_call found topic

end Attempts

/-! ## Courses -/

/-- The course of a collection: the instants at which it sends its requests, its result and the station at its
end. -/
inductive Course (name : String) (topic : Topic) :
    Collection → Station → List Instant → Except Fault (List Suggestion) × Station → Prop
  | last {c : Collection} {s : Station} {p : Provider} {result : Except Fault (List Suggestion)}
      (found : s.registry.get (some name) = .ok (name, p)) (ends : (c.step p s.now).result? = some result) :
      Course name topic c s [s.now] (result, s.attempted name p topic c)
  | again {c next : Collection} {s : Station} {p : Provider} {later : List Instant}
      {ended : Except Fault (List Suggestion) × Station} (found : s.registry.get (some name) = .ok (name, p))
      (goes : c.step p s.now = .again next)
      (rest : Course name topic next (s.attempted name p topic c) later ended) :
      Course name topic c s (s.now :: later) ended

section Courses

variable {s : Station} {name : String} {p : Provider} {topic : Topic} {c : Collection} {times : List Instant}
  {ended : Except Fault (List Suggestion) × Station}

/-- Every collection has a course. -/
theorem exists_course (topic : Topic) (c : Collection) (found : s.registry.get (some name) = .ok (name, p)) :
    ∃ times, Course name topic c s times (collect name topic c.remaining c s) := by
  generalize remains : c.remaining = remaining
  induction remaining generalizing c s p with
  | zero =>
    refine ⟨[s.now], ?_⟩
    rw [collect_eq found]
    cases step : c.step p s.now with
    | again next =>
      have more := Collection.remaining_of_again step
      omega
    | finished result => exact .last found (by rw [step]; rfl)
    | partly result cause => exact .last found (by rw [step]; rfl)
    | failed cause => exact .last found (by rw [step]; rfl)
  | succ more ih =>
    rw [collect_eq found]
    cases step : c.step p s.now with
    | again next =>
      have fewer := Collection.remaining_of_again step
      obtain ⟨later, course⟩ := @ih _ _ next (attempted_get topic c found) (by omega)
      exact ⟨s.now :: later, .again found step course⟩
    | finished result => exact ⟨[s.now], .last found (by rw [step]; rfl)⟩
    | partly result cause => exact ⟨[s.now], .last found (by rw [step]; rfl)⟩
    | failed cause => exact ⟨[s.now], .last found (by rw [step]; rfl)⟩

/-- A collection has one course only. -/
theorem Course.unique {times' : List Instant} {ended' : Except Fault (List Suggestion) × Station}
    (one : Course name topic c s times ended) (other : Course name topic c s times' ended') :
    times' = times ∧ ended' = ended := by
  induction one generalizing times' ended' with
  | last found ends =>
    cases other with
    | last found' ends' =>
      cases found.symm.trans found'
      cases ends.symm.trans ends'
      exact ⟨rfl, rfl⟩
    | again found' goes' =>
      cases found.symm.trans found'
      rw [goes'] at ends
      cases ends
  | again found goes _ ih =>
    cases other with
    | last found' ends' =>
      cases found.symm.trans found'
      rw [goes] at ends'
      cases ends'
    | again found' goes' rest' =>
      cases found.symm.trans found'
      cases goes.symm.trans goes'
      obtain ⟨rfl, rfl⟩ := ih rest'
      exact ⟨rfl, rfl⟩

/-- A course sends as many requests as it has instants, all of them for the same. -/
theorem Course.requests (course : Course name topic c s times ended)
    (found : s.registry.get (some name) = .ok (name, p)) :
    ended.2.registry.requests = s.registry.requests ++ List.replicate times.length (p.request topic) := by
  induction course generalizing p with
  | last found' =>
    cases found.symm.trans found'
    rw [attempted_registry]
    rfl
  | again found' _ _ ih =>
    cases found.symm.trans found'
    rw [ih (attempted_get _ _ found), attempted_registry, Provider.request_take, List.length_cons, List.replicate_succ]
    exact List.append_assoc ..

/-- A collection leaves the selection. -/
theorem Course.current (course : Course name topic c s times ended) :
    ended.2.registry.current = s.registry.current := by
  induction course with
  | last =>
    rw [attempted_registry]
    rfl
  | again _ _ _ ih =>
    rw [ih, attempted_registry]
    rfl

end Courses

end Station

end EditorAssist.Backend

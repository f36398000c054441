import EditorAssist.Debounce.Desk

/-!
# Scripted actions

A debouncer whose actions follow a script: they may take time, cancel keys, schedule a further action
and fail, and so may the callbacks that are told of a withdrawal. What happens is recorded as a list of
events with their instants; faults of actions and callbacks are caught and noted.
-/

namespace EditorAssist.Debounce

open EditorAssist.Time

/-- Who is told of a withdrawal: nobody, a callback, or a callback that fails once it was told. -/
inductive Notice where
  | nobody
  | callback
  | faulty
  deriving Repr, DecidableEq

instance : Coe Bool Notice := ⟨fun given => if given then .callback else .nobody⟩

/-- An action to be scheduled. -/
inductive Script where
  | mk (key name : String) (delay : Span) (runs : Option Span) (fails : Bool) (notice : Notice)
    (thenCancel : List String) (thenSchedule : Option Script)

namespace Script

def key : Script → String
  | mk key .. => key

def name : Script → String
  | mk _ name .. => name

def delay : Script → Span
  | mk _ _ delay .. => delay

def runs : Script → Option Span
  | mk _ _ _ runs .. => runs

def fails : Script → Bool
  | mk _ _ _ _ fails .. => fails

def notice : Script → Notice
  | mk _ _ _ _ _ notice .. => notice

def thenCancel : Script → List String
  | mk _ _ _ _ _ _ keys .. => keys

def thenSchedule : Script → Option Script
  | mk _ _ _ _ _ _ _ next => next

/-- Jobs that can follow from scheduling the action. -/
def weight : Script → Nat
  | mk _ _ _ _ _ _ _ none => 4
  | mk _ _ _ _ _ _ _ (some next) => weight next + 4

end Script

/-- What can be observed. -/
inductive Event where
  | started (name : String)
  | ended (name : String)
  | withdrawn (name : String)
  | cancelled (key : String) (found : Bool)
  deriving Repr, DecidableEq

def Event.text : Event → String
  | .started name => "start " ++ name
  | .ended name => "end " ++ name
  | .withdrawn name => "cancelled " ++ name
  | .cancelled key found => "cancel " ++ key ++ (if found then " True" else " False")

/-- An event and when it was. -/
structure Occurrence where
  instant : Instant
  event : Event

def Occurrence.text (o : Occurrence) : String := o.event.text

/-- A fault that is caught: whose action or callback it was. -/
inductive Caught where
  | action (key : String)
  | callback (key : String)
  deriving Repr, DecidableEq

/-- Work of scripted actions: waiting for the delay, running, finishing. -/
inductive Stage where
  | wait (script : Script)
  | run (script : Script)
  | finish (script : Script)

/-- Who is told about a withdrawal. -/
structure Callback where
  name : String
  notice : Notice
  deriving Repr, DecidableEq

/-- A desk of scripted actions, the events so far and the faults that were caught. -/
structure Trial where
  desk : Desk Stage Callback
  events : List Occurrence
  caught : List Caught

namespace Trial

def empty : Trial := ⟨.empty, [], []⟩

def record (t : Trial) (event : Event) : Trial :=
  { t with events := t.events ++ [⟨t.desk.agenda.now, event⟩] }

def catchFault (t : Trial) (fault : Caught) : Trial := { t with caught := t.caught ++ [fault] }

/-- Tells the callback of a withdrawn entry. -/
def tell (t : Trial) (entry : Entry Callback) : Trial :=
  match entry.callback.notice with
  | .nobody => t
  | .callback => t.record (.withdrawn entry.callback.name)
  | .faulty => (t.record (.withdrawn entry.callback.name)).catchFault (.callback entry.key)

def schedule (t : Trial) (script : Script) : Trial :=
  let (desk, previous) := t.desk.schedule script.key (.wait script) ⟨script.name, script.notice⟩
  let added := { t with desk }
  match previous with
  | none => added
  | some entry => added.tell entry

def cancel (t : Trial) (key : String) : Trial × Bool :=
  let (desk, found) := t.desk.cancel key
  let done := { t with desk }
  match found with
  | none => (done, false)
  | some entry => (done.tell entry, true)

def cancelAll (t : Trial) : Trial :=
  let (desk, entries) := t.desk.cancelAll
  entries.foldl tell { t with desk }

def cancelKeys : List String → Trial → Trial
  | [], t => t
  | key :: rest, t =>
    let (done, found) := t.cancel key
    cancelKeys rest (done.record (.cancelled key found))

/-- The last part of an action. -/
def finish (t : Trial) (script : Script) : Trial :=
  let cancelled := cancelKeys script.thenCancel t
  let scheduled := match script.thenSchedule with
    | none => cancelled
    | some next => cancelled.schedule next
  if script.fails then scheduled.catchFault (.action script.key)
  else scheduled.record (.ended script.name)

def mapAgenda (t : Trial) (f : Agenda Stage → Agenda Stage) : Trial :=
  { t with desk := { t.desk with agenda := f t.desk.agenda } }

/-- Does one piece of work. -/
def perform (job : Job Stage) (t : Trial) : Trial :=
  match job.work with
  | .wait script => t.mapAgenda (·.waitFor script.delay ⟨job.ticket, .run script⟩)
  | .run script =>
    let started := { t with desk := t.desk.release script.key job.ticket }.record
      (.started script.name)
    match script.runs with
    | none => started.finish script
    | some span => started.mapAgenda (·.waitFor span ⟨job.ticket, .finish script⟩)
  | .finish script => t.finish script

def weight : Stage → Nat
  | .wait script => script.weight
  | .run script => script.weight - 1
  | .finish script => script.weight - 2

def engine : Engine Trial Stage where
  agenda t := t.desk.agenda
  withAgenda t agenda := { t with desk := { t.desk with agenda } }
  perform
  weight

def settle (t : Trial) : Trial := engine.settle t

def advance (t : Trial) (span : Span) : Trial := engine.advance span t

def isPending (t : Trial) (key : String) : Bool := t.desk.pending.holds key

end Trial

end EditorAssist.Debounce

import EditorAssist.Time.Agenda

/-!
# Debouncing

A desk holds at most one pending action for each key. Scheduling a key withdraws the action that is
pending for it, and its callback is told; an action that has started is no longer pending and
cannot be withdrawn.
-/

namespace EditorAssist.Debounce

open EditorAssist.Time

/-- A pending action: its key, the ticket of its job and whom to tell when it is withdrawn. -/
structure Entry (γ : Type) where
  key : String
  ticket : Nat
  callback : γ

/-- Pending actions in the order in which they were scheduled. -/
abbrev Pending (γ : Type) := List (Entry γ)

namespace Pending

variable {γ : Type}

def find? (key : String) (pending : Pending γ) : Option (Entry γ) :=
  List.find? (·.key == key) pending

def holds (key : String) (pending : Pending γ) : Bool := List.any pending (·.key == key)

def remove (key : String) (pending : Pending γ) : Pending γ := List.filter (·.key != key) pending

/-- Forgets an action that has started, if it is the one pending for its key. -/
def release (key : String) (ticket : Nat) (pending : Pending γ) : Pending γ :=
  List.filter (fun entry => !(entry.key == key && entry.ticket == ticket)) pending

end Pending

/-- An agenda and the debounced actions on it. -/
structure Desk (ω γ : Type) where
  agenda : Agenda ω
  pending : Pending γ

namespace Desk

variable {ω γ : Type}

def empty : Desk ω γ := ⟨.empty, []⟩

/-- Withdraws an entry's job. -/
def withdraw (desk : Desk ω γ) (entry : Entry γ) : Desk ω γ :=
  { desk with agenda := desk.agenda.cancel entry.ticket }

/-- Schedules work under a key; the entry that it supersedes, if any, is returned. -/
def schedule (desk : Desk ω γ) (key : String) (work : ω) (callback : γ) :
    Desk ω γ × Option (Entry γ) :=
  let previous := desk.pending.find? key
  let (agenda, ticket) := desk.agenda.spawn work
  let added : Desk ω γ := ⟨agenda, desk.pending.remove key ++ [⟨key, ticket, callback⟩]⟩
  match previous with
  | none => (added, none)
  | some entry => (added.withdraw entry, some entry)

/-- Withdraws what is pending for a key and returns it. -/
def cancel (desk : Desk ω γ) (key : String) : Desk ω γ × Option (Entry γ) :=
  match desk.pending.find? key with
  | none => (desk, none)
  | some entry => ({ desk with pending := desk.pending.remove key }.withdraw entry, some entry)

/-- Withdraws everything that is pending and returns it in order. -/
def cancelAll (desk : Desk ω γ) : Desk ω γ × List (Entry γ) :=
  (desk.pending.foldl withdraw { desk with pending := [] }, desk.pending)

/-- Notes that the action of a job has started. -/
def release (desk : Desk ω γ) (key : String) (ticket : Nat) : Desk ω γ :=
  { desk with pending := desk.pending.release key ticket }

end Desk

end EditorAssist.Debounce

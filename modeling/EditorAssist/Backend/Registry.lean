import EditorAssist.Backend.Provider

/-!
# The registry of backends

Backends are registered by name, one of them is selected. Every request made through the registry is
recorded.
-/

namespace EditorAssist.Backend

open EditorAssist.Json

/-- Named backends, the selected name (empty when there is none) and the requests made so far. -/
structure Registry where
  backends : List (String × Provider)
  current : String
  requests : List Request

namespace Registry

def empty : Registry := ⟨[], "", []⟩

def find? (r : Registry) (name : String) : Option Provider :=
  (r.backends.find? (·.1 == name)).map (·.2)

/-- Registered names in order. -/
def names (r : Registry) : List String :=
  (r.backends.map (·.1)).mergeSort fun a b => a ≤ b

def put (name : String) (p : Provider) : List (String × Provider) → List (String × Provider)
  | [] => [(name, p)]
  | entry :: rest => if entry.1 == name then (name, p) :: rest else entry :: put name p rest

def register (r : Registry) (name : String) (p : Provider) : Registry :=
  { r with backends := put name p r.backends }

def select (r : Registry) (name : String) : Except Fault Registry :=
  match r.find? name with
  | some _ => .ok { r with current := name }
  | none => .error (Fault.backendNotFound name r.names)

/-- The backend of a name, or the selected one. -/
def get (r : Registry) (name : Option String) : Except Fault (String × Provider) :=
  let wanted := match name with
    | some name => if name.isEmpty then r.current else name
    | none => r.current
  if wanted.isEmpty then .error Fault.notConfigured
  else
    match r.find? wanted with
    | some p => .ok (wanted, p)
    | none => .error (Fault.backendNotFound wanted r.names)

/-- Sends a request to a backend. -/
def call (r : Registry) (name : String) (p : Provider) (topic : Topic) : Answer × Registry :=
  let (answer, after) := p.take
  (answer, { r with backends := put name after r.backends, requests := r.requests ++ [p.request topic] })

end Registry

end EditorAssist.Backend

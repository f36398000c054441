import EditorAssist.Backend.Collection
import EditorAssist.Backend.Registry
import EditorAssist.Journal.Sink

/-!
# One request at a time

A station sends requests one after another and waits for each: it has a clock, a registry and a sink
for records. The server, where requests overlap, is in `EditorAssist.Session`.
-/

namespace EditorAssist.Backend

open EditorAssist.Json EditorAssist.Journal EditorAssist.Time

structure Station where
  now : Instant
  registry : Registry
  sink : Sink

namespace Station

def of (registry : Registry) : Station := ⟨.start, registry, .initial⟩

def log (s : Station) (level : Level) (service message : String) (tags : Tags) : Station :=
  { s with sink := s.sink.log s.now level service message tags }

/-- Notes that a timed operation begins. -/
def begin_ (s : Station) (service message : String) (tags : Tags) : Station :=
  s.log .info service message tags.started

/-- Notes that an operation begun at `since` is over. -/
def finish (s : Station) (since : Instant) (service message : String) (tags : Tags) : Station :=
  s.log .info service message (tags.completed (since.millisBetween s.now))

/-- Registers a backend. -/
def register (s : Station) (name : String) (p : Provider) : Station :=
  { s with registry := s.registry.register name p }.log .info "backend.registry" "registered backend"
    [("name", .text name)]

/-- Selects a backend. -/
def select (s : Station) (name : String) : Except Fault Station :=
  match s.registry.select name with
  | .error f => .error f
  | .ok registry =>
    .ok ({ s with registry }.log .info "backend.registry" "selected backend" [("name", .text name)])

/-- Makes the attempts of a collection, `remaining` of them after the first. -/
def collect (name : String) (topic : Topic) :
    (remaining : Nat) → Collection → Station → Except Fault (List Suggestion) × Station
  | remaining, c, s =>
    match s.registry.get (some name) with
    | .error f => (.error f, s)
    | .ok (name, p) =>
      let (answer, registry) := s.registry.call name p topic
      let (due, late) := c.resolution s.now answer.delay
      let (outcome, ending) :=
        if answer.delay.isInstant then (p.batchOf answer.outcome, s.now)
        else (if late then .error Fault.deadline else p.batchOf answer.outcome,
          if due.nanos < s.now.nanos then s.now else due)
      let after := { s with registry, now := ending }
      match c.feed outcome with
      | .finished result => (result, after)
      | .failed cause => (.error cause, after)
      | .partly result cause =>
        (result, after.log .warn "backend" "keeping partial suggestions"
          [("backend", .text c.backend), ("attempt", .int c.attempt),
           ("kept", .int c.kept.length), ("error", .text cause.text)])
      | .again next =>
        match remaining with
        | 0 => (.ok [], after)
        | more + 1 => collect name topic more next after

/-- Requests suggestions from the selected backend. -/
def completion (s : Station) (q : CompletionQuery) : Except Fault (List Suggestion) × Station :=
  match s.registry.get none with
  | .error f => (.error f, s)
  | .ok (name, p) =>
    let tags : Tags := [("model", .text p.model), ("count", .int q.count)]
    let started := s.begin_ p.kind.service "completion" tags
    let c := Collection.start p.kind.name q.count q.timeoutMs started.now
    let (result, after) := collect name (.completion q) c.remaining c started
    (result, after.finish started.now p.kind.service "completion" tags)

/-- Notes the length of a chat answer that is taken as it is. -/
def noteReply (s : Station) (p : Provider) (result : Except Fault Provider.ChatReply) : Station :=
  match result with
  | .ok ⟨_, some length⟩ => s.log .debug p.kind.service "chat reply" [("length", .int length)]
  | _ => s

/-- Requests a chat answer from the selected backend. -/
def chat (s : Station) (q : ChatQuery) : Except Fault Suggestion × Station :=
  match s.registry.get none with
  | .error f => (.error f, s)
  | .ok (name, p) =>
    let tags : Tags := [("model", .text p.chatModel)]
    let started := s.begin_ p.kind.service "chat" tags
    let (answer, registry) := started.registry.call name p (.chat q)
    let now := if answer.delay.isInstant then started.now else started.now.after answer.delay
    let after := { started with registry, now }.finish started.now p.kind.service "chat" tags
    let result := p.chatResult q answer.outcome
    (result.map (·.content), after.noteReply p result)

end Station

end EditorAssist.Backend

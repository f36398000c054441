import EditorAssist.Backend.Registry
import EditorAssist.Payload.Types

/-!
# Outbound messages

Everything that a session sends: responses and refusals to requests of the client, notifications, and
requests of its own, which carry numbers that it hands out.
-/

namespace EditorAssist.Session

open EditorAssist.Json EditorAssist.Payload

/-- Why a request is refused. -/
inductive Refusal where
  | methodNotFound (message : String)
  | invalidParams (message : String)
  deriving Repr, DecidableEq

def Refusal.toValue : Refusal → Value
  | .methodNotFound message => .obj [("code", .int (-32601)), ("message", .str message)]
  | .invalidParams message => .obj [("code", .int (-32602)), ("message", .str message)]

/-- A message to the client. Messages about a notification have no id. -/
inductive Outbound where
  | response (id : Option RequestId) (result : Value)
  | refusal (id : Option RequestId) (error : Refusal)
  | diagnostics (params : PublishDiagnosticsParams)
  | message (params : ShowMessageParams)
  | progress (params : ProgressParams)
  | createProgress (id : Nat) (token : RequestId)
  | applyEdit (id : Nat) (params : ApplyEditParams)
  /-- Any other notification. -/
  | notification (method : String) (params : Value)
  /-- Any other request. -/
  | request (id : Nat) (method : String) (params : Value)
  /-- Entries of any other kind. -/
  | other (entries : Entries)

namespace Outbound

/-- The id of a message as it is written. -/
def idValue : Option RequestId → Value
  | none => .null
  | some id => id.toValue

/-- The method of a message, unless it answers one. -/
def method? : Outbound → Option String
  | response .. => none
  | refusal .. => none
  | diagnostics _ => some "textDocument/publishDiagnostics"
  | message _ => some "window/showMessage"
  | progress _ => some "$/progress"
  | createProgress .. => some "window/workDoneProgress/create"
  | applyEdit .. => some "workspace/applyEdit"
  | notification method _ => some method
  | request _ method _ => some method
  | other _ => none

/-- The id of a message, if it has one. -/
def id? : Outbound → Option RequestId
  | response id _ => id
  | refusal id _ => id
  | createProgress id _ => some (.number id)
  | applyEdit id _ => some (.number id)
  | request id _ _ => some (.number id)
  | _ => none

/-- Whether a message answers a request, and which. -/
def answers? : Outbound → Option (Option RequestId)
  | response id _ => some id
  | refusal id _ => some id
  | _ => none

/-- What a message with a method carries. -/
def params : Outbound → Value
  | response .. => .null
  | refusal .. => .null
  | diagnostics params => PublishDiagnosticsParams.codec.write params
  | message params => ShowMessageParams.codec.write params
  | progress params => ProgressParams.codec.write params
  | createProgress _ token => .obj [("token", token.toValue)]
  | applyEdit _ params => ApplyEditParams.codec.write params
  | notification _ params => params
  | request _ _ params => params
  | other _ => .null

/-- The entries of a message with a method. -/
def methodEntries (m : Outbound) : Entries :=
  match m.method? with
  | some method => [("method", .str method), ("params", m.params)]
  | none => []

/-- The entries of a message. -/
def entries (m : Outbound) : Entries :=
  match m with
  | response id result => [("id", idValue id), ("result", result)]
  | refusal id error => [("id", idValue id), ("error", error.toValue)]
  | other entries => entries
  | call =>
    match call.id? with
    | some id => ("id", id.toValue) :: call.methodEntries
    | none => call.methodEntries

/-- The message as it is written. -/
def toValue (m : Outbound) : Value := .obj (Entries.set "jsonrpc" (.str "2.0") m.entries)

end Outbound

end EditorAssist.Session

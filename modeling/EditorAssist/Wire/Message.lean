import EditorAssist.Json.Parser
import EditorAssist.Json.Printer
import EditorAssist.Payload.Types
import EditorAssist.Text.Utf8

/-!
# Messages

A message with an id and a method is a request, with a method alone a notification, with an id alone
a response. `Message.decode` reads the body of a frame; `encodeBody` writes one.
-/

namespace EditorAssist.Wire

open EditorAssist.Json EditorAssist.Text EditorAssist.Payload

/-- A decoded message. -/
structure Message where
  protocol : String
  id : Option RequestId
  method : Option String
  params : Value
  result : Value
  error : Option Entries

inductive Message.Kind where
  | request
  | notification
  | response
  | invalid
  deriving Repr, DecidableEq

def Message.kind (m : Message) : Message.Kind :=
  match m.method, m.id with
  | some _, some _ => .request
  | some _, none => .notification
  | none, some _ => .response
  | none, none => .invalid

def Message.Kind.name : Message.Kind → String
  | .request => "request"
  | .notification => "notification"
  | .response => "response"
  | .invalid => "invalid"

/-- Why a body is not a message. -/
inductive DecodeFailure where
  | encoding (refusal : Utf8.Refusal)
  | json (refusal : Json.Refusal) (text : List Char)
  | notObject (kind : String)
  | fields (faults : Nat)
  deriving Repr, DecidableEq

/-- The limit of the JSON reader that a body meets, if that is why it is no message. -/
def DecodeFailure.limit? : DecodeFailure → Option Json.Cause
  | .json refusal _ => if refusal.cause.isLimit then some refusal.cause else none
  | _ => none

def DecodeFailure.message : DecodeFailure → String
  | .encoding refusal => "invalid JSON body: " ++ refusal.message
  | .json refusal text => "invalid JSON body: " ++ refusal.message text
  | .notObject kind => "expected a JSON object, got " ++ kind
  | .fields faults => "invalid message: " ++ toString faults ++ " errors"

namespace Message

/-- A value that is not null. -/
def given? : Value → Option Value
  | .null => none
  | v => some v

def codec : Codec Message :=
  ((Fields.defaulted "jsonrpc" .text "2.0").and ((Fields.nullable "id" RequestId.codec).and
    ((Fields.nullable "method" .text).and ((Fields.nullable "params" .any).and
      ((Fields.nullable "result" .any).and (Fields.nullable "error" (.mapping .any))))))).codec "Message"
    (fun (protocol, id, method, params, result, error) =>
      { protocol, id, method, error, params := params.getD .null, result := result.getD .null })
    (fun m => (m.protocol, m.id, m.method, given? m.params, given? m.result, m.error))

/-- Reads the fields. Each mismatch counts as a fault; an id has two of them, as it has two types. -/
def ofEntries (entries : Entries) : Except DecodeFailure Message :=
  (codec.read (.obj entries)).mapError fun wrong => .fields wrong.length

def ofValue : Value → Except DecodeFailure Message
  | .obj entries => ofEntries entries
  | v => .error (.notObject v.kindName)

/-- Reads a message from the text of a body. -/
def ofText (text : List Char) : Except DecodeFailure Message :=
  match Json.parse text with
  | .error refusal => .error (.json refusal text)
  | .ok v => ofValue v

/-- Reads a message from the bytes of a body. -/
def decode (body : List UInt8) : Except DecodeFailure Message :=
  match Utf8.decode body with
  | .error refusal => .error (.encoding refusal)
  | .ok text => ofText text.toList

end Message

/-- What keeps a value from being written, if anything does: half of a surrogate pair in it. -/
def encodeFault? (v : Value) : Option Fault :=
  (encodingRefusal? (print .compact v)).map fun refusal =>
    .standard "UnicodeEncodeError" (some refusal)

/-- The body of a message: compact JSON in UTF-8. -/
def encodeBody (v : Value) : List UInt8 := Utf8.encode v.compact

end EditorAssist.Wire

import EditorAssist.Backend.Suggestion
import EditorAssist.Datum
import EditorAssist.Prompt
import EditorAssist.Time.Instant

/-!
# Providers

A backend talks to one of two kinds of provider. This module holds what differs between them: the
parameters of a request, how texts are found in a response and what a chat answer means. The answers
of a provider are given in advance, in order, each with the time it takes. A response that has not the
expected shape is a fault only where that shape is needed.
-/

namespace EditorAssist.Backend

open EditorAssist.Json EditorAssist.Time

inductive ProviderKind where
  | openai
  | anthropic
  deriving Repr, DecidableEq

def ProviderKind.name : ProviderKind → String
  | .openai => "openai"
  | .anthropic => "anthropic"

/-- The logger of a backend of this kind. -/
def ProviderKind.service (kind : ProviderKind) : String := "backend." ++ kind.name

/-- What a provider returns: plain texts, or an object of its own shape. -/
inductive Response where
  | texts (items : List Suggestion)
  | object (fields : Value)

/-- An answer to a request and the time until it arrives. -/
structure Answer where
  outcome : Except Fault Response
  delay : Span

/-- A backend: its models, the time it grants a request, and the answers still to come. -/
structure Provider where
  kind : ProviderKind
  model : String
  chatModel : String
  timeoutMs : Int
  answers : List Answer

/-- What is known at a cursor when a completion is requested. -/
structure CompletionQuery where
  before : String
  after : String
  path : String
  language : String
  count : Int
  timeoutMs : Option Int

/-- What a chat request is about. -/
structure ChatQuery where
  instruction : String
  selection : String
  path : String
  language : String

/-- What a request asks for. -/
inductive Topic where
  | completion (query : CompletionQuery)
  | chat (query : ChatQuery)

/-- A request as it is sent to a provider. -/
structure Request where
  kind : ProviderKind
  model : String
  topic : Topic

namespace Request

def textBlock (text : String) : Value := .obj [("type", .str "text"), ("text", .str text)]

def chatMessage (role content : String) : Value :=
  .obj [("role", .str role), ("content", .str content)]

/-- Parameters of a completion request. -/
def completionParams (r : Request) (q : CompletionQuery) : Value :=
  let system := Prompt.completionSystem q.language
  let user := Prompt.completionUser q.path q.before q.after
  match r.kind with
  | .openai =>
    .obj [("model", .str r.model),
      ("messages", .arr [chatMessage "system" system, chatMessage "user" user])]
  | .anthropic =>
    .obj [("model", .str r.model), ("max_tokens", .int 256),
      ("system", .arr [.obj [("type", .str "text"), ("text", .str system),
        ("cache_control", .obj [("type", .str "ephemeral")])]]),
      ("messages", .arr [chatMessage "user" user]),
      ("temperature", .float (if 1 < q.count then 0.4 else 0.0))]

/-- Parameters of a chat request. -/
def chatParams (r : Request) (q : ChatQuery) : Value :=
  let path := Prompt.stripFileScheme q.path
  match r.kind with
  | .openai =>
    .obj [("model", .str r.model),
      ("messages", .arr [chatMessage "system" (Prompt.fencedChatSystem q.language),
        chatMessage "user" (Prompt.fencedChatUser q.language path q.selection q.instruction)])]
  | .anthropic =>
    .obj [("model", .str r.model), ("max_tokens", .int 8192),
      ("system", .arr [textBlock (Prompt.chatSystem q.language)]),
      ("messages", .arr [chatMessage "user"
        (Prompt.chatUser q.language path q.selection q.instruction)]),
      ("temperature", .float 0.1)]

/-- The parameters of a request. -/
def params (r : Request) : Value :=
  match r.topic with
  | .completion q => r.completionParams q
  | .chat q => r.chatParams q

end Request

namespace Provider

/-- A backend that chats with its completion model unless another one is given. -/
def of (kind : ProviderKind) (model : String) (chatModel : Option String) (timeoutMs : Int)
    (answers : List Answer) : Provider :=
  let chosen := chatModel.getD ""
  ⟨kind, model, if chosen.isEmpty then model else chosen, timeoutMs, answers⟩

/-- The request for a topic; chats may have a model of their own. -/
def request (p : Provider) (topic : Topic) : Request :=
  match topic with
  | .completion _ => ⟨p.kind, p.model, topic⟩
  | .chat _ => ⟨p.kind, p.chatModel, topic⟩

/-- The next answer; when none is left the request fails at once. -/
def take (p : Provider) : Answer × Provider :=
  match p.answers with
  | [] => (⟨.error (Fault.standard "RuntimeError" (some "no more replies")), .zero⟩, p)
  | answer :: rest => (answer, { p with answers := rest })

/-- The items of a field: none where nothing is given. The characters of a text are items without
fields. -/
def itemsOf (key : String) (v : Value) : Except Fault (List Value) :=
  let given := (v.get? key).getD .null
  if Suggestion.isNothing given then .ok []
  else
    match given with
    | .arr items => .ok items
    | .str _ => .ok []
    | other =>
      .error (Suggestion.classFault ("'" ++ Suggestion.className other ++ "' object is not iterable"))

/-- The message contents of a response, those with nothing in them left out. -/
def choiceTexts : Response → Except Fault (List Suggestion)
  | .texts items => .ok (items.filter (!·.isNothing))
  | .object v =>
    (itemsOf "choices" v).map fun choices =>
      (choices.filterMap fun choice => (choice.get? "message").bind (·.get? "content")).filter
        (!·.isNothing)

/-- A content, or the empty text where there is nothing. -/
def contentOrEmpty (content : Suggestion) : Suggestion :=
  if content.isNothing then .str "" else content

/-- Whether a block is one of text. -/
def isTextBlock (block : Value) : Bool := (block.get? "type").bind Value.str? == some "text"

/-- The contents of the text blocks of a response. -/
def blockTexts : Response → Except Fault (List Suggestion)
  | .texts items => .ok (items.map contentOrEmpty)
  | .object v =>
    (itemsOf "content" v).map fun blocks =>
      (blocks.filter isTextBlock).map fun block => contentOrEmpty ((block.get? "text").getD .null)

/-- The contents of a response. -/
def contents (p : Provider) (r : Response) : Except Fault (List Suggestion) :=
  match p.kind with
  | .openai => choiceTexts r
  | .anthropic => blockTexts r

/-- Faults of the provider's client as faults of this backend. -/
def faultOf (p : Provider) (f : Fault) : Fault := Fault.ofProvider p.kind.name p.timeoutMs f

/-- The outcome of one completion request. -/
def batchOf (p : Provider) (outcome : Except Fault Response) : Except Fault (List Suggestion) :=
  match outcome with
  | .ok r => (p.contents r).map (·.filter (!·.isNothing))
  | .error f => .error (p.faultOf f)

/-- The code in a chat answer: what stands inside its fence, or all of it without one. -/
def fencedCode (q : ChatQuery) : Suggestion → Except Fault Suggestion
  | .str text =>
    let code := Prompt.extractCodeBlock q.path.toList text.toList q.language.toList
    .ok (.str (if code.isEmpty then text else String.ofList code))
  | other =>
    .error (Suggestion.classFault
      ("expected string or bytes-like object, got '" ++ Suggestion.className other ++ "'"))

/-- The number of parts of a content. -/
def contentLength : Suggestion → Except Fault Nat
  | .str text => .ok text.length
  | .arr items => .ok items.length
  | other =>
    .error (Suggestion.classFault ("object of type '" ++ Suggestion.className other ++ "' has no len()"))

/-- A chat answer, with its length if that is recorded. -/
structure ChatReply where
  content : Suggestion
  recordedLength : Option Nat

/-- The first content of a chat response as an answer. One kind of provider fences its code, the
answers of the other are taken as they are. -/
def chatReply (p : Provider) (q : ChatQuery) (content : Suggestion) : Except Fault ChatReply :=
  match p.kind with
  | .openai => (fencedCode q content).map fun code => ⟨code, none⟩
  | .anthropic => (contentLength content).map fun length => ⟨content, some length⟩

/-- The outcome of a chat request. -/
def chatResult (p : Provider) (q : ChatQuery) (outcome : Except Fault Response) :
    Except Fault ChatReply :=
  match outcome with
  | .error f => .error (p.faultOf f)
  | .ok r =>
    match p.contents r with
    | .error f => .error f
    | .ok [] => .error (Fault.backendFailure p.kind.name "no completion found")
    | .ok (first :: _) => p.chatReply q first

end Provider

/-- Model and last message of a request. -/
def Request.summary (r : Request) : Value :=
  let messages := ((r.params.get? "messages").bind Value.arr?).getD []
  .obj [("model", .str r.model),
    ("user", ((messages.getLast?.bind (·.get? "content"))).getD .null)]

end EditorAssist.Backend

import EditorAssist.Payload.Types
import EditorAssist.Text.Lines

/-!
# Open documents

The store keeps the latest known state of every open document, in the order in which they were
opened, and the uri of the current one. A uri can be current without a document.
-/

namespace EditorAssist

open EditorAssist.Text

/-- The latest known state of a document. -/
structure Document where
  uri : String
  text : String
  version : Int
  languageId : String
  deriving Repr, DecidableEq

/-- The open documents and the current uri; the uri is empty when there is none. -/
structure DocumentStore where
  documents : List Document
  currentUri : String
  deriving Repr, DecidableEq

namespace DocumentStore

def empty : DocumentStore := ⟨[], ""⟩

def get? (store : DocumentStore) (uri : String) : Option Document :=
  store.documents.find? (·.uri == uri)

def current? (store : DocumentStore) : Option Document :=
  if store.currentUri.isEmpty then none else store.get? store.currentUri

def setCurrent (store : DocumentStore) (uri : String) : DocumentStore :=
  { store with currentUri := uri }

/-- Puts a document in the place of the one with its uri, or last. -/
def put (document : Document) : List Document → List Document
  | [] => [document]
  | other :: rest =>
    if other.uri == document.uri then document :: rest else other :: put document rest

/-- Installs a document and makes it current. -/
def set (store : DocumentStore) (document : Document) : DocumentStore :=
  ⟨put document store.documents, document.uri⟩

/-- Makes `uri` current and replaces the text and version of its document, if there is one. -/
def updateText (store : DocumentStore) (uri : String) (version : Int) (text : String) :
    DocumentStore :=
  match store.get? uri with
  | none => store.setCurrent uri
  | some document => ⟨put { document with text, version } store.documents, uri⟩

def delete (store : DocumentStore) (uri : String) : DocumentStore :=
  { store with documents := store.documents.filter (·.uri != uri) }

def uris (store : DocumentStore) : List String := store.documents.map (·.uri)

/-- An index into `count` items; negative indices count from the end. -/
def resolveIndex (index : Int) (count : Nat) : Nat :=
  if index < 0 then (index + count).toNat else index.toNat

/-- The items from `start` up to `stop`, either of which may count from the end. -/
def slice {α : Type} (items : List α) (start stop : Int) : List α :=
  let first := resolveIndex start items.length
  (items.take (resolveIndex stop items.length)).drop first

/-- The whole lines that a range covers; its end is moved to the last line when it lies beyond. -/
def textInRange (store : DocumentStore) (uri : String) (range : Payload.Range) : List Char :=
  match store.get? uri with
  | none => []
  | some document =>
    if document.text.isEmpty then []
    else
      let all := lines document.text.toList
      if (all.length : Int) ≤ range.start.line then []
      else
        let last := min range.stop.line ((all.length : Int) - 1)
        joinLines (slice all range.start.line (last + 1))

end DocumentStore

end EditorAssist

import EditorAssist.Proofs.Payload.Models
import EditorAssist.Proofs.Session.Executing

/-!
# What becomes of an offered action

A code action carries a command that the client may send back. The command is then known, its argument is
read as it was written, and the command is carried out on the selection that the action was offered for, with the
query of the command and the messages of the diagnostics.
-/

namespace EditorAssist.Action

open EditorAssist.Json EditorAssist.Payload

end EditorAssist.Action

namespace EditorAssist.Session

open EditorAssist.Action EditorAssist.Backend EditorAssist.Debounce EditorAssist.Journal
open EditorAssist.Payload EditorAssist.Settings EditorAssist.Time EditorAssist.Wire

/-- An event that refuses nothing, asks for nothing but one query, and edits nothing but a range of a document. -/
structure Event.KeepsTo (uri : String) (range : Range) (query : ChatQuery) (e : Event) : Prop where
  accepts : ∀ id error, .refusal id error ∉ e.gives
  asks : ∀ request ∈ e.asked, request.topic = .chat query
  edits : ∀ id params, .applyEdit id params ∈ e.gives → ∃ text, params.edit = ⟨[(uri, [⟨range, text⟩])]⟩

section Offering

variable {s t : Session} {turns : List Event} {params : CodeActionParams} {command : ActionCommand}
  {document : Document} {job : CommandJob} {number ticket : Nat} {id : RequestId}

/-- What a command says in the end is plain, its edit or its answer. -/
theorem Concludes.mem {uri current : String} {amount : Nat} {result : Except Fault Suggestion}
    {said : List Outbound} (concludes : Concludes job uri amount current result said) {m : Outbound} (told : m ∈ said) :
    m.isPlain = true ∨ m = .response job.id .null ∨
      ∃ id text, m = .applyEdit id ⟨job.command.key, ⟨[(uri, [⟨job.argument.range, text⟩])]⟩⟩ := by
  have shown (text : String) (member : m ∈ failureShown current job text) : m.isPlain = true := by
    unfold failureShown at member
    split at member
    · cases member
    · rw [List.mem_singleton.mp member]
      rfl
  cases concludes with
  | @edit text id before after filled plain =>
    simp only [List.mem_append, List.mem_cons, List.not_mem_nil, or_false] at told plain
    rcases told with (early | rfl | late) | rfl
    · exact .inl (plain m (.inl early))
    · exact .inr (.inr ⟨_, _, rfl⟩)
    · exact .inl (plain m (.inr late))
    · exact .inr (.inl rfl)
  | blank _ plain | failed plain =>
    simp only [List.mem_append, List.mem_singleton] at told
    rcases told with (early | failure) | rfl
    · exact .inl (plain m early)
    · exact .inl (shown _ failure)
    · exact .inr (.inl rfl)
  | odd _ plain =>
    simp only [List.mem_append, List.mem_singleton] at told
    rcases told with early | rfl
    · exact .inl (plain m early)
    · exact .inr (.inl rfl)

/-- An event that gives nothing but plain messages keeps to whatever it asks for. -/
theorem Event.KeepsTo.of_plain {uri : String} {range : Range} {query : ChatQuery} {e : Event}
    (plain : ∀ m ∈ e.gives, m.isPlain = true) (asks : ∀ request ∈ e.asked, request.topic = .chat query) :
    e.KeepsTo uri range query where
  accepts _ _ told := nomatch plain _ told
  asks := asks
  edits _ _ told := nomatch plain _ told

end Offering

end EditorAssist.Session

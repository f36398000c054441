import EditorAssist.Document

/-!
# Looking up documents

A lookup after a change finds the document that the change installed, nothing where it removed one, and
otherwise what it found before.
-/

namespace EditorAssist.DocumentStore

variable {store : DocumentStore} {document : Document} {uri other : String}

/-- A document is found under its own uri. -/
theorem uri_of_get? (found : store.get? uri = some document) : document.uri = uri := by
  have own := List.find?_some found
  exact beq_iff_eq.mp own

theorem find?_put (document : Document) (documents : List Document) (uri : String) :
    (put document documents).find? (·.uri == uri) =
      if document.uri = uri then some document else documents.find? (·.uri == uri) := by
  induction documents with
  | nil =>
    by_cases own : document.uri = uri
    · simp [put, own]
    · simp [put, own]
  | cons first rest ih =>
    by_cases replaced : first.uri = document.uri
    · by_cases own : document.uri = uri
      · simp [put, replaced, own]
      · simp [put, replaced, own]
    · rw [put, if_neg (by simpa using replaced), List.find?_cons, ih, List.find?_cons]
      by_cases own : document.uri = uri
      · have different : (first.uri == uri) = false := beq_eq_false_iff_ne.mpr (own ▸ replaced)
        rw [different]
      · rw [if_neg own, if_neg own]

theorem get?_set (store : DocumentStore) (document : Document) (uri : String) :
    (store.set document).get? uri = if document.uri = uri then some document else store.get? uri :=
  find?_put document store.documents uri

theorem get?_setCurrent (store : DocumentStore) (other uri : String) :
    (store.setCurrent other).get? uri = store.get? uri := rfl

/-- A new text is found where there was a document before. -/
theorem get?_updateText (store : DocumentStore) (other : String) (version : Int) (text uri : String) :
    (store.updateText other version text).get? uri =
      if other = uri then (store.get? uri).map fun document => { document with text, version }
      else store.get? uri := by
  unfold updateText
  cases found : store.get? other with
  | none =>
    by_cases own : other = uri
    · subst own
      rw [if_pos rfl, found]
      exact found
    · rw [if_neg own]
      rfl
  | some document =>
    have named := uri_of_get? found
    refine (find?_put { document with text, version } store.documents uri).trans ?_
    by_cases own : other = uri
    · subst own
      rw [if_pos rfl, found]
      exact if_pos named
    · rw [if_neg own]
      exact if_neg (named ▸ own)

theorem get?_delete (store : DocumentStore) (other uri : String) :
    (store.delete other).get? uri = if other = uri then none else store.get? uri := by
  unfold delete get?
  rw [List.find?_filter]
  by_cases own : other = uri
  · subst own
    rw [if_pos rfl]
    refine List.find?_eq_none.mpr fun document _ => ?_
    simp
  · rw [if_neg own]
    refine congrArg (List.find? · store.documents) (funext fun document => ?_)
    by_cases named : document.uri = uri
    · simp [named, Ne.symm own]
    · simp [named]

end EditorAssist.DocumentStore

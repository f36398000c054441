import EditorAssist.Proofs.Document
import Mathlib.Data.List.Induction

/-!
# Edits of the document store

The store after a row of edits, and what can be said of it by the edits alone: a document stands if it was
opened and not closed since, in the language in which it was opened last and with the text and the version
that it was given last. Main statement: that is what is found, and no more.
-/

namespace EditorAssist

/-- What can be done to the documents. -/
inductive DocumentEdit where
  | opens (document : Document)
  | changes (uri : String) (version : Int) (text : String)
  | closes (uri : String)
  | selects (uri : String)
  deriving DecidableEq

namespace DocumentEdit

/-- The document that an edit is about. -/
def uri : DocumentEdit → String
  | opens document => document.uri
  | changes uri _ _ => uri
  | closes uri => uri
  | selects uri => uri

/-- Whether an edit opens a document. -/
def Opens (uri : String) : DocumentEdit → Prop
  | opens document => document.uri = uri
  | _ => False

/-- Whether an edit opens or closes a document. -/
def Decides (uri : String) : DocumentEdit → Prop
  | opens document => document.uri = uri
  | closes other => other = uri
  | _ => False

/-- Whether an edit opens or closes a document or replaces its text. -/
def Touches (uri : String) : DocumentEdit → Prop
  | opens document => document.uri = uri
  | changes other _ _ => other = uri
  | closes other => other = uri
  | selects _ => False

instance (uri : String) : DecidablePred (Opens uri)
  | opens document => inferInstanceAs (Decidable (document.uri = uri))
  | changes .. | closes _ | selects _ => inferInstanceAs (Decidable False)

instance (uri : String) : DecidablePred (Decides uri)
  | opens document => inferInstanceAs (Decidable (document.uri = uri))
  | closes other => inferInstanceAs (Decidable (other = uri))
  | changes .. | selects _ => inferInstanceAs (Decidable False)

instance (uri : String) : DecidablePred (Touches uri)
  | opens document => inferInstanceAs (Decidable (document.uri = uri))
  | changes other .. | closes other => inferInstanceAs (Decidable (other = uri))
  | selects _ => inferInstanceAs (Decidable False)

theorem Opens.touches {uri : String} {e : DocumentEdit} (opens : e.Opens uri) : e.Touches uri := by
  cases e with
  | opens document => exact opens
  | _ => exact opens.elim

theorem Decides.touches {uri : String} {e : DocumentEdit} (decides : e.Decides uri) : e.Touches uri := by
  cases e with
  | opens document => exact decides
  | closes other => exact decides
  | _ => exact decides.elim

theorem Touches.uri {uri : String} {e : DocumentEdit} (touches : e.Touches uri) : e.uri = uri := by
  cases e with
  | selects other => exact touches.elim
  | _ => exact touches

end DocumentEdit

namespace DocumentStore

open DocumentEdit

/-- The store after one edit. -/
def edit (store : DocumentStore) : DocumentEdit → DocumentStore
  | opens document => store.set document
  | changes uri version text => store.updateText uri version text
  | closes uri => store.delete uri
  | selects uri => store.setCurrent uri

/-- The store after some edits, in order. -/
def after (store : DocumentStore) (edits : List DocumentEdit) : DocumentStore := edits.foldl edit store

/-- What the edits of a session say of a document: it is absent if it was never opened or if it was closed and
not opened since. Otherwise it is as it was opened last, with the text and the version of the last change since. -/
inductive Stands (uri : String) : List DocumentEdit → Option Document → Prop
  | unopened {edits : List DocumentEdit} (never : ∀ e ∈ edits, ¬e.Opens uri) : Stands uri edits none
  | closed {before since : List DocumentEdit} (never : ∀ e ∈ since, ¬e.Opens uri) :
      Stands uri (before ++ closes uri :: since) none
  | opened {before since : List DocumentEdit} {document : Document} (own : document.uri = uri)
      (still : ∀ e ∈ since, ¬e.Touches uri) : Stands uri (before ++ opens document :: since) (some document)
  | changed {before between since : List DocumentEdit} {document : Document} {version : Int} {text : String}
      (own : document.uri = uri) (open_ : ∀ e ∈ between, ¬e.Decides uri)
      (still : ∀ e ∈ since, ¬e.Touches uri) :
      Stands uri (before ++ opens document :: (between ++ changes uri version text :: since))
        (some { document with text, version })

section Lookups

variable {store : DocumentStore} {edits : List DocumentEdit} {e : DocumentEdit} {uri : String}
  {found : Option Document}

@[simp] theorem after_cons (store : DocumentStore) (e : DocumentEdit) (edits : List DocumentEdit) :
    store.after (e :: edits) = (store.edit e).after edits := rfl

theorem after_append (store : DocumentStore) (first later : List DocumentEdit) :
    store.after (first ++ later) = (store.after first).after later :=
  List.foldl_append

/-! ## One edit -/

/-- An edit leaves the documents alone that it does not touch. -/
theorem get?_edit_of_not_touches (away : ¬e.Touches uri) : (store.edit e).get? uri = store.get? uri := by
  cases e with
  | opens document => exact (get?_set ..).trans (if_neg away)
  | changes other version text => exact (get?_updateText ..).trans (if_neg away)
  | closes other => exact (get?_delete ..).trans (if_neg away)
  | selects other => exact get?_setCurrent ..

/-- A document that is absent stays so until it is opened. -/
theorem get?_edit_of_absent (absent : store.get? uri = none) (never : ¬e.Opens uri) :
    (store.edit e).get? uri = none := by
  cases e with
  | opens document => exact (get?_set ..).trans ((if_neg never).trans absent)
  | changes other version text =>
    rw [edit, get?_updateText, absent]
    split <;> rfl
  | closes other =>
    rw [edit, get?_delete, absent]
    split <;> rfl
  | selects other => exact absent

/-- A document that is neither opened nor closed keeps its uri and its language. -/
theorem get?_edit_of_not_decides {document : Document} (stored : store.get? uri = some document)
    (open_ : ¬e.Decides uri) :
    ∃ text version, (store.edit e).get? uri = some { document with text, version } := by
  cases e with
  | opens other =>
    refine ⟨document.text, document.version, ?_⟩
    exact (get?_set ..).trans ((if_neg open_).trans stored)
  | changes other version text =>
    rw [edit, get?_updateText, stored]
    split
    · exact ⟨text, version, rfl⟩
    · exact ⟨document.text, document.version, rfl⟩
  | closes other =>
    refine ⟨document.text, document.version, ?_⟩
    exact (get?_delete ..).trans ((if_neg open_).trans stored)
  | selects other => exact ⟨document.text, document.version, stored⟩

theorem get?_after_of_not_touches (away : ∀ e ∈ edits, ¬e.Touches uri) :
    (store.after edits).get? uri = store.get? uri := by
  induction edits generalizing store with
  | nil => rfl
  | cons e rest ih =>
    rw [after_cons, ih fun other member => away other (List.mem_cons_of_mem _ member)]
    exact get?_edit_of_not_touches (away e (List.mem_cons_self ..))

theorem get?_after_of_absent (absent : store.get? uri = none) (never : ∀ e ∈ edits, ¬e.Opens uri) :
    (store.after edits).get? uri = none := by
  induction edits generalizing store with
  | nil => exact absent
  | cons e rest ih =>
    rw [after_cons]
    apply ih
    · exact get?_edit_of_absent absent (never e (List.mem_cons_self ..))
    · exact fun other member => never other (List.mem_cons_of_mem _ member)

theorem get?_after_of_not_decides {document : Document} (stored : store.get? uri = some document)
    (open_ : ∀ e ∈ edits, ¬e.Decides uri) :
    ∃ text version, (store.after edits).get? uri = some { document with text, version } := by
  induction edits generalizing store document with
  | nil => exact ⟨document.text, document.version, stored⟩
  | cons e rest ih =>
    obtain ⟨text, version, kept⟩ := get?_edit_of_not_decides stored (open_ e (List.mem_cons_self ..))
    obtain ⟨text', version', later⟩ := ih kept fun other member => open_ other (List.mem_cons_of_mem _ member)
    exact ⟨text', version', later⟩

/-- What the edits say is what is found. -/
theorem Stands.get? (stands : Stands uri edits found) : (empty.after edits).get? uri = found := by
  cases stands with
  | unopened never => exact get?_after_of_absent rfl never
  | closed never =>
    rw [after_append, after_cons]
    apply get?_after_of_absent _ never
    exact (get?_delete ..).trans (if_pos rfl)
  | @opened _ _ document own still =>
    rw [after_append, after_cons, get?_after_of_not_touches still]
    exact (get?_set ..).trans (if_pos own)
  | @changed before between since document version text own open_ still =>
    rw [after_append, after_cons, after_append, after_cons, get?_after_of_not_touches still]
    have stored : ((empty.after before).edit (opens document)).get? uri = some document :=
      (get?_set ..).trans (if_pos own)
    obtain ⟨text', version', kept⟩ := get?_after_of_not_decides stored open_
    exact (get?_updateText ..).trans (by rw [if_pos rfl, kept]; rfl)

/-- What holds of some edits and of one more holds of them all. -/
theorem forall_mem_concat {p : DocumentEdit → Prop} (before : ∀ x ∈ edits, p x) (last : p e) :
    ∀ x ∈ edits ++ [e], p x := by
  intro x member
  rcases List.mem_append.mp member with old | new
  · exact before x old
  · exact List.mem_singleton.mp new ▸ last

/-- An edit that does not touch a document leaves what is said of it. -/
theorem Stands.skip (stands : Stands uri edits found) (away : ¬e.Touches uri) :
    Stands uri (edits ++ [e]) found := by
  have unopened : ¬e.Opens uri := fun opens => away opens.touches
  cases stands with
  | unopened never => exact .unopened (forall_mem_concat never unopened)
  | closed never =>
    rw [List.append_assoc, List.cons_append]
    exact .closed (forall_mem_concat never unopened)
  | opened own still =>
    rw [List.append_assoc, List.cons_append]
    exact .opened own (forall_mem_concat still away)
  | changed own open_ still =>
    rw [List.append_assoc, List.cons_append, List.append_assoc, List.cons_append]
    exact .changed own open_ (forall_mem_concat still away)

/-- A new text continues what was said before. -/
theorem Stands.change (stands : Stands uri edits found) (version : Int) (text : String) :
    ∃ next, Stands uri (edits ++ [changes uri version text]) next := by
  cases stands with
  | unopened never => exact ⟨none, .unopened (forall_mem_concat never id)⟩
  | closed never =>
    rw [List.append_assoc, List.cons_append]
    exact ⟨none, .closed (forall_mem_concat never id)⟩
  | opened own still =>
    rw [List.append_assoc, List.cons_append]
    refine ⟨_, .changed own (fun x member decides => still x member decides.touches) nofun⟩
  | @changed before between since document version' text' own open_ still =>
    have undecided : ∀ x ∈ between ++ changes uri version' text' :: since, ¬x.Decides uri := by
      intro x member
      rcases List.mem_append.mp member with old | late
      · exact open_ x old
      · rcases List.mem_cons.mp late with rfl | later
        · exact id
        · exact fun decides => still x later decides.touches
    rw [List.append_assoc, List.cons_append]
    exact ⟨_, .changed own undecided nofun⟩

end Lookups

end DocumentStore

end EditorAssist

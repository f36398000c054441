import EditorAssist.Proofs.Settings.References
import EditorAssist.Proofs.Text.Search

/-!
# One pass over the references

A text is put together from plain pieces and references between them. Expanding it fills in what the variables stand
for and leaves the pieces: the scan begins again behind each reference, so nothing that was filled in is ever looked
at. The start of a mark at the end of a piece comes to nothing, because the reference behind it opens with the brace that
stands nowhere else in the mark.
-/

namespace EditorAssist.Settings.Environment

open EditorAssist.Text

/-- A text with references: what stands in front of the first, and each reference with what stands behind it. -/
structure Template where
  front : List Char
  parts : List (String × List Char)

namespace Template

/-- The text as it is written. -/
def text (t : Template) : List Char := t.front ++ t.parts.flatMap fun part => reference part.1 ++ part.2

/-- The text with what the variables stand for; one that is not set stands for nothing. -/
def filled (t : Template) (environ : Environment) : List Char :=
  t.front ++ t.parts.flatMap fun part => environ.value part.1 ++ part.2

/-- The pieces hold no mark of a reference, and the names are such as a reference can have. -/
structure WellFormed (t : Template) : Prop where
  front : ¬referenceMark <:+: t.front
  behind : ∀ part ∈ t.parts, ¬referenceMark <:+: part.2
  named : ∀ part ∈ t.parts, part.1 ≠ "" ∧ '\x7d' ∉ part.1.toList

end Template

section Scan

variable {environ : Environment} {piece rest : List Char}

/-- A reference can be opened within a plain piece only by what stands behind it, and not by what opens with a brace. -/
theorem strip?_of_plain {c : Char} (plain : ¬referenceMark <:+: c :: piece)
    (behind : ∀ d, rest.head? = some d → d = '\x7b') : strip? referenceMark (c :: piece ++ rest) = none := by
  cases opened : strip? referenceMark (c :: piece ++ rest) with
  | none => rfl
  | some after =>
    rcases List.append_eq_append_iff.mp (strip?_eq_some_iff.mp opened) with ⟨more, mark, follows⟩ | ⟨more, held, -⟩
    · cases more with
      | nil => exact absurd ⟨[], [], by rw [mark]; simp⟩ plain
      | cons d more =>
        -- The mark goes on behind the piece, with a character other than its brace.
        obtain rfl : d = '\x7b' := behind d (by rw [follows]; rfl)
        have tail : "env:".toList = piece ++ '\x7b' :: more := (List.cons.inj mark).2
        have within : '\x7b' ∈ "env:".toList := tail ▸ List.mem_append_right piece List.mem_cons_self
        exact absurd within (by decide)
    · exact absurd ⟨[], more, held.symm⟩ plain

/-- A plain piece stays, and the scan goes on behind it. -/
theorem expand_plain (plain : ¬referenceMark <:+: piece) (behind : ∀ d, rest.head? = some d → d = '\x7b') :
    environ.expand (piece ++ rest) = piece ++ environ.expand rest := by
  induction piece with
  | nil => rfl
  | cons c piece ih =>
    have closed : (strip? referenceMark (c :: (piece ++ rest))).bind reference? = none :=
      congrArg (·.bind reference?) (strip?_of_plain plain behind)
    have further : ¬referenceMark <:+: piece := fun occurs => plain (List.infix_cons occurs)
    rw [List.cons_append, expand_of_none closed, ih further, List.cons_append]

/-- A reference is replaced, and the scan goes on behind it. -/
theorem expand_reference {name : String} (named : name ≠ "") (whole : '\x7d' ∉ name.toList) :
    environ.expand (reference name ++ rest) = environ.value name ++ environ.expand rest := by
  have given : name.toList ≠ [] := mt String.toList_eq_nil_iff.mp named
  have written : reference name ++ rest = referenceMark ++ (name.toList ++ '\x7d' :: rest) := by
    rw [reference, List.append_assoc, List.append_assoc, List.singleton_append]
  have found : reference? (name.toList ++ '\x7d' :: rest) = some (name.toList, rest) := by
    rw [reference?, breakOn_eq_some_iff.mpr (firstAt_singleton whole rest)]
    exact if_neg (by simpa using given)
  have opened : (strip? referenceMark (reference name ++ rest)).bind reference? = some (name.toList, rest) := by
    rw [strip?_eq_some_iff.mpr written, Option.bind_some, found]
  have expanded : environ.expand (reference name ++ rest) =
      environ.value (String.ofList name.toList) ++ environ.expand rest := expand_of_reference opened
  rwa [String.ofList_toList] at expanded

/-- What begins with a reference, if with anything, opens with a brace. -/
theorem head?_of_parts {parts : List (String × List Char)} {d : Char}
    (first : (parts.flatMap fun part => reference part.1 ++ part.2).head? = some d) : d = '\x7b' := by
  cases parts with
  | nil => cases first
  | cons part parts => exact (Option.some.inj first).symm

theorem expand_parts {parts : List (String × List Char)} (plain : ∀ part ∈ parts, ¬referenceMark <:+: part.2)
    (named : ∀ part ∈ parts, part.1 ≠ "" ∧ '\x7d' ∉ part.1.toList) :
    environ.expand (parts.flatMap fun part => reference part.1 ++ part.2) =
      parts.flatMap fun part => environ.value part.1 ++ part.2 := by
  induction parts with
  | nil => rw [List.flatMap_nil, List.flatMap_nil, expand]
  | cons part parts ih =>
    obtain ⟨here, later⟩ := List.forall_mem_cons.mp plain
    obtain ⟨⟨given, whole⟩, others⟩ := List.forall_mem_cons.mp named
    rw [List.flatMap_cons, List.flatMap_cons, List.append_assoc, expand_reference given whole,
      expand_plain here fun _ => head?_of_parts, ih later others, List.append_assoc]

end Scan

/-- References are replaced in one pass: whatever the variables stand for, it is filled in between the pieces as it is,
and neither within it nor across its edges is anything replaced again. -/
theorem references_expand_in_one_pass {t : Template} (wellFormed : t.WellFormed) (environ : Environment) :
    environ.expand t.text = t.filled environ := by
  rw [Template.text, Template.filled, expand_plain wellFormed.front fun _ => head?_of_parts,
    expand_parts wellFormed.behind wellFormed.named]

/-- References next to each other and behind the start of a mark, under values that hold references and braces. -/
def nestedTemplate : Template :=
  ⟨"\x7benv".toList, [("A", []), ("B", "\x7d\x7be".toList), ("\x7benv:A", "nv:C\x7d".toList), ("C", ":\x7b".toList)]⟩

def nestedEnvironment : Environment := [("A", "\x7benv:C\x7d"), ("B", "\x7benv:"), ("\x7benv:A", "")]

theorem wellFormed_nestedTemplate : nestedTemplate.WellFormed where
  front := by decide
  behind := by decide
  named := by decide

theorem values_are_not_expanded :
    nestedTemplate.WellFormed ∧
      nestedEnvironment.expand nestedTemplate.text = nestedTemplate.filled nestedEnvironment ∧
      nestedTemplate.filled nestedEnvironment = "\x7benv\x7benv:C\x7d\x7benv:\x7d\x7benv:C\x7d:\x7b".toList :=
  ⟨wellFormed_nestedTemplate, references_expand_in_one_pass wellFormed_nestedTemplate nestedEnvironment, by decide⟩

end EditorAssist.Settings.Environment

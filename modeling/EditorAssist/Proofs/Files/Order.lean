import EditorAssist.Files.Path
import EditorAssist.Proofs.Text.Search
import Mathlib.Data.List.Infix
import Mathlib.Data.List.Lex

/-!
# Paths in order

A path comes before another where its components do: the first component in which they differ decides, so `a/b` comes
before `a-b`, although the texts are in the other order. Two paths are in order or they are the same, and sorting
them is by this order. A path is read back from its text (`parse_toText`).
-/

namespace EditorAssist.Files

open EditorAssist.Text

section Order

/-- Components come strictly before others: the first two that differ decide, or else the shorter come first. Two
components are compared in the same way, character by character. -/
def Precedes : List (List Char) → List (List Char) → Prop := List.Lex (List.Lex fun c d => c.toNat < d.toNat)

def Path.Before (p q : Path) : Prop := Precedes p.parts q.parts

variable {first second third : List (List Char)}

instance asymm_toNat : Std.Asymm fun c d : Char => c.toNat < d.toNat := ⟨fun _ _ => Nat.lt_asymm⟩

instance trichotomous_toNat : Std.Trichotomous fun c d : Char => c.toNat < d.toNat :=
  ⟨fun _ _ less greater => Char.toNat_inj.mp (Nat.le_antisymm (Nat.le_of_not_lt greater) (Nat.le_of_not_lt less))⟩

instance : Std.Asymm Precedes := inferInstanceAs (Std.Asymm (List.Lex _))

instance : Std.Trichotomous Precedes := inferInstanceAs (Std.Trichotomous (List.Lex _))

instance : Std.Asymm Path.Before := ⟨fun p q => Std.Asymm.asymm (r := Precedes) p.parts q.parts⟩

theorem Precedes.trans (one : Precedes first second) (other : Precedes second third) : Precedes first third :=
  List.lex_trans (List.lex_trans Nat.lt_trans) one other

theorem inOrder_iff : inOrder first second = true ↔ ¬Precedes second first := by
  rw [inOrder, Bool.not_eq_true', ← Bool.not_eq_true, List.lex_eq_true_iff_lex]
  simp only [List.lex_eq_true_iff_lex, decide_eq_true_eq]
  rfl

/-- A directory comes before what continues its name. -/
example : inOrder [['a'], ['b']] [['a', '-', 'b']] = true := by decide

theorem inOrder_iff_eq_or_precedes : inOrder first second = true ↔ first = second ∨ Precedes first second := by
  rw [inOrder_iff]
  constructor
  · intro late
    by_cases early : Precedes first second
    · exact .inr early
    · exact .inl (Std.Trichotomous.trichotomous first second early late)
  · rintro (rfl | early)
    · exact fun before => Std.Asymm.asymm _ _ before before
    · exact Std.Asymm.asymm _ _ early

/-- Sorting distinct lists of components makes each precede all behind it. -/
theorem pairwise_precedes_mergeSort {all : List (List (List Char))} (distinct : all.Nodup) :
    (all.mergeSort inOrder).Pairwise Precedes := by
  have sorted : (all.mergeSort inOrder).Pairwise (inOrder · · = true) := List.pairwise_mergeSort
    (by
      intro a b c one other
      rw [inOrder_iff_eq_or_precedes] at one other ⊢
      obtain rfl | one := one
      · exact other
      · obtain rfl | other := other
        · exact .inr one
        · exact .inr (one.trans other))
    (by
      intro a b
      rw [Bool.or_eq_true, inOrder_iff, inOrder_iff]
      by_cases early : Precedes a b
      · exact .inl (Std.Asymm.asymm _ _ early)
      · exact .inr early)
    all
  have apart : (all.mergeSort inOrder).Nodup := (List.mergeSort_perm all inOrder).nodup_iff.mpr distinct
  refine (sorted.and apart).imp ?_
  rintro a b ⟨ordered, other⟩
  exact (inOrder_iff_eq_or_precedes.mp ordered).resolve_left other

/-- The same components in front of both decide nothing. -/
theorem Precedes.append_left (front : List (List Char)) (early : Precedes first second) :
    Precedes (front ++ first) (front ++ second) := by
  induction front with
  | nil => exact early
  | cons part front ih => exact .cons ih

end Order

section Texts

/-- What a path can be read into: not empty, without a slash, and not a single dot. -/
@[mk_iff]
structure IsComponent (part : List Char) : Prop where
  filled : part ≠ []
  whole : '/' ∉ part
  other : part ≠ ['.']

instance : DecidablePred IsComponent := fun part => decidable_of_iff _ (isComponent_iff part).symm

variable {text part : List Char} {parts : List (List Char)}

theorem splitOn_cons {before : List Char} (absent : '/' ∉ before) (after : List Char) :
    splitOn '/' [] (before ++ '/' :: after) = before :: splitOn '/' [] after := by
  have broken : breakOn ['/'] (before ++ '/' :: after) = some (before, after) :=
    breakOn_eq_some_iff.mpr (firstAt_singleton absent after)
  rw [splitOn]
  split
  · next none => cases none.symm.trans broken
  · next found =>
    cases found.symm.trans broken
    rfl

theorem splitOn_joinWith (filled : parts ≠ []) (whole : ∀ part ∈ parts, '/' ∉ part) :
    splitOn '/' [] (joinWith ['/'] parts) = parts := by
  induction parts with
  | nil => exact absurd rfl filled
  | cons part parts ih =>
    have absent : '/' ∉ part := whole part List.mem_cons_self
    by_cases last : parts = []
    · subst last
      exact splitOn_of_absent (mt (List.singleton_infix_iff ..).mp absent)
    · rw [joinWith_cons _ _ last, List.append_assoc, List.singleton_append, splitOn_cons absent,
        ih last fun part member => whole part (List.mem_cons_of_mem _ member)]

theorem slash_notMem_of_mem_splitOn (member : part ∈ splitOn '/' [] text) : '/' ∉ part := by
  induction text using splitOn.induct '/' [] with
  | case1 text none =>
    have absent := breakOn_eq_none_iff.mp none
    rw [splitOn_of_absent absent, List.mem_singleton] at member
    subst member
    exact mt (List.singleton_infix_iff ..).mpr absent
  | case2 text before after found _ ih =>
    have place := breakOn_eq_some_iff.mp found
    have absent := place.separator_notMem
    have split : text = before ++ '/' :: after := by simp [place.split]
    rw [split, splitOn_cons absent, List.mem_cons] at member
    obtain rfl | later := member
    · exact absent
    · exact ih later

theorem isComponent_of_mem_parse (member : part ∈ (Path.parse text).parts) : IsComponent part := by
  obtain ⟨piece, said⟩ := List.mem_filter.mp member
  simp only [Bool.and_eq_true, Bool.not_eq_true', List.isEmpty_eq_false_iff, bne_iff_ne] at said
  exact ⟨said.1, slash_notMem_of_mem_splitOn piece, said.2⟩

theorem rootOf_cases (text : List Char) :
    Path.rootOf text = [] ∨ Path.rootOf text = ['/'] ∨ Path.rootOf text = ['/', '/'] := by
  rw [Path.rootOf]
  split
  · exact .inl rfl
  · exact .inr (.inr rfl)
  · exact .inr (.inl rfl)

theorem rootOf_append {root : List Char} (known : root = [] ∨ root = ['/'] ∨ root = ['/', '/'])
    (start : text.head? ≠ some '/') : Path.rootOf (root ++ text) = root := by
  have nothing : text.takeWhile (· = '/') = [] := by
    cases text with
    | nil => rfl
    | cons c text => exact List.takeWhile_cons_of_neg (by simpa using start)
  obtain rfl | rfl | rfl := known <;> simp [Path.rootOf, nothing]

theorem splitOn_root {root : List Char} (known : root = [] ∨ root = ['/'] ∨ root = ['/', '/']) (text : List Char) :
    (splitOn '/' [] (root ++ text)).filter (fun part => !part.isEmpty && part != ['.']) =
      (splitOn '/' [] text).filter fun part => !part.isEmpty && part != ['.'] := by
  have slash (text : List Char) : splitOn '/' [] ('/' :: text) = [] :: splitOn '/' [] text :=
    splitOn_cons List.not_mem_nil text
  obtain rfl | rfl | rfl := known
  · rfl
  · rw [List.singleton_append, slash]
    rfl
  · rw [List.cons_append, List.singleton_append, slash, slash]
    rfl

/-- A path with some components is read back from its text. -/
theorem parse_toText (text : List Char) (filled : parts ≠ []) (plain : ∀ part ∈ parts, IsComponent part) :
    Path.parse (Path.toText ⟨Path.rootOf text, parts⟩) = ⟨Path.rootOf text, parts⟩ := by
  have known := rootOf_cases text
  have start : (joinWith ['/'] parts).head? ≠ some '/' := by
    obtain ⟨part, more, rfl⟩ := List.exists_cons_of_ne_nil filled
    obtain ⟨c, rest, rfl⟩ := List.exists_cons_of_ne_nil (plain part List.mem_cons_self).filled
    have other : c ≠ '/' := fun same => (plain _ List.mem_cons_self).whole (same ▸ List.mem_cons_self)
    cases more <;> simpa [joinWith] using other
  have shown : Path.toText ⟨Path.rootOf text, parts⟩ = Path.rootOf text ++ joinWith ['/'] parts := by
    simp [Path.toText, filled]
  have pieces : splitOn '/' [] (joinWith ['/'] parts) = parts :=
    splitOn_joinWith filled fun part member => (plain part member).whole
  have kept : parts.filter (fun part => !part.isEmpty && part != ['.']) = parts :=
    List.filter_eq_self.mpr fun part member => by simp [(plain part member).filled, (plain part member).other]
  rw [shown, Path.parse, rootOf_append known start, splitOn_root known, pieces, kept]

end Texts

end EditorAssist.Files

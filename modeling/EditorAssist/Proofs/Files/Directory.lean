import EditorAssist.Files.Tree
import EditorAssist.Proofs.Files.Order
import Mathlib.Data.List.Pairwise

/-!
# Files below a directory

In a proper tree nothing lies below a file, and no two files have one path. What a path leads to then depends on the
files that there are, not on the order in which the tree lists them, and further files elsewhere change nothing
(`LeadsTo.readText_of_kept`). The files below a directory are listed once each, in order (`LeadsTo.filesAt?_eq`).
-/

namespace EditorAssist.Files

/-- What a file or a directory can be called. -/
@[mk_iff]
structure IsName (name : List Char) : Prop extends IsComponent name where
  child : Tree.isParent name = false

instance : DecidablePred IsName := fun name => decidable_of_iff _ (isName_iff name).symm

/-- Neither file has the path of the other, or lies below it. -/
def File.Apart (one other : File) : Prop :=
  one.path.root = other.path.root → ¬one.path.parts <+: other.path.parts ∧ ¬other.path.parts <+: one.path.parts

instance : DecidableRel File.Apart := fun _ _ => inferInstanceAs (Decidable (_ → _ ∧ _))

instance : Std.Symm File.Apart := ⟨fun _ _ apart same => (apart same.symm).symm⟩

namespace Tree

/-- A tree as a file system holds one. -/
@[mk_iff]
structure IsProper (tree : Tree) : Prop where
  named : ∀ file ∈ tree, file.path.parts ≠ [] ∧ ∀ part ∈ file.path.parts, IsName part
  apart : tree.Pairwise File.Apart

instance : DecidablePred IsProper := fun tree => decidable_of_iff _ (isProper_iff tree).symm

/-- A path leads to a directory of the tree, at these components. -/
structure LeadsTo (tree : Tree) (path : Path) (directory : List (List Char)) : Prop where
  place : tree.place path = .inside directory
  found : tree.find? path = some .directory

/-- A file below the directory that a path leads to, as seen from that path. -/
def LiesBelow (tree : Tree) (path : Path) (directory : List (List Char)) (file : Path) : Prop :=
  ∃ entry ∈ tree, ∃ more, more ≠ [] ∧ entry.path = ⟨path.root, directory ++ more⟩ ∧
    file = ⟨path.root, path.parts ++ more⟩

variable {tree tree' : Tree} {path file : Path} {entry : File} {here directory parts more : List (List Char)}
  {absolute : Bool}

/-! ## Trees as sets of files -/

section Members

theorem mem_withRoot : entry ∈ tree.withRoot path ↔ entry ∈ tree ∧ entry.path.root = path.root := by
  simp [withRoot]

theorem IsProper.eq_of_prefix (proper : tree.IsProper) {one other : File} (here : one ∈ tree) (there : other ∈ tree)
    (same : one.path.root = other.path.root) (above : one.path.parts <+: other.path.parts) : one = other := by
  by_contra different
  exact (proper.apart.forall here there different same).1 above

theorem fileAt?_eq_some_iff (proper : tree.IsProper) :
    (tree.withRoot path).fileAt? parts = some entry ↔ entry ∈ tree ∧ entry.path = ⟨path.root, parts⟩ := by
  have sound {entry : File} (found : (tree.withRoot path).fileAt? parts = some entry) :
      entry ∈ tree ∧ entry.path = ⟨path.root, parts⟩ := by
    obtain ⟨member, root⟩ := mem_withRoot.mp (List.mem_of_find?_eq_some found)
    have same : entry.path.parts = parts := by simpa using List.find?_some found
    exact ⟨member, by rw [← root, ← same]⟩
  refine ⟨sound, ?_⟩
  rintro ⟨member, there⟩
  cases found : (tree.withRoot path).fileAt? parts with
  | none =>
    have rooted : entry ∈ tree.withRoot path := mem_withRoot.mpr ⟨member, by rw [there]⟩
    exact absurd (by rw [there]; exact beq_self_eq_true parts) (List.find?_eq_none.mp found entry rooted)
  | some other =>
    obtain ⟨also, same⟩ := sound found
    rw [proper.eq_of_prefix also member (by rw [same, there]) (by rw [same, there])]

theorem isPrefixOf_and_ne_iff : (here.isPrefixOf parts && parts != here) = true ↔ ∃ more, more ≠ [] ∧ parts = here ++ more := by
  rw [Bool.and_eq_true, List.isPrefixOf_iff_prefix, bne_iff_ne]
  constructor
  · rintro ⟨⟨more, rfl⟩, other⟩
    exact ⟨more, fun nothing => other (by rw [nothing, List.append_nil]), rfl⟩
  · rintro ⟨more, filled, rfl⟩
    exact ⟨List.prefix_append here more, fun same => filled (List.append_right_eq_self.mp same)⟩

theorem holdsDirectory_iff : (tree.withRoot path).holdsDirectory here = true ↔
    here = [] ∨ ∃ entry ∈ tree, ∃ more, more ≠ [] ∧ entry.path = ⟨path.root, here ++ more⟩ := by
  rw [holdsDirectory, Bool.or_eq_true, List.isEmpty_iff, List.any_eq_true]
  refine or_congr_right ⟨?_, ?_⟩
  · rintro ⟨entry, member, below⟩
    obtain ⟨member, root⟩ := mem_withRoot.mp member
    obtain ⟨more, filled, parts⟩ := isPrefixOf_and_ne_iff.mp below
    exact ⟨entry, member, more, filled, by rw [← root, ← parts]⟩
  · rintro ⟨entry, member, more, filled, there⟩
    exact ⟨entry, mem_withRoot.mpr ⟨member, by rw [there]⟩, isPrefixOf_and_ne_iff.mpr ⟨more, filled, by rw [there]⟩⟩

theorem mem_below_iff : more ∈ (tree.withRoot path).below here ↔
    more ≠ [] ∧ ∃ entry ∈ tree, entry.path = ⟨path.root, here ++ more⟩ := by
  rw [below, List.mem_filterMap]
  constructor
  · rintro ⟨entry, member, taken⟩
    obtain ⟨member, root⟩ := mem_withRoot.mp member
    rw [Option.ite_none_right_eq_some] at taken
    obtain ⟨below, rest⟩ := taken
    obtain ⟨more, filled, parts⟩ := isPrefixOf_and_ne_iff.mp below
    rw [parts, List.drop_left, Option.some.injEq] at rest
    subst rest
    exact ⟨filled, entry, member, by rw [← root, ← parts]⟩
  · rintro ⟨filled, entry, member, there⟩
    refine ⟨entry, mem_withRoot.mpr ⟨member, by rw [there]⟩, ?_⟩
    rw [if_pos (isPrefixOf_and_ne_iff.mpr ⟨more, filled, by rw [there]⟩), there, List.drop_left]

theorem nodup_below (proper : tree.IsProper) : ((tree.withRoot path).below here).Nodup := by
  have rooted : (tree.withRoot path).Pairwise fun one other => one.path.parts ≠ other.path.parts := by
    refine (proper.apart.filter _).imp_of_mem ?_
    intro one other here there apart same
    have roots := (mem_withRoot.mp here).2.trans (mem_withRoot.mp there).2.symm
    exact (apart roots).1 (same ▸ List.prefix_rfl)
  refine List.Pairwise.filterMap _ ?_ rooted
  intro one other apart more taken more' taken'
  rw [Option.ite_none_right_eq_some] at taken taken'
  obtain ⟨rest, -, parts⟩ := isPrefixOf_and_ne_iff.mp taken.1
  obtain ⟨rest', -, parts'⟩ := isPrefixOf_and_ne_iff.mp taken'.1
  rw [parts, List.drop_left, Option.some.injEq] at taken
  rw [parts', List.drop_left, Option.some.injEq] at taken'
  rintro rfl
  exact apart (by rw [parts, parts', taken.2, taken'.2])

/-- Where a directory is there is no file. -/
theorem fileAt?_of_holdsDirectory (proper : tree.IsProper) (held : (tree.withRoot path).holdsDirectory here = true) :
    (tree.withRoot path).fileAt? here = none := by
  cases found : (tree.withRoot path).fileAt? here with
  | none => rfl
  | some file =>
    obtain ⟨member, there⟩ := (fileAt?_eq_some_iff proper).mp found
    obtain rfl | ⟨entry, also, more, filled, below⟩ := holdsDirectory_iff.mp held
    · exact absurd (by rw [there]) (proper.named file member).1
    · have same := proper.eq_of_prefix member also (by rw [there, below]) (by rw [there, below]; exact List.prefix_append ..)
      rw [same, below, Path.mk.injEq] at there
      exact absurd (List.append_right_eq_self.mp there.2) filled

end Members

/-! ## Following paths -/

section Following

theorem follow_append (more : List (List Char)) (inside : tree.follow absolute here parts = .inside directory) :
    tree.follow absolute here (parts ++ more) = tree.follow absolute directory more := by
  fun_induction follow tree absolute here parts with
  | case1 here =>
    cases inside
    rfl
  | case2 | case3 | case4 | case5 | case7 => cases inside
  | case6 here part rest free held parent inner ih =>
    rw [List.cons_append, follow, if_neg free, if_neg held, if_pos parent, if_neg inner]
    exact ih inside
  | case8 here part rest free held child short ih =>
    rw [List.cons_append, follow, if_neg free, if_neg held, if_neg child, if_neg short]
    exact ih inside

/-- The rest of the way to a file leads there, unless a name is too long. -/
theorem follow_below (absolute : Bool) (proper : tree.IsProper) (member : entry ∈ tree) (there : entry.path = ⟨path.root, here ++ more⟩) :
    (tree.withRoot path).follow absolute here more = .inside (here ++ more) ∨
      (tree.withRoot path).follow absolute here more = .nameTooLong := by
  induction more generalizing here with
  | nil => exact .inl (congrArg Place.inside (List.append_nil here).symm)
  | cons part rest ih =>
    have held : (tree.withRoot path).holdsDirectory here = true :=
      holdsDirectory_iff.mpr (.inr ⟨entry, member, part :: rest, List.cons_ne_nil part rest, there⟩)
    have name : IsName part := (proper.named entry member).2 part (by rw [there]; simp)
    have further : entry.path = ⟨path.root, (here ++ [part]) ++ rest⟩ := by
      rw [there, List.append_assoc]
      rfl
    have onward := ih further
    rw [List.append_assoc, List.singleton_append] at onward
    simp only [follow, fileAt?_of_holdsDirectory proper held, held, name.child, Option.isSome_none, Bool.not_true,
      Bool.false_eq_true, ↓reduceIte]
    split
    · exact .inr rfl
    · exact onward

end Following

/-! ## Further files -/

section Kept

variable (proper : tree.IsProper) (proper' : tree'.IsProper) (kept : tree ⊆ tree')

include kept in
theorem holdsDirectory_of_kept (held : (tree.withRoot path).holdsDirectory here = true) :
    (tree'.withRoot path).holdsDirectory here = true := by
  rw [holdsDirectory_iff] at held ⊢
  exact held.imp_right fun ⟨entry, member, below⟩ => ⟨entry, kept member, below⟩

include proper proper' kept

theorem fileAt?_of_kept (found : (tree.withRoot path).fileAt? here = some entry) :
    (tree'.withRoot path).fileAt? here = some entry := by
  rw [fileAt?_eq_some_iff proper] at found
  exact (fileAt?_eq_some_iff proper').mpr ⟨kept found.1, found.2⟩

/-- Whatever a way leads to, it still leads there when there are further files. -/
theorem follow_of_kept (known : (tree.withRoot path).follow absolute here parts ≠ .missing) :
    (tree'.withRoot path).follow absolute here parts = (tree.withRoot path).follow absolute here parts := by
  have passes {here : List (List Char)} (held : ¬(!(tree.withRoot path).holdsDirectory here) = true) :
      ¬((tree'.withRoot path).fileAt? here).isSome = true ∧ ¬(!(tree'.withRoot path).holdsDirectory here) = true := by
    have held' := holdsDirectory_of_kept kept (by simpa using held)
    simp [held', fileAt?_of_holdsDirectory proper' held']
  fun_induction follow (tree.withRoot path) absolute here parts with
  | case1 => rfl
  | case2 here part rest file =>
    obtain ⟨entry, found⟩ := Option.isSome_iff_exists.mp file
    rw [follow, if_pos (Option.isSome_of_eq_some (fileAt?_of_kept proper proper' kept found))]
  | case3 | case5 => exact absurd rfl known
  | case4 here part rest free held parent top out =>
    rw [follow, if_neg (passes held).1, if_neg (passes held).2, if_pos parent, if_pos top, if_pos out]
  | case6 here part rest free held parent inner ih =>
    rw [follow, if_neg (passes held).1, if_neg (passes held).2, if_pos parent, if_neg inner]
    exact ih known
  | case7 here part rest free held child long =>
    rw [follow, if_neg (passes held).1, if_neg (passes held).2, if_neg child, if_pos long]
  | case8 here part rest free held child short ih =>
    rw [follow, if_neg (passes held).1, if_neg (passes held).2, if_neg child, if_neg short]
    exact ih known

theorem place_of_kept (known : tree.place path ≠ .missing) : tree'.place path = tree.place path := by
  unfold place at known ⊢
  split at known
  · next long => rw [if_pos long, if_pos long]
  · next short =>
    rw [if_neg short, if_neg short]
    exact follow_of_kept proper proper' kept known

end Kept

/-! ## Directories -/

section Directories

theorem LeadsTo.held (leads : tree.LeadsTo path directory) : (tree.withRoot path).holdsDirectory directory = true := by
  have found := leads.found
  rw [find?, leads.place] at found
  dsimp only at found
  split at found
  · cases found
  · rw [Option.ite_none_right_eq_some] at found
    exact found.1

theorem leadsTo_of_held (proper : tree.IsProper) (inside : tree.place path = .inside directory)
    (held : (tree.withRoot path).holdsDirectory directory = true) : tree.LeadsTo path directory where
  place := inside
  found := by
    simp only [find?, inside, fileAt?_of_holdsDirectory proper held, held, ↓reduceIte]

theorem LeadsTo.kept (proper : tree.IsProper) (proper' : tree'.IsProper) (kept : tree ⊆ tree')
    (leads : tree.LeadsTo path directory) : tree'.LeadsTo path directory := by
  have known : tree.place path ≠ .missing := by
    rw [leads.place]
    exact Place.noConfusion
  exact leadsTo_of_held proper' ((place_of_kept proper proper' kept known).trans leads.place)
    (holdsDirectory_of_kept kept leads.held)

/-- A path beyond a directory leads to the file below it, unless a name is too long. -/
theorem LeadsTo.place_below (proper : tree.IsProper) (leads : tree.LeadsTo path directory) (member : entry ∈ tree)
    (there : entry.path = ⟨path.root, directory ++ more⟩) :
    tree.place ⟨path.root, path.parts ++ more⟩ = .inside (directory ++ more) ∨
      tree.place ⟨path.root, path.parts ++ more⟩ = .nameTooLong := by
  have inside := leads.place
  rw [Tree.place] at inside ⊢
  split at inside
  · cases inside
  · split
    · exact .inr rfl
    · have onward := follow_append more inside
      have beyond := follow_below (!path.root.isEmpty) proper member there
      exact beyond.imp onward.trans onward.trans

theorem find?_of_fileAt? (inside : tree.place path = .inside parts)
    (there : (tree.withRoot path).fileAt? parts = some entry) : tree.find? path = some (.file entry.bytes) := by
  rw [find?, inside]
  dsimp only
  rw [there]

/-- What is read from a file below a directory is the same when there are further files. -/
theorem LeadsTo.readText_of_kept (proper : tree.IsProper) (proper' : tree'.IsProper) (kept : tree ⊆ tree')
    (leads : tree.LeadsTo path directory) (below : tree.LiesBelow path directory file) :
    tree'.readText file = tree.readText file := by
  obtain ⟨entry, member, more, -, there, rfl⟩ := below
  have onward := leads.place_below proper member there
  have known : tree.place ⟨path.root, path.parts ++ more⟩ ≠ .missing := by
    rintro missing
    rw [missing] at onward
    rcases onward with onward | onward <;> cases onward
  have place := place_of_kept proper proper' kept known
  have found : tree'.find? ⟨path.root, path.parts ++ more⟩ = tree.find? ⟨path.root, path.parts ++ more⟩ := by
    obtain inside | long := onward
    · have one : (tree.withRoot path).fileAt? (directory ++ more) = some entry :=
        (fileAt?_eq_some_iff proper).mpr ⟨member, there⟩
      have other := fileAt?_of_kept proper proper' kept one
      rw [find?_of_fileAt? inside one, find?_of_fileAt? (place.trans inside) other]
    · rw [find?, place, long, find?, long]
  rw [readText, readText, found, place]

/-- The files below a directory are listed in order, each of them once. -/
theorem LeadsTo.filesAt?_eq (proper : tree.IsProper) (leads : tree.LeadsTo path directory) :
    ∃ files, tree.filesAt? path = .ok (some files) ∧ files.Pairwise Path.Before ∧
      ∀ file, file ∈ files ↔ tree.LiesBelow path directory file := by
  have look : tree.look path = .ok (some .directory) := by
    rw [look, leads.place, ← leads.found]
  refine ⟨(((tree.withRoot path).below directory).mergeSort inOrder).map fun more => ⟨path.root, path.parts ++ more⟩,
    ?_, ?_, ?_⟩
  · rw [filesAt?, look, leads.place]
    rfl
  · exact (pairwise_precedes_mergeSort (nodup_below proper)).map _ fun _ _ early => early.append_left path.parts
  · intro file
    rw [List.mem_map]
    constructor
    · rintro ⟨more, listed, rfl⟩
      obtain ⟨filled, entry, member, there⟩ := mem_below_iff.mp (List.mem_mergeSort.mp listed)
      exact ⟨entry, member, more, filled, there, rfl⟩
    · rintro ⟨entry, member, more, filled, there, rfl⟩
      exact ⟨more, List.mem_mergeSort.mpr (mem_below_iff.mpr ⟨filled, entry, member, there⟩), rfl⟩

theorem LiesBelow.kept (kept : tree ⊆ tree') (below : tree.LiesBelow path directory file) :
    tree'.LiesBelow path directory file :=
  let ⟨entry, member, there⟩ := below
  ⟨entry, kept member, there⟩

/-- A file below a directory is found again by the text of its path. -/
theorem LiesBelow.parse_toText {text : List Char} (proper : tree.IsProper)
    (below : tree.LiesBelow (Path.parse text) directory file) : Path.parse file.toText = file := by
  obtain ⟨entry, member, more, filled, there, rfl⟩ := below
  have names : ∀ part ∈ more, IsName part := fun part within =>
    (proper.named entry member).2 part (by rw [there]; exact List.mem_append_right directory within)
  refine Files.parse_toText text (List.append_ne_nil_of_right_ne_nil _ filled) ?_
  intro part within
  exact (List.mem_append.mp within).elim isComponent_of_mem_parse fun within => (names part within).toIsComponent

end Directories

end Tree

end EditorAssist.Files

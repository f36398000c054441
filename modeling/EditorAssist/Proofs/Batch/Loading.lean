import EditorAssist.Batch.Case
import EditorAssist.Proofs.Files.Directory
import Mathlib.Data.List.Forall2
import Mathlib.Data.List.Sort

/-!
# Loading the cases of a directory

The cases of a directory are those of all files below it that are cases and wanted, one for each, in the order of their
paths (`cases_are_loaded_in_order`). That list is the only one of its kind, so it is the same however the files are
enumerated, and whichever files that are no cases stand between them.
-/

namespace EditorAssist.Batch

open EditorAssist.Files EditorAssist.Text

/-- A file below a directory that is read as a case, where the case is wanted. -/
structure Offers (tree : Tree) (path : String) (directory : List (List Char)) (language : String) (file : Path)
    (c : Case) : Prop where
  below : tree.LiesBelow (Path.parse path.toList) directory file
  read : Case.read tree (String.ofList file.toText) = .ok c
  wanted : language = "" ∨ c.language = language

/-- What it means to load everything that files offer. -/
structure Loaded (offers : Path → Case → Prop) (path : String) (files : List Path)
    (outcome : Except LoadFault (List Case)) : Prop where
  /-- The files stand in the order of their paths, so none of them stands there twice. -/
  increasing : files.Pairwise Path.Before
  complete : ∀ file, file ∈ files ↔ ∃ c, offers file c
  /-- Each file gives its case, -/
  loaded : files ≠ [] → ∃ cases, outcome = .ok cases ∧ List.Forall₂ offers files cases
  /-- and there has to be one. -/
  nothing : files = [] → outcome = .error (.noCases path)

section Unique

variable {offers : Path → Case → Prop} {path : String} {files files' : List Path}
  {outcome outcome' : Except LoadFault (List Case)}

/-- What files offer is loaded in one way only. -/
theorem Loaded.unique (functional : Relator.RightUnique offers) (one : Loaded offers path files outcome)
    (other : Loaded offers path files' outcome') : outcome = outcome' := by
  obtain rfl : files = files' := one.increasing.eq_of_mem_iff other.increasing fun file =>
    (one.complete file).trans (other.complete file).symm
  by_cases empty : files = []
  · exact (one.nothing empty).trans (other.nothing empty).symm
  · obtain ⟨cases, done, given⟩ := one.loaded empty
    obtain ⟨cases', done', given'⟩ := other.loaded empty
    rw [done, done', List.right_unique_forall₂' functional given given']

end Unique

section Reading

variable {tree : Tree} {path language : String} {directory : List (List Char)} {file : Path} {c : Case}

theorem Case.path_of_read (read : Case.read tree path = .ok c) : c.path = path := by
  rw [Case.read] at read
  split at read
  · cases read
  · rw [Case.ofText] at read
    split at read
    · cases read
    · split at read
      · cases read
      · cases read
        rfl

theorem Findings.wanted_iff : wanted language c = true ↔ language = "" ∨ c.language = language := by
  rw [wanted, Bool.or_eq_true, String.isEmpty_iff, beq_iff_eq]

theorem offers_rightUnique : Relator.RightUnique (Offers tree path directory language) := by
  intro file c c' one other
  exact Except.ok.inj (one.read.symm.trans other.read)

/-- The path of a case leads to its file. -/
theorem Offers.parse_path (proper : tree.IsProper) (offered : Offers tree path directory language file c) :
    Path.parse c.path.toList = file := by
  rw [Case.path_of_read offered.read, String.toList_ofList]
  exact offered.below.parse_toText proper

/-- Of the files that are gone through, those that are cases and wanted give their cases, in the same order. -/
theorem Findings.ofFiles_cases (language : String) (listed : List Path)
    (below : ∀ file ∈ listed, tree.LiesBelow (Path.parse path.toList) directory file) :
    ∃ files, files.Sublist listed ∧
      (∀ file, file ∈ files ↔ file ∈ listed ∧ ∃ c, Offers tree path directory language file c) ∧
      List.Forall₂ (Offers tree path directory language) files (ofFiles tree language listed).cases := by
  induction listed with
  | nil => exact ⟨[], .slnil, by simp, .nil⟩
  | cons file listed ih =>
    obtain ⟨files, sublist, complete, given⟩ := ih fun other member => below other (List.mem_cons_of_mem file member)
    -- A file that offers nothing is left out.
    have skip (refused : ¬∃ c, Offers tree path directory language file c) (other : Path) :
        other ∈ files ↔ other ∈ file :: listed ∧ ∃ c, Offers tree path directory language other c := by
      rw [complete, List.mem_cons]
      refine and_congr_left fun offered => ⟨.inr, fun member => member.resolve_left ?_⟩
      rintro rfl
      exact refused offered
    rw [ofFiles]
    split
    · next fault failed =>
      refine ⟨files, sublist.cons file, skip ?_, given⟩
      rintro ⟨c, offered⟩
      cases offered.read.symm.trans failed
    · next c read =>
      split
      · next named =>
        have offered : Offers tree path directory language file c :=
          ⟨below file List.mem_cons_self, read, wanted_iff.mp named⟩
        refine ⟨file :: files, sublist.cons_cons file, ?_, given.cons offered⟩
        intro other
        rw [List.mem_cons, List.mem_cons, complete]
        constructor
        · rintro (rfl | ⟨member, offered⟩)
          · exact ⟨.inl rfl, c, offered⟩
          · exact ⟨.inr member, offered⟩
        · rintro ⟨rfl | member, offered⟩
          · exact .inl rfl
          · exact .inr ⟨member, offered⟩
      · next other =>
        refine ⟨files, sublist.cons file, skip ?_, given⟩
        rintro ⟨c', offered⟩
        cases offered.read.symm.trans read
        exact other (wanted_iff.mpr offered.wanted)

/-- All cases below a directory are loaded, and nothing else. -/
theorem load_of_leadsTo (proper : tree.IsProper) (leads : tree.LeadsTo (Path.parse path.toList) directory)
    (language : String) :
    ∃ files, Loaded (Offers tree path directory language) path files (load tree path language) := by
  obtain ⟨listed, eq, increasing, below⟩ := leads.filesAt?_eq proper
  obtain ⟨files, sublist, complete, given⟩ :=
    Findings.ofFiles_cases language listed fun file => (below file).mp
  have found : Findings.at_ tree path language = .ok (Findings.ofFiles tree language listed) := by
    unfold Findings.at_
    rw [eq]
  have outcome : load tree path language = (Findings.ofFiles tree language listed).demand path := by
    unfold load
    rw [found]
  refine ⟨files, increasing.sublist sublist, ?_, ?_, ?_⟩
  · intro file
    rw [complete, below]
    exact and_iff_right_of_imp fun offers => offers.elim fun c offered => offered.below
  · intro filled
    refine ⟨_, ?_, given⟩
    have others : (Findings.ofFiles tree language listed).cases ≠ [] := by
      intro nothing
      rw [nothing] at given
      exact filled (List.forall₂_nil_right_iff.mp given)
    rw [outcome, Findings.demand, if_neg (by simpa using others)]
  · rintro rfl
    rw [outcome, Findings.demand, List.forall₂_nil_left_iff.mp given]
    rfl

end Reading

section Loading

variable {tree tree' : Tree} {path language : String} {directory : List (List Char)} {file : Path} {c : Case}

/-- A file that is there offers what it offered before, whatever files there are besides. -/
theorem offers_iff_of_kept (proper : tree.IsProper) (proper' : tree'.IsProper) (kept : tree ⊆ tree')
    (leads : tree.LeadsTo (Path.parse path.toList) directory)
    (below : tree.LiesBelow (Path.parse path.toList) directory file) :
    Offers tree' path directory language file c ↔ Offers tree path directory language file c := by
  have text := leads.readText_of_kept proper proper' kept below
  have read : Case.read tree' (String.ofList file.toText) = Case.read tree (String.ofList file.toText) := by
    rw [Case.read, Case.read, String.toList_ofList, below.parse_toText proper, text]
  constructor
  · intro offered
    exact ⟨below, read.symm.trans offered.read, offered.wanted⟩
  · intro offered
    exact ⟨below.kept kept, read.trans offered.read, offered.wanted⟩

/-- In a directory, all files below it that are cases and wanted are loaded, in the order of their paths, and each
case has the path of its file. Any other tree with these files gives the same, whatever the order of its files is, if
those that it has besides are no cases. -/
theorem cases_are_loaded_in_order (proper : tree.IsProper) (leads : tree.LeadsTo (Path.parse path.toList) directory)
    (language : String) :
    (∃ files, Loaded (Offers tree path directory language) path files (load tree path language)) ∧
    (∀ file c, Offers tree path directory language file c → Path.parse c.path.toList = file) ∧
    ∀ tree' : Tree, tree'.IsProper → tree ⊆ tree' →
      (∀ file, tree'.LiesBelow (Path.parse path.toList) directory file →
        tree.LiesBelow (Path.parse path.toList) directory file ∨
          ∃ fault, Case.read tree' (String.ofList file.toText) = .error fault) →
      load tree' path language = load tree path language := by
  obtain ⟨files, loaded⟩ := load_of_leadsTo proper leads language
  refine ⟨⟨files, loaded⟩, fun file c offered => offered.parse_path proper, ?_⟩
  intro tree' proper' kept others
  obtain ⟨files', loaded'⟩ := load_of_leadsTo proper' (leads.kept proper proper' kept) language
  have same : Offers tree' path directory language = Offers tree path directory language := by
    funext file c
    refine propext ⟨?_, ?_⟩
    · intro offered
      obtain below | ⟨fault, failed⟩ := others file offered.below
      · exact (offers_iff_of_kept proper proper' kept leads below).mp offered
      · cases offered.read.symm.trans failed
    · intro offered
      exact (offers_iff_of_kept proper proper' kept leads offered.below).mpr offered
  rw [same] at loaded'
  exact loaded'.unique offers_rightUnique loaded

/-- A marked file in a directory, and one beside it whose name goes on where the name of the directory ends. -/
def besideDirectory : Tree :=
  [⟨⟨[], [['a', '-', 'b', '.', 'p', 'y']]⟩, Utf8.encode "<CURSOR>"⟩,
    ⟨⟨[], [['a'], ['b', '.', 'p', 'y']]⟩, Utf8.encode "<CURSOR>"⟩]

/-- The same files the other way round, with one between them that is no text. -/
def unreadableBetween : Tree :=
  [⟨⟨[], [['a'], ['b', '.', 'p', 'y']]⟩, Utf8.encode "<CURSOR>"⟩,
    ⟨⟨[], [['a'], ['c', '.', 'p', 'y']]⟩, [0xff]⟩,
    ⟨⟨[], [['a', '-', 'b', '.', 'p', 'y']]⟩, Utf8.encode "<CURSOR>"⟩]

theorem parse_dot : Path.parse ".".toList = ⟨[], []⟩ := by
  simp only [String.reduceToList]
  rw [Path.parse, splitOn_of_absent (by decide)]
  rfl

theorem unreadable_file_changes_nothing :
    besideDirectory.IsProper ∧ besideDirectory.LeadsTo (Path.parse ".".toList) [] ∧ unreadableBetween.IsProper ∧
      besideDirectory ⊆ unreadableBetween ∧
      (∃ files, Loaded (Offers besideDirectory "." [] "python") "." files (load besideDirectory "." "python")) ∧
      load unreadableBetween "." "python" = load besideDirectory "." "python" := by
  have proper : besideDirectory.IsProper := by decide
  have proper' : unreadableBetween.IsProper := by decide
  have leads : besideDirectory.LeadsTo (Path.parse ".".toList) [] := by
    rw [parse_dot]
    exact ⟨by rfl, by rfl⟩
  have kept : besideDirectory ⊆ unreadableBetween := by
    simp [besideDirectory, unreadableBetween]
  obtain ⟨loaded, -, alike⟩ := cases_are_loaded_in_order proper leads "python"
  refine ⟨proper, leads, proper', kept, loaded, alike unreadableBetween proper' kept ?_⟩
  intro file below
  have again : Path.parse file.toText = file := below.parse_toText proper'
  obtain ⟨entry, member, more, filled, there, rfl⟩ := below
  by_cases known : entry ∈ besideDirectory
  · exact .inl ⟨entry, known, more, filled, there, rfl⟩
  · have other : entry = ⟨⟨[], [['a'], ['c', '.', 'p', 'y']]⟩, [0xff]⟩ := by
      simp only [besideDirectory, unreadableBetween, List.mem_cons, List.not_mem_nil, or_false, not_or] at member known
      grind
    subst other
    rw [parse_dot, Files.Path.mk.injEq, List.nil_append] at there
    rw [parse_dot, ← there.2, List.nil_append] at again ⊢
    have refused : Utf8.decode [0xff] = .error ⟨.invalidStart, 0xff, 0, 1⟩ := by
      rw [Utf8.decode, Utf8.decodeFrom]
      rfl
    have found : unreadableBetween.find? ⟨[], [['a'], ['c', '.', 'p', 'y']]⟩ = some (.file [0xff]) := by rfl
    have visible : (Path.toText ⟨[], [['a'], ['c', '.', 'p', 'y']]⟩).contains (Char.ofNat 0) = false := by decide
    refine .inr ⟨.unreadable (.encoding ⟨.invalidStart, 0xff, 0, 1⟩), ?_⟩
    rw [Case.read, String.toList_ofList, again]
    simp only [Tree.readText, visible, found, refused, Bool.false_eq_true, ↓reduceIte]

end Loading

end EditorAssist.Batch

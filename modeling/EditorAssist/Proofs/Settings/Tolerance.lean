import EditorAssist.Proofs.Settings.Documents
import EditorAssist.Proofs.Settings.Resolution

/-!
# Broken configuration files

A configuration file that is missing, that is no text or whose text is no object counts as empty, and loading fails
with an error of the configuration only. There are two exceptions: a text with a misplaced token and one that nests too
deep are faults of their own, which nobody turns into errors of the configuration.
-/

namespace EditorAssist.Settings

open EditorAssist.Files EditorAssist.Json EditorAssist.Text
open Commented (IsObject Misplaced TooDeep Spells)

/-- The tokens of a text stand where they may, and its document nests no deeper than is read. -/
def WellPlaced (text : List Char) : Prop := ¬Misplaced text ∧ ¬TooDeep text

/-- The configuration files that are read: the one that was asked for, or those of the user. -/
def readPaths (environ : Environment) (given : Option String) : Except Fault (List Path) :=
  match given with
  | some text => if text.isEmpty then userPaths environ else (givenPath environ text).map ([·])
  | none => userPaths environ

section Files

variable {tree : Tree} {environ : Environment} {path : Path} {entry : Option Entry} {text : List Char}

/-- A path whose text is read leads to a file. -/
theorem look_of_readText (read : tree.readText path = .ok text) :
    ∃ bytes, tree.look path = .ok (some (.file bytes)) := by
  unfold Tree.readText at read
  split at read
  · cases read
  · split at read
    · next _ bytes found =>
      refine ⟨bytes, ?_⟩
      unfold Tree.look
      split
      · next place =>
        rw [Tree.find?, place] at found
        cases found
      · rw [found]
    all_goals cases read

/-- A file is what its text is read as. -/
theorem fileEntries_of_text (read : tree.readText path = .ok text) :
    fileEntries tree environ path =
      match Commented.read (environ.expand text) with
      | .value (.obj entries) => .ok entries
      | .value _ => .ok []
      | .unreadable => .ok []
      | .misplaced => .error (Fault.of .misplacedToken)
      | .tooDeep => .error Fault.nesting := by
  obtain ⟨bytes, look⟩ := look_of_readText read
  unfold fileEntries
  split
  · next failed => cases look.symm.trans failed
  · next found =>
    cases read.symm.trans found
    rfl
  · next found other => exact (other bytes text read (Except.ok.inj (found.symm.trans look))).elim

/-- What is no text counts as empty. -/
theorem fileEntries_of_no_text (look : tree.look path = .ok entry) (unread : ∀ text, tree.readText path ≠ .ok text) :
    fileEntries tree environ path = .ok [] := by
  unfold fileEntries
  split
  · next failed => cases look.symm.trans failed
  · next text _ read => exact absurd read (unread text)
  · rfl

theorem fileEntries_of_misplaced (read : tree.readText path = .ok text) (misplaced : Misplaced (environ.expand text)) :
    fileEntries tree environ path = .error (Fault.of .misplacedToken) := by
  rw [fileEntries_of_text read, Commented.read_of_misplaced misplaced]

theorem fileEntries_of_tooDeep (read : tree.readText path = .ok text) (tooDeep : TooDeep (environ.expand text)) :
    fileEntries tree environ path = .error Fault.nesting := by
  obtain ⟨d, spells, deep⟩ := tooDeep
  rw [fileEntries_of_text read, Commented.read_of_spells spells, if_pos deep]

/-- The text of an object is read as that object. -/
theorem fileEntries_of_object {entries : Entries} (read : tree.readText path = .ok text)
    (shallow : ¬TooDeep (environ.expand text)) (object : IsObject (environ.expand text) entries) :
    fileEntries tree environ path = .ok entries := by
  obtain ⟨d, spells, parsed⟩ := object
  rw [fileEntries_of_text read, Commented.read_of_spells spells, if_neg fun deep => shallow ⟨d, spells, deep⟩, parsed]

/-- Any other text counts as empty if its tokens stand where they may. -/
theorem fileEntries_of_no_object (read : tree.readText path = .ok text) (placed : WellPlaced (environ.expand text))
    (none : ∀ entries, ¬IsObject (environ.expand text) entries) : fileEntries tree environ path = .ok [] := by
  rw [fileEntries_of_text read]
  rcases Commented.read_cases (environ.expand text) with ⟨d, spells⟩ | misplaced | ⟨-, -, unreadable⟩
  · rw [Commented.read_of_spells spells, if_neg fun deep => placed.2 ⟨d, spells, deep⟩]
    cases parsed : Json.parse d.plain with
    | error refusal => rfl
    | ok v =>
      cases v with
      | obj entries => exact absurd ⟨d, spells, parsed⟩ (none entries)
      | _ => rfl
  · exact absurd misplaced placed.1
  · rw [unreadable]

/-- A file whose tokens stand where they may is read or counts as empty. -/
theorem fileEntries_ok (look : tree.look path = .ok entry)
    (placed : ∀ text, tree.readText path = .ok text → WellPlaced (environ.expand text)) :
    ∃ entries, fileEntries tree environ path = .ok entries := by
  by_cases readable : ∃ text, tree.readText path = .ok text
  · obtain ⟨text, read⟩ := readable
    by_cases object : ∃ entries, IsObject (environ.expand text) entries
    · obtain ⟨entries, object⟩ := object
      exact ⟨entries, fileEntries_of_object read (placed text read).2 object⟩
    · exact ⟨[], fileEntries_of_no_object read (placed text read) (not_exists.mp object)⟩
  · exact ⟨[], fileEntries_of_no_text look (not_exists.mp readable)⟩

end Files

section Loading

variable {tree : Tree} {environ : Environment} {given : Option String} {paths : List Path}

/-- The user has two configuration files. -/
theorem userPaths_eq_pair (found : userPaths environ = .ok paths) : ∃ first second, paths = [first, second] := by
  simp only [userPaths, fileNames, List.mapM_cons, List.mapM_nil] at found
  generalize givenPath environ (String.ofList (joinText environ.configDirectory "helix-assist.json".toList)) = first
    at found
  generalize givenPath environ (String.ofList (joinText environ.configDirectory "helix-assist.jsonc".toList)) = second
    at found
  cases first with
  | error fault => cases found
  | ok first =>
    cases second with
    | error fault => cases found
    | ok second => exact ⟨first, second, (Except.ok.inj found).symm⟩

/-- The files are read if there are paths to them and their tokens stand where they may. -/
theorem exists_filesRead (found : readPaths environ given = .ok paths)
    (looks : ∀ path ∈ paths, ∃ entry, tree.look path = .ok entry)
    (placed : ∀ path ∈ paths, ∀ text, tree.readText path = .ok text → WellPlaced (environ.expand text)) :
    ∃ read, FilesRead tree environ given read := by
  have entries : ∀ path ∈ paths, ∃ entries, fileEntries tree environ path = .ok entries := by
    intro path member
    obtain ⟨entry, look⟩ := looks path member
    exact fileEntries_ok look (placed path member)
  have user (unasked : given.all String.isEmpty = true) (found : userPaths environ = .ok paths) :
      ∃ read, FilesRead tree environ given read := by
    obtain ⟨first, second, rfl⟩ := userPaths_eq_pair found
    obtain ⟨lower, readLower⟩ := entries first (List.mem_cons_self ..)
    obtain ⟨upper, readUpper⟩ := entries second (by simp)
    exact ⟨_, .user unasked found readLower readUpper⟩
  unfold readPaths at found
  split at found
  · next text =>
    split at found
    · next empty => exact user empty found
    · next asked =>
      obtain ⟨path, own, rfl⟩ : ∃ path, givenPath environ text = .ok path ∧ [path] = paths := by
        cases own : givenPath environ text with
        | error fault =>
          rw [own] at found
          cases found
        | ok path =>
          rw [own] at found
          exact ⟨path, rfl, Except.ok.inj found⟩
      obtain ⟨entry, look⟩ := looks path (List.mem_singleton_self _)
      obtain ⟨read, here⟩ := entries path (List.mem_singleton_self _)
      cases entry with
      | none => exact ⟨_, .missing (Bool.eq_false_iff.mpr asked) own look⟩
      | some entry => exact ⟨_, .given (Bool.eq_false_iff.mpr asked) own look here⟩
  · exact user rfl found

/-- Broken configuration files do no harm. What a path leads to counts as empty if it is no file with a text; a text
that is an object, once the references in it are expanded, is read as that object, and any other as nothing. Only a
text with a misplaced token and one that nests too deep are faults. Where the files that are read have neither,
loading fails with errors of the configuration only. -/
theorem broken_files_count_as_empty (tree : Tree) (environ : Environment) :
    (∀ path entry, tree.look path = .ok entry →
      ((∀ text, tree.readText path ≠ .ok text) → fileEntries tree environ path = .ok []) ∧
      ∀ text, tree.readText path = .ok text →
        (WellPlaced (environ.expand text) →
          (∀ entries, IsObject (environ.expand text) entries → fileEntries tree environ path = .ok entries) ∧
          ((∀ entries, ¬IsObject (environ.expand text) entries) → fileEntries tree environ path = .ok [])) ∧
        (Misplaced (environ.expand text) → fileEntries tree environ path = .error (Fault.of .misplacedToken)) ∧
        (TooDeep (environ.expand text) → fileEntries tree environ path = .error Fault.nesting)) ∧
    (∀ overrides given paths fault, readPaths environ given = .ok paths →
      (∀ path ∈ paths, ∃ entry, tree.look path = .ok entry) →
      (∀ path ∈ paths, ∀ text, tree.readText path = .ok text → WellPlaced (environ.expand text)) →
      load tree environ overrides given = .error fault → ∃ message place, fault = Fault.config message place) := by
  refine ⟨fun path entry look => ⟨fileEntries_of_no_text look, fun text read => ⟨fun placed => ⟨?_, ?_⟩, ?_, ?_⟩⟩, ?_⟩
  · exact fun entries object => fileEntries_of_object read placed.2 object
  · exact fileEntries_of_no_object read placed
  · exact fileEntries_of_misplaced read
  · exact fileEntries_of_tooDeep read
  · intro overrides given paths fault found looks placed failed
    obtain ⟨read, reads⟩ := exists_filesRead found looks placed
    rcases load_cases overrides reads with ⟨⟨message, place, refused⟩, -⟩ | ⟨s, files, loaded, -⟩
    · exact ⟨message, place, Except.error.inj (failed.symm.trans refused)⟩
    · cases failed.symm.trans loaded

/-! A file with a key that is not quoted, and one that ends too early. -/

def brokenPlace : Path := ⟨[], ["c.json".toList]⟩

def brokenTree (text : String) : Tree := [⟨brokenPlace, Utf8.encode text⟩]

def unquotedText : String := "\x7bnot json"

def unclosedText : String := "\x7b"

theorem lex_unquotedText : Commented.lex unquotedText.toList = ([.openObject], false) := by
  have brace : Commented.piece? ('\x7b' :: "not json".toList) = some (.token .openObject ['\x7b'], 1) := by rfl
  have word : Commented.piece? ('n' :: "ot json".toList) = none := by rfl
  change Commented.lex ('\x7b' :: "not json".toList) = _
  rw [Commented.lex, brace]
  change (_ :: (Commented.lex ('n' :: "ot json".toList)).1, (Commented.lex ('n' :: "ot json".toList)).2) = _
  rw [Commented.lex, word]
  rfl

theorem not_spells_unquotedText (d : Commented.Node) : ¬Spells unquotedText.toList d := fun spells => by
  cases congrArg Prod.snd (lex_unquotedText.symm.trans spells)

theorem wellPlaced_unquotedText : WellPlaced unquotedText.toList := by
  refine ⟨?_, fun ⟨d, spells, _⟩ => not_spells_unquotedText d spells⟩
  rw [Misplaced, lex_unquotedText]
  rintro (refused | ⟨whole, -⟩)
  · exact refused (Commented.run_isSome_iff.mp rfl)
  · cases whole

theorem unquoted_key_counts_as_empty :
    fileEntries (brokenTree unquotedText) [] brokenPlace = .ok [] ∧
      ∃ message place, load (brokenTree unquotedText) [] [("debounce", .int (-1))] (some "c.json") =
        .error (Fault.config message place) := by
  have look : (brokenTree unquotedText).look brokenPlace = .ok (some (.file (Utf8.encode unquotedText))) := by rfl
  have read : (brokenTree unquotedText).readText brokenPlace = .ok unquotedText.toList :=
    readText_of_encoded (by rfl) (by rfl) (by rfl)
  have expanded : Environment.expand [] unquotedText.toList = unquotedText.toList := by
    apply Environment.expand_of_unmarked
    apply breakOn_eq_none_iff.mp
    unfold unquotedText
    simp only [String.reduceToList]
    rfl
  have placed : WellPlaced (Environment.expand [] unquotedText.toList) := expanded.symm ▸ wellPlaced_unquotedText
  obtain ⟨files, loads⟩ := broken_files_count_as_empty (brokenTree unquotedText) []
  constructor
  · refine (((files _ _ look).2 _ read).1 placed).2 ?_
    rintro entries ⟨d, spells, -⟩
    rw [expanded] at spells
    exact not_spells_unquotedText d spells
  · have place : (Path.parse "c.json".toList).expandHome (Environment.homeOf []) = some brokenPlace := by
      rw [parse_of_name (by simp) (by simp) (by simp)]
      rfl
    have own : givenPath [] "c.json" = .ok brokenPlace := by rw [givenPath, place]
    have paths : readPaths [] (some "c.json") = .ok [brokenPlace] := congrArg (Except.map ([·])) own
    have looks : ∀ path ∈ [brokenPlace], ∃ entry, (brokenTree unquotedText).look path = .ok entry :=
      fun path member => ⟨_, List.mem_singleton.mp member ▸ look⟩
    have texts : ∀ path ∈ [brokenPlace], ∀ text, (brokenTree unquotedText).readText path = .ok text →
        WellPlaced (Environment.expand [] text) := by
      intro path member text own
      obtain rfl := List.mem_singleton.mp member
      cases read.symm.trans own
      exact placed
    have fails :
        (load (brokenTree unquotedText) [] [("debounce", .int (-1))] (some "c.json")).toOption.isNone = true := by
      decide +kernel
    cases loaded : load (brokenTree unquotedText) [] [("debounce", .int (-1))] (some "c.json") with
    | ok s =>
      rw [loaded] at fails
      cases fails
    | error fault =>
      obtain ⟨message, place, rfl⟩ := loads _ _ _ _ paths looks texts loaded
      exact ⟨message, place, rfl⟩

/-- A file that ends too early is a fault. -/
theorem unclosed_object_is_a_fault :
    ¬∀ tree environ path, ∃ entries, fileEntries tree environ path = .ok entries := by
  intro tolerant
  obtain ⟨entries, read⟩ := tolerant (brokenTree unclosedText) [] brokenPlace
  have unread : (fileEntries (brokenTree unclosedText) [] brokenPlace).toOption.isNone = true := by decide +kernel
  rw [read] at unread
  cases unread

end Loading

end EditorAssist.Settings

import EditorAssist.Batch.Language
import EditorAssist.Fault
import EditorAssist.Files.Tree

/-!
# Cases

A case is a source file with a marker where the cursor is. All cases of a directory are loaded in the
order of their paths; files that are no cases are skipped.
-/

namespace EditorAssist.Batch

open EditorAssist.Files EditorAssist.Text

/-- The text that marks the cursor. -/
def marker : List Char := "<CURSOR>".toList

/-- A request for a completion, taken from a marked file. -/
structure Case where
  path : String
  language : String
  /-- The text up to the marker. -/
  before : List Char
  /-- The text after the marker. -/
  after : List Char
  /-- The whole text with the marker. -/
  text : List Char
  /-- Line of the marker, counted from zero. -/
  line : Nat
  /-- Column of the marker, counted from zero. -/
  column : Nat
  deriving Repr, DecidableEq

/-- Why a file is not a case. -/
inductive CaseFault where
  | unreadable (cause : ReadFault)
  | unmarked
  | language (cause : LanguageFault)
  deriving Repr, DecidableEq

def CaseFault.message : CaseFault → String
  | .unreadable cause => "failed to read file: " ++ cause.message
  | .unmarked => "file does not contain " ++ String.ofList marker ++ " marker"
  | .language cause => cause.message

/-- A path that cannot be read is a fault of its own, anything else is one of the batch. -/
def CaseFault.fault : CaseFault → Fault
  | .unreadable .nullCharacter => ReadFault.nullCharacter.fault
  | cause => .batch cause.message

/-- Why there are no cases. -/
inductive LoadFault where
  | unreachable (cause : ReadFault)
  | nowhere (path : String)
  | noCases (path : String)
  deriving Repr, DecidableEq

def LoadFault.fault : LoadFault → Fault
  | .unreachable cause => cause.fault
  | .nowhere path => .batch ("no such file or directory: " ++ path)
  | .noCases path => .batch ("no test cases found in: " ++ path)

namespace Case

/-- The case of a text that was read from a file: the first marker counts. -/
def ofText (path : String) (text : List Char) : Except CaseFault Case :=
  match breakOn marker text with
  | none => .error .unmarked
  | some (before, after) =>
    match detectLanguage path with
    | .error cause => .error (.language cause)
    | .ok language =>
      let above := lines before
      .ok
        { path, language, before, after, text
          line := above.length - 1
          column := (above.getLastD []).length }

/-- Reads the case of a file. -/
def read (tree : Tree) (path : String) : Except CaseFault Case :=
  match tree.readText (Path.parse path.toList) with
  | .error cause => .error (.unreadable cause)
  | .ok text => ofText path text

end Case

/-- What was found at a path: the cases, and the files that are none. -/
structure Findings where
  cases : List Case
  skipped : List (String × CaseFault)
  deriving Repr, DecidableEq

namespace Findings

/-- Whether a case is wanted; without a language every case is. -/
def wanted (language : String) (c : Case) : Bool := language.isEmpty || c.language == language

/-- Sorts the files into cases and others. -/
def ofFiles (tree : Tree) (language : String) : List Path → Findings
  | [] => ⟨[], []⟩
  | file :: rest =>
    let path := String.ofList file.toText
    let more := ofFiles tree language rest
    match Case.read tree path with
    | .error cause => ⟨more.cases, (path, cause) :: more.skipped⟩
    | .ok c => if wanted language c then ⟨c :: more.cases, more.skipped⟩ else more

/-- What is found at a path. -/
def at_ (tree : Tree) (path language : String) : Except LoadFault Findings :=
  match tree.filesAt? (Path.parse path.toList) with
  | .error cause => .error (.unreachable cause)
  | .ok none => .error (.nowhere path)
  | .ok (some files) => .ok (ofFiles tree language files)

/-- The cases that were found, of which there has to be one. -/
def demand (path : String) (findings : Findings) : Except LoadFault (List Case) :=
  if findings.cases.isEmpty then .error (.noCases path) else .ok findings.cases

end Findings

/-- Loads the cases of a file or a directory. -/
def load (tree : Tree) (path language : String) : Except LoadFault (List Case) :=
  match Findings.at_ tree path language with
  | .error cause => .error cause
  | .ok findings => findings.demand path

end EditorAssist.Batch

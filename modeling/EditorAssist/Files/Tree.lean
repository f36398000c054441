import EditorAssist.Fault
import EditorAssist.Files.Path
import EditorAssist.Text.Lines
import EditorAssist.Text.Literal
import EditorAssist.Text.Utf8

/-!
# Directory trees

A tree is a list of files, each at its path; relative paths start from the working directory.
Directories are what lies on the way to a file. A path is followed component by component, as long as
it leads through directories; outside the working directory nothing but directories is known.
-/

namespace EditorAssist.Files

open EditorAssist.Text

/-- A file and its content. -/
structure File where
  path : Path
  bytes : List UInt8
  deriving Repr, DecidableEq

abbrev Tree := List File

/-- Why a file cannot be reached or read as text. -/
inductive ReadFault where
  | missing (path : List Char)
  | directory (path : List Char)
  | notDirectory (path : List Char)
  | nameTooLong (path : List Char)
  | nullCharacter
  | encoding (refusal : Utf8.Refusal)
  deriving Repr, DecidableEq

def ReadFault.message : ReadFault → String
  | .missing path => "[Errno 2] No such file or directory: " ++ String.ofList (literal path)
  | .directory path => "[Errno 21] Is a directory: " ++ String.ofList (literal path)
  | .notDirectory path => "[Errno 20] Not a directory: " ++ String.ofList (literal path)
  | .nameTooLong path => "[Errno 36] File name too long: " ++ String.ofList (literal path)
  | .nullCharacter => "embedded null byte"
  | .encoding refusal => refusal.message

def ReadFault.className : ReadFault → String
  | .missing _ => "FileNotFoundError"
  | .directory _ => "IsADirectoryError"
  | .notDirectory _ => "NotADirectoryError"
  | .nameTooLong _ => "OSError"
  | .nullCharacter => "ValueError"
  | .encoding _ => "UnicodeDecodeError"

def ReadFault.fault (f : ReadFault) : Fault := .standard f.className (some f.message)

/-- What a path leads to. -/
inductive Entry where
  | file (bytes : List UInt8)
  | directory
  deriving Repr, DecidableEq

namespace Tree

/-- The files that have the root of a path. -/
def withRoot (tree : Tree) (path : Path) : Tree := tree.filter (·.path.root == path.root)

/-- The file with exactly these components. -/
def fileAt? (tree : Tree) (parts : List (List Char)) : Option File :=
  tree.find? (·.path.parts == parts)

/-- Whether the components lead to a directory. -/
def holdsDirectory (tree : Tree) (parts : List (List Char)) : Bool :=
  parts.isEmpty ||
    tree.any fun file => parts.isPrefixOf file.path.parts && file.path.parts != parts

/-- The most bytes that a component and a whole path may have. -/
def maxNameBytes : Nat := 255
def maxPathBytes : Nat := 4095

def isParent (part : List Char) : Bool := part == ['.', '.']

def utf8Size (text : List Char) : Nat := (Utf8.encode (String.ofList text)).length

/-- Where following a path ends. -/
inductive Place where
  /-- At these components, whatever is there. -/
  | inside (parts : List (List Char))
  /-- At a directory above the working directory. -/
  | outside
  /-- Nowhere: a directory is missing. -/
  | missing
  /-- At a file where a directory is needed. -/
  | blocked
  | nameTooLong
  deriving Repr, DecidableEq

/-- Follows components from a directory. Two dots lead back, from an absolute root to itself. -/
def follow (tree : Tree) (absolute : Bool) : (here : List (List Char)) → List (List Char) → Place
  | here, [] => .inside here
  | here, part :: rest =>
    if (tree.fileAt? here).isSome then .blocked
    else if !tree.holdsDirectory here then .missing
    else if isParent part then
      if here.isEmpty && !absolute then (if rest.all isParent then .outside else .missing)
      else follow tree absolute here.dropLast rest
    else if maxNameBytes < utf8Size part then .nameTooLong
    else follow tree absolute (here ++ [part]) rest

/-- Follows a path from its start. -/
def place (tree : Tree) (path : Path) : Place :=
  if maxPathBytes < utf8Size path.toText then .nameTooLong
  else (tree.withRoot path).follow (!path.root.isEmpty) [] path.parts

/-- What a path leads to. -/
def find? (tree : Tree) (path : Path) : Option Entry :=
  match tree.place path with
  | .outside => some .directory
  | .inside parts =>
    let tree := tree.withRoot path
    match tree.fileAt? parts with
    | some file => some (.file file.bytes)
    | none => if tree.holdsDirectory parts then some .directory else none
  | _ => none

/-- What a path leads to; a path with a name that is too long cannot be looked at. -/
def look (tree : Tree) (path : Path) : Except ReadFault (Option Entry) :=
  match tree.place path with
  | .nameTooLong =>
    if path.toText.contains (Char.ofNat 0) then .ok none else .error (.nameTooLong path.toText)
  | _ => .ok (tree.find? path)

/-- The text of a file, every line break as one newline. -/
def readText (tree : Tree) (path : Path) : Except ReadFault (List Char) :=
  if path.toText.contains (Char.ofNat 0) then .error .nullCharacter
  else
    match tree.find? path, tree.place path with
    | some (.file bytes), _ =>
      match Utf8.decode bytes with
      | .ok text => .ok (normalizeNewlines text.toList)
      | .error refusal => .error (.encoding refusal)
    | some .directory, _ => .error (.directory path.toText)
    | none, .blocked => .error (.notDirectory path.toText)
    | none, .nameTooLong => .error (.nameTooLong path.toText)
    | none, _ => .error (.missing path.toText)

/-- The paths of the files below a directory from there, component by component. -/
def below (tree : Tree) (parts : List (List Char)) : List (List (List Char)) :=
  tree.filterMap fun file =>
    if parts.isPrefixOf file.path.parts && file.path.parts != parts then
      some (file.path.parts.drop parts.length)
    else none

/-- Every file that a path leads to, in the order of the components: the file itself, or all files
below a directory. There are none when the path leads nowhere. -/
def filesAt? (tree : Tree) (path : Path) : Except ReadFault (Option (List Path)) :=
  (tree.look path).map fun entry =>
    match entry, tree.place path with
    | none, _ => none
    | some (.file _), _ => some [path]
    | some .directory, .inside parts =>
      some ((((tree.withRoot path).below parts).mergeSort inOrder).map fun more =>
        ⟨path.root, path.parts ++ more⟩)
    | some .directory, _ => some []

end Tree

end EditorAssist.Files

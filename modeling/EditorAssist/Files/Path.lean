import EditorAssist.Text.Search

/-!
# Paths

A path is text. It is read as a list of components between slashes, where empty components and single
dots say nothing; two dots stay, because what they mean depends on the directory tree. A path that
starts with a slash is absolute.
-/

namespace EditorAssist.Files

open EditorAssist.Text

/-- A path that was read: its leading slashes and its components. -/
structure Path where
  root : List Char
  parts : List (List Char)
  deriving Repr, DecidableEq

/-- Whether components come no later than others: they are compared one by one, and their characters
one by one by code. -/
def inOrder (first second : List (List Char)) : Bool :=
  !(second.lex first fun a b => a.lex b fun c d => c.toNat < d.toNat)

namespace Path

/-- Leading slashes that count: exactly two are a root of their own, any other number is one. -/
def rootOf (text : List Char) : List Char :=
  match (text.takeWhile (· = '/')).length with
  | 0 => []
  | 2 => ['/', '/']
  | _ => ['/']

def parse (text : List Char) : Path :=
  ⟨rootOf text, (splitOn '/' [] text).filter fun part => !part.isEmpty && part != ['.']⟩

/-- The text of a path without anything superfluous; a path without components is a dot. -/
def toText (p : Path) : List Char :=
  if p.root.isEmpty && p.parts.isEmpty then ['.'] else p.root ++ joinWith ['/'] p.parts

/-- Appends the components of a path; an absolute one takes its place. -/
def append (p q : Path) : Path := if q.root.isEmpty then ⟨p.root, p.parts ++ q.parts⟩ else q

/-- The last component, or nothing. -/
def name (p : Path) : List Char := p.parts.getLastD []

/-- The part of a name from its last dot on, unless the dot is the first or the last character. -/
def suffixOf (name : List Char) : List Char :=
  let extension := (name.reverse.takeWhile (· ≠ '.')).reverse
  let stem := name.length - extension.length - 1
  if extension.isEmpty || stem = 0 || extension.length = name.length then []
  else '.' :: extension

def suffix (p : Path) : List Char := suffixOf p.name

/-- A tilde that the first component starts with stands for a home directory: that of the user whose name
follows it. There is no such path when the user has none. -/
def expandHome (homeOf : List Char → Option (List Char)) (p : Path) : Option Path :=
  match p.root, p.parts with
  | [], ('~' :: user) :: rest =>
    (homeOf user).map fun home => ⟨(parse home).root, (parse home).parts ++ rest⟩
  | _, _ => some p

end Path

/-- Two paths as one text, with a slash between them unless there is one. -/
def joinText (base more : List Char) : List Char :=
  if more.head? = some '/' || base.isEmpty then more
  else if base.getLast? = some '/' then base ++ more
  else base ++ '/' :: more

end EditorAssist.Files

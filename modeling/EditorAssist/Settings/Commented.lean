import EditorAssist.Json.Parser

/-!
# JSON with comments

Settings files are JSON in which comments run from a number sign or two slashes to the end of the line
and a comma may stand before a closing bracket. The text is read token by token: what is no token
makes it unreadable, a token where none of its kind may stand makes it misplaced, and whichever comes
first decides. Tokens are laxer than JSON; what JSON refuses of them makes the text unreadable too.
-/

namespace EditorAssist.Settings.Commented

open EditorAssist.Json

/-- Kinds of tokens that the grammar tells apart. -/
inductive Kind where
  | openObject
  | closeObject
  | openArray
  | closeArray
  | comma
  | colon
  | text
  | scalar
  deriving Repr, DecidableEq

/-- A piece of the text: a token, or something between tokens. -/
inductive Piece where
  | token (kind : Kind) (written : List Char)
  | blank
  deriving Repr, DecidableEq

def isSpace (c : Char) : Bool := c = ' ' || c = '\t' || c = '\x0c' || c = '\r' || c = '\n'

def isDigit (c : Char) : Bool := Parser.isDigit c

/-- The characters of a string up to its closing quote, on one line. -/
def stringTail : List Char → Option (List Char)
  | [] => none
  | c :: rest =>
    if c = '"' then some ['"']
    else if c = '\n' then none
    else if c = '\\' then
      match rest with
      | [] => none
      | escaped :: more => if escaped = '\n' then none else (stringTail more).map (c :: escaped :: ·)
    else (stringTail rest).map (c :: ·)

/-- An exponent, if one stands here. -/
def exponentPart : List Char → List Char
  | mark :: rest =>
    if mark = 'e' || mark = 'E' then
      let (sign, digits) := match rest with
        | c :: more => if c = '+' || c = '-' then ([c], more) else ([], rest)
        | [] => ([], rest)
      let run := digits.takeWhile isDigit
      if run.isEmpty then [] else mark :: sign ++ run
    else []
  | [] => []

/-- A number without its sign. -/
def unsignedNumber (text : List Char) : List Char :=
  let whole := text.takeWhile isDigit
  match text.dropWhile isDigit with
  | '.' :: rest =>
    let fraction := rest.takeWhile isDigit
    if whole.isEmpty && fraction.isEmpty then []
    else whole ++ '.' :: fraction ++ exponentPart (rest.dropWhile isDigit)
  | rest => if whole.isEmpty then [] else whole ++ exponentPart rest

/-- A number with at most one sign. -/
def number (text : List Char) : List Char :=
  match text with
  | c :: rest =>
    if c = '+' || c = '-' then
      let digits := unsignedNumber rest
      if digits.isEmpty then [] else c :: digits
    else unsignedNumber text
  | [] => []

def words : List (List Char) := ["true".toList, "false".toList, "null".toList]

/-- A comment, up to the end of its line, and its length. -/
def commentPiece (text : List Char) : Piece × Nat := (.blank, (text.takeWhile (· ≠ '\n')).length)

/-- The piece that a text starts with and its length, if it starts with one. -/
def piece? (text : List Char) : Option (Piece × Nat) :=
  let mark (kind : Kind) (c : Char) : Option (Piece × Nat) := some (.token kind [c], 1)
  match text with
  | [] => none
  | '\x7b' :: _ => mark .openObject '\x7b'
  | '\x7d' :: _ => mark .closeObject '\x7d'
  | '[' :: _ => mark .openArray '['
  | ']' :: _ => mark .closeArray ']'
  | ',' :: _ => mark .comma ','
  | ':' :: _ => mark .colon ':'
  | '"' :: rest => (stringTail rest).map fun tail => (.token .text ('"' :: tail), tail.length + 1)
  | '#' :: _ => some (commentPiece text)
  | '/' :: '/' :: _ => some (commentPiece text)
  | c :: _ =>
    if isSpace c then some (.blank, 1)
    else
      match words.find? (·.isPrefixOf text) with
      | some word => some (.token .scalar word, word.length)
      | none =>
        let digits := number text
        if digits.isEmpty then none else some (.token .scalar digits, digits.length)

/-- What may come next inside an object or array. -/
inductive Expected where
  /-- A value. -/
  | value
  /-- The first item of an array, a comma or the end. -/
  | firstItem
  /-- An item or the end, after a comma. -/
  | item
  /-- The first key of an object, a comma or the end. -/
  | firstKey
  /-- A key or the end, after a comma. -/
  | key
  | colon
  /-- A comma or the end. -/
  | next
  /-- The end, after a comma that follows nothing. -/
  | close
  deriving Repr, DecidableEq

/-- An object or array that is being read. -/
inductive Container where
  | object
  | array
  deriving Repr, DecidableEq

/-- How much a container adds to the nesting of what it holds. -/
def Container.weight : Container → Nat
  | .object => 2
  | .array => 1

/-- The deepest nesting of a text that is read. -/
def maxNesting : Nat := 490

/-- Where the reader is: what it expects, the containers around it and what it has kept. -/
structure State where
  expected : Expected
  around : List Container
  /-- The nesting of what stands here: the weights of the containers around it. -/
  depth : Nat
  /-- The tokens kept so far, latest first. -/
  kept : List (List Char)
  /-- The deepest nesting so far. -/
  deepest : Nat
  deriving Repr, DecidableEq

namespace State

def start : State := ⟨.value, [], 0, [], 0⟩

/-- The whole text has been read. -/
def isComplete (s : State) : Bool := s.expected == .next && s.around.isEmpty

def keep (s : State) (expected : Expected) (written : List Char) : State :=
  { s with expected, kept := written :: s.kept }

/-- The text of the tokens kept. -/
def text (s : State) : List Char := s.kept.reverse.flatten

/-- The comma that separates an item or key from the one before it; commas are kept only here, so
that those before a closing bracket are dropped. -/
def separator (s : State) : List Char :=
  match s.expected with
  | .item => [',']
  | .key => [',']
  | _ => []

def opens (s : State) (container : Container) (expected : Expected) (bracket : Char) : State :=
  let depth := s.depth + container.weight
  { expected, around := container :: s.around, depth, kept := (s.separator ++ [bracket]) :: s.kept
    deepest := max s.deepest depth }

def closes (s : State) (container : Container) (bracket : Char) : Option State :=
  match s.around with
  | innermost :: around =>
    if innermost = container then
      some
        { s with
          expected := .next, around, depth := s.depth - container.weight, kept := [bracket] :: s.kept }
    else none
  | [] => none

/-- Whether a value may stand here. -/
def takesValue (s : State) : Bool :=
  s.expected == .value || s.expected == .firstItem || s.expected == .item

/-- Whether a key may stand here. -/
def takesKey (s : State) : Bool := s.expected == .firstKey || s.expected == .key

/-- Whether the innermost container may end here. -/
def takesEnd (s : State) : Bool :=
  s.expected != .value && s.expected != .colon

/-- The state after a comma. -/
def afterComma (s : State) : Option State :=
  match s.expected, s.around with
  | .firstItem, _ => some { s with expected := .close }
  | .firstKey, _ => some { s with expected := .close }
  | .next, .array :: _ => some { s with expected := .item }
  | .next, .object :: _ => some { s with expected := .key }
  | _, _ => none

/-- Takes a token; none when it is misplaced. -/
def take (s : State) (kind : Kind) (written : List Char) : Option State :=
  match kind with
  | .openObject => if s.takesValue then some (s.opens .object .firstKey '\x7b') else none
  | .openArray => if s.takesValue then some (s.opens .array .firstItem '[') else none
  | .closeObject => if s.takesEnd then s.closes .object '\x7d' else none
  | .closeArray => if s.takesEnd then s.closes .array ']' else none
  | .comma => s.afterComma
  | .colon => if s.expected = .colon then some (s.keep .value [':']) else none
  | .text =>
    if s.takesKey then some (s.keep .colon (s.separator ++ written))
    else if s.takesValue then some (s.keep .next (s.separator ++ written))
    else none
  | .scalar => if s.takesValue then some (s.keep .next (s.separator ++ written)) else none

end State

/-- What a settings text turns out to be. -/
inductive Reading where
  | value (v : Value)
  | unreadable
  | misplaced
  /-- The containers nest deeper than is read. -/
  | tooDeep

/-- Reads the pieces of a text from a state on: the tokens to keep, or what went wrong first. -/
def scan (s : State) (text : List Char) : Except Reading (List Char) :=
  match text with
  | [] =>
    if !s.isComplete then .error .misplaced
    else if maxNesting < s.deepest then .error .tooDeep
    else .ok s.text
  | c :: rest =>
    match piece? (c :: rest) with
    | none => .error .unreadable
    | some (.blank, size) => scan s (rest.drop (size - 1))
    | some (.token kind written, size) =>
      match s.take kind written with
      | none => .error .misplaced
      | some next => scan next (rest.drop (size - 1))
termination_by text.length
decreasing_by all_goals simp only [List.length_drop, List.length_cons]; omega

/-- Reads a settings text. -/
def read (text : List Char) : Reading :=
  match scan .start text with
  | .error reading => reading
  | .ok kept =>
    match Json.parse kept with
    | .ok v => .value v
    | .error _ => .unreadable

end EditorAssist.Settings.Commented

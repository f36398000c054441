import EditorAssist.Number.Integer
import EditorAssist.Text.CharacterName
import EditorAssist.Text.Lines
import EditorAssist.Text.WordChar

/-!
# Parameters of handlers

A tag can name a handler and give it parameters: the name of the handler, with or without literals in
parentheses, or literals alone. Literals are numbers, texts, bytes, constants, tuples, sets and mappings;
square brackets cannot stand in a tag, so there are no lists. `isReadable` tells whether parameters can be
read; what they say is not needed.
-/

namespace EditorAssist.Layout.Parameters

open EditorAssist.Number EditorAssist.Text

/-- The smallest pieces of literals. -/
inductive Token where
  | number (imaginary : Bool)
  | text (bytes : Bool)
  /-- A constant that has a name or is an ellipsis. -/
  | constant
  | setName
  | sign
  | comma
  | colon
  | openParen
  | closeParen
  | openBrace
  | closeBrace
  | stop
  deriving Repr, DecidableEq

/-- Whether a character goes on with the name or number before it. -/
def continues (c : Char) : Bool := c = '_' || c.isAlphanum || 0x80 ≤ c.toNat

/-- Digits that may have single underscores between them, and what follows. -/
def digitRun (isDigit : Char → Bool) : List Char → List Char × List Char
  | [] => ([], [])
  | c :: '_' :: next :: more =>
    if isDigit c && isDigit next then
      let (digits, after) := digitRun isDigit (next :: more)
      (c :: digits, after)
    else if isDigit c then ([c], '_' :: next :: more)
    else ([], c :: '_' :: next :: more)
  | c :: rest =>
    if isDigit c then
      let (digits, after) := digitRun isDigit rest
      (c :: digits, after)
    else ([], c :: rest)

/-- Drops an exponent, if there is one; tells whether there was. -/
def dropExponent (text : List Char) : Bool × List Char :=
  let run (rest : List Char) : Bool × List Char :=
    match digitRun Char.isDigit rest with
    | ([], _) => (false, text)
    | (_, after) => (true, after)
  match text with
  | c :: rest =>
    if c = 'e' || c = 'E' then
      match rest with
      | '+' :: more | '-' :: more => run more
      | _ => run rest
    else (false, text)
  | [] => (false, text)

/-- Drops a fraction, if there is one; tells whether there was. -/
def dropFraction : List Char → Bool × List Char
  | '.' :: rest => (true, (digitRun Char.isDigit rest).2)
  | text => (false, text)

/-- Digits in a base other than ten, after an optional underscore. -/
def basedNumber (isDigit : Char → Bool) (text : List Char) : Option (Token × List Char) :=
  let digits := match text with
    | '_' :: rest => rest
    | _ => text
  match digitRun isDigit digits with
  | ([], _) => none
  | (_, after) => some (.number false, after)

/-- A number in base ten. Only those with a fraction, an exponent or an imaginary unit can start with
zeros. -/
def decimalNumber (text : List Char) : Option (Token × List Char) :=
  let (whole, afterWhole) := digitRun Char.isDigit text
  let (fraction, afterFraction) := dropFraction afterWhole
  let (exponent, afterExponent) := dropExponent afterFraction
  let plain := whole.length ≤ maxDigits && (whole.head? ≠ some '0' || whole.all (· = '0'))
  match afterExponent with
  | 'j' :: after | 'J' :: after => some (.number true, after)
  | after => if fraction || exponent || plain then some (.number false, after) else none

/-- The number that a text starts with. No name may follow it directly. -/
def readNumber (text : List Char) : Option (Token × List Char) := do
  let (token, after) ← match text with
    | '0' :: 'x' :: rest | '0' :: 'X' :: rest =>
      basedNumber (fun c => c.isDigit || ('a' ≤ c.toLower && c.toLower ≤ 'f')) rest
    | '0' :: 'o' :: rest | '0' :: 'O' :: rest => basedNumber (fun c => '0' ≤ c && c ≤ '7') rest
    | '0' :: 'b' :: rest | '0' :: 'B' :: rest => basedNumber (fun c => c = '0' || c = '1') rest
    | _ => decimalNumber text
  if (after.head?.map continues).getD false then none else some (token, after)

def hexValue (text : List Char) : Option Nat :=
  text.foldlM (fun value c =>
    if c.isDigit then some (16 * value + (c.toNat - '0'.toNat))
    else if 'a' ≤ c.toLower && c.toLower ≤ 'f' then some (16 * value + (c.toLower.toNat - 'a'.toNat + 10))
    else none) 0

/-- Whether an escape that names a character by its code is complete. -/
def isCompleteEscape (count : Nat) (text : List Char) : Bool :=
  match hexValue (text.take count) with
  | some value => (text.take count).length = count && value ≤ 0x10FFFF
  | none => false

/-- Whether a text starts with the name of a character in braces. -/
def startsWithName (text : List Char) : Bool :=
  match text with
  | '\x7b' :: rest => rest.contains '\x7d' && isCharacterName (rest.takeWhile (· ≠ '\x7d'))
  | _ => false

/-- Whether what follows a backslash can do so; `rest` follows the character `c`. -/
def isEscape (bytes : Bool) (c : Char) (rest : List Char) : Bool :=
  if c = 'x' then isCompleteEscape 2 rest
  else if bytes then true
  else if c = 'u' then isCompleteEscape 4 rest
  else if c = 'U' then isCompleteEscape 8 rest
  else if c = 'N' then startsWithName rest
  else true

/-- How a text is delimited and what its characters mean. -/
structure TextForm where
  raw : Bool
  bytes : Bool
  quote : Char
  /-- Three quotes on each side, so that the text can have several lines. -/
  long : Bool

/-- Skips a text up to the end of its closing quotes. -/
def skipText (form : TextForm) : List Char → Option (List Char)
  | [] => none
  | '\\' :: c :: rest =>
    if form.bytes && 0x80 ≤ c.toNat then none
    else if form.raw || isEscape form.bytes c rest then skipText form rest
    else none
  | c :: rest =>
    if c = form.quote then
      if !form.long then some rest
      else
        match rest with
        | second :: third :: after =>
          if second = form.quote && third = form.quote then some after
          else skipText form (second :: third :: after)
        | _ => none
    else if c = '\n' && !form.long then none
    else if form.bytes && 0x80 ≤ c.toNat then none
    else skipText form rest

/-- The text that starts with a quote, after its letters. -/
def readText (raw bytes : Bool) (text : List Char) : Option (Token × List Char) :=
  match text with
  | q :: second :: third :: rest =>
    if second = q && third = q then
      (skipText ⟨raw, bytes, q, true⟩ rest).map fun after => (.text bytes, after)
    else (skipText ⟨raw, bytes, q, false⟩ (second :: third :: rest)).map fun after => (.text bytes, after)
  | q :: rest => (skipText ⟨raw, bytes, q, false⟩ rest).map fun after => (.text bytes, after)
  | [] => none

/-- The constant, or the text with letters before it, that a text starts with. -/
def readName (text : List Char) : Option (Token × List Char) :=
  let name := String.ofList (text.takeWhile continues)
  let after := text.dropWhile continues
  let quoted := after.head? = some '\'' || after.head? = some '"'
  let letters := name.toLower
  if quoted then
    if letters = "r" then readText true false after
    else if letters = "u" then readText false false after
    else if letters = "b" then readText false true after
    else if letters = "br" || letters = "rb" then readText true true after
    else none
  else if name = "True" || name = "False" || name = "None" then some (.constant, after)
  else if name = "set" then some (.setName, after)
  else none

/-- The token of a character that is one. -/
def markToken? (c : Char) : Option Token :=
  if c = '(' then some .openParen
  else if c = ')' then some .closeParen
  else if c = '\x7b' then some .openBrace
  else if c = '\x7d' then some .closeBrace
  else if c = ',' then some .comma
  else if c = ':' then some .colon
  else if c = '+' || c = '-' then some .sign
  else none

/-- The token that a text without blanks in front starts with. -/
def readToken (text : List Char) : Option (Token × List Char) :=
  match text with
  | [] => none
  | '.' :: '.' :: '.' :: rest => some (.constant, rest)
  | '.' :: c :: _ => if c.isDigit then readNumber text else none
  | c :: rest =>
    match markToken? c with
    | some token => some (token, rest)
    | none =>
      if c.isDigit then readNumber text
      else if c = '\'' || c = '"' then readText false false text
      else readName text

/-- How deep brackets can be nested. -/
def maxDepth : Nat := 200

/-- The depth of brackets after a token, unless it is too deep. -/
def deepen? (depth : Nat) : Token → Option Nat
  | .openParen | .openBrace => if depth < maxDepth then some (depth + 1) else none
  | .closeParen | .closeBrace => some (depth - 1)
  | _ => some depth

/-- Whether a text consists of blanks and comments. -/
def isIdle : (inComment : Bool) → List Char → Bool
  | _, [] => true
  | true, c :: rest => isIdle (c ≠ '\n') rest
  | false, c :: rest =>
    if c = '#' then isIdle true rest
    else (c = ' ' || c = '\t' || c = '\x0c' || c = '\n') && isIdle false rest

/-- A text without the comments and empty lines that it starts with. -/
def withoutComments : (inComment : Bool) → List Char → List Char
  | _, [] => []
  | true, c :: rest => withoutComments (c ≠ '\n') rest
  | false, c :: rest =>
    if c = '#' then withoutComments true rest
    else if c = '\n' then withoutComments false rest
    else c :: rest

/-- The tokens of a text. Outside of brackets nothing but comments may follow the end of a line. `fuel` is
no less than the length of the text. -/
def tokensFrom : (fuel depth : Nat) → List Char → Option (List Token)
  | _, _, [] => some [.stop]
  | 0, _, _ => none
  | fuel + 1, depth, c :: rest =>
    if c = ' ' || c = '\t' || c = '\x0c' then tokensFrom fuel depth rest
    else if c = '\n' then
      if depth = 0 then if isIdle false rest then some [.stop] else none
      else tokensFrom fuel depth rest
    else if c = '#' then tokensFrom fuel depth (rest.dropWhile (· ≠ '\n'))
    else
      match c, rest with
      | '\\', '\n' :: more => tokensFrom fuel depth more
      | _, _ =>
        match readToken (c :: rest) with
        | none => none
        | some (token, after) =>
          match deepen? depth token with
          | none => none
          | some inner => (tokensFrom fuel inner after).map (token :: ·)

/-- What an expression can be part of. -/
inductive Kind where
  | number (imaginary : Bool)
  | signed (imaginary : Bool)
  | other (hashable : Bool)
  deriving Repr, DecidableEq

/-- Whether a value can be a member of a set or the key of a mapping. -/
def Kind.hashable : Kind → Bool
  | .other hashable => hashable
  | _ => true

/-- Whether a value can have an imaginary part added to it. -/
def Kind.isReal : Kind → Bool
  | .number imaginary | .signed imaginary => !imaginary
  | .other _ => false

/-- Drops texts that go on with the one before them; all are texts or all are bytes. -/
def dropTexts (bytes : Bool) : List Token → Option (List Token)
  | .text other :: rest => if other = bytes then dropTexts bytes rest else none
  | rest => some rest

mutual

/-- A value without a sign. -/
def readAtom : (fuel : Nat) → List Token → Option (Kind × List Token)
  | 0, _ => none
  | _ + 1, .number imaginary :: rest => some (.number imaginary, rest)
  | _ + 1, .text bytes :: rest => (dropTexts bytes rest).map fun rest => (.other true, rest)
  | _ + 1, .constant :: rest => some (.other true, rest)
  | _ + 1, .setName :: .openParen :: .closeParen :: rest => some (.other false, rest)
  | _ + 1, .openParen :: .closeParen :: rest => some (.other true, rest)
  | fuel + 1, .openParen :: rest =>
    match readValue fuel rest with
    | some (kind, .closeParen :: rest) => some (kind, rest)
    | some (kind, .comma :: rest) =>
      (readItems fuel .closeParen rest).map fun (hashable, rest) => (.other (kind.hashable && hashable), rest)
    | _ => none
  | _ + 1, .openBrace :: .closeBrace :: rest => some (.other false, rest)
  | fuel + 1, .openBrace :: rest =>
    match readValue fuel rest with
    | some (kind, .colon :: rest) =>
      if kind.hashable then (readEntries fuel rest).map fun rest => (.other false, rest) else none
    | some (kind, .closeBrace :: rest) => if kind.hashable then some (.other false, rest) else none
    | some (kind, .comma :: rest) =>
      match readItems fuel .closeBrace rest with
      | some (hashable, rest) => if kind.hashable && hashable then some (.other false, rest) else none
      | none => none
    | _ => none
  | _ + 1, _ => none

/-- A value: a sign can stand before a number, and an imaginary part after a real one. -/
def readValue : (fuel : Nat) → List Token → Option (Kind × List Token)
  | 0, _ => none
  | fuel + 1, .sign :: rest =>
    match readAtom fuel rest with
    | some (.number imaginary, rest) => readSum fuel (.signed imaginary) rest
    | _ => none
  | fuel + 1, tokens =>
    match readAtom fuel tokens with
    | some (kind, rest) => readSum fuel kind rest
    | none => none

/-- The imaginary part after a value, if there is one. -/
def readSum : (fuel : Nat) → Kind → List Token → Option (Kind × List Token)
  | 0, _, _ => none
  | fuel + 1, kind, .sign :: rest =>
    match readAtom fuel rest with
    | some (.number true, rest) => if kind.isReal then some (.other true, rest) else none
    | _ => none
  | _ + 1, kind, rest => some (kind, rest)

/-- Values up to a closing token, after a comma; tells whether all of them are hashable. -/
def readItems : (fuel : Nat) → (closing : Token) → List Token → Option (Bool × List Token)
  | 0, _, _ => none
  | fuel + 1, closing, tokens =>
    if tokens.head? = some closing then some (true, tokens.tail)
    else
      match readValue fuel tokens with
      | some (kind, .comma :: rest) =>
        (readItems fuel closing rest).map fun (hashable, rest) => (kind.hashable && hashable, rest)
      | some (kind, next :: rest) => if next = closing then some (kind.hashable, rest) else none
      | _ => none

/-- The value of an entry and further entries. -/
def readEntries : (fuel : Nat) → List Token → Option (List Token)
  | 0, _ => none
  | fuel + 1, tokens =>
    match readValue fuel tokens with
    | some (_, .closeBrace :: rest) => some rest
    | some (_, .comma :: .closeBrace :: rest) => some rest
    | some (_, .comma :: rest) =>
      match readValue fuel rest with
      | some (key, .colon :: rest) => if key.hashable then readEntries fuel rest else none
      | _ => none
    | _ => none

end

/-- The tokens of a text whose first line is not indented. -/
def tokens? (text : List Char) : Option (List Token) :=
  let body := withoutComments false text
  if body.length < text.length && (body.head? = some ' ' || body.head? = some '\t') then none
  else tokensFrom body.length 0 body

/-- Whether a text is a literal, or several with commas between them. -/
def isLiteral (text : List Char) : Bool :=
  match tokens? (normalizeNewlines text) with
  | none => false
  | some tokens =>
    let fuel := 4 * tokens.length + 4
    match readValue fuel tokens with
    | some (_, [.stop]) => true
    | some (_, .comma :: rest) => (readItems fuel .stop rest).isSome
    | _ => false

/-- The literals of parameters that start with the name of a handler, if they do; without parentheses they
are none. -/
def handlerLiterals? (text : List Char) : Option (List Char) :=
  let rest := text.dropWhile fun c => isWordChar c || c = '.'
  if rest.isEmpty then some "()".toList
  else if rest.head? = some '(' && rest.getLast? = some ')' && !rest.contains '\n' then some rest
  else none

/-- Whether the parameters of a tag can be read. -/
def isReadable (parameters : List Char) : Bool :=
  let text := trim parameters
  !text.contains (Char.ofNat 0) && isLiteral ((handlerLiterals? text).getD text)

end EditorAssist.Layout.Parameters

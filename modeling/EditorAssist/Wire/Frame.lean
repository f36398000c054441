import EditorAssist.Fault
import EditorAssist.Number.Integer
import EditorAssist.Text.Search
import EditorAssist.Wire.Message

/-!
# Frames

A frame is a header block that ends in a blank line, followed by as many bytes as its
`Content-Length` announces. Writing produces exactly one header line. Reading accepts any header
lines in any case and order, the last length of a block counting, skips blocks without a usable
length, and never returns part of a body. A length that the stream cannot be asked for, and a body
that meets a limit of the JSON reader, break the reading off.
-/

namespace EditorAssist.Wire

open EditorAssist.Text EditorAssist.Number

/-- ASCII text as bytes. -/
def asciiBytes (text : String) : List UInt8 := text.toList.map fun c => c.toNat.toUInt8

/-- Bytes as characters of the same code. -/
def latinChars (bytes : List UInt8) : List Char := bytes.map fun b => Char.ofNat b.toNat

/-- ASCII bytes as text; each other byte shows as a replacement character. -/
def asciiText (bytes : List UInt8) : List Char :=
  bytes.map fun b => if b.toNat < 128 then Char.ofNat b.toNat else '\uFFFD'

def newlineByte : UInt8 := 10

/-- The frame of a body. -/
def encodeFrame (body : List UInt8) : List UInt8 :=
  asciiBytes "Content-Length: " ++ asciiBytes (toString body.length) ++ asciiBytes "\r\n\r\n" ++ body

/-- A stream of bytes. Its `n`-th read returns at most `grant n` bytes and at least one while any
are left; where `largest` is given, no read may ask for more bytes. -/
structure Source where
  rest : List UInt8
  grant : Nat → Nat
  reads : Nat
  largest : Option Nat

/-- The most bytes that a read of an unlimited stream may ask for. -/
def maxRequest : Nat := (1 <<< 63) - 1

/-- A stream that answers every read in full. -/
def Source.ofBytes (bytes : List UInt8) : Source :=
  let all := bytes.length
  ⟨bytes, fun _ => all, 0, some maxRequest⟩

/-- A stream whose reads return at most `limit` bytes. -/
def Source.limited (bytes : List UInt8) (limit : Nat) : Source := ⟨bytes, fun _ => limit, 0, none⟩

/-- Whether the stream can be asked for so many bytes. -/
def Source.takesRequest (s : Source) (size : Nat) : Bool :=
  match s.largest with
  | some largest => size ≤ largest
  | none => true

/-- Something that a reader noticed on the way. -/
inductive ReadNote where
  | badLength (value : List UInt8)
  | truncated (expected missing : Nat)
  | malformed (failure : DecodeFailure) (size : Nat)
  deriving Repr, DecidableEq

/-- What breaks the reading of a stream off. -/
inductive Breach where
  /-- The stream cannot be asked for a body of that size. -/
  | request (size : Nat)
  /-- A body meets a limit of the JSON reader. -/
  | limit (cause : Json.Cause)
  deriving Repr, DecidableEq

def Breach.fault : Breach → Fault
  | .request _ => Fault.overflow
  | .limit cause => Fault.ofLimit cause

/-- What a reader comes to: something it looks for, the end of the stream, or a breach. -/
inductive Arrival (α : Type) where
  | found (item : α)
  | ended
  | broken (breach : Breach)

/-- Splits after the first newline. -/
def splitLine : List UInt8 → List UInt8 × List UInt8
  | [] => ([], [])
  | b :: rest =>
    if b = newlineByte then ([b], rest)
    else ((b :: (splitLine rest).1), (splitLine rest).2)

theorem length_splitLine_lt (b : UInt8) (rest : List UInt8) :
    (splitLine (b :: rest)).2.length < (b :: rest).length := by
  induction rest generalizing b with
  | nil => by_cases h : b = newlineByte <;> simp [splitLine, h]
  | cons next rest ih =>
    by_cases h : b = newlineByte
    · simp [splitLine, h]
    · have := ih next
      simp only [splitLine, h, if_false, List.length_cons] at this ⊢
      omega

/-- The value of a header line that announces a length. -/
def lengthValue? (line : List Char) : Option (List Char) :=
  (strip? "content-length:".toList (line.map Char.toLower)).map fun rest =>
    line.drop (line.length - rest.length)

/-- Reads a header block up to its blank line: the announced length, if one is usable, and the
bytes after the block. There is no block when the stream ends first. -/
def readHeader (length : Option Int) : List UInt8 → List ReadNote × Option (Option Int × List UInt8)
  | [] => ([], none)
  | b :: rest =>
    let line := trimAscii (latinChars (splitLine (b :: rest)).1)
    have := length_splitLine_lt b rest
    if line.isEmpty then ([], some (length, (splitLine (b :: rest)).2))
    else
      match lengthValue? line with
      | none => readHeader length (splitLine (b :: rest)).2
      | some value =>
        match headerInteger? value with
        | some size => readHeader (some size) (splitLine (b :: rest)).2
        | none =>
          let (notes, block) := readHeader none (splitLine (b :: rest)).2
          (.badLength ((trimAscii value).map fun c => c.toNat.toUInt8) :: notes, block)
termination_by bytes => bytes.length
decreasing_by all_goals exact this

/-- Reads exactly `size` bytes in as many reads as it takes: the bytes, the rest and the number of
reads made so far; otherwise the number of bytes that the stream lacks. -/
def takeExact (grant : Nat → Nat) (size reads : Nat) :
    List UInt8 → Except Nat (List UInt8 × List UInt8 × Nat)
  | [] => if size = 0 then .ok ([], [], reads) else .error size
  | b :: rest =>
    if size = 0 then .ok ([], b :: rest, reads)
    else
      let extra := min (size - 1) (grant reads - 1)
      match takeExact grant (size - 1 - (rest.take extra).length) (reads + 1) (rest.drop extra) with
      | .ok (more, after) => .ok (b :: rest.take extra ++ more, after)
      | .error missing => .error missing
termination_by bytes => bytes.length
decreasing_by
  simp only [List.length_drop, List.length_cons]
  omega

/-- `takeExact` on a stream. -/
def readExact (size : Nat) (s : Source) : Except Nat (List UInt8 × Source) :=
  (takeExact s.grant size s.reads s.rest).map fun (body, rest, reads) => (body, { s with rest, reads })

theorem length_readHeader_lt {length : Option Int} {bytes : List UInt8} {notes : List ReadNote}
    {announced : Option Int} {rest : List UInt8}
    (h : readHeader length bytes = (notes, some (announced, rest))) :
    rest.length < bytes.length := by
  fun_induction readHeader length bytes generalizing notes with
  | case1 => simp at h
  | case2 length b more =>
    simp only [Prod.mk.injEq, Option.some.injEq] at h
    obtain ⟨_, _, rfl⟩ := h
    exact length_splitLine_lt b more
  | case3 length b more => rename_i ih; exact Nat.lt_trans (ih h) (length_splitLine_lt b more)
  | case4 length b more => rename_i ih; exact Nat.lt_trans (ih h) (length_splitLine_lt b more)
  | case5 length b more =>
    rename_i eq ih
    simp only [Prod.mk.injEq] at h
    obtain ⟨_, rfl⟩ := h
    exact Nat.lt_trans (ih eq) (length_splitLine_lt b more)

theorem length_takeExact_le {grant : Nat → Nat} {size reads after : Nat}
    {bytes body rest : List UInt8}
    (h : takeExact grant size reads bytes = .ok (body, rest, after)) :
    rest.length ≤ bytes.length := by
  fun_induction takeExact grant size reads bytes generalizing body with
  | case1 => simp only [Except.ok.injEq, Prod.mk.injEq] at h; simp [← h.2.1]
  | case2 => cases h
  | case3 => simp only [Except.ok.injEq, Prod.mk.injEq] at h; simp [← h.2.1]
  | case4 =>
    rename_i hr ih
    simp only [Except.ok.injEq, Prod.mk.injEq] at h
    rw [h.2] at hr
    have := ih hr
    rw [List.length_drop] at this
    rw [List.length_cons]
    omega
  | case5 => cases h

theorem length_readExact_le {size : Nat} {s after : Source} {body : List UInt8}
    (h : readExact size s = .ok (body, after)) : after.rest.length ≤ s.rest.length := by
  unfold readExact at h
  cases taken : takeExact s.grant size s.reads s.rest with
  | error => simp [taken, Except.map] at h
  | ok found =>
    simp only [taken, Except.map, Except.ok.injEq, Prod.mk.injEq] at h
    obtain ⟨_, rfl⟩ := h
    exact length_takeExact_le taken

/-- The next non-empty body, with what was noticed before it. -/
def readFrame (s : Source) : List ReadNote × Arrival (List UInt8) × Source :=
  match h : readHeader none s.rest with
  | (notes, none) => (notes, .ended, { s with rest := [] })
  | (notes, some (announced, rest)) =>
    have := length_readHeader_lt h
    let size := (announced.getD 0).toNat
    if size = 0 then
      let (more, arrival, after) := readFrame { s with rest }
      (notes ++ more, arrival, after)
    else if s.takesRequest size then
      match readExact size { s with rest } with
      | .ok (body, after) => (notes, .found body, after)
      | .error missing => (notes ++ [.truncated size missing], .ended, { s with rest := [] })
    else (notes, .broken (.request size), { s with rest })
termination_by s.rest.length

theorem length_readFrame_lt {s after : Source} {notes : List ReadNote} {body : List UInt8}
    (h : readFrame s = (notes, .found body, after)) : after.rest.length < s.rest.length := by
  fun_induction readFrame s generalizing notes with
  | case1 => simp at h
  | case2 =>
    rename_i smaller _ _ _ _ _ eq ih
    simp only [Prod.mk.injEq] at h
    obtain ⟨_, rfl, rfl⟩ := h
    exact Nat.lt_trans (ih eq) smaller
  | case3 =>
    rename_i smaller _ _ _ _ _ eq
    simp only [Prod.mk.injEq, Arrival.found.injEq] at h
    obtain ⟨_, rfl, rfl⟩ := h
    exact Nat.lt_of_le_of_lt (length_readExact_le eq) smaller
  | case4 => simp at h
  | case5 => simp at h

/-- Every body of the stream in order, and the breach that ends them before the stream does. -/
def readFrames (s : Source) : List ReadNote × List (List UInt8) × Option Breach :=
  match h : readFrame s with
  | (notes, .ended, _) => (notes, [], none)
  | (notes, .broken breach, _) => (notes, [], some breach)
  | (notes, .found body, after) =>
    have := length_readFrame_lt h
    let (more, bodies, breach) := readFrames after
    (notes ++ more, body :: bodies, breach)
termination_by s.rest.length

/-- The next message; bodies that are none are dropped. -/
def readMessage (s : Source) : List ReadNote × Arrival Message × Source :=
  match h : readFrame s with
  | (notes, .ended, after) => (notes, .ended, after)
  | (notes, .broken breach, after) => (notes, .broken breach, after)
  | (notes, .found body, after) =>
    match Message.decode body with
    | .ok message => (notes, .found message, after)
    | .error failure =>
      match failure.limit? with
      | some cause => (notes, .broken (.limit cause), after)
      | none =>
        have := length_readFrame_lt h
        let (more, arrival, last) := readMessage after
        (notes ++ .malformed failure body.length :: more, arrival, last)
termination_by s.rest.length

theorem length_readMessage_lt {s after : Source} {notes : List ReadNote} {message : Message}
    (h : readMessage s = (notes, .found message, after)) : after.rest.length < s.rest.length := by
  fun_induction readMessage s generalizing notes with
  | case1 => simp at h
  | case2 => simp at h
  | case3 =>
    rename_i eq _ _
    simp only [Prod.mk.injEq, Arrival.found.injEq] at h
    obtain ⟨_, _, rfl⟩ := h
    exact length_readFrame_lt eq
  | case4 => simp at h
  | case5 =>
    rename_i eq _ _ _ _ _ _ _ again ih
    simp only [Prod.mk.injEq] at h
    obtain ⟨_, rfl, rfl⟩ := h
    exact Nat.lt_trans (ih again) (length_readFrame_lt eq)

/-- All messages of a stream. -/
structure Inbox where
  notes : List ReadNote
  messages : List Message
  /-- What ends the messages before the stream does. -/
  breach : Option Breach
  /-- What is left unread. -/
  after : Source

/-- Every message of the stream in order. -/
def readMessages (s : Source) : Inbox :=
  match h : readMessage s with
  | (notes, .ended, after) => ⟨notes, [], none, after⟩
  | (notes, .broken breach, after) => ⟨notes, [], some breach, after⟩
  | (notes, .found message, after) =>
    have := length_readMessage_lt h
    let more := readMessages after
    { more with notes := notes ++ more.notes, messages := message :: more.messages }
termination_by s.rest.length

/-- The output side of a connection: what was written, and whether it still takes frames. -/
structure FrameWriter where
  written : List UInt8
  closed : Bool
  deriving Repr, DecidableEq

def FrameWriter.empty : FrameWriter := ⟨[], false⟩

/-- Writes a value as one frame and returns its body; a closed writer stays as it is. -/
def FrameWriter.write (w : FrameWriter) (v : Json.Value) : FrameWriter × List UInt8 :=
  let body := encodeBody v
  (if w.closed then w else { w with written := w.written ++ encodeFrame body }, body)

/-- Writes a value as one frame, unless it has no body. -/
def FrameWriter.write? (w : FrameWriter) (v : Json.Value) : Except Fault (FrameWriter × List UInt8) :=
  match encodeFault? v with
  | some fault => .error fault
  | none => .ok (w.write v)

def FrameWriter.close (w : FrameWriter) : FrameWriter := { w with closed := true }

end EditorAssist.Wire

/-!
# Strict UTF-8

Decoding accepts exactly the well-formed sequences: shortest form, no surrogates, nothing above
U+10FFFF. A refusal names the first offending sequence, the bytes it covers and the reason, so that
callers can report it.
-/

namespace EditorAssist.Text.Utf8

/-- Why a byte sequence is refused. -/
inductive Reason where
  | invalidStart
  | invalidContinuation
  | unexpectedEnd
  deriving Repr, DecidableEq

/-- The first refused sequence: its first byte, position and length. -/
structure Refusal where
  reason : Reason
  byte : UInt8
  position : Nat
  size : Nat
  deriving Repr, DecidableEq

def Reason.message : Reason → String
  | .invalidStart => "invalid start byte"
  | .invalidContinuation => "invalid continuation byte"
  | .unexpectedEnd => "unexpected end of data"

def hexDigit (n : Nat) : Char := (Nat.digitChar n)

/-- Two lower-case hexadecimal digits. -/
def hexByte (b : UInt8) : String :=
  String.ofList [hexDigit (b.toNat / 16), hexDigit (b.toNat % 16)]

def Refusal.message (r : Refusal) : String :=
  let place :=
    if r.size = 1 then "byte 0x" ++ hexByte r.byte ++ " in position " ++ toString r.position
    else "bytes in position " ++ toString r.position ++ "-" ++ toString (r.position + r.size - 1)
  "'utf-8' codec can't decode " ++ place ++ ": " ++ r.reason.message

/-- Number of continuation bytes after a lead byte and the range allowed for the first of them. -/
def lead? (b : UInt8) : Option (Nat × UInt8 × UInt8) :=
  if b < 0x80 then some (0, 0x80, 0xBF)
  else if b < 0xC2 then none
  else if b < 0xE0 then some (1, 0x80, 0xBF)
  else if b = 0xE0 then some (2, 0xA0, 0xBF)
  else if b = 0xED then some (2, 0x80, 0x9F)
  else if b < 0xF0 then some (2, 0x80, 0xBF)
  else if b = 0xF0 then some (3, 0x90, 0xBF)
  else if b < 0xF4 then some (3, 0x80, 0xBF)
  else if b = 0xF4 then some (3, 0x80, 0x8F)
  else none

/-- Bits that a lead byte contributes. -/
def leadBits (b : UInt8) (count : Nat) : Nat :=
  match count with
  | 0 => b.toNat
  | 1 => b.toNat % 32
  | 2 => b.toNat % 16
  | _ => b.toNat % 8

/-- Reads `count` continuation bytes, the first within `low` and `high`; `taken` bytes of the
sequence have been read. -/
def continuation : (count : Nat) → (low high : UInt8) → (value taken : Nat) → List UInt8 →
    Except (Reason × Nat) (Nat × List UInt8)
  | 0, _, _, value, _, rest => .ok (value, rest)
  | _ + 1, _, _, _, taken, [] => .error (.unexpectedEnd, taken)
  | count + 1, low, high, value, taken, b :: rest =>
    if low ≤ b && b ≤ high then
      continuation count 0x80 0xBF (value * 64 + b.toNat % 64) (taken + 1) rest
    else .error (.invalidContinuation, taken)

theorem continuation_length {count : Nat} {low high : UInt8} {value taken result : Nat}
    {bytes rest : List UInt8}
    (h : continuation count low high value taken bytes = .ok (result, rest)) :
    rest.length ≤ bytes.length := by
  induction count generalizing low high value taken bytes with
  | zero => simp [continuation] at h; simp [h]
  | succ count ih =>
    cases bytes with
    | nil => simp [continuation] at h
    | cons b bytes =>
      simp only [continuation] at h
      split at h
      · have := ih h
        simp only [List.length_cons]
        omega
      · cases h

/-- Decodes from `position` on. -/
def decodeFrom (position : Nat) : List UInt8 → Except Refusal (List Char)
  | [] => .ok []
  | b :: rest =>
    match lead? b with
    | none => .error ⟨.invalidStart, b, position, 1⟩
    | some (count, low, high) =>
      match h : continuation count low high (leadBits b count) 1 rest with
      | .error (reason, size) => .error ⟨reason, b, position, size⟩
      | .ok (value, after) =>
        have := continuation_length h
        match decodeFrom (position + count + 1) after with
        | .ok chars => .ok (Char.ofNat value :: chars)
        | .error refusal => .error refusal
termination_by bytes => bytes.length

/-- The text that the bytes encode, or the first refusal. -/
def decode (bytes : List UInt8) : Except Refusal String :=
  (decodeFrom 0 bytes).map String.ofList

/-- The UTF-8 form of a text. -/
def encode (text : String) : List UInt8 := text.toList.flatMap String.utf8EncodeChar

end EditorAssist.Text.Utf8

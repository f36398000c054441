import EditorAssist.Proofs.Number.Decimal
import EditorAssist.Wire.Frame

/-!
# The header of a frame

A frame begins with the line that announces the length of its body and a blank line. Reading follows
the header block line by line: the announcement sets the length, the blank line ends the block, and a
single line without an end leaves it unfinished.
-/

namespace EditorAssist.Wire

open EditorAssist.Text EditorAssist.Number

/-! ## Lines of the header -/

section HeaderLines

theorem splitLine_of_notMem {line : List UInt8} (single : newlineByte ∉ line) :
    splitLine line = (line, []) := by
  induction line with
  | nil => rfl
  | cons b rest ih =>
    rw [List.mem_cons, not_or] at single
    simp only [splitLine, Ne.symm single.1, ↓reduceIte, ih single.2]

theorem splitLine_append {line : List UInt8} (single : newlineByte ∉ line) (rest : List UInt8) :
    splitLine (line ++ newlineByte :: rest) = (line ++ [newlineByte], rest) := by
  induction line with
  | nil => simp [splitLine]
  | cons b line ih =>
    rw [List.mem_cons, not_or] at single
    simp only [List.cons_append, splitLine, Ne.symm single.1, ↓reduceIte, ih single.2]

theorem asciiBytes_append (first second : String) :
    asciiBytes (first ++ second) = asciiBytes first ++ asciiBytes second := by
  simp [asciiBytes]

/-- Characters below 128 survive their way through bytes. -/
theorem latinChars_asciiBytes {text : String} (ascii : ∀ c ∈ text.toList, c.toNat < 128) :
    latinChars (asciiBytes text) = text.toList := by
  simp only [latinChars, asciiBytes, List.map_map]
  refine (List.map_congr_left ?_).trans (List.map_id text.toList)
  intro c member
  have small := ascii c member
  have same : c.toNat.toUInt8.toNat = c.toNat := by
    rw [Nat.toUInt8, UInt8.toNat_ofNat']
    omega
  simp only [Function.comp_apply, same, Char.ofNat_toNat, id_eq]

theorem toNat_lt_of_isDigit {c : Char} (digit : c.isDigit = true) : c.toNat < 128 := by
  simp only [Char.isDigit, ge_iff_le, Bool.and_eq_true, decide_eq_true_eq] at digit
  have upper : c.toNat ≤ 57 := digit.2
  omega

/-- The line that announces a length, without its end. -/
def lengthLine (size : Nat) : String := "Content-Length: " ++ toString size

theorem announcement_toList : "Content-Length: ".toList = "Content-Length:".toList ++ [' '] := rfl

theorem lengthLine_toList (size : Nat) :
    (lengthLine size).toList = "Content-Length:".toList ++ ' ' :: (toString size).toList :=
  calc (lengthLine size).toList = "Content-Length: ".toList ++ (toString size).toList := String.toList_append
    _ = "Content-Length:".toList ++ [' '] ++ (toString size).toList := congrArg (· ++ _) announcement_toList
    _ = "Content-Length:".toList ++ ' ' :: (toString size).toList := List.append_assoc ..

theorem mem_lengthLine {size : Nat} {c : Char} (member : c ∈ (lengthLine size).toList) :
    c.toNat < 128 ∧ c ≠ '\n' := by
  rw [lengthLine_toList, List.mem_append, List.mem_cons] at member
  rcases member with name | rfl | digit
  · have small : ("Content-Length:".toList.all fun c => decide (c.toNat < 128 ∧ c ≠ '\n')) = true := by decide
    exact of_decide_eq_true (List.all_eq_true.mp small c name)
  · decide
  · have isDigit := isDigit_of_mem_toString digit
    refine ⟨toNat_lt_of_isDigit isDigit, ?_⟩
    rintro rfl
    exact absurd isDigit (by decide)

theorem newlineByte_notMem_lengthLine (size : Nat) : newlineByte ∉ asciiBytes (lengthLine size) := by
  intro member
  obtain ⟨c, present, equal⟩ := List.mem_map.mp member
  obtain ⟨small, other⟩ := mem_lengthLine present
  have code : c.toNat = 10 := by
    have numbers := congrArg UInt8.toNat equal
    rw [Nat.toUInt8, UInt8.toNat_ofNat'] at numbers
    have : newlineByte.toNat = 10 := rfl
    omega
  exact other (Char.toNat_inj.mp code)

theorem trimAscii_lengthLine (size : Nat) {blanks : List Char}
    (trailing : ∀ c ∈ blanks, isAsciiBlank c = true) :
    trimAscii ((lengthLine size).toList ++ blanks) = (lengthLine size).toList := by
  have nonempty := toString_toList_ne_nil size
  have last : (lengthLine size).toList.getLast? = some ((toString size).toList.getLast nonempty) := by
    rw [lengthLine_toList, List.getLast?_append, List.getLast?_cons,
      List.getLast?_eq_some_getLast nonempty]
    rfl
  have first : (lengthLine size).toList.head? = some 'C' := by
    rw [lengthLine_toList]
    rfl
  have digit := isDigit_of_mem_toString (List.getLast_mem nonempty)
  have around : trimBoth isAsciiBlank ([] ++ (lengthLine size).toList ++ blanks) =
      (lengthLine size).toList := trimBoth_between (by simp) trailing first last (by decide)
    (isAsciiBlank_eq_false_of_isDigit digit)
  simpa only [trimAscii, List.nil_append] using around

theorem lengthValue?_lengthLine (size : Nat) :
    lengthValue? (lengthLine size).toList = some (' ' :: (toString size).toList) := by
  have lowered : strip? "content-length:".toList ((lengthLine size).toList.map Char.toLower) =
      some ((' ' :: (toString size).toList).map Char.toLower) := by
    rw [strip?_eq_some_iff, lengthLine_toList, List.map_append]
    rfl
  rw [lengthValue?, lowered, lengthLine_toList]
  simp only [Option.map_some, List.length_map, List.length_append]
  rw [Nat.add_sub_cancel, List.drop_left]

end HeaderLines

/-! ## The header block of a frame -/

section Header

/-- The header of a frame: the line that announces the length and the blank line, with their ends. -/
def frameHeader (size : Nat) : List UInt8 := asciiBytes (lengthLine size) ++ asciiBytes "\r\n\r\n"

theorem encodeFrame_eq (body : List UInt8) : encodeFrame body = frameHeader body.length ++ body :=
  congrArg (· ++ asciiBytes "\r\n\r\n" ++ body) (asciiBytes_append ..).symm

/-- The line that announces a usable length sets it, whatever was announced before. -/
theorem readHeader_lengthLine {size : Nat} (short : (toString size).toList.length ≤ maxDigits)
    (announced : Option Int) (rest : List UInt8) :
    readHeader announced (asciiBytes (lengthLine size) ++ 13 :: newlineByte :: rest) =
      readHeader (some (size : Int)) rest := by
  have cut : splitLine (asciiBytes (lengthLine size) ++ 13 :: newlineByte :: rest) =
      (asciiBytes (lengthLine size) ++ [13, newlineByte], rest) := by
    have single : newlineByte ∉ asciiBytes (lengthLine size) ++ [13] := by
      rw [List.mem_append, not_or]
      exact ⟨newlineByte_notMem_lengthLine size, by decide⟩
    simpa only [List.append_assoc, List.singleton_append, List.cons_append, List.nil_append]
      using splitLine_append single rest
  have line : trimAscii (latinChars (asciiBytes (lengthLine size) ++ [13, newlineByte])) =
      (lengthLine size).toList := by
    have ends : latinChars [13, newlineByte] = ['\r', '\n'] := by decide
    have same := latinChars_asciiBytes fun c member => (@mem_lengthLine size c member).1
    have joined : latinChars (asciiBytes (lengthLine size) ++ [13, newlineByte]) =
        (lengthLine size).toList ++ ['\r', '\n'] := by
      rw [← same, ← ends]
      exact List.map_append
    rw [joined]
    have blanks : ['\r', '\n'].all isAsciiBlank = true := by decide
    exact trimAscii_lengthLine size (List.all_eq_true.mp blanks)
  have nonempty : (lengthLine size).toList.isEmpty = false := by rw [lengthLine_toList]; rfl
  obtain ⟨b, tail, bytes⟩ : ∃ b tail,
      asciiBytes (lengthLine size) ++ 13 :: newlineByte :: rest = b :: tail := by
    cases asciiBytes (lengthLine size) with
    | nil => exact ⟨_, _, rfl⟩
    | cons b tail => exact ⟨_, _, rfl⟩
  rw [bytes] at cut ⊢
  rw [readHeader]
  simp only [cut, line, nonempty, Bool.false_eq_true, ↓reduceIte, lengthValue?_lengthLine,
    headerInteger?_toString short]

/-- A blank line ends the block. -/
theorem readHeader_blankLine (announced : Option Int) (rest : List UInt8) :
    readHeader announced (13 :: newlineByte :: rest) = ([], some (announced, rest)) := by
  have cut : splitLine (13 :: newlineByte :: rest) = ([13, newlineByte], rest) :=
    @splitLine_append [13] (by decide) rest
  have blank : trimAscii (latinChars [13, newlineByte]) = [] := by decide
  rw [readHeader]
  simp only [cut, blank, List.isEmpty_nil, ↓reduceIte]

theorem readHeader_frameHeader {size : Nat} (short : (toString size).toList.length ≤ maxDigits)
    (rest : List UInt8) :
    readHeader none (frameHeader size ++ rest) = ([], some (some (size : Int), rest)) := by
  have bytes : frameHeader size ++ rest =
      asciiBytes (lengthLine size) ++ 13 :: newlineByte :: 13 :: newlineByte :: rest := by
    simp only [frameHeader, List.append_assoc]
    rfl
  rw [bytes, readHeader_lengthLine short, readHeader_blankLine]

/-- A single line that is not ended and not blank leaves the block unfinished. -/
theorem readHeader_unended {line : List UInt8} (single : newlineByte ∉ line)
    (visible : trimAscii (latinChars line) ≠ []) (announced : Option Int) :
    (readHeader announced line).2 = none := by
  cases line with
  | nil => simp [readHeader]
  | cons b rest =>
    have shown : (trimAscii (latinChars (b :: rest))).isEmpty = false := by
      simpa only [List.isEmpty_eq_false_iff] using visible
    rw [readHeader]
    simp only [splitLine_of_notMem single, shown, Bool.false_eq_true, ↓reduceIte]
    split
    · simp [readHeader]
    · split <;> simp [readHeader]

end Header

end EditorAssist.Wire

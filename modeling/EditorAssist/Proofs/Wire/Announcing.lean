import EditorAssist.Proofs.Number.Grouped
import EditorAssist.Proofs.Wire.Safety

/-!
# What header blocks announce

A line of a header block names a length in any letter case and between any blanks, and the last line that names one
counts, whatever it says: where its value cannot be used, the block announces nothing, and the reader goes on behind it.
So a stream of blocks, each with the body that it announces, is read as these bodies
(`blocks_are_read_by_their_last_length`).
-/

namespace EditorAssist.Wire

open EditorAssist.Text EditorAssist.Number

/-! ## Lines that name a length -/

section Naming

/-- A line names a length: behind blanks stands the name, in any letter case, and behind it the value. -/
inductive Names (line : List UInt8) : (value : List Char) → Prop
  | named {before name value : List Char} (chars : latinChars line = before ++ name ++ value)
      (leading : ∀ c ∈ before, isAsciiBlank c = true) (same : name.map Char.toLower = "content-length:".toList) :
      Names line value

variable {line : List UInt8} {text name value : List Char} {length : Option Int}

theorem lengthValue?_eq_some_iff :
    lengthValue? text = some value ↔
      ∃ name, text = name ++ value ∧ name.map Char.toLower = "content-length:".toList := by
  simp only [lengthValue?, Option.map_eq_some_iff, strip?_eq_some_iff]
  constructor
  · rintro ⟨lowered, split, rfl⟩
    obtain ⟨name, value, rfl, same, rfl⟩ := List.map_eq_append_iff.mp split
    refine ⟨name, ?_, same⟩
    rw [List.length_append, List.length_map, Nat.add_sub_cancel, List.drop_left]
  · rintro ⟨name, rfl, same⟩
    refine ⟨value.map Char.toLower, by rw [List.map_append, same], ?_⟩
    rw [List.length_append, List.length_map, Nat.add_sub_cancel, List.drop_left]

theorem toLower_of_isAsciiBlank {c : Char} (blank : isAsciiBlank c = true) : c.toLower = c := by
  have small : c.toNat ≤ 32 := by
    simp only [isAsciiBlank, Bool.or_eq_true, Bool.and_eq_true, decide_eq_true_eq] at blank
    rcases blank with rfl | ⟨-, upper⟩
    · decide
    · omega
  unfold Char.toLower
  split
  · next upper =>
    have large : 65 ≤ c.toNat := upper.1
    omega
  · rfl

/-- No character of the name is blank. -/
theorem not_blank_of_name (same : name.map Char.toLower = "content-length:".toList) :
    ∀ c ∈ name, isAsciiBlank c = false := by
  intro c member
  have letters : "content-length:".toList.all (fun c => !isAsciiBlank c) = true := by decide
  have lowered := List.all_eq_true.mp letters _ (same ▸ List.mem_map_of_mem member)
  rw [Bool.not_eq_true'] at lowered
  cases blank : isAsciiBlank c with
  | false => rfl
  | true => rwa [toLower_of_isAsciiBlank blank, blank] at lowered

/-- The blanks around a value do not count. -/
theorem headerInteger?_append_blanks {blank : List Char} (blanks : ∀ c ∈ blank, isAsciiBlank c = true)
    (value : List Char) : headerInteger? (value ++ blank) = headerInteger? value := by
  obtain ⟨before, after, trimmed⟩ := exists_trimmed isAsciiBlank value
  rw [headerInteger?, headerInteger?, trimAscii, trimAscii, (trimmed.appendBlanks blanks).eq]

/-- What is left of a line that names a length: the name, and the value but for the blanks behind it. -/
theorem trimmed_of_name {before : List Char} (leading : ∀ c ∈ before, isAsciiBlank c = true)
    (same : name.map Char.toLower = "content-length:".toList) (value : List Char) :
    ∃ kept, trimAscii (before ++ name ++ value) = name ++ kept ∧ headerInteger? kept = headerInteger? value := by
  have there : name ≠ [] := by
    rintro rfl
    exact absurd same (by decide)
  have plain := not_blank_of_name same
  have alone : Trimmed isAsciiBlank name [] name [] :=
    ⟨by simp, by simp, by simp, .inr ⟨_, _, List.head?_eq_some_head there, List.getLast?_eq_some_getLast there,
      plain _ (List.head_mem _), plain _ (List.getLast_mem _)⟩⟩
  obtain ⟨front, back, trimmed⟩ := exists_trimmed isAsciiBlank value
  rw [List.append_assoc, trimAscii]
  by_cases none : trimBoth isAsciiBlank value = []
  · -- The value is blank as a whole.
    refine ⟨[], ?_, ?_⟩
    · rw [List.append_nil]
      refine ((alone.appendBlanks ?_).prependBlanks leading).eq
      intro c member
      rw [trimmed.split, none, List.append_nil, List.mem_append] at member
      exact member.elim (trimmed.leading c) (trimmed.trailing c)
    · rw [headerInteger?, headerInteger?, trimAscii, trimAscii, none]
      rfl
  · refine ⟨front ++ trimBoth isAsciiBlank value, ((alone.join trimmed there none).prependBlanks leading).eq, ?_⟩
    conv => rhs; rw [trimmed.split]
    exact (headerInteger?_append_blanks trimmed.trailing _).symm

/-- A line announces what the value that it names is read as. -/
theorem announcement?_eq_some_iff :
    announcement? line = some length ↔ ∃ value, Names line value ∧ headerInteger? value = length := by
  simp only [announcement?, Option.map_eq_some_iff, lengthValue?_eq_some_iff]
  constructor
  · rintro ⟨value, ⟨name, shown, same⟩, rfl⟩
    obtain ⟨before, after, trimmed⟩ := exists_trimmed isAsciiBlank (latinChars line)
    refine ⟨value ++ after, .named ?_ trimmed.leading same, headerInteger?_append_blanks trimmed.trailing value⟩
    have split := trimmed.split
    rw [← trimAscii, shown] at split
    simpa only [List.append_assoc] using split
  · rintro ⟨value, @⟨before, name, _, chars, leading, same⟩, rfl⟩
    obtain ⟨kept, shown, read⟩ := trimmed_of_name leading same value
    exact ⟨kept, ⟨name, chars ▸ shown, same⟩, read⟩

theorem announcement?_eq_none_iff : announcement? line = none ↔ ∀ value, ¬Names line value := by
  constructor
  · intro silent value names
    have told := announcement?_eq_some_iff.mpr ⟨value, names, rfl⟩
    rw [silent] at told
    cases told
  · intro silent
    cases told : announcement? line with
    | none => rfl
    | some length =>
      obtain ⟨value, names, -⟩ := announcement?_eq_some_iff.mp told
      exact absurd names (silent value)

end Naming

/-! ## The length that counts -/

section Announcing

/-- The last line that names a length spells the size of a body, which is not zero. -/
inductive Announces : (lines : List (List UInt8)) → (size : Nat) → Prop
  | last {earlier later : List (List UInt8)} {line : List UInt8} {value : List Char} {size : Nat}
      (names : Names line value) (spells : Spells value size) (positive : 0 < size)
      (silent : ∀ other ∈ later, ∀ value, ¬Names other value) : Announces (earlier ++ line :: later) size

variable {lines : List (List UInt8)} {size : Nat}

theorem announces_iff :
    Announces lines size ↔ 0 < size ∧ HeaderBlock.lengthFrom none lines = some (size : Int) := by
  have counts : HeaderBlock.lengthFrom none lines = some (size : Int) ↔
      lines.reverse.findSome? announcement? = some (some (size : Int)) := by
    rw [HeaderBlock.lengthFrom, List.getLast?_filterMap]
    cases lines.reverse.findSome? announcement? <;> simp
  rw [counts, List.findSome?_eq_some_iff]
  constructor
  · rintro @⟨earlier, later, line, value, _, names, spells, positive, silent⟩
    refine ⟨positive, later.reverse, line, earlier.reverse, by simp, ?_, fun other member => ?_⟩
    · exact announcement?_eq_some_iff.mpr ⟨value, names, headerInteger?_eq_some_iff.mpr spells⟩
    · exact announcement?_eq_none_iff.mpr (silent other (List.mem_reverse.mp member))
  · rintro ⟨positive, later, line, earlier, split, told, silent⟩
    obtain ⟨value, names, read⟩ := announcement?_eq_some_iff.mp told
    have ordered : lines = earlier.reverse ++ line :: later.reverse := by
      rw [← List.reverse_reverse lines, split]
      simp
    rw [ordered]
    exact .last names (headerInteger?_eq_some_iff.mp read) positive fun other member =>
      announcement?_eq_none_iff.mp (silent other (List.mem_reverse.mp member))

/-- A block that announces a body has its size. -/
theorem Announces.announced {block : HeaderBlock} (announces : Announces block.lines size) :
    block.announced = some (size : Int) := (announces_iff.mp announces).2

instance : Decidable (Announces lines size) := decidable_of_iff _ announces_iff.symm

/-- A block has no size if it announces no body. -/
theorem silent_iff {block : HeaderBlock} : (∀ size, ¬Announces block.lines size) ↔ block.size = 0 := by
  constructor
  · intro silent
    refine Decidable.byContradiction fun used => ?_
    exact silent _ (announces_iff.mpr ⟨Nat.pos_of_ne_zero used, eq_some_of_size used⟩)
  · intro unused size announces
    rw [HeaderBlock.size, announces.announced, Option.getD_some, Int.toNat_natCast] at unused
    exact Nat.ne_of_gt (announces_iff.mp announces).1 unused

end Announcing

/-! ## Reading behind a block -/

section Reading

variable {rest : List UInt8} {s : Source} {block : HeaderBlock}

/-- A block with the body that it announces is read as that body. -/
theorem readFrame_of_announces {body : List UInt8} (bytes : s.rest = block.bytes ++ (body ++ rest))
    (ends : IsLine block.blank) (announces : Announces block.lines body.length)
    (asked : s.takesRequest body.length = true) :
    ∃ notes reads, readFrame s = (notes, .found body, { s with rest, reads }) := by
  have closes : block.Closes (body ++ rest) := .inl ends
  have header := readHeader_block closes none
  rw [← bytes, ← HeaderBlock.announced, announces.announced] at header
  have positive : body.length ≠ 0 := Nat.ne_of_gt (announces_iff.mp announces).1
  obtain ⟨reads, taken⟩ := readExact_append (s := { s with rest := body ++ rest }) rfl
  rw [readFrame]
  split
  · next h =>
    rw [h] at header
    cases header
  · next notes announced after h =>
    rw [h] at header
    cases header
    simp only [Option.getD_some, Int.toNat_natCast, positive, ↓reduceIte, asked, taken]
    exact ⟨notes, reads, rfl⟩

/-- A block that announces nothing leaves what stands behind it as it is. -/
theorem readFrame_of_silent (bytes : s.rest = block.bytes ++ rest) (closes : block.Closes rest)
    (silent : ∀ size, ¬Announces block.lines size) : (readFrame s).2 = (readFrame { s with rest }).2 := by
  have header := readHeader_block closes none
  have unused : (block.announced.getD 0).toNat = 0 := silent_iff.mp silent
  rw [← bytes, ← HeaderBlock.announced] at header
  conv => lhs; rw [readFrame]
  split
  · next h =>
    rw [h] at header
    cases header
  · next h =>
    rw [h] at header
    cases header
    simp only [unused, ↓reduceIte]

/-- Streams that are read alike are read alike ever after. -/
theorem arrival_congr {t : Source} (same : (readFrame s).2 = (readFrame t).2) (call : Nat) :
    arrival s call = arrival t call := by
  cases call with
  | zero => rw [arrival_zero, arrival_zero, same]
  | succ call => rw [arrival_succ, arrival_succ, same]

end Reading

/-! ## Streams of blocks -/

/-- A stream of header blocks with the bodies that they announce: behind each block stands a body of the announced
size, or nothing if the block announces none. -/
inductive BlockStream : (stream : List UInt8) → (bodies : List (List UInt8)) → Prop
  | nil : BlockStream [] []
  | framed (block : HeaderBlock) {body rest : List UInt8} {bodies : List (List UInt8)} (ends : IsLine block.blank)
      (announces : Announces block.lines body.length) (further : BlockStream rest bodies) :
      BlockStream (block.bytes ++ (body ++ rest)) (body :: bodies)
  | unusable (block : HeaderBlock) {rest : List UInt8} {bodies : List (List UInt8)} (closes : block.Closes rest)
      (silent : ∀ size, ¬Announces block.lines size) (further : BlockStream rest bodies) :
      BlockStream (block.bytes ++ rest) bodies

/-- A stream of header blocks is read as the bodies that they announce, in order, and then comes to the end, in however
many pieces it is handed out. The last length of a block counts, and blocks that announce none are passed over. -/
theorem blocks_are_read_by_their_last_length {s : Source} {bodies : List (List UInt8)}
    (stream : BlockStream s.rest bodies) (fits : ∀ body ∈ bodies, FitsMemory body)
    (asked : s.takesRequest maxRequest = true) (call : Nat) :
    arrival s call = bodies[call]?.elim .ended .found := by
  generalize bytes : s.rest = text at stream
  induction stream generalizing s call with
  | nil => exact arrival_of_nil bytes call
  | @framed block body rest bodies ends announces further ih =>
    obtain ⟨fitting, others⟩ := List.forall_mem_cons.mp fits
    obtain ⟨notes, reads, found⟩ :=
      readFrame_of_announces bytes ends announces (takesRequest_of_le fitting asked)
    cases call with
    | zero => rw [arrival_zero, found]; rfl
    | succ call =>
      rw [arrival_succ, found, List.getElem?_cons_succ]
      exact ih (s := { s with rest, reads }) others asked call rfl
  | @unusable block rest bodies closes silent further ih =>
    rw [arrival_congr (readFrame_of_silent bytes closes silent)]
    exact ih (s := { s with rest }) fits asked call rfl

section Mixed

/-- Two lengths and something like one. -/
def mixedBlock : HeaderBlock where
  lines := [asciiBytes "Content-Length: 9\r\n", asciiBytes "\t cOnTeNt-LeNgTh:+0_2 \r\n",
    asciiBytes "X-Content-Length: 5\n"]
  blank := asciiBytes "\r\n"
  lines_visible := by decide +kernel
  blank_blank := by decide +kernel

/-- A length that one behind it takes out of force. -/
def cancelledBlock : HeaderBlock where
  lines := [asciiBytes "Content-Length: 2\n", asciiBytes "CONTENT-LENGTH: 2 bytes\n"]
  blank := asciiBytes " \t\n"
  lines_visible := by decide +kernel
  blank_blank := by decide +kernel

/-- A block that announces one byte. -/
def plainBlock : HeaderBlock where
  lines := [asciiBytes "content-length:1\n"]
  blank := asciiBytes "\n"
  lines_visible := by decide +kernel
  blank_blank := by decide +kernel

/-- A block that announces a negative length, at the end of a stream. -/
def negativeBlock : HeaderBlock where
  lines := [asciiBytes "Content-Length: -3\r\n"]
  blank := asciiBytes "\r"
  lines_visible := by decide +kernel
  blank_blank := by decide +kernel

/-- The bytes of these blocks and of the two bodies. -/
def mixedStream : List UInt8 :=
  ["Content-Length: 9\r\n", "\t cOnTeNt-LeNgTh:+0_2 \r\n", "X-Content-Length: 5\n", "\r\n", "[]",
    "Content-Length: 2\n", "CONTENT-LENGTH: 2 bytes\n", " \t\n", "content-length:1\n", "\n", "0",
    "Content-Length: -3\r\n", "\r"].flatMap asciiBytes

theorem blockStream_mixedStream : BlockStream mixedStream [asciiBytes "[]", asciiBytes "0"] := by
  have last : BlockStream (negativeBlock.bytes ++ []) [] :=
    .unusable negativeBlock (.inr (by decide +kernel)) (silent_iff.mpr (by decide +kernel)) .nil
  have third : BlockStream (plainBlock.bytes ++ (asciiBytes "0" ++ (negativeBlock.bytes ++ []))) _ :=
    .framed plainBlock (by decide +kernel) (by decide +kernel) last
  have second :=
    BlockStream.unusable cancelledBlock (.inl (by decide +kernel)) (silent_iff.mpr (by decide +kernel)) third
  have first : BlockStream (mixedBlock.bytes ++ (asciiBytes "[]" ++ _)) _ :=
    .framed mixedBlock (by decide +kernel) (by decide +kernel) second
  have bytes : mixedStream = mixedBlock.bytes ++ (asciiBytes "[]" ++ (cancelledBlock.bytes ++
      (plainBlock.bytes ++ (asciiBytes "0" ++ (negativeBlock.bytes ++ []))))) := by
    simp only [mixedStream, mixedBlock, cancelledBlock, plainBlock, negativeBlock, HeaderBlock.bytes,
      List.flatMap_cons, List.flatMap_nil, List.flatten_cons, List.flatten_nil, List.append_assoc, List.append_nil]
  exact bytes ▸ first

/-- In pieces of three bytes, the two bodies are read, and then the end. -/
theorem mixed_blocks_bring_two_bodies :
    BlockStream mixedStream [asciiBytes "[]", asciiBytes "0"] ∧
      (∀ body ∈ [asciiBytes "[]", asciiBytes "0"], FitsMemory body) ∧
      (Source.limited mixedStream 3).takesRequest maxRequest = true ∧
      arrival (Source.limited mixedStream 3) 0 = .found (asciiBytes "[]") ∧
      arrival (Source.limited mixedStream 3) 1 = .found (asciiBytes "0") ∧
      ∀ call, arrival (Source.limited mixedStream 3) (call + 2) = .ended := by
  have fits : ∀ body ∈ [asciiBytes "[]", asciiBytes "0"], FitsMemory body := by
    unfold FitsMemory
    decide +kernel
  have asked : (Source.limited mixedStream 3).takesRequest maxRequest = true := by
    simp only [Source.takesRequest, Source.limited]
  have stream : BlockStream (Source.limited mixedStream 3).rest [asciiBytes "[]", asciiBytes "0"] := by
    simp only [Source.limited, blockStream_mixedStream]
  have read := blocks_are_read_by_their_last_length stream fits asked
  exact ⟨blockStream_mixedStream, fits, asked, read 0, read 1, fun call => read (call + 2)⟩

end Mixed

end EditorAssist.Wire

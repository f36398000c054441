import EditorAssist.Proofs.Wire.Frames

/-!
# Header blocks of any stream

Whatever bytes a stream holds, the reader takes them as header blocks, some of which announce a body.
A block is a row of lines that are not blank and the blank line behind them; the last of its lines that
names a length counts. `readFrame_reading` says what one reading leaves of a stream: what stands behind
the last block that it went through, and behind the body if that block announced one.
-/

namespace EditorAssist.Wire

open EditorAssist.Text EditorAssist.Number

/-! ## Lines -/

section Lines

/-- A line with its end. -/
def IsLine (line : List UInt8) : Prop := ∃ text, newlineByte ∉ text ∧ line = text ++ [newlineByte]

/-- The line shows nothing but white space. -/
def IsBlankLine (line : List UInt8) : Prop := trimAscii (latinChars line) = []

/-- What a line says about the length of a body: nothing, or a value that may be unusable. -/
def announcement? (line : List UInt8) : Option (Option Int) :=
  (lengthValue? (trimAscii (latinChars line))).map headerInteger?

theorem splitLine_flatten (bytes : List UInt8) : (splitLine bytes).1 ++ (splitLine bytes).2 = bytes := by
  induction bytes with
  | nil => rfl
  | cons b rest ih =>
    by_cases ends : b = newlineByte
    · simp [splitLine, ends]
    · simp [splitLine, ends, ih]

/-- The first line is ended unless it is all that there is. -/
theorem isLine_splitLine {bytes : List UInt8} (more : (splitLine bytes).2 ≠ []) :
    IsLine (splitLine bytes).1 := by
  induction bytes with
  | nil => exact absurd rfl more
  | cons b rest ih =>
    by_cases ends : b = newlineByte
    · subst ends
      exact ⟨[], List.not_mem_nil, by simp [splitLine]⟩
    · simp only [splitLine, ends, ↓reduceIte] at more ⊢
      obtain ⟨text, single, line⟩ := ih more
      refine ⟨b :: text, ?_, by rw [line, List.cons_append]⟩
      rw [List.mem_cons, not_or]
      exact ⟨Ne.symm ends, single⟩

theorem isLine_iff {line : List UInt8} :
    IsLine line ↔ line.getLast? = some newlineByte ∧ newlineByte ∉ line.dropLast := by
  constructor
  · rintro ⟨text, single, rfl⟩
    exact ⟨List.getLast?_concat, by rwa [List.dropLast_concat]⟩
  · rintro ⟨ends, single⟩
    obtain ⟨text, rfl⟩ := List.getLast?_eq_some_iff.mp ends
    rw [List.dropLast_concat] at single
    exact ⟨text, single, rfl⟩

instance (line : List UInt8) : Decidable (IsLine line) := decidable_of_iff _ isLine_iff.symm

instance (line : List UInt8) : Decidable (IsBlankLine line) := inferInstanceAs (Decidable (_ = []))

theorem splitLine_of_isLine {line : List UInt8} (ends : IsLine line) (rest : List UInt8) :
    splitLine (line ++ rest) = (line, rest) := by
  obtain ⟨text, single, rfl⟩ := ends
  rw [List.append_assoc, List.singleton_append, splitLine_append single]

theorem splitLine_ne_nil (b : UInt8) (rest : List UInt8) : (splitLine (b :: rest)).1 ≠ [] := by
  by_cases ends : b = newlineByte <;> simp [splitLine, ends]

end Lines

/-! ## Blocks -/

section Blocks

/-- A row of lines that are not blank, and a blank line. Only at the end of a stream the blank line may
lack its own end. -/
structure HeaderBlock where
  lines : List (List UInt8)
  blank : List UInt8
  lines_visible : ∀ line ∈ lines, IsLine line ∧ ¬IsBlankLine line
  blank_blank : blank ≠ [] ∧ IsBlankLine blank

namespace HeaderBlock

def bytes (block : HeaderBlock) : List UInt8 := block.lines.flatten ++ block.blank

/-- The length that counts when some lines are read from a length on: that of the last line with one. -/
def lengthFrom (length : Option Int) (lines : List (List UInt8)) : Option Int :=
  ((lines.filterMap announcement?).getLast?).getD length

/-- The length that the last line with a length announces, if that is usable. -/
def announced (block : HeaderBlock) : Option Int := lengthFrom none block.lines

/-- The size of the body that a block announces; zero without one. -/
def size (block : HeaderBlock) : Nat := (block.announced.getD 0).toNat

theorem length_bytes_pos (block : HeaderBlock) : 0 < block.bytes.length := by
  have := List.length_pos_iff.mpr block.blank_blank.1
  rw [bytes, List.length_append]
  omega

theorem lengthFrom_cons (length : Option Int) (line : List UInt8) (more : List (List UInt8)) :
    lengthFrom length (line :: more) = lengthFrom ((announcement? line).getD length) more := by
  unfold lengthFrom
  cases announced : announcement? line with
  | none => simp [announced]
  | some value =>
    rw [List.filterMap_cons_some announced, List.getLast?_cons]
    cases (more.filterMap announcement?).getLast? <;> rfl

/-- The block with one more line in front. -/
def behind (line : List UInt8) (visible : IsLine line ∧ ¬IsBlankLine line) (block : HeaderBlock) : HeaderBlock where
  lines := line :: block.lines
  blank := block.blank
  lines_visible := List.forall_mem_cons.mpr ⟨visible, block.lines_visible⟩
  blank_blank := block.blank_blank

/-- Reading from a length on, the block stands at the beginning of some bytes and leaves a rest. -/
structure Opens (block : HeaderBlock) (length announced : Option Int) (bytes rest : List UInt8) : Prop where
  bytes_eq : bytes = block.bytes ++ rest
  counts : announced = lengthFrom length block.lines
  ended : rest ≠ [] → IsLine block.blank

/-- A line in front of a block changes the length from which the block is read. -/
theorem Opens.behind (block : HeaderBlock) {length announced : Option Int} {bytes rest : List UInt8}
    (opens : block.Opens ((announcement? (splitLine bytes).1).getD length) announced (splitLine bytes).2 rest)
    (visible : ¬IsBlankLine (splitLine bytes).1) :
    ∃ longer : HeaderBlock, longer.Opens length announced bytes rest := by
  have line : IsLine (splitLine bytes).1 := by
    apply isLine_splitLine
    rw [opens.bytes_eq]
    intro empty
    have := block.length_bytes_pos
    rw [List.append_eq_nil_iff.mp empty |>.1] at this
    exact absurd this (Nat.not_lt_zero _)
  refine ⟨block.behind _ ⟨line, visible⟩, ?_, ?_, opens.ended⟩
  · calc bytes = (splitLine bytes).1 ++ (splitLine bytes).2 := (splitLine_flatten bytes).symm
      _ = (splitLine bytes).1 ++ (block.bytes ++ rest) := by rw [opens.bytes_eq]
      _ = _ := by simp [HeaderBlock.behind, HeaderBlock.bytes]
  · exact opens.counts.trans (lengthFrom_cons ..).symm

end HeaderBlock

/-- A block that is read to its end is a header block, and its last length counts. -/
theorem block_of_readHeader {length announced : Option Int} {bytes rest : List UInt8} {notes : List ReadNote}
    (read : readHeader length bytes = (notes, some (announced, rest))) :
    ∃ block : HeaderBlock, block.Opens length announced bytes rest := by
  fun_induction readHeader length bytes generalizing notes with
  | case1 => cases read
  | case2 length b more =>
    rename_i blank
    cases read
    have white : IsBlankLine (splitLine (b :: more)).1 := List.isEmpty_iff.mp blank
    exact ⟨⟨[], _, by simp, splitLine_ne_nil b more, white⟩, (splitLine_flatten _).symm, rfl, isLine_splitLine⟩
  | case3 length b more =>
    -- The line does not name a length.
    rename_i visible unnamed ih
    obtain ⟨block, opens⟩ := ih read
    refine HeaderBlock.Opens.behind block ?_ fun white => visible (List.isEmpty_iff.mpr white)
    have silent : announcement? (splitLine (b :: more)).1 = none := Option.map_eq_none_iff.mpr unnamed
    rwa [silent]
  | case4 length b more =>
    -- The line names a length that can be used.
    rename_i visible value named size usable ih
    obtain ⟨block, opens⟩ := ih read
    refine HeaderBlock.Opens.behind block ?_ fun white => visible (List.isEmpty_iff.mpr white)
    have told : announcement? (splitLine (b :: more)).1 = some (some size) :=
      Option.map_eq_some_iff.mpr ⟨value, named, usable⟩
    rwa [told]
  | case5 length b more =>
    -- The line names a length that cannot be used, which takes the one before it out of force.
    rename_i visible value named unusable _ _ eq ih
    cases read
    obtain ⟨block, opens⟩ := ih eq
    refine HeaderBlock.Opens.behind block ?_ fun white => visible (List.isEmpty_iff.mpr white)
    have told : announcement? (splitLine (b :: more)).1 = some none :=
      Option.map_eq_some_iff.mpr ⟨value, named, unusable⟩
    rwa [told]

/-- Nothing goes on with the blank line of a block: it is ended, or it is the end of the stream. -/
def HeaderBlock.Closes (block : HeaderBlock) (rest : List UInt8) : Prop :=
  IsLine block.blank ∨ rest = [] ∧ newlineByte ∉ block.blank

theorem HeaderBlock.Closes.cut {block : HeaderBlock} {rest : List UInt8} (closes : block.Closes rest) :
    splitLine (block.blank ++ rest) = (block.blank, rest) := by
  rcases closes with ends | ⟨rfl, single⟩
  · exact splitLine_of_isLine ends rest
  · rw [List.append_nil, splitLine_of_notMem single]

/-- One line changes the length from which the block is read on. -/
theorem readHeader_line {line : List UInt8} (ends : IsLine line) (visible : ¬IsBlankLine line)
    (length : Option Int) (rest : List UInt8) :
    (readHeader length (line ++ rest)).2 = (readHeader ((announcement? line).getD length) rest).2 := by
  have cut := splitLine_of_isLine ends rest
  obtain ⟨b, more, front⟩ : ∃ b more, line ++ rest = b :: more := by
    obtain ⟨text, -, rfl⟩ := ends
    exact List.exists_cons_of_ne_nil (by simp)
  rw [front] at cut ⊢
  have shown : (trimAscii (latinChars line)).isEmpty = false := List.isEmpty_eq_false_iff.mpr visible
  rw [readHeader, announcement?]
  simp only [cut, shown, Bool.false_eq_true, ↓reduceIte]
  cases lengthValue? (trimAscii (latinChars line)) with
  | none => rfl
  | some value => cases read : headerInteger? value <;> simp [read]

/-- A block is read to its end, and its last length counts. -/
theorem readHeader_block {block : HeaderBlock} {rest : List UInt8} (closes : block.Closes rest) (length : Option Int) :
    (readHeader length (block.bytes ++ rest)).2 = some (HeaderBlock.lengthFrom length block.lines, rest) := by
  have last (length : Option Int) : (readHeader length (block.blank ++ rest)).2 = some (length, rest) := by
    have cut := closes.cut
    obtain ⟨b, more, front⟩ : ∃ b more, block.blank ++ rest = b :: more :=
      List.exists_cons_of_ne_nil (List.append_ne_nil_of_left_ne_nil block.blank_blank.1 _)
    have white : (trimAscii (latinChars block.blank)).isEmpty = true := List.isEmpty_iff.mpr block.blank_blank.2
    rw [front] at cut ⊢
    rw [readHeader]
    simp only [cut, white, ↓reduceIte]
  have rows (lines : List (List UInt8)) (visible : ∀ line ∈ lines, IsLine line ∧ ¬IsBlankLine line) :
      (readHeader length (lines.flatten ++ (block.blank ++ rest))).2 =
        some (HeaderBlock.lengthFrom length lines, rest) := by
    induction lines generalizing length with
    | nil => exact last length
    | cons line lines ih =>
      obtain ⟨⟨ends, shown⟩, others⟩ := List.forall_mem_cons.mp visible
      rw [List.flatten_cons, List.append_assoc, readHeader_line ends shown, ih _ others, HeaderBlock.lengthFrom_cons]
  rw [HeaderBlock.bytes, List.append_assoc]
  exact rows block.lines block.lines_visible

end Blocks

/-! ## One reading -/

section Reading

/-- What is read as a body is as long as asked for and stands at the front of the stream. -/
theorem readExact_eq_ok {s after : Source} {size : Nat} {body : List UInt8}
    (read : readExact size s = .ok (body, after)) :
    s.rest = body ++ after.rest ∧ body.length = size ∧ after.largest = s.largest := by
  have enough : size ≤ s.rest.length := by
    apply Nat.le_of_not_lt
    intro short
    obtain ⟨missing, refused⟩ := readExact_of_lt short
    rw [refused] at read
    cases read
  obtain ⟨reads, taken⟩ := readExact_append (s := s) (List.take_append_drop size s.rest).symm
  rw [List.length_take_of_le enough, read] at taken
  cases taken
  exact ⟨(List.take_append_drop size s.rest).symm, List.length_take_of_le enough, rfl⟩

/-- What a reading comes to and where it leaves the stream. The blocks in front of the one that counts
announce no body. -/
inductive Reading (s : Source) : Arrival (List UInt8) → Source → Prop
  /-- A block announces a body, which stands right behind it. -/
  | found (skipped : List HeaderBlock) {block : HeaderBlock} {body : List UInt8} {after : Source}
      (unused : ∀ other ∈ skipped, other.size = 0)
      (bytes : s.rest = skipped.flatMap (·.bytes) ++ block.bytes ++ body ++ after.rest)
      (nonempty : body ≠ []) (announced : block.announced = some (body.length : Int))
      (ended : IsLine block.blank) (same : after.largest = s.largest) : Reading s (.found body) after
  /-- No block is left that announces a body which is there as a whole. -/
  | ended {after : Source} (empty : after.rest = []) (same : after.largest = s.largest) :
      Reading s .ended after
  /-- A block announces more than the stream can be asked for. -/
  | broken (skipped : List HeaderBlock) {block : HeaderBlock} {size : Nat} {after : Source}
      (unused : ∀ other ∈ skipped, other.size = 0)
      (bytes : s.rest = skipped.flatMap (·.bytes) ++ block.bytes ++ after.rest)
      (announced : block.announced = some (size : Int)) (refused : s.takesRequest size = false)
      (same : after.largest = s.largest) : Reading s (.broken (.request size)) after

/-- A block in front that announces no body changes nothing. -/
theorem Reading.behind {s next after : Source} {arrival : Arrival (List UInt8)} {block : HeaderBlock}
    (reading : Reading next arrival after) (unused : block.size = 0) (bytes : s.rest = block.bytes ++ next.rest)
    (same : next.largest = s.largest) : Reading s arrival after := by
  cases reading with
  | @found skipped _ _ _ others further nonempty announced ended kept =>
    refine .found (block :: skipped) (List.forall_mem_cons.mpr ⟨unused, others⟩) ?_ nonempty announced
      ended (kept.trans same)
    rw [bytes, further]
    simp only [List.flatMap_cons, List.append_assoc]
  | ended empty kept => exact .ended empty (kept.trans same)
  | @broken skipped _ _ _ others further announced refused kept =>
    refine .broken (block :: skipped) (List.forall_mem_cons.mpr ⟨unused, others⟩) ?_ announced ?_
      (kept.trans same)
    · rw [bytes, further]
      simp only [List.flatMap_cons, List.append_assoc]
    · rwa [Source.takesRequest, same] at refused

/-- A reading that comes to something takes a block away at least. -/
theorem Reading.length_lt {s after : Source} {arrival : Arrival (List UInt8)} (reading : Reading s arrival after)
    (further : arrival ≠ .ended) : after.rest.length < s.rest.length := by
  cases reading with
  | @found _ block _ _ _ bytes =>
    have := block.length_bytes_pos
    simp only [bytes, List.length_append]
    omega
  | ended => exact absurd rfl further
  | @broken _ block _ _ _ bytes =>
    have := block.length_bytes_pos
    simp only [bytes, List.length_append]
    omega

/-- A length with a size is that size. -/
theorem eq_some_of_size {announced : Option Int} (used : (announced.getD 0).toNat ≠ 0) :
    announced = some ((announced.getD 0).toNat : Int) := by
  cases announced with
  | none => exact absurd rfl used
  | some length =>
    rw [Option.getD_some] at used ⊢
    congr
    omega

theorem readFrame_reading (s : Source) : Reading s (readFrame s).2.1 (readFrame s).2.2 := by
  fun_induction readFrame s with
  | case1 => exact .ended rfl rfl
  | case2 s =>
    -- The block announces no body, so the reading goes on behind it.
    rename_i read _ _ unused _ _ _ eq ih
    obtain ⟨block, opens⟩ := block_of_readHeader read
    rw [eq] at ih
    have none : block.size = 0 := by
      rw [HeaderBlock.size, HeaderBlock.announced, ← opens.counts]
      exact unused
    exact ih.behind none opens.bytes_eq rfl
  | case3 s =>
    -- The body is there as a whole.
    rename_i read _ size used _ body after taken
    obtain ⟨block, opens⟩ := block_of_readHeader read
    obtain ⟨bytes, length, same⟩ := readExact_eq_ok taken
    dsimp only at bytes
    have nonempty : body ≠ [] := by
      rintro rfl
      exact used length.symm
    refine .found [] (by simp) ?_ nonempty ?_ (opens.ended ?_) same
    · rw [opens.bytes_eq]
      simp only [List.flatMap_nil, List.nil_append, List.append_assoc, bytes]
    · rw [HeaderBlock.announced, ← opens.counts, length]
      exact eq_some_of_size used
    · rw [bytes]
      exact List.append_ne_nil_of_left_ne_nil nonempty _
  | case4 => exact .ended rfl rfl
  | case5 s =>
    -- The stream cannot be asked for that much.
    rename_i read _ size used refused
    obtain ⟨block, opens⟩ := block_of_readHeader read
    refine .broken [] (by simp) opens.bytes_eq ?_ (Bool.eq_false_iff.mpr refused) rfl
    rw [HeaderBlock.announced, ← opens.counts]
    exact eq_some_of_size used

end Reading

end EditorAssist.Wire

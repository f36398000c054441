import EditorAssist.Proofs.Wire.Header

/-!
# Streams of frames

A stream of frames may be cut anywhere and may come in pieces of any size. Reading finds the bodies of
the frames that are there as a whole, in order, and then the end. The body of a frame is followed
through its reads; an unfinished frame, wherever it is cut, holds no body.
-/

namespace EditorAssist.Wire

open EditorAssist.Text EditorAssist.Number

/-! ## Bodies -/

section Bodies

variable {grant : Nat → Nat}

/-- The bytes of one read and those of the reads after it are the next bytes of the stream. -/
theorem take_read {size extra : Nat} {rest : List UInt8} (b : UInt8) (nonzero : size ≠ 0)
    (within : extra ≤ size - 1) :
    b :: rest.take extra ++ (rest.drop extra).take (size - 1 - extra) = (b :: rest).take size := by
  obtain ⟨more, rfl⟩ : ∃ more, size = extra + more + 1 := ⟨size - 1 - extra, by omega⟩
  rw [List.take_succ_cons, List.take_add, List.cons_append]
  congr 3
  omega

theorem drop_read {size extra : Nat} {rest : List UInt8} (b : UInt8) (nonzero : size ≠ 0)
    (within : extra ≤ size - 1) :
    (rest.drop extra).drop (size - 1 - extra) = (b :: rest).drop size := by
  obtain ⟨more, rfl⟩ : ∃ more, size = extra + more + 1 := ⟨size - 1 - extra, by omega⟩
  rw [List.drop_succ_cons, List.drop_drop]
  congr 1
  omega

/-- However the reads cut it, the body is the bytes that come next. -/
theorem takeExact_of_le {size reads : Nat} {bytes : List UInt8} (enough : size ≤ bytes.length) :
    ∃ after, takeExact grant size reads bytes = .ok (bytes.take size, bytes.drop size, after) := by
  fun_induction takeExact grant size reads bytes with
  | case1 reads => exact ⟨reads, by simp⟩
  | case2 size reads missing =>
    simp only [List.length_nil, Nat.le_zero_eq] at enough
    exact absurd enough missing
  | case3 reads b rest => exact ⟨reads, by simp⟩
  | case4 size reads b rest nonzero extra more after found ih =>
    have within : extra ≤ size - 1 := Nat.min_le_left ..
    have taken : (rest.take extra).length = extra := by
      simp only [List.length_cons] at enough
      rw [List.length_take]
      omega
    rw [taken] at found ih
    obtain ⟨last, same⟩ := ih (by simp only [List.length_cons] at enough; rw [List.length_drop]; omega)
    rw [found, Except.ok.injEq, Prod.mk.injEq] at same
    obtain ⟨rfl, rfl⟩ := same
    exact ⟨last, by rw [take_read b nonzero within, drop_read b nonzero within]⟩
  | case5 size reads b rest nonzero extra missing refused ih =>
    have within : extra ≤ size - 1 := Nat.min_le_left ..
    obtain ⟨last, found⟩ := ih (by
      simp only [List.length_cons] at enough
      rw [List.length_drop, List.length_take]
      omega)
    rw [refused] at found
    cases found

/-- A stream that ends too early leaves the body unread. -/
theorem takeExact_of_lt {size reads : Nat} {bytes : List UInt8} (short : bytes.length < size) :
    ∃ missing, takeExact grant size reads bytes = .error missing := by
  fun_induction takeExact grant size reads bytes with
  | case1 reads => simp at short
  | case2 size reads missing => exact ⟨size, rfl⟩
  | case3 reads b rest => simp at short
  | case4 size reads b rest nonzero extra more after found ih =>
    obtain ⟨missing, refused⟩ := ih (by
      simp only [List.length_cons] at short
      rw [List.length_drop, List.length_take]
      omega)
    rw [found] at refused
    cases refused
  | case5 size reads b rest nonzero extra missing refused ih => exact ⟨missing, rfl⟩

theorem readExact_append {s : Source} {body rest : List UInt8} (bytes : s.rest = body ++ rest) :
    ∃ reads, readExact body.length s = .ok (body, { s with rest, reads }) := by
  obtain ⟨after, taken⟩ := @takeExact_of_le s.grant body.length s.reads s.rest
    (by rw [bytes, List.length_append]; omega)
  rw [bytes, List.take_left, List.drop_left] at taken
  exact ⟨after, by rw [readExact, bytes, taken]; rfl⟩

theorem readExact_of_lt {s : Source} {size : Nat} (short : s.rest.length < size) :
    ∃ missing, readExact size s = .error missing := by
  obtain ⟨missing, refused⟩ := @takeExact_of_lt s.grant size s.reads s.rest short
  exact ⟨missing, by rw [readExact, refused]; rfl⟩

end Bodies

/-! ## Frames -/

section Frames

/-- The longest body that there is: the size of a byte string is a request that streams take. -/
def FitsMemory (body : List UInt8) : Prop := body.length ≤ maxRequest

theorem length_toString_of_fitsMemory {body : List UInt8} (fits : FitsMemory body) :
    (toString body.length).toList.length ≤ maxDigits := by
  apply length_toString_le
  calc body.length ≤ maxRequest := fits
    _ < 10 ^ 19 := by decide
    _ ≤ 10 ^ maxDigits := Nat.pow_le_pow_right (by decide) (by decide)

/-- A frame that is there as a whole is read as its body, and reading goes on behind it. -/
theorem readFrame_encodeFrame {s : Source} {body rest : List UInt8} (nonempty : body ≠ [])
    (fits : FitsMemory body) (asked : s.takesRequest body.length = true)
    (bytes : s.rest = encodeFrame body ++ rest) :
    ∃ reads, readFrame s = ([], .found body, { s with rest, reads }) := by
  have header : readHeader none s.rest = ([], some (some (body.length : Int), body ++ rest)) := by
    rw [bytes, encodeFrame_eq, List.append_assoc,
      readHeader_frameHeader (length_toString_of_fitsMemory fits)]
  have positive : body.length ≠ 0 := by simpa using nonempty
  obtain ⟨reads, taken⟩ := readExact_append (s := { s with rest := body ++ rest }) rfl
  refine ⟨reads, ?_⟩
  rw [readFrame]
  split
  · next h => simp [header] at h
  · next h =>
    rw [header] at h
    simp only [Prod.mk.injEq, Option.some.injEq] at h
    obtain ⟨rfl, rfl, rfl⟩ := h
    simp only [Option.getD_some, Int.toNat_natCast, positive, ↓reduceIte, asked, taken]

/-- The beginning of a frame, cut anywhere: its header block is not finished, or less than the body
that it announces follows. -/
theorem readHeader_take_encodeFrame {body : List UInt8} (nonempty : body ≠ [])
    (fits : FitsMemory body) {cut : Nat} (inside : cut < (encodeFrame body).length) :
    (readHeader none ((encodeFrame body).take cut)).2 = none ∨
      ∃ part, readHeader none ((encodeFrame body).take cut) =
          ([], some (some (body.length : Int), part)) ∧
        part.length < body.length := by
  have digits := length_toString_of_fitsMemory fits
  have frame : encodeFrame body =
      asciiBytes (lengthLine body.length) ++ 13 :: newlineByte :: 13 :: newlineByte :: body := by
    rw [encodeFrame_eq, frameHeader, List.append_assoc]
    rfl
  rw [frame] at inside ⊢
  rcases Nat.lt_or_ge cut ((asciiBytes (lengthLine body.length)).length + 2) with early | late
  · left
    have unended :
        (asciiBytes (lengthLine body.length) ++ 13 :: newlineByte :: 13 :: newlineByte :: body).take cut =
        (asciiBytes (lengthLine body.length) ++ [13]).take cut := by
      rw [List.append_cons, List.take_append_of_le_length]
      simp only [List.length_append, List.length_singleton]
      omega
    rw [unended]
    cases cut with
    | zero => simp [readHeader]
    | succ cut =>
      apply readHeader_unended
      · intro member
        have present := List.mem_of_mem_take member
        rw [List.mem_append] at present
        exact present.elim (newlineByte_notMem_lengthLine _) (by decide)
      · obtain ⟨tail, first⟩ : ∃ tail, asciiBytes (lengthLine body.length) = 67 :: tail :=
          ⟨asciiBytes "ontent-Length: " ++ asciiBytes (toString body.length), asciiBytes_append ..⟩
        have letter : 'C' ∈ latinChars ((asciiBytes (lengthLine body.length) ++ [13]).take (cut + 1)) := by
          rw [first, List.cons_append, List.take_succ_cons]
          exact List.mem_cons_self ..
        exact trimBoth_ne_nil letter (by decide)
  · obtain ⟨more, rfl⟩ : ∃ more, cut = (asciiBytes (lengthLine body.length)).length + (more + 2) :=
      ⟨cut - (asciiBytes (lengthLine body.length)).length - 2, by omega⟩
    rw [List.take_length_add_append, List.take_succ_cons, List.take_succ_cons, readHeader_lengthLine digits]
    rcases more with _ | _ | more
    · exact Or.inl (by simp [readHeader])
    · refine Or.inr ⟨[], ?_, ?_⟩
      · have blank : trimAscii (latinChars [13]) = [] := by decide
        rw [List.take_succ_cons, List.take_zero, readHeader]
        simp only [@splitLine_of_notMem [13] (by decide), blank, List.isEmpty_nil, ↓reduceIte]
      · exact List.length_pos_iff.mpr nonempty
    · refine Or.inr ⟨body.take more, ?_, ?_⟩
      · rw [List.take_succ_cons, List.take_succ_cons, readHeader_blankLine]
      · simp only [List.length_append, List.length_cons] at inside
        rw [List.length_take]
        omega

/-- The beginning of a frame holds no body, and the stream is at its end. -/
theorem readFrame_take_encodeFrame {s : Source} {body : List UInt8} (nonempty : body ≠ [])
    (fits : FitsMemory body) (asked : s.takesRequest body.length = true) {cut : Nat}
    (inside : cut < (encodeFrame body).length) (bytes : s.rest = (encodeFrame body).take cut) :
    ∃ notes, readFrame s = (notes, .ended, { s with rest := [] }) := by
  have positive : body.length ≠ 0 := by simpa using nonempty
  rw [readFrame]
  rcases readHeader_take_encodeFrame nonempty fits inside with unfinished | ⟨part, block, short⟩
  · split
    · next notes h => exact ⟨notes, rfl⟩
    · next h =>
      rw [bytes] at h
      rw [h] at unfinished
      cases unfinished
  · split
    · next h =>
      rw [bytes, block] at h
      cases h
    · next h =>
      rw [bytes, block] at h
      simp only [Prod.mk.injEq, Option.some.injEq] at h
      obtain ⟨rfl, rfl, rfl⟩ := h
      obtain ⟨missing, refused⟩ := readExact_of_lt (s := { s with rest := part }) short
      simp only [Option.getD_some, Int.toNat_natCast, positive, ↓reduceIte, asked, refused]
      exact ⟨_, rfl⟩

theorem readFrame_of_nil {s : Source} (empty : s.rest = []) :
    readFrame s = ([], .ended, { s with rest := [] }) := by
  have none_left : readHeader none s.rest = ([], none) := by simp [empty, readHeader]
  rw [readFrame]
  split
  · next h =>
    rw [none_left] at h
    cases h
    rfl
  · next h =>
    rw [none_left] at h
    cases h

theorem readFrames_of_ended {s after : Source} {notes : List ReadNote}
    (ended : readFrame s = (notes, .ended, after)) : readFrames s = (notes, [], none) := by
  rw [readFrames]
  split <;> next h => rw [ended] at h; cases h; try rfl

theorem readFrames_of_broken {s after : Source} {notes : List ReadNote} {breach : Breach}
    (broken : readFrame s = (notes, .broken breach, after)) :
    readFrames s = (notes, [], some breach) := by
  rw [readFrames]
  split <;> next h => rw [broken] at h; cases h; try rfl

theorem readFrames_of_found {s after : Source} {notes : List ReadNote} {body : List UInt8}
    (found : readFrame s = (notes, .found body, after)) :
    (readFrames s).2 = (body :: (readFrames after).2.1, (readFrames after).2.2) := by
  rw [readFrames]
  split <;> next h => rw [found] at h; cases h; try rfl

end Frames

/-! ## Streams -/

section Streams

/-- The frames of some bodies, one after another. -/
def encodeFrames (bodies : List (List UInt8)) : List UInt8 := bodies.flatMap encodeFrame

/-- The bodies whose frames lie wholly within the first `cut` bytes of their stream. -/
def wholeBodies : (cut : Nat) → List (List UInt8) → List (List UInt8)
  | _, [] => []
  | cut, body :: rest =>
    if (encodeFrame body).length ≤ cut then body :: wholeBodies (cut - (encodeFrame body).length) rest
    else []

variable {s : Source} {bodies : List (List UInt8)} {cut : Nat}

/-- Nothing is lost of a stream that is not cut. -/
theorem wholeBodies_of_le (uncut : (encodeFrames bodies).length ≤ cut) :
    wholeBodies cut bodies = bodies := by
  induction bodies generalizing cut with
  | nil => rfl
  | cons body rest ih =>
    have stream : (encodeFrames (body :: rest)).length =
        (encodeFrame body).length + (encodeFrames rest).length :=
      List.length_append
    have whole : (encodeFrame body).length ≤ cut := by omega
    have further : (encodeFrames rest).length ≤ cut - (encodeFrame body).length := by omega
    simp only [wholeBodies, whole, ↓reduceIte, ih further]

theorem takesRequest_of_le {small large : Nat} (smaller : small ≤ large)
    (asked : s.takesRequest large = true) : s.takesRequest small = true := by
  unfold Source.takesRequest at asked ⊢
  split at asked
  · simp only [decide_eq_true_eq] at asked ⊢
    omega
  · rfl

/-- One read in a stream that is cut: the first body, if its frame is whole, else the end. -/
theorem readFrame_take_encodeFrames (nonempty : ∀ body ∈ bodies, body ≠ [])
    (fits : ∀ body ∈ bodies, FitsMemory body) (asked : s.takesRequest maxRequest = true)
    (bytes : s.rest = (encodeFrames bodies).take cut) :
    (wholeBodies cut bodies = [] ∧ ∃ notes, readFrame s = (notes, .ended, { s with rest := [] })) ∨
      ∃ body rest left reads, bodies = body :: rest ∧
        wholeBodies cut bodies = body :: wholeBodies left rest ∧
        readFrame s = ([], .found body, { s with rest := (encodeFrames rest).take left, reads }) := by
  cases bodies with
  | nil => exact Or.inl ⟨rfl, [], readFrame_of_nil (by simpa [encodeFrames] using bytes)⟩
  | cons body rest =>
    have some_bytes := nonempty body (List.mem_cons_self ..)
    have fitting := fits body (List.mem_cons_self ..)
    have taken := takesRequest_of_le fitting asked
    have stream : encodeFrames (body :: rest) = encodeFrame body ++ encodeFrames rest := rfl
    by_cases whole : (encodeFrame body).length ≤ cut
    · right
      obtain ⟨left, rfl⟩ := Nat.exists_eq_add_of_le whole
      rw [stream, List.take_length_add_append] at bytes
      obtain ⟨reads, found⟩ := readFrame_encodeFrame some_bytes fitting taken bytes
      refine ⟨body, rest, left, reads, rfl, ?_, found⟩
      simp only [wholeBodies, whole, ↓reduceIte, Nat.add_sub_cancel_left]
    · left
      have inside : cut < (encodeFrame body).length := Nat.lt_of_not_le whole
      rw [stream, List.take_append_of_le_length (Nat.le_of_lt inside)] at bytes
      refine ⟨?_, readFrame_take_encodeFrame some_bytes fitting taken inside bytes⟩
      simp only [wholeBodies, whole, ↓reduceIte]

/-- Repeated reading finds the bodies of the frames that are there as a whole, and then the end. -/
theorem readFrames_take_encodeFrames (nonempty : ∀ body ∈ bodies, body ≠ [])
    (fits : ∀ body ∈ bodies, FitsMemory body) (asked : s.takesRequest maxRequest = true)
    (bytes : s.rest = (encodeFrames bodies).take cut) :
    (readFrames s).2 = (wholeBodies cut bodies, none) := by
  induction bodies generalizing s cut with
  | nil =>
    have ended := readFrame_of_nil (s := s) (by simpa [encodeFrames] using bytes)
    rw [readFrames_of_ended ended]
    rfl
  | cons first rest ih =>
    rcases readFrame_take_encodeFrames nonempty fits asked bytes with
      ⟨noneWhole, notes, ended⟩ | ⟨body, others, left, reads, same, whole, found⟩
    · rw [readFrames_of_ended ended, noneWhole]
    · obtain ⟨rfl, rfl⟩ := List.cons.inj same
      have further := ih (s := { s with rest := (encodeFrames rest).take left, reads })
        (fun b member => nonempty b (List.mem_cons_of_mem _ member))
        (fun b member => fits b (List.mem_cons_of_mem _ member)) asked rfl
      rw [readFrames_of_found found, further, whole]

end Streams

end EditorAssist.Wire

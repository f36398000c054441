import EditorAssist.Proofs.Wire.Frames
import Mathlib.Data.List.TakeWhile

/-!
# Messages of a stream

Messages are read from the bodies of a stream: those that hold none are skipped, but one that meets a
limit of the JSON reader ends the reading. For a stream of frames that is cut this gives exactly the
messages that are there as a whole, unless such a body is among them.
-/

namespace EditorAssist.Wire

open EditorAssist.Text EditorAssist.Number

/-! ## Messages -/

section Messages

/-- The message that a body holds, if it holds one. -/
def message? (body : List UInt8) : Option Message := (Message.decode body).toOption

/-- The limit of the JSON reader that a body meets, if it meets one. -/
def limitMet? (body : List UInt8) : Option Json.Cause :=
  match Message.decode body with
  | .ok _ => none
  | .error failure => failure.limit?

variable {s after : Source} {notes : List ReadNote} {body : List UInt8}

/-- All messages are the next one and those behind it. -/
theorem readMessages_eq (s : Source) : readMessages s =
    match readMessage s with
    | (notes, .ended, after) => ⟨notes, [], none, after⟩
    | (notes, .broken breach, after) => ⟨notes, [], some breach, after⟩
    | (notes, .found message, after) =>
      { readMessages after with
        notes := notes ++ (readMessages after).notes
        messages := message :: (readMessages after).messages } := by
  rw [readMessages]
  split <;> next h => simp only [h]

theorem readMessages_of_ended (ended : readFrame s = (notes, .ended, after)) :
    readMessages s = ⟨notes, [], none, after⟩ := by
  have read : readMessage s = (notes, .ended, after) := by
    rw [readMessage]
    split <;> next h => rw [ended] at h; cases h; try rfl
  rw [readMessages_eq, read]

theorem readMessages_of_broken {breach : Breach} (broken : readFrame s = (notes, .broken breach, after)) :
    readMessages s = ⟨notes, [], some breach, after⟩ := by
  have read : readMessage s = (notes, .broken breach, after) := by
    rw [readMessage]
    split <;> next h => rw [broken] at h; cases h; try rfl
  rw [readMessages_eq, read]

theorem readMessages_of_message {message : Message} (found : readFrame s = (notes, .found body, after))
    (decoded : Message.decode body = .ok message) :
    readMessages s = { readMessages after with
      notes := notes ++ (readMessages after).notes
      messages := message :: (readMessages after).messages } := by
  have read : readMessage s = (notes, .found message, after) := by
    rw [readMessage]
    split <;> next h => rw [found] at h; cases h; try simp only [decoded]
  rw [readMessages_eq, read]

theorem readMessages_of_limit {failure : DecodeFailure} {cause : Json.Cause}
    (found : readFrame s = (notes, .found body, after)) (refused : Message.decode body = .error failure)
    (met : failure.limit? = some cause) : readMessages s = ⟨notes, [], some (.limit cause), after⟩ := by
  have read : readMessage s = (notes, .broken (.limit cause), after) := by
    rw [readMessage]
    split
    · next h => rw [found] at h; cases h
    · next h => rw [found] at h; cases h
    · next h =>
      rw [found] at h
      cases h
      split
      · next ok => rw [refused] at ok; cases ok
      · next failed =>
        rw [refused] at failed
        cases failed
        split
        · next same => rw [met] at same; cases same; rfl
        · next unmet => rw [met] at unmet; cases unmet
  rw [readMessages_eq, read]

/-- A body that is no message only leaves a note. -/
theorem readMessages_of_malformed {failure : DecodeFailure} (found : readFrame s = (notes, .found body, after))
    (refused : Message.decode body = .error failure) (unmet : failure.limit? = none) :
    readMessages s = { readMessages after with
      notes := notes ++ .malformed failure body.length :: (readMessages after).notes } := by
  have read : readMessage s =
      (notes ++ .malformed failure body.length :: (readMessage after).1, (readMessage after).2) := by
    rw [readMessage]
    split
    · next h => rw [found] at h; cases h
    · next h => rw [found] at h; cases h
    · next h =>
      rw [found] at h
      cases h
      split
      · next ok => rw [refused] at ok; cases ok
      · next failed =>
        rw [refused] at failed
        cases failed
        split
        · next met => rw [unmet] at met; cases met
        · rfl
  rw [readMessages_eq, read, readMessages_eq after]
  rcases readMessage after with ⟨more, arrival, last⟩
  cases arrival <;> simp

/-- The messages of any stream are those of its bodies in order, up to the first body that meets a
limit of the JSON reader. Bodies that are no messages are skipped. -/
theorem readMessages_of_bodies (s : Source) :
    (readMessages s).messages =
      ((readFrames s).2.1.takeWhile fun body => (limitMet? body).isNone).filterMap message? ∧
    (readMessages s).breach =
      (((readFrames s).2.1.findSome? limitMet?).map Breach.limit).or (readFrames s).2.2 := by
  induction size : s.rest.length using Nat.strongRecOn generalizing s with
  | ind size ih =>
    subst size
    rcases read : readFrame s with ⟨notes, arrival, after⟩
    cases arrival with
    | ended => simp [readMessages_of_ended read, readFrames_of_ended read]
    | broken breach => simp [readMessages_of_broken read, readFrames_of_broken read]
    | found body =>
      have further := ih _ (length_readFrame_lt read) after rfl
      rw [readFrames_of_found read]
      cases decoded : Message.decode body with
      | ok message =>
        have unmet : limitMet? body = none := by simp only [limitMet?, decoded]
        have held : message? body = some message := by simp only [message?, decoded, Except.toOption]
        rw [readMessages_of_message read decoded]
        simp [unmet, held, further]
      | error failure =>
        cases met : failure.limit? with
        | some cause =>
          have reached : limitMet? body = some cause := by simp only [limitMet?, decoded, met]
          rw [readMessages_of_limit read decoded met]
          simp [reached]
        | none =>
          have unmet : limitMet? body = none := by simp only [limitMet?, decoded, met]
          have nothing : message? body = none := by simp only [message?, decoded, Except.toOption]
          rw [readMessages_of_malformed read decoded met]
          simp [unmet, nothing, further]

theorem rest_of_readFrame_ended {s after : Source} {notes : List ReadNote}
    (ended : readFrame s = (notes, .ended, after)) : after.rest = [] := by
  fun_induction readFrame s generalizing notes with
  | case1 => cases ended; rfl
  | case2 =>
    rename_i more arrival last read ih
    rw [read] at ih
    cases ended
    exact ih rfl
  | case3 => cases ended
  | case4 => cases ended; rfl
  | case5 => cases ended

/-- When nothing breaks the reading off, the whole stream has been read. -/
theorem rest_of_readMessages {s : Source} (complete : (readMessages s).breach = none) :
    (readMessages s).after.rest = [] := by
  induction size : s.rest.length using Nat.strongRecOn generalizing s with
  | ind size ih =>
    subst size
    rcases read : readFrame s with ⟨notes, arrival, after⟩
    cases arrival with
    | ended =>
      rw [readMessages_of_ended read]
      exact rest_of_readFrame_ended read
    | broken breach =>
      rw [readMessages_of_broken read] at complete
      cases complete
    | found body =>
      have further := @ih _ (length_readFrame_lt read) after
      cases decoded : Message.decode body with
      | ok message =>
        rw [readMessages_of_message read decoded] at complete ⊢
        exact further complete rfl
      | error failure =>
        cases met : failure.limit? with
        | some cause =>
          rw [readMessages_of_limit read decoded met] at complete
          cases complete
        | none =>
          rw [readMessages_of_malformed read decoded met] at complete ⊢
          exact further complete rfl

/-! Two bodies: an empty object, which is a message without content, and a number that is too long. -/

theorem decode_emptyObject : Message.decode [123, 125] = .ok ⟨"2.0", none, none, .null, .null, none⟩ := by
  have brace (b : UInt8) (ascii : b < 0x80) : Utf8.lead? b = some (0, 0x80, 0xBF) := by
    simp only [Utf8.lead?, ascii, ↓reduceIte]
  have text : Utf8.decode [123, 125] = .ok "\x7b\x7d" := by
    simp [Utf8.decode, Utf8.decodeFrom, brace 123 (by decide), brace 125 (by decide), Utf8.continuation]
    rfl
  have parsed : Json.parse "\x7b\x7d".toList = .ok (.obj []) := rfl
  rw [Message.decode, text]
  simp only [Message.ofText, parsed]
  rfl

theorem message?_emptyObject : message? [123, 125] = some ⟨"2.0", none, none, .null, .null, none⟩ := by
  rw [message?, decode_emptyObject]
  rfl

theorem decodeFrom_nines (count position : Nat) :
    Utf8.decodeFrom position (List.replicate count 57) = .ok (List.replicate count '9') := by
  induction count generalizing position with
  | zero => simp [Utf8.decodeFrom]
  | succ count ih =>
    have lead : Utf8.lead? 57 = some (0, 0x80, 0xBF) := rfl
    rw [List.replicate_succ, Utf8.decodeFrom]
    simp [lead, Utf8.continuation, ih, List.replicate_succ]
    rfl

open Json.Parser in
theorem parse_nines {count : Nat} (long : maxDigits < count) :
    Json.parse (List.replicate count '9') = .error ⟨.longInteger, 0⟩ := by
  obtain ⟨more, rfl⟩ : ∃ more, count = more + 1 := ⟨count - 1, by omega⟩
  have numeral : numeral? (List.replicate (more + 1) '9') =
      some (⟨false, List.replicate (more + 1) '9', none, none, more + 1⟩, []) := by
    simp [List.replicate_succ, numeral?, isDigit, numeralTail]
  have tooLong : Numeral.isTooLong ⟨false, List.replicate (more + 1) '9', none, none, more + 1⟩ = true := by
    simpa [Numeral.isTooLong] using long
  have noWord : word? (List.replicate (more + 1) '9') = none := by
    simp [List.replicate_succ, word?, words]
  have refused (fuel depth : Nat) : value (fuel + 1) depth ⟨0, List.replicate (more + 1) '9'⟩ =
      .error ⟨.longInteger, 0⟩ := by
    rw [List.replicate_succ] at numeral tooLong noWord ⊢
    simp [value, noWord, numeral, tooLong]
  have start : skipSpace 0 (List.replicate (more + 1) '9') = ⟨0, List.replicate (more + 1) '9'⟩ := by
    simp [List.replicate_succ, skipSpace, isSpace]
  have mark : (List.replicate (more + 1) '9').head? ≠ some (Char.ofNat 0xFEFF) := by
    rw [List.replicate_succ, List.head?_cons]
    decide
  simp only [Json.parse, mark, ↓reduceIte, start, refused]
  rfl

theorem decode_nines {count : Nat} (long : maxDigits < count) :
    Message.decode (List.replicate count 57) =
      .error (.json ⟨.longInteger, 0⟩ (List.replicate count '9')) := by
  have text : Utf8.decode (List.replicate count 57) = .ok (String.ofList (List.replicate count '9')) := by
    rw [Utf8.decode, decodeFrom_nines]
    rfl
  rw [Message.decode, text]
  simp only [Message.ofText, String.toList_ofList, parse_nines long]

/-- A stream of frames, cut anywhere and read in pieces of any size, holds the bodies of the frames
that are there as a whole. Its messages are those of these bodies, the bodies that hold none skipped,
exactly if none of the bodies meets a limit of the JSON reader; otherwise they end at the first that
does. -/
theorem read_cut_stream {bodies : List (List UInt8)} {cut : Nat} {s : Source}
    (nonempty : ∀ body ∈ bodies, body ≠ []) (fits : ∀ body ∈ bodies, FitsMemory body)
    (asked : s.takesRequest maxRequest = true) (bytes : s.rest = (encodeFrames bodies).take cut) :
    (readFrames s).2 = (wholeBodies cut bodies, none) ∧
    (readMessages s).messages =
      ((wholeBodies cut bodies).takeWhile fun body => (limitMet? body).isNone).filterMap message? ∧
    (readMessages s).breach = ((wholeBodies cut bodies).findSome? limitMet?).map .limit ∧
    ((∀ body ∈ wholeBodies cut bodies, limitMet? body = none) ↔
      (readMessages s).messages = (wholeBodies cut bodies).filterMap message? ∧
        (readMessages s).breach = none ∧ (readMessages s).after.rest = []) := by
  have frames := readFrames_take_encodeFrames nonempty fits asked bytes
  obtain ⟨messages, breach⟩ := readMessages_of_bodies s
  rw [frames] at messages breach
  rw [Option.or_none] at breach
  refine ⟨frames, messages, breach, ?_, ?_⟩
  · intro unmet
    have complete : (readMessages s).breach = none := by
      rw [breach, Option.map_eq_none_iff, List.findSome?_eq_none_iff]
      exact unmet
    have all : (wholeBodies cut bodies).takeWhile (fun body => (limitMet? body).isNone) =
        wholeBodies cut bodies := by
      rw [List.takeWhile_eq_self_iff]
      intro body member
      simp only [unmet body member, Option.isNone_none]
    rw [all] at messages
    exact ⟨messages, complete, rest_of_readMessages complete⟩
  · rintro ⟨-, complete, -⟩
    rw [breach, Option.map_eq_none_iff, List.findSome?_eq_none_iff] at complete
    exact complete

/-- The stream of the example: an empty object and a body that looks like the end of a header, cut
inside the second frame and read byte by byte. -/
def bytewiseStream : Source :=
  .limited ((encodeFrames [[123, 125], [13, 10, 13, 10]]).take 45) 1

theorem read_cut_stream_bytewise :
    (∀ body ∈ [[123, 125], [13, 10, 13, 10]], body ≠ ([] : List UInt8)) ∧
    (∀ body ∈ [[123, 125], [13, 10, 13, 10]], FitsMemory body) ∧
    bytewiseStream.takesRequest maxRequest = true ∧
    (readFrames bytewiseStream).2 = ([[123, 125]], none) ∧
    (readMessages bytewiseStream).messages = [⟨"2.0", none, none, .null, .null, none⟩] ∧
    (readMessages bytewiseStream).breach = none ∧ (readMessages bytewiseStream).after.rest = [] := by
  have nonempty : ∀ body ∈ [[123, 125], [13, 10, 13, 10]], body ≠ ([] : List UInt8) := by decide
  have fits : ∀ body ∈ [[123, 125], [13, 10, 13, 10]], FitsMemory body := by unfold FitsMemory; decide
  have whole : wholeBodies 45 [[123, 125], [13, 10, 13, 10]] = [[123, 125]] := by decide
  obtain ⟨frames, -, -, exact_⟩ := read_cut_stream nonempty fits (s := bytewiseStream) rfl rfl
  rw [whole] at frames exact_
  have unmet : limitMet? [123, 125] = none := by rw [limitMet?, decode_emptyObject]
  obtain ⟨messages, complete, rest⟩ := exact_.mp (by simpa using unmet)
  refine ⟨nonempty, fits, rfl, frames, ?_, complete, rest⟩
  rw [messages]
  simp only [List.filterMap_cons, message?_emptyObject, List.filterMap_nil]

/-- Behind a body that meets a limit no message is read. -/
theorem readMessages_stops_at_limit {long next : List UInt8} {cause : Json.Cause}
    (nonempty : long ≠ [] ∧ next ≠ []) (fits : FitsMemory long ∧ FitsMemory next)
    (met : limitMet? long = some cause) :
    (readMessages (.ofBytes (encodeFrames [long, next]))).messages = [] ∧
      (readMessages (.ofBytes (encodeFrames [long, next]))).breach = some (.limit cause) := by
  have frames : (readFrames (.ofBytes (encodeFrames [long, next]))).2 = ([long, next], none) := by
    rw [@readFrames_take_encodeFrames (.ofBytes (encodeFrames [long, next])) [long, next]
      (encodeFrames [long, next]).length (by simpa using nonempty) (by simpa using fits) rfl
      List.take_length.symm, wholeBodies_of_le (Nat.le_refl _)]
  obtain ⟨messages, breach⟩ := readMessages_of_bodies (.ofBytes (encodeFrames [long, next]))
  rw [frames] at messages breach
  refine ⟨?_, ?_⟩
  · rw [messages]
    simp [met]
  · rw [breach]
    simp [met]

/-- A body that is a number of too many digits is no message, yet it is not skipped: it ends the
reading, and the message behind it is lost. -/
theorem readMessages_stops_at_nines {count : Nat} (long : maxDigits < count) (fits : count ≤ maxRequest) :
    (readMessages (.ofBytes (encodeFrames [List.replicate count 57, [123, 125]]))).messages = [] ∧
    (readMessages (.ofBytes (encodeFrames [List.replicate count 57, [123, 125]]))).breach =
      some (.limit .longInteger) ∧
    [List.replicate count 57, [123, 125]].filterMap message? =
      [⟨"2.0", none, none, .null, .null, none⟩] := by
  have refused := decode_nines long
  have met : limitMet? (List.replicate count 57) = some .longInteger := by
    rw [limitMet?, refused]
    rfl
  have nonempty : List.replicate count (57 : UInt8) ≠ [] := by
    rw [Ne, List.replicate_eq_nil_iff]
    omega
  have fitting : FitsMemory (List.replicate count 57) ∧ FitsMemory [123, 125] := by
    unfold FitsMemory
    rw [List.length_replicate]
    exact ⟨fits, by decide⟩
  obtain ⟨messages, breach⟩ := readMessages_stops_at_limit ⟨nonempty, by decide⟩ fitting met
  refine ⟨messages, breach, ?_⟩
  have nothing : message? (List.replicate count 57) = none := by
    rw [message?, refused]
    rfl
  simp only [List.filterMap_cons, nothing, message?_emptyObject, List.filterMap_nil]

/-- One digit more than are read. -/
theorem long_integer_ends_stream :
    (readMessages (.ofBytes (encodeFrames [List.replicate 4301 57, [123, 125]]))).messages = [] ∧
    (readMessages (.ofBytes (encodeFrames [List.replicate 4301 57, [123, 125]]))).breach =
      some (.limit .longInteger) ∧
    [List.replicate 4301 57, [123, 125]].filterMap message? =
      [⟨"2.0", none, none, .null, .null, none⟩] :=
  readMessages_stops_at_nines (by decide) (by decide)

end Messages

end EditorAssist.Wire

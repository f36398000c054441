import EditorAssist.Proofs.Wire.Blocks

/-!
# Reading any stream

A reader may be asked for bodies as often as one likes, of any bytes and in pieces of any size. Finitely
many calls come to something. Every body among them is a piece of the stream of its own, right behind the
header block that announces it, and later bodies stand further on. A call that comes to no body before
the end met a length that the stream cannot be asked for; behind the end there is nothing more.
-/

namespace EditorAssist.Wire

open EditorAssist.Number

/-! ## Calls -/

section Calls

/-- The stream after some calls of the reader. -/
def Source.after (s : Source) : (calls : Nat) → Source
  | 0 => s
  | calls + 1 => (readFrame s).2.2.after calls

/-- What a call of the reader comes to, when so many have been made before. -/
def arrival (s : Source) (calls : Nat) : Arrival (List UInt8) := (readFrame (s.after calls)).2.1

/-- The body that a reading comes to, if it comes to one. -/
def Arrival.found? {α : Type} : Arrival α → Option α
  | .found item => some item
  | .ended => none
  | .broken _ => none

theorem arrival_zero (s : Source) : arrival s 0 = (readFrame s).2.1 := rfl

theorem arrival_succ (s : Source) (calls : Nat) : arrival s (calls + 1) = arrival (readFrame s).2.2 calls := rfl

/-- The bodies of the first calls. -/
def bodiesOf (s : Source) (calls : Nat) : List (List UInt8) :=
  (List.range calls).filterMap fun call => (arrival s call).found?

theorem bodiesOf_succ (s : Source) (calls : Nat) :
    bodiesOf s (calls + 1) = (arrival s 0).found?.toList ++ bodiesOf (readFrame s).2.2 calls := by
  rw [bodiesOf, List.range_succ_eq_map, List.filterMap_cons, List.filterMap_map]
  cases (arrival s 0).found? <;> rfl

/-- At the end of a stream every further call comes to the end. -/
theorem arrival_of_nil {s : Source} (empty : s.rest = []) (calls : Nat) : arrival s calls = .ended := by
  induction calls generalizing s with
  | zero => rw [arrival, Source.after, readFrame_of_nil empty]
  | succ calls ih =>
    rw [arrival_succ, readFrame_of_nil empty]
    exact ih rfl

end Calls

/-! ## Places -/

section Places

/-- A body in a stream: the bytes in front of its header block, the block, and the body itself. -/
structure Place where
  before : List UInt8
  block : HeaderBlock
  body : List UInt8

namespace Place

/-- Where the body starts. -/
def start (place : Place) : Nat := place.before.length + place.block.bytes.length

/-- Where the body ends. -/
def stop (place : Place) : Nat := place.start + place.body.length

/-- The block and the body stand at this place of the stream, one behind the other: the block ends in a
whole blank line, and its last length is that of the body, which is not empty. -/
structure LiesIn (place : Place) (stream : List UInt8) : Prop where
  bytes : place.before ++ place.block.bytes ++ place.body <+: stream
  ended : IsLine place.block.blank
  announced : place.block.announced = some (place.body.length : Int)
  nonempty : 0 < place.body.length

/-- The place in a stream that begins with some more bytes. -/
def behind (bytes : List UInt8) (place : Place) : Place := { place with before := bytes ++ place.before }

theorem LiesIn.behind {place : Place} {stream : List UInt8} (lies : place.LiesIn stream) (bytes : List UInt8) :
    (place.behind bytes).LiesIn (bytes ++ stream) := by
  refine ⟨?_, lies.ended, lies.announced, lies.nonempty⟩
  simp only [Place.behind, List.append_assoc]
  exact (List.prefix_append_right_inj bytes).mpr (by simpa only [List.append_assoc] using lies.bytes)

theorem length_before_behind (place : Place) (bytes : List UInt8) :
    (place.behind bytes).before.length = bytes.length + place.before.length := by
  rw [behind, List.length_append]

theorem stop_behind (place : Place) (bytes : List UInt8) :
    (place.behind bytes).stop = bytes.length + place.stop := by
  simp only [stop, start, length_before_behind, Nat.add_assoc]
  rfl

end Place

/-- Every block stands behind the body in front of it. -/
def Apart (places : List Place) : Prop := places.Pairwise fun first later => first.stop ≤ later.before.length

theorem Apart.behind {places : List Place} (apart : Apart places) (bytes : List UInt8) :
    Apart (places.map (Place.behind bytes)) := by
  rw [Apart, List.pairwise_map]
  refine List.Pairwise.imp ?_ apart
  intro first later ordered
  rw [Place.stop_behind, Place.length_before_behind]
  omega

end Places

/-! ## Lengths that are too large -/

section Refusals

/-- A block of the stream announces more than the stream can be asked for. -/
def Refuses (s : Source) (size : Nat) : Prop :=
  s.takesRequest size = false ∧ ∃ before, ∃ block : HeaderBlock,
    before ++ block.bytes <+: s.rest ∧ block.announced = some (size : Int)

theorem Refuses.behind {s after : Source} {size : Nat} (refuses : Refuses after size) {bytes : List UInt8}
    (same : after.largest = s.largest) (stream : s.rest = bytes ++ after.rest) : Refuses s size := by
  obtain ⟨refused, before, block, stands, announced⟩ := refuses
  refine ⟨?_, bytes ++ before, block, ?_, announced⟩
  · rwa [Source.takesRequest, same] at refused
  · rw [stream, List.append_assoc]
    exact (List.prefix_append_right_inj bytes).mpr stands

/-- A header that announces more than the stream can be asked for breaks the reading off. -/
theorem readFrame_of_refused {s : Source} {size : Nat} {rest : List UInt8} (positive : size ≠ 0)
    (short : (toString size).toList.length ≤ maxDigits) (refused : s.takesRequest size = false)
    (bytes : s.rest = frameHeader size ++ rest) :
    readFrame s = ([], .broken (.request size), { s with rest }) := by
  have header : readHeader none s.rest = ([], some (some (size : Int), rest)) := by
    rw [bytes, readHeader_frameHeader short]
  rw [readFrame]
  split
  · next h => simp [header] at h
  · next h =>
    rw [header] at h
    simp only [Prod.mk.injEq, Option.some.injEq] at h
    obtain ⟨rfl, rfl, rfl⟩ := h
    simp only [Option.getD_some, Int.toNat_natCast, positive, ↓reduceIte, refused, Bool.false_eq_true]

end Refusals

/-! ## Reading -/

section Reading

/-- The calls of a reader up to the end, and where the bodies stand that they come to. -/
structure Safe (s : Source) (calls : Nat) (places : List Place) : Prop where
  /-- The bodies stand in the stream, in the order in which they are found. -/
  bodies : bodiesOf s calls = places.map (·.body)
  lie : ∀ place ∈ places, place.LiesIn s.rest
  apart : Apart places
  /-- A call comes to a body, or to a length that the stream cannot be asked for. -/
  comes : ∀ call < calls, (∃ body, arrival s call = .found body) ∨
    ∃ size, arrival s call = .broken (.request size) ∧ Refuses s size
  /-- Then there is nothing more. -/
  ends : ∀ call, calls ≤ call → arrival s call = .ended

variable {s : Source} {calls : Nat} {places : List Place} {bytes : List UInt8}

/-- A call that comes to something, before the calls behind it. -/
theorem Safe.behind (safe : Safe (readFrame s).2.2 calls places)
    (same : (readFrame s).2.2.largest = s.largest) (stream : s.rest = bytes ++ (readFrame s).2.2.rest)
    (first : List Place) (own : (arrival s 0).found?.toList = first.map (·.body))
    (lie : ∀ place ∈ first, place.LiesIn s.rest) (apart : Apart first)
    (before : ∀ place ∈ first, place.stop ≤ bytes.length)
    (comes : (∃ body, arrival s 0 = .found body) ∨
      ∃ size, arrival s 0 = .broken (.request size) ∧ Refuses s size) :
    Safe s (calls + 1) (first ++ places.map (Place.behind bytes)) where
  bodies := by
    rw [bodiesOf_succ, own, safe.bodies, List.map_append, List.map_map]
    rfl
  lie := by
    intro place member
    rcases List.mem_append.mp member with here | later
    · exact lie place here
    · obtain ⟨other, found, rfl⟩ := List.mem_map.mp later
      rw [stream]
      exact (safe.lie other found).behind bytes
  apart := by
    refine List.pairwise_append.mpr ⟨apart, safe.apart.behind bytes, ?_⟩
    intro place member later found
    obtain ⟨other, _, rfl⟩ := List.mem_map.mp found
    have := before place member
    rw [Place.length_before_behind]
    omega
  comes := by
    intro call bound
    cases call with
    | zero => exact comes
    | succ call =>
      rcases safe.comes call (Nat.lt_of_succ_lt_succ bound) with found | ⟨size, broken, refuses⟩
      · exact .inl found
      · exact .inr ⟨size, broken, refuses.behind same stream⟩
  ends := by
    intro call bound
    cases call with
    | zero => exact absurd bound (Nat.not_succ_le_zero _)
    | succ call => exact safe.ends call (Nat.le_of_succ_le_succ bound)

/-- By induction on the bytes that are left. -/
theorem exists_safe (s : Source) :
    ∃ calls places, Safe s calls places ∧ calls ≤ s.rest.length := by
  induction size : s.rest.length using Nat.strongRecOn generalizing s with
  | ind size ih =>
    subst size
    have reading := readFrame_reading s
    obtain ⟨what, arrives⟩ : ∃ what, arrival s 0 = what := ⟨_, rfl⟩
    obtain ⟨after, remains⟩ : ∃ after, (readFrame s).2.2 = after := ⟨_, rfl⟩
    rw [← arrival_zero, arrives, remains] at reading
    have shorter : what ≠ .ended → after.rest.length < s.rest.length := reading.length_lt
    cases reading with
    | ended empty same =>
      refine ⟨0, [], ⟨rfl, by simp, .nil, by simp, ?_⟩, Nat.zero_le _⟩
      intro call _
      cases call with
      | zero => exact arrives
      | succ call =>
        rw [arrival_succ, remains]
        exact arrival_of_nil empty call
    | @found skipped block body _ unused bytes nonempty announced ended same =>
      have shorter := shorter nofun
      obtain ⟨calls, places, safe, bound⟩ := ih _ shorter after rfl
      subst remains
      have lies : Place.LiesIn ⟨skipped.flatMap (·.bytes), block, body⟩ s.rest :=
        ⟨by rw [bytes]; exact List.prefix_append .., ended, announced, List.length_pos_iff.mpr nonempty⟩
      have inside : Place.stop ⟨skipped.flatMap (·.bytes), block, body⟩ ≤
          (skipped.flatMap (·.bytes) ++ block.bytes ++ body).length := by
        simp only [Place.stop, Place.start, List.length_append, Nat.le_refl]
      refine ⟨calls + 1, _, safe.behind same bytes [⟨_, block, body⟩] ?_ (List.forall_mem_singleton.mpr lies)
        (List.pairwise_singleton ..) (List.forall_mem_singleton.mpr inside) (.inl ⟨body, arrives⟩), by omega⟩
      rw [arrives]
      rfl
    | @broken skipped block size _ unused bytes announced refused same =>
      have shorter := shorter nofun
      obtain ⟨calls, places, safe, bound⟩ := ih _ shorter after rfl
      subst remains
      have refuses : Refuses s size :=
        ⟨refused, skipped.flatMap (·.bytes), block, by rw [bytes]; exact List.prefix_append .., announced⟩
      refine ⟨calls + 1, _, safe.behind same bytes [] ?_ (by simp) .nil (by simp) (.inr ⟨size, arrives, refuses⟩),
        by omega⟩
      rw [arrives]
      rfl

/-- On every stream the calls of a reader come to finitely many bodies, each at a place of its own right
behind its header block, and to lengths that the stream cannot be asked for; then they come to the end
for good. There are no more calls before the end than the stream has bytes, and all of them come to
bodies if no block announces more than the stream can be asked for. -/
theorem reading_any_stream_is_safe (s : Source) :
    ∃ calls places, Safe s calls places ∧ calls ≤ s.rest.length ∧
      ((∀ size, ¬Refuses s size) → ∀ call < calls, ∃ body, arrival s call = .found body) := by
  obtain ⟨calls, places, safe, bound⟩ := exists_safe s
  refine ⟨calls, places, safe, bound, ?_⟩
  intro unrefused call before
  rcases safe.comes call before with found | ⟨size, _, refuses⟩
  · exact found
  · exact absurd refuses (unrefused size)

/-- One byte more than a stream can be asked for. -/
def overlongStream : Source := .ofBytes (frameHeader (maxRequest + 1))

/-- A length that is too large is neither skipped nor the end of the stream. -/
theorem overlong_length_breaks_reading_off :
    overlongStream.rest = asciiBytes "Content-Length: 9223372036854775808\r\n\r\n" ∧
    arrival overlongStream 0 = .broken (.request 9223372036854775808) ∧
    (∀ body, arrival overlongStream 0 ≠ .found body) ∧ arrival overlongStream 0 ≠ .ended := by
  have broken : arrival overlongStream 0 = .broken (.request 9223372036854775808) := by
    have stream : overlongStream.rest = frameHeader (maxRequest + 1) ++ [] := (List.append_nil _).symm
    rw [arrival_zero, readFrame_of_refused (by decide) (by decide) (by decide) stream]
    rfl
  refine ⟨by decide, broken, ?_, ?_⟩
  · intro body found
    rw [broken] at found
    cases found
  · intro ended
    rw [broken] at ended
    cases ended

end Reading

end EditorAssist.Wire

import EditorAssist.Text.Utf8

/-!
# UTF-8 read back

Every text is read back from its bytes. A character is followed through its lead byte and the bytes that
continue it; the bounds on the first of these leave out only overlong forms and halves of surrogate pairs,
and no character has either.
-/

namespace EditorAssist.Text.Utf8

/-! ## Lead bytes -/

section LeadBytes

variable {b : UInt8}

theorem lead?_one (small : b.toNat < 0x80) : lead? b = some (0, 0x80, 0xBF) := by
  have below : b < 0x80 := UInt8.lt_iff_toNat_lt.mpr small
  simp only [lead?, below, ↓reduceIte]

theorem lead?_two (lower : 0xC2 ≤ b.toNat) (upper : b.toNat < 0xE0) : lead? b = some (1, 0x80, 0xBF) := by
  have notOne : ¬b < 0x80 := by simp only [UInt8.lt_iff_toNat_lt, UInt8.reduceToNat]; omega
  have notBare : ¬b < 0xC2 := by simp only [UInt8.lt_iff_toNat_lt, UInt8.reduceToNat]; omega
  have below : b < 0xE0 := UInt8.lt_iff_toNat_lt.mpr upper
  simp only [lead?, notOne, notBare, below, ↓reduceIte]

theorem lead?_three (lower : 0xE0 ≤ b.toNat) (upper : b.toNat < 0xF0) :
    lead? b = some (2, if b = 0xE0 then 0xA0 else 0x80, if b = 0xED then 0x9F else 0xBF) := by
  have notOne : ¬b < 0x80 := by simp only [UInt8.lt_iff_toNat_lt, UInt8.reduceToNat]; omega
  have notBare : ¬b < 0xC2 := by simp only [UInt8.lt_iff_toNat_lt, UInt8.reduceToNat]; omega
  have notTwo : ¬b < 0xE0 := by simp only [UInt8.lt_iff_toNat_lt, UInt8.reduceToNat]; omega
  have below : b < 0xF0 := UInt8.lt_iff_toNat_lt.mpr upper
  simp only [lead?, notOne, notBare, notTwo, below, ↓reduceIte]
  by_cases first : b = 0xE0
  · subst first
    rfl
  · by_cases last : b = 0xED
    · subst last
      rfl
    · simp only [first, last, ↓reduceIte]

theorem lead?_four (lower : 0xF0 ≤ b.toNat) (upper : b.toNat ≤ 0xF4) :
    lead? b = some (3, if b = 0xF0 then 0x90 else 0x80, if b = 0xF4 then 0x8F else 0xBF) := by
  have notOne : ¬b < 0x80 := by simp only [UInt8.lt_iff_toNat_lt, UInt8.reduceToNat]; omega
  have notBare : ¬b < 0xC2 := by simp only [UInt8.lt_iff_toNat_lt, UInt8.reduceToNat]; omega
  have notTwo : ¬b < 0xE0 := by simp only [UInt8.lt_iff_toNat_lt, UInt8.reduceToNat]; omega
  have notThree : ¬b < 0xF0 := by simp only [UInt8.lt_iff_toNat_lt, UInt8.reduceToNat]; omega
  have notFirst : b ≠ 0xE0 := by rintro rfl; exact absurd lower (by decide)
  have notLast : b ≠ 0xED := by rintro rfl; exact absurd lower (by decide)
  simp only [lead?, notOne, notBare, notTwo, notThree, notFirst, notLast, ↓reduceIte]
  by_cases first : b = 0xF0
  · subst first
    rfl
  · by_cases last : b = 0xF4
    · subst last
      rfl
    · have below : b < 0xF4 := by
        have other : b.toNat ≠ 0xF4 := fun same => last (UInt8.toNat_inj.mp same)
        simp only [UInt8.lt_iff_toNat_lt, UInt8.reduceToNat]
        omega
      simp only [first, last, below, ↓reduceIte]

end LeadBytes

/-! ## Characters -/

section Characters

/-- A byte that continues a sequence. -/
theorem continuation_succ {low high b : UInt8} (lower : low.toNat ≤ b.toNat) (upper : b.toNat ≤ high.toNat)
    (count value taken : Nat) (rest : List UInt8) :
    continuation (count + 1) low high value taken (b :: rest) =
      continuation count 0x80 0xBF (value * 64 + b.toNat % 64) (taken + 1) rest := by
  have within : (low ≤ b && b ≤ high) = true := by
    simp only [Bool.and_eq_true, decide_eq_true_eq, UInt8.le_iff_toNat_le]
    exact ⟨lower, upper⟩
  simp only [continuation, within, ↓reduceIte]

theorem toNat_ofNat_of_lt {n : Nat} (small : n < 256) : (UInt8.ofNat n).toNat = n := by
  rw [UInt8.toNat_ofNat']
  omega

/-- A sequence of bytes is read as one character. -/
theorem decodeFrom_sequence {b low high : UInt8} {count value : Nat} {bytes rest : List UInt8}
    (lead : lead? b = some (count, low, high))
    (continues : continuation count low high (leadBits b count) 1 bytes = .ok (value, rest)) (position : Nat) :
    decodeFrom position (b :: bytes) =
      (decodeFrom (position + count + 1) rest).map (Char.ofNat value :: ·) := by
  rw [decodeFrom, lead]
  dsimp only
  split
  · next failed =>
    rw [continues] at failed
    cases failed
  · next read =>
    rw [continues] at read
    cases read
    cases decodeFrom (position + count + 1) rest <;> rfl

/-- A byte that stands for six bits continues a sequence. -/
theorem continues_of_six {b : UInt8} {bits : Nat} (value : b.toNat = bits % 64 + 128) :
    (0x80 : UInt8).toNat ≤ b.toNat ∧ b.toNat ≤ (0xBF : UInt8).toNat := by
  simp only [UInt8.reduceToNat]
  omega

variable {code : Nat}

theorem decodeFrom_one (upper : code < 0x80) (position : Nat) (rest : List UInt8) :
    decodeFrom position (UInt8.ofNat code :: rest) = (decodeFrom (position + 1) rest).map (Char.ofNat code :: ·) := by
  have value : (UInt8.ofNat code).toNat = code := toNat_ofNat_of_lt (by omega)
  have bits : leadBits (UInt8.ofNat code) 0 = code := value
  rw [decodeFrom_sequence (lead?_one (by omega)) rfl position, bits]

theorem decodeFrom_two (lower : 0x80 ≤ code) (upper : code < 0x800) (position : Nat) (rest : List UInt8) :
    decodeFrom position (UInt8.ofNat (code / 64 % 32 + 192) :: UInt8.ofNat (code % 64 + 128) :: rest) =
      (decodeFrom (position + 2) rest).map (Char.ofNat code :: ·) := by
  generalize lead : UInt8.ofNat (code / 64 % 32 + 192) = b
  generalize second : UInt8.ofNat (code % 64 + 128) = b₁
  have value : b.toNat = code / 64 + 192 := by rw [← lead, toNat_ofNat_of_lt (by omega)]; omega
  have value₁ : b₁.toNat = code % 64 + 128 := by rw [← second, toNat_ofNat_of_lt (by omega)]
  have within₁ := continues_of_six value₁
  have bits : leadBits b 1 * 64 + b₁.toNat % 64 = code := by
    simp only [leadBits]
    omega
  rw [decodeFrom_sequence (lead?_two (by omega) (by omega)) (continuation_succ within₁.1 within₁.2 ..) position, bits]

/-- The bounds on the second of three bytes leave out codes below 0x800 and halves of surrogate pairs. -/
theorem second_of_three {b b₁ : UInt8} (value : b.toNat = code / 4096 + 224) (value₁ : b₁.toNat = code / 64 % 64 + 128)
    (lower : 0x800 ≤ code) (whole : code < 0xD800 ∨ 0xE000 ≤ code) :
    (if b = 0xE0 then 0xA0 else 0x80 : UInt8).toNat ≤ b₁.toNat ∧
      b₁.toNat ≤ (if b = 0xED then 0x9F else 0xBF : UInt8).toNat := by
  simp only [← UInt8.toNat_inj, UInt8.reduceToNat]
  constructor <;> split <;> simp only [UInt8.reduceToNat] <;> omega

theorem decodeFrom_three (lower : 0x800 ≤ code) (upper : code < 0x10000)
    (whole : code < 0xD800 ∨ 0xE000 ≤ code) (position : Nat) (rest : List UInt8) :
    decodeFrom position (UInt8.ofNat (code / 4096 % 16 + 224) :: UInt8.ofNat (code / 64 % 64 + 128) ::
        UInt8.ofNat (code % 64 + 128) :: rest) =
      (decodeFrom (position + 3) rest).map (Char.ofNat code :: ·) := by
  generalize lead : UInt8.ofNat (code / 4096 % 16 + 224) = b
  generalize second : UInt8.ofNat (code / 64 % 64 + 128) = b₁
  generalize third : UInt8.ofNat (code % 64 + 128) = b₂
  have value : b.toNat = code / 4096 + 224 := by rw [← lead, toNat_ofNat_of_lt (by omega)]; omega
  have value₁ : b₁.toNat = code / 64 % 64 + 128 := by rw [← second, toNat_ofNat_of_lt (by omega)]
  have value₂ : b₂.toNat = code % 64 + 128 := by rw [← third, toNat_ofNat_of_lt (by omega)]
  have within₁ := second_of_three value value₁ lower whole
  have within₂ := continues_of_six value₂
  have bits : (leadBits b 2 * 64 + b₁.toNat % 64) * 64 + b₂.toNat % 64 = code := by
    simp only [leadBits]
    omega
  rw [decodeFrom_sequence (lead?_three (by omega) (by omega))
    ((continuation_succ within₁.1 within₁.2 ..).trans (continuation_succ within₂.1 within₂.2 ..)) position, bits]

/-- The bounds on the second of four bytes leave out codes below 0x10000 and above the last one. -/
theorem second_of_four {b b₁ : UInt8} (value : b.toNat = code / 262144 + 240)
    (value₁ : b₁.toNat = code / 4096 % 64 + 128) (lower : 0x10000 ≤ code) (upper : code < 0x110000) :
    (if b = 0xF0 then 0x90 else 0x80 : UInt8).toNat ≤ b₁.toNat ∧
      b₁.toNat ≤ (if b = 0xF4 then 0x8F else 0xBF : UInt8).toNat := by
  simp only [← UInt8.toNat_inj, UInt8.reduceToNat]
  constructor <;> split <;> simp only [UInt8.reduceToNat] <;> omega

theorem decodeFrom_four (lower : 0x10000 ≤ code) (upper : code < 0x110000) (position : Nat) (rest : List UInt8) :
    decodeFrom position (UInt8.ofNat (code / 262144 % 8 + 240) :: UInt8.ofNat (code / 4096 % 64 + 128) ::
        UInt8.ofNat (code / 64 % 64 + 128) :: UInt8.ofNat (code % 64 + 128) :: rest) =
      (decodeFrom (position + 4) rest).map (Char.ofNat code :: ·) := by
  generalize lead : UInt8.ofNat (code / 262144 % 8 + 240) = b
  generalize second : UInt8.ofNat (code / 4096 % 64 + 128) = b₁
  generalize third : UInt8.ofNat (code / 64 % 64 + 128) = b₂
  generalize fourth : UInt8.ofNat (code % 64 + 128) = b₃
  have value : b.toNat = code / 262144 + 240 := by rw [← lead, toNat_ofNat_of_lt (by omega)]; omega
  have value₁ : b₁.toNat = code / 4096 % 64 + 128 := by rw [← second, toNat_ofNat_of_lt (by omega)]
  have value₂ : b₂.toNat = code / 64 % 64 + 128 := by rw [← third, toNat_ofNat_of_lt (by omega)]
  have value₃ : b₃.toNat = code % 64 + 128 := by rw [← fourth, toNat_ofNat_of_lt (by omega)]
  have within₁ := second_of_four value value₁ lower upper
  have within₂ := continues_of_six value₂
  have within₃ := continues_of_six value₃
  have bits : ((leadBits b 3 * 64 + b₁.toNat % 64) * 64 + b₂.toNat % 64) * 64 + b₃.toNat % 64 = code := by
    simp only [leadBits]
    omega
  rw [decodeFrom_sequence (lead?_four (by omega) (by omega))
    ((continuation_succ within₁.1 within₁.2 ..).trans
      ((continuation_succ within₂.1 within₂.2 ..).trans (continuation_succ within₃.1 within₃.2 ..))) position, bits]

/-- The code of a character lies below or above the halves of surrogate pairs. -/
theorem toNat_cases (c : Char) : c.toNat < 0xD800 ∨ 0xE000 ≤ c.toNat ∧ c.toNat < 0x110000 := by
  have valid : c.toNat.isValidChar := c.valid
  simp only [Nat.isValidChar] at valid
  omega

/-- The bytes of a character are read as it, whatever stands behind them. -/
theorem decodeFrom_encodeChar (c : Char) (position : Nat) (rest : List UInt8) :
    decodeFrom position (String.utf8EncodeChar c ++ rest) =
      (decodeFrom (position + (String.utf8EncodeChar c).length) rest).map (c :: ·) := by
  have bounds := toNat_cases c
  have same : Char.ofNat c.toNat = c := Char.ofNat_toNat c
  unfold String.utf8EncodeChar
  rw [show c.val.toNat = c.toNat from rfl]
  generalize c.toNat = code at bounds same
  subst same
  dsimp only
  split
  · exact decodeFrom_one (by omega) position rest
  split
  · exact decodeFrom_two (by omega) (by omega) position rest
  split
  · exact decodeFrom_three (by omega) (by omega) (by omega) position rest
  · exact decodeFrom_four (by omega) (by omega) position rest

theorem decodeFrom_encode (text : List Char) (position : Nat) :
    decodeFrom position (text.flatMap String.utf8EncodeChar) = .ok text := by
  induction text generalizing position with
  | nil => simp [decodeFrom]
  | cons c rest ih =>
    rw [List.flatMap_cons, decodeFrom_encodeChar, ih]
    rfl

/-- Every text is read back from its bytes. -/
theorem decode_encode (text : String) : decode (encode text) = .ok text := by
  rw [decode, encode, decodeFrom_encode]
  exact congrArg Except.ok String.ofList_toList

end Characters

end EditorAssist.Text.Utf8

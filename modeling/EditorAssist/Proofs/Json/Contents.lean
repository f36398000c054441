import EditorAssist.Proofs.Json.Strings

/-!
# What stands in strings

The text between the quotes of a string is made of characters that stand for themselves and of whole escapes. Such a
text is read up to the quote behind it, whatever follows; nothing else is read. Texts of this kind may be joined, and
cut where a brace stands.
-/

namespace EditorAssist.Json.Parser

open EditorAssist.Text

/-- What may stand between the quotes of a string. -/
inductive Content : List Char → Prop
  | nil : Content []
  | plain {c : Char} {rest : List Char} (notQuote : c ≠ '"') (notMark : c ≠ '\\') (shown : 0x20 ≤ c.toNat)
      (content : Content rest) : Content (c :: rest)
  | letter {letter c : Char} {rest : List Char} (escape : simpleEscape? letter = some c) (content : Content rest) :
      Content ('\\' :: letter :: rest)
  | unit {a b c d : Char} {unit : Nat} {rest : List Char} (digits : hex4? a b c d = some unit)
      (content : Content rest) : Content ('\\' :: 'u' :: a :: b :: c :: d :: rest)

section Units

variable {a b c d : Char} {unit : Nat} {rest : List Char} (start offset : Nat)

/-- The escape of a unit that no second one joins. -/
theorem stringBody_alone (digits : hex4? a b c d = some unit) (more : rest ≠ [])
    (alone : isHighSurrogate unit = true → pairing unit rest = .alone) :
    stringBody start offset ('\\' :: 'u' :: a :: b :: c :: d :: rest) =
      consRead (unitChar unit) (stringBody start (offset + 6) rest) := by
  obtain ⟨next, rest, rfl⟩ := List.exists_cons_of_ne_nil more
  have pairing : (if isHighSurrogate unit then pairing unit (next :: rest) else .alone) = .alone := by
    split
    · next high => exact alone high
    · rfl
  rw [stringBody]
  simp only [digits, pairing]
  rfl

/-- The escapes of two units that are joined. -/
theorem stringBody_joined (digits : hex4? a b c d = some unit) (high : isHighSurrogate unit = true)
    {a' b' c' d' : Char} {low : Nat} (digits' : hex4? a' b' c' d' = some low) (second : isLowSurrogate low = true)
    (more : rest ≠ []) :
    stringBody start offset ('\\' :: 'u' :: a :: b :: c :: d :: '\\' :: 'u' :: a' :: b' :: c' :: d' :: rest) =
      consRead (joinSurrogates unit low) (stringBody start (offset + 12) rest) := by
  obtain ⟨next, rest, rfl⟩ := List.exists_cons_of_ne_nil more
  rw [stringBody]
  simp only [digits, high, ↓reduceIte, pairing, digits', second]
  rfl

end Units

/-- A text is read up to the quote behind it, and what it stands for does not depend on where it is. -/
def ReadsAs (body text : List Char) : Prop :=
  ∀ start offset rest, stringBody start offset (body ++ '"' :: rest) = .ok (text, ⟨offset + body.length + 1, rest⟩)

theorem ReadsAs.behind {body text : List Char} (reads : ReadsAs body text) (front : List Char) {c : Char}
    (first : ∀ start offset rest,
      stringBody start offset (front ++ (body ++ '"' :: rest)) =
        consRead c (stringBody start (offset + front.length) (body ++ '"' :: rest))) :
    ReadsAs (front ++ body) (c :: text) := by
  intro start offset rest
  rw [List.append_assoc, first, reads, List.length_append]
  simp only [consRead, Except.map, Nat.add_assoc]

theorem quoted_ne_nil (body rest : List Char) : body ++ '"' :: rest ≠ [] :=
  List.append_ne_nil_of_right_ne_nil _ (List.cons_ne_nil _ _)

/-- Contents are read. -/
theorem Content.reads {body : List Char} (content : Content body) : ∃ text, ReadsAs body text := by
  cases content with
  | nil =>
    refine ⟨[], fun start offset rest => ?_⟩
    rw [List.nil_append, stringBody]
    rfl
  | @plain c rest notQuote notMark shown content =>
    obtain ⟨text, reads⟩ := content.reads
    exact ⟨_, reads.behind [c] fun start offset _ => stringBody_plain start offset notQuote notMark shown _⟩
  | @letter letter c rest escape content =>
    obtain ⟨text, reads⟩ := content.reads
    exact ⟨_, reads.behind ['\\', letter] fun start offset _ => stringBody_simple start offset escape _⟩
  | @unit a b c d unit rest digits content =>
    have alone (apart : isHighSurrogate unit = true → ∀ more, pairing unit (rest ++ '"' :: more) = .alone) :
        ∃ text, ReadsAs ('\\' :: 'u' :: a :: b :: c :: d :: rest) text := by
      obtain ⟨text, reads⟩ := content.reads
      exact ⟨_, reads.behind ['\\', 'u', a, b, c, d] fun start offset more =>
        stringBody_alone start offset digits (quoted_ne_nil rest more) fun high => apart high more⟩
    -- only the escape of a low unit may be joined
    cases content with
    | nil => exact alone fun _ _ => rfl
    | plain _ notMark => exact alone fun _ _ => by simp [pairing, notMark]
    | letter escape =>
      refine alone fun _ _ => ?_
      unfold pairing
      split
      · next same => cases (List.cons.inj (List.cons.inj same).2).1 ▸ escape
      · rfl
    | @unit a' b' c' d' low rest digits' content =>
      have second (more : List Char) : pairing unit ('\\' :: 'u' :: a' :: b' :: c' :: d' :: rest ++ '"' :: more) =
          if isLowSurrogate low then .joined (joinSurrogates unit low) else .alone := by
        obtain ⟨next, behind, same⟩ := List.exists_cons_of_ne_nil (quoted_ne_nil rest more)
        simp only [List.cons_append, same, pairing, digits']
      by_cases joined : isHighSurrogate unit = true ∧ isLowSurrogate low = true
      · obtain ⟨text, reads⟩ := content.reads
        exact ⟨_, reads.behind ['\\', 'u', a, b, c, d, '\\', 'u', a', b', c', d'] fun start offset more =>
          stringBody_joined start offset digits joined.1 digits' joined.2 (quoted_ne_nil rest more)⟩
      · refine alone fun high more => ?_
        rw [second, if_neg fun low => joined ⟨high, low⟩]
termination_by body.length

theorem consRead_ok {c : Char} {read : Except Refusal (List Char × Cursor)} {text : List Char} {stop : Cursor}
    (whole : consRead c read = .ok (text, stop)) : ∃ more, read = .ok (more, stop) := by
  cases read with
  | error refusal => cases whole
  | ok found =>
    cases whole
    exact ⟨found.1, rfl⟩

/-- What is joined to a unit is the escape of another. -/
theorem pairing_joined {high : Nat} {text : List Char} {c : Char} (joined : pairing high text = .joined c) :
    ∃ a b c d unit rest, text = '\\' :: 'u' :: a :: b :: c :: d :: rest ∧ hex4? a b c d = some unit := by
  unfold pairing at joined
  split at joined
  · next a b c d next rest =>
    split at joined
    · cases joined
    · next unit digits => exact ⟨a, b, c, d, unit, next :: rest, rfl, digits⟩
  · cases joined

/-- Nothing but contents is read. -/
theorem content_of_stringBody {start offset : Nat} {s text : List Char} {stop : Cursor}
    (read : stringBody start offset s = .ok (text, stop)) : ∃ body, Content body ∧ s = body ++ '"' :: stop.rest := by
  fun_induction stringBody start offset s generalizing text stop with
  | case1 | case3 | case4 | case5 | case8 | case9 | case11 => cases read
  | case2 =>
    cases read
    exact ⟨[], .nil, rfl⟩
  | case6 offset a b c d next rest unit digits joint joined ih =>
    obtain ⟨a', b', c', d', low, behind, same, digits'⟩ : ∃ a b c d unit behind,
        next :: rest = '\\' :: 'u' :: a :: b :: c :: d :: behind ∧ hex4? a b c d = some unit := by
      split at joined
      · exact pairing_joined joined
      · cases joined
    cases same
    obtain ⟨more, read⟩ := consRead_ok read
    obtain ⟨body, content, same⟩ := ih read
    have behind : behind = body ++ '"' :: stop.rest := same
    exact ⟨_, .unit digits (.unit digits' content), by rw [behind]; rfl⟩
  | case7 offset a b c d next rest unit digits alone ih =>
    obtain ⟨more, read⟩ := consRead_ok read
    obtain ⟨body, content, same⟩ := ih read
    exact ⟨_, .unit digits content, by rw [same]; rfl⟩
  | case10 offset letter rest _ _ plain escape ih =>
    obtain ⟨more, read⟩ := consRead_ok read
    obtain ⟨body, content, rfl⟩ := ih read
    exact ⟨_, .letter escape content, rfl⟩
  | case12 offset c rest notQuote last _ _ notMark shown ih =>
    obtain ⟨more, read⟩ := consRead_ok read
    obtain ⟨body, content, rfl⟩ := ih read
    refine ⟨_, .plain notQuote ?_ (Nat.le_of_not_lt shown) content, rfl⟩
    obtain ⟨next, behind, same⟩ := List.exists_cons_of_ne_nil (quoted_ne_nil body stop.rest)
    exact fun mark => notMark next behind mark same

/-! ## Joining and cutting -/

namespace Content

variable {body more : List Char} {c : Char}

theorem append (content : Content body) (behind : Content more) : Content (body ++ more) := by
  induction content with
  | nil => exact behind
  | plain notQuote notMark shown _ ih => exact .plain notQuote notMark shown ih
  | letter escape _ ih => exact .letter escape ih
  | unit digits _ ih => exact .unit digits ih

/-- Whether a character stands for itself in a string. -/
def isPlain (c : Char) : Bool := c ≠ '"' && c ≠ '\\' && 0x20 ≤ c.toNat

theorem of_plain (plain : body.all isPlain = true) : Content body := by
  induction body with
  | nil => exact .nil
  | cons c rest ih =>
    simp only [List.all_cons, isPlain, Bool.and_eq_true, decide_eq_true_eq] at plain
    obtain ⟨⟨⟨notQuote, notMark⟩, shown⟩, others⟩ := plain
    exact .plain notQuote notMark shown (ih others)

/-- The digits of a unit are hexadecimal. -/
theorem hexDigit_of_hex4 {a b c d : Char} {unit : Nat} (digits : hex4? a b c d = some unit) :
    ∀ digit ∈ [a, b, c, d], hexDigit? digit ≠ none := by
  intro digit member none
  simp only [List.mem_cons, List.not_mem_nil, or_false] at member
  rcases member with rfl | rfl | rfl | rfl <;> simp [hex4?, none] at digits

/-- What stands in front and does not hold a character stands before its occurrences. -/
theorem exists_behind (front : List Char) {rest : List Char} (same : body ++ c :: more = front ++ rest)
    (apart : c ∉ front) : ∃ body', body = front ++ body' ∧ rest = body' ++ c :: more := by
  rcases List.append_eq_append_iff.mp same with ⟨middle, rfl, split⟩ | ⟨body', rfl, split⟩
  · cases middle with
    | nil => exact ⟨[], by simp, split.symm⟩
    | cons d middle =>
      obtain ⟨rfl, -⟩ := List.cons.inj split
      exact absurd (List.mem_append_right body (List.mem_cons_self ..)) apart
  · exact ⟨body', rfl, split⟩

/-- A character that is no part of an escape stands between two contents. -/
theorem cut (noLetter : simpleEscape? c = none) (notUnit : c ≠ 'u') (noDigit : hexDigit? c = none)
    (content : Content (body ++ c :: more)) : Content body ∧ Content more := by
  have notMark : c ≠ '\\' := by
    rintro rfl
    cases noLetter
  generalize same : body ++ c :: more = whole at content
  induction content generalizing body with
  | nil => exact absurd same (List.append_ne_nil_of_right_ne_nil _ (List.cons_ne_nil _ _))
  | plain notQuote notMark shown content ih =>
    cases body with
    | nil =>
      cases same
      exact ⟨.nil, content⟩
    | cons d body =>
      obtain ⟨rfl, later⟩ := List.cons.inj same
      obtain ⟨front, behind⟩ := ih later
      exact ⟨.plain notQuote notMark shown front, behind⟩
  | @letter letter plain rest escape content ih =>
    have notLetter : c ≠ letter := by
      rintro rfl
      cases noLetter.symm.trans escape
    obtain ⟨body, rfl, later⟩ := exists_behind ['\\', letter] same (by simp [notMark, notLetter])
    obtain ⟨front, behind⟩ := ih later.symm
    exact ⟨.letter escape front, behind⟩
  | @unit a b c' d unit rest digits content ih =>
    have noPart : c ∉ [a, b, c', d] := fun member => hexDigit_of_hex4 digits c member noDigit
    obtain ⟨body, rfl, later⟩ := exists_behind ('\\' :: 'u' :: [a, b, c', d]) same
      (List.not_mem_cons_of_ne_of_not_mem notMark (List.not_mem_cons_of_ne_of_not_mem notUnit noPart))
    obtain ⟨front, behind⟩ := ih later.symm
    exact ⟨.unit digits front, behind⟩

end Content

end EditorAssist.Json.Parser

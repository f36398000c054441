import EditorAssist.Proofs.Json.Contents
import EditorAssist.Proofs.Json.Scalars
import EditorAssist.Proofs.Settings.Documents
import Mathlib.Data.List.TakeWhile

/-!
# Tokens in their place

How tokens are written, and that the tokens in front of a quote do not depend on what follows it.
-/

namespace EditorAssist.Settings.Commented

open EditorAssist.Json
open EditorAssist.Json.Parser (Apart Content IsScalar hexDigit? hex4? isScalarChar takeWhile_apart ne_of_apart
  isPrefixOf_apart isScalarChar_of_isDigit)

/-! ## Strings -/

theorem stringTail_quote (rest : List Char) : stringTail ('"' :: rest) = some ['"'] := by
  cases rest <;> rfl

theorem stringTail_plain {c : Char} (notQuote : c ≠ '"') (notNewline : c ≠ '\n') (notMark : c ≠ '\\')
    (rest : List Char) : stringTail (c :: rest) = (stringTail rest).map (c :: ·) := by
  cases rest <;> simp [stringTail, notQuote, notNewline, notMark]

theorem stringTail_mark {escaped : Char} (notNewline : escaped ≠ '\n') (rest : List Char) :
    stringTail ('\\' :: escaped :: rest) = (stringTail rest).map ('\\' :: escaped :: ·) := by
  simp [stringTail, notNewline]

/-- The characters of a string are the same whatever follows it. -/
theorem exists_of_stringTail {text tail : List Char} (found : stringTail text = some tail) :
    ∃ rest, text = tail ++ rest ∧ ∀ more, stringTail (tail ++ more) = some tail := by
  fun_induction stringTail text generalizing tail with
  | case1 | case3 | case4 | case5 => cases found
  | case2 rest =>
    cases found
    exact ⟨rest, rfl, stringTail_quote⟩
  | case6 escaped more notNewline _ _ ih =>
    obtain ⟨tail, there, rfl⟩ := Option.map_eq_some_iff.mp found
    obtain ⟨rest, rfl, same⟩ := ih there
    refine ⟨rest, rfl, fun more => ?_⟩
    rw [List.cons_append, List.cons_append, stringTail_mark notNewline, same, Option.map_some]
  | case7 c more notQuote notNewline notMark ih =>
    obtain ⟨tail, there, rfl⟩ := Option.map_eq_some_iff.mp found
    obtain ⟨rest, rfl, same⟩ := ih there
    refine ⟨rest, rfl, fun more => ?_⟩
    rw [List.cons_append, stringTail_plain notQuote notNewline notMark, same, Option.map_some]

/-- Contents are the characters of a string. -/
theorem stringTail_content {body : List Char} (content : Content body) (rest : List Char) :
    stringTail (body ++ '"' :: rest) = some (body ++ ['"']) := by
  induction content with
  | nil => exact stringTail_quote rest
  | @plain c body notQuote notMark shown content ih =>
    have notNewline : c ≠ '\n' := by
      rintro rfl
      exact absurd shown (by decide)
    rw [List.cons_append, stringTail_plain notQuote notNewline notMark, ih]
    rfl
  | @letter letter c body escape content ih =>
    have notNewline : letter ≠ '\n' := by
      rintro rfl
      cases escape
    rw [List.cons_append, List.cons_append, stringTail_mark notNewline, ih]
    rfl
  | @unit a b c d unit body digits content ih =>
    have hex := Parser.Content.hexDigit_of_hex4 digits
    have digit {c : Char} (hex : hexDigit? c ≠ none) (rest : List Char) :
        stringTail (c :: rest) = (stringTail rest).map (c :: ·) := by
      refine stringTail_plain ?_ ?_ ?_ rest <;> rintro rfl <;> exact hex rfl
    simp only [List.mem_cons, List.not_mem_nil, or_false, forall_eq_or_imp, forall_eq] at hex
    obtain ⟨first, second, third, fourth⟩ := hex
    simp only [List.cons_append, stringTail_mark (by decide : 'u' ≠ '\n'), digit first, digit second, digit third,
      digit fourth, ih, Option.map_some]

/-! ## Numbers and words -/

section Scalars

variable (text : List Char) {rest : List Char}

/-- What stands apart starts with neither of two characters of numbers and words. -/
theorem neither_of_apart {c first second : Char} (apart : Apart (c :: rest)) (one : isScalarChar first = true)
    (other : isScalarChar second = true) : ¬(c = first || c = second) = true := by
  rw [Bool.or_eq_true, decide_eq_true_eq, decide_eq_true_eq]
  rintro (rfl | rfl)
  · exact Parser.not_apart_cons one apart
  · exact Parser.not_apart_cons other apart

theorem digits_apart (apart : Apart rest) :
    (text ++ rest).takeWhile isDigit = text.takeWhile isDigit ∧
      (text ++ rest).dropWhile isDigit = text.dropWhile isDigit ++ rest :=
  takeWhile_apart text (fun _ => isScalarChar_of_isDigit) apart

theorem scalar_of_mem_digits {text : List Char} {c : Char} (member : c ∈ text.takeWhile isDigit) :
    isScalarChar c = true :=
  isScalarChar_of_isDigit (List.mem_takeWhile_imp member)

/-- The sign of an exponent and what follows it. -/
def takeSign (text : List Char) : List Char × List Char :=
  match text with
  | c :: more => if c = '+' || c = '-' then ([c], more) else ([], text)
  | [] => ([], text)

theorem exponentPart_cons (mark : Char) (text : List Char) :
    exponentPart (mark :: text) =
      if mark = 'e' || mark = 'E' then
        if ((takeSign text).2.takeWhile isDigit).isEmpty then []
        else mark :: (takeSign text).1 ++ (takeSign text).2.takeWhile isDigit
      else [] := rfl

/-- A number behind its whole digits. -/
def fractionPart (whole text : List Char) : List Char :=
  match text with
  | '.' :: rest =>
    let fraction := rest.takeWhile isDigit
    if whole.isEmpty && fraction.isEmpty then []
    else whole ++ '.' :: fraction ++ exponentPart (rest.dropWhile isDigit)
  | rest => if whole.isEmpty then [] else whole ++ exponentPart rest

theorem unsignedNumber_eq (text : List Char) :
    unsignedNumber text = fractionPart (text.takeWhile isDigit) (text.dropWhile isDigit) := rfl

theorem takeSign_apart (apart : Apart rest) :
    takeSign (text ++ rest) = ((takeSign text).1, (takeSign text).2 ++ rest) := by
  cases text with
  | nil =>
    cases rest with
    | nil => rfl
    | cons c rest => exact if_neg (neither_of_apart apart rfl rfl)
  | cons c text =>
    rw [List.cons_append, takeSign, takeSign]
    split <;> rfl

theorem exponentPart_apart (apart : Apart rest) : exponentPart (text ++ rest) = exponentPart text := by
  cases text with
  | nil =>
    cases rest with
    | nil => rfl
    | cons c rest => exact if_neg (neither_of_apart apart rfl rfl)
  | cons mark text =>
    rw [List.cons_append, exponentPart_cons, exponentPart_cons, takeSign_apart _ apart]
    rw [(digits_apart _ apart).1]

theorem fractionPart_apart (whole : List Char) (apart : Apart rest) :
    fractionPart whole (text ++ rest) = fractionPart whole text := by
  have none {c : Char} (other : c ≠ '.') (text : List Char) :
      fractionPart whole (c :: text) = if whole.isEmpty then [] else whole ++ exponentPart (c :: text) := by
    unfold fractionPart
    split
    · next same => exact absurd (List.cons.inj same).1 other
    · rfl
  cases text with
  | nil =>
    cases rest with
    | nil => rfl
    | cons c rest =>
      have other : c ≠ '.' := by
        rintro rfl
        exact Parser.not_apart_cons rfl apart
      have noExponent := exponentPart_apart [] apart
      rw [List.nil_append] at noExponent ⊢
      rw [none other, noExponent]
      rfl
  | cons c text =>
    by_cases point : c = '.'
    · subst point
      obtain ⟨taken, dropped⟩ := digits_apart text apart
      rw [List.cons_append, fractionPart, fractionPart, taken, dropped, exponentPart_apart _ apart]
    · have exponent := exponentPart_apart (c :: text) apart
      rw [List.cons_append] at exponent ⊢
      rw [none point, none point, exponent]

theorem unsignedNumber_apart (apart : Apart rest) : unsignedNumber (text ++ rest) = unsignedNumber text := by
  obtain ⟨taken, dropped⟩ := digits_apart text apart
  rw [unsignedNumber_eq, unsignedNumber_eq, taken, dropped, fractionPart_apart _ _ apart]

/-- A number is the same wherever it stands. -/
theorem number_apart (apart : Apart rest) : number (text ++ rest) = number text := by
  cases text with
  | nil =>
    cases rest with
    | nil => rfl
    | cons c rest =>
      exact (if_neg (neither_of_apart apart rfl rfl)).trans (unsignedNumber_apart [] apart)
  | cons c text =>
    have unsigned := unsignedNumber_apart (c :: text) apart
    rw [List.cons_append] at unsigned ⊢
    rw [number, number, unsignedNumber_apart _ apart, unsigned]

variable {text}

theorem takeSign_scalar {c : Char} (member : c ∈ (takeSign text).1) : isScalarChar c = true := by
  unfold takeSign at member
  split at member
  · split at member
    · next sign =>
      obtain rfl := List.mem_singleton.mp member
      rw [Bool.or_eq_true, decide_eq_true_eq, decide_eq_true_eq] at sign
      rcases sign with rfl | rfl <;> rfl
    · cases member
  · cases member

theorem exponentPart_scalar {c : Char} (member : c ∈ exponentPart text) : isScalarChar c = true := by
  cases text with
  | nil => cases member
  | cons mark text =>
    rw [exponentPart_cons] at member
    split at member
    · next exponent =>
      split at member
      · cases member
      · rcases List.mem_append.mp member with front | digit
        · rcases List.mem_cons.mp front with rfl | sign
          · rw [Bool.or_eq_true, decide_eq_true_eq, decide_eq_true_eq] at exponent
            rcases exponent with rfl | rfl <;> rfl
          · exact takeSign_scalar sign
        · exact scalar_of_mem_digits digit
    · cases member

theorem fractionPart_scalar {whole : List Char} (digits : ∀ c ∈ whole, isScalarChar c = true) {c : Char}
    (member : c ∈ fractionPart whole text) : isScalarChar c = true := by
  unfold fractionPart at member
  split at member
  · dsimp only at member
    split at member
    · cases member
    · simp only [List.mem_append, List.mem_cons] at member
      rcases member with (digit | rfl | digit) | exponent
      · exact digits c digit
      · rfl
      · exact scalar_of_mem_digits digit
      · exact exponentPart_scalar exponent
  · split at member
    · cases member
    · rcases List.mem_append.mp member with digit | exponent
      · exact digits c digit
      · exact exponentPart_scalar exponent

theorem number_scalar {c : Char} (member : c ∈ number text) : isScalarChar c = true := by
  have unsigned {text : List Char} (member : c ∈ unsignedNumber text) : isScalarChar c = true :=
    fractionPart_scalar (fun _ => scalar_of_mem_digits) member
  unfold number at member
  split at member
  · split at member
    · next sign =>
      dsimp only at member
      split at member
      · cases member
      · rcases List.mem_cons.mp member with rfl | digit
        · rw [Bool.or_eq_true, decide_eq_true_eq, decide_eq_true_eq] at sign
          rcases sign with rfl | rfl <;> rfl
        · exact unsigned digit
    · exact unsigned member
  · cases member

/-- The word or number that a text starts with. -/
def scalarPiece? (text : List Char) : Option (Piece × Nat) :=
  match words.find? (·.isPrefixOf text) with
  | some word => some (.token .scalar word, word.length)
  | none =>
    let digits := number text
    if digits.isEmpty then none else some (.token .scalar digits, digits.length)

theorem words_scalar : ∀ word ∈ words, IsScalar word := by
  have all : words.all (fun word => word ≠ [] && word.all isScalarChar) = true := by decide
  simpa only [IsScalar, List.all_eq_true, Bool.and_eq_true, decide_eq_true_eq] using all

theorem scalarPiece?_apart (text : List Char) (apart : Apart rest) :
    scalarPiece? (text ++ rest) = scalarPiece? text := by
  have search : words.find? (·.isPrefixOf (text ++ rest)) = words.find? (·.isPrefixOf text) :=
    List.find?_congr fun word member => isPrefixOf_apart text (words_scalar word member).2 apart
  rw [scalarPiece?, scalarPiece?, search, number_apart text apart]

theorem scalarPiece?_written {kind : Kind} {written : List Char} {size : Nat}
    (found : scalarPiece? text = some (.token kind written, size)) : kind = .scalar ∧ IsScalar written := by
  unfold scalarPiece? at found
  split at found
  · next there =>
    cases found
    exact ⟨rfl, words_scalar _ (List.mem_of_find?_eq_some there)⟩
  · obtain ⟨some, same⟩ := Option.ite_none_left_eq_some.mp found
    cases same
    exact ⟨rfl, mt List.isEmpty_iff.mpr some, fun _ => number_scalar⟩

end Scalars

/-! ## Tokens -/

/-- How a token is written. -/
def Token.Written : Token → Prop
  | .text written => ∃ tail, written = '"' :: tail ∧ stringTail tail = some tail
  | .scalar written => IsScalar written
  | _ => True

theorem piece?_written {text written : List Char} {kind : Kind} {size : Nat}
    (found : piece? text = some (.token kind written, size)) : (Token.of kind written).Written := by
  unfold piece? at found
  split at found
  case h_1 | h_9 | h_10 => cases found
  case h_8 rest =>
    obtain ⟨tail, there, same⟩ := Option.map_eq_some_iff.mp found
    cases same
    obtain ⟨-, -, reads⟩ := exists_of_stringTail there
    exact ⟨tail, rfl, (congrArg stringTail (List.append_nil tail)).symm.trans (reads [])⟩
  case h_11 c rest _ _ _ _ _ _ _ _ _ =>
    dsimp only at found
    split at found
    · cases found
    · obtain ⟨rfl, scalar⟩ := scalarPiece?_written found
      exact scalar
  all_goals
    cases found
    trivial

/-- The tokens of a text are written as tokens are. -/
theorem lex_written (text : List Char) : ∀ token ∈ (lex text).1, token.Written := by
  fun_induction lex text with
  | case1 => nofun
  | case2 => nofun
  | case3 c rest size blank ih => exact ih
  | case4 c rest kind written size found tokens whole more ih =>
    rw [more] at ih
    intro token member
    rcases List.mem_cons.mp member with rfl | later
    · exact piece?_written found
    · exact ih token later

/-- A comment that ends before a quote does not depend on what follows the quote. -/
theorem comment_local (front : List Char) {rest : List Char}
    (before : ((front ++ '"' :: rest).takeWhile (· ≠ '\n')).length ≤ front.length) (rest' : List Char) :
    commentPiece (front ++ '"' :: rest') = commentPiece (front ++ '"' :: rest) := by
  rw [commentPiece, commentPiece, List.takeWhile_append, List.takeWhile_append]
  rw [List.takeWhile_append] at before
  split at before
  · rw [List.length_append, List.takeWhile_cons_of_pos (by decide), List.length_cons] at before
    omega
  · next ends => rw [if_neg ends, if_neg ends]

/-- A piece in front of a quote does not depend on what follows the quote. -/
theorem piece?_local {c : Char} {front rest : List Char} {piece : Piece} {size : Nat}
    (found : piece? (c :: (front ++ '"' :: rest)) = some (piece, size)) (before : size ≤ front.length + 1)
    (rest' : List Char) : piece? (c :: (front ++ '"' :: rest')) = some (piece, size) := by
  unfold piece? at found
  split at found
  case h_1 same => cases same
  case h_8 text same =>
    cases same
    obtain ⟨tail, there, same⟩ := Option.map_eq_some_iff.mp found
    cases same
    obtain ⟨behind, split, reads⟩ := exists_of_stringTail there
    obtain ⟨more, rfl⟩ := List.prefix_of_prefix_length_le (split ▸ List.prefix_append tail behind)
      (List.prefix_append front ('"' :: rest)) (Nat.le_of_succ_le_succ before)
    have string := reads (more ++ '"' :: rest')
    rw [← List.append_assoc] at string
    exact congrArg (Option.map _) string
  case h_9 text same =>
    cases same
    cases found
    exact congrArg some (comment_local ('#' :: front) before rest')
  case h_10 text same =>
    obtain ⟨rfl, slash⟩ := List.cons.inj same
    cases front with
    | nil => cases slash
    | cons d front =>
      obtain ⟨rfl, rfl⟩ := List.cons.inj slash
      cases found
      exact congrArg some (comment_local ('/' :: '/' :: front) before rest')
  case h_11 d text _ _ _ _ _ _ _ _ noComment same =>
    obtain ⟨rfl, rfl⟩ := List.cons.inj same
    have apart (rest : List Char) : Apart ('"' :: rest) := by
      rintro _ ⟨⟩
      rfl
    have scalar := (scalarPiece?_apart (c :: front) (apart rest)).symm
    rw [← scalarPiece?_apart _ (apart rest')] at scalar
    have noComment' : ∀ tail, c = '/' → front ++ '"' :: rest' = '/' :: tail → False := by
      rintro tail rfl slash
      cases front with
      | nil => cases slash
      | cons d front =>
        obtain ⟨rfl, -⟩ := List.cons.inj slash
        exact noComment _ rfl rfl
    rw [piece?]
    · show (if isSpace c then some (.blank, 1) else scalarPiece? (c :: front ++ '"' :: rest')) = some (piece, size)
      rw [scalar]
      exact found
    all_goals assumption
  all_goals
    next same =>
    cases same
    exact found

/-! ## Reading up to a quote -/

/-- Reading some tokens of a text leads to what follows them. -/
inductive Leads : List Char → List Token → List Char → Prop
  | here (text : List Char) : Leads text [] text
  | blank {c : Char} {text rest : List Char} {size : Nat} {tokens : List Token}
      (found : piece? (c :: text) = some (.blank, size)) (later : Leads (text.drop (size - 1)) tokens rest) :
      Leads (c :: text) tokens rest
  | token {c : Char} {text rest written : List Char} {kind : Kind} {size : Nat} {tokens : List Token}
      (found : piece? (c :: text) = some (.token kind written, size))
      (later : Leads (text.drop (size - 1)) tokens rest) : Leads (c :: text) (.of kind written :: tokens) rest

namespace Leads

variable {text front rest : List Char} {tokens : List Token}

/-- The tokens of a text are those that lead to a place and those behind it. -/
theorem lex_eq (leads : Leads text tokens rest) : lex text = (tokens ++ (lex rest).1, (lex rest).2) := by
  induction leads with
  | here => rfl
  | blank found _ ih => rw [lex, found, ← ih]
  | token found _ ih =>
    rw [lex, found]
    dsimp only
    rw [ih]
    rfl

theorem length_le (leads : Leads text tokens rest) : rest.length ≤ text.length := by
  induction leads with
  | here => exact Nat.le_refl _
  | blank _ _ ih | token _ _ ih =>
    rw [List.length_drop] at ih
    rw [List.length_cons]
    omega

/-- A piece from behind which a text leads to a quote ends before the quote. -/
theorem piece_before {c : Char} {size : Nat} (whole : front ++ '"' :: rest = c :: text)
    (later : Leads (text.drop (size - 1)) tokens ('"' :: rest)) :
    ∃ front', front = c :: front' ∧ text = front' ++ '"' :: rest ∧ size ≤ front'.length + 1 ∧
      text.drop (size - 1) = front'.drop (size - 1) ++ '"' :: rest := by
  have left := later.length_le
  rw [List.length_drop, List.length_cons] at left
  cases front with
  | nil =>
    obtain ⟨-, rfl⟩ := List.cons.inj whole
    omega
  | cons d front' =>
    rw [List.cons_append] at whole
    obtain ⟨rfl, rfl⟩ := List.cons.inj whole
    rw [List.length_append, List.length_cons] at left
    exact ⟨front', rfl, rfl, by omega, List.drop_append_of_le_length (by omega)⟩

/-- What leads to a quote leads there whatever follows the quote. -/
theorem change (leads : Leads (front ++ '"' :: rest) tokens ('"' :: rest)) (rest' : List Char) :
    Leads (front ++ '"' :: rest') tokens ('"' :: rest') := by
  generalize whole : front ++ '"' :: rest = text at leads
  generalize target : '"' :: rest = place at leads
  induction leads generalizing front with
  | here text =>
    subst target
    obtain rfl : front = [] := by simpa using whole
    exact .here _
  | blank found later ih =>
    subst target
    obtain ⟨front, rfl, rfl, before, dropped⟩ := piece_before whole later
    have further := ih dropped.symm rfl
    rw [← List.drop_append_of_le_length (by omega)] at further
    exact .blank (piece?_local found before rest') further
  | token found later ih =>
    subst target
    obtain ⟨front, rfl, rfl, before, dropped⟩ := piece_before whole later
    have further := ih dropped.symm rfl
    rw [← List.drop_append_of_le_length (by omega)] at further
    exact .token (piece?_local found before rest') further

end Leads

end EditorAssist.Settings.Commented

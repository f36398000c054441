import EditorAssist.Proofs.Settings.Tokens

/-!
# Documents read part by part

What a document stands for is settled by its parts: strings, numbers and words by themselves, arrays and objects by what
stands in them. `parse_plain` says that its text without spare commas is read so.
-/

namespace EditorAssist.Settings.Commented

open EditorAssist.Json
open EditorAssist.Json.Parser

/-! ## Values of documents -/

/-- The key that a string stands for. -/
def key? (written : List Char) : Option String := (Json.parse written).toOption.bind Value.str?

mutual

/-- The value of a document, if all that stands in it is JSON. -/
def Node.value? : Node → Option Value
  | .text written => (Json.parse written).toOption
  | .scalar written => (Json.parse written).toOption
  | .array items _ => items.values?.map .arr
  | .object members _ => members.pairs?.map fun pairs => .obj (Entries.ofPairs pairs)

def Items.values? : Items → Option (List Value)
  | .nil => some []
  | .cons item rest => item.value?.bind fun v => rest.values?.map (v :: ·)

def Members.pairs? : Members → Option (List (String × Value))
  | .nil => some []
  | .cons key item rest => (key? key).bind fun k => item.value?.bind fun v => rest.pairs?.map ((k, v) :: ·)

end

/-! ## Strings -/

section Strings

variable {tail : List Char}

/-- What a quote begins is read as a string. -/
theorem value_quote (fuel depth offset : Nat) (rest : List Char) :
    value (fuel + 1) depth ⟨offset, '"' :: rest⟩ =
      (stringBody offset (offset + 1) rest).map fun found => (.str (String.ofList found.1), found.2) := by
  rw [value]
  rfl

/-- A string is refused wherever it stands, or read up to its closing quote. -/
theorem string_cases (closes : stringTail tail = some tail) :
    (∃ text, Json.parse ('"' :: tail) = .ok (.str (String.ofList text)) ∧ ∀ start offset rest,
      stringBody start offset (tail ++ rest) = .ok (text, ⟨offset + tail.length, rest⟩)) ∨
    (Json.parse ('"' :: tail)).toOption = none ∧ ∀ start offset rest,
      ∃ refusal, stringBody start offset (tail ++ rest) = .error refusal := by
  have whole := parse_cons (c := '"') rfl (by decide) tail
  by_cases sound : ∃ body, Content body ∧ tail = body ++ ['"']
  · obtain ⟨body, content, rfl⟩ := sound
    obtain ⟨text, reads⟩ := content.reads
    have here (start offset : Nat) (rest : List Char) :
        stringBody start offset (body ++ ['"'] ++ rest) = .ok (text, ⟨offset + (body ++ ['"']).length, rest⟩) := by
      rw [List.append_assoc, List.length_append]
      exact reads start offset rest
    refine .inl ⟨text, ?_, here⟩
    have alone := here 0 1 []
    rw [List.append_nil] at alone
    rw [whole, value_quote, alone]
    rfl
  · have refused (start offset : Nat) (rest : List Char) :
        ∃ refusal, stringBody start offset (tail ++ rest) = .error refusal := by
      cases found : stringBody start offset (tail ++ rest) with
      | error refusal => exact ⟨refusal, rfl⟩
      | ok result =>
        obtain ⟨text, stop⟩ := result
        obtain ⟨body, content, same⟩ := content_of_stringBody found
        obtain ⟨-, -, ends⟩ := exists_of_stringTail closes
        have closed := stringTail_content content stop.rest
        rw [← same, ends] at closed
        exact absurd ⟨body, content, Option.some.inj closed⟩ sound
    refine .inr ⟨?_, refused⟩
    obtain ⟨refusal, alone⟩ := refused 0 1 []
    rw [List.append_nil] at alone
    rw [whole, value_quote, alone]
    rfl

/-- A string that is JSON is read wherever it stands. -/
theorem gives_text (closes : stringTail tail = some tail) (fuel depth offset : Nat) (rest : List Char) :
    Gives (value (fuel + 1) depth ⟨offset, '"' :: tail ++ rest⟩) rest (Json.parse ('"' :: tail)).toOption := by
  rw [List.cons_append, value_quote]
  rcases string_cases closes with ⟨text, parsed, reads⟩ | ⟨none, refused⟩
  · rw [parsed, reads]
    exact ⟨_, rfl⟩
  · obtain ⟨refusal, here⟩ := refused offset (offset + 1) rest
    rw [none, here]
    nofun

end Strings

/-! ## Arrays -/

/-- All tokens of a document are written as tokens are. -/
def Node.Written (d : Node) : Prop := ∀ token ∈ d.tokens, token.Written

theorem Spells.written {text : List Char} {d : Node} (spells : Spells text d) : d.Written := by
  intro token member
  have tokens : (lex text).1 = d.tokens := congrArg Prod.fst spells
  exact lex_written text token (tokens ▸ member)

/-- A document starts with a character of its own. -/
theorem Node.front {d : Node} (written : d.Written) :
    ∃ c more, d.plain = c :: more ∧ Parser.isSpace c = false ∧ c ≠ ']' ∧ c ≠ Char.ofNat 0xFEFF := by
  cases d with
  | text written' =>
    obtain ⟨tail, rfl, -⟩ := written _ (List.mem_singleton_self _)
    exact ⟨'"', tail, rfl, rfl, by decide, by decide⟩
  | scalar written' =>
    obtain ⟨c, more, rfl, scalar⟩ := (written _ (List.mem_singleton_self _) : IsScalar written').front
    refine ⟨c, more, rfl, isSpace_of_isScalarChar scalar, ?_, ?_⟩ <;> rintro rfl <;> exact absurd scalar (by decide)
  | array items comma => exact ⟨'[', _, rfl, rfl, by decide, by decide⟩
  | object members comma => exact ⟨'\x7b', _, rfl, rfl, by decide, by decide⟩

/-! ## Items and members, one at a time -/

section Steps

variable {fuel depth offset : Nat} {rest text : List Char} {c : Char} {found : Option Value}

/-- An item that is no value ends an array. -/
theorem elements_refused {behind : List Char} (gives : Gives (value fuel depth ⟨offset, text⟩) behind none) :
    ∃ refusal, elements (fuel + 1) depth ⟨offset, text⟩ = .error refusal := by
  cases read : value fuel depth ⟨offset, text⟩ with
  | error refusal => exact ⟨refusal, elements_error read⟩
  | ok result =>
    obtain ⟨c, more, same, goesOn⟩ := exists_of_not_apart (gives _ _ read)
    rw [elements, read]
    simp only [bind, Except.bind, same, skipSpace_of_not (isSpace_of_isScalarChar goesOn)]
    split
    · next ends =>
      cases ends
      cases goesOn
    · next ends =>
      cases ends
      cases goesOn
    · exact ⟨_, rfl⟩

theorem yields_item_last (gives : Gives (value fuel depth ⟨offset, text⟩) (']' :: rest) found) :
    Yields (elements (fuel + 1) depth ⟨offset, text⟩) rest (found.bind fun v => some [v]) := by
  cases found with
  | none => exact elements_refused gives
  | some v =>
    obtain ⟨stop, read⟩ := gives
    exact ⟨stop + 1, elements_last read⟩

theorem yields_item_next {next : List Char} {more : Option (List Value)}
    (gives : Gives (value fuel depth ⟨offset, text⟩) (',' :: c :: next) found) (visible : Parser.isSpace c = false)
    (later : ∀ stop, Yields (elements fuel depth ⟨stop, c :: next⟩) rest more) :
    Yields (elements (fuel + 1) depth ⟨offset, text⟩) rest (found.bind fun v => more.map (v :: ·)) := by
  cases found with
  | none => exact elements_refused gives
  | some v =>
    obtain ⟨stop, read⟩ := gives
    rw [elements_next read visible]
    exact (later (stop + 1)).map (v :: ·)

section Keys

variable {written key : List Char} {place : Nat}
  (named : stringBody offset (offset + 1) written = .ok (key, ⟨place, ':' :: c :: text⟩))
  (visible : Parser.isSpace c = false)

include named visible

/-- A member whose value is none ends an object. -/
theorem members_refused {behind : List Char} (gives : Gives (value fuel depth ⟨place + 1, c :: text⟩) behind none) :
    ∃ refusal, members (fuel + 1) depth ⟨offset, '"' :: written⟩ = .error refusal := by
  cases read : value fuel depth ⟨place + 1, c :: text⟩ with
  | error refusal => exact ⟨refusal, members_of_error named visible read⟩
  | ok result =>
    obtain ⟨d, more, same, goesOn⟩ := exists_of_not_apart (gives _ _ read)
    simp only [members, named, bind, Except.bind, skipSpace_of_not (by rfl : Parser.isSpace ':' = false),
      skipSpace_of_not visible, read, same, skipSpace_of_not (isSpace_of_isScalarChar goesOn)]
    split
    · next ends =>
      cases ends
      cases goesOn
    · next ends =>
      cases ends
      cases goesOn
    · exact ⟨_, rfl⟩

theorem yields_member_last (gives : Gives (value fuel depth ⟨place + 1, c :: text⟩) ('\x7d' :: rest) found) :
    Yields (members (fuel + 1) depth ⟨offset, '"' :: written⟩) rest
      (found.bind fun v => some [(String.ofList key, v)]) := by
  cases found with
  | none => exact members_refused named visible gives
  | some v =>
    obtain ⟨stop, read⟩ := gives
    exact ⟨stop + 1, members_of_last named visible read⟩

theorem yields_member_next {next : List Char} {more : Option (List (String × Value))}
    (gives : Gives (value fuel depth ⟨place + 1, c :: text⟩) (',' :: '"' :: next) found)
    (later : ∀ stop, Yields (members fuel depth ⟨stop, '"' :: next⟩) rest more) :
    Yields (members (fuel + 1) depth ⟨offset, '"' :: written⟩) rest
      (found.bind fun v => more.map ((String.ofList key, v) :: ·)) := by
  cases found with
  | none => exact members_refused named visible gives
  | some v =>
    obtain ⟨stop, read⟩ := gives
    rw [members_of_next named visible read]
    exact (later (stop + 1)).map ((String.ofList key, v) :: ·)

end Keys

end Steps

/-! ## Documents -/

/-- What follows a part of an array or object is no number and no word. -/
theorem apart_of_mark {c : Char} (mark : isScalarChar c = false) (rest : List Char) : Apart (c :: rest) := by
  rintro _ ⟨⟩
  exact mark

/-- All tokens of items are written as tokens are. -/
def Items.Written (items : Items) : Prop := ∀ token ∈ items.tokens false, token.Written

def Members.Written (entries : Members) : Prop := ∀ token ∈ entries.tokens false, token.Written

section Rows

variable {d next : Node} {name name' : List Char}

theorem Items.Written.item {more : Items} (written : (Items.cons d more).Written) : d.Written :=
  fun token member => written token (by simp [Items.tokens, member])

theorem Items.Written.rest {after : Items} (written : (Items.cons d (.cons next after)).Written) :
    (Items.cons next after).Written := by
  have comma : (Items.cons next after).tokens true = .comma :: (Items.cons next after).tokens false := by
    simp [Items.tokens, commaIf]
  exact fun token member => written token (by rw [Items.tokens, comma]; simp [member])

theorem Members.Written.key {more : Members} (written : (Members.cons name d more).Written) :
    ∃ tail, name = '"' :: tail ∧ stringTail tail = some tail :=
  written (.text name) (by simp [Members.tokens])

theorem Members.Written.item {more : Members} (written : (Members.cons name d more).Written) : d.Written :=
  fun token member => written token (by simp [Members.tokens, member])

theorem Members.Written.rest {after : Members} (written : (Members.cons name d (.cons name' next after)).Written) :
    (Members.cons name' next after).Written := by
  have comma : (Members.cons name' next after).tokens true =
      .comma :: (Members.cons name' next after).tokens false := by simp [Members.tokens, commaIf]
  exact fun token member => written token (by rw [Members.tokens, comma]; simp [member])

theorem Items.front {more : Items} (written : (Items.cons d more).Written) (rest : List Char) :
    ∃ c text, (Items.cons d more).plain false ++ rest = c :: text ∧ Parser.isSpace c = false ∧ c ≠ ']' := by
  obtain ⟨c, text, front, visible, starts, -⟩ := d.front written.item
  refine ⟨c, text ++ more.plain true ++ rest, ?_, visible, starts⟩
  rw [Items.plain, front]
  rfl

theorem Members.front {more : Members} (written : (Members.cons name d more).Written) (rest : List Char) :
    ∃ text, (Members.cons name d more).plain false ++ rest = '"' :: text := by
  obtain ⟨tail, rfl, -⟩ := written.key
  exact ⟨_, rfl⟩

end Rows

mutual

/-- A document is read in its place if all that stands in it is JSON. -/
theorem Node.gives (d : Node) (written : d.Written) {fuel depth : Nat} (shallow : d.depth ≤ depth)
    (enough : d.plain.length ≤ fuel) (offset : Nat) (rest : List Char) (apart : Apart rest) :
    Gives (value fuel depth ⟨offset, d.plain ++ rest⟩) rest d.value? := by
  obtain ⟨fuel, rfl⟩ : ∃ less, fuel = less + 1 := by
    obtain ⟨c, more, front, -⟩ := d.front written
    rw [front, List.length_cons] at enough
    exact ⟨fuel - 1, by omega⟩
  cases d with
  | text own =>
    obtain ⟨tail, rfl, closes⟩ := written _ (List.mem_singleton_self _)
    exact gives_text closes fuel depth offset rest
  | scalar own => exact gives_scalar (written _ (List.mem_singleton_self _)) fuel depth offset apart
  | array items comma =>
    rw [Node.depth, Container.weight] at shallow
    obtain ⟨depth, rfl⟩ : ∃ less, depth = less + 1 := ⟨depth - 1, by omega⟩
    have plain : (Node.array items comma).plain ++ rest = '[' :: (items.plain false ++ ']' :: rest) := by
      simp [Node.plain]
    have length : (Node.array items comma).plain.length = (items.plain false).length + 2 := by
      simp [Node.plain]
    have within : items.Written := fun token member => written token (by simp [Node.tokens, member])
    rw [plain, Node.value?]
    cases items with
    | nil => exact ⟨_, value_empty_arr⟩
    | cons item more =>
      have yields := (Items.cons item more).yields nofun within (by omega : _ ≤ depth) (by omega : _ < fuel)
        (offset + 1) rest
      obtain ⟨c, text, front, visible, starts⟩ := Items.front within (']' :: rest)
      rw [front] at yields ⊢
      rw [value_bracket visible starts]
      exact (yields.map Value.arr).gives
  | object entries comma =>
    rw [Node.depth, Container.weight] at shallow
    obtain ⟨depth, rfl⟩ : ∃ less, depth = less + 1 := ⟨depth - 1, by omega⟩
    have plain : (Node.object entries comma).plain ++ rest = '\x7b' :: (entries.plain false ++ '\x7d' :: rest) := by
      simp [Node.plain]
    have length : (Node.object entries comma).plain.length = (entries.plain false).length + 2 := by
      simp [Node.plain]
    have within : entries.Written := fun token member => written token (by simp [Node.tokens, member])
    rw [plain, Node.value?]
    cases entries with
    | nil => exact ⟨_, value_empty_obj⟩
    | cons key item more =>
      have yields := (Members.cons key item more).yields nofun within (by omega : _ ≤ depth) (by omega : _ < fuel)
        (offset + 1) rest
      obtain ⟨text, front⟩ := Members.front within ('\x7d' :: rest)
      rw [front] at yields ⊢
      rw [value_brace]
      exact (yields.map fun pairs => Value.obj (Entries.ofPairs pairs)).gives

/-- The items of an array are read up to its end. -/
theorem Items.yields (items : Items) (some : items ≠ .nil) (written : items.Written) {fuel depth : Nat}
    (shallow : items.depth ≤ depth) (enough : (items.plain false).length < fuel) (offset : Nat) (rest : List Char) :
    Yields (elements fuel depth ⟨offset, items.plain false ++ ']' :: rest⟩) rest items.values? := by
  obtain ⟨fuel, rfl⟩ : ∃ less, fuel = less + 1 := ⟨fuel - 1, by omega⟩
  cases items with
  | nil => exact absurd rfl some
  | cons item more =>
    have plain : (Items.cons item more).plain false = item.plain ++ more.plain true := rfl
    rw [Items.depth] at shallow
    rw [plain, List.length_append] at enough
    have gives := item.gives written.item (by omega : item.depth ≤ depth) (by omega : item.plain.length ≤ fuel) offset
      (more.plain true ++ ']' :: rest) (by cases more <;> exact apart_of_mark rfl _)
    rw [plain, List.append_assoc]
    cases more with
    | nil => exact yields_item_last gives
    | cons next after =>
      have later : (Items.cons next after).plain true = ',' :: (Items.cons next after).plain false := rfl
      rw [later, List.length_cons] at enough
      have yields (stop : Nat) := (Items.cons next after).yields nofun written.rest
        (by omega : (Items.cons next after).depth ≤ depth) (by omega : _ < fuel) stop rest
      obtain ⟨c, text, front, visible, -⟩ := Items.front written.rest (']' :: rest)
      rw [later, List.cons_append, front] at gives ⊢
      rw [front] at yields
      exact yields_item_next gives visible yields

/-- The members of an object are read up to its end. -/
theorem Members.yields (entries : Members) (some : entries ≠ .nil) (written : entries.Written) {fuel depth : Nat}
    (shallow : entries.depth ≤ depth) (enough : (entries.plain false).length < fuel) (offset : Nat)
    (rest : List Char) :
    Yields (members fuel depth ⟨offset, entries.plain false ++ '\x7d' :: rest⟩) rest entries.pairs? := by
  obtain ⟨fuel, rfl⟩ : ∃ less, fuel = less + 1 := ⟨fuel - 1, by omega⟩
  cases entries with
  | nil => exact absurd rfl some
  | cons key item more =>
    obtain ⟨tail, rfl, closes⟩ := written.key
    have plain : (Members.cons ('"' :: tail) item more).plain false =
        '"' :: (tail ++ ':' :: (item.plain ++ more.plain true)) := rfl
    rw [Members.depth] at shallow
    rw [plain, List.length_cons, List.length_append, List.length_cons, List.length_append] at enough
    rw [plain, Members.pairs?, List.cons_append, List.append_assoc, List.cons_append, List.append_assoc]
    rcases string_cases closes with ⟨name, parsed, reads⟩ | ⟨none, refused⟩
    · have named := reads offset (offset + 1) (':' :: (item.plain ++ (more.plain true ++ '\x7d' :: rest)))
      have gives := item.gives written.item (by omega : item.depth ≤ depth) (by omega : item.plain.length ≤ fuel)
        (offset + 1 + tail.length + 1) (more.plain true ++ '\x7d' :: rest)
        (by cases more <;> exact apart_of_mark rfl _)
      obtain ⟨c, text, front, visible, -⟩ := item.front written.item
      have same : key? ('"' :: tail) = .some (String.ofList name) := by
        rw [key?, parsed]
        rfl
      rw [same]
      rw [front, List.cons_append] at named gives ⊢
      cases more with
      | nil => exact yields_member_last named visible gives
      | cons key' next after =>
        have later : (Members.cons key' next after).plain true =
            ',' :: (Members.cons key' next after).plain false := rfl
        rw [later, List.length_cons] at enough
        have yields (stop : Nat) := (Members.cons key' next after).yields nofun written.rest
          (by omega : (Members.cons key' next after).depth ≤ depth) (by omega : _ < fuel) stop rest
        obtain ⟨behind, start⟩ := Members.front written.rest ('\x7d' :: rest)
        rw [later, List.cons_append, start] at named gives ⊢
        rw [start] at yields
        exact yields_member_next named visible gives yields
    · obtain ⟨refusal, here⟩ := refused offset (offset + 1)
        (':' :: (item.plain ++ (more.plain true ++ '\x7d' :: rest)))
      have unnamed : key? ('"' :: tail) = .none := by
        rw [key?, none]
        rfl
      rw [unnamed]
      exact ⟨refusal, by simp only [members, here, bind, Except.bind]⟩

end

/-- The text of a document that does not nest too deep is read as its value. -/
theorem parse_plain {d : Node} (written : d.Written) (shallow : d.depth ≤ Json.maxNesting) :
    (Json.parse d.plain).toOption = d.value? := by
  obtain ⟨c, more, front, visible, -, noMark⟩ := d.front written
  have whole := parse_cons visible noMark more
  have gives := d.gives written shallow (Nat.le_succ _) 0 [] nofun
  rw [List.append_nil] at gives
  rw [← front] at whole
  cases found : d.value? with
  | some v =>
    rw [found] at gives
    obtain ⟨stop, read⟩ := gives
    rw [whole, read]
    rfl
  | none =>
    rw [found] at gives
    cases read : value (d.plain.length + 1) Json.maxNesting ⟨0, d.plain⟩ with
    | error refusal =>
      rw [whole, read]
      rfl
    | ok result =>
      obtain ⟨d, more, same, goesOn⟩ := exists_of_not_apart (gives _ _ read)
      rw [whole, read]
      simp only [bind, Except.bind, same, skipSpace_of_not (isSpace_of_isScalarChar goesOn), List.isEmpty_cons,
        Bool.false_eq_true, ↓reduceIte]
      rfl

end EditorAssist.Settings.Commented

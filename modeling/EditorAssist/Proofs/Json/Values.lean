import EditorAssist.Proofs.Json.Entries
import EditorAssist.Proofs.Json.Numbers
import EditorAssist.Proofs.Json.Strings

/-!
# Values read back

A value without doubles, whose objects have distinct keys, is read back from its compact form, as long as it
meets none of the two limits of the reader: the digits of an integer and the nesting of objects and arrays.
-/

namespace EditorAssist.Json

open EditorAssist.Text EditorAssist.Number

/-! ## What is within a value -/

namespace Value

mutual

/-- Whether a check holds of a value and of all values within it. -/
def all (check : Value → Bool) : Value → Bool
  | .arr items => check (.arr items) && allItems check items
  | .obj entries => check (.obj entries) && allEntries check entries
  | v => check v

def allItems (check : Value → Bool) : List Value → Bool
  | [] => true
  | item :: rest => all check item && allItems check rest

def allEntry (check : Value → Bool) : String × Value → Bool
  | (_, value) => all check value

def allEntries (check : Value → Bool) : Entries → Bool
  | [] => true
  | entry :: rest => allEntry check entry && allEntries check rest

end

theorem allEntries_iff {check : Value → Bool} {entries : Entries} :
    allEntries check entries = true ↔ ∀ entry ∈ entries, entry.2.all check = true := by
  induction entries with
  | nil => simp [allEntries]
  | cons entry rest ih => rw [allEntries, allEntry, Bool.and_eq_true, ih, List.forall_mem_cons]

mutual

/-- How many objects and arrays stand within one another. -/
def nesting : Value → Nat
  | .arr items => nestingItems items + 1
  | .obj entries => nestingEntries entries + 1
  | _ => 0

def nestingItems : List Value → Nat
  | [] => 0
  | item :: rest => max (nesting item) (nestingItems rest)

def nestingEntry : String × Value → Nat
  | (_, value) => nesting value

def nestingEntries : Entries → Nat
  | [] => 0
  | entry :: rest => max (nestingEntry entry) (nestingEntries rest)

end

/-- Whether reading can give a value back, apart from the values within it: a double need not come back, an
integer only when it is not too long, and an object keeps one value of each key. -/
def isKept : Value → Bool
  | .float _ => false
  | .int i => (digits i.natAbs).length ≤ maxDigits
  | .obj entries => decide (Entries.keys entries).Nodup
  | _ => true

end Value

open Value

namespace Parser

theorem isSpace_of_isDigit {c : Char} (digit : isDigit c = true) : isSpace c = false := by
  have other {blank : Char} (plain : isDigit blank = false) : c ≠ blank := by
    rintro rfl
    exact absurd digit (by simp [plain])
  simp [isSpace, @other ' ' rfl, @other '\t' rfl, @other '\n' rfl, @other '\r' rfl]

/-- A value starts neither with a blank nor with a bracket that closes nor with a byte order mark. -/
theorem print_front {v : Value} (kept : v.all isKept = true) :
    ∃ c more, print .compact v = c :: more ∧ isSpace c = false ∧ c ≠ ']' ∧ c ≠ Char.ofNat 0xFEFF := by
  cases v with
  | null => exact ⟨'n', _, rfl, rfl, by decide, by decide⟩
  | bool b =>
    cases b with
    | false => exact ⟨'f', _, rfl, rfl, by decide, by decide⟩
    | true => exact ⟨'t', _, rfl, rfl, by decide, by decide⟩
  | int i =>
    obtain ⟨c, more, front, start⟩ := intText_front i
    rw [print, front]
    refine ⟨c, more, rfl, ?_⟩
    rcases start with rfl | digit
    · decide
    · refine ⟨isSpace_of_isDigit digit, ?_, ?_⟩
      · rintro rfl
        exact absurd digit (by decide)
      · rintro rfl
        exact absurd digit (by decide)
  | float x => simp [Value.all, isKept] at kept
  | str s => exact ⟨'"', _, rfl, rfl, by decide, by decide⟩
  | arr items => exact ⟨'[', _, rfl, rfl, by decide, by decide⟩
  | obj entries => exact ⟨'\x7b', _, rfl, rfl, by decide, by decide⟩

variable {fuel depth offset : Nat} {rest : List Char}

/-- A fixed word is read where no string, object or array starts. -/
theorem value_word {c : Char} (more : List Char) {found : Value} {size : Nat}
    (word : word? (c :: more) = some (found, size)) (letter : c.isAlpha = true) :
    value (fuel + 1) depth ⟨offset, c :: more⟩ = .ok (found, ⟨offset + size, (c :: more).drop size⟩) := by
  rw [value]
  dsimp only
  split
  · next quote =>
    obtain ⟨rfl, -⟩ := List.cons.inj quote
    exact absurd letter (by decide)
  · next brace =>
    obtain ⟨rfl, -⟩ := List.cons.inj brace
    exact absurd letter (by decide)
  · next bracket =>
    obtain ⟨rfl, -⟩ := List.cons.inj bracket
    exact absurd letter (by decide)
  · rw [word]

theorem value_null : value (fuel + 1) depth ⟨offset, "null".toList ++ rest⟩ = .ok (.null, ⟨offset + 4, rest⟩) :=
  value_word ("ull".toList ++ rest) rfl rfl

theorem value_bool (b : Bool) :
    value (fuel + 1) depth ⟨offset, print .compact (.bool b) ++ rest⟩ =
      .ok (.bool b, ⟨offset + (print .compact (.bool b)).length, rest⟩) := by
  cases b with
  | false => exact value_word ("alse".toList ++ rest) rfl rfl
  | true => exact value_word ("rue".toList ++ rest) rfl rfl

theorem stringBody_quote (start offset : Nat) (s : String) (rest : List Char) :
    stringBody start (offset + 1) (s.toList.flatMap (escapeChar false) ++ '"' :: rest) =
      .ok (s.toList, ⟨offset + (quote false s.toList).length, rest⟩) := by
  rw [stringBody_quoted]
  simp only [quote, List.length_append, List.length_cons, List.length_nil]
  congr 3
  omega

/-- A string is read whole. -/
theorem value_str (s : String) :
    value (fuel + 1) depth ⟨offset, print .compact (.str s) ++ rest⟩ =
      .ok (.str s, ⟨offset + (print .compact (.str s)).length, rest⟩) := by
  have written : print .compact (.str s) ++ rest = '"' :: (s.toList.flatMap (escapeChar false) ++ '"' :: rest) := by
    simp [print, quote, Style.compact]
  have read := stringBody_quote offset offset s rest
  rw [written]
  simp only [value, read, Except.map, String.ofList_toList]
  rfl

/-! ## Objects and arrays -/

/-- The last item of an array. -/
theorem elements_last {text : List Char} {item : Value} {after : Nat}
    (read : value fuel depth ⟨offset, text⟩ = .ok (item, ⟨after, ']' :: rest⟩)) :
    elements (fuel + 1) depth ⟨offset, text⟩ = .ok ([item], ⟨after + 1, rest⟩) := by
  rw [elements, read]
  rfl

/-- An item that another one follows. -/
theorem elements_next {text next : List Char} {item : Value} {after : Nat} {c : Char}
    (read : value fuel depth ⟨offset, text⟩ = .ok (item, ⟨after, ',' :: c :: next⟩)) (visible : isSpace c = false) :
    elements (fuel + 1) depth ⟨offset, text⟩ =
      (elements fuel depth ⟨after + 1, c :: next⟩).map fun (more, stop) => (item :: more, stop) := by
  have start : skipSpace (after + 1) (c :: next) = ⟨after + 1, c :: next⟩ := skipSpace_of_not visible ..
  rw [elements, read]
  simp only [bind, Except.bind, skipSpace_of_not (by rfl : isSpace ',' = false), start]
  rfl

/-- An array with items is opened. -/
theorem value_bracket {text : List Char} {c : Char} (visible : isSpace c = false) (item : c ≠ ']') :
    value (fuel + 1) (depth + 1) ⟨offset, '[' :: c :: text⟩ =
      (elements fuel depth ⟨offset + 1, c :: text⟩).map fun (items, stop) => (.arr items, stop) := by
  simp only [value, skipSpace_of_not visible, Nat.add_one_ne_zero, ↓reduceIte, Nat.add_sub_cancel]
  split
  · next closed =>
    obtain ⟨rfl, -⟩ := List.cons.inj closed
    exact absurd rfl item
  · rfl

theorem value_empty_arr :
    value (fuel + 1) (depth + 1) ⟨offset, '[' :: ']' :: rest⟩ = .ok (.arr [], ⟨offset + 2, rest⟩) := by
  simp [value, skipSpace_of_not (by rfl : isSpace ']' = false)]

theorem value_empty_obj :
    value (fuel + 1) (depth + 1) ⟨offset, '\x7b' :: '\x7d' :: rest⟩ = .ok (.obj [], ⟨offset + 2, rest⟩) := by
  simp [value, skipSpace_of_not (by rfl : isSpace '\x7d' = false)]

/-- An object with members is opened. -/
theorem value_brace {text : List Char} :
    value (fuel + 1) (depth + 1) ⟨offset, '\x7b' :: '"' :: text⟩ =
      (members fuel depth ⟨offset + 1, '"' :: text⟩).map fun (pairs, stop) =>
        (.obj (Entries.ofPairs pairs), stop) := by
  simp only [value, skipSpace_of_not (by rfl : isSpace '"' = false), Nat.add_one_ne_zero, ↓reduceIte,
    Nat.add_sub_cancel]
  rfl

/-- A member up to its value. -/
theorem key_quote (key : String) (text : List Char) :
    quote false key.toList ++ ':' :: text =
      '"' :: (key.toList.flatMap (escapeChar false) ++ '"' :: ':' :: text) := by
  simp [quote]

section Keys

variable {written key text : List Char} {place after : Nat} {c : Char} {v : Value}

/-- The last member of an object. -/
theorem members_of_last
    (named : stringBody offset (offset + 1) written = .ok (key, ⟨place, ':' :: c :: text⟩))
    (visible : isSpace c = false)
    (read : value fuel depth ⟨place + 1, c :: text⟩ = .ok (v, ⟨after, '\x7d' :: rest⟩)) :
    members (fuel + 1) depth ⟨offset, '"' :: written⟩ = .ok ([(String.ofList key, v)], ⟨after + 1, rest⟩) := by
  simp only [members, named, bind, Except.bind, skipSpace_of_not (by rfl : isSpace ':' = false),
    skipSpace_of_not visible, read, skipSpace_of_not (by rfl : isSpace '\x7d' = false)]

/-- A member that another one follows. -/
theorem members_of_next {next : List Char}
    (named : stringBody offset (offset + 1) written = .ok (key, ⟨place, ':' :: c :: text⟩))
    (visible : isSpace c = false)
    (read : value fuel depth ⟨place + 1, c :: text⟩ = .ok (v, ⟨after, ',' :: '"' :: next⟩)) :
    members (fuel + 1) depth ⟨offset, '"' :: written⟩ =
      (members fuel depth ⟨after + 1, '"' :: next⟩).map fun (more, stop) => ((String.ofList key, v) :: more, stop) := by
  simp only [members, named, bind, Except.bind, skipSpace_of_not (by rfl : isSpace ':' = false),
    skipSpace_of_not visible, read, skipSpace_of_not (by rfl : isSpace ',' = false),
    skipSpace_of_not (by rfl : isSpace '"' = false)]
  rfl

end Keys

section Members

variable {text : List Char} {c : Char} {key : String} {v : Value} {after : Nat}

theorem members_last (visible : isSpace c = false)
    (read : value fuel depth ⟨offset + (quote false key.toList).length + 1, c :: text⟩ =
      .ok (v, ⟨after, '\x7d' :: rest⟩)) :
    members (fuel + 1) depth ⟨offset, quote false key.toList ++ ':' :: c :: text⟩ =
      .ok ([(key, v)], ⟨after + 1, rest⟩) := by
  rw [key_quote, members_of_last (stringBody_quote ..) visible read, String.ofList_toList]

theorem members_next {next : List Char} (visible : isSpace c = false)
    (read : value fuel depth ⟨offset + (quote false key.toList).length + 1, c :: text⟩ =
      .ok (v, ⟨after, ',' :: '"' :: next⟩)) :
    members (fuel + 1) depth ⟨offset, quote false key.toList ++ ':' :: c :: text⟩ =
      (members fuel depth ⟨after + 1, '"' :: next⟩).map fun (more, stop) => ((key, v) :: more, stop) := by
  rw [key_quote, members_of_next (stringBody_quote ..) visible read, String.ofList_toList]

theorem members_error {refusal : Refusal} (visible : isSpace c = false)
    (refused : value fuel depth ⟨offset + (quote false key.toList).length + 1, c :: text⟩ = .error refusal) :
    members (fuel + 1) depth ⟨offset, quote false key.toList ++ ':' :: c :: text⟩ = .error refusal := by
  rw [key_quote, members_of_error (stringBody_quote ..) visible refused]

end Members

/-! ## The written form -/

section Written

theorem printItems_next (item next : Value) (more : List Value) :
    printItems .compact (item :: next :: more) =
      print .compact item ++ ',' :: printItems .compact (next :: more) := by
  simp [printItems, Style.comma, Style.compact]

theorem printEntry_compact (key : String) (v : Value) :
    printEntry .compact (key, v) = quote false key.toList ++ ':' :: print .compact v := by
  simp [printEntry, Style.colon, Style.compact]

theorem printEntries_next (entry next : String × Value) (more : Entries) :
    printEntries .compact (entry :: next :: more) =
      printEntry .compact entry ++ ',' :: printEntries .compact (next :: more) := by
  simp [printEntries, Style.comma, Style.compact]

theorem printItems_front {item : Value} (kept : item.all isKept = true) (more : List Value) :
    ∃ c text, printItems .compact (item :: more) = c :: text ∧ isSpace c = false ∧ c ≠ ']' := by
  obtain ⟨c, text, front, visible, item, -⟩ := print_front kept
  cases more with
  | nil => exact ⟨c, text, front, visible, item⟩
  | cons next more => exact ⟨c, text ++ _, by rw [printItems_next, front, List.cons_append], visible, item⟩

theorem printEntries_front (entry : String × Value) (more : Entries) :
    ∃ text, printEntries .compact (entry :: more) = '"' :: text := by
  rcases entry with ⟨key, v⟩
  cases more with
  | nil =>
    rw [printEntries, printEntry_compact, key_quote]
    exact ⟨_, rfl⟩
  | cons next more =>
    rw [printEntries_next, printEntry_compact, key_quote]
    exact ⟨_, rfl⟩

end Written

/-! ## Reading what was written -/

theorem length_print_arr (items : List Value) :
    (print .compact (.arr items)).length = (printItems .compact items).length + 2 := by
  simp [print]

theorem length_print_obj (entries : Entries) :
    (print .compact (.obj entries)).length = (printEntries .compact entries).length + 2 := by
  simp [print]

mutual

/-- A value is read up to what stands behind it. -/
theorem value_print (v : Value) (kept : v.all isKept = true) {fuel depth : Nat} (shallow : v.nesting ≤ depth)
    (enough : (print .compact v).length ≤ fuel) (offset : Nat) (rest : List Char) (ends : endsInteger rest = true) :
    value fuel depth ⟨offset, print .compact v ++ rest⟩ =
      .ok (v, ⟨offset + (print .compact v).length, rest⟩) := by
  -- Every value is written with one character at least, so the length of its form is fuel for it.
  obtain ⟨fuel, rfl⟩ : ∃ less, fuel = less + 1 := by
    obtain ⟨c, more, front, -⟩ := print_front kept
    rw [front, List.length_cons] at enough
    exact ⟨fuel - 1, by omega⟩
  match v with
  | .null => exact value_null
  | .bool b => exact value_bool b
  | .int i =>
    simp only [Value.all, isKept, decide_eq_true_eq] at kept
    exact value_intText fuel depth offset kept ends
  | .float x => simp [Value.all, isKept] at kept
  | .str s => exact value_str s
  | .arr items =>
    rw [Value.all, Bool.and_eq_true] at kept
    rw [nesting] at shallow
    obtain ⟨depth, rfl⟩ : ∃ less, depth = less + 1 := ⟨depth - 1, by omega⟩
    rw [length_print_arr] at enough ⊢
    rw [print_arr]
    match items with
    | [] => exact value_empty_arr
    | item :: more =>
      have read := elements_printItems (item :: more) nofun kept.2 (Nat.le_of_succ_le_succ shallow)
        (by omega : _ < fuel) (offset + 1) rest
      rw [allItems, Bool.and_eq_true] at kept
      obtain ⟨c, text, front, visible, item⟩ := printItems_front kept.2.1 more
      rw [front, List.cons_append] at read ⊢
      rw [value_bracket visible item, read]
      simp only [Except.map, Nat.add_comm, Nat.add_left_comm]
  | .obj entries =>
    rw [Value.all, Bool.and_eq_true] at kept
    rw [nesting] at shallow
    obtain ⟨depth, rfl⟩ : ∃ less, depth = less + 1 := ⟨depth - 1, by omega⟩
    rw [length_print_obj] at enough ⊢
    rw [print_obj]
    match entries with
    | [] => exact value_empty_obj
    | entry :: more =>
      have read := members_printEntries (entry :: more) nofun kept.2 (Nat.le_of_succ_le_succ shallow)
        (by omega : _ < fuel) (offset + 1) rest
      have distinct := Entries.ofPairs_of_nodup (of_decide_eq_true kept.1)
      obtain ⟨text, front⟩ := printEntries_front entry more
      rw [front, List.cons_append] at read ⊢
      rw [value_brace, read]
      simp only [Except.map, distinct, Nat.add_comm, Nat.add_left_comm]

theorem elements_printItems (items : List Value) (nonempty : items ≠ []) (kept : allItems isKept items = true)
    {fuel depth : Nat} (shallow : nestingItems items ≤ depth)
    (enough : (printItems .compact items).length < fuel) (offset : Nat) (rest : List Char) :
    elements fuel depth ⟨offset, printItems .compact items ++ ']' :: rest⟩ =
      .ok (items, ⟨offset + (printItems .compact items).length + 1, rest⟩) := by
  obtain ⟨fuel, rfl⟩ : ∃ less, fuel = less + 1 := ⟨fuel - 1, by omega⟩
  match items with
  | [] => exact absurd rfl nonempty
  | [item] =>
    simp only [allItems, Bool.and_true] at kept
    simp only [nestingItems, Nat.max_zero] at shallow
    simp only [printItems] at enough ⊢
    exact elements_last (value_print item kept shallow (by omega) offset _ rfl)
  | item :: next :: more =>
    rw [allItems, Bool.and_eq_true] at kept
    rw [nestingItems, Nat.max_le] at shallow
    rw [printItems_next, List.length_append, List.length_cons] at enough ⊢
    rw [List.append_assoc, List.cons_append]
    have further := elements_printItems (next :: more) nofun kept.2 shallow.2
      (by omega : _ < fuel) (offset + (print .compact item).length + 1) rest
    have read := value_print item kept.1 shallow.1 (by omega : _ ≤ fuel) offset
      (',' :: (printItems .compact (next :: more) ++ ']' :: rest)) rfl
    have nextKept := kept.2
    rw [allItems, Bool.and_eq_true] at nextKept
    obtain ⟨c, text, front, visible, -⟩ := printItems_front nextKept.1 more
    rw [front, List.cons_append] at read further ⊢
    rw [elements_next read visible, further]
    simp only [Except.map, Nat.add_assoc, Nat.add_comm, Nat.add_left_comm]

theorem members_printEntries (entries : Entries) (nonempty : entries ≠ []) (kept : allEntries isKept entries = true)
    {fuel depth : Nat} (shallow : nestingEntries entries ≤ depth)
    (enough : (printEntries .compact entries).length < fuel) (offset : Nat) (rest : List Char) :
    members fuel depth ⟨offset, printEntries .compact entries ++ '\x7d' :: rest⟩ =
      .ok (entries, ⟨offset + (printEntries .compact entries).length + 1, rest⟩) := by
  obtain ⟨fuel, rfl⟩ : ∃ less, fuel = less + 1 := ⟨fuel - 1, by omega⟩
  match entries with
  | [] => exact absurd rfl nonempty
  | [(key, v)] =>
    simp only [allEntries, allEntry, Bool.and_true] at kept
    simp only [nestingEntries, nestingEntry, Nat.max_zero] at shallow
    rw [printEntries, printEntry_compact, List.length_append, List.length_cons] at enough ⊢
    rw [List.append_assoc, List.cons_append]
    have read := value_print v kept shallow (by omega : _ ≤ fuel)
      (offset + (quote false key.toList).length + 1) ('\x7d' :: rest) rfl
    obtain ⟨c, text, front, visible, -⟩ := print_front kept
    rw [front, List.cons_append] at read ⊢
    rw [members_last visible read]
    simp only [Nat.add_assoc, Nat.add_comm, Nat.add_left_comm]
  | (key, v) :: next :: more =>
    rw [allEntries, allEntry, Bool.and_eq_true] at kept
    rw [nestingEntries, nestingEntry, Nat.max_le] at shallow
    rw [printEntries_next, printEntry_compact, List.length_append, List.length_cons, List.length_append,
      List.length_cons] at enough ⊢
    rw [List.append_assoc, List.append_assoc, List.cons_append, List.cons_append]
    have further := members_printEntries (next :: more) nofun kept.2 shallow.2 (by omega : _ < fuel)
      (offset + (quote false key.toList).length + 1 + (print .compact v).length + 1) rest
    have read := value_print v kept.1 shallow.1 (by omega : _ ≤ fuel) (offset + (quote false key.toList).length + 1)
      (',' :: (printEntries .compact (next :: more) ++ '\x7d' :: rest)) rfl
    obtain ⟨c, text, front, visible, -⟩ := print_front kept.1
    obtain ⟨behind, start⟩ := printEntries_front next more
    rw [front, start, List.cons_append, List.cons_append] at read
    rw [start, front, List.cons_append] at further
    rw [front, start, List.cons_append, List.cons_append]
    rw [members_next visible read, further]
    simp only [Except.map, Nat.add_assoc, Nat.add_comm, Nat.add_left_comm]

end

/-! ## Nesting that is too deep -/

mutual

/-- A value that nests deeper than is left is refused at an object or array within it. -/
theorem value_tooDeep (v : Value) (kept : v.all isKept = true) {fuel depth : Nat} (deep : depth < v.nesting)
    (enough : (print .compact v).length ≤ fuel) (offset : Nat) (rest : List Char) :
    ∃ place, value fuel depth ⟨offset, print .compact v ++ rest⟩ = .error ⟨.deepNesting, place⟩ := by
  match v with
  | .arr items =>
    rw [Value.all, Bool.and_eq_true] at kept
    rw [nesting] at deep
    rw [length_print_arr] at enough
    obtain ⟨fuel, rfl⟩ : ∃ less, fuel = less + 1 := ⟨fuel - 1, by omega⟩
    rw [print_arr]
    cases depth with
    | zero => exact ⟨offset, value_bracket_zero _⟩
    | succ depth =>
      match items with
      | [] => simp [nestingItems] at deep
      | item :: more =>
        obtain ⟨place, refused⟩ := elements_tooDeep (item :: more) kept.2 (Nat.lt_of_succ_lt_succ deep)
          (by omega : _ < fuel) (offset + 1) rest
        rw [allItems, Bool.and_eq_true] at kept
        obtain ⟨c, text, front, visible, item⟩ := printItems_front kept.2.1 more
        rw [front, List.cons_append] at refused ⊢
        rw [value_bracket visible item, refused]
        exact ⟨place, rfl⟩
  | .obj entries =>
    rw [Value.all, Bool.and_eq_true] at kept
    rw [nesting] at deep
    rw [length_print_obj] at enough
    obtain ⟨fuel, rfl⟩ : ∃ less, fuel = less + 1 := ⟨fuel - 1, by omega⟩
    rw [print_obj]
    cases depth with
    | zero => exact ⟨offset, value_brace_zero _⟩
    | succ depth =>
      match entries with
      | [] => simp [nestingEntries] at deep
      | entry :: more =>
        obtain ⟨place, refused⟩ := members_tooDeep (entry :: more) kept.2 (Nat.lt_of_succ_lt_succ deep)
          (by omega : _ < fuel) (offset + 1) rest
        obtain ⟨text, front⟩ := printEntries_front entry more
        rw [front, List.cons_append] at refused ⊢
        rw [value_brace, refused]
        exact ⟨place, rfl⟩
  | .null | .bool _ | .int _ | .float _ | .str _ => simp [nesting] at deep

theorem elements_tooDeep (items : List Value) (kept : allItems isKept items = true) {fuel depth : Nat}
    (deep : depth < nestingItems items) (enough : (printItems .compact items).length < fuel) (offset : Nat)
    (rest : List Char) :
    ∃ place, elements fuel depth ⟨offset, printItems .compact items ++ ']' :: rest⟩ =
      .error ⟨.deepNesting, place⟩ := by
  obtain ⟨fuel, rfl⟩ : ∃ less, fuel = less + 1 := ⟨fuel - 1, by omega⟩
  match items with
  | [] => simp [nestingItems] at deep
  | [item] =>
    simp only [allItems, Bool.and_true] at kept
    simp only [nestingItems, Nat.max_zero] at deep
    simp only [printItems] at enough ⊢
    obtain ⟨place, refused⟩ := value_tooDeep item kept deep (by omega : _ ≤ fuel) offset (']' :: rest)
    exact ⟨place, elements_error refused⟩
  | item :: next :: more =>
    rw [allItems, Bool.and_eq_true] at kept
    rw [printItems_next, List.length_append, List.length_cons] at enough
    rw [printItems_next, List.append_assoc, List.cons_append]
    by_cases first : depth < item.nesting
    · obtain ⟨place, refused⟩ := value_tooDeep item kept.1 first (by omega : _ ≤ fuel) offset
        (',' :: (printItems .compact (next :: more) ++ ']' :: rest))
      exact ⟨place, elements_error refused⟩
    · -- The item is read, so it is one of those behind it that nests too deep.
      have read := value_print item kept.1 (Nat.le_of_not_lt first) (by omega : _ ≤ fuel) offset
        (',' :: (printItems .compact (next :: more) ++ ']' :: rest)) rfl
      have later : depth < nestingItems (next :: more) := by
        rw [nestingItems] at deep
        omega
      obtain ⟨place, refused⟩ := elements_tooDeep (next :: more) kept.2 later
        (by omega : _ < fuel) (offset + (print .compact item).length + 1) rest
      have nextKept := kept.2
      rw [allItems, Bool.and_eq_true] at nextKept
      obtain ⟨c, text, front, visible, -⟩ := printItems_front nextKept.1 more
      rw [front, List.cons_append] at read refused ⊢
      rw [elements_next read visible, refused]
      exact ⟨place, rfl⟩

theorem members_tooDeep (entries : Entries) (kept : allEntries isKept entries = true) {fuel depth : Nat}
    (deep : depth < nestingEntries entries) (enough : (printEntries .compact entries).length < fuel) (offset : Nat)
    (rest : List Char) :
    ∃ place, members fuel depth ⟨offset, printEntries .compact entries ++ '\x7d' :: rest⟩ =
      .error ⟨.deepNesting, place⟩ := by
  obtain ⟨fuel, rfl⟩ : ∃ less, fuel = less + 1 := ⟨fuel - 1, by omega⟩
  match entries with
  | [] => simp [nestingEntries] at deep
  | [(key, v)] =>
    simp only [allEntries, allEntry, Bool.and_true] at kept
    simp only [nestingEntries, nestingEntry, Nat.max_zero] at deep
    rw [printEntries, printEntry_compact, List.length_append, List.length_cons] at enough
    rw [printEntries, printEntry_compact, List.append_assoc, List.cons_append]
    obtain ⟨place, refused⟩ := value_tooDeep v kept deep (by omega : _ ≤ fuel)
      (offset + (quote false key.toList).length + 1) ('\x7d' :: rest)
    obtain ⟨c, text, front, visible, -⟩ := print_front kept
    rw [front, List.cons_append] at refused ⊢
    exact ⟨place, members_error visible refused⟩
  | (key, v) :: next :: more =>
    rw [allEntries, allEntry, Bool.and_eq_true] at kept
    rw [printEntries_next, printEntry_compact, List.length_append, List.length_cons, List.length_append,
      List.length_cons] at enough
    rw [printEntries_next, printEntry_compact, List.append_assoc, List.append_assoc, List.cons_append,
      List.cons_append]
    obtain ⟨c, text, front, visible, -⟩ := print_front kept.1
    by_cases first : depth < v.nesting
    · obtain ⟨place, refused⟩ := value_tooDeep v kept.1 first (by omega : _ ≤ fuel)
        (offset + (quote false key.toList).length + 1) (',' :: (printEntries .compact (next :: more) ++ '\x7d' :: rest))
      rw [front, List.cons_append] at refused ⊢
      exact ⟨place, members_error visible refused⟩
    · have read := value_print v kept.1 (Nat.le_of_not_lt first) (by omega : _ ≤ fuel)
        (offset + (quote false key.toList).length + 1)
        (',' :: (printEntries .compact (next :: more) ++ '\x7d' :: rest)) rfl
      have later : depth < nestingEntries (next :: more) := by
        rw [nestingEntries, nestingEntry] at deep
        omega
      obtain ⟨place, refused⟩ := members_tooDeep (next :: more) kept.2 later (by omega : _ < fuel)
        (offset + (quote false key.toList).length + 1 + (print .compact v).length + 1) rest
      obtain ⟨behind, start⟩ := printEntries_front next more
      rw [front, start, List.cons_append, List.cons_append] at read
      rw [start, front, List.cons_append] at refused
      rw [front, start, List.cons_append, List.cons_append]
      rw [members_next visible read, refused]
      exact ⟨place, rfl⟩

end

end Parser

/-- Where nothing stands in front that reading would skip or refuse, a value is read at once. -/
theorem parse_cons {c : Char} (visible : Parser.isSpace c = false) (noMark : c ≠ Char.ofNat 0xFEFF) (more : List Char) :
    parse (c :: more) = (do
      let (found, after) ← Parser.value ((c :: more).length + 1) maxNesting ⟨0, c :: more⟩
      let rest := Parser.skipSpace after.offset after.rest
      if rest.rest.isEmpty then return found else throw ⟨.extraData, rest.offset⟩) := by
  have mark : (c :: more).head? ≠ some (Char.ofNat 0xFEFF) := fun same => noMark (Option.some.inj same)
  simp only [parse, mark, ↓reduceIte, Parser.skipSpace_of_not visible]

theorem parse_eq {v : Value} (kept : v.all isKept = true) :
    parse (print .compact v) = (do
      let (found, after) ← Parser.value ((print .compact v).length + 1) maxNesting ⟨0, print .compact v⟩
      let rest := Parser.skipSpace after.offset after.rest
      if rest.rest.isEmpty then return found else throw ⟨.extraData, rest.offset⟩) := by
  obtain ⟨c, more, front, visible, -, noMark⟩ := Parser.print_front kept
  rw [front]
  exact parse_cons visible noMark more

/-- A value that does not nest too deep is read back from its compact form. -/
theorem parse_print {v : Value} (kept : v.all isKept = true) (shallow : v.nesting ≤ maxNesting) :
    parse (print .compact v) = .ok v := by
  have read := Parser.value_print v kept shallow (Nat.le_succ (print .compact v).length) 0 [] rfl
  rw [List.append_nil] at read
  rw [parse_eq kept, read]
  rfl

end EditorAssist.Json

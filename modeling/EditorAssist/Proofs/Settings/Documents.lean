import EditorAssist.Settings.Commented

/-!
# Documents

The grammar of settings texts. A document is a string, a number or a word, or an array or an object of documents; a
comma may stand before a closing bracket. The reader takes the tokens of documents and keeps their text without the
spare commas, and the first token that it refuses is the first with which no document goes on.
-/

namespace EditorAssist.Settings.Commented

/-! ## Tokens -/

/-- A token; of strings, numbers and words also how they are written. -/
inductive Token where
  | openObject
  | closeObject
  | openArray
  | closeArray
  | comma
  | colon
  | text (written : List Char)
  | scalar (written : List Char)
  deriving Repr, DecidableEq

namespace Token

def of : Kind → List Char → Token
  | .openObject, _ => openObject
  | .closeObject, _ => closeObject
  | .openArray, _ => openArray
  | .closeArray, _ => closeArray
  | .comma, _ => comma
  | .colon, _ => colon
  | .text, written => text written
  | .scalar, written => scalar written

/-- Whether a document may start with a token. -/
def isStart : Token → Bool
  | openObject | openArray | text _ | scalar _ => true
  | _ => false

end Token

namespace State

/-- Takes a token, as far as it matters how it is written. -/
def step (s : State) : Token → Option State
  | .openObject => s.take .openObject []
  | .closeObject => s.take .closeObject []
  | .openArray => s.take .openArray []
  | .closeArray => s.take .closeArray []
  | .comma => s.take .comma []
  | .colon => s.take .colon []
  | .text written => s.take .text written
  | .scalar written => s.take .scalar written

/-- Takes one token after the other. -/
def run (s : State) (tokens : List Token) : Option State := tokens.foldlM step s

variable {s t : State} {token : Token} {tokens more : List Token}

theorem step_of (s : State) (kind : Kind) (written : List Char) :
    s.step (.of kind written) = s.take kind written := by
  cases kind <;> rfl

theorem run_nil (s : State) : s.run [] = some s := rfl

theorem run_cons (s : State) (token : Token) (more : List Token) :
    s.run (token :: more) = (s.step token).bind (·.run more) := rfl

theorem run_append (s : State) (tokens more : List Token) :
    s.run (tokens ++ more) = (s.run tokens).bind (·.run more) := List.foldlM_append

theorem run_append_of (here : s.run tokens = some t) : s.run (tokens ++ more) = t.run more := by
  rw [run_append, here, Option.bind_some]

end State

/-! ## The grammar -/

mutual

/-- A document. -/
inductive Node where
  | text (written : List Char)
  | scalar (written : List Char)
  /-- An array, perhaps with a comma before its end. -/
  | array (items : Items) (comma : Bool)
  /-- An object, perhaps with a comma before its end. -/
  | object (members : Members) (comma : Bool)

inductive Items where
  | nil
  | cons (item : Node) (rest : Items)

inductive Members where
  | nil
  | cons (key : List Char) (item : Node) (rest : Members)

end

def commaIf (present : Bool) : List Token := if present then [.comma] else []

mutual

/-- The tokens of a document. -/
def Node.tokens : Node → List Token
  | .text written => [.text written]
  | .scalar written => [.scalar written]
  | .array items comma => .openArray :: (items.tokens false ++ (commaIf comma ++ [.closeArray]))
  | .object members comma => .openObject :: (members.tokens false ++ (commaIf comma ++ [.closeObject]))

/-- The tokens of items, the first of which may stand after another. -/
def Items.tokens (later : Bool) : Items → List Token
  | .nil => []
  | .cons item rest => commaIf later ++ (item.tokens ++ rest.tokens true)

def Members.tokens (later : Bool) : Members → List Token
  | .nil => []
  | .cons key item rest => commaIf later ++ (.text key :: .colon :: (item.tokens ++ rest.tokens true))

end

def separatorIf (later : Bool) : List Char := if later then [','] else []

mutual

/-- The text of a document without spare commas. -/
def Node.plain : Node → List Char
  | .text written => written
  | .scalar written => written
  | .array items _ => '[' :: (items.plain false ++ [']'])
  | .object members _ => '\x7b' :: (members.plain false ++ ['\x7d'])

def Items.plain (later : Bool) : Items → List Char
  | .nil => []
  | .cons item rest => separatorIf later ++ (item.plain ++ rest.plain true)

def Members.plain (later : Bool) : Members → List Char
  | .nil => []
  | .cons key item rest => separatorIf later ++ (key ++ ':' :: (item.plain ++ rest.plain true))

end

mutual

/-- How deep a document nests, by the weights of its containers. -/
def Node.depth : Node → Nat
  | .text _ => 0
  | .scalar _ => 0
  | .array items _ => Container.array.weight + items.depth
  | .object members _ => Container.object.weight + members.depth

def Items.depth : Items → Nat
  | .nil => 0
  | .cons item rest => max item.depth rest.depth

def Members.depth : Members → Nat
  | .nil => 0
  | .cons _ item rest => max item.depth rest.depth

end

/-- A document takes one token at least. -/
theorem Node.length_rest_lt (d : Node) {token : Token} {more rest : List Token}
    (split : token :: more = d.tokens ++ rest) : rest.length < more.length + 1 := by
  have nonempty : 0 < d.tokens.length := by
    cases d <;> simp [Node.tokens]
  have length := congrArg List.length split
  rw [List.length_cons, List.length_append] at length
  omega

/-! ## Containers -/

namespace Container

def opener : Container → Token
  | object => .openObject
  | array => .openArray

def closer : Container → Token
  | object => .closeObject
  | array => .closeArray

def left : Container → Char
  | object => '\x7b'
  | array => '['

def right : Container → Char
  | object => '\x7d'
  | array => ']'

/-- What is expected in a container that has just been opened. -/
def first : Container → Expected
  | object => .firstKey
  | array => .firstItem

/-- What is expected in a container behind a comma. -/
def later : Container → Expected
  | object => .key
  | array => .item

end Container

/-- Whether a key or an item of a container may stand here. -/
def State.takesPart (s : State) : Container → Bool
  | .object => s.takesKey
  | .array => s.takesValue

/-- What becomes of a state that has read some text, nested to some depth, and is back in its container. -/
structure Reached (s : State) (plain : List Char) (nested : Nat) (t : State) : Prop where
  around : t.around = s.around
  depth : t.depth = s.depth
  text : t.text = s.text ++ plain
  deepest : t.deepest = max s.deepest (s.depth + nested)

/-- Nothing has been read in a container, or an item or a key with its value. -/
def State.Between (s : State) (container : Container) : Prop :=
  s.around.head? = some container ∧ (s.expected = .next ∨ s.expected = container.first)

section Reading

variable {s t u : State} {plain plain' : List Char} {nested nested' : Nat} {container : Container}

theorem Reached.trans (first : Reached s plain nested t) (later : Reached t plain' nested' u) :
    Reached s (plain ++ plain') (max nested nested') u where
  around := later.around.trans first.around
  depth := later.depth.trans first.depth
  text := by rw [later.text, first.text, List.append_assoc]
  deepest := by
    rw [later.deepest, first.deepest, first.depth]
    omega

theorem Reached.shallow (reached : Reached s plain nested t) : t.depth ≤ t.deepest := by
  rw [reached.depth, reached.deepest]
  omega

/-- Expecting something else. -/
theorem Reached.turn (shallow : s.depth ≤ s.deepest) (expected : Expected) : Reached s [] 0 { s with expected } :=
  ⟨rfl, rfl, (List.append_nil _).symm, (Nat.max_eq_left shallow).symm⟩

/-- Keeping some text. -/
theorem Reached.keep (shallow : s.depth ≤ s.deepest) (expected : Expected) (written : List Char) :
    Reached s written 0 (s.keep expected written) :=
  ⟨rfl, rfl, by simp [State.text, State.keep], (Nat.max_eq_left shallow).symm⟩

theorem step_opener (container : Container) (takes : s.takesValue = true) :
    s.step container.opener = some (s.opens container container.first container.left) := by
  cases container <;> simp [Container.opener, State.step, State.take, takes] <;> rfl

theorem step_closer {outer : List Container} (around : s.around = container :: outer) (ends : s.takesEnd = true) :
    s.step container.closer =
      some { s with
        expected := .next, around := outer, depth := s.depth - container.weight
        kept := [container.right] :: s.kept } := by
  cases container <;> simp [Container.closer, State.step, State.take, ends, State.closes, around] <;> rfl

/-- A container may end between its items, with or without a comma before. -/
theorem run_end {outer : List Container} (around : s.around = container :: outer) (between : s.Between container)
    (comma : Bool) :
    s.run (commaIf comma ++ [container.closer]) =
      some { s with
        expected := .next, around := outer, depth := s.depth - container.weight
        kept := [container.right] :: s.kept } := by
  cases comma with
  | false =>
    have ends : s.takesEnd = true := by
      rcases between.2 with expected | expected <;> cases container <;> simp [State.takesEnd, expected, Container.first]
    rw [commaIf, if_neg Bool.false_ne_true, List.nil_append, State.run_cons, step_closer around ends]
    rfl
  | true =>
    obtain ⟨expected', same, ends⟩ : ∃ expected', s.step .comma = some { s with expected := expected' } ∧
        ({ s with expected := expected' } : State).takesEnd = true := by
      rcases between.2 with expected | expected <;> cases container <;>
        simp [State.step, State.take, State.afterComma, expected, around, Container.first] <;> rfl
    have closed := @step_closer { s with expected := expected' } container outer around ends
    rw [commaIf, if_pos rfl, List.singleton_append, State.run_cons, same, Option.bind_some, State.run_cons, closed]
    rfl

/-- A container is read if what stands in it is. -/
theorem read_container (container : Container) (takes : s.takesValue = true) (comma : Bool) {inner : List Token}
    (reads : ∀ u : State, u.around.head? = some container → u.expected = container.first → u.depth ≤ u.deepest →
      ∃ t, u.run inner = some t ∧ Reached u plain nested t ∧ t.Between container) :
    ∃ t, s.run (container.opener :: (inner ++ (commaIf comma ++ [container.closer]))) = some t ∧ t.expected = .next ∧
      Reached s (s.separator ++ container.left :: (plain ++ [container.right])) (container.weight + nested) t := by
  obtain ⟨t, run, reached, between⟩ := reads (s.opens container container.first container.left) rfl rfl
    (Nat.le_max_right _ _)
  have around : t.around = container :: s.around := reached.around
  have whole : s.run (container.opener :: (inner ++ (commaIf comma ++ [container.closer]))) =
      some { t with
        expected := .next, around := s.around, depth := t.depth - container.weight
        kept := [container.right] :: t.kept } := by
    rw [State.run_cons, step_opener container takes, Option.bind_some, State.run_append_of run]
    exact run_end around between comma
  refine ⟨_, whole, rfl, ?_⟩
  · have text := reached.text
    have depth : t.depth = s.depth + container.weight := reached.depth
    have deepest : t.deepest = max (max s.deepest (s.depth + container.weight)) (s.depth + container.weight + nested) :=
      reached.deepest
    refine ⟨rfl, ?_, ?_, ?_⟩
    · show t.depth - container.weight = s.depth
      omega
    · simp [State.text, State.opens] at text ⊢
      rw [text]
      simp
    · show t.deepest = max s.deepest (s.depth + (container.weight + nested))
      omega

/-- Before a part of a container stands a comma if it is not the first. -/
theorem run_comma (later : Bool) (inside : s.around.head? = some container)
    (expected : s.expected = if later then .next else container.first) (shallow : s.depth ≤ s.deepest) :
    ∃ t, s.run (commaIf later) = some t ∧ t.takesPart container = true ∧ t.separator = separatorIf later ∧
      Reached s [] 0 t := by
  obtain ⟨outer, around⟩ := List.head?_eq_some_iff.mp inside
  cases later with
  | false =>
    refine ⟨s, rfl, ?_, ?_, .turn shallow s.expected⟩ <;> cases container <;>
      simp [State.takesPart, State.takesKey, State.takesValue, State.separator, separatorIf, expected, Container.first]
  | true =>
    refine ⟨{ s with expected := container.later }, ?_, ?_, ?_, .turn shallow _⟩
    · cases container <;> simp [commaIf, State.run, State.step, State.take, State.afterComma, expected, around] <;> rfl
    · cases container <;> rfl
    · cases container <;> rfl

end Reading

/-! ## Documents are read -/

mutual

/-- Where a value may stand, a document is read. -/
theorem Node.reads (d : Node) {s : State} (takes : s.takesValue = true) (shallow : s.depth ≤ s.deepest) :
    ∃ t, s.run d.tokens = some t ∧ t.expected = .next ∧ Reached s (s.separator ++ d.plain) d.depth t := by
  cases d with
  | text written =>
    have key : s.takesKey = false := by
      cases expected : s.expected <;> simp_all [State.takesValue, State.takesKey]
    refine ⟨s.keep .next (s.separator ++ written), ?_, rfl, .keep shallow _ _⟩
    simp [Node.tokens, State.run, State.step, State.take, takes, key]
  | scalar written =>
    refine ⟨s.keep .next (s.separator ++ written), ?_, rfl, .keep shallow _ _⟩
    simp [Node.tokens, State.run, State.step, State.take, takes]
  | array items comma =>
    exact read_container .array takes comma fun u inside expected shallow =>
      items.reads false inside expected shallow
  | object members comma =>
    exact read_container .object takes comma fun u inside expected shallow =>
      members.reads false inside expected shallow

/-- In an array, items are read. -/
theorem Items.reads (items : Items) {s : State} (later : Bool) (inside : s.around.head? = some .array)
    (expected : s.expected = if later then .next else .firstItem) (shallow : s.depth ≤ s.deepest) :
    ∃ t, s.run (items.tokens later) = some t ∧ Reached s (items.plain later) items.depth t ∧ t.Between .array := by
  cases items with
  | nil =>
    refine ⟨s, rfl, .turn shallow s.expected, inside, ?_⟩
    cases later
    · exact .inr expected
    · exact .inl expected
  | cons item rest =>
    obtain ⟨t, run, takes, separator, before⟩ := run_comma later inside expected shallow
    obtain ⟨u, run', next, here⟩ := item.reads takes before.shallow
    obtain ⟨v, run'', there, between⟩ := rest.reads true (here.around ▸ before.around ▸ inside) next here.shallow
    rw [separator] at here
    have whole := before.trans (here.trans there)
    refine ⟨v, ?_, ?_, between⟩
    · rw [Items.tokens, State.run_append_of run, State.run_append_of run', run'']
    · rw [Nat.zero_max, List.nil_append, List.append_assoc] at whole
      exact whole

/-- In an object, keys are read with their values. -/
theorem Members.reads (members : Members) {s : State} (later : Bool) (inside : s.around.head? = some .object)
    (expected : s.expected = if later then .next else .firstKey) (shallow : s.depth ≤ s.deepest) :
    ∃ t, s.run (members.tokens later) = some t ∧ Reached s (members.plain later) members.depth t ∧
      t.Between .object := by
  cases members with
  | nil =>
    refine ⟨s, rfl, .turn shallow s.expected, inside, ?_⟩
    cases later
    · exact .inr expected
    · exact .inl expected
  | cons key item rest =>
    obtain ⟨t, run, takes, separator, before⟩ := run_comma later inside expected shallow
    have named := Reached.keep before.shallow .colon (t.separator ++ key)
    have parted := Reached.keep named.shallow .value [':']
    obtain ⟨u, run', next, here⟩ := item.reads (s := (t.keep .colon (t.separator ++ key)).keep .value [':']) rfl
      parted.shallow
    obtain ⟨v, run'', there, between⟩ := rest.reads true (here.around ▸ before.around ▸ inside) next here.shallow
    have keyed : t.step (.text key) = some (t.keep .colon (t.separator ++ key)) := if_pos takes
    have whole := before.trans (named.trans (parted.trans (here.trans there)))
    refine ⟨v, ?_, ?_, between⟩
    · rw [Members.tokens, State.run_append_of run, State.run_cons, keyed, Option.bind_some, State.run_cons]
      show State.run _ (item.tokens ++ rest.tokens true) = some v
      rw [State.run_append_of run', run'']
    · have bare : ((t.keep .colon (t.separator ++ key)).keep .value [':']).separator = [] := rfl
      rw [bare, separator] at whole
      simpa [Members.plain, Members.depth] using whole

end

/-! ## Only documents are read -/

section Splitting

variable {s t u : State} {token : Token} {tokens : List Token} {container : Container}

/-- A container that is open has to be closed. -/
theorem exists_token (inside : s.around.head? = some container) (run : s.run tokens = some t)
    (complete : t.isComplete = true) :
    ∃ token more u, tokens = token :: more ∧ s.step token = some u ∧ u.run more = some t := by
  cases tokens with
  | nil =>
    cases run
    cases around : s.around <;> simp_all [State.isComplete]
  | cons token more =>
    obtain ⟨u, step, run⟩ := Option.bind_eq_some_iff.mp run
    exact ⟨token, more, u, rfl, step, run⟩

/-- After a colon a document starts. -/
theorem start_of_value (expected : s.expected = .value) (step : s.step token = some u) : token.isStart = true := by
  cases token <;>
    simp [State.step, State.take, State.takesEnd, State.afterComma, expected, Token.isStart] at step ⊢

/-- In an array that expects an item, a document starts or the array ends, unless a comma follows nothing. -/
theorem item_cases (inside : s.around.head? = some .array) (expected : s.expected = .firstItem ∨ s.expected = .item)
    (step : s.step token = some u) :
    token.isStart = true ∨ token = .closeArray ∨
      token = .comma ∧ s.expected = .firstItem ∧ u = { s with expected := .close } := by
  obtain ⟨outer, around⟩ := List.head?_eq_some_iff.mp inside
  rcases expected with expected | expected <;> cases token <;>
    simp_all [State.step, State.take, State.takesEnd, State.takesKey, State.closes, State.afterComma, Token.isStart]

/-- In an object that expects a key, there is one or the object ends, unless a comma follows nothing. -/
theorem key_cases (inside : s.around.head? = some .object) (expected : s.expected = .firstKey ∨ s.expected = .key)
    (step : s.step token = some u) :
    (∃ key, token = .text key ∧ u = s.keep .colon (s.separator ++ key)) ∨ token = .closeObject ∨
      token = .comma ∧ s.expected = .firstKey ∧ u = { s with expected := .close } := by
  obtain ⟨outer, around⟩ := List.head?_eq_some_iff.mp inside
  rcases expected with expected | expected <;> cases token <;>
    simp_all [State.step, State.take, State.takesEnd, State.takesValue, State.takesKey, State.closes, State.afterComma]

/-- Behind a part a container goes on with a comma or ends. -/
theorem next_cases (inside : s.around.head? = some container) (expected : s.expected = .next)
    (step : s.step token = some u) :
    token = container.closer ∨ token = .comma ∧ u = { s with expected := container.later } := by
  obtain ⟨outer, around⟩ := List.head?_eq_some_iff.mp inside
  cases container <;> cases token <;>
    simp_all [State.step, State.take, State.takesEnd, State.takesValue, State.takesKey, State.closes, State.afterComma,
      Container.closer, Container.later]

/-- After a comma that follows nothing the container ends. -/
theorem close_cases (inside : s.around.head? = some container) (expected : s.expected = .close)
    (step : s.step token = some u) : token = container.closer := by
  obtain ⟨outer, around⟩ := List.head?_eq_some_iff.mp inside
  cases container <;> cases token <;>
    simp_all [State.step, State.take, State.takesEnd, State.takesValue, State.takesKey, State.closes, State.afterComma,
      Container.closer]

theorem colon_cases (expected : s.expected = .colon) (step : s.step token = some u) :
    token = .colon ∧ u = s.keep .value [':'] := by
  cases token <;>
    simp_all [State.step, State.take, State.takesEnd, State.takesValue, State.takesKey, State.afterComma]

end Splitting

mutual

/-- Where a document starts, one is read. -/
theorem node_of_run {s t : State} {token : Token} {more : List Token} (takes : s.takesValue = true)
    (starts : token.isStart = true) (run : s.run (token :: more) = some t) (complete : t.isComplete = true) :
    ∃ (d : Node) (rest : List Token), token :: more = d.tokens ++ rest := by
  obtain ⟨u, step, run⟩ := Option.bind_eq_some_iff.mp run
  cases token with
  | text written => exact ⟨.text written, more, rfl⟩
  | scalar written => exact ⟨.scalar written, more, rfl⟩
  | openArray =>
    cases (step_opener .array takes).symm.trans step
    obtain ⟨items, comma, rest, rfl⟩ := items_of_run false rfl rfl (Nat.le_max_right _ _) run complete
    exact ⟨.array items comma, rest, by simp [Node.tokens]⟩
  | openObject =>
    cases (step_opener .object takes).symm.trans step
    obtain ⟨members, comma, rest, rfl⟩ := members_of_run false rfl rfl (Nat.le_max_right _ _) run complete
    exact ⟨.object members comma, rest, by simp [Node.tokens]⟩
  | closeObject | closeArray | comma | colon => cases starts
termination_by 3 * (more.length + 1)

/-- Where an item starts, items are read up to the end of the array. -/
theorem item_of_run {s t : State} {token : Token} {more : List Token} (inside : s.around.head? = some .array)
    (takes : s.takesValue = true) (shallow : s.depth ≤ s.deepest) (starts : token.isStart = true)
    (run : s.run (token :: more) = some t) (complete : t.isComplete = true) :
    ∃ (d : Node) (items : Items) (comma : Bool) (rest : List Token),
      token :: more = d.tokens ++ (items.tokens true ++ (commaIf comma ++ .closeArray :: rest)) := by
  obtain ⟨d, rest, split⟩ := node_of_run takes starts run complete
  obtain ⟨u, run', next, reached⟩ := d.reads takes shallow
  rw [split, State.run_append_of run'] at run
  have shorter := d.length_rest_lt split
  obtain ⟨items, comma, rest, rfl⟩ := items_of_run true (reached.around ▸ inside) next reached.shallow run complete
  exact ⟨d, items, comma, rest, split⟩
termination_by 3 * (more.length + 1) + 1

/-- In an array, items are read up to its end. -/
theorem items_of_run {s t : State} {tokens : List Token} (later : Bool) (inside : s.around.head? = some .array)
    (expected : s.expected = if later then .next else .firstItem) (shallow : s.depth ≤ s.deepest)
    (run : s.run tokens = some t) (complete : t.isComplete = true) :
    ∃ (items : Items) (comma : Bool) (rest : List Token),
      tokens = items.tokens later ++ (commaIf comma ++ .closeArray :: rest) := by
  obtain ⟨token, more, u, same, step, run'⟩ := exists_token inside run complete
  have length : tokens.length = more.length + 1 := congrArg List.length same
  rw [same] at run ⊢
  cases later with
  | false =>
    rcases item_cases inside (.inl expected) step with starts | rfl | ⟨rfl, -, rfl⟩
    · obtain ⟨d, items, comma, rest, split⟩ :=
        item_of_run inside (by simp [State.takesValue, expected]) shallow starts run complete
      exact ⟨.cons d items, comma, rest, by simp [split, Items.tokens, commaIf]⟩
    · exact ⟨.nil, false, more, rfl⟩
    · obtain ⟨token, rest, v, rfl, step, run⟩ := exists_token (s := { s with expected := .close }) inside run' complete
      obtain rfl := close_cases (s := { s with expected := .close }) inside rfl step
      exact ⟨.nil, true, rest, rfl⟩
  | true =>
    rcases next_cases inside expected step with rfl | ⟨rfl, rfl⟩
    · exact ⟨.nil, false, more, rfl⟩
    · obtain ⟨token, rest, v, same', step, run⟩ := exists_token (s := { s with expected := .item }) inside run' complete
      have length' : more.length = rest.length + 1 := congrArg List.length same'
      rw [same'] at run' ⊢
      rcases item_cases (s := { s with expected := .item }) inside (.inr rfl) step with starts | rfl | ⟨-, other, -⟩
      · obtain ⟨d, items, comma, rest, split⟩ :=
          item_of_run (s := { s with expected := .item }) inside rfl shallow starts run' complete
        exact ⟨.cons d items, comma, rest, by simp [split, Items.tokens, commaIf]⟩
      · exact ⟨.nil, true, rest, rfl⟩
      · cases other
termination_by 3 * tokens.length + 2

/-- Behind a key, keys and values are read up to the end of the object. -/
theorem member_of_run {s t : State} {key : List Char} {more : List Token} (inside : s.around.head? = some .object)
    (shallow : s.depth ≤ s.deepest) (run : (s.keep .colon (s.separator ++ key)).run more = some t)
    (complete : t.isComplete = true) :
    ∃ (d : Node) (members : Members) (comma : Bool) (rest : List Token),
      more = .colon :: (d.tokens ++ (members.tokens true ++ (commaIf comma ++ .closeObject :: rest))) := by
  obtain ⟨token, after, u, same, step, run⟩ :=
    exists_token (s := s.keep .colon (s.separator ++ key)) inside run complete
  obtain ⟨rfl, rfl⟩ := colon_cases rfl step
  obtain ⟨token, rest, v, same', step, -⟩ :=
    exists_token (s := (s.keep .colon (s.separator ++ key)).keep .value [':']) inside run complete
  have length : more.length = rest.length + 2 := by rw [same, same']; rfl
  rw [same'] at run
  have starts := start_of_value rfl step
  obtain ⟨d, rest', split⟩ := node_of_run rfl starts run complete
  obtain ⟨w, run', next, reached⟩ := d.reads (s := (s.keep .colon (s.separator ++ key)).keep .value [':']) rfl shallow
  rw [split, State.run_append_of run'] at run
  have shorter := d.length_rest_lt split
  obtain ⟨members, comma, end_, final⟩ :=
    members_of_run true (reached.around ▸ inside) next reached.shallow run complete
  exact ⟨d, members, comma, end_, by rw [same, same', split, final]⟩
termination_by 3 * more.length + 1

/-- In an object, keys and values are read up to its end. -/
theorem members_of_run {s t : State} {tokens : List Token} (later : Bool) (inside : s.around.head? = some .object)
    (expected : s.expected = if later then .next else .firstKey) (shallow : s.depth ≤ s.deepest)
    (run : s.run tokens = some t) (complete : t.isComplete = true) :
    ∃ (members : Members) (comma : Bool) (rest : List Token),
      tokens = members.tokens later ++ (commaIf comma ++ .closeObject :: rest) := by
  obtain ⟨token, more, u, same, step, run'⟩ := exists_token inside run complete
  have length : tokens.length = more.length + 1 := congrArg List.length same
  rw [same]
  cases later with
  | false =>
    rcases key_cases inside (.inl expected) step with ⟨key, rfl, rfl⟩ | rfl | ⟨rfl, -, rfl⟩
    · obtain ⟨d, members, comma, rest, split⟩ := member_of_run inside shallow run' complete
      exact ⟨.cons key d members, comma, rest, by simp [split, Members.tokens, commaIf]⟩
    · exact ⟨.nil, false, more, rfl⟩
    · obtain ⟨token, rest, v, rfl, step, run⟩ := exists_token (s := { s with expected := .close }) inside run' complete
      obtain rfl := close_cases (s := { s with expected := .close }) inside rfl step
      exact ⟨.nil, true, rest, rfl⟩
  | true =>
    rcases next_cases inside expected step with rfl | ⟨rfl, rfl⟩
    · exact ⟨.nil, false, more, rfl⟩
    · obtain ⟨token, rest, v, same', step, run⟩ := exists_token (s := { s with expected := .key }) inside run' complete
      have length' : more.length = rest.length + 1 := congrArg List.length same'
      rw [same']
      rcases key_cases (s := { s with expected := .key }) inside (.inr rfl) step with
        ⟨key, rfl, rfl⟩ | rfl | ⟨-, other, -⟩
      · obtain ⟨d, members, comma, rest, split⟩ :=
          member_of_run (s := { s with expected := .key }) inside shallow run complete
        exact ⟨.cons key d members, comma, rest, by simp [split, Members.tokens, commaIf]⟩
      · exact ⟨.nil, true, rest, rfl⟩
      · cases other
termination_by 3 * tokens.length + 2

end

/-! ## Whole documents -/

section Whole

variable {s t : State} {token : Token} {tokens : List Token}

/-- Behind a whole document nothing may stand. -/
theorem run_of_done (around : s.around = []) (next : s.expected = .next) (run : s.run tokens = some t) :
    tokens = [] := by
  cases tokens with
  | nil => rfl
  | cons token more =>
    obtain ⟨u, step, -⟩ := Option.bind_eq_some_iff.mp run
    cases token <;>
      simp [State.step, State.take, State.takesEnd, State.takesValue, State.takesKey, State.closes, State.afterComma,
        around, next] at step

/-- A document is read to its end. -/
theorem Node.completes (d : Node) : ∃ t, State.start.run d.tokens = some t ∧ t.isComplete = true ∧
    t.text = d.plain ∧ t.deepest = d.depth := by
  obtain ⟨t, run, next, reached⟩ := d.reads (s := .start) rfl (Nat.le_refl 0)
  have around : t.around = [] := reached.around
  refine ⟨t, run, ?_, ?_, ?_⟩
  · rw [State.isComplete, around, next]
    rfl
  · rw [reached.text]
    rfl
  · rw [reached.deepest]
    exact (Nat.zero_max _).trans (Nat.zero_add _)

/-- What is read to its end is a document. -/
theorem node_of_complete (run : State.start.run tokens = some t) (complete : t.isComplete = true) :
    ∃ d : Node, tokens = d.tokens := by
  cases tokens with
  | nil =>
    cases run
    cases complete
  | cons token more =>
    obtain ⟨u, step, -⟩ := Option.bind_eq_some_iff.mp run
    obtain ⟨d, rest, split⟩ := node_of_run rfl (start_of_value rfl step) run complete
    obtain ⟨v, run', next, reached⟩ := d.reads (s := .start) rfl (Nat.le_refl 0)
    rw [split, State.run_append_of run'] at run
    have done := run_of_done (s := v) reached.around next run
    exact ⟨d, by rw [split, done, List.append_nil]⟩

end Whole

/-! ## The first token that is refused -/

/-- Tokens that some document starts with. -/
def Viable (tokens : List Token) : Prop := ∃ (d : Node) (more : List Token), d.tokens = tokens ++ more

/-- Outside of all containers the document is expected or has been read. -/
def State.Placed (s : State) : Prop := s.around = [] → s.expected = .value ∨ s.expected = .next

section Viability

variable {s t : State} {token : Token} {tokens : List Token}

theorem expected_of_closes {container : Container} {bracket : Char} (closes : s.closes container bracket = some t) :
    t.expected = .next := by
  unfold State.closes at closes
  split at closes
  · obtain ⟨-, same⟩ := Option.ite_none_right_eq_some.mp closes
    cases same
    rfl
  · cases closes

/-- A comma stands in a container. -/
theorem around_of_afterComma (placed : s.Placed) (after : s.afterComma = some t) : t.around ≠ [] := by
  unfold State.afterComma at after
  intro outside
  split at after <;> cases after
  · next _ first => rcases placed outside with expected | expected <;> cases first.symm.trans expected
  · next _ first => rcases placed outside with expected | expected <;> cases first.symm.trans expected
  · next inside => cases outside.symm.trans inside
  · next inside => cases outside.symm.trans inside

theorem State.Placed.step (placed : s.Placed) (step : s.step token = some t) : t.Placed := by
  intro outside
  cases token with
  | openObject | openArray =>
    obtain ⟨-, same⟩ := Option.ite_none_right_eq_some.mp step
    cases same
    cases outside
  | closeObject | closeArray =>
    obtain ⟨-, closes⟩ := Option.ite_none_right_eq_some.mp step
    exact .inr (expected_of_closes closes)
  | comma => exact absurd outside (around_of_afterComma placed step)
  | colon =>
    obtain ⟨-, same⟩ := Option.ite_none_right_eq_some.mp step
    cases same
    exact .inl rfl
  | text written =>
    simp only [State.step, State.take] at step
    split at step
    · next key =>
      cases step
      rcases placed outside with expected | expected <;> rw [State.takesKey, expected] at key <;> cases key
    · obtain ⟨-, same⟩ := Option.ite_none_right_eq_some.mp step
      cases same
      exact .inr rfl
  | scalar written =>
    obtain ⟨-, same⟩ := Option.ite_none_right_eq_some.mp step
    cases same
    exact .inr rfl

theorem State.Placed.run (placed : s.Placed) (run : s.run tokens = some t) : t.Placed := by
  induction tokens generalizing s with
  | nil =>
    cases run
    exact placed
  | cons token more ih =>
    obtain ⟨u, step, run⟩ := Option.bind_eq_some_iff.mp run
    exact ih (placed.step step) run

/-- Containers that may end are closed one after the other. -/
theorem run_closers {around : List Container} (inside : s.around = around) (ends : s.takesEnd = true)
    (placed : s.Placed) : ∃ tokens t, s.run tokens = some t ∧ t.isComplete = true := by
  induction around generalizing s with
  | nil =>
    refine ⟨[], s, rfl, ?_⟩
    rcases placed inside with expected | expected
    · rw [State.takesEnd, expected] at ends
      cases ends
    · rw [State.isComplete, inside, expected]
      rfl
  | cons container outer ih =>
    have closed := step_closer inside ends
    obtain ⟨tokens, t, run, complete⟩ := ih rfl rfl (placed.step closed)
    exact ⟨container.closer :: tokens, t, by rw [State.run_cons, closed, Option.bind_some, run], complete⟩

/-- From wherever the reader is, some tokens complete a document. -/
theorem State.Placed.completes (placed : s.Placed) : ∃ tokens t, s.run tokens = some t ∧ t.isComplete = true := by
  have value {s : State} (placed : s.Placed) (expected : s.expected = .value) :
      ∃ tokens t, s.run tokens = some t ∧ t.isComplete = true := by
    have step : s.step (.scalar []) = some (s.keep .next (s.separator ++ [])) := by
      simp [State.step, State.take, State.takesValue, expected]
    obtain ⟨tokens, t, run, complete⟩ := run_closers rfl rfl (placed.step step)
    exact ⟨.scalar [] :: tokens, t, by rw [State.run_cons, step, Option.bind_some, run], complete⟩
  by_cases expected : s.expected = .value
  · exact value placed expected
  · by_cases colon : s.expected = .colon
    · have step : s.step .colon = some (s.keep .value [':']) := by
        simp [State.step, State.take, colon]
      obtain ⟨tokens, t, run, complete⟩ := value (placed.step step) rfl
      exact ⟨.colon :: tokens, t, by rw [State.run_cons, step, Option.bind_some, run], complete⟩
    · exact run_closers rfl (by simp [State.takesEnd, expected, colon]) placed

/-- The reader takes the tokens that documents start with. -/
theorem run_isSome_iff : (State.start.run tokens).isSome = true ↔ Viable tokens := by
  constructor
  · intro some
    obtain ⟨s, here⟩ := Option.isSome_iff_exists.mp some
    have placed : State.start.Placed := fun _ => .inl rfl
    obtain ⟨more, t, run, complete⟩ := (placed.run here).completes
    obtain ⟨d, whole⟩ := node_of_complete (by rw [State.run_append_of here, run]) complete
    exact ⟨d, more, whole.symm⟩
  · rintro ⟨d, more, whole⟩
    obtain ⟨t, run, -⟩ := d.completes
    rw [whole, State.run_append] at run
    obtain ⟨s, here, -⟩ := Option.bind_eq_some_iff.mp run
    rw [here]
    rfl

end Viability

/-! ## Texts -/

/-- The tokens of a text, up to where no piece stands, and whether that is its end. -/
def lex (text : List Char) : List Token × Bool :=
  match text with
  | [] => ([], true)
  | c :: rest =>
    match piece? (c :: rest) with
    | none => ([], false)
    | some (.blank, size) => lex (rest.drop (size - 1))
    | some (.token kind written, size) =>
      let (tokens, whole) := lex (rest.drop (size - 1))
      (.of kind written :: tokens, whole)
termination_by text.length
decreasing_by all_goals simp only [List.length_drop, List.length_cons]; omega

/-- What a state makes of tokens that are the whole text, or are followed by what is none. -/
def State.outcome (s : State) (tokens : List Token) (whole : Bool) : Except Reading (List Char) :=
  match s.run tokens with
  | none => .error .misplaced
  | some t =>
    if !whole then .error .unreadable
    else if !t.isComplete then .error .misplaced
    else if maxNesting < t.deepest then .error .tooDeep
    else .ok t.text

/-- A text is read by its tokens. -/
theorem scan_eq (s : State) (text : List Char) : scan s text = s.outcome (lex text).1 (lex text).2 := by
  fun_induction scan s text with
  | case1 s incomplete => simp [lex, State.outcome, State.run_nil, incomplete]
  | case2 s complete deep => simp_all [lex, State.outcome, State.run_nil]
  | case3 s complete shallow => simp_all [lex, State.outcome, State.run_nil]
  | case4 s c rest none => simp [lex, none, State.outcome, State.run_nil]
  | case5 s c rest size blank ih => rw [ih, lex, blank]
  | case6 s c rest kind written size piece refused =>
    rw [lex, piece]
    simp [State.outcome, State.run_cons, State.step_of, refused]
  | case7 s c rest kind written size piece next taken ih =>
    rw [ih, lex, piece]
    simp only [State.outcome, State.run_cons, State.step_of, taken, Option.bind_some]

/-- The whole text is the tokens of a document, with blanks and comments between. -/
def Spells (text : List Char) (d : Node) : Prop := lex text = (d.tokens, true)

/-- A token stands where no document goes on with it, or the text ends before its document does. -/
def Misplaced (text : List Char) : Prop :=
  ¬Viable (lex text).1 ∨ (lex text).2 = true ∧ ∀ d : Node, (lex text).1 ≠ d.tokens

/-- The text of a document that nests deeper than is read. -/
def TooDeep (text : List Char) : Prop := ∃ d, Spells text d ∧ maxNesting < d.depth

/-- The text of an object: without comments and spare commas it is JSON. -/
def IsObject (text : List Char) (entries : Json.Entries) : Prop :=
  ∃ d, Spells text d ∧ Json.parse d.plain = .ok (.obj entries)

section Texts

variable {text : List Char} {d : Node}

theorem read_of_spells (spells : Spells text d) :
    read text =
      if maxNesting < d.depth then .tooDeep
      else match Json.parse d.plain with
        | .ok v => .value v
        | .error _ => .unreadable := by
  obtain ⟨t, run, complete, plain, deepest⟩ := d.completes
  rw [read, scan_eq, spells, State.outcome, run]
  simp only [Bool.not_true, Bool.false_eq_true, ↓reduceIte, complete, plain, deepest]
  by_cases deep : maxNesting < d.depth
  · rw [if_pos deep, if_pos deep]
  · rw [if_neg deep]
    exact (if_neg deep).symm

theorem read_of_misplaced (misplaced : Misplaced text) : read text = .misplaced := by
  rw [read, scan_eq, State.outcome]
  cases run : State.start.run (lex text).1 with
  | none => rfl
  | some t =>
    rcases misplaced with refused | ⟨whole, other⟩
    · exact absurd (run_isSome_iff.mp (by rw [run]; rfl)) refused
    · have incomplete : t.isComplete = false := by
        refine Bool.eq_false_iff.mpr fun complete => ?_
        obtain ⟨d, same⟩ := node_of_complete run complete
        exact other d same
      simp [whole, incomplete]

/-- A text is that of a document, or a token is misplaced in it, or it ends where no piece stands and no token was
misplaced before. -/
theorem read_cases (text : List Char) :
    (∃ d, Spells text d) ∨ Misplaced text ∨ (∀ d, ¬Spells text d) ∧ ¬Misplaced text ∧ read text = .unreadable := by
  by_cases misplaced : Misplaced text
  · exact .inr (.inl misplaced)
  · by_cases document : ∃ d, Spells text d
    · exact .inl document
    · refine .inr (.inr ⟨fun d spells => document ⟨d, spells⟩, misplaced, ?_⟩)
      have stuck : (lex text).2 = false :=
        Bool.eq_false_iff.mpr fun whole => misplaced (.inr ⟨whole, fun d same => document ⟨d, Prod.ext same whole⟩⟩)
      have viable : Viable (lex text).1 := Classical.byContradiction fun refused => misplaced (.inl refused)
      obtain ⟨t, run⟩ := Option.isSome_iff_exists.mp (run_isSome_iff.mpr viable)
      rw [read, scan_eq, State.outcome, run, stuck]
      rfl

end Texts

end EditorAssist.Settings.Commented

import EditorAssist.Payload.Codec
import EditorAssist.Proofs.Json.Entries
import Mathlib.Data.List.Pairwise

/-!
# Spellings of the keys of a value

A field goes by two names, a wire key and a snake_case name. A `Shape` says where the fields of a value
are, and `Respelled` when one value arises from another by giving one field its snake_case name. What is
given for a field, by whichever name, is then respelled at most.
-/

namespace EditorAssist.Payload

open EditorAssist.Json

/-! ## Finite numbers -/

section Numbers

mutual

/-- Whether every number in a value is finite. -/
def hasFiniteNumbers : Value → Bool
  | .float x => x.isFinite
  | .arr items => itemsHaveFiniteNumbers items
  | .obj entries => entriesHaveFiniteNumbers entries
  | _ => true

def itemsHaveFiniteNumbers : List Value → Bool
  | [] => true
  | v :: rest => hasFiniteNumbers v && itemsHaveFiniteNumbers rest

def entryHasFiniteNumbers : String × Value → Bool
  | (_, v) => hasFiniteNumbers v

def entriesHaveFiniteNumbers : Entries → Bool
  | [] => true
  | entry :: rest => entryHasFiniteNumbers entry && entriesHaveFiniteNumbers rest

end

theorem itemsHaveFiniteNumbers_iff {items : List Value} :
    itemsHaveFiniteNumbers items = true ↔ ∀ v ∈ items, hasFiniteNumbers v = true := by
  induction items with
  | nil => simp [itemsHaveFiniteNumbers]
  | cons v rest ih => simp [itemsHaveFiniteNumbers, ih]

theorem entriesHaveFiniteNumbers_iff {entries : Entries} :
    entriesHaveFiniteNumbers entries = true ↔ ∀ entry ∈ entries, hasFiniteNumbers entry.2 = true := by
  induction entries with
  | nil => simp [entriesHaveFiniteNumbers]
  | cons entry rest ih =>
    obtain ⟨key, v⟩ := entry
    rw [entriesHaveFiniteNumbers, entryHasFiniteNumbers, Bool.and_eq_true, ih, List.forall_mem_cons]

mutual

/-- A value with finite numbers is written as it is. -/
theorem withFiniteNumbers_of_finite : ∀ {v : Value}, hasFiniteNumbers v = true → withFiniteNumbers v = v
  | .null, _ | .bool _, _ | .int _, _ | .str _, _ => rfl
  | .float x, finite => by
    rw [hasFiniteNumbers] at finite
    rw [withFiniteNumbers, if_pos finite]
  | .arr items, finite => by
    rw [hasFiniteNumbers] at finite
    rw [withFiniteNumbers, itemsWithFiniteNumbers_of_finite finite]
  | .obj entries, finite => by
    rw [hasFiniteNumbers] at finite
    rw [withFiniteNumbers, entriesWithFiniteNumbers_of_finite finite]

theorem itemsWithFiniteNumbers_of_finite :
    ∀ {items : List Value}, itemsHaveFiniteNumbers items = true → itemsWithFiniteNumbers items = items
  | [], _ => rfl
  | v :: rest, finite => by
    rw [itemsHaveFiniteNumbers, Bool.and_eq_true] at finite
    rw [itemsWithFiniteNumbers, withFiniteNumbers_of_finite finite.1, itemsWithFiniteNumbers_of_finite finite.2]

theorem entryWithFiniteNumbers_of_finite :
    ∀ {entry : String × Value}, entryHasFiniteNumbers entry = true → entryWithFiniteNumbers entry = entry
  | (key, v), finite => by
    rw [entryHasFiniteNumbers] at finite
    rw [entryWithFiniteNumbers, withFiniteNumbers_of_finite finite]

theorem entriesWithFiniteNumbers_of_finite :
    ∀ {entries : Entries}, entriesHaveFiniteNumbers entries = true → entriesWithFiniteNumbers entries = entries
  | [], _ => rfl
  | entry :: rest, finite => by
    rw [entriesHaveFiniteNumbers, Bool.and_eq_true] at finite
    rw [entriesWithFiniteNumbers, entryWithFiniteNumbers_of_finite finite.1,
      entriesWithFiniteNumbers_of_finite finite.2]

end

end Numbers

/-! ## Shapes -/

/-- Where the fields of the values of a type are: a value has none, or it is a list or a mapping of such
values, or an object with fields of its own. -/
inductive Shape where
  | plain
  | list (item : Shape)
  | mapping (item : Shape)
  | object (fields : List (String × Shape))

/-- The fields of an object, each with the shape of its values. -/
def Shape.fields : Shape → List (String × Shape)
  | .object fields => fields
  | _ => []

/-- An entry under another key, when it is under the first one. -/
def renamed (old new : String) (entry : String × Value) : String × Value :=
  (if entry.1 = old then new else entry.1, entry.2)

/-- The second value is the first one, with at most one of its wire keys replaced by the snake_case name of
the same field. The key may be anywhere in the value; where it is, the snake_case name is not there yet. -/
inductive Respelled : Shape → Value → Value → Prop where
  | same {shape : Shape} (v : Value) : Respelled shape v v
  | key {fields : List (String × Shape)} {field : String × Shape} {entries : Entries} (own : field ∈ fields)
      (absent : Entries.get? field.1 entries = none) :
      Respelled (.object fields) (.obj entries) (.obj (entries.map (renamed (wireKey field.1) field.1)))
  | field {fields : List (String × Shape)} {field : String × Shape} {key : String} {v w : Value}
      (before after : Entries) (own : field ∈ fields) (names : key = wireKey field.1 ∨ key = field.1)
      (inside : Respelled field.2 v w) :
      Respelled (.object fields) (.obj (before ++ (key, v) :: after)) (.obj (before ++ (key, w) :: after))
  | item {shape : Shape} {v w : Value} (before after : List Value) (inside : Respelled shape v w) :
      Respelled (.list shape) (.arr (before ++ v :: after)) (.arr (before ++ w :: after))
  | entry {shape : Shape} {key : String} {v w : Value} (before after : Entries) (inside : Respelled shape v w) :
      Respelled (.mapping shape) (.obj (before ++ (key, v) :: after)) (.obj (before ++ (key, w) :: after))

namespace Respelled

variable {shape : Shape} {v w : Value}

theorem eq_of_plain (respelled : Respelled .plain v w) : v = w := by
  cases respelled
  rfl

/-- A value that is not null stays so. -/
theorem null_iff (respelled : Respelled shape v w) : v = .null ↔ w = .null := by
  cases respelled <;> simp

/-- What is not an object stays as it is where an object is expected. -/
theorem of_object {fields : List (String × Shape)} (respelled : Respelled (.object fields) v w) :
    v = w ∨ ∃ old new, v = .obj old ∧ w = .obj new ∧ Respelled (.object fields) (.obj old) (.obj new) := by
  cases respelled with
  | same => exact .inl rfl
  | key own absent => exact .inr ⟨_, _, rfl, rfl, .key own absent⟩
  | field before after own names inside => exact .inr ⟨_, _, rfl, rfl, .field before after own names inside⟩

end Respelled

/-! ## What is given for a field -/

/-- The value that is given for a field, under its wire key or else under its snake_case name. -/
def given (name : String) (entries : Entries) : Option Value := (Fields.lookup name entries).map (·.2)

theorem given_eq (name : String) (entries : Entries) :
    given name entries = (Entries.get? (wireKey name) entries).or (Entries.get? name entries) := by
  unfold given Fields.lookup
  cases Entries.get? (wireKey name) entries <;> cases Entries.get? name entries <;> rfl

section Entries

variable {name key : String} {entries : Entries}

theorem get?_append (key : String) (front back : Entries) :
    Entries.get? key (front ++ back) = (Entries.get? key front).or (Entries.get? key back) := by
  rw [Entries.get?, Entries.get?, Entries.get?, List.find?_append]
  cases front.find? (·.1 == key) <;> rfl

theorem get?_eq_none_iff : Entries.get? key entries = none ↔ ∀ entry ∈ entries, entry.1 ≠ key := by
  simp [Entries.get?]

theorem get?_cons (name key : String) (v : Value) (rest : Entries) :
    Entries.get? key ((name, v) :: rest) = if name = key then some v else Entries.get? key rest := by
  by_cases same : name = key
  · rw [if_pos same, same, Entries.get?_cons_self]
  · rw [if_neg same, Entries.get?_cons_of_ne same]

/-- A key that is neither of two is found where it was when one of them takes the place of the other. -/
theorem get?_renamed_of_ne {old new : String} (notOld : key ≠ old) (notNew : key ≠ new) (entries : Entries) :
    Entries.get? key (entries.map (renamed old new)) = Entries.get? key entries := by
  induction entries with
  | nil => rfl
  | cons entry rest ih =>
    obtain ⟨held, v⟩ := entry
    rw [List.map_cons, renamed, get?_cons, get?_cons, ih]
    by_cases same : held = old
    · subst same
      simp [Ne.symm notOld, Ne.symm notNew]
    · simp [same]

/-- The new name finds what the old one found, when it found nothing of its own. -/
theorem get?_renamed_new {old new : String} (absent : Entries.get? new entries = none) :
    Entries.get? new (entries.map (renamed old new)) = Entries.get? old entries := by
  induction entries with
  | nil => rfl
  | cons entry rest ih =>
    obtain ⟨held, v⟩ := entry
    rw [get?_cons] at absent
    have other : held ≠ new := fun same => by simp [same] at absent
    rw [if_neg other] at absent
    rw [List.map_cons, renamed, get?_cons, get?_cons, ih absent]
    by_cases same : held = old
    · simp [same]
    · simp [same, other]

theorem get?_renamed_old {old new : String} (apart : new ≠ old) (entries : Entries) :
    Entries.get? old (entries.map (renamed old new)) = none := by
  rw [get?_eq_none_iff]
  intro entry member
  obtain ⟨held, -, rfl⟩ := List.mem_map.mp member
  by_cases same : held.1 = old
  · simpa [renamed, same] using apart
  · simp [renamed, same]

/-- Writing behind or before other entries does not change what is given for a field, as long as they have
other keys. -/
theorem given_append_of_left {front back : Entries}
    (others : ∀ entry ∈ back, entry.1 ≠ wireKey name ∧ entry.1 ≠ name) :
    given name (front ++ back) = given name front := by
  have noKey : Entries.get? (wireKey name) back = none :=
    get?_eq_none_iff.mpr fun entry member => (others entry member).1
  have noName : Entries.get? name back = none :=
    get?_eq_none_iff.mpr fun entry member => (others entry member).2
  rw [given_eq, given_eq, get?_append, get?_append, noKey, noName, Option.or_none, Option.or_none]

theorem given_append_of_right {front back : Entries}
    (others : ∀ entry ∈ front, entry.1 ≠ wireKey name ∧ entry.1 ≠ name) :
    given name (front ++ back) = given name back := by
  have noKey : Entries.get? (wireKey name) front = none :=
    get?_eq_none_iff.mpr fun entry member => (others entry member).1
  have noName : Entries.get? name front = none :=
    get?_eq_none_iff.mpr fun entry member => (others entry member).2
  rw [given_eq, given_eq, get?_append, get?_append, noKey, noName, Option.none_or, Option.none_or]

theorem given_single (name : String) (v : Value) : given name [(wireKey name, v)] = some v := by
  rw [given_eq, Entries.get?_cons_self, Option.some_or]

theorem finite_of_given {v : Value} (finite : entriesHaveFiniteNumbers entries = true)
    (found : given name entries = some v) : hasFiniteNumbers v = true := by
  have held (key : String) (got : Entries.get? key entries = some v) : hasFiniteNumbers v = true := by
    obtain ⟨entry, first, rfl⟩ := Option.map_eq_some_iff.mp got
    exact entriesHaveFiniteNumbers_iff.mp finite entry (List.mem_of_find?_eq_some first)
  rw [given_eq, Option.or_eq_some_iff] at found
  exact found.elim (held _) fun other => held _ other.2

end Entries

/-! ## Fields apart -/

/-- Two fields of which neither name is a name of the other. -/
def Apart (first second : String × Shape) : Prop :=
  first.1 ≠ second.1 ∧ wireKey first.1 ≠ wireKey second.1 ∧ wireKey first.1 ≠ second.1 ∧ first.1 ≠ wireKey second.1

instance : DecidableRel Apart := fun first second =>
  inferInstanceAs (Decidable (first.1 ≠ second.1 ∧ wireKey first.1 ≠ wireKey second.1 ∧
    wireKey first.1 ≠ second.1 ∧ first.1 ≠ wireKey second.1))

theorem Apart.symm {first second : String × Shape} (apart : Apart first second) : Apart second first :=
  ⟨apart.1.symm, apart.2.1.symm, apart.2.2.2.symm, apart.2.2.1.symm⟩

instance : Std.Symm Apart := ⟨fun _ _ => Apart.symm⟩

/-- What is found in two objects, if anything, is the same up to the spelling of a key. -/
abbrev Alike (shape : Shape) : Option Value → Option Value → Prop := Option.Rel (Respelled shape)

theorem Alike.of_eq {shape : Shape} {v w : Option Value} (same : v = w) : Alike shape v w := by
  subst same
  cases v with
  | none => exact .none
  | some v => exact .some (.same v)

theorem Alike.or {shape : Shape} {v w v' w' : Option Value} (first : Alike shape v w) (second : Alike shape v' w') :
    Alike shape (v.or v') (w.or w') := by
  cases first with
  | none => exact second
  | some respelled => exact .some respelled

theorem Alike.none_iff {shape : Shape} {v w : Option Value} (alike : Alike shape v w) : v = none ↔ w = none := by
  cases alike <;> simp

/-- A property that respelling does not change holds of what is found in both objects or in neither. -/
theorem Alike.some_iff {shape : Shape} {v w : Option Value} (alike : Alike shape v w) {P : Value → Prop}
    (same : ∀ {a b}, Respelled shape a b → (P a ↔ P b)) : (∃ a, v = some a ∧ P a) ↔ ∃ b, w = some b ∧ P b := by
  cases alike with
  | none => simp
  | some respelled => simpa using same respelled

/-- Replacing the value of one entry changes nothing but what its key finds. -/
theorem get?_replaced {shape : Shape} {v w : Value} (respelled : Respelled shape v w) (name key : String)
    (before after : Entries) :
    Alike shape (Entries.get? name (before ++ (key, v) :: after))
      (Entries.get? name (before ++ (key, w) :: after)) := by
  rw [get?_append, get?_append]
  refine Alike.or (.of_eq rfl) ?_
  by_cases same : key = name
  · subst same
    rw [Entries.get?_cons_self, Entries.get?_cons_self]
    exact .some respelled
  · rw [Entries.get?_cons_of_ne same, Entries.get?_cons_of_ne same]
    exact .of_eq rfl

/-- Objects of which one is a respelling of the other give the same for every field up to the spelling of a key. -/
theorem Respelled.alike {fields : List (String × Shape)} {old new : Entries}
    (apart : fields.Pairwise Apart) (respelled : Respelled (.object fields) (.obj old) (.obj new)) :
    ∀ field ∈ fields, Alike field.2 (given field.1 old) (given field.1 new) := by
  intro field own
  cases respelled with
  | same => exact .of_eq rfl
  | @key _ other _ there absent =>
    refine .of_eq ?_
    by_cases same : field = other
    · subst same
      rw [given_eq, given_eq, get?_renamed_new absent, absent, Option.or_none]
      by_cases one : field.1 = wireKey field.1
      · -- There is one name only, under which nothing is held.
        rw [← one, get?_renamed_new absent, absent]
        rfl
      · rw [get?_renamed_old one, Option.none_or]
    · -- The names of another field are neither the old nor the new key.
      obtain ⟨names, keys, keyName, nameKey⟩ := apart.forall own there same
      rw [given_eq, given_eq, get?_renamed_of_ne keys keyName, get?_renamed_of_ne nameKey names]
  | @field _ other key v w before after there names inside =>
    rw [given_eq, given_eq]
    by_cases same : field = other
    · subst same
      exact (get?_replaced inside _ _ _ _).or (get?_replaced inside _ _ _ _)
    · obtain ⟨nameName, keyKey, keyName, nameKey⟩ := apart.forall own there same
      have elsewhere (name : String) (other : key ≠ name) : Entries.get? name (before ++ (key, v) :: after) =
          Entries.get? name (before ++ (key, w) :: after) := by
        rw [get?_append, get?_append, Entries.get?_cons_of_ne other, Entries.get?_cons_of_ne other]
      refine .of_eq ?_
      rcases names with rfl | rfl
      · rw [elsewhere _ keyKey.symm, elsewhere _ nameKey.symm]
      · rw [elsewhere _ keyName.symm, elsewhere _ nameName.symm]

end EditorAssist.Payload

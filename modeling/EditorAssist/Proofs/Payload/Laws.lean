import EditorAssist.Payload.Types
import EditorAssist.Proofs.Payload.Spelling
import Mathlib.Data.List.Forall2

/-!
# Laws of codecs

A codec is lawful when it reads what it writes back as what was written and reads respelled values alike.
Each way to build a codec keeps the laws, so those of a type follow from those of its fields.
-/

namespace EditorAssist.Payload

open EditorAssist.Json EditorAssist.Text

variable {α β : Type}

/-! ## Results -/

section Results

theorem both_eq_ok_iff {first : Except (List Mismatch) α} {second : Except (List Mismatch) β} {ab : α × β} :
    both first second = .ok ab ↔ first = .ok ab.1 ∧ second = .ok ab.2 := by
  cases first <;> cases second <;> simp [both, Prod.ext_iff]

theorem map_eq_ok_iff {result : Except (List Mismatch) α} {f : α → β} {b : β} :
    result.map f = .ok b ↔ ∃ a, result = .ok a ∧ f a = b := by
  cases result <;> simp [Except.map]

@[simp]
theorem within_eq_ok_iff {step : Step} {result : Except (List Mismatch) α} {a : α} :
    within step result = .ok a ↔ result = .ok a := by
  cases result <;> simp [within, Except.mapError]

theorem Codec.readList_eq_ok_iff {read : Value → Except (List Mismatch) α} {index : Nat} {items : List Value}
    {result : List α} :
    Codec.readList read index items = .ok result ↔ List.Forall₂ (fun v a => read v = .ok a) items result := by
  induction items generalizing index result with
  | nil => simp [Codec.readList, eq_comm]
  | cons v rest ih =>
    rw [Codec.readList, map_eq_ok_iff, List.forall₂_cons_left_iff]
    constructor
    · rintro ⟨⟨a, more⟩, read, rfl⟩
      obtain ⟨first, others⟩ := both_eq_ok_iff.mp read
      exact ⟨a, more, within_eq_ok_iff.mp first, ih.mp others, rfl⟩
    · rintro ⟨a, more, first, others, rfl⟩
      exact ⟨(a, more), both_eq_ok_iff.mpr ⟨within_eq_ok_iff.mpr first, ih.mpr others⟩, rfl⟩

theorem Codec.branch_eq_ok_iff {codec : Codec α} {of : α → β} {v : Value} {b : β} :
    Codec.branch codec of v = .ok b ↔ ∃ a, codec.read v = .ok a ∧ of a = b := by
  simp [Codec.branch, map_eq_ok_iff]

theorem Codec.firstOf_cons_eq_ok_iff {first : Except (List Mismatch) α} {rest : List (Except (List Mismatch) α)}
    {a : α} : Codec.firstOf (first :: rest) = .ok a ↔
      first = .ok a ∨ (∀ b, first ≠ .ok b) ∧ Codec.firstOf rest = .ok a := by
  cases first with
  | ok b => simp [Codec.firstOf]
  | error wrong => cases more : Codec.firstOf rest <;> simp [Codec.firstOf, more, Except.mapError]

/-- An entry that is read, with the key kept. -/
def ReadsEntry (read : Value → Except (List Mismatch) α) (entry : String × Value) (pair : String × α) : Prop :=
  entry.1 = pair.1 ∧ read entry.2 = .ok pair.2

theorem Codec.readEntries_eq_ok_iff {read : Value → Except (List Mismatch) α} {entries : Entries}
    {result : List (String × α)} :
    Codec.readEntries read entries = .ok result ↔ List.Forall₂ (ReadsEntry read) entries result := by
  induction entries generalizing result with
  | nil => simp [Codec.readEntries, eq_comm]
  | cons entry rest ih =>
    obtain ⟨key, v⟩ := entry
    rw [Codec.readEntries, map_eq_ok_iff, List.forall₂_cons_left_iff]
    constructor
    · rintro ⟨⟨a, more⟩, read, rfl⟩
      obtain ⟨first, others⟩ := both_eq_ok_iff.mp read
      exact ⟨(key, a), more, ⟨rfl, within_eq_ok_iff.mp first⟩, ih.mp others, rfl⟩
    · rintro ⟨⟨_, a⟩, more, ⟨rfl, first⟩, others, rfl⟩
      exact ⟨(a, more), both_eq_ok_iff.mpr ⟨within_eq_ok_iff.mpr first, ih.mpr others⟩, rfl⟩

/-- A row is related to the same rows when one item of it is replaced by one that is related to the same. -/
theorem forall₂_replaced {R : α → β → Prop} {a a' : α} (same : ∀ b, R a b ↔ R a' b) (before after : List α)
    (row : List β) : List.Forall₂ R (before ++ a :: after) row ↔ List.Forall₂ R (before ++ a' :: after) row := by
  induction before generalizing row with
  | nil => simp [List.forall₂_cons_left_iff, same]
  | cons first rest ih => simp [List.forall₂_cons_left_iff, ih]

end Results

/-! ## Codecs -/

/-- The laws of a codec for a type whose values have a shape. What is read from a value with finite numbers
is `kept`, and what is kept is written such that it is read again, with finite numbers. Of an object only what is
given for the fields of the shape matters. -/
structure Codec.Lawful (codec : Codec α) (shape : Shape) (kept : α → Prop) : Prop where
  keeps : ∀ {a}, kept a → codec.read (codec.write a) = .ok a
  finite : ∀ {a}, kept a → hasFiniteNumbers (codec.write a) = true
  yields : ∀ {v a}, hasFiniteNumbers v = true → codec.read v = .ok a → kept a
  respelled : ∀ {v w}, Respelled shape v w → ∀ a, codec.read v = .ok a ↔ codec.read w = .ok a
  alike : ∀ {fields old new}, shape = .object fields →
    (∀ field ∈ fields, Alike field.2 (given field.1 old) (given field.1 new)) →
    ∀ a, codec.read (.obj old) = .ok a ↔ codec.read (.obj new) = .ok a

/-- Every value of the type is kept. -/
def Always (_ : α) : Prop := True

namespace Codec

theorem lawful_whole {name : String} {read : Value → Except Complaint α} {write : α → Value}
    (keeps : ∀ a, read (write a) = .ok a) (finite : ∀ a, hasFiniteNumbers (write a) = true) :
    (whole name read write).Lawful .plain Always where
  keeps _ := by simp [whole, keeps]
  finite _ := finite _
  yields _ _ := trivial
  respelled respelled _ := by rw [respelled.eq_of_plain]
  alike := nofun

theorem lawful_text : text.Lawful .plain Always := lawful_whole (fun _ => rfl) fun _ => rfl
theorem lawful_integer : integer.Lawful .plain Always := lawful_whole (fun _ => rfl) fun _ => rfl
theorem lawful_flag : flag.Lawful .plain Always := lawful_whole (fun _ => rfl) fun _ => rfl

theorem lawful_any : any.Lawful .plain (hasFiniteNumbers · = true) where
  keeps finite := by simp [any, withFiniteNumbers_of_finite finite]
  finite finite := by simpa [any, withFiniteNumbers_of_finite finite] using finite
  yields finite read := by
    cases read
    exact finite
  respelled respelled _ := by rw [respelled.eq_of_plain]
  alike := nofun

/-- The members of a choice are named apart by integers of one word. -/
theorem lawful_choice {name : String} {members : List α} {toInt : α → Int}
    (found : ∀ a, members.find? (toInt · = toInt a) = some a) (fits : ∀ a, Coercion.fitsWord (toInt a) = true) :
    (choice name members toInt).Lawful .plain Always where
  keeps {a} _ := by simp [choice, Coercion.integer, fits, found]
  finite _ := rfl
  yields _ _ := trivial
  respelled respelled _ := by rw [respelled.eq_of_plain]
  alike := nofun

variable {codec : Codec α} {shape : Shape} {kept : α → Prop}

theorem Lawful.list (lawful : codec.Lawful shape kept) :
    (Codec.list codec).Lawful (.list shape) fun items => ∀ a ∈ items, kept a where
  keeps {items} all := by
    simp only [Codec.list]
    rw [readList_eq_ok_iff, List.forall₂_map_left_iff, List.forall₂_same]
    exact fun a member => lawful.keeps (all a member)
  finite {items} all := by
    simp only [Codec.list]
    rw [hasFiniteNumbers, itemsHaveFiniteNumbers_iff, List.forall_mem_map]
    exact fun a member => lawful.finite (all a member)
  yields {v items} finite read := by
    cases v with
    | arr values =>
      rw [hasFiniteNumbers, itemsHaveFiniteNumbers_iff] at finite
      simp only [Codec.list, readList_eq_ok_iff] at read
      induction read with
      | nil => simp
      | cons first _ ih =>
        rw [List.forall_mem_cons] at finite ⊢
        exact ⟨lawful.yields finite.1 first, ih finite.2⟩
    | _ => cases read
  respelled respelled items := by
    cases respelled with
    | same => rfl
    | item before after inside =>
      simp only [Codec.list, readList_eq_ok_iff]
      exact forall₂_replaced (lawful.respelled inside) before after items
  alike := nofun

theorem Lawful.mapping (lawful : codec.Lawful shape kept) :
    (Codec.mapping codec).Lawful (.mapping shape) fun pairs => ∀ pair ∈ pairs, kept pair.2 where
  keeps {pairs} all := by
    simp only [Codec.mapping]
    rw [readEntries_eq_ok_iff, List.forall₂_map_left_iff, List.forall₂_same]
    exact fun pair member => ⟨rfl, lawful.keeps (all pair member)⟩
  finite {pairs} all := by
    simp only [Codec.mapping]
    rw [hasFiniteNumbers, entriesHaveFiniteNumbers_iff, List.forall_mem_map]
    exact fun pair member => lawful.finite (all pair member)
  yields {v pairs} finite read := by
    cases v with
    | obj entries =>
      rw [hasFiniteNumbers, entriesHaveFiniteNumbers_iff] at finite
      simp only [Codec.mapping, readEntries_eq_ok_iff] at read
      induction read with
      | nil => simp
      | cons first _ ih =>
        rw [List.forall_mem_cons] at finite ⊢
        exact ⟨lawful.yields finite.1 first.2, ih finite.2⟩
    | _ => cases read
  respelled respelled pairs := by
    cases respelled with
    | same => rfl
    | entry before after inside =>
      simp only [Codec.mapping, readEntries_eq_ok_iff]
      refine forall₂_replaced (fun pair => ?_) before after pairs
      exact and_congr_right' (lawful.respelled inside pair.2)
  alike := nofun

end Codec

/-! ## Fields -/

/-- The laws of fields: what they read depends on what is given for them and not on how it is spelled, what
they write is under their wire keys and has finite numbers, and they read again what they wrote. -/
structure Fields.Lawful (fields : Fields α) (shapes : List (String × Shape)) (kept : α → Prop) : Prop where
  alike : ∀ {old new}, (∀ field ∈ shapes, Alike field.2 (given field.1 old) (given field.1 new)) →
    ∀ a, fields.read old = .ok a ↔ fields.read new = .ok a
  written : ∀ {a entry}, entry ∈ fields.write a → ∃ field ∈ shapes, entry.1 = wireKey field.1
  keeps : shapes.Pairwise Apart → ∀ {a}, kept a → fields.read (fields.write a) = .ok a
  finite : ∀ {a}, kept a → ∀ entry ∈ fields.write a, hasFiniteNumbers entry.2 = true
  yields : ∀ {entries a}, entriesHaveFiniteNumbers entries = true → fields.read entries = .ok a → kept a

namespace Fields

section Single

variable {name : String} {codec : Codec α} {shape : Shape} {kept : α → Prop} {entries : Entries}

theorem required_read_iff {a : α} :
    (required name codec).read entries = .ok a ↔ ∃ v, given name entries = some v ∧ codec.read v = .ok a := by
  simp only [required, given]
  cases lookup name entries <;> simp

theorem defaulted_read_iff {default a : α} :
    (defaulted name codec default).read entries = .ok a ↔
      given name entries = none ∧ default = a ∨ ∃ v, given name entries = some v ∧ codec.read v = .ok a := by
  simp only [defaulted, given]
  cases lookup name entries <;> simp

theorem nullable_read_iff {o : Option α} :
    (nullable name codec).read entries = .ok o ↔
      given name entries = none ∧ o = none ∨ ∃ v, given name entries = some v ∧
        (v = .null ∧ o = none ∨ v ≠ .null ∧ ∃ a, codec.read v = .ok a ∧ some a = o) := by
  simp only [nullable, given]
  rcases lookup name entries with - | ⟨key, v⟩
  · simpa using eq_comm
  · cases v <;> simp [map_eq_ok_iff, eq_comm (a := none)]

theorem constant_read_iff {text : String} {u : Unit} :
    (constant name text).read entries = .ok u ↔ given name entries = none ∨
      ∃ v, given name entries = some v ∧ ∃ word, Coercion.oneOf [text] id v = .ok word := by
  simp only [constant, given]
  rcases lookup name entries with - | ⟨key, v⟩
  · simp
  · cases found : Coercion.oneOf [text] id v <;> simp [found]

/-- Where another text is given, a constant is not read. -/
theorem constant_read_ne_ok {text other : String} (found : given name entries = some (.str other))
    (apart : text ≠ other) (u : Unit) : (constant name text).read entries ≠ .ok u := by
  intro read
  obtain none | ⟨v, held, word, named⟩ := constant_read_iff.mp read
  · rw [found] at none
    cases none
  · rw [found] at held
    cases held
    cases chars : Coercion.characters other <;> simp [Coercion.oneOf, chars, Except.bind, apart] at named

theorem lawful_required (lawful : codec.Lawful shape kept) :
    (required name codec).Lawful [(name, shape)] kept where
  alike same a := by
    rw [required_read_iff, required_read_iff]
    exact (same _ (List.mem_singleton_self _)).some_iff fun respelled => lawful.respelled respelled a
  written member := ⟨_, List.mem_singleton_self _, congrArg Prod.fst (List.mem_singleton.mp member)⟩
  keeps _ a all := required_read_iff.mpr ⟨_, given_single _ _, lawful.keeps all⟩
  finite all := List.forall_mem_singleton.mpr (lawful.finite all)
  yields finite read := by
    obtain ⟨v, found, read⟩ := required_read_iff.mp read
    exact lawful.yields (finite_of_given finite found) read

theorem lawful_defaulted (lawful : codec.Lawful shape kept) {default : α} (fine : kept default) :
    (defaulted name codec default).Lawful [(name, shape)] kept where
  alike same a := by
    have alike := same _ (List.mem_singleton_self _)
    rw [defaulted_read_iff, defaulted_read_iff, alike.none_iff,
      alike.some_iff fun respelled => lawful.respelled respelled a]
  written member := ⟨_, List.mem_singleton_self _, congrArg Prod.fst (List.mem_singleton.mp member)⟩
  keeps _ a all := defaulted_read_iff.mpr (.inr ⟨_, given_single _ _, lawful.keeps all⟩)
  finite all := List.forall_mem_singleton.mpr (lawful.finite all)
  yields finite read := by
    rcases defaulted_read_iff.mp read with ⟨-, rfl⟩ | ⟨v, found, read⟩
    · exact fine
    · exact lawful.yields (finite_of_given finite found) read

/-- A field that may be absent. Null stands for absence, so `solid` values are those not written as null. -/
theorem lawful_nullable (lawful : codec.Lawful shape kept) {solid : α → Prop}
    (filled : ∀ {a}, solid a → kept a ∧ codec.write a ≠ .null)
    (solidly : ∀ {v a}, hasFiniteNumbers v = true → v ≠ .null → codec.read v = .ok a → solid a) :
    (nullable name codec).Lawful [(name, shape)] fun o => ∀ a ∈ o, solid a where
  alike same o := by
    have alike := same _ (List.mem_singleton_self _)
    rw [nullable_read_iff, nullable_read_iff, alike.none_iff,
      alike.some_iff fun respelled => by simp only [ne_eq, respelled.null_iff, lawful.respelled respelled]]
  written {o entry} member := by
    cases o with
    | none => cases member
    | some a => exact ⟨_, List.mem_singleton_self _, congrArg Prod.fst (List.mem_singleton.mp member)⟩
  keeps _ o all := by
    cases o with
    | none => rfl
    | some a =>
      obtain ⟨kept, filled⟩ := filled (all a rfl)
      exact nullable_read_iff.mpr (.inr ⟨_, given_single _ _, .inr ⟨filled, a, lawful.keeps kept, rfl⟩⟩)
  finite {o} all := by
    cases o with
    | none => exact List.forall_mem_nil _
    | some a => exact List.forall_mem_singleton.mpr (lawful.finite (filled (all a rfl)).1)
  yields finite read := by
    rcases nullable_read_iff.mp read with ⟨-, rfl⟩ | ⟨v, found, ⟨-, rfl⟩ | ⟨filled, a, inner, rfl⟩⟩
    · simp
    · simp
    · intro held here
      cases here
      exact solidly (finite_of_given finite found) filled inner

theorem lawful_optional (lawful : codec.Lawful shape kept) (filled : ∀ a, codec.write a ≠ .null) :
    (nullable name codec).Lawful [(name, shape)] fun o => ∀ a ∈ o, kept a :=
  lawful_nullable lawful (fun {a} all => ⟨all, filled a⟩) fun finite _ read => lawful.yields finite read

/-- A value of any kind, of which null stands for absence. -/
theorem lawful_anything :
    (nullable name .any).Lawful [(name, .plain)] fun o => ∀ v ∈ o, hasFiniteNumbers v = true ∧ v ≠ .null := by
  refine lawful_nullable Codec.lawful_any (fun {v} filled => ⟨filled.1, ?_⟩) fun {v a} finite filled read => ?_
  · simpa only [Codec.any, withFiniteNumbers_of_finite filled.1] using filled.2
  · cases read
    exact ⟨finite, filled⟩

theorem lawful_constant {text : String} (own : Coercion.oneOf [text] id (.str text) = .ok text) :
    (constant name text).Lawful [(name, .plain)] Always where
  alike same _ := by
    have alike := same _ (List.mem_singleton_self _)
    rw [constant_read_iff, constant_read_iff, alike.none_iff,
      alike.some_iff fun respelled => by rw [respelled.eq_of_plain]]
  written member := ⟨_, List.mem_singleton_self _, congrArg Prod.fst (List.mem_singleton.mp member)⟩
  keeps _ _ _ := constant_read_iff.mpr (.inr ⟨_, given_single _ _, text, own⟩)
  finite _ := List.forall_mem_singleton.mpr rfl
  yields _ _ := trivial

end Single

/-- Entries under the wire keys of other fields. -/
theorem others_of_apart {entries : Entries} {shapes more : List (String × Shape)} {field : String × Shape}
    (own : field ∈ shapes) (apart : ∀ a ∈ shapes, ∀ b ∈ more, Apart a b)
    (written : ∀ entry ∈ entries, ∃ other ∈ more, entry.1 = wireKey other.1) :
    ∀ entry ∈ entries, entry.1 ≠ wireKey field.1 ∧ entry.1 ≠ field.1 := by
  intro entry member
  obtain ⟨other, there, key⟩ := written entry member
  obtain ⟨-, keys, -, nameKey⟩ := apart field own other there
  rw [key]
  exact ⟨keys.symm, nameKey.symm⟩

theorem Lawful.and {first : Fields α} {second : Fields β} {shapes more : List (String × Shape)} {kept : α → Prop}
    {keptToo : β → Prop} (left : first.Lawful shapes kept) (right : second.Lawful more keptToo) :
    (first.and second).Lawful (shapes ++ more) fun ab => kept ab.1 ∧ keptToo ab.2 where
  alike same ab := by
    simp only [Fields.and, both_eq_ok_iff]
    rw [left.alike fun field own => same field (List.mem_append_left _ own),
      right.alike fun field own => same field (List.mem_append_right _ own)]
  written member := by
    rcases List.mem_append.mp member with member | member
    · obtain ⟨field, own, key⟩ := left.written member
      exact ⟨field, List.mem_append_left _ own, key⟩
    · obtain ⟨field, own, key⟩ := right.written member
      exact ⟨field, List.mem_append_right _ own, key⟩
  keeps apart ab all := by
    obtain ⟨leftApart, rightApart, cross⟩ := List.pairwise_append.mp apart
    simp only [Fields.and, both_eq_ok_iff]
    constructor
    · refine (left.alike (fun field own => .of_eq ?_) _).mp (left.keeps leftApart all.1)
      exact (given_append_of_left (others_of_apart own cross fun _ => right.written)).symm
    · refine (right.alike (fun field own => .of_eq ?_) _).mp (right.keeps rightApart all.2)
      refine (given_append_of_right (others_of_apart own ?_ fun _ => left.written)).symm
      exact fun a there b here => (cross b here a there).symm
  finite all := List.forall_mem_append.mpr ⟨left.finite all.1, right.finite all.2⟩
  yields finite read := by
    obtain ⟨leftRead, rightRead⟩ := both_eq_ok_iff.mp read
    exact ⟨left.yields finite leftRead, right.yields finite rightRead⟩

/-- The codec of an object is lawful when its fields are, and no name of one is a name of another. -/
theorem Lawful.codec {fields : Fields α} {shapes : List (String × Shape)} {kept : α → Prop}
    (lawful : fields.Lawful shapes kept) {of : α → β} {parts : β → α} {keptToo : β → Prop} (name : String)
    (apart : shapes.Pairwise Apart) (whole : ∀ b, of (parts b) = b) (into : ∀ b, keptToo b → kept (parts b))
    (out : ∀ a, kept a → keptToo (of a)) : (fields.codec name of parts).Lawful (.object shapes) keptToo where
  keeps {b} all := by
    simp only [Fields.codec]
    rw [lawful.keeps apart (into b all), Except.map, whole]
  finite {b} all := by
    simp only [Fields.codec]
    rw [hasFiniteNumbers, entriesHaveFiniteNumbers_iff]
    exact lawful.finite (into b all)
  yields {v b} finite read := by
    cases v with
    | obj entries =>
      rw [hasFiniteNumbers] at finite
      obtain ⟨a, inner, rfl⟩ := map_eq_ok_iff.mp read
      exact out a (lawful.yields finite inner)
    | _ => cases read
  respelled respelled b := by
    obtain rfl | ⟨old, new, rfl, rfl, respelled⟩ := respelled.of_object
    · rfl
    · simp only [Fields.codec, map_eq_ok_iff, lawful.alike (respelled.alike apart)]
  alike same given b := by
    cases same
    simp only [Fields.codec, map_eq_ok_iff, lawful.alike given]

/-- The codec of an object of which every value is kept. -/
theorem Lawful.codec_always {fields : Fields α} {shapes : List (String × Shape)} {kept : α → Prop}
    (lawful : fields.Lawful shapes kept) {of : α → β} {parts : β → α} (name : String)
    (apart : shapes.Pairwise Apart) (whole : ∀ b, of (parts b) = b) (all : ∀ a, kept a) :
    (fields.codec name of parts).Lawful (.object shapes) Always :=
  lawful.codec name apart whole (fun b _ => all (parts b)) fun _ _ => trivial

end Fields

end EditorAssist.Payload

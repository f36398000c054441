import EditorAssist.Proofs.Json.Entries
import EditorAssist.Settings.Field

/-!
# Fields side by side

No two fields have a name or a wire key in common, and a field that takes a value over sets what it shows
itself and nothing else. So every field can be looked at alone.
-/

namespace EditorAssist.Settings

open EditorAssist.Json EditorAssist.Payload

/-! ## Names -/

section Names

/-- Whether a key names a field, by its name or by its wire key. -/
def Field.isNamed (field : Field) (key : String) : Bool := key == field.name || key == wireKey field.name

/-- The names of all fields. -/
def names : List String := Field.all.map (·.name)

theorem nodup_names : names.Nodup := by decide

/-- A wire key is the name of no other field and the wire key of no other field. -/
theorem wireKey_names : ∀ name ∈ names, ∀ other ∈ names,
    (wireKey name = other → name = other) ∧ (wireKey name = wireKey other → name = other) := by
  decide +kernel

variable {field : Field} {key : String}

theorem name_mem (member : field ∈ Field.all) : field.name ∈ names := List.mem_map_of_mem member

/-- The field that is found by a key is the one that the key names. -/
theorem find?_name (member : field ∈ Field.all) :
    (Field.find? key).map (·.name) = some field.name ↔ field.isNamed key = true := by
  have isNamed : field.isNamed key = true ↔ key = field.name ∨ key = wireKey field.name := by
    simp only [Field.isNamed, Bool.or_eq_true, beq_iff_eq]
  rw [isNamed, Field.find?]
  cases byName : Field.all.find? (·.name == key) with
  | some found =>
    have foundMember := List.mem_of_find?_eq_some byName
    have foundName : found.name = key := by simpa using List.find?_some byName
    rw [Option.some_or, Option.map_some, Option.some.injEq, foundName]
    refine ⟨.inl, ?_⟩
    rintro (same | wire)
    · exact same
    · have clash := (wireKey_names field.name (name_mem member) found.name (name_mem foundMember)).1
      rw [foundName] at clash
      exact (clash wire.symm).symm
  | none =>
    have other : key ≠ field.name := by
      intro same
      have absent := List.find?_eq_none.mp byName field member
      simp [same] at absent
    rw [Option.none_or]
    cases byWireKey : Field.all.find? (fun field => wireKey field.name == key) with
    | some found =>
      have foundMember := List.mem_of_find?_eq_some byWireKey
      have foundKey : wireKey found.name = key := by simpa using List.find?_some byWireKey
      rw [Option.map_some, Option.some.injEq]
      constructor
      · intro same
        rw [← same]
        exact .inr foundKey.symm
      · rintro (same | wire)
        · exact absurd same other
        · have clash := (wireKey_names found.name (name_mem foundMember) field.name (name_mem member)).2
          exact clash (foundKey.trans wire)
    | none =>
      have absent := List.find?_eq_none.mp byWireKey field member
      rw [beq_iff_eq] at absent
      constructor
      · intro impossible
        cases impossible
      · rintro (same | wire)
        · exact absurd same other
        · exact absurd wire.symm absent

end Names

/-! ## What a field reads, sets and shows -/

section Laws

/-- What holds of every field: it tells no object from another one, it refuses nothing without a problem, and
taking a value over sets the entry of the field and no other, to what depends on that value alone. -/
structure Field.Lawful (field : Field) : Prop where
  objects : ∀ first second, field.read (.obj first) = field.read (.obj second)
  problems : ∀ v, field.read v ≠ .error []
  sets : ∀ v change, field.read v = .ok change →
    ∀ base s, toEntries (change s) = Entries.set field.name (field.shown (change base)) (toEntries s)

theorem Field.lawful_single {α : Type} {name environmentName : String} {read : Value → Except Complaint α}
    {set : α → Settings → Settings} {shown : Settings → Value}
    (objects : ∀ first second, read (.obj first) = read (.obj second))
    (sets : ∀ a base s, toEntries (set a s) = Entries.set name (shown (set a base)) (toEntries s)) :
    (Field.single name environmentName read set shown).Lawful where
  objects first second := by
    simp only [single, objects first second]
  problems v := by
    simp only [single]
    split <;> nofun
  sets v change done := by
    simp only [single] at done
    split at done
    · next a _ =>
      cases done
      exact sets a
    · cases done

theorem lawful_triggers : Field.triggers.Lawful where
  objects _ _ := rfl
  problems v := by
    simp only [Field.triggers]
    unfold Field.readTriggers
    split
    · nofun
    · dsimp only
      split
      · nofun
      · next some_problem =>
        intro none
        exact some_problem (List.isEmpty_iff.mpr (Except.error.inj none))
    · nofun
  sets v change done := by
    have done : Field.readTriggers "trigger_characters" v = .ok change := done
    unfold Field.readTriggers at done
    split at done
    · cases done
      exact fun _ _ => rfl
    · dsimp only at done
      split at done
      · cases done
        exact fun _ _ => rfl
      · cases done
    · cases done

theorem lawful_of_mem : ∀ field ∈ Field.all, field.Lawful := by
  simp only [Field.all, List.forall_mem_cons]
  refine ⟨?_, ?_, ?_, ?_, ?_, ?_, ?_, ?_, ?_, ?_, ?_, ?_, ?_, ?_, ?_, ?_, ?_, ?_, ?_, ?_, ?_, nofun⟩
  -- A field is the list of trigger characters or has one value.
  all_goals first
    | exact lawful_triggers
    | exact Field.lawful_single (fun _ _ => rfl) fun _ _ _ => rfl

end Laws

/-! ## One value for each field -/

section Values

variable {field other : Field} {given : Entries} {s : Settings}

/-- What is found under the name of a field where fields stand under their names. -/
theorem get?_filterMap {fields : List Field} (distinct : (fields.map (·.name)).Nodup) (value : Field → Option Value)
    (member : field ∈ fields) :
    Entries.get? field.name (fields.filterMap fun f => (value f).map fun v => (f.name, v)) = value field := by
  have absent {fields : List Field} (other : field.name ∉ fields.map (·.name)) :
      Entries.get? field.name (fields.filterMap fun f => (value f).map fun v => (f.name, v)) = none := by
    apply Entries.get?_eq_none_of_notMem
    intro present
    obtain ⟨entry, found, same⟩ := List.mem_map.mp present
    obtain ⟨f, fMember, written⟩ := List.mem_filterMap.mp found
    obtain ⟨v, -, rfl⟩ := Option.map_eq_some_iff.mp written
    exact other (same ▸ List.mem_map_of_mem fMember)
  induction fields with
  | nil => cases member
  | cons first rest ih =>
    rw [List.map_cons, List.nodup_cons] at distinct
    rw [List.filterMap_cons]
    rcases List.mem_cons.mp member with rfl | later
    · cases held : value field with
      | none => exact absent distinct.1
      | some v => exact Entries.get?_cons_self ..
    · have other : first.name ≠ field.name := by
        intro same
        exact distinct.1 (same ▸ List.mem_map_of_mem later)
      cases value first with
      | none => exact ih distinct.2 later
      | some v => exact (Entries.get?_cons_of_ne other v _).trans (ih distinct.2 later)

theorem keys_filterMap (fields : List Field) (value : Field → Option Value) :
    (Entries.keys (fields.filterMap fun f => (value f).map fun v => (f.name, v))).Sublist (fields.map (·.name)) := by
  induction fields with
  | nil => exact .slnil
  | cons first rest ih =>
    rw [List.filterMap_cons, List.map_cons]
    cases value first with
    | none => exact ih.cons _
    | some v => exact ih.cons_cons _

theorem get?_toEntries (member : field ∈ Field.all) (s : Settings) :
    Entries.get? field.name (toEntries s) = some (field.shown s) := by
  have same : toEntries s = Field.all.filterMap fun f => (some (f.shown s)).map fun v => (f.name, v) := by
    rw [toEntries, ← List.filterMap_eq_map]
    rfl
  rw [same]
  exact get?_filterMap nodup_names (fun f => some (f.shown s)) member

/-- What a field shows of a value that it accepts. -/
def Field.accepts (field : Field) (v : Value) : Option Value :=
  match field.read v with
  | .ok change => some (field.shown (change (defaults "")))
  | .error _ => none

/-- Taking a value over changes what its own field shows, and no other. -/
theorem shown_change (member : field ∈ Field.all) (otherMember : other ∈ Field.all) {v : Value}
    {change : Settings → Settings} (read : field.read v = .ok change) (s : Settings) :
    some (other.shown (change s)) = if other.name = field.name then field.accepts v else some (other.shown s) := by
  rw [← get?_toEntries otherMember, (lawful_of_mem field member).sets v change read (defaults "") s, Entries.get?_set,
    get?_toEntries otherMember, Field.accepts, read]

theorem shown_apply_of_ne (member : field ∈ Field.all) (otherMember : other ∈ Field.all)
    (apart : other.name ≠ field.name) : other.shown (field.apply given s) = other.shown s := by
  unfold Field.apply
  split
  · rfl
  · split
    · next change read =>
      have shown := shown_change member otherMember read s
      rw [if_neg apart] at shown
      exact Option.some.inj shown
    · rfl

theorem shown_apply_self (member : field ∈ Field.all) :
    field.shown (field.apply given s) =
      ((Entries.get? field.name given).bind field.accepts).getD (field.shown s) := by
  unfold Field.apply
  split
  · next absent => rw [absent]; rfl
  · next v present =>
    rw [present, Option.bind_some]
    split
    · next change read =>
      have shown := shown_change member member read s
      rw [if_pos rfl] at shown
      rw [← shown]
      rfl
    · next read =>
      rw [Field.accepts, read]
      rfl

/-- Fields of other names leave alone what a field shows. -/
theorem shown_foldl_of_notMem (member : field ∈ Field.all) {fields : List Field}
    (known : ∀ f ∈ fields, f ∈ Field.all) (absent : field.name ∉ fields.map (·.name)) (s : Settings) :
    field.shown (fields.foldl (fun s f => f.apply given s) s) = field.shown s := by
  induction fields generalizing s with
  | nil => rfl
  | cons first rest ih =>
    rw [List.map_cons, List.mem_cons, not_or] at absent
    rw [List.foldl_cons, ih (fun f later => known f (List.mem_cons_of_mem first later)) absent.2]
    exact shown_apply_of_ne (known first (List.mem_cons_self ..)) member absent.1

/-- When all given values were taken over, a field shows what it makes of its own. -/
theorem shown_foldl (member : field ∈ Field.all) (given : Entries) (s : Settings) :
    field.shown (Field.all.foldl (fun s f => f.apply given s) s) =
      ((Entries.get? field.name given).bind field.accepts).getD (field.shown s) := by
  obtain ⟨before, after, split⟩ := List.append_of_mem member
  have distinct : (Field.all.map (·.name)).Nodup := nodup_names
  rw [split, List.map_append, List.map_cons, List.nodup_append, List.nodup_cons] at distinct
  obtain ⟨-, ⟨afterAbsent, -⟩, apart⟩ := distinct
  have beforeAbsent : field.name ∉ before.map (·.name) := by
    intro present
    exact apart field.name present field.name (List.mem_cons_self ..) rfl
  have knownBefore : ∀ f ∈ before, f ∈ Field.all := by
    intro f present
    rw [split]
    exact List.mem_append_left _ present
  have knownAfter : ∀ f ∈ after, f ∈ Field.all := by
    intro f present
    rw [split]
    exact List.mem_append_right _ (List.mem_cons_of_mem _ present)
  rw [split, List.foldl_append, List.foldl_cons, shown_foldl_of_notMem member knownAfter afterAbsent,
    shown_apply_self member, shown_foldl_of_notMem member knownBefore beforeAbsent]

theorem problems_eq_nil_iff (member : field ∈ Field.all) :
    field.problems given = [] ↔ ∀ v ∈ Entries.get? field.name given, (field.accepts v).isSome := by
  unfold Field.problems
  split
  · next absent => simp [absent]
  · next v present =>
    rw [present]
    simp only [Option.mem_some, forall_eq', Field.accepts]
    cases read : field.read v with
    | ok change => simp
    | error problems =>
      have some_problem := (lawful_of_mem field member).problems v
      rw [read] at some_problem
      simpa using fun none => some_problem (congrArg Except.error none)

/-- Settings are read if every field accepts the value that is given for it. -/
theorem ofEntries_of_accepted {defaults : Settings}
    (accepted : ∀ field ∈ Field.all, ∀ v ∈ Entries.get? field.name given, (field.accepts v).isSome) :
    ofEntries defaults given = .ok (Field.all.foldl (fun s field => field.apply given s) defaults) := by
  have none : Field.all.flatMap (·.problems given) = [] :=
    List.flatMap_eq_nil_iff.mpr fun field member => (problems_eq_nil_iff member).mpr (accepted field member)
  simp only [ofEntries, none, List.isEmpty_nil, ↓reduceIte]

theorem ofEntries_of_refused (defaults : Settings) (member : field ∈ Field.all) {v : Value}
    (present : Entries.get? field.name given = some v) (refused : field.accepts v = none) :
    ∃ problems, ofEntries defaults given = .error problems := by
  have some_problem : Field.all.flatMap (·.problems given) ≠ [] := by
    intro none
    have accepted := (problems_eq_nil_iff member).mp (List.flatMap_eq_nil_iff.mp none field member) v present
    rw [refused] at accepted
    cases accepted
  refine ⟨Field.all.flatMap (·.problems given), ?_⟩
  simp only [ofEntries, List.isEmpty_eq_false_iff.mpr some_problem, Bool.false_eq_true, ↓reduceIte]

end Values

end EditorAssist.Settings

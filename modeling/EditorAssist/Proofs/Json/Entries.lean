import EditorAssist.Json.Value

/-!
# Entries of an object

Setting a key changes what is found under it and nothing else. A key that is new goes last, so pairs with
distinct keys are an object as they stand.
-/

namespace EditorAssist.Json.Entries

variable {key : String} {value : Value}

/-- The keys in order. -/
def keys (entries : Entries) : List String := entries.map (·.1)

@[simp]
theorem get?_nil (key : String) : get? key [] = none := rfl

theorem get?_cons_self (key : String) (value : Value) (rest : Entries) :
    get? key ((key, value) :: rest) = some value := by
  simp [get?]

theorem get?_cons_of_ne {name : String} (other : name ≠ key) (value : Value) (rest : Entries) :
    get? key ((name, value) :: rest) = get? key rest := by
  simp [get?, other]

theorem get?_eq_none_of_notMem {entries : Entries} (absent : key ∉ keys entries) : get? key entries = none := by
  induction entries with
  | nil => rfl
  | cons entry rest ih =>
    rw [keys, List.map_cons, List.mem_cons, not_or] at absent
    rw [get?_cons_of_ne (Ne.symm absent.1), ih absent.2]

/-- What is found after a key was set. -/
theorem get?_set (name key : String) (value : Value) (entries : Entries) :
    get? name (set key value entries) = if name = key then some value else get? name entries := by
  induction entries with
  | nil =>
    by_cases same : name = key
    · subst same
      simp [set, get?]
    · simp [set, get?, same, Ne.symm same]
  | cons entry rest ih =>
    rcases entry with ⟨first, held⟩
    by_cases there : first = key
    · subst there
      by_cases same : name = first
      · subst same
        simp [set, get?]
      · simp [set, get?, same, Ne.symm same]
    · have kept : set key value ((first, held) :: rest) = (first, held) :: set key value rest := by
        simp [set, there]
      rw [kept]
      by_cases same : name = first
      · subst same
        rw [get?_cons_self, get?_cons_self, if_neg there]
      · rw [get?_cons_of_ne (Ne.symm same), get?_cons_of_ne (Ne.symm same), ih]

/-- Among distinct keys, an entry is what is found under its key. -/
theorem get?_eq_some_iff {entries : Entries} (distinct : (keys entries).Nodup) :
    get? key entries = some value ↔ (key, value) ∈ entries := by
  induction entries with
  | nil => simp
  | cons entry rest ih =>
    rcases entry with ⟨first, held⟩
    rw [keys, List.map_cons, List.nodup_cons] at distinct
    by_cases same : first = key
    · subst same
      have elsewhere : (first, value) ∉ rest := fun member => distinct.1 (List.mem_map.mpr ⟨_, member, rfl⟩)
      rw [get?_cons_self, List.mem_cons, or_iff_left elsewhere, Option.some_inj, Prod.mk.injEq, eq_comm]
      exact (and_iff_right rfl).symm
    · rw [get?_cons_of_ne same, ih distinct.2, List.mem_cons, or_iff_right]
      rintro ⟨⟩
      exact same rfl

/-- Setting a key to what is found under it changes nothing. -/
theorem set_of_get? {entries : Entries} (found : get? key entries = some value) : set key value entries = entries := by
  induction entries with
  | nil => cases found
  | cons entry rest ih =>
    rcases entry with ⟨first, held⟩
    by_cases same : first = key
    · subst same
      rw [get?_cons_self] at found
      cases found
      simp [set]
    · rw [get?_cons_of_ne same] at found
      simp [set, same, ih found]

theorem set_of_notMem {entries : Entries} (absent : key ∉ keys entries) :
    set key value entries = entries ++ [(key, value)] := by
  induction entries with
  | nil => rfl
  | cons entry rest ih =>
    rw [keys, List.map_cons, List.mem_cons, not_or] at absent
    simp [set, Ne.symm absent.1, ih absent.2]

theorem set_of_mem {entries : Entries} (present : key ∈ keys entries) :
    keys (set key value entries) = keys entries := by
  induction entries with
  | nil => cases present
  | cons entry rest ih =>
    rcases entry with ⟨first, held⟩
    by_cases there : first = key
    · subst there
      simp [set, keys]
    · have kept : set key value ((first, held) :: rest) = (first, held) :: set key value rest := by
        simp [set, there]
      rw [keys, List.map_cons, List.mem_cons] at present
      rw [kept, keys, List.map_cons]
      exact congrArg (first :: ·) (ih (present.resolve_left (Ne.symm there)))

/-- Keys that are distinct stay so. -/
theorem nodup_set {entries : Entries} (distinct : (keys entries).Nodup) : (keys (set key value entries)).Nodup := by
  by_cases present : key ∈ keys entries
  · rw [set_of_mem present]
    exact distinct
  · rw [set_of_notMem present, keys, List.map_append, List.nodup_append]
    refine ⟨distinct, by simp, ?_⟩
    intro name member other last
    rw [List.map_singleton, List.mem_singleton] at last
    subst last
    rintro rfl
    exact present member

theorem foldl_set_of_nodup {entries pairs : Entries} (distinct : (keys (entries ++ pairs)).Nodup) :
    pairs.foldl (fun held pair => set pair.1 pair.2 held) entries = entries ++ pairs := by
  induction pairs generalizing entries with
  | nil => exact (List.append_nil entries).symm
  | cons pair pairs ih =>
    have absent : pair.1 ∉ keys entries := by
      rw [keys, List.map_append, List.nodup_append] at distinct
      intro present
      exact distinct.2.2 pair.1 present pair.1 (List.mem_map_of_mem (List.mem_cons_self ..)) rfl
    rw [List.foldl_cons, set_of_notMem absent, ih]
    · rw [List.append_assoc, List.singleton_append]
    · rw [List.append_assoc, List.singleton_append]
      exact distinct

/-- Pairs with distinct keys are an object as they stand. -/
theorem ofPairs_of_nodup {pairs : Entries} (distinct : (keys pairs).Nodup) : ofPairs pairs = pairs :=
  foldl_set_of_nodup distinct

/-! ## Objects that differ in one value -/

/-- Objects with the same keys in the same order, which agree on all keys but one. -/
structure Alike (key : String) (entries entries' : Entries) : Prop where
  keys : keys entries' = Entries.keys entries
  others : ∀ other, other ≠ key → get? other entries' = get? other entries

namespace Alike

variable {entries entries' : Entries}

theorem refl (key : String) (entries : Entries) : Alike key entries entries := ⟨rfl, fun _ _ => rfl⟩

/-- They stay so when a key is set in both, to different values only if it is that one. -/
theorem set (alike : Alike key entries entries') {name : String} {value value' : Value}
    (same : name ≠ key → value' = value) : Alike key (set name value entries) (set name value' entries') where
  keys := by
    by_cases present : name ∈ Entries.keys entries
    · rw [set_of_mem present, set_of_mem (alike.keys ▸ present), alike.keys]
    · have keyed (value : Value) {entries : Entries} (absent : name ∉ Entries.keys entries) :
          Entries.keys (Entries.set name value entries) = Entries.keys entries ++ [name] := by
        rw [set_of_notMem absent, Entries.keys, List.map_append]
        rfl
      rw [keyed value present, keyed value' (alike.keys ▸ present), alike.keys]
  others := by
    intro other different
    rw [get?_set, get?_set, alike.others other different]
    by_cases here : other = name
    · rw [if_pos here, if_pos here, same (here ▸ different)]
    · rw [if_neg here, if_neg here]

theorem foldl_set (alike : Alike key entries entries') (pairs : Entries) :
    Alike key (pairs.foldl (fun held pair => Entries.set pair.1 pair.2 held) entries)
      (pairs.foldl (fun held pair => Entries.set pair.1 pair.2 held) entries') := by
  induction pairs generalizing entries entries' with
  | nil => exact alike
  | cons pair pairs ih => exact ih (alike.set fun _ => rfl)

/-- Pairs that differ in one value make objects that differ under its key. -/
theorem ofPairs (before after : Entries) (value value' : Value) :
    Alike key (ofPairs (before ++ (key, value) :: after)) (ofPairs (before ++ (key, value') :: after)) := by
  rw [Entries.ofPairs, Entries.ofPairs, List.foldl_append, List.foldl_append]
  exact ((refl key _).set fun other => absurd rfl other).foldl_set after

end Alike

end EditorAssist.Json.Entries

import EditorAssist.Proofs.Json.Values
import EditorAssist.Proofs.Settings.Layers
import Mathlib.Data.List.Induction

/-!
# Layers merged

What a merge of layers holds under a key is decided by the values that the layers hold there, and the last of them
wins; objects behind the last value of another kind are merged among themselves. As layers are laid over each other
entry by entry, merging them is laying over nothing what all of them hold, one behind the other (`mergeLayers_eq`).
-/

namespace EditorAssist.Settings

open EditorAssist.Json EditorAssist.Json.Value

/-! ## Distinct keys -/

section Layer

/-- Whether no key of an object stands twice; other values have no keys. -/
def hasDistinctKeys : Value → Bool
  | .obj entries => decide (Entries.keys entries).Nodup
  | _ => true

/-- Entries in which no key stands twice, at any depth. -/
def IsLayer (entries : Entries) : Prop := (Value.obj entries).all hasDistinctKeys = true

instance (entries : Entries) : Decidable (IsLayer entries) := inferInstanceAs (Decidable (_ = true))

variable {layer : Entries}

theorem isLayer_iff :
    IsLayer layer ↔ (Entries.keys layer).Nodup ∧ ∀ entry ∈ layer, entry.2.all hasDistinctKeys = true := by
  rw [IsLayer, Value.all, hasDistinctKeys, Bool.and_eq_true, decide_eq_true_eq, allEntries_iff]

theorem IsLayer.keys (wellFormed : IsLayer layer) : (Entries.keys layer).Nodup := (isLayer_iff.mp wellFormed).1

theorem IsLayer.value (wellFormed : IsLayer layer) {key : String} {v : Value}
    (found : Entries.get? key layer = some v) : v.all hasDistinctKeys = true :=
  (isLayer_iff.mp wellFormed).2 _ ((Entries.get?_eq_some_iff wellFormed.keys).mp found)

end Layer

/-! ## What is laid over what -/

section Overlay

variable {below above held : Entries}

theorem overlay_null (v : Value) : overlay .null v = v := by cases v <;> rfl

theorem overlay_plain {v : Value} (plain : ∀ entries, v ≠ .obj entries) (below : Value) : overlay below v = v := by
  cases v with
  | obj entries => exact absurd rfl (plain entries)
  | _ => rw [overlay]; exact plain

theorem overlay_of_plain {v : Value} (plain : ∀ entries, v ≠ .obj entries) (above : Entries) :
    overlay v (.obj above) = .obj above := by
  cases v with
  | obj entries => exact absurd rfl (plain entries)
  | _ => rfl

theorem overlayEntries_append (below first later : Entries) :
    overlayEntries below (first ++ later) = overlayEntries (overlayEntries below first) later := by
  induction first generalizing below with
  | nil => rfl
  | cons entry rest ih => rw [List.cons_append, overlayEntries, overlayEntries, ih]

/-- Entries whose keys are new are put behind the others. -/
theorem overlayEntries_of_new (new : (Entries.keys (below ++ above)).Nodup) :
    overlayEntries below above = below ++ above := by
  induction above generalizing below with
  | nil => rw [overlayEntries, List.append_nil]
  | cons entry rest ih =>
    have absent : entry.1 ∉ Entries.keys below := by
      rw [Entries.keys, List.map_append, List.nodup_append] at new
      exact fun present => new.2.2 _ present _ List.mem_cons_self rfl
    rw [List.append_cons] at new ⊢
    rw [overlayEntries, Entries.get?_eq_none_of_notMem absent, Option.getD_none, overlay_null,
      Entries.set_of_notMem absent, ih new]

theorem overlayEntries_nil (distinct : (Entries.keys above).Nodup) : overlayEntries [] above = above :=
  overlayEntries_of_new distinct

/-- Entries that are held already change nothing, if their values change nothing when laid over themselves. -/
theorem overlayEntries_of_held
    (same : ∀ entry ∈ above, Entries.get? entry.1 held = some entry.2 ∧ overlay entry.2 entry.2 = entry.2) :
    overlayEntries held above = held := by
  induction above with
  | nil => rfl
  | cons entry rest ih =>
    obtain ⟨⟨found, kept⟩, later⟩ := List.forall_mem_cons.mp same
    rw [overlayEntries, found, Option.getD_some, kept, Entries.set_of_get? found, ih later]

/-- A value laid over itself changes nothing. -/
theorem overlay_self (v : Value) (distinct : v.all hasDistinctKeys = true) : overlay v v = v := by
  match v with
  | .obj entries =>
    have parts := isLayer_iff.mp distinct
    rw [overlay, overlayEntries_of_held]
    intro entry member
    exact ⟨(Entries.get?_eq_some_iff parts.1).mpr member, overlay_self entry.2 (parts.2 entry member)⟩
  | .null | .bool _ | .int _ | .float _ | .str _ | .arr _ => rfl
termination_by v
decreasing_by
  have smaller := List.sizeOf_lt_of_mem member
  rcases entry with ⟨key, value⟩
  simp only [Prod.mk.sizeOf_spec, Value.obj.sizeOf_spec] at smaller ⊢
  omega

theorem isLayer_overlayEntries_of (low : IsLayer below) (distinct : (Entries.keys above).Nodup)
    (laid : ∀ entry ∈ above, ∀ v : Value, v.all hasDistinctKeys = true →
      (overlay v entry.2).all hasDistinctKeys = true) : IsLayer (overlayEntries below above) := by
  have keys : (Entries.keys (overlayEntries below above)).Nodup := nodup_overlayEntries low.keys
  refine isLayer_iff.mpr ⟨keys, fun entry member => ?_⟩
  have found := (Entries.get?_eq_some_iff keys).mpr member
  rw [get?_overlayEntries_eq distinct] at found
  cases upper : Entries.get? entry.1 above with
  | none =>
    rw [upper] at found
    exact low.value found
  | some v =>
    rw [upper, Option.map_some, Option.some_or, Option.some_inj] at found
    rw [← found]
    refine laid _ ((Entries.get?_eq_some_iff distinct).mp upper) _ ?_
    cases lower : Entries.get? entry.1 below with
    | none => rfl
    | some w => exact low.value lower

/-- Values with distinct keys that are laid over each other have distinct keys again. -/
theorem all_overlay (above : Value) (high : above.all hasDistinctKeys = true) (below : Value)
    (low : below.all hasDistinctKeys = true) : (overlay below above).all hasDistinctKeys = true := by
  match above with
  | .obj entries =>
    cases below with
    | obj held =>
      have parts := isLayer_iff.mp high
      refine isLayer_overlayEntries_of low parts.1 fun entry member => ?_
      exact all_overlay entry.2 (parts.2 entry member)
    | _ => exact high
  | .null | .bool _ | .int _ | .float _ | .str _ | .arr _ => exact high
termination_by above
decreasing_by
  have smaller := List.sizeOf_lt_of_mem member
  rcases entry with ⟨key, value⟩
  simp only [Prod.mk.sizeOf_spec, Value.obj.sizeOf_spec] at smaller ⊢
  omega

theorem isLayer_overlayEntries (low : IsLayer below) (high : IsLayer above) : IsLayer (overlayEntries below above) :=
  isLayer_overlayEntries_of low high.keys fun entry member =>
    all_overlay entry.2 ((isLayer_iff.mp high).2 entry member)

/-- Entries laid over nothing stand where their keys appear first. -/
theorem keys_overlayEntries_nil (entries : Entries) :
    Entries.keys (overlayEntries [] entries) = (Entries.keys entries).eraseDups := by
  induction entries using List.reverseRecOn with
  | nil => rfl
  | append_singleton entries entry ih =>
    have behind : Entries.keys (entries ++ [entry]) = Entries.keys entries ++ [entry.1] := List.map_append
    rw [overlayEntries_append, overlayEntries, overlayEntries, behind, List.eraseDups_append, ← ih]
    by_cases present : entry.1 ∈ Entries.keys entries
    · rw [Entries.set_of_mem (by rwa [ih, List.mem_eraseDups])]
      simp [List.removeAll, present]
    · rw [Entries.set_of_notMem (by rwa [ih, List.mem_eraseDups])]
      simp only [Entries.keys] at present ⊢
      simp [List.removeAll, present, List.eraseDups_cons]

end Overlay

/-! ## Merging -/

/-- What a merge holds under a key, by the values that its layers hold there, from the lowest to the topmost. Without any
there is nothing. If the topmost value is no object, it wins. Otherwise the objects above the last value of another kind
are merged, or all of them if there is no such value; they are layers again, so a merge within a merge goes by the same
rules. -/
inductive Settles : List Value → Option Value → Prop
  | absent : Settles [] none
  | value (earlier : List Value) {v : Value} (plain : ∀ entries, v ≠ .obj entries) : Settles (earlier ++ [v]) (some v)
  | objects {earlier : List Value} {parts : List Entries} (any : parts ≠ [])
      (wellFormed : ∀ part ∈ parts, IsLayer part)
      (cut : ∀ v, earlier.getLast? = some v → ∀ entries, v ≠ .obj entries) :
      Settles (earlier ++ parts.map .obj) (some (.obj (mergeLayers parts)))

/-- A merge of some layers is a layer. The last value of a key wins, with the objects behind the last one of another
kind merged, and the keys stand in the order of their first appearance. -/
structure Merged (layers : List Entries) (merged : Entries) : Prop where
  layer : IsLayer merged
  settled : ∀ key, Settles (layers.filterMap (Entries.get? key)) (Entries.get? key merged)
  order : Entries.keys merged = (layers.flatMap Entries.keys).eraseDups

section Merging

variable {layers : List Entries} {layer : Entries} {values : List Value} {found : Option Value}

theorem mergeLayers_concat (layers : List Entries) (layer : Entries) :
    mergeLayers (layers ++ [layer]) = overlayEntries (mergeLayers layers) layer := List.foldl_append

/-- Merging layers is laying all of their entries over nothing. -/
theorem mergeLayers_eq (layers : List Entries) : mergeLayers layers = overlayEntries [] layers.flatten := by
  induction layers using List.reverseRecOn with
  | nil => rfl
  | append_singleton layers layer ih =>
    rw [mergeLayers_concat, ih, ← overlayEntries_append, List.flatten_append, List.flatten_singleton]

theorem keys_mergeLayers (layers : List Entries) :
    Entries.keys (mergeLayers layers) = (layers.flatMap Entries.keys).eraseDups := by
  rw [mergeLayers_eq, keys_overlayEntries_nil, Entries.keys, List.map_flatten, ← List.flatMap_def]
  rfl

theorem mergeLayers_singleton (wellFormed : IsLayer layer) : mergeLayers [layer] = layer :=
  overlayEntries_nil wellFormed.keys

/-- A further layer lays its value over what was found below. -/
theorem Settles.concat (settles : Settles values found) {v : Value} (distinct : v.all hasDistinctKeys = true) :
    Settles (values ++ [v]) (some (overlay (found.getD .null) v)) := by
  by_cases object : ∃ entries, v = .obj entries
  · obtain ⟨entries, rfl⟩ := object
    -- With no object to lay it over, it is the first of the objects behind what was found.
    have begins (cut : ∀ v, values.getLast? = some v → ∀ entries, v ≠ .obj entries) :
        Settles (values ++ [.obj entries]) (some (.obj entries)) := by
      have only := Settles.objects (List.cons_ne_nil entries []) (List.forall_mem_singleton.mpr distinct) cut
      rwa [List.map_singleton, mergeLayers_singleton distinct] at only
    cases settles with
    | absent => exact begins nofun
    | @value earlier v plain =>
      rw [Option.getD_some, overlay_of_plain plain]
      refine begins fun last ends => ?_
      rw [List.getLast?_concat, Option.some_inj] at ends
      exact ends ▸ plain
    | @objects earlier parts any wellFormed cut =>
      have both := List.forall_mem_append.mpr ⟨wellFormed, List.forall_mem_singleton.mpr distinct⟩
      have further := Settles.objects (List.concat_ne_nil entries parts) both cut
      rwa [List.map_append, ← List.append_assoc, mergeLayers_concat] at further
  · have plain : ∀ entries, v ≠ .obj entries := fun entries same => object ⟨entries, same⟩
    rw [overlay_plain plain]
    exact .value values plain

/-- Under each key, the merge of layers is settled by the values that they hold there. -/
theorem settles_mergeLayers (wellFormed : ∀ layer ∈ layers, IsLayer layer) (key : String) :
    Settles (layers.filterMap (Entries.get? key)) (Entries.get? key (mergeLayers layers)) := by
  induction layers using List.reverseRecOn with
  | nil => exact .absent
  | append_singleton layers layer ih =>
    have below := ih fun other member => wellFormed other (List.mem_append_left _ member)
    have last := wellFormed layer List.mem_concat_self
    rw [mergeLayers_concat, get?_overlayEntries_eq last.keys, List.filterMap_append]
    cases held : Entries.get? key layer with
    | none =>
      rw [List.filterMap_cons_none held, List.filterMap_nil, List.append_nil]
      exact below
    | some v =>
      rw [List.filterMap_cons_some held]
      exact below.concat (last.value held)

theorem isLayer_mergeLayers (wellFormed : ∀ layer ∈ layers, IsLayer layer) : IsLayer (mergeLayers layers) := by
  induction layers using List.reverseRecOn with
  | nil => rfl
  | append_singleton layers layer ih =>
    rw [mergeLayers_concat]
    exact isLayer_overlayEntries (ih fun other member => wellFormed other (List.mem_append_left _ member))
      (wellFormed layer List.mem_concat_self)

end Merging

/-- Layers are merged key by key, and the last writer wins: in any merge of layers, each key holds what the values of
the layers under it come to, in the order in which the keys appear first. So a further layer can be merged into what the
others came to, an empty layer changes nothing wherever it stands, and a layer merged with itself is that layer. -/
theorem merge_lets_the_last_writer_win {layers : List Entries} (wellFormed : ∀ layer ∈ layers, IsLayer layer) :
    Merged layers (mergeLayers layers) ∧
      (∀ layer, mergeLayers (layers ++ [layer]) = mergeLayers [mergeLayers layers, layer]) ∧
      (∀ earlier later, layers = earlier ++ later → mergeLayers (earlier ++ [] :: later) = mergeLayers layers) ∧
      ∀ layer ∈ layers, mergeLayers [layer, layer] = layer := by
  refine ⟨⟨isLayer_mergeLayers wellFormed, settles_mergeLayers wellFormed, keys_mergeLayers layers⟩, ?_, ?_, ?_⟩
  · intro layer
    have merged := mergeLayers_singleton (isLayer_mergeLayers wellFormed)
    rw [mergeLayers_concat, ← List.singleton_append, mergeLayers_concat, merged]
  · rintro earlier later rfl
    rw [mergeLayers_eq, mergeLayers_eq]
    simp only [List.flatten_append, List.flatten_cons, List.nil_append]
  · intro layer member
    have same := overlay_self (.obj layer) (wellFormed layer member)
    rw [← List.singleton_append, mergeLayers_concat, mergeLayers_singleton (wellFormed layer member)]
    exact Value.obj.inj same

/-- Layers in which objects, a number and nothing take turns under one key, at two depths. -/
def alternatingLayers : List Entries :=
  [[("a", .obj [("x", .int 1), ("y", .obj [("p", .int 1)])]), ("b", .null)],
   [("a", .int 5)],
   [("a", .obj [("x", .int 2), ("y", .obj [("q", .int 2)])]), ("c", .bool true)],
   [],
   [("a", .obj [("z", .obj []), ("y", .obj [("p", .int 3)])]), ("b", .str "text")]]

/-- The number hides the objects below it, and the objects above it are merged. -/
theorem number_cuts_off_the_objects_below :
    (∀ layer ∈ alternatingLayers, IsLayer layer) ∧ Merged alternatingLayers (mergeLayers alternatingLayers) ∧
      mergeLayers alternatingLayers =
        [("a", .obj [("x", .int 2), ("y", .obj [("q", .int 2), ("p", .int 3)]), ("z", .obj [])]),
         ("b", .str "text"), ("c", .bool true)] := by
  have wellFormed : ∀ layer ∈ alternatingLayers, IsLayer layer := by decide
  exact ⟨wellFormed, (merge_lets_the_last_writer_win wellFormed).1, rfl⟩

end EditorAssist.Settings

import EditorAssist.Journal.Sink
import EditorAssist.Proofs.Json.Encodable
import EditorAssist.Proofs.Json.OneLine
import EditorAssist.Proofs.Number.Binary64
import Mathlib.Data.List.Forall2

/-!
# Records on one line

In the formats for programs, a record is rendered on one line: whatever its message and its tags say, no line break of
theirs gets into it (`oneLine_render`). In JSON the line is read back as the record (`Call.Shows.reads`).
-/

namespace EditorAssist.Journal

open EditorAssist.Json EditorAssist.Number EditorAssist.Text EditorAssist.Time

/-! ## Records of calls -/

/-- A call for a record. -/
structure Call where
  now : Instant
  level : Level
  message : Datum
  tags : Tags

namespace Call

/-- The tags that are not null. -/
def given (call : Call) : Tags := call.tags.filter fun tag => match tag.2 with
  | .null => false
  | _ => true

/-- The tags form a table, they leave the head of the record alone, and their names are on one line. -/
structure IsTagged (call : Call) : Prop where
  distinct : (call.tags.map (·.1)).Nodup
  free : ∀ tag ∈ call.tags, tag.1 ∉ reservedKeys
  named : ∀ tag ∈ call.tags, OneLine tag.1.toList

/-- The head of the record of a call that follows on one at an earlier instant. -/
def head (last : Instant) (call : Call) : Tags :=
  [("time", .text (timestamp call.now.micros)), ("delta_ms", .int (last.millisBetween call.now)),
    ("level", .text call.level.label), ("msg", normalize call.message)]

def record (last : Instant) (call : Call) : Tags :=
  call.head last ++ call.given.map fun tag => (tag.1, normalize tag.2)

/-- The same record in JSON, with the message and the tags in the forms that they have there. -/
def entries (last : Instant) (call : Call) (message : Value) (tags : Entries) : Entries :=
  [("time", .str (timestamp call.now.micros)), ("delta_ms", .int (last.millisBetween call.now)),
    ("level", .str call.level.label), ("msg", message)] ++ tags

end Call

/-- A value is the form in JSON that a datum has in a record, and reading can give it back. -/
structure IsForm (d : Datum) (v : Value) : Prop where
  form : (normalize d).json? = some v
  kept : v.all Value.isKept = true

/-- The message and the tags that are not null have these forms. -/
structure Call.Shows (call : Call) (message : Value) (tags : Entries) : Prop where
  message : IsForm call.message message
  tags : List.Forall₂ (fun tag entry => entry.1 = tag.1 ∧ IsForm tag.2 entry.2) call.given tags

section Records

variable {call : Call} {last : Instant} {base more : Tags}

theorem Tags.set_of_fresh {key : String} {value : Datum} {tags : Tags} (fresh : key ∉ tags.map (·.1)) :
    Tags.set key value tags = tags ++ [(key, value)] := by
  induction tags with
  | nil => rfl
  | cons tag rest ih =>
    rw [List.map_cons, List.mem_cons, not_or] at fresh
    simp [Tags.set, Ne.symm fresh.1, ih fresh.2]

/-- New tags go last. -/
theorem Tags.merge_of_fresh (distinct : (more.map (·.1)).Nodup) (fresh : ∀ tag ∈ more, tag.1 ∉ base.map (·.1)) :
    Tags.merge base more = base ++ more := by
  induction more generalizing base with
  | nil => exact (List.append_nil base).symm
  | cons tag rest ih =>
    rw [List.map_cons, List.nodup_cons] at distinct
    have added : Tags.set tag.1 tag.2 base = base ++ [tag] := set_of_fresh (fresh tag List.mem_cons_self)
    have onward : Tags.merge (base ++ [tag]) rest = base ++ [tag] ++ rest := by
      refine ih distinct.2 ?_
      intro other member
      rw [List.map_append, List.mem_append, not_or]
      refine ⟨fresh other (List.mem_cons_of_mem tag member), ?_⟩
      rw [List.map_singleton, List.mem_singleton]
      exact fun same => distinct.1 (List.mem_map.mpr ⟨other, member, same⟩)
    rw [Tags.merge, List.foldl_cons, added, ← Tags.merge, onward, List.append_assoc, List.singleton_append]

theorem Call.IsTagged.given (tagged : call.IsTagged) :
    (call.given.map (·.1)).Nodup ∧ ∀ tag ∈ call.given, tag.1 ∉ reservedKeys ∧ OneLine tag.1.toList := by
  have part : call.given.Sublist call.tags := List.filter_sublist
  refine ⟨tagged.distinct.sublist (part.map _), ?_⟩
  intro tag member
  exact ⟨tagged.free tag (part.subset member), tagged.named tag (part.subset member)⟩

theorem recordOf_eq_record (sink : Sink) (tagged : call.IsTagged) :
    sink.recordOf call.now call.level call.message call.tags = call.record sink.last := by
  obtain ⟨distinct, apart⟩ := tagged.given
  have keys : (call.given.map fun tag => (tag.1, normalize tag.2)).map (·.1) = call.given.map (·.1) := by
    rw [List.map_map]
    rfl
  refine Tags.merge_of_fresh (keys ▸ distinct) ?_
  intro tag member
  obtain ⟨raw, given, rfl⟩ := List.mem_map.mp member
  exact (apart raw given).1

end Records

/-! ## Lines -/

section Lines

variable {call : Call} {last : Instant}

theorem oneLine_padded (width n : Nat) : OneLine (padded width n) :=
  oneLine_append.mpr ⟨oneLine_replicate _ (by decide), oneLine_digits n⟩

theorem oneLine_timestamp (micros : Int) : OneLine (timestamp micros).toList := by
  simp [timestamp, oneLine_padded]

theorem hasHalf_timestamp (micros : Int) : hasHalf (timestamp micros).toList = false := by
  simp [timestamp, padded, hasHalf_zeros, hasHalf_digits, half?_of_ascii]

theorem toList_label (level : Level) : level.label.toList = level.name.toList.map Char.toLower := String.toList_map ..

theorem hasHalf_label (level : Level) : hasHalf level.label.toList = false := by
  rw [toList_label]
  cases level <;> simp [Level.name, half?_of_ascii]

theorem oneLine_label (level : Level) : OneLine level.label.toList := by
  rw [toList_label]
  cases level <;> simp [Level.name]

theorem oneLine_of_isBare {text : List Char} (bare : isBare text = true) : OneLine text := by
  intro broken
  have blank : text.any isBlank = true := List.any_eq_true.mpr ⟨'\n', broken, by decide⟩
  simp [isBare, blank] at bare

/-- However a value is written in a pair, it stays on the line. -/
theorem oneLine_pairValue {d : Datum} {written : List Char} (shown : pairValue d = .ok written) : OneLine written := by
  cases d with
  | null =>
    cases shown
    simp
  | flag b =>
    cases shown
    cases b <;> simp
  | int i =>
    cases shown
    exact oneLine_intText i
  | float x =>
    cases shown
    exact oneLine_floatText (by simp [Datum.displayNames]) (by simp [Datum.displayNames]) x
  | text s =>
    rw [pairValue] at shown
    cases shown
    split
    · next bare => exact oneLine_of_isBare bare
    · exact oneLine_quote false s.toList
  | list | tuple | record =>
    simp only [pairValue] at shown
    split at shown
    · cases shown
      exact oneLine_print _
    · cases shown
  | set | path | fault => cases shown

theorem oneLine_pairs {tags : Tags} {written : List Char}
    (named : ∀ tag ∈ tags, tag.1 ∈ reservedKeys ∨ OneLine tag.1.toList) (shown : pairs tags = .ok written) :
    OneLine written := by
  induction tags generalizing written with
  | nil =>
    cases shown
    exact oneLine_nil
  | cons tag rest ih =>
    obtain ⟨key, value⟩ := tag
    have later := fun tag member => named tag (List.mem_cons_of_mem _ member)
    rw [pairs] at shown
    split at shown
    · exact ih later shown
    · next free =>
      have name : OneLine key.toList := (named _ List.mem_cons_self).resolve_left (by simpa using free)
      split at shown
      · cases shown
      · next found =>
        split at shown
        · cases shown
        · cases shown
          simp [name, oneLine_pairValue found]
        · next more =>
          cases shown
          simp [name, oneLine_pairValue found, ih later more]

theorem Call.named (tagged : call.IsTagged) :
    ∀ tag ∈ call.record last, tag.1 ∈ reservedKeys ∨ OneLine tag.1.toList := by
  intro tag member
  rw [Call.record, List.mem_append] at member
  obtain head | given := member
  · have keys : (call.head last).map (·.1) = reservedKeys := rfl
    exact .inl (keys ▸ List.mem_map_of_mem head)
  · obtain ⟨raw, member, rfl⟩ := List.mem_map.mp given
    exact .inr (tagged.given.2 raw member).2

theorem oneLine_renderPairs {line : List Char} (tagged : call.IsTagged)
    (shown : renderPairs (call.record last) = .ok line) : OneLine line := by
  have time : headText "time" (call.record last) = (timestamp call.now.micros).toList := rfl
  have distance : headText "delta_ms" (call.record last) = intText (last.millisBetween call.now) :=
    String.toList_ofList
  have level : headText "level" (call.record last) = call.level.label.toList := rfl
  rw [renderPairs, time, distance, level] at shown
  cases message : pairValue ((Tags.get? "msg" (call.record last)).getD .null) with
  | error fault =>
    rw [message] at shown
    cases shown
  | ok written =>
    cases tail : pairs (call.record last) with
    | error fault =>
      rw [message, tail] at shown
      cases shown
    | ok rest =>
      rw [message, tail] at shown
      have front : OneLine ((timestamp call.now.micros).toList ++ " +".toList ++ intText (last.millisBetween call.now) ++
          "ms level=".toList ++ call.level.label.toList ++ " msg=".toList ++ written) := by
        simp [oneLine_timestamp, oneLine_intText, oneLine_label, oneLine_pairValue message]
      have back : OneLine rest := oneLine_pairs (Call.named tagged) tail
      cases shown
      split
      · exact front
      · exact oneLine_append.mpr ⟨front, oneLine_cons.mpr ⟨by decide, back⟩⟩

/-- In the formats for programs, a record is rendered on one line. -/
theorem oneLine_render {format : Format} {line : List Char} (plain : format ≠ .pretty) (tagged : call.IsTagged)
    (shown : render format (call.record last) = .ok line) : OneLine line := by
  cases format with
  | pairs => exact oneLine_renderPairs tagged shown
  | json =>
    cases shown
    exact oneLine_print _
  | pretty => exact absurd rfl plain

end Lines

/-! ## Lines read back -/

/-- A text is read as a value: if the value nests no deeper than is read, and in any case by a reader that goes as deep
as it nests. -/
structure Reads (text : List Char) (v : Value) : Prop where
  parsed : v.nesting ≤ maxNesting → parse text = .ok v
  deep : ∀ depth, v.nesting ≤ depth →
    Parser.value (text.length + 1) depth ⟨0, text⟩ = .ok (v, ⟨text.length, []⟩)

theorem reads_print {v : Value} (kept : v.all Value.isKept = true) : Reads (print .compact v) v where
  parsed := parse_print kept
  deep depth shallow := by
    have read := Parser.value_print v kept shallow (Nat.le_succ (print .compact v).length) 0 [] rfl
    rwa [List.append_nil, Nat.zero_add] at read

section Forms

mutual

/-- A form in JSON is also the one that stands in a record. -/
theorem jsonOrText_of_json? {d : Datum} {v : Value} (form : d.json? = some v) : d.jsonOrText = v := by
  match d with
  | .null | .flag _ | .int _ | .float _ | .text _ =>
    cases form
    rfl
  | .list items | .tuple items =>
    obtain ⟨values, shown, rfl⟩ := Option.map_eq_some_iff.mp form
    exact congrArg Value.arr (jsonItems_of_json? shown)
  | .record entries =>
    obtain ⟨values, shown, rfl⟩ := Option.map_eq_some_iff.mp form
    exact congrArg Value.obj (jsonEntries_of_json? shown)
  | .set _ | .path _ | .fault _ => cases form

theorem jsonItems_of_json? {items : List Datum} {values : List Value} (form : Datum.jsonItems? items = some values) :
    Datum.jsonItems items = values := by
  match items with
  | [] =>
    cases form
    rfl
  | d :: rest =>
    rw [Datum.jsonItems?] at form
    split at form
    · next v more first later =>
      cases form
      rw [Datum.jsonItems, jsonOrText_of_json? first, jsonItems_of_json? later]
    · cases form

theorem jsonEntries_of_json? {entries : List (String × Datum)} {values : Entries}
    (form : Datum.jsonEntries? entries = some values) : Datum.jsonEntries entries = values := by
  match entries with
  | [] =>
    cases form
    rfl
  | (key, d) :: rest =>
    rw [Datum.jsonEntries?] at form
    split at form
    · next v more first later =>
      cases form
      rw [Datum.jsonEntries, jsonOrText_of_json? first, jsonEntries_of_json? later]
    · cases form

end

theorem IsForm.jsonOrText {d : Datum} {v : Value} (shown : IsForm d v) : (normalize d).jsonOrText = v :=
  jsonOrText_of_json? shown.form

variable {call : Call} {last : Instant} {message : Value} {tags : Entries} {given : Tags}

section Tags

variable (forms : List.Forall₂ (fun tag entry => entry.1 = tag.1 ∧ IsForm tag.2 entry.2) given tags)
include forms

theorem keys_of_forms : Entries.keys tags = given.map (·.1) := by
  induction forms with
  | nil => rfl
  | cons first _ ih =>
    rw [Entries.keys, List.map_cons, List.map_cons, first.1]
    exact congrArg (_ :: ·) ih

theorem jsonEntries_of_forms : Datum.jsonEntries (given.map fun tag => (tag.1, normalize tag.2)) = tags := by
  induction forms with
  | nil => rfl
  | cons first _ ih => rw [List.map_cons, Datum.jsonEntries, ih, ← first.1, first.2.jsonOrText]

theorem kept_of_forms : ∀ entry ∈ tags, entry.2.all Value.isKept = true := by
  induction forms with
  | nil => exact List.forall_mem_nil _
  | cons first _ ih => exact List.forall_mem_cons.mpr ⟨first.2.kept, ih⟩

end Tags

theorem Call.Shows.jsonEntries (shows : call.Shows message tags) :
    Datum.jsonEntries (call.record last) = call.entries last message tags := by
  rw [Call.entries, ← shows.message.jsonOrText, ← jsonEntries_of_forms shows.tags]
  rfl

/-- All of the record is read back if its message and its tags are. -/
theorem Call.Shows.kept (tagged : call.IsTagged) (shows : call.Shows message tags) :
    (Value.obj (call.entries last message tags)).all Value.isKept = true := by
  have distinct : (Entries.keys (call.entries last message tags)).Nodup := by
    have keys : Entries.keys (call.entries last message tags) = reservedKeys ++ Entries.keys tags := rfl
    rw [keys, keys_of_forms shows.tags, List.nodup_append]
    refine ⟨by decide, tagged.given.1, ?_⟩
    rintro key reserved other member rfl
    obtain ⟨tag, given, rfl⟩ := List.mem_map.mp member
    exact (tagged.given.2 tag given).1 reserved
  have distance : (Value.int (last.millisBetween call.now)).isKept = true :=
    decide_eq_true (Binary64.length_digits_truncate_le _)
  have each : ∀ entry ∈ call.entries last message tags, entry.2.all Value.isKept = true := by
    intro entry member
    rw [Call.entries, List.mem_append] at member
    obtain head | given := member
    · simp only [List.mem_cons, List.not_mem_nil, or_false] at head
      rcases head with rfl | rfl | rfl | rfl
      · rfl
      · exact distance
      · rfl
      · exact shows.message.kept
    · exact kept_of_forms shows.tags entry given
  rw [Value.all, Value.allEntries_iff.mpr each, Value.isKept, decide_eq_true distinct]
  rfl

theorem Call.Shows.reads {line : List Char} (tagged : call.IsTagged) (shows : call.Shows message tags)
    (shown : render .json (call.record last) = .ok line) : Reads line (.obj (call.entries last message tags)) := by
  cases shown
  rw [Datum.jsonOrText, shows.jsonEntries]
  exact reads_print (shows.kept tagged)

end Forms

end EditorAssist.Journal

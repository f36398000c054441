import EditorAssist.Proofs.Files.Tree
import EditorAssist.Proofs.Json.Values
import EditorAssist.Proofs.Settings.Fields
import EditorAssist.Proofs.Settings.Layers
import EditorAssist.Proofs.Settings.References
import EditorAssist.Settings.Load
import Mathlib.Data.List.Basic
import Mathlib.Data.List.Induction

/-!
# Resolution of the settings

Each field is resolved on its own: the topmost layer that has a value for it decides, and loading fails only
where such a value, from a file or from the command line, is refused.
-/

namespace EditorAssist.Settings

open EditorAssist.Files EditorAssist.Json EditorAssist.Text

/-! ## Values in force -/

section InForce

/-- The layers above the defaults. -/
inductive Layer where
  | file
  | environment
  | commandLine
  deriving DecidableEq

/-- The value under the last key that names a field. -/
def Field.lastOf (field : Field) (given : Entries) : Option Value :=
  (given.reverse.find? fun entry => field.isNamed entry.1).map (·.2)

/-- Whether a value of the command line sets anything. -/
def isGiven : Value → Bool
  | .null => false
  | _ => true

/-- The value that the command line has for a field. -/
def Field.commanded (field : Field) (overrides : Entries) : Option Value :=
  field.lastOf (overrides.filter fun entry => isGiven entry.2)

/-- The value that the environment has for a field: that of its variable, unless it is empty or refused. -/
def Field.fromEnvironment (field : Field) (environ : Environment) : Option Value :=
  match environ.get? field.environmentName with
  | none => none
  | some raw => if raw.isEmpty || (field.accepts (.str raw)).isNone then none else some (.str raw)

/-- The value in force for a field and the layer that it comes from, where `files` are laid over each other from
left to right. -/
def Field.inForce (field : Field) (files : List Entries) (environ : Environment) (overrides : Entries) :
    Option (Layer × Value) :=
  ((field.commanded overrides).map fun v => (.commandLine, v)).or
    (((field.fromEnvironment environ).map fun v => (.environment, v)).or
      ((field.lastOf files.flatten).map fun v => (.file, v)))

/-- The value in force, wherever it comes from. -/
def Field.valueInForce (field : Field) (files : List Entries) (environ : Environment) (overrides : Entries) :
    Option Value :=
  (field.inForce files environ overrides).map (·.2)

variable {field : Field}

theorem valueInForce_eq (files : List Entries) (environ : Environment) (overrides : Entries) :
    field.valueInForce files environ overrides =
      (field.commanded overrides).or ((field.fromEnvironment environ).or (field.lastOf files.flatten)) := by
  unfold Field.valueInForce Field.inForce
  cases field.commanded overrides with
  | some v => rfl
  | none =>
    cases field.fromEnvironment environ with
    | some v => rfl
    | none => cases field.lastOf files.flatten <;> rfl

theorem lastOf_append (first second : Entries) :
    field.lastOf (first ++ second) = (field.lastOf second).or (field.lastOf first) := by
  simp only [Field.lastOf, List.reverse_append, List.find?_append]
  cases second.reverse.find? (fun entry => field.isNamed entry.1) <;> rfl

end InForce

/-! ## The layers -/

section Layers

variable {field : Field}

theorem lastOf_singleton (key : String) (v : Value) :
    field.lastOf [(key, v)] = if field.isNamed key then some v else none := by
  cases named : field.isNamed key <;> simp [Field.lastOf, named]

theorem fieldEntries_append_singleton (given : Entries) (key : String) (v : Value) :
    fieldEntries (given ++ [(key, v)]) =
      match Field.find? key with
      | some found => Entries.set found.name v (fieldEntries given)
      | none => fieldEntries given := by
  rw [fieldEntries, List.foldl_append]
  rfl

/-- Under the name of a field stands the value of the last key that names it. -/
theorem get?_fieldEntries (member : field ∈ Field.all) (given : Entries) :
    Entries.get? field.name (fieldEntries given) = field.lastOf given := by
  induction given using List.reverseRecOn with
  | nil => rfl
  | append_singleton given entry ih =>
    rcases entry with ⟨key, v⟩
    have named := @find?_name _ key member
    rw [lastOf_append, lastOf_singleton, fieldEntries_append_singleton]
    cases found : Field.find? key with
    | none =>
      have other : field.isNamed key = false := by
        rw [found] at named
        simpa using named
      rw [other]
      exact ih
    | some f =>
      rw [found, Option.map_some, Option.some.injEq] at named
      dsimp only
      rw [Entries.get?_set]
      by_cases same : f.name = field.name
      · rw [if_pos same.symm, if_pos (named.mp same)]
        rfl
      · rw [if_neg (Ne.symm same), if_neg fun shown => same (named.mpr shown)]
        exact ih

theorem nodup_fieldEntries (given : Entries) : (Entries.keys (fieldEntries given)).Nodup := by
  induction given using List.reverseRecOn with
  | nil => exact List.nodup_nil
  | append_singleton given entry ih =>
    rw [fieldEntries_append_singleton]
    split
    · exact Entries.nodup_set ih
    · exact ih

theorem commandLayer_eq (overrides : Entries) :
    commandLayer overrides = fieldEntries (overrides.filter fun entry => isGiven entry.2) := rfl

theorem get?_commandLayer (member : field ∈ Field.all) (overrides : Entries) :
    Entries.get? field.name (commandLayer overrides) = field.commanded overrides := by
  rw [commandLayer_eq, get?_fieldEntries member, Field.commanded]

theorem nodup_commandLayer (overrides : Entries) : (Entries.keys (commandLayer overrides)).Nodup := by
  rw [commandLayer_eq]
  exact nodup_fieldEntries _

theorem environmentValue?_eq (field : Field) (environ : Environment) :
    environmentValue? environ field = (field.fromEnvironment environ).map fun v => (field.name, v) := by
  unfold environmentValue? Field.fromEnvironment Field.accepts
  cases environ.get? field.environmentName with
  | none => rfl
  | some raw =>
    dsimp only
    cases raw.isEmpty with
    | true => rfl
    | false => cases field.read (.str raw) <;> rfl

theorem environmentLayer_eq (environ : Environment) :
    environmentLayer environ = Field.all.filterMap fun f => (f.fromEnvironment environ).map fun v => (f.name, v) :=
  List.filterMap_congr fun f _ => environmentValue?_eq f environ

theorem get?_environmentLayer (member : field ∈ Field.all) (environ : Environment) :
    Entries.get? field.name (environmentLayer environ) = field.fromEnvironment environ := by
  rw [environmentLayer_eq, get?_filterMap nodup_names _ member]

theorem nodup_environmentLayer (environ : Environment) : (Entries.keys (environmentLayer environ)).Nodup := by
  rw [environmentLayer_eq]
  exact nodup_names.sublist (keys_filterMap ..)

/-- What all layers together hold under the name of a field is the value in force for it. -/
theorem get?_mergeLayers (member : field ∈ Field.all) {layer : Entries} {files : List Entries} {environ : Environment}
    {overrides : Entries} (distinct : (Entries.keys layer).Nodup)
    (held : Option.Rel Alike (Entries.get? field.name layer) (field.lastOf files.flatten)) :
    Option.Rel Alike
      (Entries.get? field.name (mergeLayers [layer, environmentLayer environ, commandLayer overrides]))
      (field.valueInForce files environ overrides) := by
  have lowest := @get?_overlayEntries [] layer distinct field.name
  rw [Entries.get?_nil, Option.or_none] at lowest
  have middle := @get?_overlayEntries (overlayEntries [] layer) _ (nodup_environmentLayer environ) field.name
  rw [get?_environmentLayer member] at middle
  have topmost := @get?_overlayEntries (overlayEntries (overlayEntries [] layer) (environmentLayer environ)) _
    (nodup_commandLayer overrides) field.name
  rw [get?_commandLayer member] at topmost
  rw [valueInForce_eq]
  exact rel_trans topmost (rel_or _ (rel_trans middle (rel_or _ (rel_trans lowest held))))

end Layers

/-! ## The configuration files -/

section ConfigurationFiles

/-- What is read from the configuration files: the mappings of those that there are, or nothing where a file was
asked for that does not exist. -/
inductive FilesRead (tree : Tree) (environ : Environment) : Option String → Option (List Entries) → Prop where
  /-- Without a path, or with an empty one, the two files of the user are read. -/
  | user {path : Option String} {first second : Path} {lower upper : Entries}
      (unasked : path.all String.isEmpty = true) (paths : userPaths environ = .ok [first, second])
      (readLower : fileEntries tree environ first = .ok lower)
      (readUpper : fileEntries tree environ second = .ok upper) : FilesRead tree environ path (some [lower, upper])
  | given {text : String} {place : Path} {entry : Entry} {entries : Entries} (asked : text.isEmpty = false)
      (path : givenPath environ text = .ok place) (present : tree.look place = .ok (some entry))
      (read : fileEntries tree environ place = .ok entries) : FilesRead tree environ (some text) (some [entries])
  | missing {text : String} {place : Path} (asked : text.isEmpty = false) (path : givenPath environ text = .ok place)
      (absent : tree.look place = .ok none) : FilesRead tree environ (some text) none

variable {tree : Tree} {environ : Environment} {path : Option String}

theorem userLayer_of_paths {paths : List Path} (found : userPaths environ = .ok paths) :
    userLayer tree environ = overlaidFiles tree environ paths [] := by
  unfold userLayer
  rw [found]

theorem overlaidFiles_cons {place : Path} {rest : List Path} {below entries : Entries}
    (read : fileEntries tree environ place = .ok entries) :
    overlaidFiles tree environ (place :: rest) below =
      overlaidFiles tree environ rest (overlayEntries below (fieldEntries entries)) := by
  rw [overlaidFiles, read]

/-- The layer of the files holds for each field the value of the last key that names it. -/
theorem fileLayer_of_filesRead {files : List Entries} (reads : FilesRead tree environ path (some files)) :
    ∃ layer, fileLayer tree environ path = .ok layer ∧ (Entries.keys layer).Nodup ∧
      ∀ field ∈ Field.all, Option.Rel Alike (Entries.get? field.name layer) (field.lastOf files.flatten) := by
  cases reads with
  | @user _ first second lower upper unasked paths readLower readUpper =>
    refine ⟨overlayEntries (overlayEntries [] (fieldEntries lower)) (fieldEntries upper), ?_, ?_, ?_⟩
    · have user : userLayer tree environ =
          .ok (overlayEntries (overlayEntries [] (fieldEntries lower)) (fieldEntries upper)) := by
        rw [userLayer_of_paths paths, overlaidFiles_cons readLower, overlaidFiles_cons readUpper]
        rfl
      unfold fileLayer
      cases path with
      | none => exact user
      | some text =>
        have empty : text.isEmpty = true := unasked
        simp only [empty, ↓reduceIte, user]
    · exact nodup_overlayEntries (nodup_overlayEntries List.nodup_nil)
    · -- The upper file is laid over the lower one, which is laid over nothing.
      intro field member
      have below := @get?_overlayEntries [] _ (nodup_fieldEntries lower) field.name
      rw [Entries.get?_nil, Option.or_none, get?_fieldEntries member] at below
      have above := @get?_overlayEntries (overlayEntries [] (fieldEntries lower)) _ (nodup_fieldEntries upper)
        field.name
      rw [get?_fieldEntries member] at above
      rw [List.flatten_cons, List.flatten_cons, List.flatten_nil, List.append_nil, lastOf_append]
      exact rel_trans above (rel_or _ below)
  | @given text place entry entries asked path present read =>
    refine ⟨fieldEntries entries, ?_, nodup_fieldEntries entries, ?_⟩
    · simp only [fileLayer, asked, Bool.false_eq_true, ↓reduceIte, path, givenLayer, present, read]
      rfl
    · intro field member
      rw [get?_fieldEntries member, List.flatten_cons, List.flatten_nil, List.append_nil]
      exact rel_refl _

theorem fileLayer_of_missing (reads : FilesRead tree environ path none) :
    ∃ place, fileLayer tree environ path = .error (Fault.config "file not found" (some place)) := by
  cases reads with
  | @missing text place asked path absent =>
    refine ⟨String.ofList place.toText, ?_⟩
    simp only [fileLayer, asked, Bool.false_eq_true, ↓reduceIte, path, givenLayer, absent]

end ConfigurationFiles

/-! ## Loading -/

section Loading

variable {field : Field} {given other : Entries}

/-- A field does not look into objects. -/
theorem read_alike (member : field ∈ Field.all) {v w : Value} (alike : Alike v w) : field.read v = field.read w := by
  cases alike with
  | same => rfl
  | objects first second => exact (lawful_of_mem field member).objects first second

theorem problems_congr (member : field ∈ Field.all)
    (alike : Option.Rel Alike (Entries.get? field.name given) (Entries.get? field.name other)) :
    field.problems given = field.problems other := by
  unfold Field.problems
  generalize Entries.get? field.name given = v at alike
  generalize Entries.get? field.name other = w at alike
  cases alike with
  | none => rfl
  | some same => simp only [read_alike member same]

theorem apply_congr (member : field ∈ Field.all)
    (alike : Option.Rel Alike (Entries.get? field.name given) (Entries.get? field.name other)) (s : Settings) :
    field.apply given s = field.apply other s := by
  unfold Field.apply
  generalize Entries.get? field.name given = v at alike
  generalize Entries.get? field.name other = w at alike
  cases alike with
  | none => rfl
  | some same => simp only [read_alike member same]

/-- Settings depend on what is given for each field, and on nothing else that is given. -/
theorem ofEntries_congr (defaults : Settings) (given other : Entries)
    (alike : ∀ field ∈ Field.all, Option.Rel Alike (Entries.get? field.name given) (Entries.get? field.name other)) :
    ofEntries defaults given = ofEntries defaults other := by
  have problems : Field.all.flatMap (·.problems given) = Field.all.flatMap (·.problems other) :=
    List.flatMap_congr fun field member => problems_congr member (alike field member)
  have applied : Field.all.foldl (fun s field => field.apply given s) defaults =
      Field.all.foldl (fun s field => field.apply other s) defaults :=
    List.foldl_ext _ _ _ fun s field member => apply_congr member (alike field member) s
  simp only [ofEntries, problems, applied]

/-- The values in force, under the names of their fields. -/
def valuesInForce (files : List Entries) (environ : Environment) (overrides : Entries) : Entries :=
  Field.all.filterMap fun field => (field.valueInForce files environ overrides).map fun v => (field.name, v)

theorem get?_valuesInForce (member : field ∈ Field.all) (files : List Entries) (environ : Environment)
    (overrides : Entries) :
    Entries.get? field.name (valuesInForce files environ overrides) = field.valueInForce files environ overrides :=
  get?_filterMap nodup_names (fun field => field.valueInForce files environ overrides) member

variable {tree : Tree} {environ : Environment} {path : Option String} {overrides : Entries} {files : List Entries}

/-- Loading reads the settings from the values in force. -/
theorem load_eq (reads : FilesRead tree environ path (some files)) :
    load tree environ overrides path =
      match ofEntries (defaults (String.ofList environ.defaultLogFile)) (valuesInForce files environ overrides) with
      | .ok settings => .ok settings
      | .error problems => .error (Fault.config ("; ".intercalate (problems.map (·.message))) path) := by
  obtain ⟨layer, read, distinct, held⟩ := fileLayer_of_filesRead reads
  have same := ofEntries_congr (defaults (String.ofList environ.defaultLogFile))
    (mergeLayers [layer, environmentLayer environ, commandLayer overrides])
    (valuesInForce files environ overrides) fun field member => by
      rw [get?_valuesInForce member]
      exact get?_mergeLayers member distinct (held field member)
  cases made : ofEntries (defaults (String.ofList environ.defaultLogFile)) (valuesInForce files environ overrides) <;>
    simp only [load, read, same, made]

/-- The value in force comes from a file or from the command line, and its field refuses it. -/
def Field.Refused (field : Field) (files : List Entries) (environ : Environment) (overrides : Entries) : Prop :=
  ∃ layer v, field.inForce files environ overrides = some (layer, v) ∧ layer ≠ .environment ∧ field.accepts v = none

instance (field : Field) (files : List Entries) (environ : Environment) (overrides : Entries) :
    Decidable (field.Refused files environ overrides) :=
  match inForce : field.inForce files environ overrides with
  | none => isFalse (by rintro ⟨_, _, present, -⟩; rw [inForce] at present; cases present)
  | some (layer, v) =>
    if refused : layer ≠ .environment ∧ field.accepts v = none then isTrue ⟨layer, v, inForce, refused⟩
    else isFalse (by
      rintro ⟨_, _, present, refusal⟩
      rw [inForce] at present
      cases present
      exact refused refusal)

/-- Settings hold what a field makes of the value in force, and its default where there is none. -/
def Field.Resolved (field : Field) (files : List Entries) (environ : Environment) (overrides : Entries)
    (s : Settings) : Prop :=
  match field.inForce files environ overrides with
  | some (_, v) => field.accepts v = some (field.shown s)
  | none => field.shown s = field.shown (defaults (String.ofList environ.defaultLogFile))

theorem accepts_of_fromEnvironment {v : Value} (held : field.fromEnvironment environ = some v) :
    (field.accepts v).isSome := by
  unfold Field.fromEnvironment at held
  split at held
  · cases held
  · split at held
    · cases held
    · next raw _ accepted =>
      cases held
      cases refusal : field.accepts (.str raw) with
      | some shown => rfl
      | none => exact absurd (by simp [refusal]) accepted

/-- A value of the environment is in force only where its field accepts it. -/
theorem accepts_of_environment {v : Value}
    (inForce : field.inForce files environ overrides = some (.environment, v)) : (field.accepts v).isSome := by
  have held : field.fromEnvironment environ = some v := by
    unfold Field.inForce at inForce
    cases above : field.commanded overrides <;> cases held : field.fromEnvironment environ <;>
      cases below : field.lastOf files.flatten <;> simp [above, held, below] at inForce
    all_goals rw [inForce]
  exact accepts_of_fromEnvironment held

theorem load_of_missing (reads : FilesRead tree environ path none) :
    ∃ place, load tree environ overrides path = .error (Fault.config "file not found" (some place)) := by
  obtain ⟨place, missing⟩ := fileLayer_of_missing reads
  exact ⟨place, by rw [load, missing]⟩

theorem load_of_refused (reads : FilesRead tree environ path (some files)) (member : field ∈ Field.all)
    (refused : field.Refused files environ overrides) :
    ∃ message, load tree environ overrides path = .error (Fault.config message path) := by
  obtain ⟨layer, v, inForce, -, refusal⟩ := refused
  have present : Entries.get? field.name (valuesInForce files environ overrides) = some v := by
    rw [get?_valuesInForce member, Field.valueInForce, inForce]
    rfl
  obtain ⟨problems, failed⟩ :=
    ofEntries_of_refused (defaults (String.ofList environ.defaultLogFile)) member present refusal
  rw [load_eq reads, failed]
  exact ⟨_, rfl⟩

theorem load_of_accepted (reads : FilesRead tree environ path (some files))
    (accepted : ∀ field ∈ Field.all, ¬field.Refused files environ overrides) :
    ∃ s, load tree environ overrides path = .ok s ∧
      ∀ field ∈ Field.all, field.Resolved files environ overrides s := by
  have each {field : Field} (member : field ∈ Field.all) {layer : Layer} {v : Value}
      (inForce : field.inForce files environ overrides = some (layer, v)) : (field.accepts v).isSome := by
    by_cases environment : layer = .environment
    · subst environment
      exact accepts_of_environment inForce
    · cases refusal : field.accepts v with
      | some shown => rfl
      | none => exact absurd ⟨layer, v, inForce, environment, refusal⟩ (accepted field member)
  have all : ∀ field ∈ Field.all, ∀ v ∈ Entries.get? field.name (valuesInForce files environ overrides),
      (field.accepts v).isSome := by
    intro field member v present
    rw [get?_valuesInForce member] at present
    obtain ⟨⟨layer, w⟩, inForce, rfl⟩ := Option.map_eq_some_iff.mp present
    exact each member inForce
  refine ⟨_, by rw [load_eq reads, ofEntries_of_accepted all], ?_⟩
  intro field member
  have shown := shown_foldl member (valuesInForce files environ overrides)
    (defaults (String.ofList environ.defaultLogFile))
  rw [get?_valuesInForce member, Field.valueInForce] at shown
  unfold Field.Resolved
  split
  · next layer v inForce =>
    obtain ⟨made, accepts⟩ := Option.isSome_iff_exists.mp (each member inForce)
    rw [inForce, Option.map_some, Option.bind_some, accepts, Option.getD_some] at shown
    rw [accepts, shown]
  · next inForce =>
    rw [inForce] at shown
    exact shown

/-- Loading fails for a file that does not exist or for a value that is refused, or it succeeds and every field is
resolved. -/
theorem load_cases (overrides : Entries) {read : Option (List Entries)} (reads : FilesRead tree environ path read) :
    ((∃ message place, load tree environ overrides path = .error (Fault.config message place)) ∧
      (read = none ∨ ∃ files, read = some files ∧ ∃ field ∈ Field.all, field.Refused files environ overrides)) ∨
    ∃ s files, load tree environ overrides path = .ok s ∧ read = some files ∧
      ∀ field ∈ Field.all, ¬field.Refused files environ overrides ∧ field.Resolved files environ overrides s := by
  cases read with
  | none =>
    obtain ⟨place, missing⟩ := load_of_missing reads
    exact .inl ⟨⟨_, place, missing⟩, .inl rfl⟩
  | some files =>
    by_cases refused : ∃ field ∈ Field.all, field.Refused files environ overrides
    · obtain ⟨field, member, refusal⟩ := refused
      obtain ⟨message, failed⟩ := load_of_refused reads member refusal
      exact .inl ⟨⟨message, path, failed⟩, .inr ⟨files, rfl, field, member, refusal⟩⟩
    · have accepted : ∀ field ∈ Field.all, ¬field.Refused files environ overrides :=
        fun field member refusal => refused ⟨field, member, refusal⟩
      obtain ⟨s, loaded, resolved⟩ := load_of_accepted reads accepted
      exact .inr ⟨s, files, loaded, rfl, fun field member => ⟨accepted field member, resolved field member⟩⟩

/-- Loading settings gives settings or an error of the configuration. It is an error exactly if the file that was
asked for does not exist or a field refuses its value in force, and that comes from a file or from the command line.
Otherwise every field holds what it makes of its value in force, or its default. Nothing else in the layers matters:
neither a value that is masked nor a key that names no field nor what the environment has for another field. -/
theorem load_resolves_each_field (overrides : Entries) {read : Option (List Entries)}
    (reads : FilesRead tree environ path read) :
    ((∃ s, load tree environ overrides path = .ok s) ∨
      ∃ message place, load tree environ overrides path = .error (Fault.config message place)) ∧
    ((∃ message place, load tree environ overrides path = .error (Fault.config message place)) ↔
      read = none ∨ ∃ files, read = some files ∧ ∃ field ∈ Field.all, field.Refused files environ overrides) ∧
    (∀ s files, load tree environ overrides path = .ok s → read = some files →
      ∀ field ∈ Field.all, field.Resolved files environ overrides s) ∧
    (∀ files tree' environ' overrides' files', read = some files → FilesRead tree' environ' path (some files') →
      environ'.defaultLogFile = environ.defaultLogFile →
      (∀ field ∈ Field.all,
        field.valueInForce files' environ' overrides' = field.valueInForce files environ overrides) →
      load tree' environ' overrides' path = load tree environ overrides path) := by
  refine ⟨?_, ?_, ?_, ?_⟩
  · rcases load_cases overrides reads with ⟨failed, -⟩ | ⟨s, files, loaded, -⟩
    · exact .inr failed
    · exact .inl ⟨s, loaded⟩
  · rcases load_cases overrides reads with ⟨failed, cause⟩ | ⟨s, files, loaded, rfl, each⟩
    · exact ⟨fun _ => cause, fun _ => failed⟩
    · constructor
      · rintro ⟨message, place, failed⟩
        rw [loaded] at failed
        cases failed
      · rintro (none | ⟨_, same, field, member, refused⟩)
        · cases none
        · cases same
          exact absurd refused (each field member).1
  · rintro s files loaded rfl field member
    rcases load_cases overrides reads with ⟨⟨_, _, failed⟩, -⟩ | ⟨settings, _, same, found, each⟩
    · rw [loaded] at failed
      cases failed
    · rw [loaded] at same
      cases same
      cases found
      exact (each field member).2
  · rintro files tree' environ' overrides' files' rfl reads' log same
    have values : valuesInForce files' environ' overrides' = valuesInForce files environ overrides :=
      List.filterMap_congr fun field member => by rw [same field member]
    rw [load_eq reads, load_eq reads', values, log]

/-! A file whose only value is out of bounds, which a variable masks, and a variable that is refused and masked. -/

def maskedText : String := "\x7b\"debounce\":-1\x7d"

def maskedEntries : Entries := [("debounce", .int (-1))]

def maskedPlace : Path := ⟨[], ["c.json".toList]⟩

def maskedTree : Tree := [⟨maskedPlace, Utf8.encode maskedText⟩]

def maskingVariables : Environment := [("DEBOUNCE", "5"), ("NUM_SUGGESTIONS", "many")]

def maskingOverrides : Entries := [("numSuggestions", .int 3), ("debounce", .null), ("color", .bool true)]

theorem look_maskedTree : maskedTree.look maskedPlace = .ok (some (.file (Utf8.encode maskedText))) := by rfl

theorem readText_maskedTree : maskedTree.readText maskedPlace = .ok maskedText.toList :=
  readText_of_encoded (by rfl) (by rfl) (by rfl)

theorem read_maskedText :
    Commented.read (maskingVariables.expand maskedText.toList) = .value (.obj maskedEntries) := by
  have expanded : maskingVariables.expand maskedText.toList = maskedText.toList := by
    apply Environment.expand_of_unmarked
    apply breakOn_eq_none_iff.mp
    unfold maskedText
    simp only [String.reduceToList]
    rfl
  have kept : (Commented.scan .start maskedText.toList).toOption = some maskedText.toList := by decide +kernel
  have written : print .compact (.obj maskedEntries) = maskedText.toList := by
    unfold maskedText
    simp only [String.reduceToList]
    rfl
  have parsed := parse_print (v := .obj maskedEntries) (by decide) (by decide)
  rw [written] at parsed
  cases scanned : Commented.scan .start maskedText.toList with
  | error reading =>
    rw [scanned] at kept
    cases kept
  | ok tokens =>
    rw [scanned] at kept
    cases kept
    rw [expanded, Commented.read, scanned]
    simp only [parsed]

theorem filesRead_maskedTree : FilesRead maskedTree maskingVariables (some "c.json") (some [maskedEntries]) := by
  have place : (Path.parse "c.json".toList).expandHome maskingVariables.homeOf = some maskedPlace := by
    rw [parse_of_name (by simp) (by simp) (by simp)]
    rfl
  refine .given rfl ?_ look_maskedTree ?_
  · rw [givenPath, place]
  · simp only [fileEntries, look_maskedTree, readText_maskedTree, read_maskedText]

theorem masked_values_do_no_harm :
    FilesRead maskedTree maskingVariables (some "c.json") (some [maskedEntries]) ∧
    ∃ s, load maskedTree maskingVariables maskingOverrides (some "c.json") = .ok s ∧ s.debounce = 5 ∧
      s.suggestions = 3 := by
  refine ⟨filesRead_maskedTree, ?_⟩
  obtain ⟨outcome, failure, resolved, -⟩ :=
    load_resolves_each_field maskingOverrides filesRead_maskedTree
  have accepted : ∀ field ∈ Field.all, ¬field.Refused [maskedEntries] maskingVariables maskingOverrides := by
    decide
  rcases outcome with ⟨s, loaded⟩ | failed
  · have debounce := resolved s _ loaded rfl Field.all[9] (List.getElem_mem _)
    have suggestions := resolved s _ loaded rfl Field.all[11] (List.getElem_mem _)
    have five : some (Value.int 5) = some (.int s.debounce) := debounce
    have three : some (Value.int 3) = some (.int s.suggestions) := suggestions
    simp only [Option.some.injEq, Value.int.injEq] at five three
    exact ⟨s, loaded, by omega, by omega⟩
  · rcases failure.mp failed with none | ⟨files, same, field, member, refused⟩
    · cases none
    · cases same
      exact absurd refused (accepted field member)

end Loading

end EditorAssist.Settings

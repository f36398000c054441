import EditorAssist.Proofs.Journal.Records

/-!
# One record, one line

A call appends its line to whatever is listening and leaves everything else as it is (`call_appends`). So calls that raise
nothing append one line each, in their order (`records_are_lines`).
-/

namespace EditorAssist.Journal

open EditorAssist.Json EditorAssist.Text EditorAssist.Time

namespace Sink

/-- What a sink is once a text was written at the end of what is listening, and nothing else. -/
structure Appended (sink : Sink) (text : String) (later : Sink) : Prop where
  level : later.level = sink.level
  format : later.format = sink.format
  toConsole : later.toConsole = sink.toConsole
  path : later.path = sink.path
  isOpen : later.isOpen = sink.isOpen
  console : later.console = if sink.toConsole then sink.console ++ text else sink.console
  file : ∀ path, (later.file? path).getD "" =
    if sink.isOpen ∧ sink.path = some path then (sink.file? path).getD "" ++ text else (sink.file? path).getD ""

/-- Makes a call, with the fault that it raises, if any. -/
def call (sink : Sink) (call : Call) : Sink × Option RenderFault :=
  sink.emit call.now call.level call.message call.tags

end Sink

/-- Calls that are made one after another, none of which raises a fault. -/
inductive Logged : Sink → List Call → Sink → Prop
  | nil (sink : Sink) : Logged sink [] sink
  | cons {sink : Sink} {call : Call} {calls : List Call} {later : Sink} (fine : (sink.call call).2 = none)
      (onward : Logged (sink.call call).1 calls later) : Logged sink (call :: calls) later

/-- Each call with the instant of the record before. -/
def spaced (last : Instant) : List Call → List (Instant × Call)
  | [] => []
  | call :: calls => (last, call) :: spaced call.now calls

/-- A line for a call. -/
structure IsLine (format : Format) (placed : Instant × Call) (line : List Char) : Prop where
  rendered : render format (placed.2.record placed.1) = .ok line
  single : OneLine line
  /-- In JSON the line says what the call says, as far as reading can give that back. -/
  read : format = .json → ∀ message tags, placed.2.Shows message tags →
    Reads line (.obj (placed.2.entries placed.1 message tags))

section Appending

variable {sink middle later : Sink} {text more : String} {call : Call} {calls : List Call}

namespace Sink

/-- What a file says after one was written. -/
theorem find?_putFile (path text other : String) (files : List (String × String)) :
    ((putFile path text files).find? (·.1 == other)).map (·.2) =
      if other = path then some text else (files.find? (·.1 == other)).map (·.2) := by
  induction files with
  | nil =>
    by_cases same : other = path
    · simp [putFile, same]
    · simp [putFile, same, Ne.symm same]
  | cons entry rest ih =>
    by_cases there : entry.1 = path
    · by_cases same : other = path
      · simp [putFile, there, same]
      · simp [putFile, there, same, Ne.symm same]
    · by_cases same : entry.1 = other
      · subst same
        simp [putFile, there]
      · simp [putFile, there, same, ih]

theorem Appended.refl (sink : Sink) : sink.Appended "" sink where
  level := rfl
  format := rfl
  toConsole := rfl
  path := rfl
  isOpen := rfl
  console := by simp
  file path := by simp

theorem Appended.trans (one : sink.Appended text middle) (other : middle.Appended more later) :
    sink.Appended (text ++ more) later where
  level := other.level.trans one.level
  format := other.format.trans one.format
  toConsole := other.toConsole.trans one.toConsole
  path := other.path.trans one.path
  isOpen := other.isOpen.trans one.isOpen
  console := by
    rw [other.console, one.console, one.toConsole]
    split
    · exact String.append_assoc
    · rfl
  file path := by
    rw [other.file, one.file, one.isOpen, one.path]
    split
    · exact String.append_assoc
    · rfl

/-- Where the open file takes a line, it goes to the end of all that is listening. -/
theorem writeLine_appends {line : String} (taken : sink.isOpen = true → sink.takesLine line.toList = true)
    (now : Instant) : sink.Appended line ({ sink with last := now }.writeLine line) where
  level := rfl
  format := rfl
  toConsole := rfl
  path := rfl
  isOpen := rfl
  console := rfl
  file path := by
    have files : ({ sink with last := now }.writeLine line).file? path =
        if sink.isOpen ∧ sink.path = some path then some ((sink.file? path).getD "" ++ line) else sink.file? path := by
      unfold writeLine file?
      dsimp only
      split
      · next written name takes named =>
        have opened : sink.isOpen = true := (Bool.and_eq_true_iff.mp takes).1
        rw [find?_putFile, opened, named]
        by_cases same : path = name
        · subst same
          simp
        · simp [same, Ne.symm same]
      · next other =>
        have closed : ¬(sink.isOpen = true ∧ sink.path = some path) := fun ⟨opened, named⟩ =>
          other path (taken opened) named
        rw [if_neg closed]
    rw [files]
    split <;> rfl

end Sink

theorem call_eq (enabled : sink.level.rank ≤ call.level.rank) (tagged : call.IsTagged) :
    sink.call call = match render sink.format (call.record sink.last) with
      | .error fault => ({ sink with last := call.now }, some fault)
      | .ok line => ({ sink with last := call.now }.writeLine (String.ofList (line ++ ['\n'])),
        if sink.isOpen && !sink.takesLine line then some .unencodable else none) := by
  rw [← recordOf_eq_record sink tagged]
  exact if_neg (Nat.not_lt.mpr enabled)

/-- What a call does that raises nothing, at an enabled level. -/
theorem call_appends (plain : sink.format ≠ .pretty) (enabled : sink.level.rank ≤ call.level.rank)
    (tagged : call.IsTagged) (fine : (sink.call call).2 = none) :
    ∃ line, IsLine sink.format (sink.last, call) line ∧
      sink.Appended (String.ofList (line ++ ['\n'])) (sink.call call).1 ∧ (sink.call call).1.last = call.now := by
  have done := call_eq enabled tagged
  cases rendered : render sink.format (call.record sink.last) with
  | error fault =>
    rw [rendered] at done
    rw [done] at fine
    cases fine
  | ok line =>
    rw [rendered] at done
    rw [done] at fine ⊢
    refine ⟨line, ⟨rendered, oneLine_render plain tagged rendered, ?_⟩, ?_, rfl⟩
    · intro json message tags shows
      rw [json] at rendered
      exact shows.reads tagged rendered
    · have taken : sink.isOpen = true → sink.takesLine (String.ofList (line ++ ['\n'])).toList = true := by
        intro opened
        have encoded : hasHalf line = false := by simpa [Sink.takesLine, opened] using fine
        simp [Sink.takesLine, opened, encoded, half?_of_ascii]
      exact Sink.writeLine_appends taken call.now

/-- In JSON, a call whose texts can be encoded raises nothing. -/
theorem fine_of_encodable (json : sink.format = .json) (enabled : sink.level.rank ≤ call.level.rank)
    (tagged : call.IsTagged)
    (encodable : (Value.obj (Datum.jsonEntries (call.record sink.last))).all Value.isEncodable = true) :
    (sink.call call).2 = none := by
  have whole : hasHalf (print .compact (Datum.jsonOrText (.record (call.record sink.last)))) = false := by
    rw [Datum.jsonOrText, hasHalf_print, encodable]
    rfl
  rw [call_eq enabled tagged, json]
  simp [render, renderJson, Sink.takesLine, whole]

end Appending

/-- Calls at enabled levels that raise nothing append one line each, in their order, to all that is listening. -/
theorem records_are_lines {sink later : Sink} {calls : List Call} (plain : sink.format ≠ .pretty)
    (enabled : ∀ call ∈ calls, sink.level.rank ≤ call.level.rank) (tagged : ∀ call ∈ calls, call.IsTagged)
    (logged : Logged sink calls later) :
    ∃ lines, List.Forall₂ (IsLine sink.format) (spaced sink.last calls) lines ∧
      sink.Appended (String.ofList (lines.flatMap (· ++ ['\n']))) later := by
  induction logged with
  | nil sink => exact ⟨[], .nil, .refl sink⟩
  | @cons sink call calls later fine _ ih =>
    obtain ⟨line, isLine, appended, last⟩ :=
      call_appends plain (enabled call List.mem_cons_self) (tagged call List.mem_cons_self) fine
    obtain ⟨lines, areLines, onward⟩ := ih (appended.format ▸ plain)
      (fun other member => appended.level ▸ enabled other (List.mem_cons_of_mem call member))
      (fun other member => tagged other (List.mem_cons_of_mem call member))
    rw [appended.format, last] at areLines
    refine ⟨line :: lines, .cons isLine areLines, ?_⟩
    have text := appended.trans onward
    rwa [← String.ofList_append] at text

/-- A log in JSON that is shown and written to a file. -/
def bothListening : Sink := ⟨.info, .json, true, some "out.log", true, .start, "", [("out.log", "")]⟩

/-- A message and a tag with line breaks, and a tag that is null. -/
def brokenCall : Call := ⟨.start, .warn, .text "one\ntwo", [("reason", .text "three\nfour"), ("gone", .null)]⟩

def plainCall : Call := ⟨.start, .info, .text "five", []⟩

theorem broken_message_is_one_line :
    bothListening.format ≠ .pretty ∧
      (∀ call ∈ [brokenCall, plainCall], bothListening.level.rank ≤ call.level.rank) ∧
      (∀ call ∈ [brokenCall, plainCall], call.IsTagged) ∧
      Logged bothListening [brokenCall, plainCall] ((bothListening.call brokenCall).1.call plainCall).1 ∧
      ∃ lines, List.Forall₂ (IsLine .json) (spaced .start [brokenCall, plainCall]) lines ∧
        bothListening.Appended (String.ofList (lines.flatMap (· ++ ['\n'])))
          ((bothListening.call brokenCall).1.call plainCall).1 := by
  have plain : bothListening.format ≠ .pretty := by decide
  have enabled : ∀ call ∈ [brokenCall, plainCall], bothListening.level.rank ≤ call.level.rank := by decide
  have broken : brokenCall.IsTagged := ⟨by decide, by decide, by simp [brokenCall, OneLine]⟩
  have other : plainCall.IsTagged := ⟨by decide, by decide, by simp [plainCall]⟩
  have tagged : ∀ call ∈ [brokenCall, plainCall], call.IsTagged :=
    List.forall_mem_cons.mpr ⟨broken, List.forall_mem_singleton.mpr other⟩
  have logged : Logged bothListening [brokenCall, plainCall] ((bothListening.call brokenCall).1.call plainCall).1 := by
    refine .cons (fine_of_encodable rfl (by decide) broken ?_) (.cons (fine_of_encodable rfl (by decide) other ?_) (.nil _))
    · simp [brokenCall, Call.record, Call.head, Call.given, normalize, Datum.jsonEntries, Datum.jsonOrText,
        all_isEncodable_obj, all_isEncodable_str, all_isEncodable_int, hasHalf_timestamp, hasHalf_label, half?_of_ascii]
    · simp [plainCall, Call.record, Call.head, Call.given, normalize, Datum.jsonEntries, Datum.jsonOrText,
        all_isEncodable_obj, all_isEncodable_str, all_isEncodable_int, hasHalf_timestamp, hasHalf_label, half?_of_ascii]
  exact ⟨plain, enabled, tagged, logged, records_are_lines plain enabled tagged logged⟩

end EditorAssist.Journal

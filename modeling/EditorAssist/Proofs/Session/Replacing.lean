import EditorAssist.Proofs.Session.Executing
import EditorAssist.Proofs.Text.Indent

/-!
# What stands in the place of a selection

The edit of a command puts the answer of its chat in the place of the selection, trimmed and moved to the indentation
of the selection. Without that indentation it is the trimmed answer again
(`edit_stands_at_the_indentation_of_its_selection`). As trimming takes the indentation of the first visible line away,
the lines keep their distances only if that line had none: `edit_moves_all_lines_but_the_first_alike`.
-/

namespace EditorAssist.Session

open EditorAssist.Action EditorAssist.Backend EditorAssist.Debounce EditorAssist.Journal
open EditorAssist.Payload EditorAssist.Settings EditorAssist.Text EditorAssist.Time EditorAssist.Wire

/-! ## The text of an edit -/

section Texts

/-- A text stands for a selection, with a result in its place: it ends its last line, it is indented like the selection,
and without that indentation it is the trimmed result. -/
structure StandsFor (selection result text : List Char) : Prop where
  padding : padding text = Text.padding selection
  ended : text.getLast? = some '\n'
  indented : ∀ line ∈ visibleLines text, List.replicate (Text.padding selection) ' ' <+: line
  back : unpad (Text.padding selection) text = trim result ++ ['\n']

/-- Any two of some numbers differ by as much as the others in their places. -/
def SameDistances (before after : List Nat) : Prop :=
  (before.zip after).Pairwise fun first later => (first.2 : Int) - later.2 = first.1 - later.1

/-- A text keeps the shape of another one: it shows the same in the same lines, and any two of them are indented as
differently. -/
structure KeepsShape (result text : List Char) : Prop where
  contents : (visibleLines text).map visiblePart = (visibleLines result).map visiblePart
  distances : SameDistances ((visibleLines result).map indentation) ((visibleLines text).map indentation)

/-- A text shows what a result shows, its first visible line at an indentation and the others further to the right by
as much as they were indented. So its shape is that of the result if the first line had no indentation or is the only
one. -/
structure Reindented (amount : Nat) (result text : List Char) : Prop where
  contents : (visibleLines text).map visiblePart = (visibleLines result).map visiblePart
  indentations : (visibleLines text).map indentation =
    amount :: ((visibleLines result).map indentation).tail.map (amount + ·)
  shape : KeepsShape result text ↔
    ∃ first more, visibleLines result = first :: more ∧ (indentation first = 0 ∨ more = [])

variable {amount : Nat} {result selection : List Char}

theorem indentedResult_eq (amount : Nat) (result : List Char) :
    indentedResult amount result = pad amount (trim result ++ ['\n']) := (pad_append_newline ..).symm

theorem standsFor_indentedResult (seen : isBlankText result = false) :
    StandsFor selection result (indentedResult (padding selection) result) where
  padding := by
    obtain ⟨-, -, c, -, rest, -, -, -, -, front, -, kept, -⟩ := trimmed_of_visible seen
    have newline : isBlankText (trim result ++ ['\n']) = false := by
      rw [front]
      simp only [isBlankText, List.cons_append, List.all_cons, kept, Bool.false_and]
    rw [indentedResult_eq, padding_pad newline, front, List.cons_append, padding_of_visible kept, Nat.add_zero]
  ended := List.getLast?_concat
  indented := by
    intro line member
    rw [indentedResult_eq, visibleLines_pad] at member
    obtain ⟨behind, -, rfl⟩ := List.mem_map.mp member
    exact List.prefix_append ..
  back := by rw [indentedResult_eq, unpad_pad]

theorem sameDistances_iff (amount first : Nat) (more : List Nat) :
    SameDistances (first :: more) (amount :: more.map (amount + ·)) ↔ first = 0 ∨ more = [] := by
  rw [SameDistances, List.zip_cons_cons, List.pairwise_cons, ← List.map_prod_left_eq_zip, List.pairwise_map]
  have others : more.Pairwise fun n m => ((amount + n : Nat) : Int) - ((amount + m : Nat) : Int) = n - m :=
    List.pairwise_iff_getElem.mpr fun _ _ _ _ _ => by omega
  rw [and_iff_left others]
  constructor
  · intro same
    cases more with
    | nil => exact .inr rfl
    | cons n more =>
      have distance := same (n, amount + n) List.mem_cons_self
      dsimp only at distance
      left
      omega
  · rintro (rfl | rfl) pair member
    · obtain ⟨n, -, rfl⟩ := List.mem_map.mp member
      dsimp only
      omega
    · cases member

theorem reindented_indentedResult (seen : isBlankText result = false) (spaces : IndentedWithSpaces result)
    (amount : Nat) : Reindented amount result (indentedResult amount result) := by
  obtain ⟨contents, indentations⟩ := visibleLines_trim spaces seen
  have newline : isBlankText ['\n'] = true := rfl
  obtain ⟨sameContents, sameIndentations⟩ := shown_trim_append seen newline
  have shows : (visibleLines (indentedResult amount result)).map visiblePart =
      (visibleLines result).map visiblePart := by
    rw [indentedResult_eq, visiblePart_visibleLines_pad, sameContents, contents]
  have stands : (visibleLines (indentedResult amount result)).map indentation =
      amount :: ((visibleLines result).map indentation).tail.map (amount + ·) := by
    rw [indentedResult_eq, indentation_visibleLines_pad, sameIndentations, indentations, List.map_cons, Nat.add_zero]
  refine ⟨shows, stands, ?_⟩
  obtain ⟨first, more, pieces⟩ :=
    List.exists_cons_of_ne_nil (mt visibleLines_eq_nil_iff.mp (by rw [seen]; exact Bool.false_ne_true))
  have distances := sameDistances_iff amount (indentation first) (more.map indentation)
  rw [List.map_eq_nil_iff] at distances
  constructor
  · rintro ⟨-, same⟩
    rw [stands, pieces, List.map_cons, List.tail_cons] at same
    exact ⟨first, more, pieces, distances.mp same⟩
  · rintro ⟨first', more', same, margin⟩
    obtain ⟨rfl, rfl⟩ := List.cons.inj (pieces.symm.trans same)
    refine ⟨shows, ?_⟩
    rw [stands, pieces, List.map_cons, List.tail_cons]
    exact distances.mpr margin

end Texts

/-! ## The edits of a command -/

/-- The edits that are given to the connection in some events. -/
def editsOf (events : List Event) : List ApplyEditParams := (events.flatMap Event.gives).filterMap Outbound.edit?

/-- Among some events the chat about a query starts, and what it comes to is a text. -/
def Answered (query : ChatQuery) (events : List Event) (text : String) : Prop :=
  ∃ s ticket pending, .turn s ⟨ticket, .chat pending⟩ ∈ events ∧ s.chatResult query = .ok (.str text)

/-- The edits of a command by its events. There is none before its time is over, and none at all if its chat comes to
nothing that can be seen. Otherwise there is one, of the document that was current and at the range of the argument; its
text stands in some relation to the result of the chat. -/
inductive Replaces (begun : Session) (job : CommandJob) (document : Document) (stands : List Char → List Char → Prop)
    (events : List Event) (t : Session) : Prop
  | none (nothing : editsOf events = [])
      (waits : t.now.nanos ≤ begun.chatDeadline ∨
        ∀ text, Answered (begun.chatQuery job document) events text → isBlankText text.toList = true)
  | one {result text : String} (answered : Answered (begun.chatQuery job document) events result)
      (seen : isBlankText result.toList = false)
      (only : editsOf events =
        [⟨job.command.key, ⟨[(begun.documents.currentUri, [⟨job.argument.range, text⟩])]⟩⟩])
      (stands : stands result.toList text.toList)

section Edits

variable {begun s t : Session} {events turns : List Event} {e : Event} {job : CommandJob} {document : Document}
  {stands others : List Char → List Char → Prop} {said : List Outbound} {query : ChatQuery} {uri current : String}
  {amount : Nat} {result : Except Fault Suggestion}

theorem filterMap_edit?_of_plain (plain : ∀ m ∈ said, m.isPlain = true) : said.filterMap Outbound.edit? = [] := by
  rw [List.filterMap_eq_nil_iff]
  intro m member
  have other := plain m member
  cases m with
  | applyEdit => cases other
  | _ => rfl

theorem isPlain_failureShown (current : String) (job : CommandJob) (text : String) :
    ∀ m ∈ failureShown current job text, m.isPlain = true := by
  intro m member
  unfold failureShown at member
  split at member
  · cases member
  · rw [List.mem_singleton.mp member]
    rfl

/-- What a command says in the end holds one edit, if its chat came to a visible text, or none. -/
theorem Concludes.edits (concludes : Concludes job uri amount current result said) :
    (∃ text, result = .ok (.str text) ∧ isBlankText text.toList = false ∧ said.filterMap Outbound.edit? =
        [⟨job.command.key, ⟨[(uri, [⟨job.argument.range, String.ofList (indentedResult amount text.toList)⟩])]⟩⟩]) ∨
      said.filterMap Outbound.edit? = [] ∧ ∀ text, result = .ok (.str text) → isBlankText text.toList = true := by
  have answer : [Outbound.response job.id .null].filterMap Outbound.edit? = [] := rfl
  have failure (text : String) := filterMap_edit?_of_plain (isPlain_failureShown current job text)
  cases concludes with
  | @edit text id before after filled plain =>
    have front := filterMap_edit?_of_plain fun m member => plain m (List.mem_append_left _ member)
    have back := filterMap_edit?_of_plain fun m member => plain m (List.mem_append_right _ member)
    refine .inl ⟨text, rfl, filled, ?_⟩
    rw [List.filterMap_append, List.filterMap_append, front, answer, List.append_nil, List.nil_append,
      List.filterMap_cons, back]
    rfl
  | @blank text before blank plain =>
    refine .inr ⟨?_, fun other same => ?_⟩
    · rw [List.filterMap_append, List.filterMap_append, filterMap_edit?_of_plain plain, failure, answer]
      rfl
    · cases same
      exact blank
  | @failed fault before plain =>
    refine .inr ⟨?_, nofun⟩
    rw [List.filterMap_append, List.filterMap_append, filterMap_edit?_of_plain plain, failure, answer]
    rfl
  | @odd content before odd plain =>
    refine .inr ⟨?_, fun text same => absurd (Except.ok.inj same) (odd text)⟩
    rw [List.filterMap_append, filterMap_edit?_of_plain plain, answer]
    rfl

theorem editsOf_append (first later : List Event) : editsOf (first ++ later) = editsOf first ++ editsOf later := by
  rw [editsOf, List.flatMap_append, List.filterMap_append]
  rfl

theorem editsOf_of_plain (plain : ∀ e ∈ events, ∀ m ∈ e.gives, m.isPlain = true) : editsOf events = [] := by
  refine filterMap_edit?_of_plain fun m member => ?_
  obtain ⟨e, own, given⟩ := List.mem_flatMap.mp member
  exact plain e own m given

/-- Chats that start elsewhere bring no answer. -/
theorem Answered.of_cons (answered : Answered query (e :: events) text) (chat : e.isChat = false) :
    Answered query events text := by
  obtain ⟨s, ticket, pending, member, same⟩ := answered
  rcases List.mem_cons.mp member with rfl | later
  · cases chat
  · exact ⟨s, ticket, pending, later, same⟩

/-- What a command edits by its turns. -/
theorem CommandTurns.replaces (course : CommandTurns begun job document turns t) :
    Replaces begun job document (fun result text => text =
      indentedResult (padding (begun.documents.textInRange document.uri job.argument.range)) result) turns t := by
  have quiet {silent : List Event} (mute : ∀ e ∈ silent, e.gives = []) : editsOf silent = [] :=
    editsOf_of_plain fun e member => mute e member ▸ List.forall_mem_nil _
  cases course with
  | begins none _ =>
    subst none
    exact .none rfl (.inr fun text ⟨_, _, _, member, _⟩ => absurd member List.not_mem_nil)
  | waits all _ _ mute soon =>
    subst all
    exact .none (quiet mute) (.inl soon)
  | @concluded s last chat silent final all starts calm mute _ idle _ concludes =>
    subst all
    obtain ⟨ticket, pending, begins⟩ := starts.turn
    have started : Event.turn s ⟨ticket, .chat pending⟩ ∈ chat :: (silent ++ [.turn last final]) :=
      begins ▸ List.mem_cons_self
    have split : editsOf (chat :: (silent ++ [.turn last final])) =
        (Event.turn last final).gives.filterMap Outbound.edit? := by
      rw [← List.cons_append, editsOf_append, quiet mute, List.nil_append, editsOf, List.flatMap_singleton]
    rcases concludes.edits with ⟨text, came, seen, edits⟩ | ⟨nothing, blank⟩
    · exact .one ⟨s, ticket, pending, started, came⟩ seen (split.trans edits) (by rw [String.toList_ofList])
    · refine .none (split.trans nothing) (.inr ?_)
      rintro text ⟨u, other, waiting, member, came⟩
      -- No other chat starts in these turns.
      have same : Event.turn u ⟨other, .chat waiting⟩ = .turn s ⟨ticket, .chat pending⟩ := by
        rcases List.mem_cons.mp member with own | later
        · exact own.trans begins
        · rcases List.mem_append.mp later with early | late
          · cases (calm _ early).chat
          · rw [← List.mem_singleton.mp late] at idle
            cases idle
      cases same
      exact blank text came

theorem Replaces.mono (replaces : Replaces begun job document stands events t)
    (weaker : ∀ result text, isBlankText result = false → stands result text → others result text) :
    Replaces begun job document others events t := by
  cases replaces with
  | none nothing waits => exact .none nothing waits
  | one answered seen only stands => exact .one answered seen only (weaker _ _ seen stands)

/-- An event in front that is plain and starts no chat. -/
theorem Replaces.behind (replaces : Replaces begun job document stands events t) (chat : e.isChat = false)
    (plain : ∀ m ∈ e.gives, m.isPlain = true) : Replaces begun job document stands (e :: events) t := by
  have same : editsOf (e :: events) = editsOf events := by
    rw [← List.singleton_append, editsOf_append, editsOf_of_plain (List.forall_mem_singleton.mpr plain),
      List.nil_append]
  cases replaces with
  | none nothing waits =>
    exact .none (same.trans nothing) (waits.imp_right fun blank text answered => blank text (answered.of_cons chat))
  | one answered seen only stands =>
    obtain ⟨s, ticket, pending, member, came⟩ := answered
    exact .one ⟨s, ticket, pending, List.mem_cons_of_mem _ member, came⟩ seen (same.trans only) stands

/-- The edits of a command that is taken up in a run. -/
theorem Run.replaces {settings : Settings} {registry : Registry} {sink : Sink} {before after : List Event}
    {ticket number : Nat} {message : Message} {params : ExecuteCommandParams} {command : ActionCommand}
    {value : Json.Value} {more : List Json.Value} {argument : CommandArgument}
    (read : ExecuteCommandParams.codec.read (givenParams message) = .ok params)
    (known : Action.find? params.command = some command) (given : params.arguments = value :: more)
    (valid : CommandArgument.codec.read value = .ok argument) (current : s.documents.current? = some document)
    (run : Run (Session.start settings registry sink)
      (before ++ .turn s ⟨ticket, .handle number .command message⟩ :: after) t) :
    Replaces s ⟨number, message.id, command, argument⟩ document (fun result text => text =
        indentedResult (padding (s.documents.textInRange document.uri argument.range)) result)
      ((before ++ .turn s ⟨ticket, .handle number .command message⟩ :: after).filter (·.isBy number)) t := by
  have begins := Balanced.start settings registry sink
  obtain ⟨rest, ready, early, late⟩ := run.split
  have balanced := early.balanced begins
  obtain ⟨pending, own, plain, expects⟩ := command_turn balanced.sound ready read known given valid current
  have course :=
    late.commandTurns ((Step.turn ready).balanced balanced) (turn_steady balanced.sound ready).1 own expects
  rw [filter_isBy_append (early.early begins ready) (beq_self_eq_true _)]
  exact course.replaces.behind rfl plain

end Edits

/-- The edit of a command lands at the indentation of its selection. In any run of a session, the text that a command
puts in the place of its selection is indented like the selection as it was when the command was taken up, and without
that indentation it is the trimmed text that the chat came to. -/
theorem edit_stands_at_the_indentation_of_its_selection {settings : Settings} {registry : Registry} {sink : Sink}
    {before after : List Event} {s t : Session} {ticket number : Nat} {message : Message}
    {params : ExecuteCommandParams} {command : ActionCommand} {value : Json.Value} {more : List Json.Value}
    {argument : CommandArgument} {document : Document}
    (read : ExecuteCommandParams.codec.read (givenParams message) = .ok params)
    (known : Action.find? params.command = some command) (given : params.arguments = value :: more)
    (valid : CommandArgument.codec.read value = .ok argument) (current : s.documents.current? = some document)
    (run : Run (Session.start settings registry sink)
      (before ++ .turn s ⟨ticket, .handle number .command message⟩ :: after) t) :
    Replaces s ⟨number, message.id, command, argument⟩ document
      (StandsFor (s.documents.textInRange document.uri argument.range))
      ((before ++ .turn s ⟨ticket, .handle number .command message⟩ :: after).filter (·.isBy number)) t := by
  refine (run.replaces read known given valid current).mono fun result text seen same => ?_
  rw [same]
  exact standsFor_indentedResult seen

/-- What a command makes of a text that is indented with spaces. In any run of a session, the text that it puts in the
place of its selection shows the same lines. All but the first are moved to the right alike; the first one stands at the
indentation of the selection, so it keeps its distance from the others if it was not indented, and only then. -/
theorem edit_moves_all_lines_but_the_first_alike {settings : Settings} {registry : Registry} {sink : Sink}
    {before after : List Event} {s t : Session} {ticket number : Nat} {message : Message}
    {params : ExecuteCommandParams} {command : ActionCommand} {value : Json.Value} {more : List Json.Value}
    {argument : CommandArgument} {document : Document}
    (read : ExecuteCommandParams.codec.read (givenParams message) = .ok params)
    (known : Action.find? params.command = some command) (given : params.arguments = value :: more)
    (valid : CommandArgument.codec.read value = .ok argument) (current : s.documents.current? = some document)
    (run : Run (Session.start settings registry sink)
      (before ++ .turn s ⟨ticket, .handle number .command message⟩ :: after) t) :
    Replaces s ⟨number, message.id, command, argument⟩ document
      (fun result text => IndentedWithSpaces result →
        Reindented (padding (s.documents.textInRange document.uri argument.range)) result text)
      ((before ++ .turn s ⟨ticket, .handle number .command message⟩ :: after).filter (·.isBy number)) t := by
  refine (run.replaces read known given valid current).mono fun result text seen same spaces => ?_
  rw [same]
  exact reindented_indentedResult seen spaces _

/-! ## A command on an indented line -/

/-- A document with an indented line is opened. -/
def blockMessage : Message :=
  ⟨"2.0", none, some "textDocument/didOpen", .obj [("textDocument", .obj [("uri", .str "file:///a.c"),
    ("languageId", .str "c"), ("version", .int 1), ("text", .str "if (x) \x7b\n    y = 1;\n\x7d")])], .null, none⟩

def blockDocument : Document := ⟨"file:///a.c", "if (x) \x7b\n    y = 1;\n\x7d", 1, "c"⟩

/-- The indented line is to be improved. -/
def improvingLineMessage : Message :=
  ⟨"2.0", some (.number 3), some "workspace/executeCommand",
    .obj [("command", .str "improveCode"), ("arguments", .arr [.obj [("range", .obj [
      ("start", .obj [("line", .int 1), ("character", .int 0)]),
      ("end", .obj [("line", .int 1), ("character", .int 10)])])]])], .null, none⟩

/-- The command that it brings. -/
def lineImprovement : CommandJob :=
  ⟨1, some (.number 3), ⟨"improveCode", "Improve code", "Improve this code."⟩, ⟨⟨⟨1, 0⟩, ⟨1, 10⟩⟩, "", []⟩⟩

/-- The session as it takes the command up. -/
def blockSession (outcome : Except Fault Response) : Session :=
  (((answeringSession outcome).handle blockMessage).turned ⟨0, .handle 0 .opening blockMessage⟩).handle
    improvingLineMessage

/-- The session when all of that is done. -/
def improvedBlock (outcome : Except Fault Response) : Session :=
  (perform ⟨1, .handle 1 .command improvingLineMessage⟩ ((blockSession outcome).taken [])).settle

theorem run_improvedBlock (outcome : Except Fault Response) : ∃ before after,
    Run (answeringSession outcome)
      (before ++ .turn (blockSession outcome) ⟨1, .handle 1 .command improvingLineMessage⟩ :: after)
      (improvedBlock outcome) := by
  have early : Run (answeringSession outcome) ([.received blockMessage] ++
      ([.turn _ ⟨0, .handle 0 .opening blockMessage⟩] ++ ([.received improvingLineMessage] ++ [])))
      (blockSession outcome) :=
    .cons (.receive _ _) (.cons (.turn rfl) (.cons (.receive _ _) (.nil _)))
  have taken : Run (blockSession outcome) [.turn _ ⟨1, .handle 1 .command improvingLineMessage⟩] _ :=
    .single (.turn rfl)
  obtain ⟨after, settles, -⟩ :=
    settle_works (perform ⟨1, .handle 1 .command improvingLineMessage⟩ ((blockSession outcome).taken []))
  exact ⟨_, after, early.append (taken.append settles)⟩

theorem selection_blockSession (outcome : Except Fault Response) :
    (blockSession outcome).documents.textInRange "file:///a.c" ⟨⟨1, 0⟩, ⟨1, 10⟩⟩ = "    y = 1;".toList := by
  simp only [String.reduceToList]
  rfl

/-- An answer with blank lines around it and within it, which starts at the margin. -/
def blockAnswer : String := "\ny = 2;\n\n  z = 3;\n"

theorem edits_improvedBlock : (improvedBlock (textAnswer blockAnswer)).sent.filterMap Outbound.edit? =
    [⟨"improveCode", ⟨[("file:///a.c", [⟨⟨⟨1, 0⟩, ⟨1, 10⟩⟩, "    y = 2;\n\n      z = 3;\n"⟩])]⟩⟩] := by
  decide +kernel

/-- It stands at the indentation of the line. -/
theorem answer_stands_at_the_indentation_of_its_line :
    ∃ events t, Run (answeringSession (textAnswer blockAnswer)) events t ∧
      Replaces (blockSession (textAnswer blockAnswer)) lineImprovement blockDocument (StandsFor "    y = 1;".toList)
        (events.filter (·.isBy 1)) t ∧
      t.sent.filterMap Outbound.edit? =
        [⟨"improveCode", ⟨[("file:///a.c", [⟨⟨⟨1, 0⟩, ⟨1, 10⟩⟩, "    y = 2;\n\n      z = 3;\n"⟩])]⟩⟩] := by
  obtain ⟨before, after, run⟩ := run_improvedBlock (textAnswer blockAnswer)
  have current : (blockSession (textAnswer blockAnswer)).documents.current? = some blockDocument := rfl
  have stands := edit_stands_at_the_indentation_of_its_selection rfl rfl rfl rfl current run
  exact ⟨_, _, run, selection_blockSession _ ▸ stands, edits_improvedBlock⟩

/-- It keeps its shape. -/
theorem answer_at_the_margin_keeps_its_shape :
    ∃ events t, Run (answeringSession (textAnswer blockAnswer)) events t ∧
      Replaces (blockSession (textAnswer blockAnswer)) lineImprovement blockDocument
        (fun result text => IndentedWithSpaces result → Reindented (padding "    y = 1;".toList) result text)
        (events.filter (·.isBy 1)) t ∧
      IndentedWithSpaces blockAnswer.toList ∧
      (∃ first more, visibleLines blockAnswer.toList = first :: more ∧ (indentation first = 0 ∨ more = [])) ∧
      t.sent.filterMap Outbound.edit? =
        [⟨"improveCode", ⟨[("file:///a.c", [⟨⟨⟨1, 0⟩, ⟨1, 10⟩⟩, "    y = 2;\n\n      z = 3;\n"⟩])]⟩⟩] := by
  obtain ⟨before, after, run⟩ := run_improvedBlock (textAnswer blockAnswer)
  have current : (blockSession (textAnswer blockAnswer)).documents.current? = some blockDocument := rfl
  have moves := edit_moves_all_lines_but_the_first_alike rfl rfl rfl rfl current run
  have spaces : IndentedWithSpaces blockAnswer.toList := by decide +kernel
  have margin : visibleLines blockAnswer.toList = ["y = 2;".toList, "  z = 3;".toList] := by
    unfold blockAnswer
    simp only [String.reduceToList]
    rfl
  have unindented : indentation "y = 2;".toList = 0 := by
    simp only [String.reduceToList]
    rfl
  exact ⟨_, _, run, selection_blockSession _ ▸ moves, spaces, ⟨_, _, margin, .inl unindented⟩, edits_improvedBlock⟩

/-- An answer whose lines are indented alike loses its shape: only the first line moves to the margin. -/
theorem first_line_loses_its_distance :
    ¬∀ text events t, isBlankText text.toList = false → IndentedWithSpaces text.toList →
      Run (answeringSession (textAnswer text)) events t →
      received events = [openingMessage, improvingMessage] → t.inFlight = 0 →
      ∀ edit ∈ t.sent.filterMap Outbound.edit?, ∀ file ∈ edit.edit.changes, ∀ change ∈ file.2,
        KeepsShape text.toList change.newText.toList := by
  intro always
  obtain ⟨after, run, arrived⟩ := run_improvedSession (textAnswer "  y = 2;\n  z = 3;\n")
  have ends : (improvedSession (textAnswer "  y = 2;\n  z = 3;\n")).sent.filterMap Outbound.edit? =
      [⟨"improveCode", ⟨[("file:///a.c", [⟨⟨⟨0, 0⟩, ⟨0, 5⟩⟩, "y = 2;\n  z = 3;\n"⟩])]⟩⟩] ∧
      (improvedSession (textAnswer "  y = 2;\n  z = 3;\n")).inFlight = 0 := by decide +kernel
  have spaces : IndentedWithSpaces "  y = 2;\n  z = 3;\n".toList := by decide +kernel
  have seen : isBlankText "  y = 2;\n  z = 3;\n".toList = false := by decide +kernel
  have kept := always _ _ _ seen spaces run arrived ends.2
  rw [ends.1] at kept
  have shape := kept _ (List.mem_singleton_self _) _ (List.mem_singleton_self _) _ (List.mem_singleton_self _)
  have same := shape.distances
  unfold SameDistances at same
  simp only [String.reduceToList] at same
  revert same
  decide

end EditorAssist.Session

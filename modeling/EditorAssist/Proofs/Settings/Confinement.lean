import EditorAssist.Proofs.Settings.Parts
import EditorAssist.Proofs.Settings.References
import EditorAssist.Proofs.Settings.Tolerance

/-!
# What a variable can change

References are replaced before a text is read, so a variable may stand for anything: quotes in it end the string that
it is filled into, and what follows them is read as settings of its own. As long as the string stays one, a variable
changes the setting in which it stands and no other.
-/

namespace EditorAssist.Settings

open EditorAssist.Files EditorAssist.Json EditorAssist.Text
open EditorAssist.Json.Parser (Content)
open Environment (around reference)

namespace Commented

/-! ## Members in a row -/

def Members.append : Members → Members → Members
  | .nil, later => later
  | .cons key item rest, later => .cons key item (rest.append later)

/-- The tokens of members and of one more up to its value. -/
def Members.upTo (later : Bool) : Members → List Char → List Token
  | .nil, name => commaIf later ++ [.text name, .colon]
  | .cons key item rest, name => commaIf later ++ (.text key :: .colon :: (item.tokens ++ rest.upTo true name))

section Rows

variable (name : List Char) (item : Node) (after : Members)

theorem Members.tokens_append (first : Members) (later : Bool) :
    (first.append (.cons name item after)).tokens later =
      first.upTo later name ++ (item.tokens ++ after.tokens true) := by
  match first with
  | .nil => simp [append, upTo, tokens]
  | .cons key own rest => simp [append, upTo, tokens, tokens_append rest true]

theorem Members.depth_append (first : Members) :
    (first.append (.cons name item after)).depth = max first.depth (max item.depth after.depth) := by
  match first with
  | .nil => simp [append, depth]
  | .cons key own rest =>
    rw [append, depth, depth_append rest, depth, Nat.max_assoc]

theorem Members.pairs?_append (first : Members) :
    (first.append (.cons name item after)).pairs? =
      first.pairs?.bind fun front => (key? name).bind fun key => item.value?.bind fun v =>
        after.pairs?.map fun behind => front ++ (key, v) :: behind := by
  match first with
  | .nil => simp [append, pairs?]
  | .cons key own rest =>
    simp only [append, pairs?, pairs?_append rest]
    cases key? key with
    | none => rfl
    | some k =>
      cases own.value? with
      | none => rfl
      | some w =>
        cases rest.pairs? with
        | none => rfl
        | some front =>
          simp [Option.map_bind, Function.comp_def]

end Rows

/-! ## Strings in the text of an object -/

/-- A string with its quotes. -/
def quoted (body : List Char) : List Char := '"' :: (body ++ ['"'])

/-- An object in which the value of a key is a string. -/
def objectWith (first : Members) (name body : List Char) (later : Members) (comma : Bool) : Node :=
  .object (first.append (.cons name (.text (quoted body)) later)) comma

/-- The text of an object in which the value of a key is a string: what stands before its quotes, between them and
behind them. -/
inductive IsSetting (left body right : List Char) (key : String) : Prop
  | intro (first later : Members) (name : List Char) (comma : Bool) (entries : Entries)
      (leads : Leads (left ++ '"' :: (body ++ '"' :: right)) (.openObject :: first.upTo false name)
        ('"' :: (body ++ '"' :: right)))
      (spells : Spells (left ++ '"' :: (body ++ '"' :: right)) (objectWith first name body later comma))
      (named : key? name = some key) (content : Content body)
      (parsed : Json.parse (objectWith first name body later comma).plain = .ok (.obj entries))

theorem IsSetting.content {left body right : List Char} {key : String} (setting : IsSetting left body right key) :
    Content body := by
  obtain ⟨-, -, -, -, -, -, -, -, content, -⟩ := setting
  exact content

section Filling

variable {left body right name : List Char} {first later : Members} {comma : Bool}

/-- A string is read as a token. -/
theorem leads_quoted (content : Content body) {rest place : List Char} {tokens : List Token}
    (later : Leads rest tokens place) :
    Leads ('"' :: (body ++ '"' :: rest)) (.text (quoted body) :: tokens) place := by
  have found : piece? ('"' :: (body ++ '"' :: rest)) =
      some (.token .text (quoted body), (body ++ ['"']).length + 1) := by
    show (stringTail (body ++ '"' :: rest)).map _ = _
    rw [stringTail_content content]
    rfl
  have behind : (body ++ '"' :: rest).drop ((body ++ ['"']).length + 1 - 1) = rest := by simp
  exact .token found (behind.symm ▸ later)

theorem lex_quoted (content : Content body) (rest : List Char) :
    lex ('"' :: (body ++ '"' :: rest)) = (.text (quoted body) :: (lex rest).1, (lex rest).2) :=
  (leads_quoted content (.here rest)).lex_eq

theorem objectWith_tokens (first : Members) (name body : List Char) (later : Members) (comma : Bool) :
    (objectWith first name body later comma).tokens =
      .openObject :: first.upTo false name ++
        (.text (quoted body) :: (later.tokens true ++ (commaIf comma ++ [.closeObject]))) := by
  simp [objectWith, Node.tokens, Members.tokens_append]

/-- How deep the object nests does not depend on the string. -/
theorem objectWith_depth (first : Members) (name body body' : List Char) (later : Members) (comma : Bool) :
    (objectWith first name body' later comma).depth = (objectWith first name body later comma).depth := by
  rw [objectWith, objectWith, Node.depth, Node.depth, Members.depth_append, Members.depth_append]
  rfl

theorem objectWith_value? (first : Members) (name body : List Char) (later : Members) (comma : Bool) :
    (objectWith first name body later comma).value? =
      first.pairs?.bind fun front => (key? name).bind fun key => (Json.parse (quoted body)).toOption.bind fun v =>
        later.pairs?.map fun behind => .obj (Entries.ofPairs (front ++ (key, v) :: behind)) := by
  simp only [objectWith, Node.value?, Members.pairs?_append, Option.map_bind, Function.comp_def, Option.map_map]

/-- Other contents in a string leave all other tokens as they are. -/
theorem spells_fill
    (leads : Leads (left ++ '"' :: (body ++ '"' :: right)) (.openObject :: first.upTo false name)
      ('"' :: (body ++ '"' :: right)))
    (spells : Spells (left ++ '"' :: (body ++ '"' :: right)) (objectWith first name body later comma))
    (content : Content body) {body' : List Char} (content' : Content body') :
    Spells (left ++ '"' :: (body' ++ '"' :: right)) (objectWith first name body' later comma) := by
  have here := leads.lex_eq
  have there := (leads.change (body' ++ '"' :: right)).lex_eq
  rw [lex_quoted content] at here
  rw [lex_quoted content'] at there
  rw [Spells, objectWith_tokens] at spells ⊢
  rw [here, Prod.mk.injEq] at spells
  obtain ⟨same, whole⟩ := spells
  rw [there, whole, (List.cons.inj (List.append_cancel_left same)).2]

/-- What a string stands for. -/
theorem exists_parse_quoted (content : Content body) : ∃ text, Json.parse (quoted body) = .ok (.str text) := by
  rcases string_cases (stringTail_content content []) with ⟨text, parsed, -⟩ | ⟨-, refused⟩
  · exact ⟨_, parsed⟩
  · obtain ⟨text, reads⟩ := content.reads
    obtain ⟨refusal, here⟩ := refused 0 0 []
    rw [List.append_assoc] at here
    cases here.symm.trans (reads 0 0 [])

/-- Whatever stands in the string of a setting, the text nests too deep or is read as an object that has the same other
pairs. -/
theorem IsSetting.reads {key : String} (setting : IsSetting left body right key) :
    (∀ body', Content body' → TooDeep (left ++ '"' :: (body' ++ '"' :: right))) ∨
    ∃ before after, ∀ body', Content body' → ∃ text, read (left ++ '"' :: (body' ++ '"' :: right)) =
      .value (.obj (Entries.ofPairs (before ++ (key, .str text) :: after))) := by
  obtain ⟨first, later, name, comma, entries, leads, spells, named, content, parsed⟩ := setting
  have fill {body' : List Char} (content' : Content body') := spells_fill leads spells content content'
  by_cases deep : maxNesting < (objectWith first name body later comma).depth
  · exact .inl fun body' content' =>
      ⟨_, fill content', (objectWith_depth first name body body' later comma).symm ▸ deep⟩
  · have value {body' : List Char} (content' : Content body') :
        (Json.parse (objectWith first name body' later comma).plain).toOption =
          (objectWith first name body' later comma).value? := by
      refine parse_plain (fill content').written ?_
      rw [objectWith_depth first name body]
      exact (Nat.le_of_not_lt deep).trans (by decide)
    -- what the text is read as with the string that is there settles the values of the other members
    have there := value content
    rw [parsed, objectWith_value?] at there
    simp only [named, Option.bind_some] at there
    obtain ⟨before, front, there⟩ := Option.bind_eq_some_iff.mp there.symm
    obtain ⟨v, -, there⟩ := Option.bind_eq_some_iff.mp there
    obtain ⟨after, behind, -⟩ := Option.map_eq_some_iff.mp there
    refine .inr ⟨before, after, fun body' content' => ?_⟩
    obtain ⟨text, string⟩ := exists_parse_quoted content'
    refine ⟨text, ?_⟩
    have here := value content'
    rw [objectWith_value?, named, front, string, behind] at here
    rw [read_of_spells (fill content'), if_neg (objectWith_depth first name body body' later comma ▸ deep)]
    cases parsed : Json.parse (objectWith first name body' later comma).plain with
    | error refusal =>
      rw [parsed] at here
      cases here
    | ok v =>
      rw [parsed] at here
      exact congrArg Reading.value (Option.some.inj here)

end Filling

end Commented

open Commented (IsSetting Leads Spells TooDeep quoted)

/-! ## Two environments -/

/-- The pieces of a text are those of a string in it, between whose quotes all that is filled in stands. -/
def StandWithin (pieces : List (List Char)) (left : List Char) (inner : List (List Char)) (right : List Char) : Prop :=
  ∀ filling, joinWith filling pieces = left ++ '"' :: (joinWith filling inner ++ '"' :: right)

/-- A variable that is referred to in the string of one setting changes no other. The text is that of an object once the
references to other variables are replaced, and what the variable stands for leaves the string one, as everything does
that may stand in a string. The object has the same keys then, in the same order, and the same values under all of them
but one, unless it nests deeper than is read. -/
theorem variable_stays_in_its_setting (tree : Tree) (path path' : Path) (environ environ' : Environment)
    (name key : String) (text left right : List Char) (inner : List (List Char))
    (read : tree.readText path = .ok text) (read' : tree.readText path' = .ok text)
    (others : ∀ other, other ≠ name → environ'.get? other = environ.get? other)
    (within : StandWithin (environ.around name text) left inner right)
    (setting : IsSetting left (joinWith (reference name) inner) right key) :
    (∀ filling, Content filling → Content (joinWith filling inner)) ∧
      (Content (joinWith (environ.value name) inner) → Content (joinWith (environ'.value name) inner) →
        (∃ entries entries', fileEntries tree environ path = .ok entries ∧
          fileEntries tree environ' path' = .ok entries' ∧ Entries.Alike key entries entries') ∨
        TooDeep (environ.expand text) ∧ TooDeep (environ'.expand text) ∧
          fileEntries tree environ path = .error Fault.nesting ∧
          fileEntries tree environ' path' = .error Fault.nesting) := by
  refine ⟨fun filling => Environment.content_fill setting.content, fun string string' => ?_⟩
  have expanded : environ.expand text = left ++ '"' :: (joinWith (environ.value name) inner ++ '"' :: right) :=
    (Environment.expand_eq_joinWith name environ text).trans (within _)
  have expanded' : environ'.expand text = left ++ '"' :: (joinWith (environ'.value name) inner ++ '"' :: right) := by
    rw [Environment.expand_eq_joinWith name, Environment.around_congr others]
    exact within _
  rcases setting.reads with deep | ⟨before, after, reads⟩
  · have tooDeep := expanded ▸ deep _ string
    have tooDeep' := expanded' ▸ deep _ string'
    exact .inr ⟨tooDeep, tooDeep', fileEntries_of_tooDeep read tooDeep, fileEntries_of_tooDeep read' tooDeep'⟩
  · obtain ⟨value, found⟩ := reads _ string
    obtain ⟨value', found'⟩ := reads _ string'
    refine .inl ⟨_, _, ?_, ?_, Entries.Alike.ofPairs before after (.str value) (.str value')⟩
    · rw [fileEntries_of_text read, expanded, found]
    · rw [fileEntries_of_text read', expanded', found']

/-! Files that name a handler and, behind it, a key that is a variable. -/

def beforeKey (handler : List Char) : List Char :=
  '\x7b' :: '"' :: ("handler".toList ++ '"' :: ':' :: '"' :: (handler ++ '"' :: ',' :: '"' ::
    ("anthropicKey".toList ++ '"' :: [':'])))

def keyText (handler key : List Char) : List Char := beforeKey handler ++ '"' :: (key ++ '"' :: ['\x7d'])

def keyPlace : Path := ⟨[], ["c.json".toList]⟩

def keyTree (handler key : List Char) : Tree := [⟨keyPlace, Utf8.encode (String.ofList (keyText handler key))⟩]

def handlerMember (handler : List Char) : Commented.Members :=
  .cons (quoted "handler".toList) (.text (quoted handler)) .nil

section Keys

variable {handler key : List Char}

theorem leads_beforeKey (content : Content handler) (rest : List Char) :
    Leads (beforeKey handler ++ rest)
      (.openObject :: (handlerMember handler).upTo false (quoted "anthropicKey".toList)) rest := by
  have name : Content "handler".toList := Content.of_plain (by decide +kernel)
  have name' : Content "anthropicKey".toList := Content.of_plain (by decide +kernel)
  have brace (text : List Char) : Commented.piece? ('\x7b' :: text) = some (.token .openObject ['\x7b'], 1) := rfl
  have colon (text : List Char) : Commented.piece? (':' :: text) = some (.token .colon [':'], 1) := rfl
  have comma (text : List Char) : Commented.piece? (',' :: text) = some (.token .comma [','], 1) := rfl
  have value := Commented.leads_quoted name' (.token (colon _) (.here rest))
  have member := Commented.leads_quoted content (.token (comma _) value)
  have first := Commented.leads_quoted name (.token (colon _) member)
  have split : beforeKey handler ++ rest = '\x7b' :: '"' :: ("handler".toList ++ '"' :: ':' :: '"' :: (handler ++
      '"' :: ',' :: '"' :: ("anthropicKey".toList ++ '"' :: ':' :: rest))) := by
    simp [beforeKey]
  rw [split]
  exact .token (brace _) first

theorem isSetting_keyText (content : Content handler) (content' : Content key) :
    IsSetting (beforeKey handler) key ['\x7d'] "anthropicKey" := by
  have leads := leads_beforeKey content ('"' :: (key ++ '"' :: ['\x7d']))
  have spells : Spells (keyText handler key)
      (Commented.objectWith (handlerMember handler) (quoted "anthropicKey".toList) key .nil false) := by
    have closing : Commented.lex ['\x7d'] = ([.closeObject], true) := by decide +kernel
    rw [Spells, keyText, leads.lex_eq, Commented.lex_quoted content', closing, Commented.objectWith_tokens]
    rfl
  have name : Commented.key? (quoted "handler".toList) = some "handler" := by decide +kernel
  have name' : Commented.key? (quoted "anthropicKey".toList) = some "anthropicKey" := by decide +kernel
  obtain ⟨value, parsed⟩ := Commented.exists_parse_quoted content
  obtain ⟨value', parsed'⟩ := Commented.exists_parse_quoted content'
  have whole := Commented.parse_plain spells.written (show 2 ≤ Json.maxNesting by decide)
  have front : (handlerMember handler).pairs? = some [("handler", .str value)] := by
    rw [handlerMember, Commented.Members.pairs?, Commented.Node.value?, name, parsed]
    rfl
  rw [Commented.objectWith_value?, front, name', parsed'] at whole
  cases read : Json.parse (Commented.objectWith (handlerMember handler) (quoted "anthropicKey".toList) key .nil
      false).plain with
  | error refusal =>
    rw [read] at whole
    cases whole
  | ok v =>
    rw [read] at whole
    cases whole
    exact .intro _ _ _ _ _ leads spells name' content' read

theorem readText_keyTree (handler key : List Char)
    (lines : normalizeNewlines (keyText handler key) = keyText handler key) :
    (keyTree handler key).readText keyPlace = .ok (keyText handler key) := by
  have read : (keyTree handler key).readText keyPlace = .ok (String.ofList (keyText handler key)).toList :=
    readText_of_encoded (by rfl) (by rfl) (by rw [String.toList_ofList, lines])
  rw [read, String.toList_ofList]

end Keys

/-- Environments that have nothing but a key. -/
theorem others_of_key (first second : String) :
    ∀ other, other ≠ "KEY" → Environment.get? other [("KEY", second)] = Environment.get? other [("KEY", first)] := by
  intro other different
  simp [Environment.get?, Ne.symm different]

theorem standWithin_keyText (environ : Environment) (handler : List Char)
    (pieces : around "KEY" environ (keyText handler (reference "KEY")) = [beforeKey handler ++ ['"'], ['"', '\x7d']]) :
    StandWithin (around "KEY" environ (keyText handler (reference "KEY"))) (beforeKey handler) [[], []] ['\x7d'] := by
  intro filling
  rw [pieces]
  simp only [joinWith, List.append_assoc, List.cons_append, List.nil_append, List.append_nil]

/-- Two keys without quotes are read into their own setting. -/
theorem keys_leave_the_handler :
    ∃ entries entries',
      fileEntries (keyTree "openai".toList (reference "KEY")) [("KEY", "k-1")] keyPlace = .ok entries ∧
      fileEntries (keyTree "openai".toList (reference "KEY")) [("KEY", "k-2")] keyPlace = .ok entries' ∧
      Entries.Alike "anthropicKey" entries entries' := by
  have read := readText_keyTree "openai".toList (reference "KEY") (by decide +kernel)
  have within := standWithin_keyText [("KEY", "k-1")] "openai".toList (by decide +kernel)
  have handler : Content "openai".toList := Content.of_plain (by decide +kernel)
  have filled : Content (reference "KEY") := Content.of_plain (by decide +kernel)
  have setting := isSetting_keyText handler filled
  obtain ⟨string, stays⟩ := variable_stays_in_its_setting _ keyPlace keyPlace [("KEY", "k-1")] [("KEY", "k-2")] "KEY"
    "anthropicKey" _ _ _ [[], []] read read (others_of_key "k-1" "k-2") within setting
  have plain : Content "k-1".toList := Content.of_plain (by decide +kernel)
  have plain' : Content "k-2".toList := Content.of_plain (by decide +kernel)
  rcases stays (string _ plain) (string _ plain') with alike | ⟨-, -, tooDeep, -⟩
  · exact alike
  · have shallow : (fileEntries (keyTree "openai".toList (reference "KEY")) [("KEY", "k-1")] keyPlace).toOption.isSome =
        true := by
      decide +kernel
    rw [tooDeep] at shallow
    cases shallow

/-- The handler that a file selects, if it is read and selects one. -/
def handlerRead (tree : Tree) (environ : Environment) : Option (Option String) :=
  (fileEntries tree environ keyPlace).toOption.map fun entries => (Entries.get? "handler" entries).bind Value.str?

theorem not_alike_of_handlerRead {tree : Tree} {environ environ' : Environment} {handler handler' : Option String}
    (read : handlerRead tree environ = some handler) (read' : handlerRead tree environ' = some handler')
    (differ : handler' ≠ handler) :
    ∃ entries entries', fileEntries tree environ keyPlace = .ok entries ∧
      fileEntries tree environ' keyPlace = .ok entries' ∧ ¬Entries.Alike "anthropicKey" entries entries' := by
  unfold handlerRead at read read'
  cases found : fileEntries tree environ keyPlace with
  | error fault =>
    rw [found] at read
    cases read
  | ok entries =>
    cases found' : fileEntries tree environ' keyPlace with
    | error fault =>
      rw [found'] at read'
      cases read'
    | ok entries' =>
      rw [found] at read
      rw [found'] at read'
      cases read
      cases read'
      exact ⟨entries, entries', rfl, rfl, fun alike =>
        differ (congrArg (·.bind Value.str?) (alike.others "handler" (by decide)))⟩

/-- A key with quotes in it selects another handler. So does any key behind a reference that begins in one string and
ends in the next. -/
theorem values_reach_other_settings :
    (¬∀ (tree : Tree) (path : Path) (environ environ' : Environment) (name key : String) (text left right : List Char)
        (inner : List (List Char)) (entries entries' : Entries), tree.readText path = .ok text →
        (∀ other, other ≠ name → environ'.get? other = environ.get? other) →
        text = left ++ '"' :: (joinWith (reference name) inner ++ '"' :: right) →
        occurs (reference name) left = false → occurs (reference name) right = false →
        IsSetting left (joinWith (reference name) inner) right key →
        StandWithin (environ.around name text) left inner right →
        fileEntries tree environ path = .ok entries → fileEntries tree environ' path = .ok entries' →
        Entries.Alike key entries entries') ∧
    ¬∀ (tree : Tree) (path : Path) (environ environ' : Environment) (name key : String) (text left right : List Char)
        (inner : List (List Char)) (entries entries' : Entries), tree.readText path = .ok text →
        (∀ other, other ≠ name → environ'.get? other = environ.get? other) →
        text = left ++ '"' :: (joinWith (reference name) inner ++ '"' :: right) →
        occurs (reference name) left = false → occurs (reference name) right = false →
        IsSetting left (joinWith (reference name) inner) right key →
        Content (environ.value name) → Content (environ'.value name) →
        fileEntries tree environ path = .ok entries → fileEntries tree environ' path = .ok entries' →
        Entries.Alike key entries entries' := by
  have behind : occurs (reference "KEY") ['\x7d'] = false := by decide +kernel
  constructor
  · intro confined
    have text := readText_keyTree "openai".toList (reference "KEY") (by decide +kernel)
    have before : occurs (reference "KEY") (beforeKey "openai".toList) = false := by decide +kernel
    have handler : Content "openai".toList := Content.of_plain (by decide +kernel)
    have filled : Content (reference "KEY") := Content.of_plain (by decide +kernel)
    have setting := isSetting_keyText handler filled
    have within := standWithin_keyText [("KEY", "k-1")] "openai".toList (by decide +kernel)
    have own : handlerRead (keyTree "openai".toList (reference "KEY")) [("KEY", "k-1")] = some (some "openai") := by
      decide +kernel
    have other : handlerRead (keyTree "openai".toList (reference "KEY"))
        [("KEY", "k\",\"handler\":\"anthropic")] = some (some "anthropic") := by decide +kernel
    obtain ⟨entries, entries', read, read', differ⟩ := not_alike_of_handlerRead own other (by decide)
    exact differ (confined _ _ _ _ "KEY" "anthropicKey" _ _ _ [[], []] entries entries' text (others_of_key _ _) rfl
      before behind setting within read read')
  · intro confined
    have text := readText_keyTree "\x7benv:OPEN".toList ('\x7d' :: reference "KEY") (by decide +kernel)
    have before : occurs (reference "KEY") (beforeKey "\x7benv:OPEN".toList) = false := by decide +kernel
    have handler : Content "\x7benv:OPEN".toList := Content.of_plain (by decide +kernel)
    have filled : Content ('\x7d' :: reference "KEY") := Content.of_plain (by decide +kernel)
    have setting := isSetting_keyText handler filled
    have own : handlerRead (keyTree "\x7benv:OPEN".toList ('\x7d' :: reference "KEY")) [("KEY", "openai")] =
        some (some "openai") := by decide +kernel
    have other : handlerRead (keyTree "\x7benv:OPEN".toList ('\x7d' :: reference "KEY")) [("KEY", "anthropic")] =
        some (some "anthropic") := by decide +kernel
    obtain ⟨entries, entries', read, read', differ⟩ := not_alike_of_handlerRead own other (by decide)
    have plain : Content "openai".toList := Content.of_plain (by decide +kernel)
    have plain' : Content "anthropic".toList := Content.of_plain (by decide +kernel)
    exact differ (confined _ _ _ _ "KEY" "anthropicKey" _ _ _ [['\x7d'], []] entries entries' text (others_of_key _ _)
      rfl before behind setting plain plain' read read')

end EditorAssist.Settings

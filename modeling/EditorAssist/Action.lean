import EditorAssist.Payload.Types

/-!
# Code actions

Every code action is a quickfix that asks for one of five commands on the selected range. The
diagnostics around the selection travel in the command's argument and end up in the instruction that
the backend receives.
-/

namespace EditorAssist.Action

open EditorAssist.Payload

/-- A command on a selection: its key on the wire, its label and the query it sends by default. -/
structure ActionCommand where
  key : String
  label : String
  query : String
  deriving Repr, DecidableEq

def commands : List ActionCommand :=
  [⟨"resolveDiagnostics", "Resolve diagnostics", "Resolve the diagnostics for this code."⟩,
   ⟨"generateDocs", "Generate documentation", "Add documentation to this code."⟩,
   ⟨"improveCode", "Improve code", "Improve this code."⟩,
   ⟨"refactorFromComment", "Refactor code from a comment",
    "Refactor this code based on the comment."⟩,
   ⟨"writeTest", "Write a unit test",
    "Write a unit test for this code. Do not include any imports."⟩]

def find? (key : String) : Option ActionCommand := commands.find? (·.key == key)

/-- The quickfix for a command on a range. -/
def quickfix (range : Range) (messages : List String) (command : ActionCommand) : CodeAction :=
  { title := command.label
    kind := some "quickfix"
    diagnostics := some []
    command := some
      { title := command.label
        command := command.key
        arguments := some [CommandArgument.codec.write ⟨range, command.query, messages⟩] } }

/-- One quickfix for each command, carrying the range and the messages of the diagnostics. -/
def codeActions (params : CodeActionParams) : List CodeAction :=
  commands.map (quickfix params.range (params.context.diagnostics.map (·.message)))

/-- The query, followed by the diagnostics as a list when there are any. -/
def instruction (query : String) (diagnostics : List String) : String :=
  if diagnostics.isEmpty then query
  else query ++ "\n\nDiagnostics: " ++ "\n- ".intercalate diagnostics

end EditorAssist.Action

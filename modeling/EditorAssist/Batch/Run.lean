import EditorAssist.Backend.Station
import EditorAssist.Batch.Case

/-!
# Running cases

Each case is one completion request to the selected backend, made when the case before is done.
-/

namespace EditorAssist.Batch

open EditorAssist.Backend EditorAssist.Journal EditorAssist.Time

/-- The outcome of a case: suggestions, or what went wrong in words for the user. -/
structure CaseResult where
  case : Case
  outcome : Except String (List Suggestion)
  durationMs : Int

namespace CaseResult

def isOk (r : CaseResult) : Bool :=
  match r.outcome with
  | .ok _ => true
  | .error _ => false

def suggestions (r : CaseResult) : List Suggestion :=
  match r.outcome with
  | .ok suggestions => suggestions
  | .error _ => []

def error? (r : CaseResult) : Option String :=
  match r.outcome with
  | .ok _ => none
  | .error text => some text

end CaseResult

/-- Runs a case. -/
def runCase (count timeoutMs : Int) (s : Station) (case : Case) : CaseResult × Station :=
  let (result, after) := s.completion
    { before := String.ofList case.before
      after := String.ofList case.after
      path := case.path
      language := case.language
      count
      timeoutMs := some timeoutMs }
  let durationMs := s.now.millisBetween after.now
  match result with
  | .ok suggestions => (⟨case, .ok suggestions, durationMs⟩, after)
  | .error fault =>
    let text := fault.describe
    (⟨case, .error text, durationMs⟩,
      after.log .error "harness.runner" "case failed" [("path", .text case.path), ("error", .text text)])

/-- Runs cases one after another. -/
def run (count timeoutMs : Int) : Station → List Case → List CaseResult × Station
  | s, [] => ([], s)
  | s, case :: rest =>
    let (result, after) := runCase count timeoutMs s case
    let (results, last) := run count timeoutMs after rest
    (result :: results, last)

/-- Notes the files that are no cases. -/
def noteSkipped (s : Station) (skipped : List (String × CaseFault)) : Station :=
  skipped.foldl (fun s (path, cause) =>
    s.log .debug "harness.parser" "skipping file"
      [("path", .text path), ("reason", .text cause.message)]) s

end EditorAssist.Batch

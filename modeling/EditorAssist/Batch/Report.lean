import EditorAssist.Batch.Run
import EditorAssist.Layout.Markup
import EditorAssist.Layout.Printout
import EditorAssist.Layout.Table

/-!
# Reports

A report has a panel for each case and a summary of all of them.
-/

namespace EditorAssist.Batch

open EditorAssist.Backend EditorAssist.Layout

/-- What a panel starts with. -/
def header (backend : String) (r : CaseResult) : String :=
  let last := match r.error? with
    | none => "Duration: " ++ toString r.durationMs ++ "ms"
    | some text => "Error: " ++ text
  "Language: " ++ r.case.language ++ "\nProvider: " ++ backend ++ "\n" ++ last

/-- The code of a case with a suggestion at the cursor. -/
def codeWith (c : Case) (suggestion : String) : List (List Char) :=
  [c.before, suggestion.toList, " ← [COMPLETION]".toList, c.after]

/-- A suggestion with its number; its further lines are indented. -/
def listed (number : Nat) (suggestion : String) : String :=
  match suggestion.splitOn "\n" with
  | [] => ""
  | first :: rest =>
    "  " ++ toString number ++ ". " ++ first ++ "\n" ++
      String.join (rest.map fun line => "     " ++ line ++ "\n")

/-- All suggestions under a heading. -/
def listing (suggestions : List String) : String :=
  let heading := if suggestions.length > 1 then
      "Suggestions (" ++ toString suggestions.length ++ "):\n"
    else "Suggestion (1):\n"
  heading ++ String.join (suggestions.mapIdx fun i suggestion => listed (i + 1) suggestion)

/-- The suggestion that is shown in its code: it has to be a text. -/
def shownText : Suggestion → Except Fault String
  | .str text => .ok text
  | _ => .error (.standard "TypeError" (some "Only str or Text can be appended to Text"))

/-- A suggestion that is listed after others: it has to be a text. -/
def listedText : Suggestion → Except Fault String
  | .str text => .ok text
  | other =>
    .error (.standard "AttributeError"
      (some ("'" ++ other.className ++ "' object has no attribute 'split'")))

/-- The texts of a panel, each of them in its parts. -/
def panelTexts (backend : String) (r : CaseResult) : Except Fault (List (List (List Char))) :=
  let heading := [(header backend r).toList]
  match r.outcome with
  | .error _ => .ok [heading]
  | .ok [] => .ok [heading, ["No suggestions returned".toList]]
  | .ok (first :: more) => do
    let text ← shownText first
    let others ← more.mapM listedText
    return [heading, [], codeWith r.case text, [], [(listing (text :: others)).toList]]

/-- The panel of a case. Its title is markup. -/
def resultPanel (width : Nat) (backend : String) (r : CaseResult) : Except Fault (List Char) := do
  let texts ← panelTexts backend r
  if width = 0 then return []
  let title ← (content ("Test: " ++ r.case.path).toList).mapError MarkupFault.fault
  let lines ← (panel width title.text (texts.map fun text => glyphsOfParts (text.map shown))).mapError
    Misfit.fault
  if title.unreadable.any (isInTitle width title.text) then throw MarkupFault.component.fault
  return unlines lines

/-- The mean duration of the cases that were completed, rounded down, if there are any. -/
def averageDuration? (results : List CaseResult) : Option Int :=
  match results.filter (·.isOk) with
  | [] => none
  | completed => some (Int.fdiv ((completed.map (·.durationMs)).foldl (· + ·) 0) completed.length)

/-- The rows of the summary. -/
def summaryRows (results : List CaseResult) : List (String × String) :=
  let completed := (results.filter (·.isOk)).length
  [("Total tests", toString results.length), ("Completed", toString completed),
    ("Errors", toString (results.length - completed))] ++
  match averageDuration? results with
  | none => []
  | some ms => [("Average duration", toString ms ++ "ms")]

/-- The summary as a table. -/
def summaryTable (width : Nat) (results : List CaseResult) : Except Fault (List Char) :=
  let rows := summaryRows results
  ((table width "Summary".toList
    [⟨.start, rows.map (·.1.toList)⟩, ⟨.stop, rows.map (·.2.toList)⟩]).mapError Misfit.fault).map unlines

/-- The report on a page of `width` cells. -/
def report (width : Nat) (backend : String) (results : List CaseResult) : Printout :=
  let panels := results.foldl
    (fun (printout : Printout) result => printout.print (resultPanel width backend result))
    Printout.empty
  panels.print (summaryTable width results)

end EditorAssist.Batch

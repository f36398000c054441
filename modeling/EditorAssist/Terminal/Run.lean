import EditorAssist.Batch.Report
import EditorAssist.Session.Run
import EditorAssist.Settings.Backends
import EditorAssist.Settings.Load
import EditorAssist.Terminal.Invocation

/-!
# Running the program

An invocation is carried out in surroundings: files, environment, standard input and the answers that
the providers are going to give. The outcome is what the program leaves behind: output, an exit code,
records and the requests that it made.
-/

namespace EditorAssist.Terminal

open EditorAssist.Backend EditorAssist.Files EditorAssist.Journal EditorAssist.Layout
open EditorAssist.Settings EditorAssist.Text EditorAssist.Wire

/-- What the program finds. -/
structure Surroundings where
  tree : Tree
  environ : Environment
  answers : ProviderKind → List Answer
  input : List UInt8

/-- What the program leaves behind. -/
structure Outcome where
  code : Nat
  output : List UInt8
  errors : String
  requests : List Request
  /-- Records written to files, by path. -/
  files : List (String × String)
  /-- A fault that nobody took care of. -/
  crash : Option Fault

/-- The width of a page. -/
def pageWidth : Nat := 80

namespace Outcome

/-- The outcome of work at a station. -/
def ofStation (code : Nat) (output : List Char) (s : Station) : Outcome where
  code
  output := Utf8.encode (String.ofList output)
  errors := s.sink.console
  requests := s.registry.requests
  files := s.sink.files
  crash := none

/-- An outcome that a fault ends. -/
def crashed (output : List Char) (s : Station) (fault : Fault) : Outcome :=
  { ofStation 1 output s with crash := some fault }

/-- The outcome of work that ends with a printout. -/
def ofPrintout (code : Nat) (printout : Printout) (s : Station) : Outcome :=
  match printout.fault with
  | none => ofStation code printout.text s
  | some fault => crashed printout.text s fault

/-- The line that tells the user what went wrong. It is markup, in which the text stands for
itself. -/
def failureLine (label text : String) : List Char :=
  let markup := "[red]".toList ++ label.toList ++ ":[/red] ".toList ++ escape text.toList
  printedUnbroken (((content markup).map (·.text)).toOption.getD [])

/-- An outcome that ends with a message for the user. -/
def failed (output : List Char) (s : Station) (label : String) (fault : Fault) : Outcome :=
  let outcome := ofStation 1 output s
  { outcome with errors := outcome.errors ++ String.ofList (failureLine label fault.text) }

/-- Arguments that are refused. -/
def refused (fault : UsageFault) : Outcome :=
  { ofStation 2 [] (.of .empty) with errors := "Error: " ++ fault.message ++ "\n" }

end Outcome

/-- Whether a character cannot stand in the name of a file: half of a surrogate pair, unless it stands
for a byte outside ASCII. -/
def isNameless (c : Char) : Bool :=
  (half? c).any fun unit => unit < 0xDC80 || 0xDCFF < unit

/-- Why a file cannot be written, if it cannot. Directories on the way to it are made. -/
def writeFault? (tree : Tree) (path : Path) : Option Fault :=
  let parent : Path := ⟨path.root, path.parts.dropLast⟩
  let tooLong := path.parts.any fun part => Tree.maxNameBytes < Tree.utf8Size part
  match tree.find? path, tree.find? parent with
  | some .directory, _ => some (ReadFault.directory path.toText).fault
  | some (.file _), _ => none
  | none, some (.file _) => some (.standard "FileExistsError" none)
  | none, _ =>
    if path.toText.any isNameless then some (.standard "UnicodeEncodeError" none)
    else if path.toText.contains (Char.ofNat 0) then some ReadFault.nullCharacter.fault
    else if tree.place path = .blocked then some (ReadFault.notDirectory path.toText).fault
    else if tooLong || tree.place path = .nameTooLong then some (ReadFault.nameTooLong path.toText).fault
    else none

/-- Records go to the file of the settings. A level that is none counts as `info`. -/
def fileSink (w : Surroundings) (settings : Settings) : Except Fault Sink :=
  let level := (Level.parse (some settings.logLevel)).toOption.getD .info
  if settings.logFile.isEmpty then .ok (Sink.initial.configure (some level) none (some false) none)
  else
    match givenPath w.environ settings.logFile with
    | .error fault => .error fault
    | .ok path =>
      match writeFault? w.tree path with
      | some fault => .error fault
      | none =>
        .ok (Sink.initial.configure (some level) none (some false) (some (String.ofList path.toText)))

/-- Records go to standard error, or nowhere. -/
def consoleSink (verbose : Bool) : Sink :=
  Sink.initial.configure (some (if verbose then .debug else .warn)) none (some verbose) none

/-- The heading of a trial. Its query is markup. -/
def trialHeading (settings : Settings) (query : String) : Printout :=
  match content ("Query: " ++ query).toList with
  | .error fault => Printout.empty.print (.error fault.fault)
  | .ok line =>
    let queried := Printout.empty.printContent pageWidth line
    let named := queried.printText pageWidth ("Provider: " ++ settings.handler).toList
    let counted := named.printText pageWidth
      ("Num suggestions: " ++ toString settings.suggestions).toList
    (counted.print (.ok (unlines [edge pageWidth]))).printText pageWidth "Sending request...".toList

/-- A suggestion of a trial, as it is but for emoji. -/
def suggestionText (suggestion : Suggestion) : List Char :=
  withEmoji (Datum.ofValue suggestion).display.toList

/-- Prints a suggestion of a trial under its number. -/
def printSuggestion (printout : Printout) (numbered : Nat × Suggestion) : Printout :=
  let heading := "--- Suggestion " ++ toString numbered.1 ++ " ---"
  ((printout.printText pageWidth heading.toList).printText pageWidth
    (suggestionText numbered.2)).print (.ok ['\n'])

/-- Prints the suggestions of a trial. -/
def printSuggestions (printout : Printout) (suggestions : List Suggestion) : Printout :=
  let received := "\nReceived " ++ toString suggestions.length ++ " completion(s):\n"
  (suggestions.mapIdx fun i suggestion => (i + 1, suggestion)).foldl printSuggestion
    (printout.printText pageWidth received.toList)

/-- One request for a text. -/
def runTrial (settings : Settings) (query : String) (s : Station) : Outcome :=
  let noted := s.log .info "cli.serve" "debug query" [("query", .text query)]
  let heading := trialHeading settings query
  match heading.fault with
  | some fault => .crashed heading.text noted fault
  | none =>
    let (result, after) := noted.completion
      { before := query
        after := ""
        path := "debug.js"
        language := "javascript"
        count := settings.suggestions
        timeoutMs := some (settings.completionTimeout : Int) }
    match result with
    | .ok suggestions => .ofPrintout 0 (printSuggestions heading suggestions) after
    | .error fault =>
      if fault.isBackendFault || fault.isDeadline then .failed heading.text after "Error" fault
      else .crashed heading.text after fault

/-- The frames of the messages that a session sent. -/
def writtenFrames (s : Session) : List UInt8 :=
  (s.sent.foldl (fun writer m => (writer.write m.toValue).1) FrameWriter.empty).written

/-- The server on standard input and output. -/
def runServer (w : Surroundings) (settings : Settings) (s : Station) : Outcome :=
  let noted := s.log .info "cli.serve" "starting helix-assist"
    [("handler", .text settings.handler),
     ("trigger_characters", .list (settings.triggerCharacters.map .text))]
  let (session, breach) :=
    (Session.start settings noted.registry noted.sink).serve (Source.ofBytes w.input)
  let ended := match breach with
    | some _ => session
    | none => session.log .info "cli.serve" "input stream closed" []
  { code := if breach.isSome then 1 else ended.exits.headD 0
    output := writtenFrames ended
    errors := ended.sink.console
    requests := ended.registry.requests
    files := ended.sink.files
    crash := breach.map Breach.fault }

/-- Settings that a server can be started with. -/
def usableSettings (w : Surroundings) (overrides : Overrides) : Except Fault Settings :=
  match Settings.load w.tree w.environ overrides.entries overrides.configPath with
  | .error fault => .error fault
  | .ok settings =>
    match settings.check with
    | some fault => .error fault
    | none => .ok settings

/-- The outcome when there are no usable settings: faults of the settings are for the user. -/
def withoutSettings (fault : Fault) : Outcome :=
  match fault.kind with
  | .config .. => .failed [] (.of .empty) "Configuration error" fault
  | _ => .crashed [] (.of .empty) fault

/-- Starts the server or a trial. -/
def start (w : Surroundings) (overrides : Overrides) (trial : String) : Outcome :=
  match usableSettings w overrides with
  | .error fault => withoutSettings fault
  | .ok settings =>
    match fileSink w settings with
    | .error fault => .crashed [] (.of .empty) fault
    | .ok sink =>
      let station := { Station.of .empty with sink }
      match settings.enrollAll none w.answers station with
      | .error fault => .failed [] station "Provider error" fault
      | .ok ready =>
        if trial.isEmpty then runServer w settings ready else runTrial settings trial ready

/-- Runs the cases of a batch that were loaded. -/
def runCases (settings : Settings) (cases : List Batch.Case) (s : Station) : Outcome :=
  let noted := s.log .info "cli.batch" "running tests"
    [("count", .int cases.length), ("backend", .text s.registry.current)]
  let (results, after) := Batch.run settings.suggestions settings.completionTimeout noted cases
  .ofPrintout (if results.all (·.isOk) then 0 else 1)
    (Batch.report pageWidth after.registry.current results) after

/-- The outcome when there are no cases. -/
def withoutCases (s : Station) (cause : Batch.LoadFault) : Outcome :=
  match cause.fault.kind with
  | .batch _ => .failed [] s "Error loading test cases" cause.fault
  | _ => .crashed [] s cause.fault

/-- Loads and runs the cases of a batch. -/
def runBatch (w : Surroundings) (settings : Settings) (options : BatchOptions) : Outcome :=
  let station := { Station.of .empty with sink := consoleSink options.verbose }
  match settings.enrollAll (some settings.handler) w.answers station with
  | .error fault => .failed [] station "Provider error" fault
  | .ok ready =>
    match Batch.Findings.at_ w.tree options.path (options.language.getD "") with
    | .error cause => withoutCases ready cause
    | .ok findings =>
      let noted := Batch.noteSkipped ready findings.skipped
      match findings.demand options.path with
      | .error cause => withoutCases noted cause
      | .ok cases => runCases settings cases noted

/-- Starts a batch: its provider has to be known. -/
def startBatch (w : Surroundings) (overrides : Overrides) (options : BatchOptions) : Outcome :=
  let known := match options.provider with
    | none => true
    | some name => Settings.handlers.contains name
  if !known then
    let message := "provider must be one of " ++ ", ".intercalate Settings.handlers
    .failed [] (.of .empty) "Error" (.standard "ValueError" (some message))
  else
    match usableSettings w overrides with
    | .error fault => withoutSettings fault
    | .ok settings => runBatch w settings options

/-- The files that the settings are read from. -/
def settingsPaths (environ : Environment) (overrides : Overrides) : List Path :=
  let user := (userPaths environ).toOption.getD []
  match overrides.configPath with
  | some path => if path.isEmpty then user else (givenPath environ path).toOption.toList
  | none => user

/-- The files and directories that an invocation reads. -/
def Invocation.paths (environ : Environment) : Invocation → List Path
  | .version => []
  | .help => []
  | .server overrides _ => settingsPaths environ overrides
  | .batch overrides options =>
    settingsPaths environ overrides ++ [Path.parse options.path.toList]

/-- Whether an invocation reads standard input. -/
def Invocation.readsInput : Invocation → Bool
  | .server _ trial => trial.isEmpty
  | _ => false

/-- Carries out an invocation. -/
def carryOut (w : Surroundings) : Invocation → Outcome
  | .version =>
    .ofPrintout 0 (Printout.empty.printText pageWidth ("helix-assist " ++ Session.version).toList)
      (.of .empty)
  | .help => .ofStation 0 [] (.of .empty)
  | .server overrides trial => start w overrides trial
  | .batch overrides options => startBatch w overrides options

/-- Runs the program on its arguments. -/
def run (w : Surroundings) (arguments : List String) : Outcome :=
  match Invocation.ofArguments arguments with
  | .error fault => .refused fault
  | .ok invocation => carryOut w invocation

end EditorAssist.Terminal

import EditorAssist.Journal.Record
import EditorAssist.Time.Instant
import EditorAssist.Time.Timestamp

/-!
# The sink

All loggers write to one sink, which has a level, a format, a console and at most one open file.
Loggers with a service are shared: the first tags given for a service stay.
-/

namespace EditorAssist.Journal

open EditorAssist.Text EditorAssist.Time

/-- Where records go. -/
structure Sink where
  level : Level
  format : Format
  toConsole : Bool
  /-- The file configured last. -/
  path : Option String
  /-- Whether that file takes records. -/
  isOpen : Bool
  /-- When the record before was written. -/
  last : Instant
  console : String
  /-- Texts of the files written so far. -/
  files : List (String × String)

namespace Sink

def initial : Sink := ⟨.info, .pairs, false, none, false, .start, "", []⟩

/-- The text of a file that was opened. -/
def file? (sink : Sink) (path : String) : Option String :=
  (sink.files.find? (·.1 == path)).map (·.2)

/-- Sets the text of a file. -/
def putFile (path text : String) : List (String × String) → List (String × String)
  | [] => [(path, text)]
  | entry :: rest => if entry.1 == path then (path, text) :: rest else entry :: putFile path text rest

/-- Opens an empty file in place of the one that was open. -/
def openFile (sink : Sink) (path : String) : Sink :=
  { sink with path := some path, isOpen := true, files := putFile path "" sink.files }

def close (sink : Sink) : Sink := { sink with isOpen := false }

/-- Changes what is given, then opens the file or closes the one that was open. -/
def configure (sink : Sink) (level : Option Level) (format : Option Format) (console : Option Bool)
    (path : Option String) : Sink :=
  let changed :=
    { sink with
      level := level.getD sink.level
      format := format.getD sink.format
      toConsole := console.getD sink.toConsole }
  match path with
  | some path =>
    if path.isEmpty then { changed.close with path := none } else changed.openFile path
  | none => { changed.close with path := none }

/-- The path configured last, or nothing. -/
def filePath (sink : Sink) : String := sink.path.getD ""

/-- Whether the open file takes a line. -/
def takesLine (sink : Sink) (line : List Char) : Bool := sink.isOpen && !hasHalf line

/-- Adds a finished line to whatever is listening. -/
def writeLine (sink : Sink) (line : String) : Sink :=
  { sink with
    console := if sink.toConsole then sink.console ++ line else sink.console
    files := match sink.takesLine line.toList, sink.path with
      | true, some path => putFile path ((sink.file? path).getD "" ++ line) sink.files
      | _, _ => sink.files }

/-- The record of a call. -/
def recordOf (sink : Sink) (now : Instant) (level : Level) (message : Datum) (tags : Tags) : Tags :=
  let given := tags.filter fun tag => match tag.2 with
    | .null => false
    | _ => true
  Tags.merge
    [("time", .text (timestamp now.micros)), ("delta_ms", .int (sink.last.millisBetween now)),
     ("level", .text level.label), ("msg", normalize message)]
    (given.map fun tag => (tag.1, normalize tag.2))

/-- Writes a record if its level is enabled. A record that cannot be rendered leaves no line, but
counts as the record before the next. One that cannot be encoded leaves no line in a file. -/
def emit (sink : Sink) (now : Instant) (level : Level) (message : Datum) (tags : Tags) :
    Sink × Option RenderFault :=
  if level.rank < sink.level.rank then (sink, none)
  else
    let stamped := { sink with last := now }
    match render sink.format (sink.recordOf now level message tags) with
    | .error fault => (stamped, some fault)
    | .ok line =>
      (stamped.writeLine (String.ofList (line ++ ['\n'])),
        if sink.isOpen && !sink.takesLine line then some .unencodable else none)

/-- Writes a record of one of the program's services. Its data can always be rendered. -/
def log (sink : Sink) (now : Instant) (level : Level) (service message : String) (tags : Tags) : Sink :=
  (sink.emit now level (.text message) (Tags.merge [("service", .text service)] tags)).1

end Sink

/-- Named loggers: the tags that every record of a service carries. -/
abbrev Loggers := List (String × Tags)

/-- Services of this program. -/
def programServices : List String :=
  ["debounce", "progress", "lsp.framing", "lsp.service", "handler.completion", "handler.actions",
   "backend", "backend.openai", "backend.anthropic", "backend.registry", "config", "config.files",
   "harness.parser", "harness.runner", "cli.serve"]

def Loggers.ofProgram : Loggers :=
  programServices.map fun service => (service, [("service", .text service)])

/-- The service that tags name. -/
def serviceOf? (tags : Tags) : Option String :=
  match Tags.get? "service" tags with
  | some (.text service) => if service.isEmpty then none else some service
  | _ => none

/-- The tags that were first given for the service that `tags` name, if there are any. -/
def Loggers.shared? (loggers : Loggers) (tags : Tags) : Option Tags :=
  (serviceOf? tags).bind fun service => (loggers.find? (·.1 == service)).map (·.2)

/-- The tags of the logger for `tags`: those first given for its service, if it has one. -/
def Loggers.create (loggers : Loggers) (tags : Tags) : Loggers × Tags :=
  match loggers.shared? tags, serviceOf? tags with
  | some known, _ => (loggers, known)
  | none, some service => (loggers ++ [(service, tags)], tags)
  | none, none => (loggers, tags)

end EditorAssist.Journal

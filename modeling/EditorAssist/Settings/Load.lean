import EditorAssist.Files.Tree
import EditorAssist.Settings.Commented
import EditorAssist.Settings.Field
import EditorAssist.Settings.Layer

/-!
# Loading settings

Settings come in layers: defaults, configuration files, the environment, and the command line, which
wins. Files that are missing or unreadable count as empty, and so do values in the environment that
their fields refuse; anything else that is refused is an error.
-/

namespace EditorAssist.Settings

open EditorAssist.Files EditorAssist.Json EditorAssist.Text

/-- Entries under the names of their fields; what names no field is dropped. -/
def fieldEntries (given : Entries) : Entries :=
  given.foldl (fun entries (key, value) =>
    match Field.find? key with
    | some field => Entries.set field.name value entries
    | none => entries) []

/-- The object in a configuration file. -/
def fileEntries (tree : Tree) (environ : Environment) (path : Path) : Except Fault Entries :=
  match tree.look path, tree.readText path with
  | .error fault, _ => .error fault.fault
  | .ok (some (.file _)), .ok text =>
    match Commented.read (environ.expand text) with
    | .value (.obj entries) => .ok entries
    | .value _ => .ok []
    | .unreadable => .ok []
    | .misplaced => .error (Fault.of .misplacedToken)
    | .tooDeep => .error Fault.nesting
  | .ok _, _ => .ok []

/-- A path as the user gave it, its home directory filled in. -/
def givenPath (environ : Environment) (text : String) : Except Fault Path :=
  match (Path.parse text.toList).expandHome environ.homeOf with
  | some path => .ok path
  | none => .error (.standard "RuntimeError" (some "Could not determine home directory."))

/-- Names of the configuration files of a user; the second is laid over the first. -/
def fileNames : List String := ["helix-assist.json", "helix-assist.jsonc"]

/-- The configuration files of a user. -/
def userPaths (environ : Environment) : Except Fault (List Path) :=
  fileNames.mapM fun name =>
    givenPath environ (String.ofList (joinText environ.configDirectory name.toList))

/-- Files laid over each other. -/
def overlaidFiles (tree : Tree) (environ : Environment) : List Path → Entries → Except Fault Entries
  | [], below => .ok below
  | path :: rest, below =>
    match fileEntries tree environ path with
    | .error fault => .error fault
    | .ok entries => overlaidFiles tree environ rest (overlayEntries below (fieldEntries entries))

/-- The configuration files of the user, laid over each other. -/
def userLayer (tree : Tree) (environ : Environment) : Except Fault Entries :=
  match userPaths environ with
  | .error fault => .error fault
  | .ok paths => overlaidFiles tree environ paths []

/-- The one file at a path, which has to exist. -/
def givenLayer (tree : Tree) (environ : Environment) (path : Path) : Except Fault Entries :=
  match tree.look path with
  | .error fault => .error fault.fault
  | .ok none => .error (Fault.config "file not found" (some (String.ofList path.toText)))
  | .ok (some _) => (fileEntries tree environ path).map fieldEntries

/-- The file that was asked for, or those of the user. -/
def fileLayer (tree : Tree) (environ : Environment) (given : Option String) : Except Fault Entries :=
  match given with
  | some text =>
    if text.isEmpty then userLayer tree environ
    else
      match givenPath environ text with
      | .error fault => .error fault
      | .ok path => givenLayer tree environ path
  | none => userLayer tree environ

/-- The value that a variable sets for a field. -/
def environmentValue? (environ : Environment) (field : Field) : Option (String × Value) :=
  match environ.get? field.environmentName with
  | none => none
  | some raw =>
    if raw.isEmpty then none
    else
      match field.read (.str raw) with
      | .ok _ => some (field.name, .str raw)
      | .error _ => none

/-- What the environment sets. -/
def environmentLayer (environ : Environment) : Entries :=
  Field.all.filterMap (environmentValue? environ)

/-- What the command line sets; null sets nothing. -/
def commandLayer (overrides : Entries) : Entries :=
  fieldEntries (overrides.filter fun entry => match entry.2 with
    | .null => false
    | _ => true)

/-- Loads the settings. -/
def load (tree : Tree) (environ : Environment) (overrides : Entries) (path : Option String) :
    Except Fault Settings :=
  match fileLayer tree environ path with
  | .error fault => .error fault
  | .ok files =>
    let given := mergeLayers [files, environmentLayer environ, commandLayer overrides]
    match ofEntries (defaults (String.ofList environ.defaultLogFile)) given with
    | .ok settings => .ok settings
    | .error problems => .error (Fault.config ("; ".intercalate (problems.map (·.message))) path)

end EditorAssist.Settings

import EditorAssist.Files.Path
import EditorAssist.Text.Blank

/-!
# The environment

Variables of the process, the directories that follow from them, and references to variables inside
a text. A reference is expanded once: what a variable stands for is not looked at again.
-/

namespace EditorAssist.Settings

open EditorAssist.Files EditorAssist.Text

/-- Variables by name. -/
abbrev Environment := List (String × String)

namespace Environment

def get? (name : String) (environ : Environment) : Option String :=
  (environ.find? (·.1 == name)).map (·.2)

/-- The home directory; without a variable for it, that of the administrator. -/
def home (environ : Environment) : List Char :=
  let given := ((environ.get? "HOME").getD "/root").toList
  let bare := dropEndWhile (· = '/') given
  if bare.isEmpty then ['/'] else bare

/-- The home directory of a user: of the one at work without a name, else of the administrator, the only
user who is sure to be there. -/
def homeOf (environ : Environment) (user : List Char) : Option (List Char) :=
  if user.isEmpty then (if environ.home.head? = some '~' then none else some environ.home)
  else if user = "root".toList then some "/root".toList
  else none

/-- The directory that a variable names by an absolute path, or a place below the home directory. -/
def baseDirectory (environ : Environment) (name fallback : String) : List Char :=
  let given := ((environ.get? name).getD "").toList
  if given.head? = some '/' then given else joinText environ.home fallback.toList

def applicationName : List Char := "helix-assist".toList

/-- Where data is kept. -/
def dataDirectory (environ : Environment) : List Char :=
  joinText (environ.baseDirectory "XDG_DATA_HOME" ".local/share") applicationName

/-- Where configuration files are looked for. -/
def configDirectory (environ : Environment) : List Char :=
  let given := ((environ.get? "HELIX_ASSIST_CONFIG_DIR").getD "").toList
  if given.isEmpty then joinText (environ.baseDirectory "XDG_CONFIG_HOME" ".config") applicationName
  else given

/-- Where records go unless told otherwise. -/
def defaultLogFile (environ : Environment) : List Char :=
  (((Path.parse environ.dataDirectory).append (Path.parse "log".toList)).append
    (Path.parse (applicationName ++ ".log".toList))).toText

/-- What opens a reference. -/
def referenceMark : List Char := "\x7benv:".toList

/-- The name in a reference whose mark has been read and the text after it. -/
def reference? (text : List Char) : Option (List Char × List Char) :=
  match breakOn ['\x7d'] text with
  | some (name, rest) => if name.isEmpty then none else some (name, rest)
  | none => none

theorem length_reference?_lt {text name rest : List Char} (h : reference? text = some (name, rest)) :
    rest.length < text.length := by
  unfold reference? at h
  split at h
  · next before after eq =>
    split at h
    · cases h
    · simp only [Option.some.injEq, Prod.mk.injEq] at h
      have := length_after_breakOn eq
      rw [h.2, List.length_singleton] at this
      omega
  · cases h

theorem length_after_reference_lt {text name rest : List Char}
    (h : (strip? referenceMark text).bind reference? = some (name, rest)) : rest.length < text.length := by
  cases marked : strip? referenceMark text with
  | none => simp [marked] at h
  | some body =>
    rw [marked] at h
    have shorter := length_reference?_lt h
    rw [strip?_eq_some_iff.1 marked, List.length_append]
    omega

/-- Replaces every reference by the value of its variable, or by nothing when it has none. -/
def expand (environ : Environment) : List Char → List Char
  | [] => []
  | c :: rest =>
    match h : (strip? referenceMark (c :: rest)).bind reference? with
    | some (name, after) =>
      have := length_after_reference_lt h
      ((environ.get? (String.ofList name)).getD "").toList ++ expand environ after
    | none => c :: expand environ rest
termination_by text => text.length
decreasing_by
  · exact this
  · exact Nat.lt_succ_self _

end Environment

end EditorAssist.Settings

import EditorAssist.Files.Path
import EditorAssist.Text.LowerCase

/-!
# Languages

The language of a file is known by its extension, in any case.
-/

namespace EditorAssist.Batch

open EditorAssist.Files EditorAssist.Text

/-- Why the language of a file is not known. -/
inductive LanguageFault where
  | noExtension (path : String)
  | unsupported (extension : String)
  deriving Repr, DecidableEq

def LanguageFault.message : LanguageFault → String
  | .noExtension path => "file has no extension: " ++ path
  | .unsupported extension => "unsupported file extension: " ++ extension

/-- Extensions in lower case with their languages. -/
def languages : List (String × String) :=
  [(".js", "javascript"), (".jsx", "javascriptreact"), (".ts", "typescript"),
   (".tsx", "typescriptreact"), (".py", "python"), (".go", "go"), (".rs", "rust"),
   (".java", "java"), (".kt", "kotlin"), (".swift", "swift"), (".c", "c"), (".h", "c"),
   (".cpp", "cpp"), (".cc", "cpp"), (".cxx", "cpp"), (".hpp", "cpp"), (".rb", "ruby"),
   (".php", "php"), (".cs", "csharp"), (".sh", "shellscript"), (".bash", "shellscript"),
   (".lua", "lua"), (".vim", "vim"), (".sql", "sql"), (".html", "html"), (".css", "css"),
   (".json", "json"), (".xml", "xml"), (".yaml", "yaml"), (".yml", "yaml"), (".md", "markdown")]

/-- The language of a file. -/
def detectLanguage (path : String) : Except LanguageFault String :=
  let extension := String.ofList (lowerCase (Path.parse path.toList).suffix)
  if extension.isEmpty then .error (.noExtension path)
  else
    match languages.find? (·.1 == extension) with
    | some (_, language) => .ok language
    | none => .error (.unsupported extension)

end EditorAssist.Batch

import EditorAssist.Text.Lines
import EditorAssist.Text.Search

/-!
# Prompts

The texts sent to the backends, and the code block read back from a fenced answer.
-/

namespace EditorAssist.Prompt

open EditorAssist.Text

/-- A document uri as a path. -/
def stripFileScheme (uri : String) : String :=
  String.ofList (withoutPrefix "file://".toList uri.toList)

def completionSystem (language : String) : String :=
  "You are a " ++ language ++ " code completion assistant. Complete the code at the cursor position.\n\n"
    ++ "Rules:\n"
    ++ "- Output ONLY the code that should be inserted at the cursor\n"
    ++ "- Do NOT include any code that already exists before or after the cursor\n"
    ++ "- Do NOT add explanations, comments, or markdown formatting\n"
    ++ "- Do NOT repeat existing code\n"
    ++ "- Do NOT include comments\n"
    ++ "- Generate syntactically correct " ++ language ++ " code"

def completionUser (path before after : String) : String :=
  "File: " ++ path ++ "\n\nCode before cursor:\n" ++ before ++ "\n\n<CURSOR>\n\nCode after cursor:\n"
    ++ after

def chatSystem (language : String) : String :=
  "You are an AI programming assistant specialized in " ++ language ++ ".\n\n"
    ++ "Rules:\n"
    ++ "- Output ONLY the corrected/improved code that should replace the selection\n"
    ++ "- DO NOT include explanations, markdown formatting, or code block delimiters\n"
    ++ "- DO NOT include any text before or after the code\n"
    ++ "- DO NOT add extra comments unless specifically requested\n"
    ++ "- Preserve the original indentation and formatting style\n"
    ++ "- Generate syntactically correct " ++ language ++ " code\n"
    ++ "- Follow the user's requirements precisely\n"
    ++ "- If diagnostics are provided, fix them in the code\n"
    ++ "- Remove any implementation comments after addressing them"

def chatUser (language path content instruction : String) : String :=
  "File: " ++ path ++ "\nLanguage: " ++ language ++ "\n\nSelected code:\n" ++ content ++ "\n\nTask: "
    ++ instruction

def fencedChatSystem (language : String) : String :=
  "You are an AI programming assistant.\n"
    ++ "Follow the user's requirements carefully & to the letter.\n"
    ++ "- Each code block starts with \x60\x60\x60 and // FILEPATH.\n"
    ++ "- You always answer with " ++ language ++ " code.\n"
    ++ "- When the user asks you to document something, you must answer in the form of a " ++ language
    ++ " code block.\n"
    ++ "Your expertise is strictly limited to software development topics.\n"
    ++ "Keep your answers short and impersonal."

def fencedChatUser (language path content instruction : String) : String :=
  "I have the following code in the selection:\n\x60\x60\x60" ++ language ++ "\n// FILEPATH: " ++ path
    ++ "\n" ++ content ++ "\n\n" ++ instruction

/-- Three backticks open and close a block. -/
def fence : List Char := List.replicate 3 '\x60'

/-- The first block fenced with `language`, fences included. -/
def fencedBlock? (text language : List Char) : Option (List Char) :=
  match breakOn (fence ++ language) text with
  | none => none
  | some (_, after) =>
    (breakOn fence after).map fun (body, _) => fence ++ language ++ body ++ fence

/-- The line that names the file of a block. -/
def pathMarker (path : List Char) : List Char :=
  "// FILEPATH: ".toList ++ withoutPrefix "file://".toList path ++ ['\n']

/-- The lines between the first and the last one of a block, if it has more than one. -/
def innerLines (block : List Char) : List Char :=
  match lines block with
  | [] => []
  | [_] => []
  | _ :: inner => joinLines inner.dropLast ++ ['\n']

/-- The code of the first block fenced with `language`, without its file marker; empty when there is
no such block. -/
def extractCodeBlock (path text language : List Char) : List Char :=
  match fencedBlock? text language with
  | none => []
  | some block => innerLines (replaceFirst (pathMarker path) [] block)

end EditorAssist.Prompt

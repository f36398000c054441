import EditorAssist.Terminal.Run

/-!
# The program

Reads what the invocation needs, runs it and writes what it leaves behind. Everything that is decided
is decided in `EditorAssist.Terminal`. No transport to the providers is linked here: they have no
answers.
-/

namespace EditorAssist.Terminal

open EditorAssist.Files EditorAssist.Settings EditorAssist.Text EditorAssist.Wire

/-- The variables in a block of `NAME=value` entries that end in a zero byte. -/
def environmentOfBlock (block : List Char) : Environment :=
  (splitOn (Char.ofNat 0) [] block).filterMap fun entry =>
    (breakOn ['='] entry).map fun (name, value) => (String.ofList name, String.ofList value)

/-- The variables of this process. -/
def readEnvironment : IO Environment := do
  let block ← IO.FS.readBinFile "/proc/self/environ"
  match Utf8.decode block.toList with
  | .ok text => return environmentOfBlock text.toList
  | .error _ => return []

/-- Reads a file, or every file below a directory. -/
def readFiles (path : Path) : IO Tree := do
  let text := String.ofList path.toText
  let here ← IO.currentDir
  let root := here / text
  if ← root.isDir then
    let mut files : Tree := []
    for entry in ← root.walkDir do
      if !(← entry.isDir) then
        let below := entry.toString.toList.drop root.toString.length
        let bytes ← IO.FS.readBinFile entry
        files := ⟨path.append ⟨[], (Path.parse below).parts⟩, bytes.toList⟩ :: files
    return files
  else if ← root.pathExists then
    return [⟨path, (← IO.FS.readBinFile root).toList⟩]
  else return []

/-- Reads a stream to its end. -/
partial def readInput (stream : IO.FS.Stream) (read : ByteArray) : IO ByteArray := do
  let more ← stream.read 65536
  if more.isEmpty then return read else readInput stream (read ++ more)

/-- Writes a file, with the directories on the way to it. -/
def writeText (path text : String) : IO Unit := do
  let target := (← IO.currentDir) / path
  if let some directory := target.parent then IO.FS.createDirAll directory
  IO.FS.writeFile target text

/-- What an invocation finds. -/
def readSurroundings (environ : Environment) (invocation : Invocation) : IO Surroundings := do
  let mut tree : Tree := []
  for path in invocation.paths environ do
    tree := tree ++ (← readFiles path)
  let input ← if invocation.readsInput then readInput (← IO.getStdin) .empty else pure .empty
  return { tree, environ, answers := fun _ => [], input := input.toList }

/-- Writes what the program leaves behind and returns its exit code. -/
def Outcome.write (o : Outcome) : IO UInt32 := do
  for (path, text) in o.files do
    writeText path text
  let output ← IO.getStdout
  output.write ⟨o.output.toArray⟩
  output.flush
  IO.eprint o.errors
  if let some fault := o.crash then IO.eprintln fault.headline
  return UInt32.ofNat o.code

end EditorAssist.Terminal

def main (arguments : List String) : IO UInt32 := do
  let environ ← EditorAssist.Terminal.readEnvironment
  match EditorAssist.Terminal.Invocation.ofArguments arguments with
  | .error fault => (EditorAssist.Terminal.Outcome.refused fault).write
  | .ok invocation =>
    let surroundings ← EditorAssist.Terminal.readSurroundings environ invocation
    (EditorAssist.Terminal.carryOut surroundings invocation).write

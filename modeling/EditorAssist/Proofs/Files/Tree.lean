import EditorAssist.Files.Tree
import EditorAssist.Proofs.Files.Order
import EditorAssist.Proofs.Text.Utf8

/-!
# Reading files

A file that holds the encoding of a text is read as that text with plain line breaks. A name without a slash is a
path of its own.
-/

namespace EditorAssist.Files

open EditorAssist.Text

theorem readText_of_encoded {tree : Tree} {place : Path} {text : String} {plain : List Char}
    (visible : place.toText.contains (Char.ofNat 0) = false)
    (found : tree.find? place = some (.file (Utf8.encode text)))
    (breaks : normalizeNewlines text.toList = plain) : tree.readText place = .ok plain := by
  simp only [Tree.readText, visible, found, Utf8.decode_encode, breaks, Bool.false_eq_true, ↓reduceIte]

theorem parse_of_name {name : List Char} (whole : '/' ∉ name) (named : name ≠ []) (other : name ≠ ['.']) :
    Path.parse name = ⟨[], [name]⟩ := by
  have component : IsComponent name := ⟨named, whole, other⟩
  have shown : Path.toText ⟨Path.rootOf [], [name]⟩ = name := rfl
  have parsed := parse_toText [] (List.cons_ne_nil name []) (List.forall_mem_singleton.mpr component)
  rwa [shown] at parsed

end EditorAssist.Files

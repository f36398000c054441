/-!
# Paths

A path is a finite sequence of steps, each of which lists what is to be known of it. The list of a path
is that of its steps, one after the other.
-/

namespace EditorAssist.Time

variable {σ ε : Type} {step : σ → List ε → σ → Prop}

/-- A finite sequence of steps and what they list. -/
inductive Path (step : σ → List ε → σ → Prop) : σ → List ε → σ → Prop
  | nil (s : σ) : Path step s [] s
  | cons {s mid t : σ} {first later : List ε} :
      step s first mid → Path step mid later t → Path step s (first ++ later) t

namespace Path

theorem single {s t : σ} {notes : List ε} (taken : step s notes t) : Path step s notes t := by
  rw [← List.append_nil notes]
  exact .cons taken (.nil t)

theorem append {s mid t : σ} {first later : List ε} (left : Path step s first mid)
    (right : Path step mid later t) : Path step s (first ++ later) t := by
  induction left with
  | nil => exact right
  | cons taken _ ih =>
    rw [List.append_assoc]
    exact .cons taken (ih right)

/-- What every step keeps, every path keeps. -/
theorem invariant {s t : σ} {notes : List ε} (path : Path step s notes t) (good : σ → Prop)
    (stays : ∀ {s notes t}, good s → step s notes t → good t) (start : good s) : good t := by
  induction path with
  | nil => exact start
  | cons taken _ ih => exact ih (stays start taken)

end Path

end EditorAssist.Time

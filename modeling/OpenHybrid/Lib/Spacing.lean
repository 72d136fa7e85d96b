import Mathlib

/-!
# Keeping a distance

Something happens now and then, each time with a distance in force. A cell holds the time of the
last occurrence or a later one, and the next one waits until the distance has passed since then.
While the cell is disarmed nothing happens, and it may hold anything.
-/

namespace Spacing

structure Occurrence where
  time : Int
  distance : Int

def Spaced (occurrences : List Occurrence) : Prop :=
  occurrences.Pairwise fun earlier later => earlier.time + later.distance < later.time

/-- The cell of an armed pacer has seen every occurrence. -/
structure Keeps (armed : Prop) (last : Int) (occurrences : List Occurrence) : Prop where
  spaced : Spaced occurrences
  recorded : armed → ∀ occurrence ∈ occurrences, occurrence.time ≤ last

variable {armed : Prop} {last later : Int} {occurrences : List Occurrence}

theorem Keeps.nil : Keeps armed last [] :=
  ⟨List.Pairwise.nil, fun _ _ hmem => absurd hmem List.not_mem_nil⟩

end Spacing

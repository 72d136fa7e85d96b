import Mathlib

/-!
# Demands and answers

One side asks, the other one answers. A later demand stands for all that were not answered before it.
The answers are prompt when each of them directly follows the demand it answers: nothing is answered
unasked, and nothing is answered twice.
-/

namespace Owed

variable {α : Type*} {value : α} {owed : Option α}

inductive Event (α : Type*) where
  | asked (value : α)
  | answered (value : α)
  deriving DecidableEq

variable {wire : List (Event α)}

/-- Every answer directly follows its demand. -/
def Answering (wire : List (Event α)) : Prop :=
  ∀ before value after, wire = before ++ .answered value :: after →
    before.getLast? = some (.asked value)

/-- The answers are prompt, and what is still owed is the last thing on the wire. -/
structure Keeps (owed : Option α) (wire : List (Event α)) : Prop where
  answering : Answering wire
  last : ∀ value, owed = some value → wire.getLast? = some (.asked value)

theorem Answering.snoc {event : Event α} (hanswering : Answering wire)
    (hevent : ∀ value, event = .answered value → wire.getLast? = some (.asked value)) :
    Answering (wire ++ [event]) := by
  intro before value after hsplit
  rcases List.eq_nil_or_concat after with rfl | ⟨front, last, rfl⟩
  · obtain ⟨rfl, hlast⟩ := List.append_inj' hsplit rfl
    exact hevent value (List.head_eq_of_cons_eq hlast)
  · rw [List.concat_eq_append, ← List.cons_append, ← List.append_assoc] at hsplit
    exact hanswering before value front (List.append_inj' hsplit rfl).1

theorem Keeps.nil : Keeps none ([] : List (Event α)) where
  answering before value after hsplit := absurd hsplit (by simp)
  last _ howed := nomatch howed

/-- The answer settles what is owed. -/
theorem Keeps.answer (hkeeps : Keeps (some value) wire) :
    Keeps none (wire ++ [.answered value]) where
  answering := hkeeps.answering.snoc fun other hevent => by
    rw [← Event.answered.inj hevent]
    exact hkeeps.last value rfl
  last _ howed := nomatch howed

end Owed

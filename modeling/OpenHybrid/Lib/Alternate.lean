import Mathlib

/-!
# Alternating events

Something goes up and down again. Its events alternate when they are up, down, up and so on, from
the first one.
-/

namespace Alternation

variable {α : Type*} {up down : α} {events : List α}

def Alternates (up down : α) (events : List α) : Prop :=
  ∀ (i : Nat) (hi : i < events.length), events[i] = if i % 2 = 0 then up else down

structure InStep (up down : α) (isUp : Bool) (events : List α) : Prop where
  alternates : Alternates up down events
  parity : events.length % 2 = if isUp then 1 else 0

theorem Alternates.snoc {event : α} (halternates : Alternates up down events)
    (hevent : event = if events.length % 2 = 0 then up else down) :
    Alternates up down (events ++ [event]) := by
  intro i hi
  rw [List.length_append, List.length_singleton] at hi
  rcases Nat.lt_or_ge i events.length with hbefore | hlast
  · rw [List.getElem_append_left hbefore]
    exact halternates i hbefore
  · obtain rfl : i = events.length := by omega
    simpa using hevent

theorem InStep.nil : InStep up down false [] :=
  ⟨fun i hi => absurd hi (Nat.not_lt_zero i), rfl⟩

theorem InStep.goUp (hin : InStep up down false events) :
    InStep up down true (events ++ [up]) := by
  have hparity : events.length % 2 = 0 := hin.parity
  refine ⟨hin.alternates.snoc (if_pos hparity).symm, ?_⟩
  rw [List.length_append, List.length_singleton, if_pos rfl]
  omega

theorem InStep.goDown (hin : InStep up down true events) :
    InStep up down false (events ++ [down]) := by
  have hparity : events.length % 2 = 1 := hin.parity
  refine ⟨hin.alternates.snoc (if_neg (by omega)).symm, ?_⟩
  rw [List.length_append, List.length_singleton, if_neg Bool.false_ne_true]
  omega

end Alternation

import Mathlib

/-!
# Cells that are written once

A cell holds 0 until something else is stored. From then on it ignores what it is offered.
-/

namespace Once

variable {α : Type*} [Zero α] [DecidableEq α] {current value : α} {values before new : List α}

def store (current value : α) : α := if current = 0 then value else current

theorem foldl_store_of_ne_zero (hset : current ≠ 0) (values : List α) :
    values.foldl store current = current := by
  induction values with
  | nil => rfl
  | cons value values ih => rw [List.foldl_cons, store, if_neg hset, ih]

theorem foldl_store_zero_or_mem (values : List α) :
    values.foldl store 0 = 0 ∨ values.foldl store 0 ∈ values := by
  induction values with
  | nil => exact Or.inl rfl
  | cons value values ih =>
      rw [List.foldl_cons, store, if_pos rfl]
      by_cases hvalue : value = 0
      · rw [hvalue]
        exact ih.imp id (List.mem_cons_of_mem 0)
      · rw [foldl_store_of_ne_zero hvalue]
        exact Or.inr List.mem_cons_self

theorem foldl_store_ne_zero (hmem : value ∈ values) (hvalue : value ≠ 0) :
    values.foldl store 0 ≠ 0 := by
  intro hunset
  obtain ⟨first, rest, rfl⟩ := List.append_of_mem hmem
  rw [List.foldl_append, List.foldl_cons] at hunset
  by_cases hfirst : first.foldl store 0 = 0
  · rw [hfirst, store, if_pos rfl, foldl_store_of_ne_zero hvalue] at hunset
    exact hvalue hunset
  · rw [store, if_neg hfirst, foldl_store_of_ne_zero hfirst] at hunset
    exact hfirst hunset

/-- Nothing has ever been ignored. -/
def Settled (values : List α) : Prop :=
  ∀ value ∈ values, value ≠ 0 → value = values.foldl store 0

/-- What is offered now is all that has ever been offered. -/
def Consistent (before new : List α) : Prop :=
  ∀ value ∈ new, ∀ offered ∈ before ++ new, offered ≠ 0 → offered = value

instance (before new : List α) : Decidable (Consistent before new) :=
  inferInstanceAs (Decidable (∀ value ∈ new, ∀ offered ∈ before ++ new, _))

/-- What is offered consistently is what has been stored. -/
theorem eq_foldl_of_consistent (hconsistent : Consistent before new) (hmem : value ∈ new) :
    value = (before ++ new).foldl store 0 := by
  by_cases hzero : (before ++ new).foldl store 0 = 0
  · by_contra hvalue
    refine foldl_store_ne_zero (List.mem_append_right before hmem) ?_ hzero
    exact fun hnone => hvalue (hnone.trans hzero.symm)
  · have hheld := (foldl_store_zero_or_mem (before ++ new)).resolve_left hzero
    exact (hconsistent value hmem _ hheld hzero).symm

theorem foldl_append_of_mem (hsettled : Settled before) (hmem : value ∈ before)
    (hvalue : value ≠ 0) : (before ++ new).foldl store 0 = value := by
  have hheld := hsettled value hmem hvalue
  rw [List.foldl_append, ← hheld, foldl_store_of_ne_zero hvalue]

theorem Settled.append (hsettled : Settled before) (hconsistent : Consistent before new) :
    Settled (before ++ new) := by
  intro value hmem hvalue
  rcases List.mem_append.mp hmem with hbefore | hnew
  · exact (foldl_append_of_mem hsettled hbefore hvalue).symm
  · exact eq_foldl_of_consistent hconsistent hnew

/-- **What is offered is held** if and only if nothing else was offered before. -/
theorem held_iff_consistent (hsettled : Settled before) :
    (∀ value ∈ new, (before ++ new).foldl store 0 = value) ↔ Consistent before new := by
  constructor
  · intro hheld value hmem offered hoffered hset
    rcases List.mem_append.mp hoffered with hbefore | hnew
    · exact (foldl_append_of_mem hsettled hbefore hset).symm.trans (hheld value hmem)
    · exact (hheld offered hnew).symm.trans (hheld value hmem)
  · intro hconsistent value hmem
    exact (eq_foldl_of_consistent hconsistent hmem).symm

end Once

import Mathlib

/-!
# A channel that keeps the order

A stream goes in and some of it comes out. Items may get lost, but nothing comes out twice, nothing
overtakes what went in before it, and nothing comes out that did not go in.
-/

namespace Channel

variable {α : Type*} {stream delivered : List α} {count : Nat}

/-- The channel is done with the first `count` items of the stream, and `delivered` came out. -/
inductive Conveyed (stream : List α) : Nat → List α → Prop
  | start : Conveyed stream 0 []
  | lose {count : Nat} {delivered : List α} (hconveyed : Conveyed stream count delivered) :
      Conveyed stream (count + 1) delivered
  | deliver {count : Nat} {delivered : List α} {item : α}
      (hconveyed : Conveyed stream count delivered) (hitem : stream[count]? = some item) :
      Conveyed stream (count + 1) (delivered ++ [item])

/-- What comes out is part of what the channel is done with, in order. -/
theorem Conveyed.sublist_take (hconveyed : Conveyed stream count delivered) :
    delivered.Sublist (stream.take count) := by
  induction hconveyed with
  | start => exact List.nil_sublist _
  | @lose count delivered _ ih =>
      exact ih.trans (List.take_sublist_take_left (Nat.le_succ count))
  | @deliver count delivered item _ hitem ih =>
      rw [List.take_add_one, hitem]
      exact ih.append (List.Sublist.refl _)

theorem Conveyed.sublist (hconveyed : Conveyed stream count delivered) :
    delivered.Sublist stream :=
  hconveyed.sublist_take.trans (List.take_sublist count stream)

theorem Conveyed.length_le (hconveyed : Conveyed stream count delivered) :
    delivered.length ≤ count := by
  have htake := hconveyed.sublist_take.length_le
  rw [List.length_take] at htake
  omega

/-- When nothing was lost, what came out is the beginning of the stream. -/
theorem Conveyed.eq_take (hconveyed : Conveyed stream count delivered)
    (hlossless : count ≤ delivered.length) :
    delivered = stream.take count ∧ count ≤ stream.length := by
  have hsublist := hconveyed.sublist_take
  have hlength := hsublist.length_le
  rw [List.length_take] at hlength
  refine ⟨hsublist.eq_of_length_le ?_, by omega⟩
  rw [List.length_take]
  omega

end Channel

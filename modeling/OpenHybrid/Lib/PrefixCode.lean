import Mathlib

/-!
# Prefix codes

Words none of which is the beginning of another. What starts with one word starts with no second
one, so a reader that takes word after word until none is left finds the longest beginning that is
a sequence of words.
-/

namespace PrefixCode

variable {α β : Type*} {word : α → List β} {input rest : List β} {items others : List α}

/-- No word is the beginning of another. -/
def Prefixfree (word : α → List β) : Prop := ∀ a b, word a <+: word b → a = b

/-- The longest beginning of the input that is a sequence of words. -/
structure Longest (word : α → List β) (input : List β) (items : List α) : Prop where
  is_prefix : items.flatMap word <+: input
  longest : ∀ others : List α, others.flatMap word <+: input → others <+: items

/-- Of two words at the start of one input, one starts with the other. -/
theorem Prefixfree.eq_of_append (hfree : Prefixfree word) {a b : α} {after later : List β}
    (hinput : word a ++ after = word b ++ later) : a = b := by
  have ha : word a <+: word b ++ later := ⟨after, hinput⟩
  have hb : word b <+: word b ++ later := List.prefix_append _ _
  rcases List.prefix_or_prefix_of_prefix ha hb with hprefix | hprefix
  · exact hfree a b hprefix
  · exact (hfree b a hprefix).symm

/-- Where no word is left, no other sequence gets further. -/
theorem Prefixfree.prefix_of_stuck (hfree : Prefixfree word)
    (hstuck : ∀ a, ¬ word a <+: rest) (hothers : others.flatMap word <+: items.flatMap word ++ rest) :
    others <+: items := by
  induction items generalizing others with
  | nil =>
      cases others with
      | nil => exact List.nil_prefix
      | cons other others =>
          refine absurd ?_ (hstuck other)
          calc word other
              _ <+: word other ++ others.flatMap word := List.prefix_append _ _
              _ <+: rest := hothers
  | cons item items ih =>
      cases others with
      | nil => exact List.nil_prefix
      | cons other others =>
          rw [List.flatMap_cons, List.flatMap_cons, List.append_assoc] at hothers
          obtain ⟨later, hinput⟩ := hothers
          rw [List.append_assoc] at hinput
          obtain rfl := hfree.eq_of_append hinput
          have htail : others.flatMap word <+: items.flatMap word ++ rest :=
            ⟨later, List.append_cancel_left hinput⟩
          exact List.cons_prefix_cons.mpr ⟨rfl, ih htail⟩

/-- Words that are read until none fits are the longest beginning. -/
theorem Prefixfree.longest_of_stuck (hfree : Prefixfree word) (hstuck : ∀ a, ¬ word a <+: rest) :
    Longest word (items.flatMap word ++ rest) items where
  is_prefix := List.prefix_append _ _
  longest _ hothers := hfree.prefix_of_stuck hstuck hothers

theorem Longest.length_le (hlongest : Longest word input items)
    (hothers : others.flatMap word <+: input) :
    (others.flatMap word).length ≤ (items.flatMap word).length := by
  obtain ⟨further, rfl⟩ := hlongest.longest others hothers
  rw [List.flatMap_append, List.length_append]
  exact Nat.le_add_right _ _

/-- It takes all the room if and only if the input is a sequence of words. -/
theorem Longest.length_eq_iff (hlongest : Longest word input items) :
    (items.flatMap word).length = input.length ↔ ∃ whole : List α, whole.flatMap word = input := by
  constructor
  · exact fun hlength => ⟨items, hlongest.is_prefix.eq_of_length hlength⟩
  · rintro ⟨whole, rfl⟩
    exact Nat.le_antisymm hlongest.is_prefix.length_le (hlongest.length_le List.prefix_rfl)

end PrefixCode

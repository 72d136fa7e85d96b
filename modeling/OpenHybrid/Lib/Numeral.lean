import Mathlib

/-!
# Numerals

Numbers written in some base, with leading zeros up to a least width, and read back digit by digit.
-/

namespace Numeral

variable {α : Type*} {base least n : Nat} {char : Nat → α} {digit : α → Nat}

def spell (base : Nat) (char : Nat → α) (least n : Nat) : List α :=
  (Nat.digitsAppend base least n).reverse.map char

def value (base : Nat) (digit : α → Nat) (text : List α) : Nat :=
  text.foldl (fun worth char => base * worth + digit char) 0

theorem value_reverse_map {digits : List Nat} (hdigits : ∀ d ∈ digits, digit (char d) = d) :
    value base digit (digits.reverse.map char) = Nat.ofDigits base digits := by
  induction digits with
  | nil => rfl
  | cons d rest ih =>
      have hrest := ih fun other hother => hdigits other (List.mem_cons_of_mem d hother)
      unfold value at hrest ⊢
      rw [List.reverse_cons, List.map_append, List.foldl_append, hrest, Nat.ofDigits_cons]
      simp only [List.map_cons, List.map_nil, List.foldl_cons, List.foldl_nil,
        hdigits d List.mem_cons_self, add_comm]

theorem mem_spell (hbase : 1 < base) {symbol : α} (hmem : symbol ∈ spell base char least n) :
    ∃ d < base, symbol = char d := by
  obtain ⟨d, hd, rfl⟩ := List.mem_map.mp hmem
  exact ⟨d, Nat.lt_of_mem_digitsAppend hbase least d (List.mem_reverse.mp hd), rfl⟩

/-- **What is written is read back.** -/
theorem value_spell (hbase : 1 < base) (hdigit : ∀ d < base, digit (char d) = d) :
    value base digit (spell base char least n) = n := by
  rw [spell, value_reverse_map fun d hd =>
    hdigit d (Nat.lt_of_mem_digitsAppend hbase least d hd), Nat.digitsAppend,
    Nat.ofDigits_append_replicate_zero, Nat.ofDigits_digits]

/-- A number that needs no more than the least width has just that width. -/
theorem length_spell (hbase : 1 < base) (hn : n < base ^ least) :
    (spell base char least n).length = least := by
  rw [spell, List.length_map, List.length_reverse, Nat.length_digitsAppend hbase least hn]

theorem length_spell_le (hbase : 1 < base) {room : ℕ} (hleast : least ≤ room)
    (hn : n < base ^ room) : (spell base char least n).length ≤ room := by
  have hdigits := (Nat.digits_length_le_iff hbase n).mpr hn
  rw [spell, List.length_map, List.length_reverse, Nat.digitsAppend, List.length_append,
    List.length_replicate]
  omega

theorem spell_ne_nil (hleast : 0 < least) : spell base char least n ≠ [] := by
  intro hnil
  have hlength := congrArg List.length hnil
  rw [spell, List.length_map, List.length_reverse, Nat.digitsAppend, List.length_append,
    List.length_replicate, List.length_nil] at hlength
  omega

end Numeral

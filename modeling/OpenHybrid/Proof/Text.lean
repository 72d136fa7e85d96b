import OpenHybrid.Dhcp
import Mathlib.Data.Nat.Digits.Defs

/-!
# Numbers in text

What a program or a user writes in decimal is what `atoi` reads.
-/

namespace OpenHybrid

open ByteMemory

def digitChar (digit : Nat) : Byte := BitVec.ofNat 8 (48 + digit)

def decimal (n : Nat) : List Byte :=
  if n = 0 then [digitChar 0] else (Nat.digits 10 n).reverse.map digitChar

theorem toNat_digitChar {digit : Nat} (hdigit : digit < 10) :
    (digitChar digit).toNat = 48 + digit := by
  rw [digitChar, BitVec.toNat_ofNat]
  omega

theorem mem_decimal {n : Nat} {char : Byte} (hmem : char ∈ decimal n) :
    ∃ digit < 10, char = digitChar digit := by
  unfold decimal at hmem
  split at hmem
  · exact ⟨0, by decide, List.mem_singleton.mp hmem⟩
  · obtain ⟨digit, hdigit, rfl⟩ := List.mem_map.mp hmem
    exact ⟨digit, Nat.digits_lt_base (by decide) (List.mem_reverse.mp hdigit), rfl⟩

theorem decimal_ne_nil (n : Nat) : decimal n ≠ [] := by
  unfold decimal
  split
  · exact List.cons_ne_nil _ _
  · rename_i hne
    have hdigits := Nat.digits_ne_nil_iff_ne_zero (b := 10).mpr hne
    simpa using hdigits

theorem foldl_digitChar : ∀ {digits : List Nat}, (∀ digit ∈ digits, digit < 10) →
    (digits.reverse.map digitChar).foldl
      (fun (value : Nat) (digit : Byte) => 10 * value + (digit.toNat - 48)) 0 =
        Nat.ofDigits 10 digits := by
  intro digits
  induction digits with
  | nil => intro _; rfl
  | cons digit rest ih =>
      intro hdigits
      have hfirst := toNat_digitChar (hdigits digit List.mem_cons_self)
      rw [List.reverse_cons, List.map_append, List.foldl_append,
        ih fun other hother => hdigits other (List.mem_cons_of_mem _ hother), Nat.ofDigits_cons]
      simp only [List.map_cons, List.map_nil, List.foldl_cons, List.foldl_nil, hfirst]
      omega

/-- Reading a number back digit by digit. -/
theorem foldl_decimal (n : Nat) :
    (decimal n).foldl (fun (value : Nat) (digit : Byte) => 10 * value + (digit.toNat - 48)) 0 =
      n := by
  unfold decimal
  split
  · rename_i hzero
    rw [hzero]
    rfl
  · rw [foldl_digitChar fun digit hdigit => Nat.digits_lt_base (by decide) hdigit,
      Nat.ofDigits_digits]

/-- Numbers that fit an `int` are read back. -/
theorem atoi_decimal {n : Nat} (hn : n < 2 ^ 31) : atoi (decimal n) = n := by
  have hdigits : ∀ char ∈ decimal n, isSpace char = false ∧ isDigit char = true ∧
      char ≠ 45#8 ∧ char ≠ 43#8 := by
    intro char hmem
    obtain ⟨digit, hdigit, rfl⟩ := mem_decimal hmem
    have hcheck : ∀ digit < 10, isSpace (digitChar digit) = false ∧
        isDigit (digitChar digit) = true ∧ digitChar digit ≠ 45#8 ∧ digitChar digit ≠ 43#8 := by
      decide
    exact hcheck digit hdigit
  obtain ⟨first, rest, hfirst⟩ := List.exists_cons_of_ne_nil (decimal_ne_nil n)
  have hhead := hdigits first (hfirst ▸ List.mem_cons_self)
  have hspaces : (decimal n).dropWhile isSpace = decimal n := by
    rw [hfirst, List.dropWhile_cons, hhead.1]
    rfl
  have hsigns : (decimal n).head? ≠ some 45#8 ∧ (decimal n).head? ≠ some 43#8 := by
    rw [hfirst]
    exact ⟨fun heq => hhead.2.2.1 (Option.some.inj heq), fun heq => hhead.2.2.2 (Option.some.inj heq)⟩
  have htake : (decimal n).takeWhile isDigit = decimal n :=
    List.takeWhile_eq_self_iff.mpr fun char hmem => (hdigits char hmem).2.1
  unfold atoi
  simp only [hspaces, hsigns.1, hsigns.2, decide_false, Bool.or_self, Bool.false_eq_true, if_false,
    htake, foldl_decimal]
  have hclamped : max (-2 ^ 63) (min (n : Int) (2 ^ 63 - 1)) = n := by omega
  rw [hclamped, BitVec.toInt_ofInt]
  exact Int.bmod_eq_of_le (by omega) (by omega)

end OpenHybrid

import Mathlib

/-!
# Byte memories

A pointer is modelled by the memory it points to: the byte at each offset, whether or not the
object behind the pointer reaches that far. Loads, copies and byte swaps are functions on such
memories, so reading past the end of what was received is an ordinary read of whatever lies there.
Fixed-width words are stored little-endian; network order is one `swapBytes` away.
-/

namespace ByteMemory

abbrev Byte := BitVec 8

/-- A fixed array of bytes, such as a C `char[n]`. -/
abbrev Bytes (n : Nat) := Fin n → Byte

/-- Memory seen from a pointer: the byte at each offset. -/
abbrev Memory := Nat → Byte

namespace Memory

def shift (memory : Memory) (offset : Nat) : Memory := fun i => memory (offset + i)

def read (memory : Memory) (length : Nat) : List Byte := (List.range length).map memory

def write (memory : Memory) (offset : Nat) (bytes : List Byte) : Memory := fun i =>
  if offset ≤ i then bytes.getD (i - offset) (memory i) else memory i

def AgreeBelow (length : Nat) (left right : Memory) : Prop := ∀ i < length, left i = right i

@[simp]
theorem shift_apply (memory : Memory) (offset i : Nat) :
    memory.shift offset i = memory (offset + i) := rfl

@[simp]
theorem shift_zero (memory : Memory) : memory.shift 0 = memory := by
  funext i
  simp

@[simp]
theorem shift_shift (memory : Memory) (first second : Nat) :
    (memory.shift first).shift second = memory.shift (first + second) := by
  funext i
  simp [Nat.add_assoc]

@[simp]
theorem read_length (memory : Memory) (length : Nat) : (memory.read length).length = length := by
  simp [read]

theorem read_succ (memory : Memory) (length : Nat) :
    memory.read (length + 1) = memory 0 :: (memory.shift 1).read length := by
  simp only [read, List.range_succ_eq_map, List.map_cons, List.map_map]
  congr 1
  refine List.map_congr_left fun i _ => ?_
  simp [Nat.add_comm]

theorem getElem?_read (memory : Memory) (length i : Nat) :
    (memory.read length)[i]? = if i < length then some (memory i) else none := by
  by_cases hi : i < length
  · simp [read, hi]
  · rw [if_neg hi, List.getElem?_eq_none (by simpa using hi)]

theorem take_read (memory : Memory) {short long : Nat} (hle : short ≤ long) :
    (memory.read long).take short = memory.read short := by
  rw [read, ← List.map_take, List.take_range, Nat.min_eq_left hle, read]

theorem drop_read (memory : Memory) (before after : Nat) :
    (memory.read (before + after)).drop before = (memory.shift before).read after := by
  refine List.ext_getElem (by simp) fun i hleft hright => ?_
  simp [read]

theorem read_congr {left right : Memory} {length : Nat} (hagree : AgreeBelow length left right) :
    left.read length = right.read length :=
  List.map_congr_left fun i hi => hagree i (List.mem_range.mp hi)

theorem agreeBelow_of_read_eq {left right : Memory} {length : Nat}
    (hread : left.read length = right.read length) : AgreeBelow length left right := by
  intro i hi
  have hbyte : (left.read length)[i]? = (right.read length)[i]? := by rw [hread]
  rw [getElem?_read, getElem?_read, if_pos hi, if_pos hi] at hbyte
  exact Option.some.inj hbyte

theorem AgreeBelow.mono {left right : Memory} {short long : Nat} (hle : short ≤ long)
    (hagree : AgreeBelow long left right) : AgreeBelow short left right :=
  fun i hi => hagree i (Nat.lt_of_lt_of_le hi hle)

theorem AgreeBelow.shift {left right : Memory} {length offset : Nat}
    (hagree : AgreeBelow (offset + length) left right) :
    AgreeBelow length (left.shift offset) (right.shift offset) :=
  fun i hi => hagree (offset + i) (by omega)

theorem write_of_mem (memory : Memory) (offset : Nat) {bytes : List Byte} {i : Nat}
    (hi : i < bytes.length) : memory.write offset bytes (offset + i) = bytes[i] := by
  simp [write, hi]

/-- What was written is what is read back, whatever follows it. -/
theorem read_write_append (memory : Memory) (bytes rest : List Byte) :
    (memory.write 0 (bytes ++ rest)).read bytes.length = bytes := by
  refine List.ext_getElem (by simp) fun i hleft hright => ?_
  simp only [read, List.getElem_map, List.getElem_range]
  have hlength : i < (bytes ++ rest).length := by
    rw [List.length_append]
    omega
  have hbyte := memory.write_of_mem 0 hlength
  rw [Nat.zero_add, List.getElem_append_left hright] at hbyte
  exact hbyte

theorem read_write (memory : Memory) (bytes : List Byte) :
    (memory.write 0 bytes).read bytes.length = bytes := by
  simpa using memory.read_write_append bytes []

/-- Past a prefix, the memory holds what was written behind it. -/
theorem shift_write_append (memory : Memory) (before after : List Byte) :
    (memory.write 0 (before ++ after)).shift before.length =
      (memory.shift before.length).write 0 after := by
  funext i
  simp [write, List.getElem?_append_right]

end Memory

/-! ### Words -/

/-- The word stored little-endian at the start of a memory. -/
def load (width : Nat) (memory : Memory) : BitVec width :=
  BitVec.ofFnLE fun bit : Fin width => (memory (bit.val / 8)).getLsbD (bit.val % 8)

def byteOf {width : Nat} (word : BitVec width) (i : Nat) : Byte := word.extractLsb' (8 * i) 8

def storeList {width : Nat} (word : BitVec width) : List Byte :=
  (List.range (width / 8)).map (byteOf word)

/-- Reversing the bytes of a word: the conversion between host order and network order. -/
def swapBytes {width : Nat} (word : BitVec width) : BitVec width :=
  load width fun i => byteOf word (width / 8 - 1 - i)

theorem getLsbD_load {width : Nat} (memory : Memory) {bit : Nat} (hbit : bit < width) :
    (load width memory).getLsbD bit = (memory (bit / 8)).getLsbD (bit % 8) := by
  simp [load, hbit]

theorem getLsbD_byteOf {width : Nat} (word : BitVec width) (i : Nat) {bit : Nat} (hbit : bit < 8) :
    (byteOf word i).getLsbD bit = word.getLsbD (8 * i + bit) := by
  simp [byteOf, hbit]

theorem byteOf_load {width : Nat} (memory : Memory) {i : Nat} (hi : 8 * i + 8 ≤ width) :
    byteOf (load width memory) i = memory i := by
  apply BitVec.eq_of_getLsbD_eq
  intro bit hbit
  rw [getLsbD_byteOf _ _ hbit, getLsbD_load _ (by omega)]
  congr 1 <;> [congr 1; skip] <;> omega

@[simp]
theorem load_byteOf {width : Nat} (word : BitVec width) : load width (byteOf word) = word := by
  apply BitVec.eq_of_getLsbD_eq
  intro bit hbit
  rw [getLsbD_load _ hbit, getLsbD_byteOf _ _ (Nat.mod_lt _ (by decide)), Nat.div_add_mod]

theorem load_congr {width : Nat} {left right : Memory}
    (hagree : ∀ i, 8 * i < width → left i = right i) : load width left = load width right := by
  apply BitVec.eq_of_getLsbD_eq
  intro bit hbit
  rw [getLsbD_load _ hbit, getLsbD_load _ hbit, hagree (bit / 8) (by omega)]

/-- A word determines the bytes it was loaded from. -/
theorem eq_of_load_eq {width : Nat} {left right : Memory}
    (hload : load width left = load width right) {i : Nat} (hi : 8 * i + 8 ≤ width) :
    left i = right i := by
  rw [← byteOf_load left hi, ← byteOf_load right hi, hload]

@[simp]
theorem storeList_length {width : Nat} (word : BitVec width) :
    (storeList word).length = width / 8 := by
  simp [storeList]

/-- What is stored at the start of a memory is loaded back. -/
theorem load_write_storeList {width : Nat} (hwidth : 8 ∣ width) (memory : Memory)
    (word : BitVec width) (rest : List Byte) :
    load width (memory.write 0 (storeList word ++ rest)) = word := by
  obtain ⟨count, rfl⟩ := hwidth
  conv_rhs => rw [← load_byteOf word]
  refine load_congr fun i hi => ?_
  have hlength : i < (storeList word).length := by
    rw [storeList_length]
    omega
  have htotal : i < (storeList word ++ rest).length := by
    rw [List.length_append]
    omega
  have hbyte := memory.write_of_mem 0 htotal
  rw [Nat.zero_add, List.getElem_append_left hlength] at hbyte
  rw [hbyte]
  simp [storeList]

theorem byteOf_swapBytes {width : Nat} (word : BitVec width) {i : Nat} (hi : 8 * i + 8 ≤ width) :
    byteOf (swapBytes word) i = byteOf word (width / 8 - 1 - i) := byteOf_load _ hi

theorem swapBytes_swapBytes {width : Nat} (hwidth : 8 ∣ width) (word : BitVec width) :
    swapBytes (swapBytes word) = word := by
  obtain ⟨count, rfl⟩ := hwidth
  conv_rhs => rw [← load_byteOf word]
  refine load_congr fun i hi => ?_
  rw [byteOf_swapBytes _ (by omega)]
  congr 1
  omega

/-! ### Words as numbers -/

/-- The number that a list of bytes stands for in network order. -/
def bigEndian (bytes : List Byte) : Nat := Nat.ofDigits 256 (bytes.reverse.map BitVec.toNat)

theorem bigEndian_lt (bytes : List Byte) : bigEndian bytes < 256 ^ bytes.length := by
  have hdigits : ∀ digit ∈ bytes.reverse.map BitVec.toNat, digit < 256 := by
    intro digit hmem
    obtain ⟨byte, -, rfl⟩ := List.mem_map.mp hmem
    exact byte.isLt
  have hlt := Nat.ofDigits_lt_base_pow_length (by decide) hdigits
  rwa [List.length_map, List.length_reverse] at hlt

theorem ofDigits_ne_zero {digits : List Nat} {digit : Nat} (hmem : digit ∈ digits)
    (hdigit : digit ≠ 0) : Nat.ofDigits 256 digits ≠ 0 := by
  induction digits with
  | nil => exact absurd hmem List.not_mem_nil
  | cons first rest ih =>
      rw [Nat.ofDigits_cons]
      rcases List.mem_cons.mp hmem with rfl | hmem
      · omega
      · have hrest := ih hmem
        omega

theorem bigEndian_ne_zero {bytes : List Byte} {byte : Byte} (hmem : byte ∈ bytes)
    (hbyte : byte ≠ 0) : bigEndian bytes ≠ 0 := by
  refine ofDigits_ne_zero (List.mem_map.mpr ⟨byte, List.mem_reverse.mpr hmem, rfl⟩) fun hzero => ?_
  exact hbyte (BitVec.eq_of_toNat_eq hzero)

theorem testBit_ofDigits (count : Nat) : ∀ (memory : Memory) (bit : Nat),
    (Nat.ofDigits 256 ((memory.read count).map BitVec.toNat)).testBit bit =
      (decide (bit < 8 * count) && (memory (bit / 8)).getLsbD (bit % 8)) := by
  induction count with
  | zero => intro memory bit; simp [Memory.read]
  | succ count ih =>
      intro memory bit
      rw [Memory.read_succ, List.map_cons, Nat.ofDigits_cons, Nat.add_comm,
        show (256 : Nat) = 2 ^ 8 from rfl, Nat.testBit_two_pow_mul_add _ (memory 0).isLt]
      by_cases hfirst : bit < 8
      · have hdiv : bit / 8 = 0 := by omega
        have hmod : bit % 8 = bit := by omega
        rw [if_pos hfirst, hdiv, hmod, decide_eq_true (by omega), Bool.true_and]
        rfl
      · have hdiv : bit / 8 = 1 + (bit - 8) / 8 := by omega
        have hmod : bit % 8 = (bit - 8) % 8 := by omega
        have hrange : bit < 8 * (count + 1) ↔ bit - 8 < 8 * count := by omega
        rw [if_neg hfirst, show (2 : Nat) ^ 8 = 256 from rfl, ih, hdiv, hmod, Memory.shift_apply,
          decide_eq_decide.mpr hrange]

/-- A word is the little-endian number of its bytes. -/
theorem toNat_load {width : Nat} (hwidth : 8 ∣ width) (memory : Memory) :
    (load width memory).toNat =
      Nat.ofDigits 256 ((memory.read (width / 8)).map BitVec.toNat) := by
  obtain ⟨count, rfl⟩ := hwidth
  rw [Nat.mul_div_cancel_left count (by decide)]
  refine Nat.eq_of_testBit_eq fun bit => ?_
  rw [testBit_ofDigits, BitVec.testBit_toNat]
  by_cases hbit : bit < 8 * count
  · rw [getLsbD_load memory hbit, decide_eq_true hbit, Bool.true_and]
  · rw [BitVec.getLsbD_of_ge _ _ (by omega), decide_eq_false hbit, Bool.false_and]

/-- Read in network order, it is the big-endian number. -/
theorem toNat_swapBytes_load {width : Nat} (hwidth : 8 ∣ width) (memory : Memory) :
    (swapBytes (load width memory)).toNat = bigEndian (memory.read (width / 8)) := by
  rw [swapBytes, toNat_load hwidth, bigEndian]
  congr 2
  obtain ⟨count, rfl⟩ := hwidth
  rw [Nat.mul_div_cancel_left count (by decide)]
  refine List.ext_getElem (by simp) fun i hleft _ => ?_
  have hi : i < count := by simpa using hleft
  rw [List.getElem_reverse]
  simp only [Memory.read, List.getElem_map, List.getElem_range, List.length_map, List.length_range]
  exact byteOf_load memory (by omega)

theorem bigEndian_read_succ (memory : Memory) (length : Nat) :
    bigEndian (memory.read (length + 1)) =
      256 * bigEndian (memory.read length) + (memory length).toNat := by
  rw [bigEndian, bigEndian, Memory.read, List.range_succ, List.map_append, List.reverse_append]
  simp only [List.map_cons, List.map_nil, List.reverse_singleton, List.singleton_append,
    Nat.ofDigits_cons, Memory.read]
  rw [Nat.add_comm]

end ByteMemory

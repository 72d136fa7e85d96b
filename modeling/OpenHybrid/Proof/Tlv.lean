import OpenHybrid.Lib.PrefixCode
import OpenHybrid.Proof.Attributes

/-!
# What the attribute loop reads

An attribute on the wire is a byte for the id, two bytes for a length in network order, and that
many bytes of value. From whatever bytes it is given the loop takes the longest beginning that is a
sequence of such attributes.
-/

namespace OpenHybrid

open ByteMemory PrefixCode

/-- A well-formed attribute: as many bytes of value as the two length bytes say. -/
structure Tlv where
  id : Byte
  high : Byte
  low : Byte
  value : List Byte
  length_value : value.length = bigEndian [high, low]

namespace Tlv

def bytes (tlv : Tlv) : List Byte :=
  tlv.id :: tlv.high :: tlv.low :: tlv.value

theorem length_bytes (tlv : Tlv) :
    tlv.bytes.length = 3 + tlv.value.length := by
  unfold bytes
  rw [List.length_cons, List.length_cons, List.length_cons]
  omega

/-- The first three bytes say where an attribute ends. -/
theorem prefixfree : Prefixfree bytes := by
  intro first second hprefix
  obtain ⟨id, high, low, value, hvalue⟩ := first
  obtain ⟨id', high', low', value', hvalue'⟩ := second
  unfold bytes at hprefix
  obtain ⟨rfl, hprefix⟩ := List.cons_prefix_cons.mp hprefix
  obtain ⟨rfl, hprefix⟩ := List.cons_prefix_cons.mp hprefix
  obtain ⟨rfl, hprefix⟩ := List.cons_prefix_cons.mp hprefix
  obtain rfl : value = value' := hprefix.eq_of_length (hvalue.trans hvalue'.symm)
  rfl

end Tlv

variable {memory : Memory} {buffer start : Nat} {size : Int} {attr : Grecpattr}
  {tlv : Tlv} {sequence : List Tlv} {attrs : List Grecpattr}

def givenBytes (memory : Memory) (buffer : Nat) (size : Int) : List Byte :=
  (memory.shift buffer).read size.toNat

theorem givenBytes_length (memory : Memory) (buffer : Nat) (size : Int) :
    (givenBytes memory buffer size).length = size.toNat := Memory.read_length _ _

structure Grecpattr.Views (memory : Memory) (start : Nat) (attr : Grecpattr)
    (tlv : Tlv) : Prop where
  id : attr.id = tlv.id
  length : attr.length.toNat = tlv.value.length
  value : attr.value = start + 3
  bytes : (memory.shift start).read tlv.bytes.length = tlv.bytes

/-- Views of a sequence of attributes: each starts where the one before it ended. -/
inductive Contiguous (memory : Memory) : Nat → List Grecpattr → List Tlv → Prop
  | nil (start : Nat) : Contiguous memory start [] []
  | cons {start : Nat} {attr : Grecpattr} {tlv : Tlv} {attrs : List Grecpattr}
      {sequence : List Tlv} (hview : attr.Views memory start tlv)
      (hrest : Contiguous memory (attr.value + attr.length.toNat) attrs sequence) :
      Contiguous memory start (attr :: attrs) (tlv :: sequence)

/-! ### One attribute -/

theorem read_header (memory : Memory) (start length : Nat) :
    (memory.shift start).read (3 + length) =
      memory start :: memory (start + 1) :: memory (start + 2) ::
        (memory.shift (start + 3)).read length := by
  rw [show 3 + length = length + 1 + 1 + 1 by omega, Memory.read_succ, Memory.read_succ,
    Memory.read_succ]
  simp only [Memory.shift_shift, Memory.shift_apply, Nat.add_zero]

theorem Grecpattr.Views.read_value (hview : attr.Views memory start tlv) :
    (memory.shift attr.value).read attr.length.toNat = tlv.value := by
  have hbytes := hview.bytes
  rw [tlv.length_bytes, read_header, Tlv.bytes] at hbytes
  rw [hview.value, hview.length]
  injection hbytes with _ hbytes
  injection hbytes with _ hbytes
  injection hbytes

theorem toNat_attrLength (memory : Memory) (start : Nat) :
    (ntohs (load 16 (memory.shift (start + 1)))).toNat =
      bigEndian [memory (start + 1), memory (start + 2)] := by
  calc (ntohs (load 16 (memory.shift (start + 1)))).toNat
      _ = bigEndian ((memory.shift (start + 1)).read (16 / 8)) :=
        toNat_swapBytes_load (by decide) _
      _ = bigEndian [memory (start + 1), memory (start + 2)] := rfl

/-- A successful read views an attribute of the given bytes. -/
theorem readGrecpattribute_views {bytesRead : Nat}
    (hread : readGrecpattribute memory buffer size = some (bytesRead, attr)) :
    ∃ tlv : Tlv, attr.Views memory buffer tlv ∧
      tlv.bytes.length = bytesRead := by
  obtain ⟨hvalue, hbytes, -⟩ := readGrecpattribute_some hread
  have hattr : attr = ⟨memory buffer, ntohs (load 16 (memory.shift (buffer + 1))), buffer + 3⟩ := by
    unfold readGrecpattribute at hread
    split_ifs at hread
    dsimp only at hread
    split_ifs at hread
    rw [Option.some.injEq, Prod.mk.injEq] at hread
    exact hread.2.symm
  have hlength : attr.length.toNat = bigEndian [memory (buffer + 1), memory (buffer + 2)] := by
    rw [hattr]
    exact toNat_attrLength memory buffer
  let tlv : Tlv :=
    { id := memory buffer
      high := memory (buffer + 1)
      low := memory (buffer + 2)
      value := (memory.shift (buffer + 3)).read attr.length.toNat
      length_value := (Memory.read_length _ _).trans hlength }
  have hroom : tlv.bytes.length = 3 + attr.length.toNat := by
    rw [tlv.length_bytes, Memory.read_length]
  refine ⟨tlv, ⟨?_, (Memory.read_length _ _).symm, hvalue, ?_⟩, hroom.trans hbytes.symm⟩
  · rw [hattr]
  · rw [hroom, read_header]
    rfl

/-- Where nothing can be read, the given bytes start with no attribute. -/
theorem not_prefix_of_read_none (hread : readGrecpattribute memory buffer size = none)
    (tlv : Tlv) : ¬ tlv.bytes <+: givenBytes memory buffer size := by
  intro hprefix
  have hroom : 3 + tlv.value.length ≤ size.toNat := by
    calc 3 + tlv.value.length
        _ = tlv.bytes.length := tlv.length_bytes.symm
        _ ≤ (givenBytes memory buffer size).length := hprefix.length_le
        _ = size.toNat := givenBytes_length memory buffer size
  have hheader : givenBytes memory buffer size =
      memory buffer :: memory (buffer + 1) :: memory (buffer + 2) ::
        (memory.shift (buffer + 3)).read (size.toNat - 3) := by
    rw [← read_header, givenBytes]
    congr 1
    omega
  obtain ⟨id, high, low, value, hvalue⟩ := tlv
  rw [hheader, Tlv.bytes] at hprefix
  obtain ⟨-, hprefix⟩ := List.cons_prefix_cons.mp hprefix
  obtain ⟨rfl, hprefix⟩ := List.cons_prefix_cons.mp hprefix
  obtain ⟨rfl, -⟩ := List.cons_prefix_cons.mp hprefix
  have hlength := toNat_attrLength memory buffer
  unfold readGrecpattribute at hread
  split_ifs at hread with hnothing hshort
  · omega
  · omega
  · dsimp only at hread hroom
    split_ifs at hread with hlong
    omega

/-- Behind the attribute that was read lie the bytes that are left. -/
theorem givenBytes_eq (hview : attr.Views memory buffer tlv)
    (hroom : (tlv.bytes.length : Int) ≤ size) :
    givenBytes memory buffer size = tlv.bytes ++
      givenBytes memory (buffer + tlv.bytes.length) (size - tlv.bytes.length) := by
  have hsize : size.toNat =
      tlv.bytes.length + (size - tlv.bytes.length).toNat := by omega
  unfold givenBytes
  rw [hsize, ← List.take_append_drop tlv.bytes.length ((memory.shift buffer).read _),
    Memory.take_read _ (Nat.le_add_right _ _), hview.bytes, Memory.drop_read, Memory.shift_shift]

/-! ### The loop -/

/-- The loop stops in front of something that is not an attribute, and views all before it. -/
theorem attributeLoop_views (memory : Memory) (fuel : Nat) :
    ∀ (buffer : Nat) {size : Int}, size.toNat ≤ fuel →
      ∃ sequence : List Tlv,
        Contiguous memory buffer (attributeLoop memory fuel buffer size).1 sequence ∧
          (attributeLoop memory fuel buffer size).2 =
            size - (sequence.flatMap Tlv.bytes).length ∧
          givenBytes memory buffer size = sequence.flatMap Tlv.bytes ++
            givenBytes memory (buffer + (sequence.flatMap Tlv.bytes).length)
              (attributeLoop memory fuel buffer size).2 ∧
          readGrecpattribute memory (buffer + (sequence.flatMap Tlv.bytes).length)
            (attributeLoop memory fuel buffer size).2 = none := by
  induction fuel with
  | zero =>
      intro buffer size hfuel
      have hnone : readGrecpattribute memory buffer size = none := by
        unfold readGrecpattribute
        rw [if_pos (by omega)]
      exact ⟨[], .nil buffer, by simp [attributeLoop], by simp [attributeLoop], hnone⟩
  | succ fuel ih =>
      intro buffer size hfuel
      rw [attributeLoop]
      cases hread : readGrecpattribute memory buffer size with
      | none => exact ⟨[], .nil buffer, by simp, by simp, hread⟩
      | some result =>
          obtain ⟨bytesRead, attr⟩ := result
          obtain ⟨hvalue, hbytes, hsize⟩ := readGrecpattribute_some hread
          obtain ⟨tlv, hview, rfl⟩ := readGrecpattribute_views hread
          -- an attribute takes at least three bytes, so a round less is enough for what is left
          have hfewer : (size - tlv.bytes.length).toNat ≤ fuel := by omega
          obtain ⟨sequence, hcontiguous, hrest, hgiven, hnone⟩ :=
            ih (buffer + tlv.bytes.length) hfewer
          have hend : attr.value + attr.length.toNat = buffer + tlv.bytes.length := by omega
          have htotal : ((tlv :: sequence).flatMap Tlv.bytes).length =
              tlv.bytes.length + (sequence.flatMap Tlv.bytes).length := by
            rw [List.flatMap_cons, List.length_append]
          refine ⟨tlv :: sequence, .cons hview (hend ▸ hcontiguous), ?_, ?_, ?_⟩
          · dsimp only
            rw [hrest, htotal]
            push_cast
            ring
          · rw [givenBytes_eq hview hsize, hgiven, htotal, List.flatMap_cons, List.append_assoc,
              Nat.add_assoc]
          · rw [htotal, ← Nat.add_assoc]
            exact hnone

/-- What the loop views is the longest beginning. -/
theorem attributes_views (memory : Memory) (buffer : Nat) (size : Int) :
    ∃ sequence : List Tlv, Contiguous memory buffer (attributes memory buffer size) sequence ∧
      Longest Tlv.bytes (givenBytes memory buffer size) sequence := by
  obtain ⟨sequence, hviews, -, hgiven, hnone⟩ :=
    attributeLoop_views memory size.toNat buffer (le_refl size.toNat)
  refine ⟨sequence, hviews, ?_⟩
  rw [hgiven]
  exact Tlv.prefixfree.longest_of_stuck (not_prefix_of_read_none hnone)

/-- More rounds than there are bytes make no difference. -/
theorem attributeLoop_enough (fuel : Nat) :
    ∀ {more buffer : Nat} {size : Int}, size.toNat ≤ fuel → size.toNat ≤ more →
      attributeLoop memory fuel buffer size = attributeLoop memory more buffer size := by
  have hnothing {more buffer : Nat} {size : Int} (hsize : size ≤ 0) :
      attributeLoop memory more buffer size = ([], size) := by
    cases more with
    | zero => rfl
    | succ more => rw [attributeLoop, readGrecpattribute, if_pos hsize]
  induction fuel with
  | zero =>
      intro more buffer size hfuel _
      rw [hnothing (by omega), hnothing (by omega)]
  | succ fuel ih =>
      intro more buffer size hfuel hmore
      cases more with
      | zero => rw [hnothing (by omega), hnothing (by omega)]
      | succ more =>
          rw [attributeLoop, attributeLoop]
          cases hread : readGrecpattribute memory buffer size with
          | none => rfl
          | some result =>
              obtain ⟨bytesRead, attr⟩ := result
              obtain ⟨_, hbytes, hsize⟩ := readGrecpattribute_some hread
              have hrest : attributeLoop memory fuel (buffer + bytesRead) (size - bytesRead) =
                  attributeLoop memory more (buffer + bytesRead) (size - bytesRead) :=
                ih (by omega) (by omega)
              simp only [hrest]

/-- The loop ends by its own condition, after no more rounds than there are bytes. What it yields
lies inside the given bytes, each attribute behind the one before it, and is the longest beginning
that is a sequence of well-formed attributes. Nothing is left over exactly if all the bytes are
such a sequence. -/
theorem attributeLoop_longest (memory : Memory) (buffer : Nat) (size : Int) :
    ∃ (attrs : List Grecpattr) (sequence : List Tlv) (left : Int),
      (∀ fuel, size.toNat ≤ fuel → attributeLoop memory fuel buffer size = (attrs, left)) ∧
      left = size - (sequence.flatMap Tlv.bytes).length ∧
      readGrecpattribute memory (buffer + (sequence.flatMap Tlv.bytes).length) left = none ∧
      InOrder buffer (buffer + size) attrs ∧
      Contiguous memory buffer attrs sequence ∧
      Longest Tlv.bytes (givenBytes memory buffer size) sequence ∧
      (left ≤ 0 ↔ ∃ whole : List Tlv, whole.flatMap Tlv.bytes = givenBytes memory buffer size) := by
  obtain ⟨sequence, hcontiguous, hleft, hgiven, hnone⟩ :=
    attributeLoop_views memory size.toNat buffer (le_refl size.toNat)
  have hlongest : Longest Tlv.bytes (givenBytes memory buffer size) sequence := by
    rw [hgiven]
    exact Tlv.prefixfree.longest_of_stuck (not_prefix_of_read_none hnone)
  refine ⟨_, sequence, _, fun fuel hfuel => ?_, hleft, hnone, attributes_inOrder memory buffer size,
    hcontiguous, hlongest, ?_⟩
  · exact attributeLoop_enough fuel hfuel (le_refl size.toNat)
  · rw [← hlongest.length_eq_iff, givenBytes_length, hleft]
    have hfits : (sequence.flatMap Tlv.bytes).length ≤ size.toNat := by
      rw [← givenBytes_length memory buffer size]
      exact hlongest.is_prefix.length_le
    omega

end OpenHybrid

import OpenHybrid.Handlers

/-!
# The attribute loop

Where the attributes of an area lie, and which bytes the loop looks at to find them.
-/

namespace OpenHybrid

open ByteMemory

variable {memory other : Memory}

abbrev messageAttributes (memory : Memory) (size : Nat) : List Grecpattr :=
  attributes memory attributesOffset (size - attributesOffset)

def handleEmpty (msgtype : Msgtype) (tuntype : Byte) (now : Timeval) (runtime : Runtime) :
    Runtime :=
  match msgtype with
  | .accept => establish tuntype now runtime
  | .teardown => { runtime with lte.tunnelEstablished := false, dsl.tunnelEstablished := false }
  | .request | .deny | .hello | .notify => runtime

theorem readGrecpattribute_some {buffer bytesRead : Nat} {size : Int} {attr : Grecpattr}
    (hread : readGrecpattribute memory buffer size = some (bytesRead, attr)) :
    attr.value = buffer + 3 ∧ bytesRead = 3 + attr.length.toNat ∧ (bytesRead : Int) ≤ size := by
  rw [readGrecpattribute] at hread
  split_ifs at hread with hnothing hshort
  dsimp only at hread
  split_ifs at hread with hlong
  rw [Option.some.injEq, Prod.mk.injEq] at hread
  obtain ⟨rfl, rfl⟩ := hread
  exact ⟨rfl, rfl, by push_cast; omega⟩

theorem readGrecpattribute_congr {buffer : Nat} {size : Int}
    (hagree : ∀ i, buffer ≤ i → (i : Int) < buffer + size → memory i = other i) :
    readGrecpattribute memory buffer size = readGrecpattribute other buffer size := by
  by_cases hshort : size < 3
  · simp only [readGrecpattribute, if_pos hshort]
  · have hid : memory buffer = other buffer := hagree buffer (le_refl _) (by omega)
    have hlength : load 16 (memory.shift (buffer + 1)) = load 16 (other.shift (buffer + 1)) := by
      refine load_congr fun i hi => ?_
      exact hagree (buffer + 1 + i) (by omega) (by push_cast; omega)
    simp only [readGrecpattribute, hid, hlength]

/-- The loop looks at no byte outside the area. -/
theorem attributeLoop_congr (fuel : Nat) :
    ∀ {buffer : Nat} {size : Int},
      (∀ i, buffer ≤ i → (i : Int) < buffer + size → memory i = other i) →
      attributeLoop memory fuel buffer size = attributeLoop other fuel buffer size := by
  induction fuel with
  | zero => intro buffer size _; rfl
  | succ fuel ih =>
      intro buffer size hagree
      rw [attributeLoop, attributeLoop, ← readGrecpattribute_congr hagree]
      cases hread : readGrecpattribute memory buffer size with
      | none => rfl
      | some result =>
          obtain ⟨bytesRead, attr⟩ := result
          obtain ⟨_, _, hsize⟩ := readGrecpattribute_some hread
          have hrest : attributeLoop memory fuel (buffer + bytesRead) (size - bytesRead) =
              attributeLoop other fuel (buffer + bytesRead) (size - bytesRead) :=
            ih fun i hlow hhigh => hagree i (by omega) (by push_cast at hhigh; omega)
          simp only [hrest]

/-- Where the attributes of an area lie: inside it, one behind the other. -/
structure InOrder (low : Nat) (high : Int) (attrs : List Grecpattr) : Prop where
  above : ∀ attr ∈ attrs, low + 3 ≤ attr.value
  below : ∀ attr ∈ attrs, (attr.value + attr.length.toNat : Int) ≤ high
  sorted : attrs.Pairwise fun first second => first.value + first.length.toNat + 3 ≤ second.value

theorem attributeLoop_inOrder (fuel : Nat) :
    ∀ {buffer : Nat} {size : Int},
      InOrder buffer (buffer + size) (attributeLoop memory fuel buffer size).1 := by
  induction fuel with
  | zero => intro buffer size; exact ⟨by simp [attributeLoop], by simp [attributeLoop], .nil⟩
  | succ fuel ih =>
      intro buffer size
      rw [attributeLoop]
      cases hread : readGrecpattribute memory buffer size with
      | none => exact ⟨by simp, by simp, .nil⟩
      | some result =>
          obtain ⟨bytesRead, attr⟩ := result
          obtain ⟨hvalue, hbytes, hsize⟩ := readGrecpattribute_some hread
          have hrest : InOrder (buffer + bytesRead : Nat)
              ((buffer + bytesRead : Nat) + (size - bytesRead))
              (attributeLoop memory fuel (buffer + bytesRead) (size - bytesRead)).1 := ih
          obtain ⟨habove, hbelow, hsorted⟩ := hrest
          refine ⟨?_, ?_, ?_⟩
          · intro found hfound
            rcases List.mem_cons.mp hfound with rfl | hfound
            · omega
            · have hlow := habove found hfound
              omega
          · intro found hfound
            rcases List.mem_cons.mp hfound with rfl | hfound
            · push_cast at *
              omega
            · have hhigh := hbelow found hfound
              push_cast at hhigh
              omega
          · refine List.pairwise_cons.mpr ⟨fun found hfound => ?_, hsorted⟩
            have hlow := habove found hfound
            omega

/-- The attributes lie inside the area, one behind the other. -/
theorem attributes_inOrder (memory : Memory) (buffer : Nat) (size : Int) :
    InOrder buffer (buffer + size) (attributes memory buffer size) := attributeLoop_inOrder _

/-- Which attributes there are is decided by what was received. -/
theorem attributes_congr {received buffer : Nat} (hagree : Memory.AgreeBelow received memory other) :
    attributes memory buffer (received - buffer) = attributes other buffer (received - buffer) := by
  rw [attributes, attributes]
  rw [attributeLoop_congr _ fun i _ hhigh => hagree i (by omega)]

theorem attributes_of_nonpos {buffer : Nat} {size : Int} (hsize : size ≤ 0) :
    attributes memory buffer size = [] := by
  rw [attributes, Int.toNat_of_nonpos hsize]
  rfl

theorem exists_last {α : Type*} {l : List α} (kind : α → Prop) (hl : ∃ a ∈ l, kind a) :
    ∃ before a after, l = before ++ a :: after ∧ kind a ∧ ∀ later ∈ after, ¬ kind later := by
  induction l with
  | nil => simp at hl
  | cons head tail ih =>
      by_cases htail : ∃ a ∈ tail, kind a
      · obtain ⟨before, a, after, rfl, ha, hafter⟩ := ih htail
        exact ⟨head :: before, a, after, rfl, ha, hafter⟩
      · obtain ⟨a, hmem, ha⟩ := hl
        rcases List.mem_cons.mp hmem with rfl | hmem
        · exact ⟨[], a, tail, rfl, ha, fun later hlater hkind => htail ⟨later, hlater, hkind⟩⟩
        · exact absurd ⟨a, hmem, ha⟩ htail

end OpenHybrid

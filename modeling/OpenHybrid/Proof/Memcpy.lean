import OpenHybrid.Handlers

/-!
# Copies into the runtime struct

What a `memcpy` to a field of `runtime.haap` stores there, and what it stores behind the field when
it is too long.
-/

namespace OpenHybrid

open ByteMemory

/-! ### One field -/

def overlay {width : Nat} (word : BitVec width) (source : Memory) (length : Nat) : BitVec width :=
  load width fun i => if i < length then source i else byteOf word i

@[simp]
theorem overlay_zero {width : Nat} (word : BitVec width) (source : Memory) :
    overlay word source 0 = word := by
  simp [overlay]

/-- The bytes of the word are those that were copied, and behind them its own. -/
theorem byteOf_overlay {width : Nat} (word : BitVec width) (source : Memory) (length : Nat)
    {i : Nat} (hi : 8 * i + 8 ≤ width) :
    byteOf (overlay word source length) i = if i < length then source i else byteOf word i :=
  byteOf_load _ hi

theorem pokeWord_overlay {width : Nat} (hwidth : 8 ∣ width) (word : BitVec width)
    (source : Memory) (length : Nat) :
    pokeWord (overlay word source length) length (source length) =
      overlay word source (length + 1) := by
  obtain ⟨count, rfl⟩ := hwidth
  refine load_congr fun i hi => ?_
  rw [byteOf_overlay word source length (by omega)]
  rcases Nat.lt_trichotomy i length with hlt | rfl | hgt
  · rw [if_neg (by omega), if_pos hlt, if_pos (by omega)]
  · rw [if_pos rfl, if_pos (by omega)]
  · rw [if_neg (by omega), if_neg (by omega), if_neg (by omega)]

theorem overlay_four (word : BitVec 32) (source : Memory) : overlay word source 4 = load 32 source :=
  load_congr fun i hi => if_pos (by omega)

theorem byteOf_pokeWord {width : Nat} (word : BitVec width) (offset : Nat) (byte : Byte) {i : Nat}
    (hi : 8 * i + 8 ≤ width) :
    byteOf (pokeWord word offset byte) i = if i = offset then byte else byteOf word i :=
  byteOf_load _ hi

structure WordField where
  offset : Nat
  get : Haap → BitVec 32
  set : Haap → BitVec 32 → Haap
  inside : offset + 4 ≤ 56
  get_set : ∀ haap word, get (set haap word) = word
  set_set : ∀ haap first second, set (set haap first) second = set haap second
  set_get : ∀ haap, set haap (get haap) = haap
  poke_inside : ∀ haap i byte, i < 4 →
    haap.poke (offset + i) byte = set haap (pokeWord (get haap) i byte)
  poke_outside : ∀ (haap : Haap) position byte, position < offset ∨ offset + 4 ≤ position →
    position < 56 → get (haap.poke position byte) = get haap

def sessionIdField : WordField where
  offset := sessionIdOffset
  get := Haap.sessionId
  set haap word := { haap with sessionId := word }
  inside := by decide
  get_set _ _ := rfl
  set_set _ _ _ := rfl
  set_get _ := rfl
  poke_inside haap i byte hi := by
    rw [sessionIdOffset, Haap.poke, if_neg (by omega), if_neg (by omega), if_pos (by omega),
      Nat.add_sub_cancel_left]
  poke_outside haap position byte houtside hinside := by
    rw [sessionIdOffset] at houtside
    simp only [Haap.poke, apply_ite Haap.sessionId, ite_self]
    split_ifs <;> first | rfl | omega

def bondingKeyField : WordField where
  offset := bondingKeyOffset
  get := Haap.bondingKey
  set haap word := { haap with bondingKey := word }
  inside := by decide
  get_set _ _ := rfl
  set_set _ _ _ := rfl
  set_get _ := rfl
  poke_inside haap i byte hi := by
    rw [bondingKeyOffset, Haap.poke, if_neg (by omega), if_neg (by omega), if_neg (by omega),
      if_pos (by omega), Nat.add_sub_cancel_left]
  poke_outside haap position byte houtside hinside := by
    rw [bondingKeyOffset] at houtside
    simp only [Haap.poke, apply_ite Haap.bondingKey, ite_self]
    split_ifs <;> first | rfl | omega

def activeHelloIntervalField : WordField where
  offset := activeHelloIntervalOffset
  get := Haap.activeHelloInterval
  set haap word := { haap with activeHelloInterval := word }
  inside := by decide
  get_set _ _ := rfl
  set_set _ _ _ := rfl
  set_get _ := rfl
  poke_inside haap i byte hi := by
    rw [activeHelloIntervalOffset, Haap.poke, if_neg (by omega), if_neg (by omega),
      if_neg (by omega), if_neg (by omega), if_pos (by omega), Nat.add_sub_cancel_left]
  poke_outside haap position byte houtside hinside := by
    rw [activeHelloIntervalOffset] at houtside
    simp only [Haap.poke, apply_ite Haap.activeHelloInterval, ite_self]
    split_ifs <;> first | rfl | omega

def helloRetryTimesField : WordField where
  offset := helloRetryTimesOffset
  get := Haap.helloRetryTimes
  set haap word := { haap with helloRetryTimes := word }
  inside := by decide
  get_set _ _ := rfl
  set_set _ _ _ := rfl
  set_get _ := rfl
  poke_inside haap i byte hi := by
    rw [helloRetryTimesOffset, Haap.poke, if_neg (by omega), if_neg (by omega), if_neg (by omega),
      if_neg (by omega), if_neg (by omega), if_pos (by omega), Nat.add_sub_cancel_left]
  poke_outside haap position byte houtside hinside := by
    rw [helloRetryTimesOffset] at houtside
    simp only [Haap.poke, apply_ite Haap.helloRetryTimes, ite_self]
    split_ifs <;> first | rfl | omega

def commitCountField : WordField where
  offset := 48
  get := Haap.commitCount
  set haap word := { haap with commitCount := word }
  inside := by decide
  get_set _ _ := rfl
  set_set _ _ _ := rfl
  set_get _ := rfl
  poke_inside haap i byte hi := by
    rw [Haap.poke, if_neg (by omega), if_neg (by omega), if_neg (by omega), if_neg (by omega),
      if_neg (by omega), if_neg (by omega), if_pos (by omega), Nat.add_sub_cancel_left]
  poke_outside haap position byte houtside hinside := by
    simp only [Haap.poke, apply_ite Haap.commitCount]
    split_ifs <;> first | rfl | omega

def bypassBandwidthCheckIntervalField : WordField where
  offset := bypassBandwidthCheckIntervalOffset
  get := Haap.bypassBandwidthCheckInterval
  set haap word := { haap with bypassBandwidthCheckInterval := word }
  inside := by decide
  get_set _ _ := rfl
  set_set _ _ _ := rfl
  set_get _ := rfl
  poke_inside haap i byte hi := by
    rw [bypassBandwidthCheckIntervalOffset, Haap.poke, if_neg (by omega), if_neg (by omega),
      if_neg (by omega), if_neg (by omega), if_neg (by omega), if_neg (by omega), if_neg (by omega),
      Nat.add_sub_cancel_left]
  poke_outside haap position byte houtside hinside := by
    rw [bypassBandwidthCheckIntervalOffset] at houtside
    simp only [Haap.poke, apply_ite Haap.bypassBandwidthCheckInterval]
    split_ifs <;> first | rfl | omega

def WordField.update (field : WordField) (runtime : Runtime) (word : BitVec 32) : Runtime :=
  { runtime with haap := field.set runtime.haap word }

theorem poke_of_lt {runtime : Runtime} {offset : Nat} (hoffset : offset < 56) (byte : Byte) :
    runtime.poke offset byte = { runtime with haap := runtime.haap.poke offset byte } :=
  if_pos hoffset

/-- Up to four bytes stay in the field. -/
theorem WordField.memcpy (field : WordField) (runtime : Runtime) (source : Memory) :
    ∀ {length : Nat}, length ≤ 4 → runtime.memcpy field.offset source length =
      field.update runtime (overlay (field.get runtime.haap) source length) := by
  intro length
  induction length with
  | zero =>
      intro _
      rw [Runtime.memcpy, overlay_zero, WordField.update, field.set_get]
  | succ length ih =>
      intro hlength
      have hinside := field.inside
      rw [Runtime.memcpy, ih (by omega), poke_of_lt (by omega), WordField.update,
        field.poke_inside _ _ _ (by omega), field.get_set, field.set_set,
        pokeWord_overlay (by decide), WordField.update]

/-! ### An array -/

structure BytesField (size : Nat) where
  offset : Nat
  get : Runtime → Bytes size
  set : Runtime → Bytes size → Runtime
  get_set : ∀ runtime bytes, get (set runtime bytes) = bytes
  set_set : ∀ runtime first second, set (set runtime first) second = set runtime second
  set_get : ∀ runtime, set runtime (get runtime) = runtime
  poke_inside : ∀ runtime i byte, i < size →
    runtime.poke (offset + i) byte = set runtime (pokeBytes (get runtime) i byte)

def overlayBytes {size : Nat} (bytes : Bytes size) (source : Memory) (length : Nat) : Bytes size :=
  fun i => if i.val < length then source i else bytes i

theorem BytesField.memcpy {size : Nat} (field : BytesField size) (runtime : Runtime) (source : Memory) :
    ∀ {length : Nat}, length ≤ size → runtime.memcpy field.offset source length =
      field.set runtime (overlayBytes (field.get runtime) source length) := by
  intro length
  induction length with
  | zero =>
      intro _
      have hnone : overlayBytes (field.get runtime) source 0 = field.get runtime := by
        funext i
        exact if_neg (Nat.not_lt_zero _)
      rw [Runtime.memcpy, hnone, field.set_get]
  | succ length ih =>
      intro hlength
      have hpoke : pokeBytes (overlayBytes (field.get runtime) source length) length
          (source length) = overlayBytes (field.get runtime) source (length + 1) := by
        funext i
        unfold pokeBytes overlayBytes
        rcases Nat.lt_trichotomy i.val length with hlt | heq | hgt
        · rw [if_neg (by omega), if_pos hlt, if_pos (by omega)]
        · rw [if_pos heq, if_pos (by omega), heq]
        · rw [if_neg (by omega), if_neg (by omega), if_neg (by omega)]
      rw [Runtime.memcpy, ih (by omega), field.poke_inside _ _ _ (by omega), field.get_set,
        field.set_set, hpoke]

def haapIpField : BytesField 16 where
  offset := haapIpOffset
  get runtime := runtime.haap.ip
  set runtime ip := { runtime with haap.ip := ip }
  get_set _ _ := rfl
  set_set _ _ _ := rfl
  set_get _ := rfl
  poke_inside runtime i byte hi := by
    rw [haapIpOffset, poke_of_lt (by omega), Haap.poke, if_neg (by omega), if_pos (by omega),
      Nat.add_sub_cancel_left]

theorem memcpy_haapIp (runtime : Runtime) (source : Memory) {length : Nat} (hlength : length ≤ 16) :
    runtime.memcpy haapIpOffset source length =
      { runtime with
        haap.ip := fun i => if i.val < length then source i else runtime.haap.ip i } :=
  haapIpField.memcpy runtime source hlength

/-! ### Behind the field -/

/-- What `cell` sees of `runtime` is made of the byte at `position` and nothing else. -/
def SeesByte {α : Type*} (cell : Runtime → α) (made : Byte → α) (position : Nat) : Prop :=
  ∀ (runtime : Runtime) (offset : Nat) (byte : Byte),
    cell (runtime.poke offset byte) = if offset = position then made byte else cell runtime

/-- A copy across the byte stores it, however long it runs on. -/
theorem SeesByte.memcpy {α : Type*} {cell : Runtime → α} {made : Byte → α} {position : Nat}
    (hcell : SeesByte cell made position) (runtime : Runtime) {offset : Nat} (source : Memory)
    (hoffset : offset ≤ position) (length : Nat) :
    cell (runtime.memcpy offset source length) =
      if position < offset + length then made (source (position - offset)) else cell runtime := by
  induction length with
  | zero => rw [Runtime.memcpy, if_neg (by omega)]
  | succ length ih =>
      rw [Runtime.memcpy, hcell, ih]
      rcases Nat.lt_trichotomy position (offset + length) with hlt | rfl | hgt
      · rw [if_neg (by omega), if_pos hlt, if_pos (by omega)]
      · rw [if_pos rfl, if_pos (by omega), Nat.add_sub_cancel_left]
      · rw [if_neg (by omega), if_neg (by omega), if_neg (by omega)]

theorem haap_poke (runtime : Runtime) (offset : Nat) (byte : Byte) :
    (runtime.poke offset byte).haap =
      if offset < 56 then runtime.haap.poke offset byte else runtime.haap := by
  simp only [Runtime.poke, apply_ite Runtime.haap, ite_self]

theorem WordField.memcpy_outside (field : WordField) (runtime : Runtime) (source : Memory)
    {offset : Nat} :
    ∀ {length : Nat}, offset + length ≤ field.offset ∨ field.offset + 4 ≤ offset →
      field.get (runtime.memcpy offset source length).haap = field.get runtime.haap := by
  intro length
  induction length with
  | zero => intro _; rfl
  | succ length ih =>
      intro houtside
      rw [Runtime.memcpy, haap_poke]
      split
      · rename_i hinside
        rw [field.poke_outside _ _ _ (by omega) hinside, ih (by omega)]
      · exact ih (by omega)

theorem WordField.seesByte (field : WordField) {i : Nat} (hi : i < 4) :
    SeesByte (fun runtime => byteOf (field.get runtime.haap) i) id (field.offset + i) := by
  intro runtime offset byte
  have hinside := field.inside
  dsimp only
  rw [haap_poke]
  by_cases hoffset : offset < 56
  · rw [if_pos hoffset]
    by_cases hfield : field.offset ≤ offset ∧ offset < field.offset + 4
    · obtain ⟨j, rfl⟩ : ∃ j, offset = field.offset + j := ⟨offset - field.offset, by omega⟩
      rw [field.poke_inside _ _ _ (by omega), field.get_set, byteOf_pokeWord _ _ _ (by omega)]
      by_cases heq : i = j
      · rw [if_pos heq, if_pos (by omega), id]
      · rw [if_neg heq, if_neg (by omega)]
    · rw [field.poke_outside _ _ _ (by omega) hoffset, if_neg (by omega)]
  · rw [if_neg hoffset, if_neg (by omega)]

theorem seesByte_bonding : SeesByte Runtime.bonding pokeBool 56 := by
  intro runtime offset byte
  simp only [Runtime.poke, apply_ite Runtime.bonding, ite_self]
  split_ifs <;> first | omega | rfl

end OpenHybrid

import OpenHybrid.Proof.Attributes
import OpenHybrid.Proof.Memcpy

/-!
# Where attribute values land

What the attributes of an Accept, a Hello or a Notify are for: each has a target, which says which
lengths fit and what its own bytes assign. The handlers do the same for every attribute that fits,
and for next to none that does not: they copy as many bytes as the sender says, or as many as they
want, and never compare the two.
-/

namespace OpenHybrid

open ByteMemory

variable {memory : Memory} {attr : Grecpattr}

def Grecpattr.bytes (memory : Memory) (attr : Grecpattr) : List Byte :=
  (memory.shift attr.value).read attr.length.toNat

/-! ### Targets -/

structure Target where
  fits : Nat → Bool
  assign : List Byte → Runtime → Runtime

def wordOf (bytes : List Byte) : BitVec 32 := BitVec.ofNat 32 (bigEndian bytes)

def haapIpTarget : Target where
  fits length := length == 16
  assign bytes runtime := { runtime with haap.ip := fun i => bytes.getD i 0 }

def wordTarget (field : WordField) : Target where
  fits length := length == 4
  assign bytes runtime := field.update runtime (wordOf bytes)

def unsetTarget (field : WordField) : Target where
  fits length := length == 4
  assign bytes runtime :=
    if field.get runtime.haap = 0 then field.update runtime (wordOf bytes) else runtime

def acceptTarget (id : Byte) : Option Target :=
  if id = msgattrHIpv6Address then some haapIpTarget
  else if id = msgattrSessionId then some (wordTarget sessionIdField)
  else if id = msgattrActiveHelloInterval then some (unsetTarget activeHelloIntervalField)
  else if id = msgattrHelloRetryTimes then some (unsetTarget helloRetryTimesField)
  else if id = msgattrBondingKeyValue then some (wordTarget bondingKeyField)
  else if id = msgattrBypassBandwidthCheckInterval then
    some (wordTarget bypassBandwidthCheckIntervalField)
  else none

def timestampTarget (tuntype : Byte) (now : Timeval) : Target where
  fits length := length == 8
  assign bytes runtime :=
    let sent : Timeval :=
      ⟨(wordOf (bytes.take 4)).toNat, (wordOf (bytes.drop 4) * 1000).toNat⟩
    if tuntype = grecpTuntypeLte then
      { runtime with
        lte.roundTripTime := timersub now sent
        lte.lastHelloReceived := sent.tvSec
        lte.missedHellos := 0 }
    else
      { runtime with
        dsl.roundTripTime := timersub now sent
        dsl.lastHelloReceived := sent.tvSec
        dsl.missedHellos := 0 }

def filterListTarget : Target where
  fits length := 4 ≤ length
  assign bytes runtime :=
    { runtime with haap.commitCount := wordOf (bytes.take 4), filterListAcked := false }

def verificationTarget : Target where
  fits _ := true
  assign _ runtime := { runtime with lte.tunnelVerificationRequired := true }

def target (msgtype : Msgtype) (tuntype : Byte) (now : Timeval) (id : Byte) : Option Target :=
  match msgtype with
  | .accept => acceptTarget id
  | .hello => if id = msgattrTimestamp then some (timestampTarget tuntype now) else none
  | .notify =>
      if id = msgattrFilterListPackage then some filterListTarget
      else if id = msgattrTunnelVerification then some verificationTarget
      else none
  | .request | .deny | .teardown => none

/-- An attribute that fits makes the assignment of its target; any other makes none. -/
def assigned (target : Option Target) (memory : Memory) (attr : Grecpattr) (runtime : Runtime) :
    Runtime :=
  match target with
  | none => runtime
  | some target =>
      if target.fits attr.length.toNat then target.assign (attr.bytes memory) runtime else runtime

def attributeStep (memory : Memory) (msgtype : Msgtype) (tuntype : Byte) (now : Timeval)
    (runtime : Runtime) (attr : Grecpattr) : Runtime :=
  match msgtype with
  | .accept => acceptAttribute memory runtime attr
  | .hello => (helloAttribute memory tuntype (fun _ => now) (runtime, 0) attr).1
  | .notify => notifyAttribute memory runtime attr
  | .request | .deny | .teardown => runtime

/-- The length suits the field, or the misfit happens to change nothing. -/
def Fits (memory : Memory) (msgtype : Msgtype) (attr : Grecpattr) : Prop :=
  match msgtype with
  | .accept =>
      if attr.id = msgattrHIpv6Address then attr.length.toNat = 16 ∨ attr.length.toNat = 0
      else if attr.id = msgattrSessionId ∨ attr.id = msgattrBondingKeyValue ∨
          attr.id = msgattrBypassBandwidthCheckInterval then
        attr.length.toNat = 4
      else if attr.id = msgattrActiveHelloInterval ∨ attr.id = msgattrHelloRetryTimes then
        attr.length.toNat = 4 ∨
          attr.length.toNat < 4 ∧ ∀ i < attr.length.toNat, memory (attr.value + i) = 0
      else True
  | .hello => attr.id = msgattrTimestamp → attr.length.toNat = 8
  | .notify => attr.id = msgattrFilterListPackage → 4 ≤ attr.length.toNat
  | .request | .deny | .teardown => True

/-- Every attribute of the message does what its target says, and what no fitting attribute and not
the message itself is about stays as it is, whichever way one looks at the runtime. -/
structure LandsExactly (memory : Memory) (size : Nat) (msgtype : Msgtype) (tuntype : Byte) :
    Prop where
  each : ∀ attr ∈ messageAttributes memory size, ∀ now runtime,
    attributeStep memory msgtype tuntype now runtime attr =
      assigned (target msgtype tuntype now attr.id) memory attr runtime
  frame : ∀ {α : Type} (view : Runtime → α),
    (∀ attr ∈ messageAttributes memory size, ∀ now aim,
      target msgtype tuntype now attr.id = some aim → aim.fits attr.length.toNat = true →
        ∀ bytes runtime, view (aim.assign bytes runtime) = view runtime) →
    (∀ now runtime, view (handleEmpty msgtype tuntype now runtime) = view runtime) →
    ∀ uptime runtime,
      view (handleGrecpmessage memory msgtype tuntype attributesOffset (size - attributesOffset)
        uptime runtime) = view runtime

/-! ### Copies into a word -/

/-- `memcpy` into the field and `ntohl` of what is there then. -/
def storeWord (field : WordField) (memory : Memory) (attr : Grecpattr) (runtime : Runtime) :
    Runtime :=
  let runtime := copyAttribute memory field.offset attr runtime
  field.update runtime (ntohl (field.get runtime.haap))

theorem wordOf_read (memory : Memory) : wordOf (memory.read 4) = ntohl (load 32 memory) := by
  have hvalue : (swapBytes (load 32 memory)).toNat = bigEndian (memory.read 4) :=
    toNat_swapBytes_load (by decide) _
  rw [wordOf, ← hvalue, BitVec.ofNat_toNat, BitVec.setWidth_eq, ntohl]

theorem storeWord_of_le (field : WordField) (runtime : Runtime) (hlength : attr.length.toNat ≤ 4) :
    storeWord field memory attr runtime = field.update runtime (ntohl
      (overlay (field.get runtime.haap) (memory.shift attr.value) attr.length.toNat)) := by
  rw [storeWord, copyAttribute, field.memcpy _ _ hlength]
  simp only [WordField.update, field.get_set, field.set_set]

theorem storeWord_of_eq (field : WordField) (runtime : Runtime) (hlength : attr.length.toNat = 4) :
    storeWord field memory attr runtime =
      field.update runtime (wordOf (attr.bytes memory)) := by
  rw [storeWord_of_le field runtime hlength.le, Grecpattr.bytes, hlength, overlay_four, wordOf_read]

structure Neighbour (field : WordField) where
  Seen : Type
  cell : Runtime → Seen
  made : Byte → Seen
  sees : SeesByte cell made (field.offset + 4)
  update : ∀ runtime word, cell (field.update runtime word) = cell runtime
  differs : ∀ byte, ∃ runtime, field.get runtime.haap = 0 ∧ cell runtime ≠ made byte

theorem exists_word_byte_ne (byte : Byte) : ∃ word : BitVec 32, byteOf word 0 ≠ byte := by
  by_cases hzero : byte = 0
  · exact ⟨1, by rw [hzero]; decide⟩
  · exact ⟨0, fun hsame => hzero (hsame.symm.trans (by decide))⟩

def neighbourField (field behind : WordField) (hbehind : behind.offset = field.offset + 4)
    (hfield : ∀ haap word, behind.get (field.set haap word) = behind.get haap)
    (hzero : ∀ word, field.get (behind.set Runtime.zero.haap word) = 0) : Neighbour field where
  Seen := Byte
  cell runtime := byteOf (behind.get runtime.haap) 0
  made := id
  sees := by
    rw [← hbehind]
    exact behind.seesByte (by decide)
  update runtime word := by rw [WordField.update, hfield]
  differs byte := by
    obtain ⟨word, hword⟩ := exists_word_byte_ne byte
    refine ⟨behind.update Runtime.zero word, hzero word, ?_⟩
    rw [WordField.update, behind.get_set]
    exact hword

def sessionIdNeighbour : Neighbour sessionIdField :=
  neighbourField _ bondingKeyField rfl (fun _ _ => rfl) fun _ => rfl

def bondingKeyNeighbour : Neighbour bondingKeyField :=
  neighbourField _ activeHelloIntervalField rfl (fun _ _ => rfl) fun _ => rfl

def activeHelloIntervalNeighbour : Neighbour activeHelloIntervalField :=
  neighbourField _ helloRetryTimesField rfl (fun _ _ => rfl) fun _ => rfl

def helloRetryTimesNeighbour : Neighbour helloRetryTimesField :=
  neighbourField _ commitCountField rfl (fun _ _ => rfl) fun _ => rfl

def bypassBandwidthCheckIntervalNeighbour : Neighbour bypassBandwidthCheckIntervalField where
  Seen := Bool
  cell := Runtime.bonding
  made := pokeBool
  sees := seesByte_bonding
  update _ _ := rfl
  differs byte := by
    refine ⟨{ Runtime.zero with bonding := !pokeBool byte }, rfl, ?_⟩
    cases pokeBool byte <;> decide

/-- Too long a copy reaches the neighbour. -/
theorem Neighbour.storeWord_ne {field : WordField} (neighbour : Neighbour field)
    (memory : Memory) (hlength : 4 < attr.length.toNat) :
    ∃ runtime, field.get runtime.haap = 0 ∧ storeWord field memory attr runtime ≠ runtime := by
  obtain ⟨runtime, hzero, hdiffers⟩ := neighbour.differs (memory.shift attr.value 4)
  refine ⟨runtime, hzero, fun hsame => hdiffers ?_⟩
  have hcell := congrArg neighbour.cell hsame
  rw [storeWord, neighbour.update, copyAttribute, neighbour.sees.memcpy _ _ (by omega),
    if_pos (by omega), Nat.add_sub_cancel_left] at hcell
  exact hcell.symm

theorem storeWord_short_ne (field : WordField) (hlength : attr.length.toNat < 4) :
    storeWord field memory attr (field.update Runtime.zero 1) ≠ field.update Runtime.zero 1 := by
  rw [storeWord_of_le field _ hlength.le]
  intro hsame
  have hword := congrArg (fun runtime => byteOf (field.get runtime.haap) 0) hsame
  simp only [WordField.update, field.get_set, ntohl] at hword
  rw [byteOf_swapBytes _ (by decide), byteOf_overlay _ _ _ (by decide), if_neg (by omega)] at hword
  exact absurd hword (by decide)

theorem assigned_some_of_not_fits {aim : Target} (hfits : aim.fits attr.length.toNat = false)
    (runtime : Runtime) : assigned (some aim) memory attr runtime = runtime := by
  rw [assigned, hfits, if_neg Bool.false_ne_true]

theorem assigned_some_of_fits {aim : Target} (hfits : aim.fits attr.length.toNat = true)
    (runtime : Runtime) :
    assigned (some aim) memory attr runtime = aim.assign (attr.bytes memory) runtime := by
  rw [assigned, hfits, if_pos rfl]

/-- A copy into a word lands as intended exactly when it has four bytes. -/
theorem storeWord_lands_iff {field : WordField} (neighbour : Neighbour field) :
    (∀ runtime, storeWord field memory attr runtime =
      assigned (some (wordTarget field)) memory attr runtime) ↔ attr.length.toNat = 4 := by
  constructor
  · intro hlands
    by_contra hlength
    have hsame : ∀ runtime, storeWord field memory attr runtime = runtime := by
      intro runtime
      rw [hlands, assigned_some_of_not_fits (beq_false_of_ne hlength)]
    rcases Nat.lt_or_gt_of_ne hlength with hshort | hlong
    · exact storeWord_short_ne field hshort (hsame _)
    · obtain ⟨runtime, _, hdiffers⟩ := neighbour.storeWord_ne memory hlong
      exact hdiffers (hsame runtime)
  · intro hlength runtime
    rw [storeWord_of_eq field runtime hlength,
      assigned_some_of_fits (show (wordTarget field).fits _ = true from beq_iff_eq.mpr hlength)]
    rfl

/-- Where a custom value is kept, the copy goes into a zero. -/
theorem storeWord_unset_lands_iff {field : WordField} (neighbour : Neighbour field) :
    (∀ runtime, (if field.get runtime.haap = 0 then storeWord field memory attr runtime
        else runtime) = assigned (some (unsetTarget field)) memory attr runtime) ↔
      attr.length.toNat = 4 ∨
        attr.length.toNat < 4 ∧ ∀ i < attr.length.toNat, memory (attr.value + i) = 0 := by
  constructor
  · intro hlands
    by_cases hlength : attr.length.toNat = 4
    · exact Or.inl hlength
    have hsame : ∀ runtime, field.get runtime.haap = 0 →
        storeWord field memory attr runtime = runtime := by
      intro runtime hzero
      have hland := hlands runtime
      rwa [if_pos hzero, assigned_some_of_not_fits (beq_false_of_ne hlength)] at hland
    rcases Nat.lt_or_gt_of_ne hlength with hshort | hlong
    · refine Or.inr ⟨hshort, fun i hi => ?_⟩
      have hzero : field.get (field.update Runtime.zero 0).haap = 0 := field.get_set _ _
      have hland := hsame _ hzero
      rw [storeWord_of_le field _ hshort.le, hzero] at hland
      have hword := congrArg (fun runtime => byteOf (field.get runtime.haap) (3 - i)) hland
      simp only [WordField.update, field.get_set, ntohl] at hword
      rw [byteOf_swapBytes _ (by omega), show 32 / 8 - 1 - (3 - i) = i by omega,
        byteOf_overlay _ _ _ (by omega), if_pos hi] at hword
      refine hword.trans ?_
      simp [byteOf]
    · obtain ⟨runtime, hzero, hdiffers⟩ := neighbour.storeWord_ne memory hlong
      exact absurd (hsame runtime hzero) hdiffers
  · rintro (hlength | ⟨hshort, hzeros⟩) runtime
    · rw [assigned_some_of_fits (show (unsetTarget field).fits _ = true from beq_iff_eq.mpr hlength),
        storeWord_of_eq field runtime hlength]
      rfl
    · rw [assigned_some_of_not_fits (beq_false_of_ne (by omega))]
      split_ifs with hzero
      · have hoverlay :
            overlay (0 : BitVec 32) (memory.shift attr.value) attr.length.toNat = 0 := by
          rw [← load_byteOf (0 : BitVec 32)]
          refine load_congr fun i hi => ?_
          rw [load_byteOf]
          split_ifs with hi
          · rw [Memory.shift_apply, hzeros i hi]
            simp [byteOf]
          · rfl
        have hswapped : ntohl 0 = 0 := by decide +kernel
        rw [storeWord_of_le field runtime hshort.le, hzero, hoverlay, hswapped, ← hzero,
          WordField.update, field.set_get]
      · rfl

/-! ### The address -/

theorem haapIp_lands_iff :
    (∀ runtime, copyAttribute memory haapIpOffset attr runtime =
      assigned (some haapIpTarget) memory attr runtime) ↔
      attr.length.toNat = 16 ∨ attr.length.toNat = 0 := by
  constructor
  · intro hlands
    by_contra hmisfit
    obtain ⟨hlength, hempty⟩ := not_or.mp hmisfit
    have hsame : ∀ runtime, copyAttribute memory haapIpOffset attr runtime = runtime := by
      intro runtime
      rw [hlands, assigned_some_of_not_fits (beq_false_of_ne hlength)]
    rcases Nat.lt_or_gt_of_ne hlength with hshort | hlong
    · -- the first byte of the address is overwritten
      have hbyte : ∀ runtime : Runtime, runtime.haap.ip 0 = memory attr.value := by
        intro runtime
        have hcell := congrArg (fun runtime => runtime.haap.ip 0) (hsame runtime)
        rw [copyAttribute, memcpy_haapIp _ _ hshort.le] at hcell
        simpa [Nat.pos_of_ne_zero hempty] using hcell.symm
      have hzero := hbyte Runtime.zero
      have hone := hbyte { Runtime.zero with haap.ip := fun _ => 1 }
      exact absurd (hzero.trans hone.symm) (by decide)
    · -- the session id behind the address is
      obtain ⟨word, hword⟩ := exists_word_byte_ne (memory.shift attr.value 16)
      have hcell := congrArg (fun runtime => byteOf (sessionIdField.get runtime.haap) 0)
        (hsame (sessionIdField.update Runtime.zero word))
      have hsees := (sessionIdField.seesByte (i := 0) (by decide)).memcpy
        (sessionIdField.update Runtime.zero word) (memory.shift attr.value)
        (show haapIpOffset ≤ sessionIdField.offset + 0 by decide) attr.length.toNat
      have hreached : sessionIdField.offset + 0 < haapIpOffset + attr.length.toNat := by
        show 32 < 16 + attr.length.toNat
        omega
      rw [if_pos hreached] at hsees
      rw [copyAttribute] at hcell
      exact hword (hcell.symm.trans hsees)
  · rintro (hlength | hempty) runtime
    · have hbytes : ∀ i : Fin 16, ((memory.shift attr.value).read 16).getD i 0 =
          memory.shift attr.value i := by
        intro i
        rw [List.getD_eq_getElem?_getD, Memory.getElem?_read, if_pos i.isLt]
        rfl
      rw [assigned_some_of_fits (show haapIpTarget.fits _ = true from beq_iff_eq.mpr hlength),
        copyAttribute, hlength, memcpy_haapIp _ _ le_rfl, haapIpTarget, Grecpattr.bytes, hlength]
      simp only [hbytes, Fin.is_lt, if_true]
    · rw [assigned_some_of_not_fits (beq_false_of_ne (by omega)), copyAttribute, hempty]
      rfl

/-! ### One attribute of each message -/

theorem acceptAttribute_lands_iff :
    (∀ runtime, acceptAttribute memory runtime attr =
      assigned (acceptTarget attr.id) memory attr runtime) ↔ Fits memory .accept attr := by
  rw [Fits]
  by_cases haddress : attr.id = msgattrHIpv6Address
  · simp only [acceptAttribute, acceptTarget, if_pos haddress]
    exact haapIp_lands_iff
  by_cases hsession : attr.id = msgattrSessionId
  · simp only [acceptAttribute, acceptTarget, hsession]
    exact storeWord_lands_iff sessionIdNeighbour
  by_cases hinterval : attr.id = msgattrActiveHelloInterval
  · simp only [acceptAttribute, acceptTarget, hinterval]
    exact storeWord_unset_lands_iff activeHelloIntervalNeighbour
  by_cases hretries : attr.id = msgattrHelloRetryTimes
  · simp only [acceptAttribute, acceptTarget, hretries]
    exact storeWord_unset_lands_iff helloRetryTimesNeighbour
  by_cases hkey : attr.id = msgattrBondingKeyValue
  · simp only [acceptAttribute, acceptTarget, hkey]
    exact storeWord_lands_iff bondingKeyNeighbour
  by_cases hbypass : attr.id = msgattrBypassBandwidthCheckInterval
  · simp only [acceptAttribute, acceptTarget, hbypass]
    exact storeWord_lands_iff bypassBandwidthCheckIntervalNeighbour
  simp only [acceptAttribute, acceptTarget, haddress, hsession, hinterval, hretries, hkey, hbypass,
    if_false, or_self, assigned, implies_true]

theorem helloAttribute_lands_iff {tuntype : Byte} :
    (∀ now runtime, attributeStep memory .hello tuntype now runtime attr =
      assigned (target .hello tuntype now attr.id) memory attr runtime) ↔
      Fits memory .hello attr := by
  rw [Fits]
  by_cases hid : attr.id = msgattrTimestamp
  · have htarget : ∀ now, target .hello tuntype now attr.id = some (timestampTarget tuntype now) :=
      fun now => if_pos hid
    simp only [htarget]
    rw [imp_iff_right hid]
    constructor
    · intro hlands
      by_contra hlength
      -- a Hello resets the count of missed ones even if its Timestamp is malformed
      have hland := hlands ⟨0, 0⟩ ({ Runtime.zero with lte.missedHellos := 1, dsl.missedHellos := 1 })
      rw [assigned_some_of_not_fits (beq_false_of_ne hlength), attributeStep, helloAttribute,
        if_pos hid] at hland
      by_cases htuntype : tuntype = grecpTuntypeLte
      · rw [if_pos htuntype] at hland
        exact absurd (congrArg (fun runtime => runtime.lte.missedHellos) hland)
          (show (0 : BitVec 8) ≠ 1 by decide)
      · rw [if_neg htuntype] at hland
        exact absurd (congrArg (fun runtime => runtime.dsl.missedHellos) hland)
          (show (0 : BitVec 8) ≠ 1 by decide)
    · intro hlength now runtime
      have hseconds : wordOf ((attr.bytes memory).take 4) =
          ntohl (load 32 (memory.shift attr.value)) := by
        rw [Grecpattr.bytes, Memory.take_read _ (by omega), wordOf_read]
      have hmilliseconds : wordOf ((attr.bytes memory).drop 4) =
          ntohl (load 32 (memory.shift (attr.value + 4))) := by
        rw [Grecpattr.bytes, hlength, Memory.drop_read _ 4 4, Memory.shift_shift, wordOf_read]
      rw [assigned_some_of_fits
        (show (timestampTarget tuntype now).fits _ = true from beq_iff_eq.mpr hlength)]
      simp only [timestampTarget, hseconds, hmilliseconds, attributeStep, helloAttribute,
        timestampSent, if_pos hid]
      by_cases htuntype : tuntype = grecpTuntypeLte
      · simp only [if_pos htuntype]
      · simp only [if_neg htuntype]
  · simp [attributeStep, helloAttribute, target, hid, assigned]

theorem notifyAttribute_lands_iff {tuntype : Byte} :
    (∀ now runtime, attributeStep memory .notify tuntype now runtime attr =
      assigned (target .notify tuntype now attr.id) memory attr runtime) ↔
      Fits memory .notify attr := by
  rw [Fits]
  by_cases hid : attr.id = msgattrFilterListPackage
  · have htarget : ∀ now, target .notify tuntype now attr.id = some filterListTarget :=
      fun now => if_pos hid
    simp only [htarget]
    rw [imp_iff_right hid]
    constructor
    · intro hlands
      by_contra hlength
      have hland := hlands ⟨0, 0⟩ ({ Runtime.zero with filterListAcked := true })
      rw [assigned_some_of_not_fits (decide_eq_false hlength), attributeStep, notifyAttribute,
        if_pos hid] at hland
      exact absurd (congrArg Runtime.filterListAcked hland) (show false ≠ true by decide)
    · intro hlength now runtime
      have hcount : wordOf ((attr.bytes memory).take 4) =
          ntohl (load 32 (memory.shift attr.value)) := by
        rw [Grecpattr.bytes, Memory.take_read _ hlength, wordOf_read]
      rw [assigned_some_of_fits (show filterListTarget.fits _ = true from decide_eq_true hlength)]
      simp only [filterListTarget, hcount, attributeStep, notifyAttribute, if_pos hid]
  by_cases hverification : attr.id = msgattrTunnelVerification
  · simp [attributeStep, notifyAttribute, target, hverification, assigned, verificationTarget,
      msgattrTunnelVerification, msgattrFilterListPackage]
  · simp [attributeStep, notifyAttribute, target, hid, hverification, assigned]

/-! ### Every attribute of each message -/

/-- **One attribute.** It does what its target says, in every runtime, exactly when it fits. -/
theorem attributeStep_lands_iff {msgtype : Msgtype} {tuntype : Byte} :
    (∀ now runtime, attributeStep memory msgtype tuntype now runtime attr =
      assigned (target msgtype tuntype now attr.id) memory attr runtime) ↔
      Fits memory msgtype attr := by
  cases msgtype with
  | request => exact iff_of_true (fun _ _ => rfl) trivial
  | deny => exact iff_of_true (fun _ _ => rfl) trivial
  | teardown => exact iff_of_true (fun _ _ => rfl) trivial
  | accept =>
      rw [← acceptAttribute_lands_iff]
      exact ⟨fun hlands runtime => hlands ⟨0, 0⟩ runtime, fun hlands _ runtime => hlands runtime⟩
  | hello => exact helloAttribute_lands_iff
  | notify => exact notifyAttribute_lands_iff

/-- A view that no attribute of the list changes is the same behind it. -/
theorem view_foldl {α : Type*} {σ : Type*} (view : σ → α) {step : σ → Grecpattr → σ}
    {attrs : List Grecpattr} (hstep : ∀ attr ∈ attrs, ∀ state, view (step state attr) = view state) :
    ∀ state, view (attrs.foldl step state) = view state := by
  induction attrs with
  | nil => intro state; rfl
  | cons attr attrs ih =>
      intro state
      rw [List.foldl_cons, ih fun other hother => hstep other (List.mem_cons_of_mem attr hother),
        hstep attr List.mem_cons_self]

/-- What no attribute changes, and not the message itself, the handler does not change. -/
theorem view_handleGrecpmessage {α : Type*} (view : Runtime → α) {msgtype : Msgtype}
    {tuntype : Byte} {buffer : Nat} {size : Int}
    (hstep : ∀ attr ∈ attributes memory buffer size, ∀ now runtime,
      view (attributeStep memory msgtype tuntype now runtime attr) = view runtime)
    (hempty : ∀ now runtime, view (handleEmpty msgtype tuntype now runtime) = view runtime)
    (uptime : Nat → Timeval) (runtime : Runtime) :
    view (handleGrecpmessage memory msgtype tuntype buffer size uptime runtime) = view runtime := by
  cases msgtype with
  | request => rfl
  | deny => rfl
  | teardown => exact hempty (uptime 0) runtime
  | accept =>
      rw [handleGrecpmessage, handleGrecpaccept]
      exact (hempty (uptime 0) _).trans
        (view_foldl view (fun attr hattr runtime => hstep attr hattr ⟨0, 0⟩ runtime) runtime)
  | notify =>
      exact view_foldl view (fun attr hattr runtime => hstep attr hattr ⟨0, 0⟩ runtime) runtime
  | hello =>
      refine view_foldl (fun state : Runtime × Nat => view state.1) ?_ (runtime, 0)
      rintro attr hattr ⟨runtime, readings⟩
      refine Eq.trans ?_ (hstep attr hattr (uptime readings) runtime)
      rw [attributeStep, helloAttribute, helloAttribute]
      split_ifs <;> rfl

/-- **Attribute values.** The attributes of a message land exactly in their own fields, in every
state of the runtime, if and only if each of them has a length that suits its field, is an empty
address, or is too short an interval or retry count that consists of zeros. -/
theorem landsExactly_iff_fits (memory : Memory) (size : Nat) (msgtype : Msgtype) (tuntype : Byte) :
    LandsExactly memory size msgtype tuntype ↔
      ∀ attr ∈ messageAttributes memory size, Fits memory msgtype attr := by
  constructor
  · intro hlands attr hattr
    exact attributeStep_lands_iff.mp (hlands.each attr hattr)
  · intro hfits
    have heach : ∀ attr ∈ messageAttributes memory size, ∀ now runtime,
        attributeStep memory msgtype tuntype now runtime attr =
          assigned (target msgtype tuntype now attr.id) memory attr runtime :=
      fun attr hattr => attributeStep_lands_iff.mpr (hfits attr hattr)
    refine ⟨heach, fun view htargets hempty uptime runtime => ?_⟩
    refine view_handleGrecpmessage view (fun attr hattr now runtime => ?_) hempty uptime runtime
    rw [heach attr hattr]
    cases haim : target msgtype tuntype now attr.id with
    | none => rfl
    | some aim =>
        by_cases hlength : aim.fits attr.length.toNat = true
        · rw [assigned_some_of_fits hlength]
          exact htargets attr hattr now aim haim hlength _ _
        · rw [assigned_some_of_not_fits (Bool.eq_false_of_not_eq_true hlength)]

def longSessionId : List Byte :=
  [0x20, 0, 1, 1, 0, 0, 0, 0, 0x20, 4, 0, 8, 0, 0, 0, 1, 0, 0, 0, 2]

/-- It sets the bonding key, which no attribute of the message is about. -/
theorem longSessionId_sets_bondingKey :
    (messageAttributes (received (fun _ => 0) longSessionId) 20).map
        (fun attr => (attr.id, attr.length)) = [(msgattrSessionId, 8)] ∧
    (processGrecpmessage (received (fun _ => 0) longSessionId) 20 (fun _ => ⟨10, 0⟩)
      Runtime.zero).haap.bondingKey = 0x02000000#32 ∧
    ¬ LandsExactly (received (fun _ => 0) longSessionId) 20 .accept grecpTuntypeLte := by
  refine ⟨by decide +kernel, by decide +kernel, fun hlands => ?_⟩
  have hland := hlands.each ⟨msgattrSessionId, 8, 12⟩ (by decide +kernel) ⟨0, 0⟩ Runtime.zero
  exact absurd (congrArg (fun runtime => runtime.haap.bondingKey) hland) (by decide +kernel)

end OpenHybrid

import OpenHybrid.Proof.Reception
import OpenHybrid.Proof.Tlv

/-!
# Applying an Accept

`handle_grecpaccept` stores the attributes of an Accept one after the other, as it comes to them, and
establishes the tunnel when its loop ends, for whatever reason it ends. Nothing is taken back.
-/

namespace OpenHybrid

open ByteMemory PrefixCode

/-! ### Parameters of a session -/

inductive Parameter where
  | haapIp
  | sessionId
  | bondingKey
  | activeHelloInterval
  | helloRetryTimes
  deriving DecidableEq

def Parameter.id : Parameter → Byte
  | .haapIp => msgattrHIpv6Address
  | .sessionId => msgattrSessionId
  | .bondingKey => msgattrBondingKeyValue
  | .activeHelloInterval => msgattrActiveHelloInterval
  | .helloRetryTimes => msgattrHelloRetryTimes

def Parameter.size : Parameter → Nat
  | .haapIp => 16
  | .sessionId | .bondingKey | .activeHelloInterval | .helloRetryTimes => 4

def Parameter.offset : Parameter → Nat
  | .haapIp => haapIpOffset
  | .sessionId => sessionIdOffset
  | .bondingKey => bondingKeyOffset
  | .activeHelloInterval => activeHelloIntervalOffset
  | .helloRetryTimes => helloRetryTimesOffset

def Parameter.IsSet (haap : Haap) : Parameter → Prop
  | .haapIp => haap.ip ≠ in6addrAny
  | .sessionId => haap.sessionId ≠ 0
  | .bondingKey => haap.bondingKey ≠ 0
  | .activeHelloInterval => haap.activeHelloInterval ≠ 0
  | .helloRetryTimes => haap.helloRetryTimes ≠ 0

/-- Everything there is to processing an Accept has happened, or nothing at all. -/
def AllOrNothing (memory : Memory) (tuntype : Byte) (buffer : Nat) (size : Int)
    (uptime : Nat → Timeval) (runtime : Runtime) : Prop :=
  let after := handleGrecpaccept memory tuntype buffer size uptime runtime
  ((∃ whole : List Tlv, whole.flatMap Tlv.bytes = givenBytes memory buffer size) ∧
      (∀ parameter : Parameter, parameter.IsSet after.haap) ∧
      (after.tunnel tuntype).tunnelEstablished = true) ∨
    after = runtime

/-! ### One attribute, by its bytes -/

def Tlv.memory (tlv : Tlv) : Memory := Memory.write (fun _ => 0) 0 tlv.value

def Tlv.attr (tlv : Tlv) : Grecpattr := ⟨tlv.id, BitVec.ofNat 16 tlv.value.length, 0⟩

def acceptTlv (runtime : Runtime) (tlv : Tlv) : Runtime :=
  acceptAttribute tlv.memory runtime tlv.attr

variable {memory other : Memory} {runtime : Runtime} {attr : Grecpattr} {tlv : Tlv}

theorem acceptAttribute_eq_of_value {attr' : Grecpattr} (hid : attr.id = attr'.id)
    (hlength : attr.length = attr'.length)
    (hagree : Memory.AgreeBelow attr.length.toNat (memory.shift attr.value)
      (other.shift attr'.value)) (runtime : Runtime) :
    acceptAttribute memory runtime attr = acceptAttribute other runtime attr' := by
  have hcopy : ∀ offset, copyAttribute memory offset attr runtime =
      copyAttribute other offset attr' runtime := by
    intro offset
    unfold copyAttribute
    rw [Runtime.memcpy_congr hagree, hlength]
  unfold acceptAttribute
  simp only [hid, hcopy]

theorem Tlv.length_attr (tlv : Tlv) : tlv.attr.length.toNat = tlv.value.length := by
  have hlt : tlv.value.length < 256 ^ 2 := by
    calc tlv.value.length
        _ = bigEndian [tlv.high, tlv.low] := tlv.length_value
        _ < 256 ^ 2 := bigEndian_lt _
  exact Nat.mod_eq_of_lt hlt

theorem Tlv.bytes_attr (tlv : Tlv) : tlv.attr.bytes tlv.memory = tlv.value := by
  calc tlv.attr.bytes tlv.memory
      _ = tlv.memory.read tlv.value.length := by
        rw [Grecpattr.bytes, tlv.length_attr, Tlv.attr, Memory.shift_zero]
      _ = tlv.value := Memory.read_write _ _

/-- The view of an attribute does what the attribute does. -/
theorem acceptAttribute_of_views {start : Nat} (hview : attr.Views memory start tlv)
    (runtime : Runtime) : acceptAttribute memory runtime attr = acceptTlv runtime tlv := by
  have hlength : attr.length = tlv.attr.length :=
    BitVec.eq_of_toNat_eq (hview.length.trans tlv.length_attr.symm)
  refine acceptAttribute_eq_of_value hview.id hlength ?_ runtime
  refine Memory.agreeBelow_of_read_eq ?_
  calc (memory.shift attr.value).read attr.length.toNat
      _ = tlv.value := hview.read_value
      _ = tlv.attr.bytes tlv.memory := tlv.bytes_attr.symm
      _ = (tlv.memory.shift tlv.attr.value).read attr.length.toNat := by
        rw [hlength, Grecpattr.bytes]

/-- The loop does what the ids and values of the attributes say, wherever they lie. -/
theorem acceptAttributes_of_contiguous {start : Nat} {attrs : List Grecpattr}
    {sequence : List Tlv} (hviews : Contiguous memory start attrs sequence) (runtime : Runtime) :
    attrs.foldl (acceptAttribute memory) runtime = sequence.foldl acceptTlv runtime := by
  induction hviews generalizing runtime with
  | nil => rfl
  | cons hview _ ih => rw [List.foldl_cons, List.foldl_cons, acceptAttribute_of_views hview, ih]

/-! ### What becomes of the parameters -/

def Parameter.field : Parameter → Option WordField
  | .haapIp => none
  | .sessionId => some sessionIdField
  | .bondingKey => some bondingKeyField
  | .activeHelloInterval => some activeHelloIntervalField
  | .helloRetryTimes => some helloRetryTimesField

variable {parameter : Parameter}

theorem Parameter.isSet_iff {field : WordField} (hfield : parameter.field = some field)
    (haap : Haap) : parameter.IsSet haap ↔ field.get haap ≠ 0 := by
  cases parameter <;> cases hfield <;> rfl

/-- A copy that does not reach the field leaves it alone. -/
theorem get_acceptAttribute_spared {field : WordField} (hfield : parameter.field = some field)
    (hid : attr.id ≠ parameter.id)
    (hspared : ∀ offset, fieldOffset attr.id = some offset →
      offset + attr.length.toNat ≤ field.offset ∨ field.offset + 4 ≤ offset) :
    field.get (acceptAttribute memory runtime attr).haap = field.get runtime.haap := by
  have hcopy : ∀ offset, fieldOffset attr.id = some offset →
      field.get (copyAttribute memory offset attr runtime).haap = field.get runtime.haap :=
    fun offset hoffset => field.memcpy_outside _ _ (hspared offset hoffset)
  unfold fieldOffset at hcopy
  unfold acceptAttribute
  split_ifs at hcopy ⊢ with _ hsession hinterval _ hretries _ hkey
  · exact hcopy _ rfl
  · cases parameter <;> cases hfield <;> first | exact hcopy _ rfl | exact absurd hsession hid
  · cases parameter <;> cases hfield <;> first | exact hcopy _ rfl | exact absurd hinterval hid
  · rfl
  · cases parameter <;> cases hfield <;> first | exact hcopy _ rfl | exact absurd hretries hid
  · rfl
  · cases parameter <;> cases hfield <;> first | exact hcopy _ rfl | exact absurd hkey hid
  · cases parameter <;> cases hfield <;> exact hcopy _ rfl
  · rfl

/-- What names a parameter has its size and is not zero. -/
def Proper (tlv : Tlv) : Prop :=
  ∀ parameter : Parameter, tlv.id = parameter.id →
    tlv.value.length = parameter.size ∧ ∃ byte ∈ tlv.value, byte ≠ 0

/-- The fields lie side by side. -/
theorem Parameter.apart {named : Parameter} (hne : named ≠ parameter) :
    named.offset + named.size ≤ parameter.offset ∨
      parameter.offset + parameter.size ≤ named.offset := by
  revert hne
  cases named <;> cases parameter <;> decide

theorem fieldOffset_cases {id : Byte} {offset : Nat} (hoffset : fieldOffset id = some offset) :
    (∃ named : Parameter, id = named.id ∧ offset = named.offset) ∨
      offset = bypassBandwidthCheckIntervalOffset := by
  unfold fieldOffset at hoffset
  split_ifs at hoffset with haddress hsession hinterval hretries hkey hbypass
  all_goals obtain rfl := Option.some.inj hoffset
  · exact Or.inl ⟨.haapIp, haddress, rfl⟩
  · exact Or.inl ⟨.sessionId, hsession, rfl⟩
  · exact Or.inl ⟨.activeHelloInterval, hinterval, rfl⟩
  · exact Or.inl ⟨.helloRetryTimes, hretries, rfl⟩
  · exact Or.inl ⟨.bondingKey, hkey, rfl⟩
  · exact Or.inr rfl

theorem Proper.spared (hproper : Proper tlv) (hid : tlv.id ≠ parameter.id) {offset : Nat}
    (hoffset : fieldOffset tlv.attr.id = some offset) :
    offset + tlv.attr.length.toNat ≤ parameter.offset ∨
      parameter.offset + parameter.size ≤ offset := by
  rw [tlv.length_attr]
  rcases fieldOffset_cases hoffset with ⟨named, hnamed, rfl⟩ | rfl
  · have hne : named ≠ parameter := by
      rintro rfl
      exact hid hnamed
    rw [(hproper named hnamed).1]
    exact Parameter.apart hne
  · right
    cases parameter <;> decide

/-- An attribute sets no parameter but its own. -/
theorem isSet_acceptTlv_other (hproper : Proper tlv) (hid : tlv.id ≠ parameter.id)
    (runtime : Runtime) :
    parameter.IsSet (acceptTlv runtime tlv).haap ↔ parameter.IsSet runtime.haap := by
  cases hfield : parameter.field with
  | none =>
      cases parameter <;> cases hfield
      have hip : (acceptTlv runtime tlv).haap.ip = runtime.haap.ip :=
        haapIp_acceptAttribute hid runtime
      unfold Parameter.IsSet
      rw [hip]
  | some field =>
      have hcell : field.offset = parameter.offset ∧ parameter.size = 4 := by
        cases parameter <;> cases hfield <;> decide
      have hkept : field.get (acceptTlv runtime tlv).haap = field.get runtime.haap := by
        refine get_acceptAttribute_spared hfield hid fun offset hoffset => ?_
        have hspared := hproper.spared hid hoffset
        rwa [hcell.2, ← hcell.1] at hspared
      rw [Parameter.isSet_iff hfield, Parameter.isSet_iff hfield, hkept]

theorem wordOf_ne_zero {bytes : List Byte} {byte : Byte} (hlength : bytes.length = 4)
    (hmem : byte ∈ bytes) (hbyte : byte ≠ 0) : wordOf bytes ≠ 0 := by
  intro hzero
  have hlt := bigEndian_lt bytes
  have hnat := congrArg BitVec.toNat hzero
  rw [wordOf, BitVec.toNat_ofNat, Nat.mod_eq_of_lt (by rw [hlength] at hlt; exact hlt)] at hnat
  exact bigEndian_ne_zero hmem hbyte hnat

def Parameter.target : Parameter → Target
  | .haapIp => haapIpTarget
  | .sessionId => wordTarget sessionIdField
  | .bondingKey => wordTarget bondingKeyField
  | .activeHelloInterval => unsetTarget activeHelloIntervalField
  | .helloRetryTimes => unsetTarget helloRetryTimesField

/-- An attribute of the right size makes the assignment of its parameter. -/
theorem acceptTlv_own (hid : tlv.id = parameter.id) (hsize : tlv.value.length = parameter.size)
    (runtime : Runtime) : acceptTlv runtime tlv = parameter.target.assign tlv.value runtime := by
  have hattr : tlv.attr.id = parameter.id := hid
  have hlength : tlv.attr.length.toNat = parameter.size := tlv.length_attr.trans hsize
  have hfits : Fits tlv.memory .accept tlv.attr := by
    unfold Fits
    rw [hattr, hlength]
    cases parameter <;> first | exact Or.inl rfl | rfl
  have htarget : acceptTarget parameter.id = some parameter.target := by
    cases parameter <;> rfl
  have hroom : parameter.target.fits tlv.attr.length.toNat = true := by
    rw [hlength]
    cases parameter <;> rfl
  calc acceptTlv runtime tlv
      _ = assigned (acceptTarget tlv.attr.id) tlv.memory tlv.attr runtime :=
        acceptAttribute_lands_iff.mpr hfits runtime
      _ = parameter.target.assign (tlv.attr.bytes tlv.memory) runtime := by
        rw [hattr, htarget, assigned_some_of_fits hroom]
      _ = parameter.target.assign tlv.value runtime := by rw [tlv.bytes_attr]

theorem isSet_acceptTlv_own (hproper : Proper tlv) (hid : tlv.id = parameter.id)
    (runtime : Runtime) : parameter.IsSet (acceptTlv runtime tlv).haap := by
  obtain ⟨hsize, byte, hmem, hbyte⟩ := hproper parameter hid
  rw [acceptTlv_own hid hsize]
  have hword : parameter.size = 4 → wordOf tlv.value ≠ 0 :=
    fun hfour => wordOf_ne_zero (hsize.trans hfour) hmem hbyte
  have hunset : ∀ field : WordField, parameter.size = 4 →
      field.get ((unsetTarget field).assign tlv.value runtime).haap ≠ 0 := by
    intro field hfour
    by_cases hzero : field.get runtime.haap = 0
    · have hassign : (unsetTarget field).assign tlv.value runtime =
          field.update runtime (wordOf tlv.value) := if_pos hzero
      rw [hassign, WordField.update, field.get_set]
      exact hword hfour
    · have hassign : (unsetTarget field).assign tlv.value runtime = runtime := if_neg hzero
      rw [hassign]
      exact hzero
  cases parameter with
  | haapIp =>
      obtain ⟨i, hi, rfl⟩ := List.getElem_of_mem hmem
      intro hnone
      have hzero := congrFun hnone ⟨i, lt_of_lt_of_eq hi hsize⟩
      refine hbyte ?_
      simpa [Parameter.target, haapIpTarget, in6addrAny, hi] using hzero
  | sessionId => exact hword rfl
  | bondingKey => exact hword rfl
  | activeHelloInterval => exact hunset activeHelloIntervalField rfl
  | helloRetryTimes => exact hunset helloRetryTimesField rfl

/-- A parameter is set afterwards if it was set before or has been named. -/
theorem isSet_acceptTlvs {sequence : List Tlv} (hproper : ∀ tlv ∈ sequence, Proper tlv)
    (runtime : Runtime) :
    parameter.IsSet (sequence.foldl acceptTlv runtime).haap ↔
      parameter.IsSet runtime.haap ∨ ∃ tlv ∈ sequence, tlv.id = parameter.id := by
  induction sequence generalizing runtime with
  | nil => simp
  | cons tlv sequence ih =>
      have htlv := hproper tlv List.mem_cons_self
      have hrest : ∀ other ∈ sequence, Proper other :=
        fun other hother => hproper other (List.mem_cons_of_mem tlv hother)
      rw [List.foldl_cons, ih hrest]
      by_cases hid : tlv.id = parameter.id
      · have hset := isSet_acceptTlv_own htlv hid runtime
        have hnamed : ∃ other ∈ tlv :: sequence, other.id = parameter.id :=
          ⟨tlv, List.mem_cons_self, hid⟩
        exact ⟨fun _ => Or.inr hnamed, fun _ => Or.inl hset⟩
      · rw [isSet_acceptTlv_other htlv hid]
        simp [hid]

/-! ### Accepts -/

theorem tunnel_establish (tuntype : Byte) (now : Timeval) (runtime : Runtime) :
    ((establish tuntype now runtime).tunnel tuntype).tunnelEstablished = true ∧
      ((establish tuntype now runtime).tunnel tuntype).lastHelloSent = now.tvSec ∧
      ((establish tuntype now runtime).tunnel tuntype).lastHelloReceived = now.tvSec := by
  unfold establish Runtime.tunnel
  split <;> exact ⟨rfl, rfl, rfl⟩

theorem haap_establish (tuntype : Byte) (now : Timeval) (runtime : Runtime) :
    (establish tuntype now runtime).haap = runtime.haap := by
  unfold establish
  split <;> rfl

/-- An Accept is applied attribute by attribute, as far as its attributes are well formed, and
establishes the tunnel in any case. -/
theorem accept_appliesPrefix (memory : Memory) (tuntype : Byte) (buffer : Nat) (size : Int)
    (uptime : Nat → Timeval) (runtime : Runtime) :
    ∃ (sequence : List Tlv) (after : Runtime),
      Longest Tlv.bytes (givenBytes memory buffer size) sequence ∧
      handleGrecpaccept memory tuntype buffer size uptime runtime = after ∧
      after = establish tuntype (uptime 0) (sequence.foldl acceptTlv runtime) ∧
      (after.tunnel tuntype).tunnelEstablished = true ∧
      (after.tunnel tuntype).lastHelloSent = (uptime 0).tvSec ∧
      (after.tunnel tuntype).lastHelloReceived = (uptime 0).tvSec ∧
      ((∀ tlv ∈ sequence, Proper tlv) → ∀ parameter : Parameter,
        (parameter.IsSet after.haap ↔
          parameter.IsSet runtime.haap ∨ ∃ tlv ∈ sequence, tlv.id = parameter.id)) := by
  obtain ⟨sequence, hviews, hlongest⟩ := attributes_views memory buffer size
  have hafter : handleGrecpaccept memory tuntype buffer size uptime runtime =
      establish tuntype (uptime 0) (sequence.foldl acceptTlv runtime) := by
    unfold handleGrecpaccept
    rw [acceptAttributes_of_contiguous hviews]
  obtain ⟨hestablished, hsent, hreceived⟩ :=
    tunnel_establish tuntype (uptime 0) (sequence.foldl acceptTlv runtime)
  refine ⟨sequence, _, hlongest, hafter, rfl, hestablished, hsent, hreceived,
    fun hproper parameter => ?_⟩
  rw [haap_establish]
  exact isSet_acceptTlvs hproper runtime

/-- An Accept whose second attribute is cut off: the Session ID is kept, no other parameter is set,
and the tunnel is established. -/
def tornAccept : List Byte := [msgattrSessionId, 0, 4, 0, 0, 0, 7, msgattrBondingKeyValue, 0, 4, 1]

/-- The Session ID is kept, nothing else is, and the tunnel is established all the same. -/
theorem tornAccept_halfApplied : ¬ AllOrNothing (Memory.write (fun _ => 0) 0 tornAccept)
    grecpTuntypeLte 0 11 (fun _ => ⟨5, 0⟩) Runtime.zero := by
  rintro (⟨_, hset, _⟩ | hsame)
  · exact hset .haapIp (by decide +kernel)
  · have hestablished := congrArg (fun runtime => runtime.lte.tunnelEstablished) hsame
    exact absurd hestablished (by decide)

/-- The Session ID of the torn message is in use from then on. -/
example : (handleGrecpaccept (Memory.write (fun _ => 0) 0 tornAccept) grecpTuntypeLte 0 11
    (fun _ => ⟨5, 0⟩) Runtime.zero).haap.sessionId = 7 := by decide +kernel

end OpenHybrid

import OpenHybrid.Proof.DataPlane

/-!
# Which tunnel a packet is sent through

Packets of a DHCP client belong on the LTE tunnel, everything else on the DSL tunnel while that is
up. The classification is overwritten before it is looked at, so everything goes over LTE or not at
all. Two calls of `send_gre` can come to the same message, so this is about the calls.
-/

namespace OpenHybrid.Tun2gre

open ByteMemory

/-! ### The calls of `send_gre` -/

structure Call where
  tuntype : Byte
  proto : BitVec 16
  sequence : BitVec 32
  includeSequence : Bool
  payload : List Byte
  deriving DecidableEq

def Call.message (runtime : Runtime) (call : Call) : Message :=
  sendGre runtime call.tuntype call.proto call.sequence call.includeSequence call.payload

def Input.packet (input : Input) : List Byte := input.read.take maxPktSize

def calls (state : State) (input : Input) : List Call :=
  if 0 < input.read.length then
    let buffer := received state.buffer input.read
    if ipVersion buffer = 4#8 then forward buffer ethertypeIp
    else if ipVersion buffer = 6#8 then forward buffer ethertypeIpv6
    else []
  else []
where
  forward (buffer : Memory) (etherproto : BitVec 16) : List Call :=
    let _isDhcp := isDhcpPacket etherproto buffer
    let isDhcp := true
    if !isDhcp && input.runtime.dsl.tunnelEstablished then
      [⟨grecpTuntypeDsl, etherproto, state.sequence, true, input.packet⟩]
    else if input.runtime.lte.tunnelEstablished then
      [⟨grecpTuntypeLte, etherproto, state.sequence, true, input.packet⟩]
    else []

/-- What an iteration sends is what its calls come to. -/
theorem iteration_calls (state : State) (input : Input) :
    (iteration state input).2.toList = (calls state input).map (Call.message input.runtime) := by
  have hforward : ∀ (buffer : Memory) (etherproto : BitVec 16),
      (iteration.forward state input buffer etherproto input.packet).2.toList =
        (calls.forward state input buffer etherproto).map (Call.message input.runtime) := by
    intro buffer etherproto
    unfold iteration.forward calls.forward
    cases input.runtime.lte.tunnelEstablished <;> rfl
  unfold iteration calls
  dsimp only
  split_ifs
  · exact hforward _ _
  · exact hforward _ _
  · rfl
  · rfl

/-- Whatever is sent is the packet that was read, with a sequence number. -/
theorem mem_calls {state : State} {input : Input} {call : Call} (hmem : call ∈ calls state input) :
    call.includeSequence = true ∧ call.payload = input.packet := by
  have hforward : ∀ (buffer : Memory) (etherproto : BitVec 16),
      call ∈ calls.forward state input buffer etherproto →
        call.includeSequence = true ∧ call.payload = input.packet := by
    intro buffer etherproto hmem
    unfold calls.forward at hmem
    dsimp only at hmem
    split_ifs at hmem
    · obtain rfl := List.mem_singleton.mp hmem
      exact ⟨rfl, rfl⟩
    · obtain rfl := List.mem_singleton.mp hmem
      exact ⟨rfl, rfl⟩
    · exact absurd hmem List.not_mem_nil
  unfold calls at hmem
  dsimp only at hmem
  split_ifs at hmem
  · exact hforward _ _ hmem
  · exact hforward _ _ hmem
  · exact absurd hmem List.not_mem_nil
  · exact absurd hmem List.not_mem_nil

theorem Call.message_length (runtime : Runtime) {call : Call}
    (hsequence : call.includeSequence = true) :
    (call.message runtime).bytes.length = 12 + call.payload.length := by
  unfold Call.message sendGre
  rw [hsequence]
  simp only [if_true, List.length_append, Grehdr.bytes_length, storeList_length]

/-! ### Where a packet belongs -/

def field (packet : List Byte) (offset : Nat) : Option Nat :=
  match packet.drop offset with
  | high :: low :: _ => some (256 * high.toNat + low.toNat)
  | _ => none

def version (packet : List Byte) : Byte := packet.headD 0 >>> 4

def headerLength (packet : List Byte) : Nat := 4 * (packet.headD 0 &&& 15#8).toNat

/-- UDP from 68 to 67 behind the IPv4 header, or from 546 to 547 over IPv6. -/
def DhcpClient (packet : List Byte) : Prop :=
  (version packet = 4#8 ∧ packet[9]? = some 17#8 ∧
    field packet (headerLength packet) = some 68 ∧
    field packet (headerLength packet + 2) = some 67) ∨
  (version packet = 6#8 ∧ packet[6]? = some 17#8 ∧
    field packet 40 = some 546 ∧ field packet 42 = some 547)

instance (packet : List Byte) : Decidable (DhcpClient packet) :=
  inferInstanceAs (Decidable (_ ∨ _))

def route (runtime : Runtime) (packet : List Byte) : Option Byte :=
  if DhcpClient packet then
    if runtime.lte.tunnelEstablished then some grecpTuntypeLte else none
  else if runtime.dsl.tunnelEstablished then some grecpTuntypeDsl
  else if runtime.lte.tunnelEstablished then some grecpTuntypeLte
  else none

/-- The packet is handed to `send_gre` once, for its own tunnel, or there is none for it. -/
def Routed (state : State) (input : Input) : Prop :=
  calls state input = (route input.runtime input.packet).toList.map fun tuntype =>
    ⟨tuntype, etherproto input.packet, state.sequence, true, input.packet⟩

/-- Where a packet really goes. -/
theorem calls_eq (state : State) {input : Input}
    (hip : version input.packet = 4#8 ∨ version input.packet = 6#8) :
    calls state input =
      if input.runtime.lte.tunnelEstablished then
        [⟨grecpTuntypeLte, etherproto input.packet, state.sequence, true, input.packet⟩]
      else [] := by
  cases hread : input.read with
  | nil =>
      rw [version, Input.packet, hread] at hip
      exact absurd hip (by decide)
  | cons first rest =>
      have hversion : ipVersion (received state.buffer input.read) = version input.packet := by
        rw [Input.packet, hread]
        rfl
      have hlength : 0 < input.read.length := by
        rw [hread]
        exact Nat.succ_pos _
      have hforward : ∀ proto, calls.forward state input (received state.buffer input.read) proto =
          if input.runtime.lte.tunnelEstablished then
            [⟨grecpTuntypeLte, proto, state.sequence, true, input.packet⟩]
          else [] := fun proto => rfl
      rw [calls, if_pos hlength]
      dsimp only
      rw [hversion, hforward, hforward, etherproto, ← version]
      by_cases hfour : version input.packet = 4#8
      · rw [if_pos hfour, if_pos hfour]
      · rw [if_neg hfour, if_pos (hip.resolve_left hfour), if_neg hfour]

/-- Packets are sent where they belong as long as that is not the DSL tunnel. -/
theorem routed_iff (state : State) {input : Input}
    (hip : version input.packet = 4#8 ∨ version input.packet = 6#8) :
    Routed state input ↔
      DhcpClient input.packet ∨ input.runtime.dsl.tunnelEstablished = false := by
  rw [Routed, calls_eq state hip, route]
  by_cases hdhcp : DhcpClient input.packet
  · rw [if_pos hdhcp]
    cases input.runtime.lte.tunnelEstablished <;> simp [hdhcp]
  · rw [if_neg hdhcp]
    cases hdsl : input.runtime.dsl.tunnelEstablished with
    | false => cases input.runtime.lte.tunnelEstablished <;> simp
    | true =>
        have hne : grecpTuntypeLte ≠ grecpTuntypeDsl := by decide
        cases input.runtime.lte.tunnelEstablished <;> simp [hdhcp, hne]

def bondedRuntime : Runtime :=
  { Runtime.zero with
    lte := { Runtime.zero.lte with tunnelEstablished := true }
    dsl := { Runtime.zero.dsl with tunnelEstablished := true } }

def dhcpRequest : List Byte :=
  [0x46#8, 0#8, 0#8, 32#8, 0#8, 0#8, 0#8, 0#8, 64#8, 17#8] ++ List.replicate 14 0#8 ++
    [0#8, 68#8, 0#8, 67#8, 0#8, 8#8, 0#8, 0#8]

theorem dhcpRequest_routed : Routed (State.initial fun _ => 0) ⟨dhcpRequest, bondedRuntime⟩ :=
  (routed_iff _ (by decide)).mpr (Or.inl (by decide))

/-- A TCP segment should take the DSL tunnel. -/
theorem bonded_not_routed :
    version (Input.packet ⟨tcpSyn, bondedRuntime⟩) = 4#8 ∧
      ¬ Routed (State.initial fun _ => 0) ⟨tcpSyn, bondedRuntime⟩ := by
  refine ⟨by decide, ?_⟩
  unfold Routed
  decide

end OpenHybrid.Tun2gre

import OpenHybrid.Proof.EmptyBuffer
import OpenHybrid.Tundev
import OpenHybrid.Tun2gre

/-!
# Across the data plane

What `send_gre` puts on the wire is what `gre2tun_main` takes off it. In order, every packet finds
the reorder buffer empty and leaves it empty, so the path through the buffer and the direct write
come to the same.
-/

namespace OpenHybrid

open ByteMemory Transition

/-! ### What is sent -/

namespace Tun2gre

open Gre2tun (dataMessage)

def etherproto (packet : List Byte) : BitVec 16 :=
  if packet.headD 0 >>> 4 = 4#8 then ethertypeIp else ethertypeIpv6

/-- One read of an IPv4 or IPv6 packet while the LTE tunnel is up. -/
structure Carries (key : BitVec 32) (input : Input) (packet : List Byte) : Prop where
  read : input.read = packet
  nonempty : packet ≠ []
  fits : packet.length ≤ 1488
  version : packet.headD 0 >>> 4 = 4#8 ∨ packet.headD 0 >>> 4 = 6#8
  established : input.runtime.lte.tunnelEstablished = true
  key_eq : input.runtime.haap.bondingKey = key

variable {key : BitVec 32} {input : Input} {packet : List Byte}

theorem iteration_carries (state : State) (hcarries : Carries key input packet) :
    ∃ message, iteration state input =
        (⟨received state.buffer packet, state.sequence + 1⟩, some message) ∧
      message.bytes = dataMessage (etherproto packet) key state.sequence packet := by
  obtain ⟨hread, hnonempty, hfits, hversion, hestablished, hkey⟩ := hcarries
  obtain ⟨first, rest, rfl⟩ := List.exists_cons_of_ne_nil hnonempty
  have htake : (first :: rest).take maxPktSize = first :: rest := by
    apply List.take_of_length_le
    unfold maxPktSize
    omega
  have hbuffer : ipVersion (received state.buffer (first :: rest)) = first >>> 4 := by
    rw [received, htake, ipVersion, Memory.write]
    rfl
  have hsend : ∀ proto, iteration.forward state input (received state.buffer (first :: rest)) proto
      (first :: rest) = (⟨received state.buffer (first :: rest), state.sequence + 1⟩,
        some (sendGre input.runtime grecpTuntypeLte proto state.sequence true (first :: rest))) := by
    intro proto
    simp [iteration.forward, hestablished]
  have hbytes : ∀ proto, (sendGre input.runtime grecpTuntypeLte proto state.sequence true
      (first :: rest)).bytes = dataMessage proto key state.sequence (first :: rest) := by
    intro proto
    rw [sendGre, hkey]
    rfl
  have hlength : 0 < input.read.length := by
    rw [hread]
    exact Nat.succ_pos _
  rw [List.headD_cons] at hversion
  rw [iteration, if_pos hlength, hread, htake]
  dsimp only
  rw [hbuffer]
  by_cases hfour : first >>> 4 = 4#8
  · refine ⟨_, by rw [if_pos hfour, hsend], ?_⟩
    rw [hbytes, etherproto, List.headD_cons, if_pos hfour]
  · refine ⟨_, by rw [if_neg hfour, if_pos (hversion.resolve_left hfour), hsend], ?_⟩
    rw [hbytes, etherproto, List.headD_cons, if_neg hfour]

/-- The numbers run on from the state's, one for each packet. -/
theorem messages_carries {inputs : List Input} {packets : List (List Byte)}
    (hinputs : List.Forall₂ (Carries key) inputs packets) :
    ∀ state, (messages state inputs).map Message.bytes =
      packets.mapIdx fun i packet =>
        dataMessage (etherproto packet) key (state.sequence + BitVec.ofNat 32 i) packet := by
  induction hinputs with
  | nil => intro state; rfl
  | @cons input packet inputs packets hcarries _ ih =>
      intro state
      obtain ⟨message, hiteration, hbytes⟩ := iteration_carries state hcarries
      rw [messages, hiteration, Option.toList_some, List.singleton_append, List.map_cons, hbytes, ih,
        List.mapIdx_cons]
      congr 1
      · simp
      · congr 1
        funext i packet
        congr 1
        apply BitVec.eq_of_toNat_eq
        simp only [BitVec.toNat_add, BitVec.toNat_ofNat, BitVec.ofNat_eq_ofNat]
        omega

theorem accepts_dataMessage (sequence : BitVec 32) (packet : List Byte) :
    Bpf.Accepts (greSocketFilter key)
      (dataMessage (etherproto packet) key sequence packet) := by
  set greh : Grehdr := ⟨htons grecpFlagsandversionWithSeq, htons (etherproto packet), htonl key⟩
    with hgreh
  have hat : Grehdr.at (Bpf.memory (dataMessage (etherproto packet) key sequence packet)) = greh := by
    rw [Bpf.memory, dataMessage, List.append_assoc]
    exact greh.at_write _ _
  rw [accepts_greSocketFilter_iff]
  refine ⟨?_, ?_, ?_⟩
  · simp only [dataMessage, List.length_append, Grehdr.bytes_length]
    omega
  · have hkey := congrArg (fun header => ntohl header.key) hat
    exact hkey.trans (ntohl_htonl key)
  · have hproto := congrArg (fun header => ntohs header.proto) hat
    have hhalf : Bpf.halfAt (dataMessage (etherproto packet) key sequence packet) 2 =
        etherproto packet := hproto.trans (ntohs_htons _)
    rw [hhalf, etherproto]
    split_ifs
    · exact Or.inl rfl
    · exact Or.inr rfl

end Tun2gre

/-! ### What arrives -/

namespace Gre2tun

variable {timeout : Timeval} {state : State} {input : Input}

def Event.payload : Event → Option (List Byte)
  | .forwarded payload => some payload
  | .written element => some element.payload
  | _ => none

def writes (events : List Event) : List (List Byte) := events.filterMap Event.payload

/-- A packet that is not buffered is the only thing an iteration writes. -/
theorem step_forwarded (hempty : state.packets = []) {event : Event}
    (hreceive : (receive timeout state input).2 = .forwarded event) :
    Step timeout state input [event]
      ⟨(receive timeout state input).1, [], state.sequenceFlushed, state.allocated⟩ := by
  have hstarts := Starts.forwarded event hreceive
  rw [hempty] at hstarts
  have hquiescent : Quiescent timeout input.now ⟨[], state.sequenceFlushed, [event]⟩ :=
    ⟨by simp, by simp⟩
  exact Step.of_starts hstarts (returns_of_quiescent _ hquiescent)

/-- Ready for the packet with this number: nothing is held, and the counter stands right before it
unless the buffer is not used at all. -/
structure Ready (timeout : Timeval) (number : BitVec 32) (state : State) : Prop where
  empty : state.packets = []
  next : (timeout.tvSec = 0 ∧ timeout.tvUsec = 0) ∨ number = state.sequenceFlushed + 1

/-- The next packet is written in the iteration it arrives, whichever way it takes. -/
theorem Ready.step {proto : BitVec 16} {key number : BitVec 32} {packet : List Byte}
    (hready : Ready timeout number state) (hfits : packet.length ≤ 1488)
    (hrecvfrom : input.recvfrom = .datagram input.haapIp (dataMessage proto key number packet)) :
    ∃ events next, Step timeout state input events next ∧ writes events = [packet] ∧
      Ready timeout (number + 1) next := by
  have hreceive : (receive timeout state input).2 = _ :=
    receive_dataMessage state hfits hrecvfrom
  by_cases hdirect : timeout.tvSec = 0 ∧ timeout.tvUsec = 0
  · rw [if_pos hdirect] at hreceive
    exact ⟨_, _, step_forwarded hready.empty hreceive, rfl, rfl, Or.inl hdirect⟩
  · rw [if_neg hdirect] at hreceive
    have hnext := hready.next.resolve_left hdirect
    refine ⟨_, _, step_next hready.empty hreceive hnext, ?_, rfl, Or.inr (by rw [hnext])⟩
    have hsize : (BitVec.ofNat 16 packet.length).toNat = packet.length := by
      rw [BitVec.toNat_ofNat]
      omega
    simp only [writes, List.filterMap_cons, List.filterMap_nil, Event.payload,
      ReorderBufferElement.payload, hsize, List.take_length]

/-- The messages, received in this order, make a run. -/
theorem exists_run_of_messages (timeout : Timeval) {key : BitVec 32} {protos : List Byte → BitVec 16}
    {deliveries : List Input} {packets : List (List Byte)}
    (hlengths : deliveries.length = packets.length)
    (hfits : ∀ packet ∈ packets, packet.length ≤ 1488)
    (hdeliveries : ∀ i (delivery : Input) packet, deliveries[i]? = some delivery →
      packets[i]? = some packet → delivery.recvfrom = .datagram delivery.haapIp
        (dataMessage (protos packet) key (BitVec.ofNat 32 i) packet))
    (buffer : Memory) (k : Nat) :
    ∃ history state, Run timeout (State.initial buffer) history state ∧
      history.map Prod.fst = deliveries.take k ∧
      history.map (fun step => writes step.2) = (packets.take k).map (fun packet => [packet]) ∧
      (k ≤ packets.length → Ready timeout (BitVec.ofNat 32 k) state) := by
  induction k with
  | zero =>
      refine ⟨[], _, .nil, rfl, rfl, fun _ => ⟨rfl, Or.inr ?_⟩⟩
      simp only [State.initial]
      decide
  | succ k ih =>
      obtain ⟨history, state, hrun, hinputs, hwrites, hready⟩ := ih
      by_cases hk : k < packets.length
      · have hdelivery : deliveries[k]? = some deliveries[k] := List.getElem?_eq_getElem _
        have hpacket : packets[k]? = some packets[k] := List.getElem?_eq_getElem _
        obtain ⟨events, next, hstep, hevents, hnext⟩ := (hready hk.le).step
          (hfits packets[k] (List.getElem_mem hk)) (hdeliveries k _ _ hdelivery hpacket)
        refine ⟨_, next, .snoc hrun trivial hstep, ?_, ?_, fun _ => ?_⟩
        · rw [List.map_append, hinputs, List.take_add_one, hdelivery]
          rfl
        · rw [List.map_append, hwrites, List.take_add_one, hpacket, List.map_append,
            List.map_singleton, hevents]
          rfl
        · have hsucc : BitVec.ofNat 32 (k + 1) = BitVec.ofNat 32 k + 1 := by
            apply BitVec.eq_of_toNat_eq
            simp [Nat.add_mod]
          rwa [hsucc]
      · refine ⟨history, state, hrun, ?_, ?_, fun hle => absurd hle (by omega)⟩
        · rw [hinputs, List.take_of_length_le (by omega), List.take_of_length_le (by omega)]
        · rw [hwrites, List.take_of_length_le (by omega), List.take_of_length_le (by omega)]

end Gre2tun

/-- **The data plane.** The packets read while the LTE tunnel stays up are sent under the numbers
0, 1, 2, …, every message passes the filter of the receiving socket, and a receiver in its initial
state that gets them in order writes exactly these packets, each in the iteration it arrives:
whatever its clock, its timeout and the address it expects at the time. -/
theorem data_plane_round_trip {key : BitVec 32} {inputs : List Tun2gre.Input}
    {packets : List (List Byte)} (hinputs : List.Forall₂ (Tun2gre.Carries key) inputs packets)
    (sendBuffer receiveBuffer : Memory) :
    let datagrams :=
      (Tun2gre.messages (Tun2gre.State.initial sendBuffer) inputs).map Message.bytes
    datagrams = packets.mapIdx (fun i packet =>
      Gre2tun.dataMessage (Tun2gre.etherproto packet) key (BitVec.ofNat 32 i) packet) ∧
    (∀ datagram ∈ datagrams, Bpf.Accepts (greSocketFilter key) datagram) ∧
    ∀ (timeout : Timeval) (deliveries : List Gre2tun.Input),
      List.Forall₂ (fun (delivery : Gre2tun.Input) datagram =>
        delivery.recvfrom = .datagram delivery.haapIp datagram) deliveries datagrams →
      (∃ history state, Gre2tun.Run timeout (Gre2tun.State.initial receiveBuffer) history state ∧
        history.map Prod.fst = deliveries) ∧
      ∀ history state, Gre2tun.Run timeout (Gre2tun.State.initial receiveBuffer) history state →
        history.map Prod.fst = deliveries →
        history.map (fun step => Gre2tun.writes step.2) = packets.map fun packet => [packet] := by
  intro datagrams
  have hdatagrams : datagrams = packets.mapIdx fun i packet =>
      Gre2tun.dataMessage (Tun2gre.etherproto packet) key (BitVec.ofNat 32 i) packet := by
    have hmessages := Tun2gre.messages_carries hinputs (Tun2gre.State.initial sendBuffer)
    simp only [Tun2gre.State.initial, BitVec.ofNat_eq_ofNat, BitVec.zero_add] at hmessages
    exact hmessages
  refine ⟨hdatagrams, ?_, fun timeout deliveries hdeliveries => ?_⟩
  · intro datagram hmem
    rw [hdatagrams, List.mem_mapIdx] at hmem
    obtain ⟨i, hi, rfl⟩ := hmem
    exact Tun2gre.accepts_dataMessage _ _
  · have hlengths : deliveries.length = packets.length := by
      rw [hdeliveries.length_eq, hdatagrams, List.length_mapIdx]
    have hfits : ∀ packet ∈ packets, packet.length ≤ 1488 := by
      intro packet hmem
      obtain ⟨i, hi, rfl⟩ := List.mem_iff_getElem.mp hmem
      exact ((List.forall₂_iff_get.mp hinputs).2 i (hinputs.length_eq ▸ hi) hi).fits
    have hnumbered : ∀ i (delivery : Gre2tun.Input) packet, deliveries[i]? = some delivery →
        packets[i]? = some packet → delivery.recvfrom = .datagram delivery.haapIp
          (Gre2tun.dataMessage (Tun2gre.etherproto packet) key (BitVec.ofNat 32 i) packet) := by
      intro i delivery packet hdelivery hpacket
      obtain ⟨hi, rfl⟩ := List.getElem?_eq_some_iff.mp hdelivery
      obtain ⟨hj, rfl⟩ := List.getElem?_eq_some_iff.mp hpacket
      have hget := (List.forall₂_iff_get.mp hdeliveries).2 i hi (hdeliveries.length_eq ▸ hi)
      simpa [hdatagrams] using hget
    obtain ⟨history, state, hrun, hfed, hwrites, _⟩ :=
      Gre2tun.exists_run_of_messages timeout hlengths hfits hnumbered receiveBuffer packets.length
    rw [List.take_of_length_le hlengths.le] at hfed
    rw [List.take_length] at hwrites
    refine ⟨⟨history, state, hrun, hfed⟩, fun other otherState hother hotherFed => ?_⟩
    obtain ⟨rfl, _⟩ := RunWhere.unique (fun _ _ _ _ _ _ hone htwo => hone.deterministic htwo) hother
      hrun (hotherFed.trans hfed.symm)
    exact hwrites

def tcpSyn : List Byte :=
  [0x45, 0, 0, 40, 0, 1, 0x40, 0, 64, 6, 0x26, 0xcd, 10, 0, 0, 1, 10, 0, 0, 2,
    0xc0, 0, 0, 80, 0, 0, 0, 1, 0, 0, 0, 0, 0x50, 2, 0xff, 0xff, 0xdb, 0x8e, 0, 0]

def bareIpv6 : List Byte :=
  [0x60, 0, 0, 0, 0, 0, 59, 64] ++ List.replicate 15 0 ++ [1] ++ List.replicate 15 0 ++ [2]

def Gre2tun.carrying (number : BitVec 32) (packet : List Byte) : Gre2tun.Input where
  recvfrom := .datagram in6addrAny
    (dataMessage (Tun2gre.etherproto packet) 7 number packet)
  haapIp := in6addrAny
  timestamp := ⟨5, 0⟩
  now := ⟨5, 0⟩

/-- Two packets, one of each version. -/
theorem both_versions_round_trip :
    (∃ history state,
      Gre2tun.Run ⟨0, 250000⟩ (Gre2tun.State.initial fun _ => 0) history state ∧
        history.map Prod.fst = [Gre2tun.carrying 0 tcpSyn, Gre2tun.carrying 1 bareIpv6]) ∧
    ∀ history state, Gre2tun.Run ⟨0, 250000⟩ (Gre2tun.State.initial fun _ => 0) history state →
      history.map Prod.fst = [Gre2tun.carrying 0 tcpSyn, Gre2tun.carrying 1 bareIpv6] →
      history.map (fun step => Gre2tun.writes step.2) = [[tcpSyn], [bareIpv6]] := by
  set runtime : Runtime := { Runtime.zero with
    haap := { Runtime.zero.haap with bondingKey := 7 }
    lte := { Runtime.zero.lte with tunnelEstablished := true } } with hruntime
  have hfirst : Tun2gre.Carries 7 ⟨tcpSyn, runtime⟩ tcpSyn :=
    ⟨rfl, List.cons_ne_nil _ _, by decide, by decide, rfl, rfl⟩
  have hsecond : Tun2gre.Carries 7 ⟨bareIpv6, runtime⟩ bareIpv6 :=
    ⟨rfl, List.cons_ne_nil _ _, by decide, by decide, rfl, rfl⟩
  have htrip := data_plane_round_trip (.cons hfirst (.cons hsecond .nil)) (fun _ => 0) fun _ => 0
  obtain ⟨hdatagrams, _, hreceiver⟩ := htrip
  refine hreceiver ⟨0, 250000⟩ [Gre2tun.carrying 0 tcpSyn, Gre2tun.carrying 1 bareIpv6] ?_
  rw [hdatagrams]
  exact .cons rfl (.cons rfl .nil)

end OpenHybrid

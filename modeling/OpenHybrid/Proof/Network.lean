import OpenHybrid.Lib.Channel
import OpenHybrid.Proof.IterationEnd
import OpenHybrid.Proof.Upstream

/-!
# Across a network

Between the two threads datagrams get lost, are repeated and overtake each other, and others send
datagrams of their own. Whatever happens there, the tun device gets the packets in the order in which
they were read, none of them twice: the two threads and the network between them are a channel that
keeps the order.
-/

namespace OpenHybrid

open ByteMemory Transition

/-! ### What is sent -/

namespace Tun2gre

open Gre2tun (dataMessage)

def Sends (input : Input) : Prop :=
  (version input.packet = 4#8 ∨ version input.packet = 6#8) ∧
    input.runtime.lte.tunnelEstablished = true

instance (input : Input) : Decidable (Sends input) := inferInstanceAs (Decidable (_ ∧ _))

def sent (inputs : List Input) : List Input := inputs.filter fun input => Sends input

theorem sent_cons_of_sends {input : Input} (hsends : Sends input) (inputs : List Input) :
    sent (input :: inputs) = input :: sent inputs := List.filter_cons_of_pos (by simpa using hsends)

theorem sent_cons_of_not_sends {input : Input} (hsends : ¬ Sends input) (inputs : List Input) :
    sent (input :: inputs) = sent inputs := List.filter_cons_of_neg (by simpa using hsends)

def datagram (sequence : BitVec 32) (input : Input) : List Byte :=
  dataMessage (etherproto input.packet) input.runtime.haap.bondingKey sequence input.packet

theorem iteration_of_sends (state : State) {input : Input} (hsends : Sends input) :
    (iteration state input).1.sequence = state.sequence + 1 ∧
      (iteration state input).2.map Message.bytes = some (datagram state.sequence input) := by
  obtain ⟨hip, hestablished⟩ := hsends
  have hmessage := congrArg (List.map Message.bytes) (iteration_calls state input)
  rw [calls_eq state hip, if_pos hestablished, List.map_singleton, List.map_singleton] at hmessage
  have hsequence : (iteration state input).2.isSome →
      (iteration state input).1.sequence = state.sequence + 1 := by
    unfold iteration iteration.forward
    dsimp only
    rw [hestablished]
    split_ifs <;> simp
  cases hoption : (iteration state input).2 with
  | none => rw [hoption] at hmessage; simp at hmessage
  | some message =>
      rw [hoption] at hmessage hsequence
      simp only [Option.toList_some, List.map_cons, List.map_nil, List.cons.injEq, and_true]
        at hmessage
      exact ⟨hsequence rfl, congrArg some hmessage⟩

theorem iteration_of_not_sends (state : State) {input : Input} (hsends : ¬ Sends input) :
    (iteration state input).1.sequence = state.sequence ∧ (iteration state input).2 = none := by
  cases hread : input.read with
  | nil =>
      have hlength : ¬ 0 < input.read.length := by
        rw [hread]
        exact Nat.lt_irrefl 0
      rw [iteration, if_neg hlength]
      exact ⟨rfl, rfl⟩
  | cons first rest =>
      have hversion : ipVersion (received state.buffer input.read) = version input.packet := by
        rw [Input.packet, hread]
        rfl
      have hforward : (version input.packet = 4#8 ∨ version input.packet = 6#8) → ∀ proto,
          iteration.forward state input (received state.buffer input.read) proto
            (input.read.take maxPktSize) =
              ({ state with buffer := received state.buffer input.read }, none) := by
        intro hip proto
        have hdown : input.runtime.lte.tunnelEstablished = false :=
          Bool.eq_false_of_not_eq_true fun hup => hsends ⟨hip, hup⟩
        simp [iteration.forward, hdown]
      unfold iteration
      dsimp only
      rw [hversion]
      split_ifs with hlength hfour hsix
      · rw [hforward (Or.inl hfour)]
        exact ⟨rfl, rfl⟩
      · rw [hforward (Or.inr hsix)]
        exact ⟨rfl, rfl⟩
      · exact ⟨rfl, rfl⟩
      · exact ⟨rfl, rfl⟩

/-- Whatever happens to the tunnels, the numbers run on: one for each packet that is sent. -/
theorem messages_eq (inputs : List Input) : ∀ state,
    (messages state inputs).map Message.bytes =
      (sent inputs).mapIdx fun i input => datagram (state.sequence + BitVec.ofNat 32 i) input := by
  induction inputs with
  | nil => intro state; rfl
  | cons input inputs ih =>
      intro state
      rw [messages, List.map_append, ih]
      by_cases hsends : Sends input
      · obtain ⟨hsequence, hmessage⟩ := iteration_of_sends state hsends
        have hlist : (iteration state input).2.toList.map Message.bytes =
            [datagram state.sequence input] := by
          rw [← Option.toList_map, hmessage, Option.toList_some]
        rw [hlist, hsequence, sent_cons_of_sends hsends, List.mapIdx_cons, List.singleton_append]
        congr 1
        · simp
        · congr 1
          funext i input
          congr 1
          bv_omega
      · obtain ⟨hsequence, hnone⟩ := iteration_of_not_sends state hsends
        rw [hnone, hsequence, sent_cons_of_not_sends hsends]
        rfl

end Tun2gre

/-! ### What arrives -/

namespace Gre2tun

open Channel

variable {timeout now : Timeval} {stream : List (List Byte)}

/-- A stream whose numbers do not wrap and whose packets fit. -/
structure Streamable (stream : List (List Byte)) : Prop where
  length_le : stream.length ≤ 2 ^ 32
  nonempty : ∀ packet ∈ stream, packet ≠ []
  fits : ∀ packet ∈ stream, packet.length ≤ 1488

def Carries (stream : List (List Byte)) (place : Nat) (bytes : List Byte) : Prop :=
  ∃ proto key packet, stream[place]? = some packet ∧
    bytes = dataMessage proto key (BitVec.ofNat 32 place) packet

/-- What comes from the HAAP is a datagram of the stream: any of them, at any time, any number of
times. -/
def Genuine (stream : List (List Byte)) (input : Input) : Prop :=
  ∀ bytes, input.recvfrom = .datagram input.haapIp bytes → ∃ place, Carries stream place bytes

/-- A slot of the stream: it holds its packet, or the counter is past it. -/
def OfStream (stream : List (List Byte)) (count : Nat) (element : ReorderBufferElement) : Prop :=
  ∃ place packet, stream[place]? = some packet ∧ element.sequence = BitVec.ofNat 32 place ∧
    (element.Live → element.payload = packet) ∧ (¬ element.Live → place < count)

/-- The counter has been through the first numbers of the stream, and of their packets some have been
written, in order. -/
structure Conveying (timeout : Timeval) (stream : List (List Byte)) (events : List Event)
    (counter : BitVec 32) (packets : List ReorderBufferElement) : Prop where
  tallied : Tallied timeout events counter
  slots : ∀ element ∈ packets, OfStream stream (passed events).length element
  few : (passed events).length = 0 → packets.length ≤ 1
  conveyed : Conveyed stream (passed events).length (writes events)

def FirstLap (events : List Event) : Prop := (passed events).length ≤ 2 ^ 32

instance (events : List Event) : Decidable (FirstLap events) := inferInstanceAs (Decidable (_ ≤ _))

theorem writes_append (before after : List Event) :
    writes (before ++ after) = writes before ++ writes after := List.filterMap_append

theorem writes_discardEvents (counter : BitVec 32) (packets : List ReorderBufferElement) :
    writes (discardEvents counter packets) = [] := by
  rw [writes, List.filterMap_eq_nil_iff]
  intro event hmem
  obtain ⟨element, _, hmem⟩ := List.mem_flatMap.mp hmem
  rcases List.mem_cons.mp hmem with rfl | hmem
  · rfl
  · rw [List.mem_singleton.mp hmem]
    rfl

theorem OfStream.mono {count more : Nat} {element : ReorderBufferElement} (hle : count ≤ more)
    (hslot : OfStream stream count element) : OfStream stream more element := by
  obtain ⟨place, packet, hpacket, hnumber, hlive, hdead⟩ := hslot
  exact ⟨place, packet, hpacket, hnumber, hlive, fun hflushed => (hdead hflushed).trans_le hle⟩

theorem place_lt (hstream : Streamable stream) {place : Nat} {packet : List Byte}
    (hpacket : stream[place]? = some packet) : place < 2 ^ 32 :=
  (List.getElem?_eq_some_iff.mp hpacket).1.trans_le hstream.length_le

theorem place_eq_of_number {place count : Nat} (hplace : place < 2 ^ 32) (hcount : count < 2 ^ 32)
    (hnumber : BitVec.ofNat 32 place = BitVec.ofNat 32 count) : place = count := by
  have hnat := congrArg BitVec.toNat hnumber
  rwa [BitVec.toNat_ofNat, BitVec.toNat_ofNat, Nat.mod_eq_of_lt hplace, Nat.mod_eq_of_lt hcount]
    at hnat

/-- A step of the counter writes the packet of its place, or none. -/
theorem Conveying.advance (hstream : Streamable stream) {history : List Event}
    {flushing next : Flushing}
    (hconveying : Conveying timeout stream (history ++ flushing.events) flushing.sequenceFlushed
      flushing.packets)
    (hlap : FirstLap (history ++ next.events)) (hadvance : Advance timeout now flushing next) :
    Conveying timeout stream (history ++ next.events) next.sequenceFlushed next.packets := by
  obtain ⟨htallied, hslots, hfew, hconveyed⟩ := hconveying
  cases hadvance with
  | flush before element after counter events hnext =>
      have hpasses : passed [.written element, .freed element.packet.handle] = [counter + 1] := by
        simp [passed, Event.passes, hnext]
      have hlength : (passed (history ++ events ++
          [.written element, .freed element.packet.handle])).length =
            (passed (history ++ events)).length + 1 := by
        rw [passed_append, hpasses, List.length_append, List.length_singleton]
      rw [← List.append_assoc] at hlap ⊢
      have hcount : (passed (history ++ events)).length + 1 ≤ 2 ^ 32 := hlength ▸ hlap
      obtain ⟨place, packet, hpacket, hnumber, hlive, hdead⟩ := hslots element (by simp)
      obtain rfl : place = (passed (history ++ events)).length := by
        refine place_eq_of_number (place_lt hstream hpacket) (by omega) ?_
        rw [← hnumber, hnext]
        exact htallied.counter_eq
      have hheld : element.Live := by
        by_contra hflushed
        exact Nat.lt_irrefl _ (hdead hflushed)
      refine ⟨htallied.advance hpasses (by simp), ?_, fun hzero => absurd hzero (by omega), ?_⟩
      · intro other hother
        rw [hlength]
        rcases mem_flush_iff.mp hother with rfl | hmem
        · exact ⟨_, packet, hpacket, hnumber, fun hlive => absurd hlive (not_live_flushed element),
            fun _ => Nat.lt_succ_self _⟩
        · refine (hslots other ?_).mono (Nat.le_succ _)
          rcases List.mem_append.mp hmem with hmem | hmem <;> simp [hmem]
      · have hwrites : writes [.written element, .freed element.packet.handle] = [packet] := by
          rw [← hlive hheld]
          rfl
        rw [hlength, writes_append, hwrites]
        exact hconveyed.deliver hpacket
  | skip packets held counter events hmissing hheld hoverdue =>
      have hpasses : passed [.timedOut (counter + 1) held (held.age now)] = [counter + 1] := rfl
      have hlength : (passed (history ++ events ++
          [.timedOut (counter + 1) held (held.age now)])).length =
            (passed (history ++ events)).length + 1 := by
        rw [passed_append, hpasses, List.length_append, List.length_singleton]
      rw [← List.append_assoc]
      refine ⟨htallied.advance hpasses ?_, ?_, fun hzero => absurd hzero (by omega), ?_⟩
      · intro missing other age hmem
        simp only [List.mem_singleton, Event.timedOut.injEq] at hmem
        obtain ⟨rfl, rfl, rfl⟩ := hmem
        exact hoverdue
      · intro other hother
        rw [hlength]
        exact (hslots other hother).mono (Nat.le_succ _)
      · have hwrites : writes [.timedOut (counter + 1) held (held.age now)] = [] := rfl
        rw [hlength, writes_append, hwrites, List.append_nil]
        exact hconveyed.lose

structure Conveys (timeout : Timeval) (stream : List (List Byte)) (events : List Event)
    (state : State) : Prop where
  conveying : Conveying timeout stream events state.sequenceFlushed state.packets
  unstarted : (passed events).length = 0 → state.packets = []
  missing : ∀ element ∈ state.packets, element.sequence ≠ state.sequenceFlushed + 1

theorem counter_of_count {events : List Event} {counter : BitVec 32}
    (htallied : Tallied timeout events counter) (hlap : FirstLap events)
    (hpos : 0 < (passed events).length) : counter.toNat = (passed events).length - 1 := by
  have hcounter := htallied.counter_eq
  have hle : (passed events).length ≤ 2 ^ 32 := hlap
  generalize (passed events).length = count at hcounter hle hpos
  have hnat := congrArg BitVec.toNat hcounter
  have hlt := counter.isLt
  simp only [BitVec.toNat_add, BitVec.toNat_ofNat, BitVec.ofNat_eq_ofNat] at hnat
  omega

/-- What is at or below the counter has been passed, once the counter has moved at all. -/
theorem place_lt_of_le (hstream : Streamable stream) {events : List Event} {counter : BitVec 32}
    (htallied : Tallied timeout events counter) (hlap : FirstLap events)
    (hpos : 0 < (passed events).length) {place : Nat} {packet : List Byte}
    (hpacket : stream[place]? = some packet) (hle : BitVec.ofNat 32 place ≤ counter) :
    place < (passed events).length := by
  have hcounter := counter_of_count htallied hlap hpos
  have hplace := place_lt hstream hpacket
  rw [BitVec.le_def, BitVec.toNat_ofNat, Nat.mod_eq_of_lt hplace] at hle
  omega

/-- Before anything has been passed, everything is behind the counter. -/
theorem compact_unstarted {events : List Event} {counter : BitVec 32}
    {packets : List ReorderBufferElement} (htallied : Tallied timeout events counter)
    (hzero : (passed events).length = 0) (hfew : packets.length ≤ 1) :
    compact (discardLate counter packets) = [] := by
  have hcounter : counter = BitVec.allOnes 32 := by
    have hsucc := htallied.counter_eq
    rw [hzero] at hsucc
    rw [show BitVec.allOnes 32 = 0xffffffff#32 by decide]
    bv_omega
  match packets, hfew with
  | [], _ => rfl
  | [element], _ =>
      refine compact_of_not_live fun hlive => ?_
      dsimp only at hlive
      split_ifs at hlive with hlate
      · exact not_live_flushed element hlive
      · refine hlate ⟨hlive, ?_⟩
        have hlt := element.sequence.isLt
        rw [hcounter, BitVec.le_def, BitVec.toNat_allOnes]
        omega

theorem Conveying.finish (hstream : Streamable stream) {history : List Event} {flushing : Flushing}
    (buffer : Memory) (allocated : Nat) (hlap : FirstLap (history ++ flushing.events))
    (hconveying : Conveying timeout stream (history ++ flushing.events) flushing.sequenceFlushed
      flushing.packets)
    (hquiescent : Quiescent timeout now flushing) :
    Conveys timeout stream (history ++ (Gre2tun.finish buffer allocated flushing).2)
      (Gre2tun.finish buffer allocated flushing).1 := by
  obtain ⟨htallied, hslots, hfew, hconveyed⟩ := hconveying
  have hquiet := passed_discardEvents flushing.sequenceFlushed flushing.packets
  have hpassed : passed (history ++ (flushing.events ++
      discardEvents flushing.sequenceFlushed flushing.packets)) =
        passed (history ++ flushing.events) := by
    rw [← List.append_assoc, passed_append, hquiet, List.append_nil]
  have hwrites : writes (history ++ (flushing.events ++
      discardEvents flushing.sequenceFlushed flushing.packets)) =
        writes (history ++ flushing.events) := by
    rw [← List.append_assoc, writes_append, writes_discardEvents, List.append_nil]
  have hempty : (passed (history ++ flushing.events)).length = 0 →
      compact (discardLate flushing.sequenceFlushed flushing.packets) = [] :=
    fun hzero => compact_unstarted htallied hzero (hfew hzero)
  simp only [Gre2tun.finish]
  refine ⟨⟨?_, ?_, ?_, ?_⟩, ?_, ?_⟩
  · rw [← List.append_assoc]
    exact htallied.append_of_quiet hquiet
  · intro element hmem
    rw [hpassed]
    obtain ⟨old, hold, ⟨rfl, _⟩ | ⟨rfl, hlate⟩⟩ := mem_compact_discardLate hmem
    · exact hslots element hold
    · obtain ⟨place, packet, hpacket, hnumber, _, _⟩ := hslots old hold
      refine ⟨place, packet, hpacket, hnumber, fun hlive => absurd hlive (not_live_flushed old),
        fun _ => ?_⟩
      refine place_lt_of_le hstream htallied hlap (Nat.pos_of_ne_zero fun hzero => ?_) hpacket
        (hnumber ▸ hlate.2)
      rw [hempty hzero] at hmem
      exact absurd hmem List.not_mem_nil
  · intro hzero
    rw [hpassed] at hzero
    rw [hempty hzero]
    exact Nat.zero_le 1
  · rw [hpassed, hwrites]
    exact hconveyed
  · intro hzero
    rw [hpassed] at hzero
    exact hempty hzero
  · intro element hmem
    obtain ⟨old, hold, ⟨rfl, _⟩ | ⟨rfl, _⟩⟩ := mem_compact_discardLate hmem
    · exact hquiescent.missing element hold
    · exact hquiescent.missing old hold

def waitingSlot (state : State) (input : Input) (place : Nat) (packet : List Byte) :
    ReorderBufferElement :=
  ⟨BitVec.ofNat 32 place, input.timestamp, ⟨state.allocated, packet⟩,
    BitVec.ofNat 16 packet.length⟩

/-- A datagram of the stream goes into the buffer, and nothing else does. -/
theorem receive_genuine (hstream : Streamable stream)
    (htimeout : ¬ (timeout.tvSec = 0 ∧ timeout.tvUsec = 0)) (state : State) {input : Input}
    (hgenuine : Genuine stream input) :
    (receive timeout state input).2 = .skipped ∨ (receive timeout state input).2 = .idle ∨
      ∃ place packet, stream[place]? = some packet ∧
        (∃ bytes, input.recvfrom = .datagram input.haapIp bytes ∧ Carries stream place bytes) ∧
        (receive timeout state input).2 = .enqueued (waitingSlot state input place packet) := by
  cases hrecvfrom : input.recvfrom with
  | failed eagain =>
      cases eagain <;> simp [receive, hrecvfrom]
  | datagram saddr bytes =>
      by_cases hsaddr : saddr = input.haapIp
      · subst hsaddr
        obtain ⟨place, hcarries⟩ := hgenuine bytes hrecvfrom
        obtain ⟨proto, key, packet, hpacket, rfl⟩ := hcarries
        refine Or.inr (Or.inr ⟨place, packet, hpacket, ⟨_, rfl, proto, key, packet, hpacket, rfl⟩, ?_⟩)
        rw [receive_dataMessage state (hstream.fits packet (List.mem_of_getElem? hpacket)) hrecvfrom,
          if_neg htimeout, waitingSlot]
      · exact Or.inl (by simp [receive, hrecvfrom, hsaddr])

theorem enqueued_genuine (hstream : Streamable stream)
    (htimeout : ¬ (timeout.tvSec = 0 ∧ timeout.tvUsec = 0)) {state : State} {input : Input}
    {element : ReorderBufferElement} (hgenuine : Genuine stream input)
    (henqueued : (receive timeout state input).2 = .enqueued element) :
    ∃ place packet, stream[place]? = some packet ∧
      (∃ bytes, input.recvfrom = .datagram input.haapIp bytes ∧ Carries stream place bytes) ∧
      element = waitingSlot state input place packet := by
  rcases receive_genuine hstream htimeout state hgenuine with
    hreceive | hreceive | ⟨place, packet, hpacket, hcarries, hreceive⟩
  · exact absurd (henqueued.symm.trans hreceive) (by simp)
  · exact absurd (henqueued.symm.trans hreceive) (by simp)
  · exact ⟨place, packet, hpacket, hcarries,
      Received.enqueued.inj (henqueued.symm.trans hreceive)⟩

theorem live_waitingSlot (hstream : Streamable stream) {place : Nat} {packet : List Byte}
    (hpacket : stream[place]? = some packet) (state : State) (input : Input) :
    (waitingSlot state input place packet).Live ∧
      (waitingSlot state input place packet).payload = packet := by
  have hmem := List.mem_of_getElem? hpacket
  have hlength := hstream.fits packet hmem
  have hpos := List.length_pos_of_ne_nil (hstream.nonempty packet hmem)
  have hsize : (BitVec.ofNat 16 packet.length).toNat = packet.length := by
    rw [BitVec.toNat_ofNat]
    omega
  refine ⟨fun hzero => ?_, ?_⟩
  · have hnat : (BitVec.ofNat 16 packet.length).toNat = 0 := congrArg BitVec.toNat hzero
    omega
  · rw [ReorderBufferElement.payload, waitingSlot, hsize]
    exact List.take_length

theorem Conveys.starts (hstream : Streamable stream)
    (htimeout : ¬ (timeout.tvSec = 0 ∧ timeout.tvUsec = 0)) {events : List Event} {state : State}
    {input : Input} {start : Flushing} {allocated : Nat}
    (hconveys : Conveys timeout stream events state) (hgenuine : Genuine stream input)
    (hstarts : Starts timeout state input start allocated) :
    start.events = [] ∧
      Conveying timeout stream (events ++ start.events) start.sequenceFlushed start.packets := by
  obtain ⟨⟨htallied, hslots, hfew, hconveyed⟩, hunstarted, _⟩ := hconveys
  cases hstarts with
  | forwarded event hforwarded =>
      rcases receive_genuine hstream htimeout state hgenuine with
        hreceive | hreceive | ⟨_, _, _, _, hreceive⟩ <;>
        exact absurd (hforwarded.symm.trans hreceive) (by simp)
  | idle hidle =>
      refine ⟨rfl, ?_⟩
      rw [List.append_nil]
      exact ⟨htallied, hslots, hfew, hconveyed⟩
  | enqueued element henqueued hsize =>
      obtain ⟨place, packet, hpacket, _, rfl⟩ :=
        enqueued_genuine hstream htimeout hgenuine henqueued
      obtain ⟨hlive, hpayload⟩ := live_waitingSlot hstream hpacket state input
      refine ⟨rfl, ?_⟩
      rw [List.append_nil]
      refine ⟨htallied, ?_, ?_, hconveyed⟩
      · intro other hother
        rcases List.mem_append.mp hother with hmem | hmem
        · exact hslots other hmem
        · rw [List.mem_singleton.mp hmem]
          exact ⟨place, packet, hpacket, rfl, fun _ => hpayload, fun hdead => absurd hlive hdead⟩
      · intro hzero
        rw [hunstarted hzero]
        exact Nat.le_refl 1

/-! ### Runs -/

section Runs

variable {state next : State} {input : Input} {history : History Input (List Event)}
  {events : List Event}

theorem FirstLap.of_append {before after : List Event} (hlap : FirstLap (before ++ after)) :
    FirstLap before := by
  rw [FirstLap, passed_append, List.length_append] at hlap
  exact (Nat.le_add_right _ _).trans hlap

theorem Advance.events_eq {flushing next : Flushing} (hadvance : Advance timeout now flushing next) :
    ∃ more, next.events = flushing.events ++ more := by
  cases hadvance with
  | flush before element after counter events hnext => exact ⟨_, rfl⟩
  | skip packets held counter events hmissing hheld hoverdue => exact ⟨_, rfl⟩

theorem Conveying.advances (hstream : Streamable stream) {earlier : List Event}
    {start result : Flushing}
    (hconveying : Conveying timeout stream (earlier ++ start.events) start.sequenceFlushed
      start.packets)
    (hadvances : Advances timeout now start result) (hlap : FirstLap (earlier ++ result.events)) :
    Conveying timeout stream (earlier ++ result.events) result.sequenceFlushed result.packets := by
  refine hadvances.invariant (fun flushing => FirstLap (earlier ++ flushing.events) →
    Conveying timeout stream (earlier ++ flushing.events) flushing.sequenceFlushed
      flushing.packets) ?_ (fun _ => hconveying) hlap
  intro flushing next hbefore hadvance hlap
  refine Conveying.advance hstream (hbefore ?_) hlap hadvance
  obtain ⟨more, hmore⟩ := hadvance.events_eq
  rw [hmore, ← List.append_assoc] at hlap
  exact hlap.of_append

/-- What one iteration preserves. -/
theorem Conveys.step (hstream : Streamable stream)
    (htimeout : ¬ (timeout.tvSec = 0 ∧ timeout.tvUsec = 0))
    (hconveys : Conveys timeout stream (outputs history) state) (hgenuine : Genuine stream input)
    (hstep : Step timeout state input events next)
    (hlap : FirstLap (outputs (history ++ [(input, events)]))) :
    Conveys timeout stream (outputs (history ++ [(input, events)])) next := by
  rw [outputs_append, outputs_singleton] at hlap ⊢
  rcases hstep.cases with ⟨_, rfl, rfl⟩ | ⟨start, allocated, flushing, hstarts, hreturns, hfinish⟩
  · rw [List.append_nil]
    exact ⟨hconveys.conveying, hconveys.unstarted, hconveys.missing⟩
  · obtain ⟨hadvances, hquiescent⟩ := returns_flushRound hreturns
    obtain ⟨rfl, rfl⟩ := Prod.mk.inj hfinish
    obtain ⟨_, hstart⟩ := hconveys.starts hstream htimeout hgenuine hstarts
    have hflushed : FirstLap (outputs history ++ flushing.events) := by
      simp only [← List.append_assoc] at hlap
      exact hlap.of_append
    exact (hstart.advances hstream hadvances hflushed).finish hstream _ _ hflushed hquiescent

/-- What comes out of the network is conveyed, along every run of the first lap. -/
theorem conveys_of_run (hstream : Streamable stream)
    (htimeout : ¬ (timeout.tvSec = 0 ∧ timeout.tvUsec = 0)) {buffer : Memory}
    (hrun : RunWhere (Step timeout) (fun _ _ => Genuine stream) (State.initial buffer) history
      state)
    (hlap : FirstLap (outputs history)) : Conveys timeout stream (outputs history) state := by
  refine hrun.invariant (fun history state => FirstLap (outputs history) →
    Conveys timeout stream (outputs history) state) (fun _ => ?_) ?_ hlap
  · have hcounter : BitVec.allOnes 32 + 1 = BitVec.ofNat 32 0 := by decide
    exact ⟨⟨⟨rfl, hcounter, by simp⟩, by simp [State.initial], fun _ => Nat.zero_le 1, .start⟩,
      fun _ => rfl, by simp [State.initial]⟩
  · intro history state input events next hbefore hgenuine hstep hlap
    refine Conveys.step hstream htimeout (hbefore ?_) hgenuine hstep hlap
    rw [outputs_append] at hlap
    exact hlap.of_append

end Runs

end Gre2tun

/-! ### From one tun device to the other -/

/-- What arrives from the HAAP has been sent, at whatever time and however often. -/
def Sent (sendBuffer : Memory) (inputs : List Tun2gre.Input) (input : Gre2tun.Input) : Prop :=
  ∀ bytes, input.recvfrom = .datagram input.haapIp bytes →
    bytes ∈ (Tun2gre.messages (.initial sendBuffer) inputs).map Message.bytes

def sentPackets (inputs : List Tun2gre.Input) : List (List Byte) :=
  (Tun2gre.sent inputs).map Tun2gre.Input.packet

theorem mem_sentPackets {inputs : List Tun2gre.Input} {packet : List Byte}
    (hmem : packet ∈ sentPackets inputs) :
    ∃ input ∈ inputs, Tun2gre.Sends input ∧ packet = input.packet := by
  obtain ⟨input, hinput, rfl⟩ := List.mem_map.mp hmem
  obtain ⟨hinput, hsends⟩ := List.mem_filter.mp hinput
  exact ⟨input, hinput, by simpa using hsends, rfl⟩

theorem streamable_sentPackets {inputs : List Tun2gre.Input}
    (hlength : (sentPackets inputs).length ≤ 2 ^ 32)
    (hfits : ∀ input ∈ inputs, input.read.length ≤ 1488) :
    Gre2tun.Streamable (sentPackets inputs) := by
  refine ⟨hlength, fun packet hmem => ?_, fun packet hmem => ?_⟩
  · obtain ⟨input, _, ⟨hip, _⟩, rfl⟩ := mem_sentPackets hmem
    rintro hnil
    rw [Tun2gre.version, hnil] at hip
    exact absurd hip (by decide)
  · obtain ⟨input, hinput, _, rfl⟩ := mem_sentPackets hmem
    rw [Tun2gre.Input.packet, List.length_take]
    exact (Nat.min_le_right _ _).trans (hfits input hinput)

/-- What the sender has sent is genuine. -/
theorem genuine_of_sent {sendBuffer : Memory} {inputs : List Tun2gre.Input} {input : Gre2tun.Input}
    (hsent : Sent sendBuffer inputs input) : Gre2tun.Genuine (sentPackets inputs) input := by
  intro bytes hrecvfrom
  have hmem := hsent bytes hrecvfrom
  rw [Tun2gre.messages_eq] at hmem
  obtain ⟨place, hplace⟩ := List.mem_iff_getElem?.mp hmem
  rw [List.getElem?_mapIdx, Option.map_eq_some_iff] at hplace
  obtain ⟨sender, hsender, rfl⟩ := hplace
  refine ⟨place, Tun2gre.etherproto sender.packet, sender.runtime.haap.bondingKey, sender.packet,
    ?_, ?_⟩
  · rw [sentPackets, List.getElem?_map, hsender, Option.map_some]
  · simp [Tun2gre.datagram, Tun2gre.State.initial]

/-- **The order is kept.** Whatever is read on one side and whatever the network does to it, what is
written on the other side are the packets that were sent, in their order and none of them twice,
though some may be missing. -/
theorem in_order_delivery {inputs : List Tun2gre.Input} {timeout : Timeval}
    {sendBuffer buffer : Memory} {history : History Gre2tun.Input (List Gre2tun.Event)}
    {state : Gre2tun.State} (hlength : (sentPackets inputs).length ≤ 2 ^ 32)
    (hfits : ∀ input ∈ inputs, input.read.length ≤ 1488)
    (htimeout : ¬ (timeout.tvSec = 0 ∧ timeout.tvUsec = 0))
    (hrun : RunWhere (Gre2tun.Step timeout) (fun _ _ => Sent sendBuffer inputs)
      (Gre2tun.State.initial buffer) history state)
    (hlap : Gre2tun.FirstLap (outputs history)) :
    (Gre2tun.writes (outputs history)).Sublist (sentPackets inputs) := by
  have hstream := streamable_sentPackets hlength hfits
  have hgenuine := hrun.mono fun _ _ _ hsent => genuine_of_sent hsent
  exact (Gre2tun.conveys_of_run hstream htimeout hgenuine hlap).conveying.conveyed.sublist

def bytesRead (count : Nat) : List Tun2gre.Input :=
  List.replicate count ⟨[0x45#8], { Runtime.zero with
    haap := { Runtime.zero.haap with bondingKey := 7 }
    lte := { Runtime.zero.lte with tunnelEstablished := true } }⟩

theorem sent_bytesRead (count : Nat) : Tun2gre.sent (bytesRead count) = bytesRead count := by
  refine List.filter_eq_self.mpr fun input hinput => ?_
  obtain rfl := List.eq_of_mem_replicate hinput
  decide

theorem sentPackets_bytesRead (count : Nat) :
    sentPackets (bytesRead count) = List.replicate count [0x45#8] := by
  rw [sentPackets, sent_bytesRead, bytesRead, List.map_replicate]
  rfl

theorem length_bytesRead {count : Nat} : ∀ input ∈ bytesRead count, input.read.length ≤ 1488 := by
  intro input hinput
  obtain rfl := List.eq_of_mem_replicate hinput
  simp

theorem sent_numbered {count number : Nat} (hnumber : number < count) :
    Sent (fun _ => 0) (bytesRead count) (Gre2tun.numbered (BitVec.ofNat 32 number)) := by
  intro bytes hrecvfrom
  obtain ⟨_, rfl⟩ := Gre2tun.Recvfrom.datagram.inj hrecvfrom
  rw [Tun2gre.messages_eq, sent_bytesRead]
  refine List.mem_of_getElem? (i := number) ?_
  have hsequence : (Tun2gre.State.initial fun _ => 0).sequence + BitVec.ofNat 32 number =
      BitVec.ofNat 32 number := BitVec.zero_add _
  rw [List.getElem?_mapIdx, bytesRead, List.getElem?_replicate, if_pos hnumber, Option.map_some,
    hsequence]
  rfl

/-- The first of two packets arrives twice and the second one never: one is written. -/
theorem repeated_in_order : ∃ history state,
    RunWhere (Gre2tun.Step ⟨0, 250000⟩) (fun _ _ => Sent (fun _ => 0) (bytesRead 2))
      (Gre2tun.State.initial fun _ => 0) history state ∧
    history.map Prod.fst = [Gre2tun.numbered 0, Gre2tun.numbered 0] ∧
    (Gre2tun.writes (outputs history)).length = 1 ∧
    (Gre2tun.writes (outputs history)).Sublist (sentPackets (bytesRead 2)) := by
  have hfirst := Gre2tun.step_next rfl
    (Gre2tun.receive_numbered (Gre2tun.State.initial fun _ => 0) 0) (by decide)
  set buffer := (Gre2tun.receive ⟨0, 250000⟩ (Gre2tun.State.initial fun _ => 0)
    (Gre2tun.numbered 0)).1
  have hagain := Gre2tun.step_late rfl (Gre2tun.receive_numbered ⟨buffer, [], 0, 1⟩ 0) (by decide)
    (by decide) (by decide)
  have hsent : Sent (fun _ => 0) (bytesRead 2) (Gre2tun.numbered 0) :=
    sent_numbered (show 0 < 2 by decide)
  have hrun : RunWhere (Gre2tun.Step ⟨0, 250000⟩) (fun _ _ => Sent (fun _ => 0) (bytesRead 2))
      (Gre2tun.State.initial fun _ => 0) _ _ := .snoc (.snoc .nil hsent hfirst) hsent hagain
  refine ⟨_, _, hrun, rfl, rfl, in_order_delivery ?_ length_bytesRead (by decide) hrun (by decide)⟩
  rw [sentPackets_bytesRead]
  decide

end OpenHybrid

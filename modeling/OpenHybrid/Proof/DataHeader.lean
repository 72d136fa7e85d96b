import OpenHybrid.Proof.Receive
import OpenHybrid.Tundev

/-!
# Data headers

What the socket filter lets through is long enough for a header without a sequence number. The
length of the datagram is not looked at again, so a header with one may end behind the datagram, and
a datagram that does not fit into the receive buffer is taken for what is left of it.
-/

namespace OpenHybrid.Gre2tun

open ByteMemory Bpf

variable {timeout : Timeval} {state : State} {input : Input} {saddr : In6Addr} {bytes : List Byte}

def headerLength (bytes : List Byte) : Nat := if bytes.headD 0 &&& 0x10#8 ≠ 0 then 12 else 8

def KnownFlags (bytes : List Byte) : Prop :=
  halfAt bytes 0 = grecpFlagsandversionWithSeq ∨ halfAt bytes 0 = grecpFlagsandversion

instance (bytes : List Byte) : Decidable (KnownFlags bytes) :=
  inferInstanceAs (Decidable (_ ∨ _))

/-- The datagram is left alone, and so are the buffer, the counter and the tun device. -/
def Discards (timeout : Timeval) (state : State) (input : Input) : Prop :=
  (receive timeout state input).2 = .skipped ∧
    ∀ rounds, ∃ buffer, iteration timeout rounds state input = some ({ state with buffer }, [])

/-- What follows the header is written. -/
def Forwards (timeout : Timeval) (state : State) (input : Input) (bytes : List Byte) : Prop :=
  headerLength bytes ≤ bytes.length ∧
    (receive timeout state input).2 = .forwarded (.forwarded (bytes.drop (headerLength bytes)))

/-- What follows the header is put into the buffer, under the number in the header. -/
def Buffers (timeout : Timeval) (state : State) (input : Input) (bytes : List Byte) : Prop :=
  headerLength bytes ≤ bytes.length ∧ ∃ element,
    (receive timeout state input).2 = .enqueued element ∧
      element.packet.bytes = bytes.drop (headerLength bytes) ∧
      element.size.toNat = bytes.length - headerLength bytes ∧
      element.sequence.toNat = bigEndian ((bytes.drop 8).take 4)

def ParsedSafely (timeout : Timeval) (state : State) (input : Input) (bytes : List Byte) : Prop :=
  Discards timeout state input ∨ Forwards timeout state input bytes ∨
    Buffers timeout state input bytes

/-! ### What the receive buffer holds -/

theorem flags_received (buffer : Memory) (hlength : 2 ≤ bytes.length) :
    (Grehdr.at (received buffer bytes)).flagsAndVersion = htons (halfAt bytes 0) := by
  have hhalf : htons (halfAt bytes 0) = load 16 (Bpf.memory bytes) := by
    rw [halfAt, Memory.shift_zero, htons, swapBytes_swapBytes (by decide)]
  rw [hhalf]
  refine load_congr fun i hi => ?_
  have htaken : i < (bytes.take maxPktSize).length := by
    rw [List.length_take, maxPktSize]
    omega
  have hleft := buffer.write_of_mem 0 htaken
  have hright := Memory.write_of_mem (fun _ => 0) 0 (show i < bytes.length by omega)
  rw [Nat.zero_add] at hleft hright
  rw [received, hleft, Bpf.memory, hright, List.getElem_take]

theorem headD_eq (bytes : List Byte) : bytes.headD 0 = byteOf (halfAt bytes 0) 1 := by
  have hfirst : byteOf (halfAt bytes 0) 1 = Bpf.memory bytes 0 := by
    rw [halfAt, Memory.shift_zero, byteOf_swapBytes _ (by decide)]
    exact byteOf_load _ (by decide)
  rw [hfirst]
  cases bytes <;> rfl

theorem headerLength_withSeq (hflags : halfAt bytes 0 = grecpFlagsandversionWithSeq) :
    headerLength bytes = 12 := by
  rw [headerLength, headD_eq, hflags]
  decide

theorem headerLength_withoutSeq (hflags : halfAt bytes 0 = grecpFlagsandversion) :
    headerLength bytes = 8 := by
  rw [headerLength, headD_eq, hflags]
  decide

/-! ### The three ways a datagram goes -/

theorem discards_of_skipped (hskipped : (receive timeout state input).2 = .skipped) :
    Discards timeout state input := by
  refine ⟨hskipped, fun rounds => ⟨(receive timeout state input).1, ?_⟩⟩
  have hreceive : receive timeout state input = ((receive timeout state input).1, .skipped) :=
    Prod.ext rfl hskipped
  unfold iteration
  rw [hreceive]

theorem drop_take_eq_iff {offset : Nat} (hoffset : offset ≤ bytes.length)
    (hfits : offset ≤ maxPktSize) :
    (bytes.take maxPktSize).drop offset = bytes.drop offset ↔ bytes.length ≤ maxPktSize := by
  constructor
  · intro hsame
    have hlengths := congrArg List.length hsame
    rw [List.length_drop, List.length_take, List.length_drop] at hlengths
    omega
  · intro hshort
    rw [List.take_of_length_le hshort]

/-- What a direct write takes out of the receive buffer. -/
theorem forward_eq_iff (buffer : Memory) {offset : Nat} (hfits : offset ≤ maxPktSize) :
    receive.forward (received buffer bytes) offset ((bytes.take maxPktSize).length : Int) =
        .forwarded (bytes.drop offset) ∧ offset ≤ bytes.length ↔
      offset ≤ bytes.length ∧ bytes.length ≤ maxPktSize := by
  have htaken : (bytes.take maxPktSize).length = min maxPktSize bytes.length := List.length_take
  by_cases hoffset : offset ≤ bytes.length
  · have hread := read_received buffer
      (show offset + ((bytes.take maxPktSize).length - offset) ≤ (bytes.take maxPktSize).length by
        omega)
    rw [← List.length_drop, List.take_length, List.length_drop] at hread
    have hlength : (((bytes.take maxPktSize).length : Int) - offset).toNat =
        (bytes.take maxPktSize).length - offset := by omega
    rw [receive.forward, if_neg (by omega), hlength, hread, Event.forwarded.injEq,
      drop_take_eq_iff hoffset hfits]
    exact and_comm
  · exact iff_of_false (fun hboth => hoffset hboth.2) (fun hboth => hoffset hboth.1)

/-- The slot of a packet whose length came out as `length`. -/
theorem slot_iff (buffer : Memory) :
    (12 ≤ bytes.length ∧
      ((received buffer bytes).shift 12).read
        (BitVec.ofInt 16 (((bytes.take maxPktSize).length : Int) - 12)).toNat = bytes.drop 12 ∧
      (BitVec.ofInt 16 (((bytes.take maxPktSize).length : Int) - 12)).toNat = bytes.length - 12 ∧
      (ntohl (load 32 ((received buffer bytes).shift 8))).toNat =
        bigEndian ((bytes.drop 8).take 4)) ↔
      12 ≤ bytes.length ∧ bytes.length ≤ maxPktSize := by
  refine and_congr_right fun hheader => ?_
  have htaken : (bytes.take maxPktSize).length = min 1500 bytes.length := List.length_take
  have hsize : (BitVec.ofInt 16 (((bytes.take maxPktSize).length : Int) - 12)).toNat =
      (bytes.take maxPktSize).length - 12 := by
    rw [BitVec.toNat_ofInt]
    omega
  constructor
  · rintro ⟨-, hlength, -⟩
    rw [hsize] at hlength
    rw [maxPktSize]
    omega
  · intro hshort
    have hwhole : bytes.take maxPktSize = bytes := List.take_of_length_le hshort
    have hpayload := read_received buffer
      (show 12 + (bytes.length - 12) ≤ (bytes.take maxPktSize).length by rw [hwhole]; omega)
    have hnumber := read_received buffer
      (show 8 + 4 ≤ (bytes.take maxPktSize).length by rw [hwhole]; omega)
    rw [hwhole] at hpayload hnumber hsize ⊢
    rw [hsize]
    refine ⟨?_, rfl, ?_⟩
    · rw [hpayload, ← List.length_drop, List.take_length]
    · rw [ntohl, toNat_swapBytes_load (by decide), ← hnumber]

/-! ### What becomes of a datagram -/

section

variable (timeout state) (hrecvfrom : input.recvfrom = .datagram saddr bytes)
include hrecvfrom

/-- What the HAAP did not send is discarded, and so is what has other flags. -/
theorem receive_unknown (haccepted : 8 ≤ bytes.length)
    (hunknown : saddr ≠ input.haapIp ∨ ¬ KnownFlags bytes) :
    (receive timeout state input).2 = .skipped := by
  have hflags := flags_received state.buffer (show 2 ≤ bytes.length by omega)
  unfold receive
  rw [hrecvfrom]
  dsimp only
  by_cases hsaddr : saddr ≠ input.haapIp
  · rw [if_pos hsaddr]
  · have hknown : ∀ word, halfAt bytes 0 ≠ word → htons (halfAt bytes 0) ≠ htons word := by
      intro word hne hsame
      have hback := congrArg ntohs hsame
      rw [ntohs_htons, ntohs_htons] at hback
      exact hne hback
    obtain ⟨hwithSeq, hwithoutSeq⟩ := not_or.mp (hunknown.resolve_left hsaddr)
    rw [if_neg hsaddr, hflags, if_neg (hknown _ hwithSeq), if_neg (hknown _ hwithoutSeq)]

theorem receive_withoutSeq (hsaddr : saddr = input.haapIp) (haccepted : 8 ≤ bytes.length)
    (hword : halfAt bytes 0 = grecpFlagsandversion) :
    (receive timeout state input).2 = .forwarded
      (receive.forward (received state.buffer bytes) 8 ((bytes.take maxPktSize).length : Int)) := by
  have hflags := flags_received state.buffer (show 2 ≤ bytes.length by omega)
  have hne : htons grecpFlagsandversion ≠ htons grecpFlagsandversionWithSeq := by decide
  unfold receive
  rw [hrecvfrom]
  dsimp only
  rw [if_neg (not_not.mpr hsaddr), hflags, hword, if_neg hne, if_pos rfl]

/-- A datagram with a sequence number is forwarded at once or put into the buffer, under its number.
-/
theorem receive_withSeq (hsaddr : saddr = input.haapIp) (haccepted : 8 ≤ bytes.length)
    (hword : halfAt bytes 0 = grecpFlagsandversionWithSeq) :
    (receive timeout state input).2 =
      if timeout.tvSec = 0 ∧ timeout.tvUsec = 0 then
        .forwarded (receive.forward (received state.buffer bytes) 12
          ((bytes.take maxPktSize).length : Int))
      else .enqueued {
        sequence := ntohl (load 32 ((received state.buffer bytes).shift 8))
        timestamp := input.timestamp
        packet := ⟨state.allocated, ((received state.buffer bytes).shift 12).read
          (BitVec.ofInt 16 (((bytes.take maxPktSize).length : Int) - 12)).toNat⟩
        size := BitVec.ofInt 16 (((bytes.take maxPktSize).length : Int) - 12) } := by
  have hflags := flags_received state.buffer (show 2 ≤ bytes.length by omega)
  unfold receive
  rw [hrecvfrom]
  dsimp only
  rw [if_neg (not_not.mpr hsaddr), hflags, hword, if_pos rfl]

/-- A datagram is taken for what it is as long as its header and its payload fit. -/
theorem parsedSafely_iff {key : BitVec 32} (haccepts : Accepts (greSocketFilter key) bytes) :
    ParsedSafely timeout state input bytes ↔
      saddr ≠ input.haapIp ∨ ¬ KnownFlags bytes ∨
        (headerLength bytes ≤ bytes.length ∧ bytes.length ≤ maxPktSize) := by
  have haccepted := (accepts_greSocketFilter_iff.mp haccepts).1
  by_cases hunknown : saddr ≠ input.haapIp ∨ ¬ KnownFlags bytes
  · refine iff_of_true ?_ (hunknown.imp_right Or.inl)
    exact Or.inl (discards_of_skipped (receive_unknown timeout state hrecvfrom haccepted hunknown))
  · obtain ⟨hsaddr, hknown⟩ := not_or.mp hunknown
    have hsaddr : saddr = input.haapIp := not_not.mp hsaddr
    rw [or_iff_right (not_not.mpr hsaddr), or_iff_right hknown]
    rcases not_not.mp hknown with hword | hword
    · have hreceive := receive_withSeq timeout state hrecvfrom hsaddr haccepted hword
      unfold ParsedSafely Discards Forwards Buffers
      rw [headerLength_withSeq hword, hreceive]
      by_cases hdirect : timeout.tvSec = 0 ∧ timeout.tvUsec = 0
      · rw [if_pos hdirect, ← forward_eq_iff state.buffer (show 12 ≤ maxPktSize by decide)]
        simp [and_comm]
      · rw [if_neg hdirect, ← slot_iff state.buffer]
        simp
    · have hreceive := receive_withoutSeq timeout state hrecvfrom hsaddr haccepted hword
      unfold ParsedSafely Discards Forwards Buffers
      rw [headerLength_withoutSeq hword, hreceive,
        ← forward_eq_iff state.buffer (show 8 ≤ maxPktSize by decide)]
      simp [and_comm]

end

/-- A sequenced packet of one byte. -/
theorem onePacket_parsedSafely :
    ParsedSafely ⟨0, 250000⟩ (State.initial fun _ => 0)
      ⟨.datagram in6addrAny
        [0x30#8, 0#8, 8#8, 0#8, 0#8, 0#8, 0#8, 7#8, 0#8, 0#8, 0#8, 0#8, 0x45#8],
        in6addrAny, ⟨5, 0⟩, ⟨5, 0⟩⟩
      [0x30#8, 0#8, 8#8, 0#8, 0#8, 0#8, 0#8, 7#8, 0#8, 0#8, 0#8, 0#8, 0x45#8] :=
  (parsedSafely_iff _ _ rfl (show Accepts (greSocketFilter 7) _ by decide +kernel)).mpr
    (Or.inr (Or.inr (by decide)))

/-- A sequenced packet that ends where its number should be. -/
theorem cutOff_notParsedSafely :
    Accepts (greSocketFilter 7) [0x30#8, 0#8, 8#8, 0#8, 0#8, 0#8, 0#8, 7#8] ∧
      ¬ ParsedSafely ⟨0, 250000⟩ (State.initial fun _ => 0)
        ⟨.datagram in6addrAny [0x30#8, 0#8, 8#8, 0#8, 0#8, 0#8, 0#8, 7#8], in6addrAny, ⟨5, 0⟩,
          ⟨5, 0⟩⟩
        [0x30#8, 0#8, 8#8, 0#8, 0#8, 0#8, 0#8, 7#8] := by
  refine ⟨by decide +kernel, ?_⟩
  have hheader : ¬ headerLength [0x30#8, 0#8, 8#8, 0#8, 0#8, 0#8, 0#8, 7#8] ≤ 8 := by decide
  rintro (hdiscards | hforwards | hbuffers)
  · have hskipped := hdiscards.1
    rw [receive_withSeq _ _ rfl rfl (by decide) (by decide +kernel), if_neg (by decide)] at hskipped
    exact absurd hskipped nofun
  · exact hheader hforwards.1
  · exact hheader hbuffers.1

end OpenHybrid.Gre2tun

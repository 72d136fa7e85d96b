import OpenHybrid.Gre2tun

/-!
# Receiving

The three ways a datagram leaves `receive`, and what becomes of a well-formed data message.
-/

namespace OpenHybrid.Gre2tun

open ByteMemory

variable {timeout : Timeval}

theorem receive_forwarded {state : State} {input : Input} {event : Event}
    (hreceive : (receive timeout state input).2 = .forwarded event) :
    (∃ payload, event = .forwarded payload) ∨ ∃ size, event = .overread size := by
  have hforward : ∀ (buffer : ByteMemory.Memory) (payloadOffset : Nat) (size : Int),
      receive.forward buffer payloadOffset size = event →
      (∃ payload, event = .forwarded payload) ∨ ∃ size, event = .overread size := by
    rintro buffer payloadOffset size rfl
    rw [receive.forward]
    split_ifs
    · exact Or.inr ⟨_, rfl⟩
    · exact Or.inl ⟨_, rfl⟩
  rw [receive] at hreceive
  split at hreceive
  · split_ifs at hreceive
  · dsimp only at hreceive
    split_ifs at hreceive
    all_goals exact hforward _ _ _ (Received.forwarded.inj hreceive)

/-- A packet put into the reorder buffer gets the next free block and the first clock reading. -/
theorem receive_enqueued {state : State} {input : Input} {element : ReorderBufferElement}
    (hreceive : (receive timeout state input).2 = .enqueued element) :
    element.packet.handle = state.allocated ∧ element.timestamp = input.timestamp ∧
      element.packet.bytes.length = element.size.toNat := by
  rw [receive] at hreceive
  split at hreceive
  · split_ifs at hreceive
  · dsimp only at hreceive
    split_ifs at hreceive
    obtain rfl := Received.enqueued.inj hreceive
    simp

def Input.payload (input : Input) : List Byte :=
  match input.recvfrom with
  | .failed _ => []
  | .datagram _ bytes => (bytes.take maxPktSize).drop 12

/-- What lies behind an offset is the rest of the datagram, as far as it fits into the buffer. -/
theorem read_received (buffer : Memory) {bytes : List Byte} {offset length : Nat}
    (hinside : offset + length ≤ (bytes.take maxPktSize).length) :
    ((received buffer bytes).shift offset).read length =
      ((bytes.take maxPktSize).drop offset).take length := by
  set message := bytes.take maxPktSize with hmessage
  have hsplit : message = message.take offset ++
      ((message.drop offset).take length ++ (message.drop offset).drop length) := by
    rw [List.take_append_drop, List.take_append_drop]
  have hbefore : (message.take offset).length = offset := by
    rw [List.length_take]
    omega
  have hread : ((message.drop offset).take length).length = length := by
    rw [List.length_take, List.length_drop]
    omega
  have hshift := buffer.shift_write_append (message.take offset)
    ((message.drop offset).take length ++ (message.drop offset).drop length)
  rw [← hsplit, hbefore] at hshift
  calc ((received buffer bytes).shift offset).read length
      _ = ((buffer.shift offset).write 0 ((message.drop offset).take length ++
          (message.drop offset).drop length)).read ((message.drop offset).take length).length := by
        rw [hread, ← hshift]
        rfl
      _ = (message.drop offset).take length := Memory.read_write_append _ _ _

theorem receive_enqueued_payload {state : State} {input : Input} {element : ReorderBufferElement}
    (hreceive : (receive timeout state input).2 = .enqueued element)
    (hpayload : input.payload ≠ []) : element.payload = input.payload ∧ element.Live := by
  rw [receive] at hreceive
  cases hrecvfrom : input.recvfrom with
  | failed eagain => simp [Input.payload, hrecvfrom] at hpayload
  | datagram saddr bytes =>
      have hbytes : input.payload = (bytes.take maxPktSize).drop 12 := by
        simp [Input.payload, hrecvfrom]
      rw [hrecvfrom] at hreceive
      dsimp only at hreceive
      split_ifs at hreceive
      obtain rfl := Received.enqueued.inj hreceive
      set message := bytes.take maxPktSize with hmessage
      have hlimit : message.length ≤ 1500 := by
        rw [hmessage, List.length_take, maxPktSize]
        omega
      have hlength : 12 < message.length := by
        by_contra hshort
        exact hpayload (hbytes.trans (List.drop_eq_nil_of_le (by omega)))
      have hrest : ((message.length : Int) - 12) = ((message.drop 12).length : Nat) := by
        rw [List.length_drop]
        omega
      have hword : BitVec.ofInt 16 ((message.drop 12).length : Nat) =
          BitVec.ofNat 16 (message.drop 12).length := by
        simp
      have hnat : (BitVec.ofNat 16 (message.drop 12).length).toNat = (message.drop 12).length := by
        rw [BitVec.toNat_ofNat, List.length_drop]
        omega
      have hinside : 12 + (message.drop 12).length ≤ message.length := by
        rw [List.length_drop]
        omega
      have hread : ((received state.buffer bytes).shift 12).read (message.drop 12).length =
          message.drop 12 :=
        (read_received state.buffer hinside).trans List.take_length
      rw [hbytes, ReorderBufferElement.payload, ReorderBufferElement.Live]
      dsimp only
      rw [hrest, hword, hnat, hread]
      refine ⟨List.take_of_length_le (le_refl _), fun hzero => ?_⟩
      have hempty := congrArg BitVec.toNat hzero
      rw [hnat, List.length_drop] at hempty
      simp only [BitVec.ofNat_eq_ofNat, BitVec.toNat_ofNat, Nat.zero_mod] at hempty
      omega

def Input.number (input : Input) : Nat :=
  match input.recvfrom with
  | .failed _ => 0
  | .datagram _ bytes => bigEndian (((bytes.take maxPktSize).drop 8).take 4)

theorem receive_enqueued_number {state : State} {input : Input} {element : ReorderBufferElement}
    (hreceive : (receive timeout state input).2 = .enqueued element)
    (hpayload : input.payload ≠ []) : element.sequence.toNat = input.number := by
  rw [receive] at hreceive
  cases hrecvfrom : input.recvfrom with
  | failed eagain => simp [Input.payload, hrecvfrom] at hpayload
  | datagram saddr bytes =>
      rw [hrecvfrom] at hreceive
      dsimp only at hreceive
      split_ifs at hreceive
      obtain rfl := Received.enqueued.inj hreceive
      have hlength : 8 + 4 ≤ (bytes.take maxPktSize).length := by
        by_contra hshort
        refine hpayload ?_
        rw [Input.payload, hrecvfrom]
        exact List.drop_eq_nil_of_le (by omega)
      have hread := read_received state.buffer hlength
      dsimp only
      rw [Input.number, hrecvfrom, ntohl, toNat_swapBytes_load (by decide)]
      exact congrArg bigEndian hread

/-- The loop body is left by `continue`: `recvfrom` failed for good, the datagram is not from the
HAAP, or its flags are neither of the two. -/
def LeftByContinue (state : State) (input : Input) : Prop :=
  match input.recvfrom with
  | .failed eagain => eagain = false
  | .datagram saddr bytes =>
      let flags := (Grehdr.at (received state.buffer bytes)).flagsAndVersion
      saddr ≠ input.haapIp ∨
        (flags ≠ htons grecpFlagsandversionWithSeq ∧ flags ≠ htons grecpFlagsandversion)

/-- Nothing is handed on exactly where the loop body is left by `continue`. -/
theorem receive_skipped_iff {state : State} {input : Input} :
    (receive timeout state input).2 = .skipped ↔ LeftByContinue state input := by
  unfold receive LeftByContinue
  cases hrecvfrom : input.recvfrom with
  | failed eagain => cases eagain <;> simp
  | datagram saddr bytes =>
      dsimp only
      split_ifs <;> simp_all

/-! ### Receiving a data message -/

def dataMessage (proto : BitVec 16) (key sequence : BitVec 32) (payload : List Byte) :
    List Byte :=
  Grehdr.bytes ⟨htons grecpFlagsandversionWithSeq, htons proto, htonl key⟩ ++
    storeList (htonl sequence) ++ payload

def dataHeader (proto : BitVec 16) (key : BitVec 32) : Grehdr :=
  ⟨htons grecpFlagsandversionWithSeq, htons proto, htonl key⟩

theorem dataMessage_eq (proto : BitVec 16) (key sequence : BitVec 32) (payload : List Byte) :
    dataMessage proto key sequence payload =
      (dataHeader proto key).bytes ++ (storeList (htonl sequence) ++ payload) := by
  rw [dataMessage, List.append_assoc]
  rfl

theorem dataMessage_length (proto : BitVec 16) (key sequence : BitVec 32) (payload : List Byte) :
    (dataMessage proto key sequence payload).length = 12 + payload.length := by
  rw [dataMessage_eq, List.length_append, List.length_append, Grehdr.bytes_length, storeList_length]
  omega

theorem received_dataMessage (proto : BitVec 16) (key sequence : BitVec 32) {payload : List Byte}
    (buffer : Memory) (hlength : payload.length ≤ 1488) :
    Grehdr.at (received buffer (dataMessage proto key sequence payload)) = dataHeader proto key ∧
      ntohl (load 32 ((received buffer (dataMessage proto key sequence payload)).shift 8)) =
        sequence ∧
      (received buffer (dataMessage proto key sequence payload)).shift 12 =
        (buffer.shift 12).write 0 payload := by
  have hfits : (dataMessage proto key sequence payload).take maxPktSize =
      dataMessage proto key sequence payload :=
    List.take_of_length_le (by rw [dataMessage_length, maxPktSize]; omega)
  have hbuffer : received buffer (dataMessage proto key sequence payload) =
      buffer.write 0 ((dataHeader proto key).bytes ++ (storeList (htonl sequence) ++ payload)) := by
    rw [received, hfits, dataMessage_eq]
  have hbehind : (received buffer (dataMessage proto key sequence payload)).shift 8 =
      (buffer.shift 8).write 0 (storeList (htonl sequence) ++ payload) := by
    rw [hbuffer]
    exact Grehdr.shift_write _ _ _
  refine ⟨?_, ?_, ?_⟩
  · rw [hbuffer]
    exact Grehdr.at_write _ _ _
  · rw [hbehind, load_write_storeList (by decide), ntohl_htonl]
  · have hshift := (buffer.shift 8).shift_write_append (storeList (htonl sequence)) payload
    rw [← hbehind] at hshift
    simpa using hshift

/-- How a data message from the HAAP is received: by its number and payload alone. -/
theorem receive_dataMessage {proto : BitVec 16} {key sequence : BitVec 32} {payload : List Byte}
    (state : State) {input : Input} (hlength : payload.length ≤ 1488)
    (hrecvfrom : input.recvfrom =
      .datagram input.haapIp (dataMessage proto key sequence payload)) :
    (receive timeout state input).2 =
      if timeout.tvSec = 0 ∧ timeout.tvUsec = 0 then .forwarded (.forwarded payload)
      else .enqueued {
        sequence := sequence
        timestamp := input.timestamp
        packet := ⟨state.allocated, payload⟩
        size := BitVec.ofNat 16 payload.length } := by
  obtain ⟨hheader, hsequence, hpayload⟩ :=
    received_dataMessage proto key sequence state.buffer hlength
  have hsize : (dataMessage proto key sequence payload).length = 12 + payload.length :=
    dataMessage_length proto key sequence payload
  have hfits : (dataMessage proto key sequence payload).take maxPktSize =
      dataMessage proto key sequence payload :=
    List.take_of_length_le (by rw [hsize, maxPktSize]; omega)
  have hread : ((received state.buffer (dataMessage proto key sequence payload)).shift 12).read
      payload.length = payload := by
    rw [hpayload]
    exact Memory.read_write _ _
  have hflags : (dataHeader proto key).flagsAndVersion = htons grecpFlagsandversionWithSeq := rfl
  have hrest : ((12 + payload.length : Nat) : Int) - 12 = payload.length := by omega
  have hword : (BitVec.ofInt 16 (payload.length : Int)) = BitVec.ofNat 16 payload.length := by
    simp
  have hnat : (BitVec.ofNat 16 payload.length).toNat = payload.length := by
    rw [BitVec.toNat_ofNat]
    omega
  rw [receive, hrecvfrom]
  simp only [ne_eq, not_true_eq_false, if_false, hheader, hflags, if_true, hfits, hsize, hsequence,
    hrest, hword, hnat, hread]
  split_ifs
  · rw [receive.forward, if_neg (by omega)]
    simp [hread]
  · rfl

end OpenHybrid.Gre2tun

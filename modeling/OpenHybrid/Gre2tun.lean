import OpenHybrid.Gre
import OpenHybrid.Lib.Loop
import OpenHybrid.Lib.Run

/-!
# The receiver thread

`gre2tun_main` of `gre2tun.c`, one iteration of its endless loop at a time. What an iteration does
to the outside is the list of its events; `write` and `free` are the calls of that name, and the
rest are the lines the thread logs.
-/

namespace OpenHybrid.Gre2tun

open ByteMemory

/-- A block handed out by `malloc`, told apart from all others by the number of the call. -/
structure Allocation where
  handle : Nat
  bytes : List Byte
  deriving DecidableEq, Repr

/-- `struct reorder_buffer_element`. A `size` of zero marks the slot as flushed. -/
structure ReorderBufferElement where
  sequence : BitVec 32
  timestamp : Timeval
  packet : Allocation
  size : BitVec 16
  deriving DecidableEq, Repr

def ReorderBufferElement.Live (element : ReorderBufferElement) : Prop := element.size ≠ 0

instance (element : ReorderBufferElement) : Decidable element.Live :=
  inferInstanceAs (Decidable (element.size ≠ 0))

def ReorderBufferElement.flushed (element : ReorderBufferElement) : ReorderBufferElement :=
  { element with size := 0 }

/-- What `write` takes out of the slot: `size` bytes of its packet. -/
def ReorderBufferElement.payload (element : ReorderBufferElement) : List Byte :=
  element.packet.bytes.take element.size.toNat

def ReorderBufferElement.age (now : Timeval) (element : ReorderBufferElement) : Timeval :=
  timersub now element.timestamp

inductive Event where
  /-- A packet written to the tun device straight from the receive buffer. -/
  | forwarded (payload : List Byte)
  /-- A direct write whose length came out negative. -/
  | overread (size : Int)
  /-- A slot written to the tun device, in order. -/
  | written (element : ReorderBufferElement)
  /-- `sequence_flushed` moved past a number nobody holds, because `held` was `age` old. -/
  | timedOut (missing : BitVec 32) (held : ReorderBufferElement) (age : Timeval)
  | discarded (element : ReorderBufferElement)
  | freed (handle : Nat)
  deriving DecidableEq

/-- The locals of `gre2tun_main` that one iteration leaves to the next. -/
structure State where
  buffer : Memory
  packets : List ReorderBufferElement
  sequenceFlushed : BitVec 32
  /-- how many blocks `malloc` has handed out -/
  allocated : Nat

/-- The thread has just been started: nothing buffered, `sequence_flushed = UINT32_MAX`. -/
def State.initial (buffer : Memory) : State := ⟨buffer, [], BitVec.allOnes 32, 0⟩

inductive Recvfrom where
  /-- `size <= 0`; `EAGAIN` is the 100 ms timeout of the socket. -/
  | failed (eagain : Bool)
  /-- The socket filter lets no empty datagram through, so `size` is positive. -/
  | datagram (saddr : In6Addr) (bytes : List Byte)

/-- What one iteration meets: the socket, the clock at both readings, `runtime.haap.ip`. -/
structure Input where
  recvfrom : Recvfrom
  haapIp : In6Addr
  timestamp : Timeval
  now : Timeval

/-! ### Receiving -/

inductive Received where
  /-- the loop body is left by `continue` -/
  | skipped
  | forwarded (event : Event)
  | enqueued (element : ReorderBufferElement)
  | idle

/-- Lines 68 to 101: everything up to the second clock reading. -/
def receive (reorderBufferTimeout : Timeval) (state : State) (input : Input) :
    Memory × Received :=
  match input.recvfrom with
  | .failed eagain => (state.buffer, if eagain then .idle else .skipped)
  | .datagram saddr bytes =>
      let buffer := received state.buffer bytes
      let size : Int := (bytes.take maxPktSize).length
      let greh := Grehdr.at buffer
      -- the payload starts behind the sequence number, if there is one
      let enqueue : Received :=
        if reorderBufferTimeout.tvSec = 0 ∧ reorderBufferTimeout.tvUsec = 0 then
          .forwarded (forward buffer 12 size)
        else
          let length := BitVec.ofInt 16 (size - 12)
          .enqueued {
            sequence := ntohl (load 32 (buffer.shift 8))
            timestamp := input.timestamp
            packet := ⟨state.allocated, (buffer.shift 12).read length.toNat⟩
            size := length }
      if saddr ≠ input.haapIp then (buffer, .skipped)
      else if greh.flagsAndVersion = htons grecpFlagsandversionWithSeq then (buffer, enqueue)
      else if greh.flagsAndVersion = htons grecpFlagsandversion then
        (buffer, .forwarded (forward buffer 8 size))
      else (buffer, .skipped)
where
  /-- `write(sockfd_tun, buffer + payload_offset, size - payload_offset)` -/
  forward (buffer : Memory) (payloadOffset : Nat) (size : Int) : Event :=
    if size < payloadOffset then .overread (size - payloadOffset)
    else .forwarded ((buffer.shift payloadOffset).read (size - payloadOffset).toNat)

/-! ### Flushing -/

/-- What the loops between `restartflushing` and the discard step work on. -/
structure Flushing where
  packets : List ReorderBufferElement
  sequenceFlushed : BitVec 32
  events : List Event

/-- One pass of the inner `for`, over the slots from `i` on. -/
def flushPass (sequenceFlushed : BitVec 32) : List ReorderBufferElement → Flushing
  | [] => ⟨[], sequenceFlushed, []⟩
  | element :: rest =>
      if element.sequence = sequenceFlushed + 1 then
        let flushing := flushPass (sequenceFlushed + 1) rest
        { flushing with
          packets := element.flushed :: flushing.packets
          events := .written element :: .freed element.packet.handle :: flushing.events }
      else
        let flushing := flushPass sequenceFlushed rest
        { flushing with packets := element :: flushing.packets }

def Overdue (reorderBufferTimeout now : Timeval) (element : ReorderBufferElement) : Prop :=
  element.Live ∧ timercmpGe (element.age now) reorderBufferTimeout = true

instance (reorderBufferTimeout now : Timeval) (element : ReorderBufferElement) :
    Decidable (Overdue reorderBufferTimeout now element) :=
  inferInstanceAs (Decidable (_ ∧ _))

/-- One round of `while (flushed_something)`, and when nothing was flushed the timeout check with
its jump back to `restartflushing`. -/
def flushRound (reorderBufferTimeout now : Timeval) (flushing : Flushing) : Flushing ⊕ Flushing :=
  let pass := flushPass flushing.sequenceFlushed flushing.packets
  let flushing := { pass with events := flushing.events ++ pass.events }
  if pass.events ≠ [] then .inl flushing
  else
    match flushing.packets.find? fun element => Overdue reorderBufferTimeout now element with
    | some held =>
        let missing := flushing.sequenceFlushed + 1
        .inl { flushing with
          sequenceFlushed := missing
          events := flushing.events ++ [.timedOut missing held (held.age now)] }
    | none => .inr flushing

/-! ### Discarding and compaction -/

def Late (sequenceFlushed : BitVec 32) (element : ReorderBufferElement) : Prop :=
  element.Live ∧ element.sequence ≤ sequenceFlushed

instance (sequenceFlushed : BitVec 32) (element : ReorderBufferElement) :
    Decidable (Late sequenceFlushed element) := inferInstanceAs (Decidable (_ ∧ _))

def discardLate (sequenceFlushed : BitVec 32) (packets : List ReorderBufferElement) :
    List ReorderBufferElement :=
  packets.map fun element => if Late sequenceFlushed element then element.flushed else element

def discardEvents (sequenceFlushed : BitVec 32) (packets : List ReorderBufferElement) :
    List Event :=
  (packets.filter fun element => Late sequenceFlushed element).flatMap fun element =>
    [.discarded element, .freed element.packet.handle]

/-- `reorder_buffer_freeable`: the length of the flushed prefix, counted in 16 bits. -/
def reorderBufferFreeable (packets : List ReorderBufferElement) : Nat :=
  (packets.takeWhile fun element => element.size = 0).length % 2 ^ 16

def compact (packets : List ReorderBufferElement) : List ReorderBufferElement :=
  if packets.length = reorderBufferFreeable packets then []
  else if 0 < reorderBufferFreeable packets then packets.drop (reorderBufferFreeable packets)
  else packets

/-! ### The loop body -/

/-- Lines 136 to 162, from the state the flush loops were left in. -/
def finish (buffer : Memory) (allocated : Nat) (flushing : Flushing) : State × List Event :=
  (⟨buffer, compact (discardLate flushing.sequenceFlushed flushing.packets),
      flushing.sequenceFlushed, allocated⟩,
    flushing.events ++ discardEvents flushing.sequenceFlushed flushing.packets)

/-- Lines 103 to 162, given `rounds` rounds of the flush loops. -/
def settle (reorderBufferTimeout now : Timeval) (rounds : Nat) (buffer : Memory)
    (allocated : Nat) (flushing : Flushing) : Option (State × List Event) :=
  (Loop.run (flushRound reorderBufferTimeout now) rounds flushing).map (finish buffer allocated)

/-- One iteration of the loop. It has no result when `rounds` do not suffice, or when the slot
array would have to grow past the 2^32 - 1 slots its size can count. -/
def iteration (reorderBufferTimeout : Timeval) (rounds : Nat) (state : State) (input : Input) :
    Option (State × List Event) :=
  match receive reorderBufferTimeout state input with
  | (buffer, .skipped) => some ({ state with buffer := buffer }, [])
  | (buffer, .forwarded event) =>
      settle reorderBufferTimeout input.now rounds buffer state.allocated
        ⟨state.packets, state.sequenceFlushed, [event]⟩
  | (buffer, .idle) =>
      settle reorderBufferTimeout input.now rounds buffer state.allocated
        ⟨state.packets, state.sequenceFlushed, []⟩
  | (buffer, .enqueued element) =>
      if state.packets.length + 1 < 2 ^ 32 then
        settle reorderBufferTimeout input.now rounds buffer (state.allocated + 1)
          ⟨state.packets ++ [element], state.sequenceFlushed, []⟩
      else none

def Step (reorderBufferTimeout : Timeval) (state : State) (input : Input) (events : List Event)
    (next : State) : Prop :=
  ∃ rounds, iteration reorderBufferTimeout rounds state input = some (next, events)

abbrev Run (reorderBufferTimeout : Timeval) :=
  Transition.Run (Step reorderBufferTimeout)

end OpenHybrid.Gre2tun

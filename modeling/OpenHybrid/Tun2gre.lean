import OpenHybrid.Gre

/-!
# The sender thread

`send_gre` and `tun2gre_main` of `tun2gre.c`, one iteration at a time.
-/

namespace OpenHybrid.Tun2gre

open ByteMemory

/-- `send_gre`, up to the message it hands to `sendmsg`. -/
def sendGre (runtime : Runtime) (tuntype : Byte) (proto : BitVec 16) (sequence : BitVec 32)
    (includeSequence : Bool) (payload : List Byte) : Message :=
  let greh : Grehdr := {
    flagsAndVersion :=
      htons (if includeSequence then grecpFlagsandversionWithSeq else grecpFlagsandversion)
    proto := htons proto
    key := htonl runtime.haap.bondingKey }
  { source :=
      if tuntype = grecpTuntypeLte then runtime.lte.interfaceIp else runtime.dsl.interfaceIp
    destination := runtime.haap.ip
    bytes :=
      greh.bytes ++ (if includeSequence then storeList (htonl sequence) else []) ++ payload }

/-- The locals of `tun2gre_main` that one iteration leaves to the next. -/
structure State where
  buffer : Memory
  sequence : BitVec 32

def State.initial (buffer : Memory) : State := ⟨buffer, 0⟩

/-- What `read` on the tun device returns, nothing when it fails, and the state of the tunnels. -/
structure Input where
  read : List Byte
  runtime : Runtime

/-- UDP from 68 to 67 behind an IPv4 header without options, or from 546 to 547 over IPv6. -/
def isDhcpPacket (etherproto : BitVec 16) (buffer : Memory) : Bool :=
  let port (offset : Nat) : BitVec 16 := ntohs (load 16 (buffer.shift offset))
  if etherproto = ethertypeIp ∧ buffer 9 = 17#8 then
    decide (port 20 = 68#16 ∧ port 22 = 67#16)
  else if etherproto = ethertypeIpv6 ∧ buffer 6 = 17#8 then
    decide (port 40 = 546#16 ∧ port 42 = 547#16)
  else false

def ipVersion (buffer : Memory) : Byte := buffer 0 >>> 4

def iteration (state : State) (input : Input) : State × Option Message :=
  if 0 < input.read.length then
    let buffer := received state.buffer input.read
    let payload := input.read.take maxPktSize
    if ipVersion buffer = 4#8 then forward buffer ethertypeIp payload
    else if ipVersion buffer = 6#8 then forward buffer ethertypeIpv6 payload
    else ({ state with buffer := buffer }, none)
  else (state, none)
where
  forward (buffer : Memory) (etherproto : BitVec 16) (payload : List Byte) :
      State × Option Message :=
    let _isDhcp := isDhcpPacket etherproto buffer
    -- the classification is overwritten before it is used
    let isDhcp := true
    if !isDhcp && input.runtime.dsl.tunnelEstablished then
      (⟨buffer, state.sequence + 1⟩,
        some (sendGre input.runtime grecpTuntypeDsl etherproto state.sequence true payload))
    else if input.runtime.lte.tunnelEstablished then
      (⟨buffer, state.sequence + 1⟩,
        some (sendGre input.runtime grecpTuntypeLte etherproto state.sequence true payload))
    else ({ state with buffer := buffer }, none)

def messages : State → List Input → List Message
  | _, [] => []
  | state, input :: rest =>
      (iteration state input).2.toList ++ messages (iteration state input).1 rest

end OpenHybrid.Tun2gre

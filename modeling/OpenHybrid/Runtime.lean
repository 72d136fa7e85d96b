import OpenHybrid.Lib.Bytes

/-!
# The runtime struct

`runtime` of `openhybrid.h`, field by field, and its memory image: a copy whose length is not the
length of the field it starts in runs on into the fields that follow, so the offsets of the struct
are part of the program. They are those of the System V x86-64 ABI, little-endian. Padding bytes and
whatever the linker puts behind the struct carry no state of this model.
-/

namespace OpenHybrid

open ByteMemory

abbrev In6Addr := Bytes 16

def in6addrAny : In6Addr := fun _ => 0

structure Timeval where
  tvSec : Int
  tvUsec : Int
  deriving DecidableEq, Repr

def timersub (a b : Timeval) : Timeval :=
  let tvSec := a.tvSec - b.tvSec
  let tvUsec := a.tvUsec - b.tvUsec
  if tvUsec < 0 then ⟨tvSec - 1, tvUsec + 1000000⟩ else ⟨tvSec, tvUsec⟩

def timercmpGe (a b : Timeval) : Bool :=
  if a.tvSec = b.tvSec then decide (b.tvUsec ≤ a.tvUsec) else decide (b.tvSec ≤ a.tvSec)

/-- A reading of `CLOCK_MONOTONIC` in the first 2^32 seconds. -/
structure Timespec where
  tvSec : Nat
  tvNsec : Nat
  tvSec_lt : tvSec < 2 ^ 32
  tvNsec_lt : tvNsec < 10 ^ 9

def getUptime (reading : Timespec) : Timeval := ⟨reading.tvSec, (reading.tvNsec / 1000 : Nat)⟩

structure Haap where
  anycastIp : In6Addr
  ip : In6Addr
  sessionId : BitVec 32
  bondingKey : BitVec 32
  activeHelloInterval : BitVec 32
  helloRetryTimes : BitVec 32
  /-- `filter_list.commit_count` -/
  commitCount : BitVec 32
  bypassBandwidthCheckInterval : BitVec 32
  deriving DecidableEq

structure Dhcp where
  udhcpcPid : Int
  ip : Bytes 4
  leaseTime : BitVec 32
  leaseObtained : Int
  deriving DecidableEq

structure Dhcp6 where
  udhcpc6Pid : Int
  prefixAddress : In6Addr
  prefixLength : BitVec 8
  leaseTime : BitVec 32
  leaseObtained : Int
  deriving DecidableEq

structure Lte where
  interfaceName : Bytes 16
  tunnelEstablished : Bool
  lastHelloSent : Int
  lastHelloReceived : Int
  missedHellos : BitVec 8
  tunnelVerificationRequired : Bool
  interfaceIp : In6Addr
  roundTripTime : Timeval
  deriving DecidableEq

structure Dsl where
  interfaceName : Bytes 16
  tunnelEstablished : Bool
  lastHelloSent : Int
  lastHelloReceived : Int
  missedHellos : BitVec 8
  lastBypassTrafficSent : Int
  interfaceIp : In6Addr
  roundTripTime : Timeval
  deriving DecidableEq

structure Runtime where
  haap : Haap
  bonding : Bool
  filterListAcked : Bool
  logLevel : BitVec 8
  tunnelInterfaceMtu : BitVec 16
  tunnelInterfaceCreated : Bool
  tunnelInterfaceName : Bytes 16
  gre2tunThread : BitVec 64
  tun2greThread : BitVec 64
  signal : Int
  eventScriptPath : Bytes 128
  reorderBufferTimeout : Timeval
  dhcp : Dhcp
  dhcp6 : Dhcp6
  lte : Lte
  dsl : Dsl
  deriving DecidableEq

/-- `struct runtime runtime = {}`: the struct in static storage, before anything is configured. -/
def Runtime.zero : Runtime where
  haap := ⟨fun _ => 0, fun _ => 0, 0, 0, 0, 0, 0, 0⟩
  bonding := false
  filterListAcked := false
  logLevel := 0
  tunnelInterfaceMtu := 0
  tunnelInterfaceCreated := false
  tunnelInterfaceName := fun _ => 0
  gre2tunThread := 0
  tun2greThread := 0
  signal := 0
  eventScriptPath := fun _ => 0
  reorderBufferTimeout := ⟨0, 0⟩
  dhcp := ⟨0, fun _ => 0, 0, 0⟩
  dhcp6 := ⟨0, fun _ => 0, 0, 0, 0⟩
  lte := ⟨fun _ => 0, false, 0, 0, 0, false, fun _ => 0, ⟨0, 0⟩⟩
  dsl := ⟨fun _ => 0, false, 0, 0, 0, 0, fun _ => 0, ⟨0, 0⟩⟩

/-! ### Storing one byte

Each `poke` stores a byte at an offset counted from the start of its object. -/

def pokeBytes {n : Nat} (bytes : Bytes n) (offset : Nat) (byte : Byte) : Bytes n :=
  fun i => if i.val = offset then byte else bytes i

def pokeWord {width : Nat} (word : BitVec width) (offset : Nat) (byte : Byte) : BitVec width :=
  load width fun i => if i = offset then byte else byteOf word i

/-- A signed field is its two's complement word. -/
def pokeInt (width : Nat) (value : Int) (offset : Nat) (byte : Byte) : Int :=
  (pokeWord (BitVec.ofInt width value) offset byte).toInt

def pokeBool (byte : Byte) : Bool := decide (byte ≠ 0)

def Timeval.poke (time : Timeval) (offset : Nat) (byte : Byte) : Timeval :=
  if offset < 8 then { time with tvSec := pokeInt 64 time.tvSec offset byte }
  else { time with tvUsec := pokeInt 64 time.tvUsec (offset - 8) byte }

def Haap.poke (haap : Haap) (offset : Nat) (byte : Byte) : Haap :=
  if offset < 16 then { haap with anycastIp := pokeBytes haap.anycastIp offset byte }
  else if offset < 32 then { haap with ip := pokeBytes haap.ip (offset - 16) byte }
  else if offset < 36 then { haap with sessionId := pokeWord haap.sessionId (offset - 32) byte }
  else if offset < 40 then { haap with bondingKey := pokeWord haap.bondingKey (offset - 36) byte }
  else if offset < 44 then
    { haap with activeHelloInterval := pokeWord haap.activeHelloInterval (offset - 40) byte }
  else if offset < 48 then
    { haap with helloRetryTimes := pokeWord haap.helloRetryTimes (offset - 44) byte }
  else if offset < 52 then { haap with commitCount := pokeWord haap.commitCount (offset - 48) byte }
  else
    { haap with
      bypassBandwidthCheckInterval :=
        pokeWord haap.bypassBandwidthCheckInterval (offset - 52) byte }

def Dhcp.poke (dhcp : Dhcp) (offset : Nat) (byte : Byte) : Dhcp :=
  if offset < 4 then { dhcp with udhcpcPid := pokeInt 32 dhcp.udhcpcPid offset byte }
  else if offset < 8 then { dhcp with ip := pokeBytes dhcp.ip (offset - 4) byte }
  else if offset < 12 then { dhcp with leaseTime := pokeWord dhcp.leaseTime (offset - 8) byte }
  else if offset < 16 then dhcp
  else { dhcp with leaseObtained := pokeInt 64 dhcp.leaseObtained (offset - 16) byte }

def Dhcp6.poke (dhcp6 : Dhcp6) (offset : Nat) (byte : Byte) : Dhcp6 :=
  if offset < 4 then { dhcp6 with udhcpc6Pid := pokeInt 32 dhcp6.udhcpc6Pid offset byte }
  else if offset < 20 then
    { dhcp6 with prefixAddress := pokeBytes dhcp6.prefixAddress (offset - 4) byte }
  else if offset < 21 then { dhcp6 with prefixLength := byte }
  else if offset < 24 then dhcp6
  else if offset < 28 then { dhcp6 with leaseTime := pokeWord dhcp6.leaseTime (offset - 24) byte }
  else if offset < 32 then dhcp6
  else { dhcp6 with leaseObtained := pokeInt 64 dhcp6.leaseObtained (offset - 32) byte }

def Lte.poke (lte : Lte) (offset : Nat) (byte : Byte) : Lte :=
  if offset < 16 then { lte with interfaceName := pokeBytes lte.interfaceName offset byte }
  else if offset < 17 then { lte with tunnelEstablished := pokeBool byte }
  else if offset < 24 then lte
  else if offset < 32 then
    { lte with lastHelloSent := pokeInt 64 lte.lastHelloSent (offset - 24) byte }
  else if offset < 40 then
    { lte with lastHelloReceived := pokeInt 64 lte.lastHelloReceived (offset - 32) byte }
  else if offset < 41 then { lte with missedHellos := byte }
  else if offset < 42 then { lte with tunnelVerificationRequired := pokeBool byte }
  else if offset < 44 then lte
  else if offset < 60 then { lte with interfaceIp := pokeBytes lte.interfaceIp (offset - 44) byte }
  else if offset < 64 then lte
  else { lte with roundTripTime := lte.roundTripTime.poke (offset - 64) byte }

def Dsl.poke (dsl : Dsl) (offset : Nat) (byte : Byte) : Dsl :=
  if offset < 16 then { dsl with interfaceName := pokeBytes dsl.interfaceName offset byte }
  else if offset < 17 then { dsl with tunnelEstablished := pokeBool byte }
  else if offset < 24 then dsl
  else if offset < 32 then
    { dsl with lastHelloSent := pokeInt 64 dsl.lastHelloSent (offset - 24) byte }
  else if offset < 40 then
    { dsl with lastHelloReceived := pokeInt 64 dsl.lastHelloReceived (offset - 32) byte }
  else if offset < 41 then { dsl with missedHellos := byte }
  else if offset < 48 then dsl
  else if offset < 56 then
    { dsl with lastBypassTrafficSent := pokeInt 64 dsl.lastBypassTrafficSent (offset - 48) byte }
  else if offset < 72 then { dsl with interfaceIp := pokeBytes dsl.interfaceIp (offset - 56) byte }
  else { dsl with roundTripTime := dsl.roundTripTime.poke (offset - 72) byte }

def Runtime.poke (runtime : Runtime) (offset : Nat) (byte : Byte) : Runtime :=
  if offset < 56 then { runtime with haap := runtime.haap.poke offset byte }
  else if offset < 57 then { runtime with bonding := pokeBool byte }
  else if offset < 58 then { runtime with filterListAcked := pokeBool byte }
  else if offset < 59 then { runtime with logLevel := byte }
  else if offset < 60 then runtime
  else if offset < 62 then
    { runtime with
      tunnelInterfaceMtu := pokeWord runtime.tunnelInterfaceMtu (offset - 60) byte }
  else if offset < 63 then { runtime with tunnelInterfaceCreated := pokeBool byte }
  else if offset < 79 then
    { runtime with
      tunnelInterfaceName := pokeBytes runtime.tunnelInterfaceName (offset - 63) byte }
  else if offset < 80 then runtime
  else if offset < 88 then
    { runtime with gre2tunThread := pokeWord runtime.gre2tunThread (offset - 80) byte }
  else if offset < 96 then
    { runtime with tun2greThread := pokeWord runtime.tun2greThread (offset - 88) byte }
  else if offset < 100 then { runtime with signal := pokeInt 32 runtime.signal (offset - 96) byte }
  else if offset < 228 then
    { runtime with eventScriptPath := pokeBytes runtime.eventScriptPath (offset - 100) byte }
  else if offset < 232 then runtime
  else if offset < 248 then
    { runtime with
      reorderBufferTimeout := runtime.reorderBufferTimeout.poke (offset - 232) byte }
  else if offset < 272 then { runtime with dhcp := runtime.dhcp.poke (offset - 248) byte }
  else if offset < 312 then { runtime with dhcp6 := runtime.dhcp6.poke (offset - 272) byte }
  else if offset < 392 then { runtime with lte := runtime.lte.poke (offset - 312) byte }
  else if offset < 480 then { runtime with dsl := runtime.dsl.poke (offset - 392) byte }
  else runtime

def Runtime.memcpy (runtime : Runtime) (offset : Nat) (source : Memory) : Nat → Runtime
  | 0 => runtime
  | length + 1 => (runtime.memcpy offset source length).poke (offset + length) (source length)

/-- A copy looks at no byte behind its length. -/
theorem Runtime.memcpy_congr {runtime : Runtime} {offset length : Nat} {source other : Memory}
    (hagree : Memory.AgreeBelow length source other) :
    runtime.memcpy offset source length = runtime.memcpy offset other length := by
  induction length with
  | zero => rfl
  | succ length ih =>
      rw [memcpy, memcpy, ih (hagree.mono (Nat.le_succ length)), hagree length (Nat.lt_succ_self _)]

end OpenHybrid

import OpenHybrid.Grecp

/-!
# Message handlers

`handle_grecpaccept`, `handle_grecpdeny`, `handle_grecphello`, `handle_grecpteardown` and
`handle_grecpnotify`, and `process_grecpmessage`, which calls them. A handler runs over the
attributes once and changes `runtime` as it goes; `uptime i` is what its `i`-th call of
`get_uptime` returns.
-/

namespace OpenHybrid

open ByteMemory

variable (memory : Memory)

/-! ### Accept -/

/-- Where the fields of `runtime.haap` lie. -/
def haapIpOffset : Nat := 16

def sessionIdOffset : Nat := 32

def bondingKeyOffset : Nat := 36

def activeHelloIntervalOffset : Nat := 40

def helloRetryTimesOffset : Nat := 44

def bypassBandwidthCheckIntervalOffset : Nat := 52

def copyAttribute (offset : Nat) (attr : Grecpattr) (runtime : Runtime) : Runtime :=
  runtime.memcpy offset (memory.shift attr.value) attr.length.toNat

def acceptAttribute (runtime : Runtime) (attr : Grecpattr) : Runtime :=
  if attr.id = msgattrHIpv6Address then copyAttribute memory haapIpOffset attr runtime
  else if attr.id = msgattrSessionId then
    let runtime := copyAttribute memory sessionIdOffset attr runtime
    { runtime with haap.sessionId := ntohl runtime.haap.sessionId }
  else if attr.id = msgattrActiveHelloInterval then
    if runtime.haap.activeHelloInterval = 0 then
      let runtime := copyAttribute memory activeHelloIntervalOffset attr runtime
      { runtime with haap.activeHelloInterval := ntohl runtime.haap.activeHelloInterval }
    else runtime
  else if attr.id = msgattrHelloRetryTimes then
    if runtime.haap.helloRetryTimes = 0 then
      let runtime := copyAttribute memory helloRetryTimesOffset attr runtime
      { runtime with haap.helloRetryTimes := ntohl runtime.haap.helloRetryTimes }
    else runtime
  else if attr.id = msgattrBondingKeyValue then
    let runtime := copyAttribute memory bondingKeyOffset attr runtime
    { runtime with haap.bondingKey := ntohl runtime.haap.bondingKey }
  else if attr.id = msgattrBypassBandwidthCheckInterval then
    let runtime := copyAttribute memory bypassBandwidthCheckIntervalOffset attr runtime
    { runtime with
      haap.bypassBandwidthCheckInterval := ntohl runtime.haap.bypassBandwidthCheckInterval }
  else runtime

def establish (tuntype : Byte) (now : Timeval) (runtime : Runtime) : Runtime :=
  if tuntype = grecpTuntypeLte then
    { runtime with
      lte.tunnelEstablished := true
      lte.lastHelloSent := now.tvSec
      lte.lastHelloReceived := now.tvSec }
  else
    { runtime with
      dsl.tunnelEstablished := true
      dsl.lastHelloSent := now.tvSec
      dsl.lastHelloReceived := now.tvSec }

def handleGrecpaccept (tuntype : Byte) (buffer : Nat) (size : Int) (uptime : Nat → Timeval)
    (runtime : Runtime) : Runtime :=
  establish tuntype (uptime 0) ((attributes memory buffer size).foldl (acceptAttribute memory) runtime)

/-! ### Deny and Tear Down -/

/-- The error code that `handle_grecpdeny` and `handle_grecpteardown` log. -/
def errorcode (buffer : Nat) (size : Int) : BitVec 32 :=
  (attributes memory buffer size).foldl (fun errorcode attr =>
    if attr.id = msgattrErrorCode then ntohl (load 32 (memory.shift attr.value)) else errorcode) 0

def handleGrecpdeny (buffer : Nat) (size : Int) (runtime : Runtime) : Runtime × BitVec 32 :=
  (runtime, errorcode memory buffer size)

def handleGrecpteardown (buffer : Nat) (size : Int) (runtime : Runtime) : Runtime × BitVec 32 :=
  ({ runtime with lte.tunnelEstablished := false, dsl.tunnelEstablished := false },
    errorcode memory buffer size)

/-! ### Hello -/

/-- The Timestamp of the attribute: 32-bit seconds, and milliseconds that are multiplied in 32
bits. -/
def timestampSent (attr : Grecpattr) : Timeval where
  tvSec := (ntohl (load 32 (memory.shift attr.value))).toNat
  tvUsec := (ntohl (load 32 (memory.shift (attr.value + 4))) * 1000).toNat

/-- One round of the loop of `handle_grecphello`; the second component counts the clock readings. -/
def helloAttribute (tuntype : Byte) (uptime : Nat → Timeval) :
    Runtime × Nat → Grecpattr → Runtime × Nat
  | (runtime, readings), attr =>
      if attr.id = msgattrTimestamp then
        let sent := timestampSent memory attr
        let roundTripTime := timersub (uptime readings) sent
        if tuntype = grecpTuntypeLte then
          ({ runtime with
            lte.roundTripTime := roundTripTime
            lte.lastHelloReceived := sent.tvSec
            lte.missedHellos := 0 }, readings + 1)
        else
          ({ runtime with
            dsl.roundTripTime := roundTripTime
            dsl.lastHelloReceived := sent.tvSec
            dsl.missedHellos := 0 }, readings + 1)
      else (runtime, readings)

def handleGrecphello (tuntype : Byte) (buffer : Nat) (size : Int) (uptime : Nat → Timeval)
    (runtime : Runtime) : Runtime :=
  ((attributes memory buffer size).foldl (helloAttribute memory tuntype uptime) (runtime, 0)).1

/-! ### Notify -/

def notifyAttribute (runtime : Runtime) (attr : Grecpattr) : Runtime :=
  if attr.id = msgattrFilterListPackage then
    { runtime with
      haap.commitCount := ntohl (load 32 (memory.shift attr.value))
      filterListAcked := false }
  else if attr.id = msgattrTunnelVerification then
    { runtime with lte.tunnelVerificationRequired := true }
  else runtime

def handleGrecpnotify (buffer : Nat) (size : Int) (runtime : Runtime) : Runtime :=
  (attributes memory buffer size).foldl (notifyAttribute memory) runtime

/-! ### The switch -/

def handleGrecpmessage (msgtype : Msgtype) (tuntype : Byte) (buffer : Nat) (size : Int)
    (uptime : Nat → Timeval) (runtime : Runtime) : Runtime :=
  match msgtype with
  | .request => runtime
  | .accept => handleGrecpaccept memory tuntype buffer size uptime runtime
  | .deny => (handleGrecpdeny memory buffer size runtime).1
  | .hello => handleGrecphello memory tuntype buffer size uptime runtime
  | .teardown => (handleGrecpteardown memory buffer size runtime).1
  | .notify => handleGrecpnotify memory buffer size runtime

def processGrecpmessage (size : Nat) (uptime : Nat → Timeval) (runtime : Runtime) : Runtime :=
  match dispatch runtime.haap.bondingKey memory with
  | none => runtime
  | some (msgtype, tuntype) =>
      handleGrecpmessage memory msgtype tuntype attributesOffset (size - attributesOffset) uptime
        runtime

end OpenHybrid

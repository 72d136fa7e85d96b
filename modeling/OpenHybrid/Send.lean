import OpenHybrid.Event

/-!
# Senders of control messages

`send_grecpmessage` and the functions that call it: `send_grecprequest`, `send_grecphello` and the
four notifications.
-/

namespace OpenHybrid

open ByteMemory

variable (answers : Answers)

/-- The bytes of a string literal, without its final NUL. -/
def ascii (text : String) : List Byte := text.toList.map fun char => BitVec.ofNat 8 char.toNat

/-- `send_grecpmessage`. Without a source address the message is not handed to `sendmsg`. -/
def sendGrecpmessage (msgtype : Msgtype) (tuntype : Byte) (attributes : List Byte)
    (process : Process) : Bool × Process :=
  let message := grecpmessage process.runtime msgtype tuntype attributes
  if message.source ≠ in6addrAny then
    (answers.sendmsg message,
      process.emit (.sendmsg msgtype tuntype message (answers.sendmsg message)))
  else (false, process)

/-! ### Requests -/

def clientIdentificationName : List Byte := ascii "OpenHybrid" ++ List.replicate 30 0

def requestAttributes (runtime : Runtime) (tuntype : Byte) : List Byte :=
  let buffer :=
    if tuntype = grecpTuntypeLte then
      appendGrecpattribute [] msgattrClientIdentificationName 40 clientIdentificationName
    else []
  let buffer :=
    if runtime.haap.sessionId ≠ 0 then
      appendGrecpattribute buffer msgattrSessionId 4 (storeList (htonl runtime.haap.sessionId))
    else buffer
  appendGrecpattribute buffer msgattrPadding 0 []

def sendGrecprequest (tuntype : Byte) (process : Process) : Bool × Process :=
  sendGrecpmessage answers .request tuntype (requestAttributes process.runtime tuntype) process

/-! ### Hellos -/

/-- The seconds go into 32 bits, and the milliseconds come from a second reading of the clock. -/
def helloTimestamp (seconds milliseconds : Timeval) : BitVec 32 × BitVec 32 :=
  (BitVec.ofInt 32 seconds.tvSec, BitVec.ofInt 32 (milliseconds.tvUsec.tdiv 1000))

def helloAttributes (timestamp : BitVec 32 × BitVec 32) : List Byte :=
  let buffer := appendGrecpattribute [] msgattrTimestamp 8
    (storeList (htonl timestamp.1) ++ storeList (htonl timestamp.2))
  appendGrecpattribute buffer msgattrPadding 0 []

def Runtime.setLastHelloSent (tuntype : Byte) (tvSec : Int) (runtime : Runtime) : Runtime :=
  if tuntype = grecpTuntypeLte then { runtime with lte.lastHelloSent := tvSec }
  else { runtime with dsl.lastHelloSent := tvSec }

/-- `send_grecphello`. The time is kept whether or not the message went out. -/
def sendGrecphello (tuntype : Byte) (seconds milliseconds : Timeval) (process : Process) :
    Bool × Process :=
  let timestamp := helloTimestamp seconds milliseconds
  let (sent, process) :=
    sendGrecpmessage answers .hello tuntype (helloAttributes timestamp) process
  (sent, { process with
    runtime := process.runtime.setLastHelloSent tuntype timestamp.1.toNat })

/-! ### Notifications -/

def notifyAttributes (id : Byte) (value : List Byte) : List Byte :=
  appendGrecpattribute
    (appendGrecpattribute [] id (BitVec.ofNat 16 value.length) value) msgattrPadding 0 []

def sendGrecpnotifyFilterlistpackageack (ackcode : Byte) (process : Process) : Bool × Process :=
  sendGrecpmessage answers .notify grecpTuntypeLte
    (notifyAttributes msgattrFilterListPackageAck
      (storeList (htonl process.runtime.haap.commitCount) ++ [ackcode])) process

def sendGrecpnotifyTunnelverify (process : Process) : Bool × Process :=
  sendGrecpmessage answers .notify grecpTuntypeLte
    (notifyAttributes msgattrTunnelVerification []) process

/-- Only the failure of the other tunnel can be signalled. -/
def sendGrecpnotifyLinkfailure (tuntype : Byte) (process : Process) : Bool × Process :=
  sendGrecpmessage answers .notify tuntype
    (notifyAttributes
      (if tuntype = grecpTuntypeLte then msgattrDslLinkFailure else msgattrLteLinkFailure) [])
    process

def sendGrecpnotifyBypasstraffic (kbit : BitVec 32) (process : Process) : Bool × Process :=
  let (sent, process) := sendGrecpmessage answers .notify grecpTuntypeDsl
    (notifyAttributes msgattrBypassTrafficRate (storeList (htonl kbit))) process
  if sent then
    (true, { process with
      runtime.dsl.lastBypassTrafficSent := (answers.uptime .bypassTrafficSent).tvSec })
  else (false, process)

end OpenHybrid

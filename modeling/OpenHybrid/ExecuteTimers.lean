import OpenHybrid.Dhcp
import OpenHybrid.Handlers
import OpenHybrid.Tundev

/-!
# The timers

`execute_timers` of `openhybrid.c`, one definition for each of its blocks, in the order of the
source.
-/

namespace OpenHybrid

open ByteMemory

variable (answers : Answers)

/-! ### Tunnels

The fields that `runtime.lte` and `runtime.dsl` share. -/

structure Tunnel where
  tunnelEstablished : Bool
  lastHelloSent : Int
  lastHelloReceived : Int
  missedHellos : BitVec 8
  deriving DecidableEq, Repr

def Runtime.tunnel (runtime : Runtime) (tuntype : Byte) : Tunnel :=
  if tuntype = grecpTuntypeLte then
    ⟨runtime.lte.tunnelEstablished, runtime.lte.lastHelloSent, runtime.lte.lastHelloReceived,
      runtime.lte.missedHellos⟩
  else
    ⟨runtime.dsl.tunnelEstablished, runtime.dsl.lastHelloSent, runtime.dsl.lastHelloReceived,
      runtime.dsl.missedHellos⟩

def Runtime.setTunnel (tuntype : Byte) (tunnel : Tunnel) (runtime : Runtime) : Runtime :=
  if tuntype = grecpTuntypeLte then
    { runtime with
      lte.tunnelEstablished := tunnel.tunnelEstablished
      lte.lastHelloSent := tunnel.lastHelloSent
      lte.lastHelloReceived := tunnel.lastHelloReceived
      lte.missedHellos := tunnel.missedHellos }
  else
    { runtime with
      dsl.tunnelEstablished := tunnel.tunnelEstablished
      dsl.lastHelloSent := tunnel.lastHelloSent
      dsl.lastHelloReceived := tunnel.lastHelloReceived
      dsl.missedHellos := tunnel.missedHellos }

def Process.setTunnel (tuntype : Byte) (tunnel : Tunnel) (process : Process) : Process :=
  { process with runtime := process.runtime.setTunnel tuntype tunnel }

/-! ### Interfaces and requests -/

def updateInterfaceIps (process : Process) : Process :=
  let lteIp := answers.getPrimaryIp6 process.runtime.lte.interfaceName
  let process := { process with runtime.lte.interfaceIp := lteIp }
  if process.runtime.bonding then
    { process with
      runtime.dsl.interfaceIp := answers.getPrimaryIp6 process.runtime.dsl.interfaceName }
  else process

def connect (process : Process) : Process :=
  if !process.runtime.lte.tunnelEstablished then
    (sendGrecprequest answers grecpTuntypeLte process).2
  else if process.runtime.bonding && !process.runtime.dsl.tunnelEstablished then
    (sendGrecprequest answers grecpTuntypeDsl process).2
  else process

/-! ### Notifications -/

def ackFilterList (process : Process) : Process :=
  if process.runtime.lte.tunnelEstablished && decide (0 < process.runtime.haap.commitCount.toNat) &&
      !process.runtime.filterListAcked then
    let (acked, process) := sendGrecpnotifyFilterlistpackageack answers 2 process
    { process with runtime.filterListAcked := acked }
  else process

def verifyTunnel (process : Process) : Process :=
  if process.runtime.lte.tunnelEstablished && process.runtime.lte.tunnelVerificationRequired then
    let (sent, process) := sendGrecpnotifyTunnelverify answers process
    { process with runtime.lte.tunnelVerificationRequired := !sent }
  else process

/-- Sends the next hello when it is due, after counting the last one as missed if it is not
answered. -/
def sendHello (tuntype : Byte) (due seconds milliseconds : Reading) (process : Process) : Process :=
  let tunnel := process.runtime.tunnel tuntype
  if tunnel.tunnelEstablished && decide (tunnel.lastHelloSent <
      (answers.uptime due).tvSec - process.runtime.haap.activeHelloInterval.toNat) then
    let process :=
      if tunnel.lastHelloReceived ≠ tunnel.lastHelloSent then
        process.setTunnel tuntype { tunnel with missedHellos := tunnel.missedHellos + 1 }
      else process
    (sendGrecphello answers tuntype (answers.uptime seconds) (answers.uptime milliseconds)
      process).2
  else process

def sendLteHello (process : Process) : Process :=
  sendHello answers grecpTuntypeLte .lteHelloDue .lteHelloSeconds .lteHelloMilliseconds process

def sendDslHello (process : Process) : Process :=
  sendHello answers grecpTuntypeDsl .dslHelloDue .dslHelloSeconds .dslHelloMilliseconds process

def verifyHellos (tuntype : Byte) (process : Process) : Process :=
  let tunnel := process.runtime.tunnel tuntype
  if tunnel.tunnelEstablished &&
      decide (process.runtime.haap.helloRetryTimes.toNat ≤ tunnel.missedHellos.toNat) then
    process.setTunnel tuntype { tunnel with tunnelEstablished := false }
  else process

def verifyLteHellos (process : Process) : Process := verifyHellos grecpTuntypeLte process

def verifyDslHellos (process : Process) : Process := verifyHellos grecpTuntypeDsl process

def bypassBandwidth (process : Process) : Process :=
  if process.runtime.dsl.tunnelEstablished && decide (process.runtime.dsl.lastBypassTrafficSent <
      (answers.uptime .bypassTrafficDue).tvSec -
        process.runtime.haap.bypassBandwidthCheckInterval.toNat) then
    (sendGrecpnotifyBypasstraffic answers 1000 process).2
  else process

/-! ### Resets -/

def resetLteStats (process : Process) : Process :=
  if !process.runtime.lte.tunnelEstablished && process.runtime.tunnelInterfaceCreated then
    { process with
      runtime.lte.tunnelEstablished := false
      runtime.lte.missedHellos := 0
      runtime.lte.lastHelloSent := 0
      runtime.lte.lastHelloReceived := 0
      runtime.lte.tunnelVerificationRequired := false }
  else process

def resetDslStats (process : Process) : Process :=
  if !process.runtime.dsl.tunnelEstablished && process.runtime.tunnelInterfaceCreated then
    { process with
      runtime.dsl.tunnelEstablished := false
      runtime.dsl.missedHellos := 0
      runtime.dsl.lastHelloSent := 0
      runtime.dsl.lastHelloReceived := 0
      runtime.dsl.lastBypassTrafficSent := 0 }
  else process

def resetDhcp (process : Process) : Process :=
  let process :=
    if process.runtime.dhcp.udhcpcPid ≠ 0 then
      { (killUdhcpc answers process).2 with runtime.dhcp.udhcpcPid := 0 }
    else if process.runtime.dhcp.leaseTime ≠ 0 then triggerEvent .dhcpdownIp process
    else process
  { process with
    runtime.dhcp.ip := fun _ => 0
    runtime.dhcp.leaseTime := 0
    runtime.dhcp.leaseObtained := 0 }

/-- The other half asks for the DHCPv4 lease too, which the first half has just ended. -/
def resetDhcp6 (process : Process) : Process :=
  let process :=
    if process.runtime.dhcp6.udhcpc6Pid ≠ 0 then
      { (killUdhcpc6 answers process).2 with runtime.dhcp6.udhcpc6Pid := 0 }
    else if process.runtime.dhcp.leaseTime ≠ 0 then triggerEvent .dhcpdownIp6 process
    else process
  { process with
    runtime.dhcp6.prefixAddress := fun _ => 0
    runtime.dhcp6.prefixLength := 0
    runtime.dhcp6.leaseTime := 0
    runtime.dhcp6.leaseObtained := 0 }

def resetSession (process : Process) : Process :=
  if !process.runtime.lte.tunnelEstablished && !process.runtime.dsl.tunnelEstablished then
    let process := { process with
      runtime.haap.ip := process.runtime.haap.anycastIp
      runtime.haap.bondingKey := 0
      runtime.haap.sessionId := 0
      runtime.haap.commitCount := 0
      runtime.filterListAcked := false }
    resetDhcp6 answers (resetDhcp answers process)
  else process

/-! ### Device and threads -/

def updateTunnelDev (process : Process) : Process :=
  let up := process.runtime.lte.tunnelEstablished || process.runtime.dsl.tunnelEstablished
  if up && !process.runtime.tunnelInterfaceCreated then
    let (created, process) := createTunnelDev answers process
    { process with runtime.tunnelInterfaceCreated := created }
  else if !up && process.runtime.tunnelInterfaceCreated then
    let (destroyed, process) := destroyTunnelDev answers process
    { process with runtime.tunnelInterfaceCreated := !destroyed }
  else process

def startGre2tun (process : Process) : Process :=
  if process.runtime.gre2tunThread = 0 then
    let create := answers.gre2tunThread
    let process := { process with runtime.gre2tunThread := create.handle }
    if create.started then process.emit (.threadStarted .gre2tun create.handle) else process
  else process

def startTun2gre (process : Process) : Process :=
  if process.runtime.tun2greThread = 0 then
    let create := answers.tun2greThread
    let process := { process with runtime.tun2greThread := create.handle }
    if create.started then process.emit (.threadStarted .tun2gre create.handle) else process
  else process

def startThreads (process : Process) : Process :=
  if process.runtime.bonding && process.runtime.tunnelInterfaceCreated then
    let process := if process.sockfdGre = 0 then openGreSocket answers process else process
    if process.exited then process else startTun2gre answers (startGre2tun answers process)
  else process

/-- Cancels the threads and closes the socket; the handles stay. -/
def cancelThreads (process : Process) : Process :=
  let process :=
    if process.runtime.gre2tunThread ≠ 0 then
      process.emit (.threadCancelled process.runtime.gre2tunThread)
    else process
  let process :=
    if process.runtime.tun2greThread ≠ 0 then
      process.emit (.threadCancelled process.runtime.tun2greThread)
    else process
  if process.sockfdGre ≠ 0 then closeGreSocket process else process

def stopThreads (process : Process) : Process :=
  if process.runtime.bonding && !process.runtime.tunnelInterfaceCreated then cancelThreads process
  else process

/-! ### DHCP -/

def wifexited (status : BitVec 32) : Bool := decide (status &&& 0x7f#32 = 0)

/-- The status word after `waitpid`, whether or not it was written. -/
def ClientAnswers.status (client : ClientAnswers) : BitVec 32 :=
  client.waitpid.getD client.uninitialized

def startDhcp (process : Process) : Process :=
  if process.runtime.tunnelInterfaceCreated && decide (process.runtime.dhcp.leaseTime = 0) &&
      decide (process.runtime.dhcp.udhcpcPid = 0) then
    let (pid, process) := startUdhcpc answers process
    { process with runtime.dhcp.udhcpcPid := pid }
  else process

def pollDhcp (process : Process) : Process :=
  if process.runtime.dhcp.udhcpcPid ≠ 0 then
    let process :=
      process.emit (.clientPolled .udhcpc process.runtime.dhcp.udhcpcPid answers.udhcpc.waitpid)
    if wifexited answers.udhcpc.status then
      processUdhcpcOutput answers { process with runtime.dhcp.udhcpcPid := 0 }
    else process
  else process

def startDhcp6 (process : Process) : Process :=
  if process.runtime.tunnelInterfaceCreated && decide (process.runtime.dhcp6.leaseTime = 0) &&
      decide (process.runtime.dhcp6.udhcpc6Pid = 0) then
    let (pid, process) := startUdhcpc6 answers process
    { process with runtime.dhcp6.udhcpc6Pid := pid }
  else process

def pollDhcp6 (process : Process) : Process :=
  if process.runtime.dhcp6.udhcpc6Pid ≠ 0 then
    let process :=
      process.emit (.clientPolled .udhcpc6 process.runtime.dhcp6.udhcpc6Pid answers.udhcpc6.waitpid)
    if wifexited answers.udhcpc6.status then
      processUdhcpc6Output answers { process with runtime.dhcp6.udhcpc6Pid := 0 }
    else process
  else process

def expireDhcp (process : Process) : Process :=
  let dhcp := process.runtime.dhcp
  if dhcp.leaseTime ≠ 0 ∧
      dhcp.leaseObtained + dhcp.leaseTime.toNat ≤ (answers.uptime .dhcpExpiry).tvSec then
    { triggerEvent .dhcpdownIp process with
      runtime.dhcp.ip := fun _ => 0
      runtime.dhcp.leaseTime := 0
      runtime.dhcp.leaseObtained := 0 }
  else process

/-- The expiry of the DHCPv6 lease ends the DHCPv4 lease. -/
def expireDhcp6 (process : Process) : Process :=
  let dhcp6 := process.runtime.dhcp6
  if dhcp6.leaseTime ≠ 0 ∧
      dhcp6.leaseObtained + dhcp6.leaseTime.toNat ≤ (answers.uptime .dhcp6Expiry).tvSec then
    { triggerEvent .dhcpdownIp6 process with
      runtime.dhcp.ip := fun _ => 0
      runtime.dhcp.leaseTime := 0
      runtime.dhcp.leaseObtained := 0 }
  else process

/-! ### Signals -/

def sigint : Int := 2

def sigterm : Int := 15

def shutdown (process : Process) : Process :=
  let process :=
    if process.runtime.dhcp.udhcpcPid ≠ 0 then (killUdhcpc answers process).2 else process
  let process :=
    if process.runtime.dhcp6.udhcpc6Pid ≠ 0 then (killUdhcpc6 answers process).2 else process
  let process :=
    if process.runtime.dhcp.leaseTime ≠ 0 then triggerEvent .dhcpdownIp process else process
  let process :=
    if process.runtime.dhcp6.leaseTime ≠ 0 then triggerEvent .dhcpdownIp6 process else process
  let process := if process.runtime.bonding then cancelThreads process else process
  let process :=
    if process.runtime.tunnelInterfaceCreated then (destroyTunnelDev answers process).2
    else process
  let process :=
    if process.runtime.lte.tunnelEstablished && process.runtime.dsl.tunnelEstablished then
      (sendGrecpnotifyLinkfailure answers grecpTuntypeDsl
        (sendGrecpnotifyLinkfailure answers grecpTuntypeLte process).2).2
    else process
  (triggerEvent .shutdown process).exit true

/-- `handle_signal` has stored the signals that came in. -/
def handleSignals (process : Process) : Process :=
  let process := { process with runtime.signal := answers.signal.getD process.runtime.signal }
  if process.runtime.signal ≠ 0 then
    if process.runtime.signal = sigint ∨ process.runtime.signal = sigterm then
      shutdown answers process
    else { process with runtime.signal := 0 }
  else process

/-! ### All of them -/

def timers : List (Process → Process) :=
  [updateInterfaceIps answers, connect answers, ackFilterList answers, verifyTunnel answers,
    sendLteHello answers, sendDslHello answers, verifyLteHellos, verifyDslHellos,
    bypassBandwidth answers, resetLteStats, resetDslStats, resetSession answers,
    updateTunnelDev answers, startThreads answers, stopThreads, startDhcp answers,
    pollDhcp answers, startDhcp6 answers, pollDhcp6 answers, expireDhcp answers,
    expireDhcp6 answers, handleSignals answers]

/-- Nothing runs behind `exit`. -/
def runTimers : List (Process → Process) → Process → Process
  | [], process => process
  | timer :: rest, process => if process.exited then process else runTimers rest (timer process)

def executeTimers (process : Process) : Process := runTimers (timers answers) process

end OpenHybrid

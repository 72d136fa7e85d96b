import OpenHybrid.Lib.Frame
import OpenHybrid.MainLoop

/-!
# What each timer may change

The process seen as a list of aspects, and for each block of `execute_timers` the aspects it may
change: its footprint. Everything else is as it was, so an invariant has to be checked against the
blocks only that touch what it is about.
-/

namespace OpenHybrid

open ByteMemory Frame

variable (answers : Answers) (process : Process)

inductive Kind where
  | request
  | hello
  /-- a notification, told apart by its first attribute -/
  | notify (id : Byte)
  | otherMessage
  | device
  | greSocket
  | thread
  | client
  | dhcpEvent
  | dhcp6Event
  | lifecycle
  deriving DecidableEq

def Effect.kind : Effect → Kind
  | .sendmsg .request _ _ _ => .request
  | .sendmsg .hello _ _ _ => .hello
  | .sendmsg .notify _ message _ => .notify (message.bytes.getD attributesOffset 0)
  | .sendmsg _ _ _ _ => .otherMessage
  | .event .tunnelup | .event .tunneldown => .device
  | .event .dhcpupIp | .event .dhcpdownIp => .dhcpEvent
  | .event .dhcpupIp6 | .event .dhcpdownIp6 => .dhcp6Event
  | .event .startup | .event .shutdown | .exit _ => .lifecycle
  | .greDeviceCreated _ | .greDeviceDestroyed | .tunDeviceCreated _ | .tunDeviceClosed _ => .device
  | .greSocketOpened _ _ | .greSocketClosed _ => .greSocket
  | .threadStarted _ _ | .threadCancelled _ => .thread
  | .clientStarted _ _ | .clientPolled _ _ _ | .outputRead _ | .killed _ _ => .client

def ofKind (kind : Kind) (effects : List Effect) : List Effect :=
  effects.filter fun effect => effect.kind = kind

/-- What only the configuration sets. -/
structure Settings where
  anycastIp : In6Addr
  bonding : Bool
  tunnelInterfaceMtu : BitVec 16
  tunnelInterfaceName : Bytes 16
  eventScriptPath : Bytes 128
  lteInterfaceName : Bytes 16
  dslInterfaceName : Bytes 16
  deriving DecidableEq

def Runtime.settings (runtime : Runtime) : Settings where
  anycastIp := runtime.haap.anycastIp
  bonding := runtime.bonding
  tunnelInterfaceMtu := runtime.tunnelInterfaceMtu
  tunnelInterfaceName := runtime.tunnelInterfaceName
  eventScriptPath := runtime.eventScriptPath
  lteInterfaceName := runtime.lte.interfaceName
  dslInterfaceName := runtime.dsl.interfaceName

/-- What an Accept may set once and for all. -/
structure Parameters where
  activeHelloInterval : BitVec 32
  helloRetryTimes : BitVec 32
  bypassBandwidthCheckInterval : BitVec 32
  deriving DecidableEq

def Runtime.parameters (runtime : Runtime) : Parameters :=
  ⟨runtime.haap.activeHelloInterval, runtime.haap.helloRetryTimes,
    runtime.haap.bypassBandwidthCheckInterval⟩

/-- Where the HAAP is and how it knows this client. -/
structure Session where
  ip : In6Addr
  sessionId : BitVec 32
  bondingKey : BitVec 32
  deriving DecidableEq

def Runtime.session (runtime : Runtime) : Session :=
  ⟨runtime.haap.ip, runtime.haap.sessionId, runtime.haap.bondingKey⟩

structure Hellos where
  lastHelloSent : Int
  lastHelloReceived : Int
  missedHellos : BitVec 8
  deriving DecidableEq, Repr

def Runtime.hellos (runtime : Runtime) (tuntype : Byte) : Hellos :=
  let tunnel := runtime.tunnel tuntype
  ⟨tunnel.lastHelloSent, tunnel.lastHelloReceived, tunnel.missedHellos⟩

def Runtime.established (runtime : Runtime) (tuntype : Byte) : Bool :=
  (runtime.tunnel tuntype).tunnelEstablished

inductive Aspect where
  | settings
  | parameters
  | session
  | commitCount
  | filterListAcked
  | lteEstablished
  | dslEstablished
  | lteHellos
  | dslHellos
  | verification
  | bypassSent
  | interfaceIps
  | created
  | threads
  | signal
  | dhcp
  | dhcp6
  | sockfdGre
  | sockfdTun
  | exited
  | effects (kind : Kind)
  deriving DecidableEq

abbrev Aspect.Value : Aspect → Type
  | .settings => Settings
  | .parameters => Parameters
  | .session => Session
  | .commitCount => BitVec 32
  | .filterListAcked | .lteEstablished | .dslEstablished | .verification | .created | .exited => Bool
  | .lteHellos | .dslHellos => Hellos
  | .bypassSent | .signal | .sockfdGre | .sockfdTun => Int
  | .interfaceIps => In6Addr × In6Addr
  | .threads => BitVec 64 × BitVec 64
  | .dhcp => Dhcp
  | .dhcp6 => Dhcp6
  | .effects _ => List Effect

def Aspect.get : (aspect : Aspect) → Process → aspect.Value
  | .settings, process => process.runtime.settings
  | .parameters, process => process.runtime.parameters
  | .session, process => process.runtime.session
  | .commitCount, process => process.runtime.haap.commitCount
  | .filterListAcked, process => process.runtime.filterListAcked
  | .lteEstablished, process => process.runtime.established grecpTuntypeLte
  | .dslEstablished, process => process.runtime.established grecpTuntypeDsl
  | .lteHellos, process => process.runtime.hellos grecpTuntypeLte
  | .dslHellos, process => process.runtime.hellos grecpTuntypeDsl
  | .verification, process => process.runtime.lte.tunnelVerificationRequired
  | .bypassSent, process => process.runtime.dsl.lastBypassTrafficSent
  | .interfaceIps, process => (process.runtime.lte.interfaceIp, process.runtime.dsl.interfaceIp)
  | .created, process => process.runtime.tunnelInterfaceCreated
  | .threads, process => (process.runtime.gre2tunThread, process.runtime.tun2greThread)
  | .signal, process => process.runtime.signal
  | .dhcp, process => process.runtime.dhcp
  | .dhcp6, process => process.runtime.dhcp6
  | .sockfdGre, process => process.sockfdGre
  | .sockfdTun, process => process.sockfdTun
  | .exited, process => process.exited
  | .effects kind, process => ofKind kind process.effects

abbrev Within (footprint : List Aspect) (before after : Process) : Prop :=
  Frame.Within Aspect.get footprint before after

/-! ### The aspects of a tunnel -/

def IsTuntype (tuntype : Byte) : Prop := tuntype = grecpTuntypeLte ∨ tuntype = grecpTuntypeDsl

def establishedAspect (tuntype : Byte) : Aspect :=
  if tuntype = grecpTuntypeLte then .lteEstablished else .dslEstablished

def hellosAspect (tuntype : Byte) : Aspect :=
  if tuntype = grecpTuntypeLte then .lteHellos else .dslHellos

theorem established_eq_of_get {tuntype : Byte} {before after : Process}
    (htuntype : IsTuntype tuntype)
    (hget : (establishedAspect tuntype).get after = (establishedAspect tuntype).get before) :
    after.runtime.established tuntype = before.runtime.established tuntype := by
  rcases htuntype with rfl | rfl
  · exact hget
  · exact hget

theorem hellos_eq_of_get {tuntype : Byte} {before after : Process}
    (htuntype : IsTuntype tuntype)
    (hget : (hellosAspect tuntype).get after = (hellosAspect tuntype).get before) :
    after.runtime.hellos tuntype = before.runtime.hellos tuntype := by
  rcases htuntype with rfl | rfl
  · exact hget
  · exact hget

/-! ### Effects -/

theorem within_emit {footprint : List Aspect} {effect : Effect}
    (hkind : .effects effect.kind ∈ footprint) : Within footprint process (process.emit effect) := by
  intro aspect haspect
  cases aspect with
  | effects kind =>
      have hother : effect.kind ≠ kind := by
        rintro rfl
        exact haspect hkind
      simp [Aspect.get, Process.emit, ofKind, hother]
  | _ => rfl

theorem within_exit {footprint : List Aspect} (hexited : .exited ∈ footprint)
    (hkind : .effects .lifecycle ∈ footprint) (success : Bool) :
    Within footprint process (process.exit success) := by
  intro aspect haspect
  cases aspect with
  | exited => exact absurd hexited haspect
  | effects kind =>
      have hother : Kind.lifecycle ≠ kind := by
        rintro rfl
        exact haspect hkind
      simp [Aspect.get, Process.exit, ofKind, Effect.kind, hother]
  | _ => rfl

theorem within_triggerEvent {footprint : List Aspect} {name : EventName}
    (hkind : .effects (Effect.event name).kind ∈ footprint) :
    Within footprint process (triggerEvent name process) := by
  unfold triggerEvent
  split_ifs
  · exact Within.refl _ _
  · exact within_emit process hkind

theorem kind_grecpmessage_notify (runtime : Runtime) (tuntype id : Byte) (rest : List Byte)
    (sent : Bool) :
    (Effect.sendmsg .notify tuntype (grecpmessage runtime .notify tuntype (id :: rest)) sent).kind =
      .notify id := by
  simp [Effect.kind, grecpmessage, attributesOffset, List.getElem?_append_right]

theorem within_sendGrecpmessage {footprint : List Aspect} {msgtype : Msgtype} {tuntype : Byte}
    {attributes : List Byte}
    (hkind : ∀ sent, .effects (Effect.sendmsg msgtype tuntype
      (grecpmessage process.runtime msgtype tuntype attributes) sent).kind ∈ footprint) :
    Within footprint process
      (sendGrecpmessage answers msgtype tuntype attributes process).2 := by
  unfold sendGrecpmessage
  dsimp only
  split_ifs
  · exact within_emit process (hkind _)
  · exact Within.refl _ _

theorem notifyAttributes_cons (id : Byte) (value : List Byte) :
    notifyAttributes id value = id :: (notifyAttributes id value).tail := by
  simp [notifyAttributes, appendGrecpattribute]

theorem within_sendNotify {footprint : List Aspect} {tuntype id : Byte} {value : List Byte}
    (hkind : .effects (.notify id) ∈ footprint) :
    Within footprint process
      (sendGrecpmessage answers .notify tuntype (notifyAttributes id value)
        process).2 := by
  refine within_sendGrecpmessage answers process fun sent => ?_
  rw [notifyAttributes_cons, kind_grecpmessage_notify]
  exact hkind

/-! ### Interfaces, requests and notifications -/

theorem within_updateInterfaceIps :
    Within [.interfaceIps] process (updateInterfaceIps answers process) := by
  intro aspect haspect
  unfold updateInterfaceIps
  dsimp only
  split <;> cases aspect with
  | interfaceIps => exact absurd (by decide) haspect
  | _ => rfl

theorem within_connect : Within [.effects .request] process (connect answers process) := by
  unfold connect
  split_ifs
  · exact within_sendGrecpmessage answers process fun sent => by simp [Effect.kind]
  · exact within_sendGrecpmessage answers process fun sent => by simp [Effect.kind]
  · exact Within.refl _ _

theorem within_setFilterListAcked (acked : Bool) :
    Within [.filterListAcked] process { process with runtime.filterListAcked := acked } := by
  intro aspect haspect
  cases aspect with
  | filterListAcked => exact absurd (by decide) haspect
  | _ => rfl

theorem within_setVerification (required : Bool) :
    Within [.verification] process
      { process with runtime.lte.tunnelVerificationRequired := required } := by
  intro aspect haspect
  cases aspect with
  | verification => exact absurd (by decide) haspect
  | _ => rfl

theorem within_setBypassSent (seconds : Int) :
    Within [.bypassSent] process
      { process with runtime.dsl.lastBypassTrafficSent := seconds } := by
  intro aspect haspect
  cases aspect with
  | bypassSent => exact absurd (by decide) haspect
  | _ => rfl

theorem within_ackFilterList :
    Within [.filterListAcked, .effects (.notify msgattrFilterListPackageAck)] process
      (ackFilterList answers process) := by
  unfold ackFilterList
  split
  · have hsend : Within [.filterListAcked, .effects (.notify msgattrFilterListPackageAck)] process
        (sendGrecpnotifyFilterlistpackageack answers 2 process).2 :=
      within_sendNotify answers process (by decide)
    exact hsend.trans ((within_setFilterListAcked _ _).mono (by simp))
  · exact Within.refl _ _

theorem within_verifyTunnel :
    Within [.verification, .effects (.notify msgattrTunnelVerification)] process
      (verifyTunnel answers process) := by
  unfold verifyTunnel
  split
  · have hsend : Within [.verification, .effects (.notify msgattrTunnelVerification)] process
        (sendGrecpnotifyTunnelverify answers process).2 :=
      within_sendNotify answers process (by decide)
    exact hsend.trans ((within_setVerification _ _).mono (by simp))
  · exact Within.refl _ _

theorem within_bypassBandwidth :
    Within [.bypassSent, .effects (.notify msgattrBypassTrafficRate)] process
      (bypassBandwidth answers process) := by
  have hsend : Within [.bypassSent, .effects (.notify msgattrBypassTrafficRate)] process
      (sendGrecpmessage answers .notify grecpTuntypeDsl
        (notifyAttributes msgattrBypassTrafficRate (storeList (htonl 1000#32))) process).2 :=
    within_sendNotify answers process (by decide)
  unfold bypassBandwidth
  split
  · unfold sendGrecpnotifyBypasstraffic
    dsimp only
    split
    · exact hsend.trans ((within_setBypassSent _ _).mono (by simp))
    · exact hsend
  · exact Within.refl _ _

/-! ### Hellos -/

section Hellos

variable {tuntype : Byte}

theorem within_setHellos {tunnel : Tunnel} (htuntype : IsTuntype tuntype)
    (hestablished : tunnel.tunnelEstablished = process.runtime.established tuntype) :
    Within [hellosAspect tuntype] process (process.setTunnel tuntype tunnel) := by
  intro aspect haspect
  rcases htuntype with rfl | rfl
  · cases aspect with
    | lteHellos => exact absurd (by decide) haspect
    | lteEstablished => exact hestablished
    | _ => rfl
  · cases aspect with
    | dslHellos => exact absurd (by decide) haspect
    | dslEstablished => exact hestablished
    | _ => rfl

theorem within_setLastHelloSent (htuntype : IsTuntype tuntype) (seconds : Int) :
    Within [hellosAspect tuntype] process
      { process with runtime := process.runtime.setLastHelloSent tuntype seconds } := by
  intro aspect haspect
  rcases htuntype with rfl | rfl
  · cases aspect with
    | lteHellos => exact absurd (by decide) haspect
    | _ => rfl
  · cases aspect with
    | dslHellos => exact absurd (by decide) haspect
    | _ => rfl

theorem within_sendGrecphello (htuntype : IsTuntype tuntype) (seconds milliseconds : Timeval) :
    Within [hellosAspect tuntype, .effects .hello] process
      (sendGrecphello answers tuntype seconds milliseconds process).2 := by
  have hsend : Within [hellosAspect tuntype, .effects .hello] process
      (sendGrecpmessage answers .hello tuntype
        (helloAttributes (helloTimestamp seconds milliseconds)) process).2 :=
    within_sendGrecpmessage answers process fun sent => by simp [Effect.kind]
  exact hsend.trans ((within_setLastHelloSent _ htuntype _).mono (by simp))

theorem within_sendHello (htuntype : IsTuntype tuntype) (due seconds milliseconds : Reading) :
    Within [hellosAspect tuntype, .effects .hello] process
      (sendHello answers tuntype due seconds milliseconds process) := by
  have hmissed (missed : BitVec 8) : Within [hellosAspect tuntype] process
      (process.setTunnel tuntype
        { process.runtime.tunnel tuntype with missedHellos := missed }) := by
    refine within_setHellos process htuntype ?_
    rw [Runtime.established]
  unfold sendHello
  dsimp only
  split_ifs
  · exact ((hmissed _).mono (by simp)).trans (within_sendGrecphello answers _ htuntype _ _)
  · exact within_sendGrecphello answers _ htuntype _ _
  · exact Within.refl _ _

theorem within_verifyHellos (htuntype : IsTuntype tuntype) :
    Within [establishedAspect tuntype] process (verifyHellos tuntype process) := by
  unfold verifyHellos
  dsimp only
  split_ifs
  · intro aspect haspect
    rcases htuntype with rfl | rfl
    · cases aspect with
      | lteEstablished => exact absurd (by decide) haspect
      | _ => rfl
    · cases aspect with
      | dslEstablished => exact absurd (by decide) haspect
      | _ => rfl
  · exact Within.refl _ _

end Hellos

/-! ### Resets -/

theorem within_resetLteStats :
    Within [.lteHellos, .verification] process (resetLteStats process) := by
  unfold resetLteStats
  split
  · rename_i hdown
    intro aspect haspect
    cases aspect with
    | lteHellos => exact absurd (by decide) haspect
    | verification => exact absurd (by decide) haspect
    | lteEstablished =>
        simp only [Bool.and_eq_true, Bool.not_eq_true'] at hdown
        exact hdown.1.symm
    | _ => rfl
  · exact Within.refl _ _

theorem within_resetDslStats : Within [.dslHellos, .bypassSent] process (resetDslStats process) := by
  unfold resetDslStats
  split
  · rename_i hdown
    intro aspect haspect
    cases aspect with
    | dslHellos => exact absurd (by decide) haspect
    | bypassSent => exact absurd (by decide) haspect
    | dslEstablished =>
        simp only [Bool.and_eq_true, Bool.not_eq_true'] at hdown
        exact hdown.1.symm
    | _ => rfl
  · exact Within.refl _ _

theorem within_killUdhcpc : Within [.effects .client] process (killUdhcpc answers process).2 := by
  unfold killUdhcpc
  dsimp only
  split
  · exact within_emit process (by simp [Effect.kind])
  · exact Within.refl _ _

theorem within_killUdhcpc6 : Within [.effects .client] process (killUdhcpc6 answers process).2 := by
  unfold killUdhcpc6
  dsimp only
  split
  · exact within_emit process (by simp [Effect.kind])
  · exact Within.refl _ _

theorem within_setDhcp (dhcp : Dhcp) :
    Within [.dhcp] process { process with runtime.dhcp := dhcp } := by
  intro aspect haspect
  cases aspect with
  | dhcp => exact absurd (by decide) haspect
  | _ => rfl

theorem within_setDhcp6 (dhcp6 : Dhcp6) :
    Within [.dhcp6] process { process with runtime.dhcp6 := dhcp6 } := by
  intro aspect haspect
  cases aspect with
  | dhcp6 => exact absurd (by decide) haspect
  | _ => rfl

theorem within_resetDhcp :
    Within [.dhcp, .effects .client, .effects .dhcpEvent] process (resetDhcp answers process) := by
  unfold resetDhcp
  dsimp only
  refine Within.trans ?_ ((within_setDhcp _ _).mono (by simp))
  split_ifs
  · exact ((within_killUdhcpc answers process).mono (by simp)).trans
      ((within_setDhcp _ _).mono (by simp))
  · exact within_triggerEvent process (by decide)
  · exact Within.refl _ _

theorem within_resetDhcp6 :
    Within [.dhcp6, .effects .client, .effects .dhcp6Event] process
      (resetDhcp6 answers process) := by
  unfold resetDhcp6
  dsimp only
  refine Within.trans ?_ ((within_setDhcp6 _ _).mono (by simp))
  split_ifs
  · exact ((within_killUdhcpc6 answers process).mono (by simp)).trans
      ((within_setDhcp6 _ _).mono (by simp))
  · exact within_triggerEvent process (by decide)
  · exact Within.refl _ _

theorem within_resetSession :
    Within [.session, .commitCount, .filterListAcked, .dhcp, .dhcp6, .effects .client,
      .effects .dhcpEvent, .effects .dhcp6Event] process (resetSession answers process) := by
  unfold resetSession
  split
  · dsimp only
    refine Within.trans ?_ (Within.trans ((within_resetDhcp answers _).mono (by simp))
      ((within_resetDhcp6 answers _).mono (by simp)))
    intro aspect haspect
    cases aspect with
    | session => exact absurd (by simp) haspect
    | commitCount => exact absurd (by simp) haspect
    | filterListAcked => exact absurd (by simp) haspect
    | _ => rfl
  · exact Within.refl _ _

/-! ### Threads and clients

There are two threads and two clients, and each block about one of them has a copy for the other. -/

def Process.handle (process : Process) : Thread → BitVec 64
  | .gre2tun => process.runtime.gre2tunThread
  | .tun2gre => process.runtime.tun2greThread

def Answers.create (thread : Thread) (answers : Answers) : PthreadCreate :=
  match thread with
  | .gre2tun => answers.gre2tunThread
  | .tun2gre => answers.tun2greThread

def Process.setHandle (thread : Thread) (handle : BitVec 64) (process : Process) : Process :=
  match thread with
  | .gre2tun => { process with runtime.gre2tunThread := handle }
  | .tun2gre => { process with runtime.tun2greThread := handle }

def Thread.start : Thread → Process → Process
  | gre2tun => startGre2tun answers
  | tun2gre => startTun2gre answers

theorem Process.handle_setHandle (thread : Thread) (handle : BitVec 64) :
    (process.setHandle thread handle).handle thread = handle := by
  cases thread <;> rfl

theorem Process.handle_setHandle_of_ne {thread other : Thread} (hother : other ≠ thread)
    (handle : BitVec 64) :
    (process.setHandle thread handle).handle other = process.handle other := by
  cases thread <;> cases other <;> first | rfl | exact absurd rfl hother

theorem Process.effects_setHandle (thread : Thread) (handle : BitVec 64) :
    (process.setHandle thread handle).effects = process.effects := by
  cases thread <;> rfl

/-- The two copies of `pthread_create` differ in the thread only. -/
theorem Thread.start_eq (thread : Thread) :
    thread.start answers process =
      if process.handle thread = 0 then
        let started := process.setHandle thread (answers.create thread).handle
        if (answers.create thread).started then
          started.emit (.threadStarted thread (answers.create thread).handle)
        else started
      else process := by
  cases thread <;> rfl

theorem Thread.effects_start (thread : Thread) :
    (thread.start answers process).effects = process.effects ++
      if process.handle thread = 0 ∧ (answers.create thread).started = true then
        [.threadStarted thread (answers.create thread).handle]
      else [] := by
  rw [Thread.start_eq]
  dsimp only
  split_ifs with hnone hstarted hboth hboth hboth
  · rw [Process.emit, process.effects_setHandle]
  · exact absurd ⟨hnone, hstarted⟩ hboth
  · exact absurd hboth.2 hstarted
  · rw [process.effects_setHandle, List.append_nil]
  · exact absurd hboth.1 hnone
  · exact (List.append_nil _).symm

def Client.aspect : Client → Aspect
  | .udhcpc => .dhcp
  | .udhcpc6 => .dhcp6

def Client.eventKind : Client → Kind
  | .udhcpc => .dhcpEvent
  | .udhcpc6 => .dhcp6Event

def Client.leaseUp : Client → EventName
  | .udhcpc => .dhcpupIp
  | .udhcpc6 => .dhcpupIp6

def Client.leaseDown : Client → EventName
  | .udhcpc => .dhcpdownIp
  | .udhcpc6 => .dhcpdownIp6

def Runtime.leaseTime (client : Client) (runtime : Runtime) : BitVec 32 :=
  match client with
  | .udhcpc => runtime.dhcp.leaseTime
  | .udhcpc6 => runtime.dhcp6.leaseTime

def Runtime.clientPid (client : Client) (runtime : Runtime) : Int :=
  match client with
  | .udhcpc => runtime.dhcp.udhcpcPid
  | .udhcpc6 => runtime.dhcp6.udhcpc6Pid

def Answers.client (client : Client) (answers : Answers) : ClientAnswers :=
  match client with
  | .udhcpc => answers.udhcpc
  | .udhcpc6 => answers.udhcpc6

def Process.setPid (client : Client) (pid : Int) (process : Process) : Process :=
  match client with
  | .udhcpc => { process with runtime.dhcp.udhcpcPid := pid }
  | .udhcpc6 => { process with runtime.dhcp6.udhcpc6Pid := pid }

namespace Client

def start : Client → Process → Process
  | udhcpc => startDhcp answers
  | udhcpc6 => startDhcp6 answers

def processOutput : Client → Process → Process
  | udhcpc => processUdhcpcOutput answers
  | udhcpc6 => processUdhcpc6Output answers

def poll : Client → Process → Process
  | udhcpc => pollDhcp answers
  | udhcpc6 => pollDhcp6 answers

def polled (client : Client) (process : Process) : Process :=
  process.emit (.clientPolled client (process.runtime.clientPid client)
    (answers.client client).waitpid)

theorem start_eq (client : Client) :
    client.start answers process =
      if process.runtime.tunnelInterfaceCreated &&
          decide (process.runtime.leaseTime client = 0) &&
          decide (process.runtime.clientPid client = 0) then
        let started := startClient client (answers.client client) process
        started.2.setPid client started.1
      else process := by
  cases client <;> rfl

/-- The two copies of the poll differ in the client only. -/
theorem poll_eq (client : Client) :
    client.poll answers process =
      if process.runtime.clientPid client ≠ 0 then
        if wifexited (answers.client client).status then
          client.processOutput answers ((client.polled answers process).setPid client 0)
        else client.polled answers process
      else process := by
  cases client <;> rfl

/-- What is read goes into the lease of the family, and with a lease there it is announced. -/
theorem processOutput_cases (client : Client) :
    ∃ read, Within [client.aspect] (process.emit (.outputRead client)) read ∧
      read.effects = process.effects ++ [.outputRead client] ∧
      (client.processOutput answers process = read ∧
          (read.runtime.leaseTime client = process.runtime.leaseTime client ∨
            read.runtime.leaseTime client = 0) ∨
        client.processOutput answers process = triggerEvent client.leaseUp read ∧
          read.runtime.leaseTime client ≠ 0) := by
  cases client with
  | udhcpc =>
      unfold processOutput processUdhcpcOutput
      dsimp only
      split_ifs with hempty hobtained
      · exact ⟨_, Within.refl _ _, rfl, .inl ⟨rfl, .inl rfl⟩⟩
      · exact ⟨_, within_setDhcp _ _, rfl, .inr ⟨rfl, hobtained⟩⟩
      · exact ⟨_, within_setDhcp _ _, rfl, .inl ⟨rfl, .inr (not_not.mp hobtained)⟩⟩
  | udhcpc6 =>
      unfold processOutput processUdhcpc6Output
      dsimp only
      split_ifs with hempty hobtained
      · exact ⟨_, Within.refl _ _, rfl, .inl ⟨rfl, .inl rfl⟩⟩
      · exact ⟨_, within_setDhcp6 _ _, rfl, .inr ⟨rfl, hobtained⟩⟩
      · exact ⟨_, within_setDhcp6 _ _, rfl, .inl ⟨rfl, .inr (not_not.mp hobtained)⟩⟩

end Client

/-! ### Device and threads -/

theorem within_createTunnelDev :
    Within [.created, .sockfdTun, .effects .device] process (createTunnelDev answers process).2 := by
  unfold createTunnelDev
  split
  · unfold createTunTunnelDev
    dsimp only
    have hset : Within [.created, .sockfdTun, .effects .device] process
        { process with sockfdTun := answers.tun.fd } := by
      intro aspect haspect
      cases aspect with
      | sockfdTun => exact absurd (by decide) haspect
      | _ => rfl
    refine Within.trans hset ?_
    split
    · exact Within.refl _ _
    · split
      · exact within_emit _ (by simp [Effect.kind])
      · exact (within_emit _ (by simp [Effect.kind])).trans (within_triggerEvent _ (by decide))
  · unfold createGreTunnelDev
    dsimp only
    cases answers.netlink with
    | noSocket => exact Within.refl _ _
    | refused => exact Within.refl _ _
    | acknowledged =>
        exact (within_emit _ (by simp [Effect.kind])).trans (within_triggerEvent _ (by decide))
    | noAnswer carriedOut =>
        cases carriedOut with
        | false => exact within_triggerEvent _ (by decide)
        | true =>
            exact (within_emit _ (by simp [Effect.kind])).trans (within_triggerEvent _ (by decide))

theorem within_destroyTunnelDev :
    Within [.effects .device] process (destroyTunnelDev answers process).2 := by
  unfold destroyTunnelDev
  split
  · exact (within_emit _ (by simp [Effect.kind])).trans (within_triggerEvent _ (by decide))
  · unfold destroyGreTunnelDev
    cases answers.netlink with
    | noSocket => exact Within.refl _ _
    | refused => exact Within.refl _ _
    | acknowledged =>
        exact (within_emit _ (by simp [Effect.kind])).trans (within_triggerEvent _ (by decide))
    | noAnswer carriedOut =>
        cases carriedOut with
        | false => exact within_triggerEvent _ (by decide)
        | true =>
            exact (within_emit _ (by simp [Effect.kind])).trans (within_triggerEvent _ (by decide))

theorem within_setCreated (created : Bool) :
    Within [.created] process { process with runtime.tunnelInterfaceCreated := created } := by
  intro aspect haspect
  cases aspect with
  | created => exact absurd (by decide) haspect
  | _ => rfl

theorem within_updateTunnelDev :
    Within [.created, .sockfdTun, .effects .device] process (updateTunnelDev answers process) := by
  unfold updateTunnelDev
  dsimp only
  split_ifs
  · exact (within_createTunnelDev answers process).trans
      ((within_setCreated _ _).mono (by simp))
  · exact ((within_destroyTunnelDev answers process).mono (by simp)).trans
      ((within_setCreated _ _).mono (by simp))
  · exact Within.refl _ _

theorem within_openGreSocket :
    Within [.sockfdGre, .exited, .effects .greSocket, .effects .lifecycle] process
      (openGreSocket answers process) := by
  unfold openGreSocket
  dsimp only
  have hset : Within [.sockfdGre, .exited, .effects .greSocket, .effects .lifecycle] process
      { process with sockfdGre := answers.greSocket.fd } := by
    intro aspect haspect
    cases aspect with
    | sockfdGre => exact absurd (by decide) haspect
    | _ => rfl
  refine Within.trans hset ?_
  split
  · exact within_exit _ (by decide) (by decide) false
  · split
    · exact within_exit _ (by decide) (by decide) false
    · exact within_emit _ (by simp [Effect.kind])

theorem within_setThreads (first second : BitVec 64) :
    Within [.threads] process
      { process with runtime.gre2tunThread := first, runtime.tun2greThread := second } := by
  intro aspect haspect
  cases aspect with
  | threads => exact absurd (by decide) haspect
  | _ => rfl

theorem within_startThread (thread : Thread) :
    Within [.threads, .effects .thread] process (thread.start answers process) := by
  have hset (handle : BitVec 64) :
      Within [.threads, .effects .thread] process (process.setHandle thread handle) := by
    cases thread with
    | gre2tun => exact (within_setThreads process handle _).mono (by simp)
    | tun2gre => exact (within_setThreads process _ handle).mono (by simp)
  rw [Thread.start_eq]
  dsimp only
  split_ifs
  · exact (hset _).trans (within_emit _ (by simp [Effect.kind]))
  · exact hset _
  · exact Within.refl _ _

theorem within_startBoth :
    Within [.threads, .effects .thread] process
      (startTun2gre answers (startGre2tun answers process)) :=
  (within_startThread answers process .gre2tun).trans (within_startThread answers _ .tun2gre)

def threadsFootprint : List Aspect :=
  [.sockfdGre, .threads, .exited, .effects .greSocket, .effects .thread, .effects .lifecycle]

theorem within_if {footprint : List Aspect} {condition : Prop} [Decidable condition]
    {after : Process} (hwithin : Within footprint process after) :
    Within footprint process (if condition then after else process) := by
  split
  · exact hwithin
  · exact Within.refl _ _

theorem within_startThreads : Within threadsFootprint process (startThreads answers process) := by
  have hopen : Within threadsFootprint process (openGreSocket answers process) :=
    (within_openGreSocket answers process).mono (by decide)
  have hstart (process : Process) : Within threadsFootprint process
      (startTun2gre answers (startGre2tun answers process)) :=
    (within_startBoth answers process).mono (by decide)
  unfold startThreads
  dsimp only
  refine within_if process ?_
  by_cases hclosed : process.sockfdGre = 0
  · rw [if_pos hclosed]
    split
    · exact hopen
    · exact hopen.trans (hstart _)
  · rw [if_neg hclosed]
    split
    · exact Within.refl _ _
    · exact hstart _

theorem within_cancelThreads :
    Within [.effects .greSocket, .effects .thread] process (cancelThreads process) := by
  unfold cancelThreads
  dsimp only
  refine Within.trans (Within.trans (within_if process (within_emit _ ?_))
    (within_if _ (within_emit _ ?_))) (within_if _ (within_emit _ ?_)) <;> simp [Effect.kind]

theorem within_stopThreads :
    Within [.effects .greSocket, .effects .thread] process (stopThreads process) := by
  unfold stopThreads
  split
  · exact within_cancelThreads process
  · exact Within.refl _ _

/-! ### DHCP -/

theorem within_startClient (client : Client) (clientAnswers : ClientAnswers) :
    Within [.effects .client] process (startClient client clientAnswers process).2 := by
  unfold startClient
  split_ifs
  · exact Within.refl _ _
  · exact Within.refl _ _
  · exact within_emit process (by simp [Effect.kind])

theorem within_setPid (client : Client) (pid : Int) :
    Within [client.aspect] process (process.setPid client pid) := by
  cases client with
  | udhcpc => exact within_setDhcp process _
  | udhcpc6 => exact within_setDhcp6 process _

theorem within_start (client : Client) :
    Within [client.aspect, .effects .client] process (client.start answers process) := by
  rw [Client.start_eq]
  split
  · exact ((within_startClient process client (answers.client client)).mono (by simp)).trans
      ((within_setPid _ client _).mono (by simp))
  · exact Within.refl _ _

theorem within_processOutput (client : Client) :
    Within [client.aspect, .effects .client, .effects client.eventKind] process
      (client.processOutput answers process) := by
  obtain ⟨read, hread, -, houtput⟩ := client.processOutput_cases answers process
  have hwithin : Within [client.aspect, .effects .client, .effects client.eventKind] process read :=
    Within.trans (within_emit process (by simp [Effect.kind])) (hread.mono (by simp))
  rcases houtput with ⟨hunbound, -⟩ | ⟨hbound, -⟩
  · rw [hunbound]
    exact hwithin
  · rw [hbound]
    exact hwithin.trans (within_triggerEvent _ (by cases client <;> decide))

theorem within_poll (client : Client) :
    Within [client.aspect, .effects .client, .effects client.eventKind] process
      (client.poll answers process) := by
  have hpolled : Within [client.aspect, .effects .client, .effects client.eventKind] process
      (client.polled answers process) := within_emit process (by simp [Effect.kind])
  rw [Client.poll_eq]
  split_ifs
  · exact hpolled.trans (((within_setPid _ client 0).mono (by simp)).trans
      (within_processOutput answers _ client))
  · exact hpolled
  · exact Within.refl _ _

theorem within_expireDhcp :
    Within [.dhcp, .effects .dhcpEvent] process (expireDhcp answers process) := by
  unfold expireDhcp
  dsimp only
  split
  · exact (within_triggerEvent process (by decide)).trans ((within_setDhcp _ _).mono (by simp))
  · exact Within.refl _ _

theorem within_expireDhcp6 :
    Within [.dhcp, .effects .dhcp6Event] process (expireDhcp6 answers process) := by
  unfold expireDhcp6
  dsimp only
  split
  · exact (within_triggerEvent process (by decide)).trans ((within_setDhcp _ _).mono (by simp))
  · exact Within.refl _ _

/-! ### Signals -/

def shutdownFootprint : List Aspect :=
  [.exited, .effects .client, .effects .dhcpEvent, .effects .dhcp6Event, .effects .greSocket,
    .effects .thread, .effects .device, .effects (.notify msgattrDslLinkFailure),
    .effects (.notify msgattrLteLinkFailure), .effects .lifecycle]

theorem within_sendLinkfailures :
    Within shutdownFootprint process (sendGrecpnotifyLinkfailure answers grecpTuntypeDsl
      (sendGrecpnotifyLinkfailure answers grecpTuntypeLte process).2).2 :=
  Within.trans (within_sendNotify answers process (by decide))
    (within_sendNotify answers _ (by decide))

theorem within_shutdown : Within shutdownFootprint process (shutdown answers process) := by
  unfold shutdown
  dsimp only
  refine Within.trans ?_ (within_exit _ (by decide) (by decide) true)
  refine Within.trans ?_ (within_triggerEvent _ (by decide))
  refine Within.trans ?_ (within_if _ (within_sendLinkfailures answers _))
  refine Within.trans ?_ (within_if _ ((within_destroyTunnelDev answers _).mono (by decide)))
  refine Within.trans ?_ (within_if _ ((within_cancelThreads _).mono (by decide)))
  refine Within.trans ?_ (within_if _ (within_triggerEvent _ (by decide)))
  refine Within.trans ?_ (within_if _ (within_triggerEvent _ (by decide)))
  refine Within.trans ?_ (within_if _ ((within_killUdhcpc6 answers _).mono (by decide)))
  exact within_if _ ((within_killUdhcpc answers _).mono (by decide))

theorem within_handleSignals :
    Within (.signal :: shutdownFootprint) process (handleSignals answers process) := by
  unfold handleSignals
  dsimp only
  have hset : ∀ process signal, Within (.signal :: shutdownFootprint) process
      { process with runtime.signal := signal } := by
    intro process signal aspect haspect
    cases aspect with
    | signal => exact absurd (by decide) haspect
    | _ => rfl
  refine Within.trans (hset process (answers.signal.getD process.runtime.signal)) ?_
  split
  · split
    · exact (within_shutdown answers _).mono (by simp)
    · exact hset _ 0
  · exact Within.refl _ _

/-! ### All of them -/

/-- The blocks of `execute_timers`, in order. -/
inductive Timer where
  | updateInterfaceIps
  | connect
  | ackFilterList
  | verifyTunnel
  | sendLteHello
  | sendDslHello
  | verifyLteHellos
  | verifyDslHellos
  | bypassBandwidth
  | resetLteStats
  | resetDslStats
  | resetSession
  | updateTunnelDev
  | startThreads
  | stopThreads
  | startDhcp
  | pollDhcp
  | startDhcp6
  | pollDhcp6
  | expireDhcp
  | expireDhcp6
  | handleSignals
  deriving DecidableEq

namespace Timer

def all : List Timer :=
  [updateInterfaceIps, connect, ackFilterList, verifyTunnel, sendLteHello, sendDslHello,
    verifyLteHellos, verifyDslHellos, bypassBandwidth, resetLteStats, resetDslStats, resetSession,
    updateTunnelDev, startThreads, stopThreads, startDhcp, pollDhcp, startDhcp6, pollDhcp6,
    expireDhcp, expireDhcp6, handleSignals]

def run : Timer → Process → Process
  | updateInterfaceIps => OpenHybrid.updateInterfaceIps answers
  | connect => OpenHybrid.connect answers
  | ackFilterList => OpenHybrid.ackFilterList answers
  | verifyTunnel => OpenHybrid.verifyTunnel answers
  | sendLteHello => OpenHybrid.sendLteHello answers
  | sendDslHello => OpenHybrid.sendDslHello answers
  | verifyLteHellos => OpenHybrid.verifyLteHellos
  | verifyDslHellos => OpenHybrid.verifyDslHellos
  | bypassBandwidth => OpenHybrid.bypassBandwidth answers
  | resetLteStats => OpenHybrid.resetLteStats
  | resetDslStats => OpenHybrid.resetDslStats
  | resetSession => OpenHybrid.resetSession answers
  | updateTunnelDev => OpenHybrid.updateTunnelDev answers
  | startThreads => OpenHybrid.startThreads answers
  | stopThreads => OpenHybrid.stopThreads
  | startDhcp => OpenHybrid.startDhcp answers
  | pollDhcp => OpenHybrid.pollDhcp answers
  | startDhcp6 => OpenHybrid.startDhcp6 answers
  | pollDhcp6 => OpenHybrid.pollDhcp6 answers
  | expireDhcp => OpenHybrid.expireDhcp answers
  | expireDhcp6 => OpenHybrid.expireDhcp6 answers
  | handleSignals => OpenHybrid.handleSignals answers

def footprint : Timer → List Aspect
  | updateInterfaceIps => [.interfaceIps]
  | connect => [.effects .request]
  | ackFilterList => [.filterListAcked, .effects (.notify msgattrFilterListPackageAck)]
  | verifyTunnel => [.verification, .effects (.notify msgattrTunnelVerification)]
  | sendLteHello => [.lteHellos, .effects .hello]
  | sendDslHello => [.dslHellos, .effects .hello]
  | verifyLteHellos => [.lteEstablished]
  | verifyDslHellos => [.dslEstablished]
  | bypassBandwidth => [.bypassSent, .effects (.notify msgattrBypassTrafficRate)]
  | resetLteStats => [.lteHellos, .verification]
  | resetDslStats => [.dslHellos, .bypassSent]
  | resetSession =>
      [.session, .commitCount, .filterListAcked, .dhcp, .dhcp6, .effects .client,
        .effects .dhcpEvent, .effects .dhcp6Event]
  | updateTunnelDev => [.created, .sockfdTun, .effects .device]
  | startThreads => threadsFootprint
  | stopThreads => [.effects .greSocket, .effects .thread]
  | startDhcp => [.dhcp, .effects .client]
  | pollDhcp => [.dhcp, .effects .client, .effects .dhcpEvent]
  | startDhcp6 => [.dhcp6, .effects .client]
  | pollDhcp6 => [.dhcp6, .effects .client, .effects .dhcp6Event]
  | expireDhcp => [.dhcp, .effects .dhcpEvent]
  | expireDhcp6 => [.dhcp, .effects .dhcp6Event]
  | handleSignals => .signal :: shutdownFootprint

/-- **One block.** It keeps to its footprint. -/
theorem within_run (timer : Timer) (process : Process) :
    Within timer.footprint process (timer.run answers process) := by
  cases timer with
  | updateInterfaceIps => exact within_updateInterfaceIps answers process
  | connect => exact within_connect answers process
  | ackFilterList => exact within_ackFilterList answers process
  | verifyTunnel => exact within_verifyTunnel answers process
  | sendLteHello => exact within_sendHello answers process (.inl rfl) _ _ _
  | sendDslHello => exact within_sendHello answers process (.inr rfl) _ _ _
  | verifyLteHellos => exact within_verifyHellos process (.inl rfl)
  | verifyDslHellos => exact within_verifyHellos process (.inr rfl)
  | bypassBandwidth => exact within_bypassBandwidth answers process
  | resetLteStats => exact within_resetLteStats process
  | resetDslStats => exact within_resetDslStats process
  | resetSession => exact within_resetSession answers process
  | updateTunnelDev => exact within_updateTunnelDev answers process
  | startThreads => exact within_startThreads answers process
  | stopThreads => exact within_stopThreads process
  | startDhcp => exact within_start answers process .udhcpc
  | pollDhcp => exact within_poll answers process .udhcpc
  | startDhcp6 => exact within_start answers process .udhcpc6
  | pollDhcp6 => exact within_poll answers process .udhcpc6
  | expireDhcp => exact within_expireDhcp answers process
  | expireDhcp6 => exact within_expireDhcp6 answers process
  | handleSignals => exact within_handleSignals answers process

end Timer

theorem runTimers_map (schedule : List Timer) :
    runTimers (schedule.map (Timer.run answers)) process =
      runUntil (Timer.run answers) Process.exited schedule process := by
  induction schedule generalizing process with
  | nil => rfl
  | cons timer rest ih => rw [List.map_cons, runTimers, runUntil, ih]

theorem executeTimers_eq :
    executeTimers answers process = runUntil (Timer.run answers) Process.exited Timer.all process :=
  runTimers_map answers process Timer.all

theorem settings_notMem (timer : Timer) : Aspect.settings ∉ timer.footprint := by
  cases timer <;> decide

/-! ### Before, between and behind the timers -/

namespace Timer

abbrev before (timer : Timer) (process : Process) : Process :=
  reaching (run answers) Process.exited all timer process

abbrev after (timer : Timer) (process : Process) : Process :=
  leaving (run answers) Process.exited all timer process

/-- What no earlier block touches is as it was. -/
theorem agree_before (support : List Aspect) (timer : Timer)
    (hdisjoint : ∀ other ∈ all.takeWhile (· ≠ timer), ∀ aspect ∈ support,
      aspect ∉ other.footprint) :
    Agree Aspect.get support process (before answers timer process) :=
  agree_reaching (within_run answers) hdisjoint process

/-- No timer changes what is configured. -/
theorem settings_before (timer : Timer) :
    (before answers timer process).runtime.settings = process.runtime.settings := by
  refine agree_before answers process [.settings] timer ?_ .settings (List.mem_singleton_self _)
  intro other _ aspect haspect
  rw [List.mem_singleton.mp haspect]
  exact settings_notMem other

theorem agree_between (support : List Aspect) (first second : Timer)
    (hplaces : all.takeWhile (· ≠ second) =
      all.takeWhile (· ≠ first) ++ first :: between all first second)
    (hdisjoint : ∀ other ∈ between all first second, ∀ aspect ∈ support,
      aspect ∉ other.footprint) :
    Agree Aspect.get support (after answers first process) (before answers second process) :=
  Frame.agree_between (within_run answers) hplaces hdisjoint process

theorem agree_after (support : List Aspect) (timer : Timer)
    (hplace : all = all.takeWhile (· ≠ timer) ++ timer :: (all.dropWhile (· ≠ timer)).tail)
    (hdisjoint : ∀ other ∈ (all.dropWhile (· ≠ timer)).tail, ∀ aspect ∈ support,
      aspect ∉ other.footprint) :
    Agree Aspect.get support (after answers timer process) (executeTimers answers process) := by
  rw [executeTimers_eq]
  exact agree_leaving (within_run answers) hplace hdisjoint process

theorem agree_from (support : List Aspect) (timer : Timer)
    (hdisjoint : ∀ other ∈ all.dropWhile (· ≠ timer), ∀ aspect ∈ support,
      aspect ∉ other.footprint) :
    Agree Aspect.get support (before answers timer process) (executeTimers answers process) := by
  rw [executeTimers_eq]
  exact Frame.agree_from (within_run answers) hdisjoint process

theorem agree_executeTimers (support : List Aspect)
    (hdisjoint : ∀ timer ∈ all, ∀ aspect ∈ support, aspect ∉ timer.footprint) :
    Agree Aspect.get support process (executeTimers answers process) := by
  rw [executeTimers_eq]
  exact agree_runUntil (within_run answers) all hdisjoint process

/-- A block in front of which nothing exits is run. -/
theorem after_early (timer : Timer) (hrunning : process.exited = false)
    (hearly : ∀ other ∈ all.takeWhile (· ≠ timer), ∀ aspect ∈ [Aspect.exited],
      aspect ∉ other.footprint) :
    after answers timer process = timer.run answers (before answers timer process) := by
  refine leaving_of_not_done ?_
  exact (agree_before answers process [.exited] timer hearly .exited (by simp)).trans hrunning

end Timer

end OpenHybrid

import OpenHybrid.Proof.Emission

/-!
# The calls of the event script

`trigger_event` prints what `runtime` holds when it is called. The blocks that call it do so before
they write their result back, so what they hand over is told here call by call.
-/

namespace OpenHybrid

open ByteMemory Frame

variable (answers : Answers) {process other : Process} {runtime : Runtime}

/-! ### Calls -/

/-- A call of `trigger_event`, and what `runtime` holds at the time. -/
structure EventCall where
  name : EventName
  runtime : Runtime

def EventCall.effects (call : EventCall) : List Effect :=
  if call.runtime.scripted then [.event call.name] else []

def Effect.isEvent : Effect → Bool
  | .event _ => true
  | _ => false

def triggered (effects : List Effect) : List Effect := effects.filter Effect.isEvent

def createCalls (runtime : Runtime) : List EventCall :=
  if runtime.bonding then
    if 0 ≤ answers.tun.fd ∧ answers.tun.tunSetIff = true then [⟨.tunnelup, runtime⟩] else []
  else if answers.netlink = .noSocket ∨ answers.netlink = .refused then []
  else [⟨.tunnelup, runtime⟩]

def destroyCalls (runtime : Runtime) : List EventCall :=
  if runtime.bonding = false ∧ (answers.netlink = .noSocket ∨ answers.netlink = .refused) then []
  else [⟨.tunneldown, runtime⟩]

def leaseRead (runtime : Runtime) : Dhcp :=
  (outputLines answers.udhcpc.read).foldl (udhcpcLine answers) runtime.dhcp

def leaseRead6 (runtime : Runtime) : Dhcp6 :=
  (outputLines answers.udhcpc6.read).foldl (udhcpc6Line answers) runtime.dhcp6

def outputCalls (runtime : Runtime) : List EventCall :=
  if answers.udhcpc.read ≠ some [] ∧ (leaseRead answers runtime).leaseTime ≠ 0 then
    [⟨.dhcpupIp, { runtime with
      dhcp := { leaseRead answers runtime with
        leaseObtained := (answers.uptime .udhcpcOutput).tvSec } }⟩]
  else []

def outputCalls6 (runtime : Runtime) : List EventCall :=
  if answers.udhcpc6.read ≠ some [] ∧ (leaseRead6 answers runtime).leaseTime ≠ 0 then
    [⟨.dhcpupIp6, { runtime with
      dhcp6 := { leaseRead6 answers runtime with
        leaseObtained := (answers.uptime .udhcpc6Output).tvSec } }⟩]
  else []

def leaseCalls (runtime : Runtime) : List EventCall :=
  (if runtime.dhcp.leaseTime ≠ 0 then [⟨.dhcpdownIp, runtime⟩] else []) ++
    if runtime.dhcp6.leaseTime ≠ 0 then [⟨.dhcpdownIp6, runtime⟩] else []

/-- The calls of a block of `execute_timers`. The reset never comes to its second call: it asks for
the lease that it has cleared behind the first. -/
def Timer.calls (runtime : Runtime) : Timer → List EventCall
  | .resetSession =>
      if runtime.up = false ∧ runtime.dhcp.udhcpcPid = 0 ∧ runtime.dhcp.leaseTime ≠ 0 then
        [⟨.dhcpdownIp, { runtime with
          haap.ip := runtime.haap.anycastIp
          haap.bondingKey := 0
          haap.sessionId := 0
          haap.commitCount := 0
          filterListAcked := false }⟩]
      else []
  | .updateTunnelDev =>
      if runtime.up = true ∧ runtime.tunnelInterfaceCreated = false then createCalls answers runtime
      else if runtime.up = false ∧ runtime.tunnelInterfaceCreated = true then
        destroyCalls answers runtime
      else []
  | .pollDhcp =>
      if runtime.dhcp.udhcpcPid ≠ 0 ∧ wifexited answers.udhcpc.status = true then
        outputCalls answers { runtime with dhcp.udhcpcPid := 0 }
      else []
  | .pollDhcp6 =>
      if runtime.dhcp6.udhcpc6Pid ≠ 0 ∧ wifexited answers.udhcpc6.status = true then
        outputCalls6 answers { runtime with dhcp6.udhcpc6Pid := 0 }
      else []
  | .expireDhcp =>
      if runtime.dhcp.leaseTime ≠ 0 ∧ runtime.dhcp.leaseObtained + runtime.dhcp.leaseTime.toNat ≤
          (answers.uptime .dhcpExpiry).tvSec then
        [⟨.dhcpdownIp, runtime⟩]
      else []
  | .expireDhcp6 =>
      if runtime.dhcp6.leaseTime ≠ 0 ∧
          runtime.dhcp6.leaseObtained + runtime.dhcp6.leaseTime.toNat ≤
            (answers.uptime .dhcp6Expiry).tvSec then
        [⟨.dhcpdownIp6, runtime⟩]
      else []
  | .handleSignals =>
      let runtime := { runtime with signal := answers.signal.getD runtime.signal }
      if runtime.signal = sigint ∨ runtime.signal = sigterm then
        leaseCalls runtime ++
          (if runtime.tunnelInterfaceCreated then destroyCalls answers runtime else []) ++
            [⟨.shutdown, runtime⟩]
      else []
  | _ => []

/-- No call changes what is configured. -/
theorem settings_calls (timer : Timer) {call : EventCall}
    (hmem : call ∈ timer.calls answers runtime) : call.runtime.settings = runtime.settings := by
  have hone : ∀ {condition : Prop} [Decidable condition] {single : EventCall},
      single.runtime.settings = runtime.settings →
        call ∈ (if condition then [single] else []) → call.runtime.settings = runtime.settings := by
    intro condition _ single hsingle hmem
    split at hmem
    · rw [List.mem_singleton.mp hmem]
      exact hsingle
    · exact absurd hmem List.not_mem_nil
  have hdestroy : ∀ {other : Runtime}, call ∈ destroyCalls answers other →
      other.settings = runtime.settings → call.runtime.settings = runtime.settings := by
    intro other hmem hother
    unfold destroyCalls at hmem
    split at hmem
    · exact absurd hmem List.not_mem_nil
    · rw [List.mem_singleton.mp hmem]
      exact hother
  cases timer with
  | resetSession => exact hone rfl hmem
  | updateTunnelDev =>
      unfold Timer.calls createCalls at hmem
      dsimp only at hmem
      split_ifs at hmem
      all_goals first
        | exact absurd hmem List.not_mem_nil
        | exact congrArg (fun call => call.runtime.settings) (List.mem_singleton.mp hmem)
        | exact hdestroy hmem rfl
  | pollDhcp =>
      unfold Timer.calls at hmem
      dsimp only at hmem
      split at hmem
      · exact hone rfl hmem
      · exact absurd hmem List.not_mem_nil
  | pollDhcp6 =>
      unfold Timer.calls at hmem
      dsimp only at hmem
      split at hmem
      · exact hone rfl hmem
      · exact absurd hmem List.not_mem_nil
  | expireDhcp => exact hone rfl hmem
  | expireDhcp6 => exact hone rfl hmem
  | handleSignals =>
      unfold Timer.calls leaseCalls at hmem
      dsimp only at hmem
      split at hmem
      · rcases List.mem_append.mp hmem with hmem | hmem
        · rcases List.mem_append.mp hmem with hmem | hmem
          · rcases List.mem_append.mp hmem with hmem | hmem
            · exact hone rfl hmem
            · exact hone rfl hmem
          · split at hmem
            · exact hdestroy hmem rfl
            · exact absurd hmem List.not_mem_nil
        · rw [List.mem_singleton.mp hmem]
          rfl
      · exact absurd hmem List.not_mem_nil
  | _ => exact absurd hmem List.not_mem_nil

/-! ### What the calls show -/

theorem triggered_append (before after : List Effect) :
    triggered (before ++ after) = triggered before ++ triggered after := List.filter_append ..

/-- Another effect shows nothing. -/
theorem triggered_emit {effect : Effect} (heffect : effect.isEvent = false) (process : Process) :
    triggered (process.emit effect).effects = triggered process.effects := by
  unfold Process.emit triggered
  rw [List.filter_append, List.filter_singleton, heffect, cond_false, List.append_nil]

theorem triggered_triggerEvent (name : EventName) (process : Process) :
    triggered (triggerEvent name process).effects =
      triggered process.effects ++ EventCall.effects ⟨name, process.runtime⟩ := by
  unfold triggerEvent EventCall.effects Runtime.scripted
  by_cases hpath : process.runtime.eventScriptPath 0 = 0
  · rw [if_pos hpath, if_neg (by simpa using hpath), List.append_nil]
  · rw [if_neg hpath, if_pos (by simpa using hpath)]
    exact triggered_append _ _

/-- Nothing is triggered where no kind of event can occur. -/
theorem triggered_of_silent {footprint : List Aspect} (hgrows : Grows process other)
    (hwithin : Within footprint process other)
    (hsilent : ∀ kind ∈ [Kind.device, .dhcpEvent, .dhcp6Event, .lifecycle],
      .effects kind ∉ footprint) :
    triggered other.effects = triggered process.effects := by
  refine filter_of_silent hgrows hwithin fun effect hevent => hsilent _ ?_
  cases effect with
  | event name => cases name <;> decide
  | _ => exact absurd hevent Bool.false_ne_true

def Shows (process other : Process) (calls : List EventCall) : Prop :=
  triggered other.effects = triggered process.effects ++ calls.flatMap EventCall.effects

theorem shows_nil (heffects : triggered other.effects = triggered process.effects) :
    Shows process other [] := heffects.trans (List.append_nil _).symm

theorem shows_singleton {name : EventName} {before : Process}
    (heffects : triggered before.effects = triggered process.effects) :
    Shows process (triggerEvent name before) [⟨name, before.runtime⟩] := by
  unfold Shows
  rw [triggered_triggerEvent, heffects, List.flatMap_singleton]

theorem Shows.trans {first second third : Process} {before after : List EventCall}
    (hbefore : Shows first second before) (hafter : Shows second third after) :
    Shows first third (before ++ after) := by
  unfold Shows at *
  rw [hafter, hbefore, List.flatMap_append, List.append_assoc]

variable (process)

theorem shows_createTunnelDev :
    Shows process (createTunnelDev answers process).2 (createCalls answers process.runtime) := by
  unfold createTunnelDev createCalls createTunTunnelDev createGreTunnelDev
  dsimp only
  cases process.runtime.bonding with
  | true =>
      rw [if_pos rfl, if_pos rfl]
      by_cases hfd : answers.tun.fd < 0
      · rw [if_pos hfd, if_neg fun hboth => absurd hboth.1 (not_le.mpr hfd)]
        exact shows_nil rfl
      · rw [if_neg hfd]
        cases answers.tun.tunSetIff with
        | false =>
            rw [Bool.not_false, if_pos rfl,
              if_neg fun hboth => absurd (And.right hboth) Bool.false_ne_true]
            exact shows_nil (triggered_emit rfl _)
        | true =>
            have hopened : 0 ≤ answers.tun.fd ∧ true = true := ⟨not_lt.mp hfd, rfl⟩
            rw [Bool.not_true, if_neg Bool.false_ne_true, if_pos hopened]
            exact shows_singleton (triggered_emit rfl _)
  | false =>
      rw [if_neg Bool.false_ne_true, if_neg Bool.false_ne_true]
      cases answers.netlink with
      | noSocket => exact shows_nil rfl
      | refused => exact shows_nil rfl
      | acknowledged => exact shows_singleton (triggered_emit rfl process)
      | noAnswer carriedOut =>
          cases carriedOut with
          | true => exact shows_singleton (triggered_emit rfl process)
          | false => exact shows_singleton rfl

theorem shows_destroyTunnelDev :
    Shows process (destroyTunnelDev answers process).2 (destroyCalls answers process.runtime) := by
  unfold destroyTunnelDev destroyCalls destroyTunTunnelDev destroyGreTunnelDev
  cases process.runtime.bonding with
  | true => exact shows_singleton (triggered_emit rfl process)
  | false =>
      rw [if_neg Bool.false_ne_true]
      cases answers.netlink with
      | noSocket => exact shows_nil rfl
      | refused => exact shows_nil rfl
      | acknowledged => exact shows_singleton (triggered_emit rfl process)
      | noAnswer carriedOut =>
          cases carriedOut with
          | true => exact shows_singleton (triggered_emit rfl process)
          | false => exact shows_singleton rfl

theorem shows_updateTunnelDev :
    Shows process (updateTunnelDev answers process)
      (Timer.calls answers process.runtime .updateTunnelDev) := by
  unfold Timer.calls
  dsimp only
  rcases updateTunnelDev_cases answers process with ⟨hup, hcreated, hupdate⟩ |
    ⟨hup, hcreated, hupdate⟩ | ⟨hsame, hupdate⟩
  · rw [hupdate, if_pos ⟨hup, hcreated⟩]
    exact shows_createTunnelDev answers process
  · rw [hupdate, if_neg fun hboth => absurd (hup.symm.trans hboth.1) Bool.false_ne_true,
      if_pos ⟨hup, hcreated⟩]
    exact shows_destroyTunnelDev answers process
  · rw [hupdate, hsame, if_neg fun hboth => absurd (hboth.2.symm.trans hboth.1) Bool.false_ne_true,
      if_neg fun hboth => absurd (hboth.1.symm.trans hboth.2) Bool.false_ne_true]
    exact shows_nil rfl

/-- Both clients' output is read the same way. -/
theorem shows_bound {empty leased : Prop} [Decidable empty] [Decidable leased] {name : EventName}
    {read bound unbound : Process} (hread : triggered read.effects = triggered process.effects)
    (hbound : triggered bound.effects = triggered process.effects)
    (hunbound : triggered unbound.effects = triggered process.effects) :
    Shows process (if empty then read else if leased then triggerEvent name bound else unbound)
      (if ¬empty ∧ leased then [⟨name, bound.runtime⟩] else []) := by
  by_cases hempty : empty
  · rw [if_pos hempty, if_neg fun hboth => hboth.1 hempty]
    exact shows_nil hread
  · rw [if_neg hempty]
    by_cases hleased : leased
    · rw [if_pos hleased, if_pos ⟨hempty, hleased⟩]
      exact shows_singleton hbound
    · rw [if_neg hleased, if_neg fun hboth => hleased hboth.2]
      exact shows_nil hunbound

/-- The script hears of a lease that has been read. -/
theorem shows_processUdhcpcOutput :
    Shows process (processUdhcpcOutput answers process) (outputCalls answers process.runtime) := by
  have hread := triggered_emit (rfl : (Effect.outputRead .udhcpc).isEvent = false) process
  exact shows_bound process hread hread hread

theorem shows_processUdhcpc6Output :
    Shows process (processUdhcpc6Output answers process)
      (outputCalls6 answers process.runtime) := by
  have hread := triggered_emit (rfl : (Effect.outputRead .udhcpc6).isEvent = false) process
  exact shows_bound process hread hread hread

theorem shows_poll {running : Prop} [Decidable running] {exited : Bool} {polled next : Process}
    {calls : List EventCall} (hpolled : triggered polled.effects = triggered process.effects)
    (hnext : Shows polled next calls) :
    Shows process (if running then if exited then next else polled else process)
      (if running ∧ exited = true then calls else []) := by
  by_cases hrunning : running
  · rw [if_pos hrunning]
    cases exited with
    | true =>
        rw [if_pos rfl, if_pos ⟨hrunning, rfl⟩]
        exact (shows_nil hpolled).trans hnext
    | false =>
        rw [if_neg Bool.false_ne_true, if_neg fun hboth => Bool.false_ne_true hboth.2]
        exact shows_nil hpolled
  · rw [if_neg hrunning, if_neg fun hboth => hrunning hboth.1]
    exact shows_nil rfl

theorem triggered_killUdhcpc :
    triggered (killUdhcpc answers process).2.effects = triggered process.effects :=
  triggered_of_silent (Grows.killUdhcpc process) (within_killUdhcpc answers process) (by decide)

theorem killUdhcpc_runtime : (killUdhcpc answers process).2.runtime = process.runtime := by
  unfold killUdhcpc
  dsimp only
  split <;> rfl

/-! ### Resets and shutdown -/

theorem shows_resetDhcp :
    Shows process (resetDhcp answers process)
      (if process.runtime.dhcp.udhcpcPid = 0 ∧ process.runtime.dhcp.leaseTime ≠ 0 then
        [⟨.dhcpdownIp, process.runtime⟩] else []) := by
  unfold resetDhcp
  dsimp only
  by_cases hpid : process.runtime.dhcp.udhcpcPid = 0
  · rw [if_neg (not_not.mpr hpid)]
    by_cases hlease : process.runtime.dhcp.leaseTime = 0
    · rw [if_neg (not_not.mpr hlease), if_neg fun hboth => hboth.2 hlease]
      exact shows_nil rfl
    · rw [if_pos hlease, if_pos ⟨hpid, hlease⟩]
      exact shows_singleton rfl
  · rw [if_pos hpid, if_neg fun hboth => hpid hboth.1]
    exact shows_nil (triggered_killUdhcpc answers process)

theorem shows_resetDhcp6 (hlease : process.runtime.dhcp.leaseTime = 0) :
    Shows process (resetDhcp6 answers process) [] := by
  unfold resetDhcp6
  dsimp only
  by_cases hpid : process.runtime.dhcp6.udhcpc6Pid = 0
  · rw [if_neg (not_not.mpr hpid), if_neg (not_not.mpr hlease)]
    exact shows_nil rfl
  · rw [if_pos hpid]
    exact shows_nil (triggered_killUdhcpc answers process)

theorem shows_resetSession :
    Shows process (resetSession answers process)
      (Timer.calls answers process.runtime .resetSession) := by
  unfold Timer.calls
  dsimp only
  cases hup : process.runtime.up with
  | true =>
      rw [resetSession_of_up answers hup, if_neg fun hall => absurd hall.1.symm Bool.false_ne_true]
      exact shows_nil rfl
  | false =>
      rw [resetSession_of_down answers hup]
      have hfirst := shows_resetDhcp answers (forgetSession process)
      have hsecond := shows_resetDhcp6 answers (resetDhcp answers (forgetSession process)) rfl
      have hboth := hfirst.trans hsecond
      rw [List.append_nil] at hboth
      simp only [true_and]
      exact hboth

theorem shows_if (condition : Prop) [Decidable condition] (name : EventName) :
    Shows process (if condition then triggerEvent name process else process)
      (if condition then [⟨name, process.runtime⟩] else []) := by
  split
  · exact shows_singleton rfl
  · exact shows_nil rfl

theorem runtime_if (condition : Prop) [Decidable condition] (name : EventName) :
    (if condition then triggerEvent name process else process).runtime = process.runtime := by
  split
  · exact runtime_triggerEvent name process
  · rfl

theorem endLeases_shows :
    (endLeases process).runtime = process.runtime ∧
      Shows process (endLeases process) (leaseCalls process.runtime) := by
  have hfirst := shows_if process (process.runtime.dhcp.leaseTime ≠ 0) .dhcpdownIp
  have hruntime := runtime_if process (process.runtime.dhcp.leaseTime ≠ 0) .dhcpdownIp
  unfold endLeases leaseCalls
  dsimp only
  generalize (if process.runtime.dhcp.leaseTime ≠ 0 then triggerEvent .dhcpdownIp process
    else process) = first at hfirst hruntime ⊢
  have hsecond := shows_if first (first.runtime.dhcp6.leaseTime ≠ 0) .dhcpdownIp6
  rw [hruntime] at hsecond ⊢
  exact ⟨(runtime_if first _ .dhcpdownIp6).trans hruntime, hfirst.trans hsecond⟩

theorem killClients_shows :
    (killClients answers process).runtime = process.runtime ∧
      Shows process (killClients answers process) [] := by
  refine ⟨?_, shows_nil (triggered_of_silent (Grows.killClients process)
    (within_killClients answers process) (by decide))⟩
  have hkill : ∀ (condition : Prop) [Decidable condition] (process : Process),
      (if condition then (killUdhcpc answers process).2 else process).runtime =
        process.runtime := by
    intro condition _ process
    split
    · exact killUdhcpc_runtime answers process
    · rfl
  exact (hkill _ _).trans (hkill _ process)

theorem removeDevice_shows :
    (removeDevice answers process).runtime = process.runtime ∧
      Shows process (removeDevice answers process)
        (if process.runtime.tunnelInterfaceCreated then destroyCalls answers process.runtime
          else []) := by
  have hcancel : ∀ process : Process, (cancelThreads process).runtime = process.runtime := by
    intro process
    unfold cancelThreads
    dsimp only
    split_ifs <;> rfl
  have hdestroy : ∀ process : Process,
      (destroyTunnelDev answers process).2.runtime = process.runtime := by
    intro process
    unfold destroyTunnelDev destroyTunTunnelDev destroyGreTunnelDev
    split
    · exact runtime_triggerEvent _ _
    · cases answers.netlink with
      | noSocket => rfl
      | refused => rfl
      | acknowledged => exact runtime_triggerEvent _ _
      | noAnswer carriedOut => cases carriedOut <;> exact runtime_triggerEvent _ _
  have hfirst : Shows process (if process.runtime.bonding then cancelThreads process else process)
      [] := by
    split
    · exact shows_nil (triggered_of_silent (Grows.cancelThreads process)
        (within_cancelThreads process) (by decide))
    · exact shows_nil rfl
  have hruntime : (if process.runtime.bonding then cancelThreads process else process).runtime =
      process.runtime := by
    split
    · exact hcancel process
    · rfl
  unfold removeDevice
  dsimp only
  generalize (if process.runtime.bonding then cancelThreads process else process) = cancelled
    at hfirst hruntime ⊢
  rw [← hruntime]
  cases cancelled.runtime.tunnelInterfaceCreated with
  | false => exact ⟨rfl, hfirst⟩
  | true => exact ⟨hdestroy cancelled, hfirst.trans (shows_destroyTunnelDev answers cancelled)⟩

theorem triggered_sendGrecpmessage (msgtype : Msgtype) (tuntype : Byte) (attributes : List Byte) :
    triggered (sendGrecpmessage answers msgtype tuntype attributes process).2.effects =
      triggered process.effects := by
  unfold sendGrecpmessage
  dsimp only
  split
  · exact triggered_emit rfl process
  · rfl

theorem shows_sayGoodbye :
    Shows process (sayGoodbye answers process) [⟨.shutdown, process.runtime⟩] := by
  have hexit : ∀ other : Process,
      Shows other ((triggerEvent .shutdown other).exit true) [⟨.shutdown, other.runtime⟩] :=
    fun other => (triggered_emit (rfl : (Effect.exit true).isEvent = false) _).trans
      (shows_singleton rfl)
  unfold sayGoodbye
  dsimp only
  split
  · have hlte : triggered (sendGrecpnotifyLinkfailure answers grecpTuntypeLte process).2.effects =
        triggered process.effects := triggered_sendGrecpmessage ..
    have hruntime : (sendGrecpnotifyLinkfailure answers grecpTuntypeLte process).2.runtime =
        process.runtime := runtime_sendGrecpmessage ..
    generalize (sendGrecpnotifyLinkfailure answers grecpTuntypeLte process).2 = first
      at hlte hruntime ⊢
    have hdsl : triggered (sendGrecpnotifyLinkfailure answers grecpTuntypeDsl first).2.effects =
        triggered process.effects := (triggered_sendGrecpmessage ..).trans hlte
    have hboth : (sendGrecpnotifyLinkfailure answers grecpTuntypeDsl first).2.runtime =
        process.runtime := (runtime_sendGrecpmessage ..).trans hruntime
    have hgoodbye := hexit (sendGrecpnotifyLinkfailure answers grecpTuntypeDsl first).2
    rw [hboth] at hgoodbye
    exact (shows_nil hdsl).trans hgoodbye
  · exact hexit process

theorem shows_shutdown :
    Shows process (shutdown answers process)
      (leaseCalls process.runtime ++
        (if process.runtime.tunnelInterfaceCreated then destroyCalls answers process.runtime
          else []) ++ [⟨.shutdown, process.runtime⟩]) := by
  obtain ⟨hkilled, hkill⟩ := killClients_shows answers process
  obtain ⟨hended, hend⟩ := endLeases_shows (killClients answers process)
  obtain ⟨hremoved, hremove⟩ :=
    removeDevice_shows answers (endLeases (killClients answers process))
  have hgoodbye :=
    shows_sayGoodbye answers (removeDevice answers (endLeases (killClients answers process)))
  rw [hremoved, hended, hkilled] at hgoodbye
  rw [hended, hkilled] at hremove
  rw [hkilled] at hend
  exact ((hkill.trans hend).trans hremove).trans hgoodbye

/-- A shutdown calls for the leases, the device and itself. -/
theorem shows_handleSignals :
    Shows process (handleSignals answers process)
      (Timer.calls answers process.runtime .handleSignals) := by
  unfold Timer.calls handleSignals
  dsimp only
  generalize answers.signal.getD process.runtime.signal = signal
  by_cases hstop : signal = sigint ∨ signal = sigterm
  · have hne : signal ≠ 0 := by
      rintro rfl
      exact absurd hstop (by decide)
    rw [if_pos hne, if_pos hstop, if_pos hstop]
    exact shows_shutdown answers { process with runtime.signal := signal }
  · rw [if_neg hstop, if_neg hstop]
    split
    · exact shows_nil rfl
    · exact shows_nil rfl

theorem triggered_startThreads :
    triggered (startThreads answers process).effects = triggered process.effects := by
  have hopen : ∀ process : Process,
      triggered (openGreSocket answers process).effects = triggered process.effects := by
    intro process
    have hexit := triggered_emit (rfl : (Effect.exit false).isEvent = false) process
    unfold openGreSocket
    dsimp only
    split_ifs
    · exact hexit
    · exact hexit
    all_goals exact triggered_emit rfl process
  have hthread : ∀ (thread : Thread) (process : Process),
      triggered (thread.start answers process).effects = triggered process.effects := by
    intro thread process
    rw [thread.effects_start, triggered_append]
    split <;> exact List.append_nil _
  have hstart : ∀ process : Process,
      triggered (startTun2gre answers (startGre2tun answers process)).effects =
        triggered process.effects := fun process =>
    (hthread .tun2gre _).trans (hthread .gre2tun process)
  unfold startThreads
  dsimp only
  split
  · by_cases hclosed : process.sockfdGre = 0
    · rw [if_pos hclosed]
      split
      · exact hopen process
      · exact (hstart _).trans (hopen process)
    · rw [if_neg hclosed]
      split
      · rfl
      · exact hstart process
  · rfl

/-- **One block.** -/
theorem shows_run (timer : Timer) :
    Shows process (timer.run answers process) (timer.calls answers process.runtime) := by
  cases timer with
  | resetSession => exact shows_resetSession answers process
  | updateTunnelDev => exact shows_updateTunnelDev answers process
  | pollDhcp =>
      have hpolled := triggered_emit (rfl : (Effect.clientPolled .udhcpc
        process.runtime.dhcp.udhcpcPid answers.udhcpc.waitpid).isEvent = false) process
      exact shows_poll process hpolled (shows_processUdhcpcOutput answers _)
  | pollDhcp6 =>
      have hpolled := triggered_emit (rfl : (Effect.clientPolled .udhcpc6
        process.runtime.dhcp6.udhcpc6Pid answers.udhcpc6.waitpid).isEvent = false) process
      exact shows_poll process hpolled (shows_processUdhcpc6Output answers _)
  | startThreads => exact shows_nil (triggered_startThreads answers process)
  | expireDhcp =>
      unfold Timer.run expireDhcp Timer.calls
      dsimp only
      split
      · exact shows_singleton rfl
      · exact shows_nil rfl
  | expireDhcp6 =>
      unfold Timer.run expireDhcp6 Timer.calls
      dsimp only
      split
      · exact shows_singleton rfl
      · exact shows_nil rfl
  | handleSignals => exact shows_handleSignals answers process
  | _ =>
      refine shows_nil (triggered_of_silent (Grows.run _ process) (Timer.within_run answers _ process)
        ?_)
      decide

/-! ### One execution -/

/-- The calls of a block where it stands; nothing runs behind `exit`. -/
def callsAt (process : Process) (timer : Timer) : List EventCall :=
  if (Timer.before answers timer process).exited then []
  else timer.calls answers (Timer.before answers timer process).runtime

def executionCalls (process : Process) : List EventCall :=
  Timer.all.flatMap (callsAt answers process)

/-- Each block adds what its calls show. -/
theorem triggered_after (timer : Timer) :
    triggered (Timer.after answers timer process).effects =
      triggered (Timer.before answers timer process).effects ++
        (callsAt answers process timer).flatMap EventCall.effects := by
  cases hexited : (Timer.before answers timer process).exited with
  | true =>
      have hsame : Timer.after answers timer process = Timer.before answers timer process :=
        leaving_of_done hexited
      rw [callsAt, hsame, hexited, if_pos rfl, List.flatMap_nil, List.append_nil]
  | false =>
      have hrun : Timer.after answers timer process =
          timer.run answers (Timer.before answers timer process) := leaving_of_not_done hexited
      rw [callsAt, hrun, hexited, if_neg Bool.false_ne_true]
      exact shows_run answers _ timer

/-- **One execution.** The events are those of the calls, in order. -/
theorem shows_executeTimers :
    Shows process (executeTimers answers process) (executionCalls answers process) := by
  have hfront : triggered (Timer.before answers .handleSignals process).effects =
      triggered process.effects ++ (Timer.all.takeWhile (· ≠ .handleSignals)).flatMap fun timer =>
        (callsAt answers process timer).flatMap EventCall.effects :=
    collected_reaching (fun process : Process => triggered process.effects)
      (fun timer => (callsAt answers process timer).flatMap EventCall.effects)
      (by decide : Timer.all.Nodup) fun timer _ => triggered_after answers process timer
  have hlast := triggered_after answers process .handleSignals
  rw [after_handleSignals, hfront] at hlast
  have hall : Timer.all = Timer.all.takeWhile (· ≠ .handleSignals) ++ [.handleSignals] := by decide
  unfold Shows executionCalls
  rw [hlast, List.flatMap_assoc, hall, List.flatMap_append, List.flatMap_singleton,
    List.append_assoc, ← hall]

/-- Every call is made with the settings the execution began with. -/
theorem settings_executionCalls {call : EventCall}
    (hmem : call ∈ executionCalls answers process) :
    call.runtime.settings = process.runtime.settings := by
  obtain ⟨timer, -, hcall⟩ := List.mem_flatMap.mp hmem
  unfold callsAt at hcall
  split at hcall
  · exact absurd hcall List.not_mem_nil
  · exact (settings_calls answers timer hcall).trans (Timer.settings_before answers process timer)

end OpenHybrid

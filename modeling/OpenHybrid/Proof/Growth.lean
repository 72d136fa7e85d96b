import OpenHybrid.Proof.Shutdown

/-!
# What has been done stays done

An execution only ever adds to the effects. With what a timer may change this says where in the
order of the effects those of some kinds can stand.
-/

namespace OpenHybrid

open ByteMemory Frame

variable {answers : Answers} {process other : Process}

def Grows (before after : Process) : Prop := before.effects <+: after.effects

namespace Grows

theorem of_effects (heffects : other.effects = process.effects) : Grows process other := by
  rw [Grows, heffects]

theorem refl (process : Process) : Grows process process := of_effects rfl

theorem trans {first second third : Process} (hfirst : Grows first second)
    (hsecond : Grows second third) : Grows first third := List.IsPrefix.trans hfirst hsecond

theorem ite {condition : Prop} [Decidable condition] (hgrows : Grows process other) :
    Grows process (if condition then other else process) := by
  split
  · exact hgrows
  · exact refl process

theorem emit (effect : Effect) (process : Process) : Grows process (process.emit effect) :=
  List.prefix_append _ _

theorem exit (success : Bool) (process : Process) : Grows process (process.exit success) :=
  List.prefix_append _ _

theorem triggerEvent (name : EventName) (process : Process) :
    Grows process (triggerEvent name process) := by
  unfold OpenHybrid.triggerEvent
  split
  · exact refl process
  · exact emit _ process

theorem sendGrecpmessage (msgtype : Msgtype) (tuntype : Byte) (attributes : List Byte)
    (process : Process) :
    Grows process (sendGrecpmessage answers msgtype tuntype attributes process).2 := by
  unfold OpenHybrid.sendGrecpmessage
  dsimp only
  split
  · exact emit _ process
  · exact refl process

/-! ### Devices, sockets and threads -/

theorem createTunnelDev (process : Process) : Grows process (createTunnelDev answers process).2 := by
  unfold OpenHybrid.createTunnelDev createTunTunnelDev createGreTunnelDev
  dsimp only
  split
  · have hset : Grows process { process with sockfdTun := answers.tun.fd } := of_effects rfl
    by_cases hfailed : answers.tun.fd < 0
    · rw [if_pos hfailed]
      exact hset
    · rw [if_neg hfailed]
      split
      · exact hset.trans (emit _ _)
      · exact hset.trans ((emit _ _).trans (triggerEvent _ _))
  · cases answers.netlink with
    | noSocket => exact refl process
    | refused => exact refl process
    | acknowledged => exact (emit _ process).trans (triggerEvent _ _)
    | noAnswer carriedOut => exact (ite (emit _ process)).trans (triggerEvent _ _)

theorem destroyTunnelDev (process : Process) :
    Grows process (destroyTunnelDev answers process).2 := by
  unfold OpenHybrid.destroyTunnelDev destroyTunTunnelDev destroyGreTunnelDev
  split
  · exact (emit _ process).trans (triggerEvent _ _)
  · cases answers.netlink with
    | noSocket => exact refl process
    | refused => exact refl process
    | acknowledged => exact (emit _ process).trans (triggerEvent _ _)
    | noAnswer carriedOut => exact (ite (emit _ process)).trans (triggerEvent _ _)

theorem updateTunnelDev (process : Process) : Grows process (updateTunnelDev answers process) := by
  unfold OpenHybrid.updateTunnelDev
  dsimp only
  split_ifs
  · exact createTunnelDev process
  · exact destroyTunnelDev process
  · exact refl process

theorem openGreSocket (process : Process) : Grows process (openGreSocket answers process) := by
  unfold OpenHybrid.openGreSocket
  dsimp only
  have hset : Grows process { process with sockfdGre := answers.greSocket.fd } := of_effects rfl
  split_ifs
  · exact hset.trans (exit false _)
  · exact hset.trans (exit false _)
  all_goals exact hset.trans (emit _ _)

theorem startThread (thread : Thread) (process : Process) :
    Grows process (thread.start answers process) := ⟨_, (thread.effects_start answers process).symm⟩

theorem startThreads (process : Process) : Grows process (startThreads answers process) := by
  have hstart (process : Process) :
      Grows process (startTun2gre answers (startGre2tun answers process)) :=
    (startThread .gre2tun process).trans (startThread .tun2gre _)
  unfold OpenHybrid.startThreads
  dsimp only
  refine ite ?_
  by_cases hclosed : process.sockfdGre = 0
  · rw [if_pos hclosed]
    split
    · exact openGreSocket process
    · exact (openGreSocket process).trans (hstart _)
  · rw [if_neg hclosed]
    split
    · exact refl process
    · exact hstart process

theorem cancelThreads (process : Process) : Grows process (cancelThreads process) :=
  (ite (emit _ process)).trans ((ite (emit _ _)).trans (ite (emit _ _)))

/-! ### DHCP -/

theorem killUdhcpc (process : Process) : Grows process (killUdhcpc answers process).2 := by
  unfold OpenHybrid.killUdhcpc
  dsimp only
  split
  · exact emit _ process
  · exact refl process

theorem killUdhcpc6 (process : Process) : Grows process (killUdhcpc6 answers process).2 :=
  killUdhcpc process

theorem resetSession (process : Process) : Grows process (resetSession answers process) := by
  have hdhcp (process : Process) : Grows process (resetDhcp answers process) := by
    unfold resetDhcp
    dsimp only
    split_ifs
    · exact killUdhcpc process
    · exact triggerEvent _ process
    · exact of_effects rfl
  have hdhcp6 (process : Process) : Grows process (resetDhcp6 answers process) := by
    unfold resetDhcp6
    dsimp only
    split_ifs
    · exact killUdhcpc6 process
    · exact triggerEvent _ process
    · exact of_effects rfl
  cases hup : process.runtime.established grecpTuntypeLte ||
      process.runtime.established grecpTuntypeDsl with
  | true =>
      rw [resetSession_of_up answers hup]
      exact refl process
  | false =>
      rw [resetSession_of_down answers hup]
      exact (of_effects rfl : Grows process (forgetSession process)).trans
        ((hdhcp _).trans (hdhcp6 _))

theorem startClient (client : Client) (clientAnswers : ClientAnswers) (process : Process) :
    Grows process (startClient client clientAnswers process).2 := by
  unfold OpenHybrid.startClient
  split_ifs
  · exact refl process
  · exact refl process
  · exact emit _ process

theorem processOutput (client : Client) (process : Process) :
    Grows process (client.processOutput answers process) := by
  obtain ⟨read, -, heffects, houtput⟩ := client.processOutput_cases answers process
  have hread : Grows process read := ⟨[.outputRead client], heffects.symm⟩
  rcases houtput with ⟨hunbound, -⟩ | ⟨hbound, -⟩
  · rw [hunbound]
    exact hread
  · rw [hbound]
    exact hread.trans (triggerEvent _ read)

theorem poll (client : Client) (process : Process) :
    Grows process (client.poll answers process) := by
  have hpolled : Grows process (client.polled answers process) := emit _ process
  have hset : Grows process ((client.polled answers process).setPid client 0) :=
    hpolled.trans (of_effects (by cases client <;> rfl))
  rw [Client.poll_eq]
  split_ifs
  · exact hset.trans (processOutput client _)
  · exact hpolled
  · exact refl process

/-! ### Signals -/

theorem sayGoodbye (process : Process) : Grows process (sayGoodbye answers process) := by
  unfold OpenHybrid.sayGoodbye
  dsimp only
  refine Grows.trans (ite ?_) ((triggerEvent .shutdown _).trans (exit true _))
  exact (sendGrecpmessage _ _ _ process).trans (sendGrecpmessage _ _ _ _)

theorem killClients (process : Process) : Grows process (killClients answers process) :=
  (ite (killUdhcpc process)).trans (ite (killUdhcpc6 _))

theorem endLeases (process : Process) : Grows process (endLeases process) :=
  (ite (triggerEvent _ process)).trans (ite (triggerEvent _ _))

theorem removeDevice (process : Process) : Grows process (removeDevice answers process) :=
  (ite (cancelThreads process)).trans (ite (destroyTunnelDev _))

theorem shutdown (process : Process) : Grows process (shutdown answers process) := by
  rw [shutdown_eq]
  exact (((killClients process).trans (endLeases _)).trans (removeDevice _)).trans (sayGoodbye _)

end Grows

/-- Effects of kinds outside the footprint are the same, and in the same order. -/
theorem filter_of_silent {footprint : List Aspect} {relevant : Effect → Bool}
    (hgrows : Grows process other) (hwithin : Within footprint process other)
    (hsilent : ∀ effect, relevant effect = true → .effects effect.kind ∉ footprint) :
    other.effects.filter relevant = process.effects.filter relevant := by
  obtain ⟨more, hmore⟩ := hgrows
  have hnone : more.filter relevant = [] := by
    refine List.filter_eq_nil_iff.mpr fun effect hmem hrelevant => ?_
    have hsame : ofKind effect.kind other.effects = ofKind effect.kind process.effects :=
      hwithin _ (hsilent effect hrelevant)
    rw [← hmore] at hsame
    have hnothing : ofKind effect.kind more = [] :=
      List.append_right_eq_self.mp ((List.filter_append ..).symm.trans hsame)
    exact absurd (List.filter_eq_nil_iff.mp hnothing effect hmem) (by simp)
  rw [← hmore, List.filter_append, hnone, List.append_nil]

/-! ### The timers -/

/-- **One block.** -/
theorem Grows.run (timer : Timer) (process : Process) :
    Grows process (timer.run answers process) := by
  have hhello (tuntype : Byte) (due seconds milliseconds : Reading) :
      Grows process (sendHello answers tuntype due seconds milliseconds process) := by
    unfold OpenHybrid.sendHello
    dsimp only
    split
    · split
      · exact Grows.sendGrecpmessage _ _ _ (process.setTunnel _ _)
      · exact Grows.sendGrecpmessage _ _ _ process
    · exact Grows.refl process
  cases timer with
  | updateInterfaceIps =>
      unfold Timer.run updateInterfaceIps
      dsimp only
      split <;> exact Grows.of_effects rfl
  | connect =>
      unfold Timer.run OpenHybrid.connect
      dsimp only
      split_ifs
      · exact Grows.sendGrecpmessage _ _ _ process
      · exact Grows.sendGrecpmessage _ _ _ process
      · exact Grows.refl process
  | ackFilterList =>
      unfold Timer.run ackFilterList
      dsimp only
      split
      · exact Grows.sendGrecpmessage _ _ _ process
      · exact Grows.refl process
  | verifyTunnel =>
      unfold Timer.run verifyTunnel
      dsimp only
      split
      · exact Grows.sendGrecpmessage _ _ _ process
      · exact Grows.refl process
  | sendLteHello => exact hhello _ _ _ _
  | sendDslHello => exact hhello _ _ _ _
  | verifyLteHellos => exact Grows.ite (Grows.of_effects rfl)
  | verifyDslHellos => exact Grows.ite (Grows.of_effects rfl)
  | bypassBandwidth =>
      unfold Timer.run bypassBandwidth sendGrecpnotifyBypasstraffic
      dsimp only
      split_ifs
      · exact Grows.sendGrecpmessage _ _ _ process
      · exact Grows.sendGrecpmessage _ _ _ process
      · exact Grows.refl process
  | resetLteStats => exact Grows.ite (Grows.of_effects rfl)
  | resetDslStats => exact Grows.ite (Grows.of_effects rfl)
  | resetSession => exact Grows.resetSession process
  | updateTunnelDev => exact Grows.updateTunnelDev process
  | startThreads => exact Grows.startThreads process
  | stopThreads => exact Grows.ite (Grows.cancelThreads process)
  | startDhcp => exact Grows.ite (Grows.startClient _ _ process)
  | pollDhcp => exact Grows.poll .udhcpc process
  | startDhcp6 => exact Grows.ite (Grows.startClient _ _ process)
  | pollDhcp6 => exact Grows.poll .udhcpc6 process
  | expireDhcp =>
      unfold Timer.run expireDhcp
      dsimp only
      split
      · exact Grows.triggerEvent _ process
      · exact Grows.refl process
  | expireDhcp6 =>
      unfold Timer.run expireDhcp6
      dsimp only
      split
      · exact Grows.triggerEvent _ process
      · exact Grows.refl process
  | handleSignals =>
      show Grows process (handleSignals answers process)
      rcases handleSignals_eq answers process with ⟨signal, hsame⟩ | ⟨signal, hshutdown⟩
      · rw [hsame]
        exact Grows.of_effects rfl
      · rw [hshutdown]
        have hset : Grows process { process with runtime.signal := signal } := Grows.of_effects rfl
        exact hset.trans (Grows.shutdown _)

end OpenHybrid

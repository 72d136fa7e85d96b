import OpenHybrid.Proof.Device

/-!
# The keys of the data plane

The data socket and the kernel device copy the bonding key, and the device the address of the HAAP,
when they are opened. Neither is opened again while it is there, so what has been copied is what the
session was then.
-/

namespace OpenHybrid

open ByteMemory Frame Transition

variable {answers : Answers} {past : List Effect} {process : Process}

def Effect.leavesFilter (before : Option (BitVec 32)) : Effect → Option (BitVec 32)
  | .greSocketOpened _ filter => filter
  | .greSocketClosed _ => none
  | _ => before

def greFilter (effects : List Effect) : Option (BitVec 32) :=
  effects.foldl Effect.leavesFilter none

def Effect.leavesGreDevice (before : Option GreDevice) : Effect → Option GreDevice
  | .greDeviceCreated device => some device
  | .greDeviceDestroyed => none
  | _ => before

def greDevice (effects : List Effect) : Option GreDevice :=
  effects.foldl Effect.leavesGreDevice none

theorem leavesFilter_of_kind (before : Option (BitVec 32)) (effect : Effect)
    (hkind : effect.kind ≠ .greSocket) : effect.leavesFilter before = before := by
  cases effect with
  | greSocketOpened fd filter => exact absurd rfl hkind
  | greSocketClosed fd => exact absurd rfl hkind
  | _ => rfl

theorem leavesGreDevice_of_kind (before : Option GreDevice) (effect : Effect)
    (hkind : effect.kind ≠ .device) : effect.leavesGreDevice before = before := by
  cases effect with
  | greDeviceCreated device => exact absurd rfl hkind
  | greDeviceDestroyed => exact absurd rfl hkind
  | _ => rfl

theorem greFilter_congr {before after : List Effect}
    (heffects : ofKind .greSocket after = ofKind .greSocket before) :
    greFilter (past ++ after) = greFilter (past ++ before) := by
  unfold greFilter
  rw [List.foldl_append, List.foldl_append, ← foldl_ofKind leavesFilter_of_kind after, heffects,
    foldl_ofKind leavesFilter_of_kind]

theorem greDevice_congr {before after : List Effect}
    (heffects : ofKind .device after = ofKind .device before) :
    greDevice (past ++ after) = greDevice (past ++ before) := by
  unfold greDevice
  rw [List.foldl_append, List.foldl_append, ← foldl_ofKind leavesGreDevice_of_kind after, heffects,
    foldl_ofKind leavesGreDevice_of_kind]

theorem greDevice_snoc (effects : List Effect) (effect : Effect) :
    greDevice (effects ++ [effect]) = effect.leavesGreDevice (greDevice effects) := by
  simp [greDevice]

theorem greFilter_snoc (effects : List Effect) (effect : Effect) :
    greFilter (effects ++ [effect]) = effect.leavesFilter (greFilter effects) := by
  simp [greFilter]

/-! ### The kernel device -/

structure GreDevice.Carries (device : GreDevice) (session : Session) : Prop where
  inputKey : device.inputKey = htonl session.bondingKey
  outputKey : device.outputKey = htonl session.bondingKey
  remoteIp : device.remoteIp = session.ip

theorem greDevice_announce (process : Process) (name : EventName) :
    greDevice (past ++ (triggerEvent name process).effects) = greDevice (past ++ process.effects) := by
  rw [effects_triggerEvent]
  split
  · rw [← List.append_assoc, greDevice_snoc]
    rfl
  · rw [List.append_nil]

/-- A kernel device that is created belongs to the session. -/
theorem carries_createTunnelDev (hbonding : process.runtime.bonding = false)
    (hanswer : answers.netlink ≠ .noAnswer false)
    (hcreated : (createTunnelDev answers process).1 = true) :
    ∃ device, greDevice (past ++ (createTunnelDev answers process).2.effects) = some device ∧
      device.Carries process.runtime.session := by
  unfold createTunnelDev createGreTunnelDev at hcreated ⊢
  rw [hbonding, if_neg Bool.false_ne_true] at hcreated ⊢
  dsimp only at hcreated ⊢
  cases hnetlink : answers.netlink with
  | noSocket =>
      rw [hnetlink] at hcreated
      exact absurd hcreated Bool.false_ne_true
  | refused =>
      rw [hnetlink] at hcreated
      exact absurd hcreated Bool.false_ne_true
  | acknowledged =>
      dsimp only
      rw [greDevice_announce, Process.emit, ← List.append_assoc, greDevice_snoc]
      exact ⟨_, rfl, rfl, rfl, rfl⟩
  | noAnswer carriedOut =>
      cases carriedOut with
      | false => exact absurd hnetlink hanswer
      | true =>
          dsimp only
          rw [if_pos rfl, greDevice_announce, Process.emit, ← List.append_assoc, greDevice_snoc]
          exact ⟨_, rfl, rfl, rfl, rfl⟩

theorem greDevice_destroyTunnelDev (hbonding : process.runtime.bonding = false)
    (hkept : (destroyTunnelDev answers process).1 = false) :
    (destroyTunnelDev answers process).2 = process := by
  have hrefused := refused_of_kept hbonding hkept
  unfold destroyTunnelDev destroyGreTunnelDev
  rw [hbonding, if_neg Bool.false_ne_true, hrefused]

/-- What the block does to the kernel device, if it leaves one flagged. -/
theorem greDevice_updateTunnelDev (hbonding : process.runtime.bonding = false)
    (hanswer : process.runtime.tunnelInterfaceCreated = false → process.runtime.up = true →
      answers.netlink ≠ .noAnswer false)
    (hcreated : (updateTunnelDev answers process).runtime.tunnelInterfaceCreated = true) :
    (process.runtime.tunnelInterfaceCreated = false ∧
      ∃ device, greDevice (past ++ (updateTunnelDev answers process).effects) = some device ∧
        device.Carries process.runtime.session) ∨
    (process.runtime.tunnelInterfaceCreated = true ∧
      greDevice (past ++ (updateTunnelDev answers process).effects) =
        greDevice (past ++ process.effects)) := by
  rcases updateTunnelDev_cases answers process with ⟨hup, hnone, hupdate⟩ |
    ⟨-, hsome, hupdate⟩ | ⟨-, hupdate⟩
  · rw [hupdate] at hcreated ⊢
    exact Or.inl ⟨hnone, carries_createTunnelDev hbonding (hanswer hnone hup) hcreated⟩
  · rw [hupdate] at hcreated ⊢
    have hkept : (destroyTunnelDev answers process).1 = false :=
      (Bool.not_eq_true' _).mp hcreated
    refine Or.inr ⟨hsome, ?_⟩
    show greDevice (past ++ (destroyTunnelDev answers process).2.effects) = _
    rw [greDevice_destroyTunnelDev hbonding hkept]
  · rw [hupdate] at hcreated ⊢
    exact Or.inr ⟨hcreated, rfl⟩

/-- What an execution does to the kernel device, if it leaves one flagged. -/
theorem greDevice_executeTimers (hrunning : process.exited = false)
    (hbonding : process.runtime.bonding = false)
    (hanswer : process.runtime.tunnelInterfaceCreated = false →
      staysUp answers process.runtime = true → answers.netlink ≠ .noAnswer false)
    (hstill : (executeTimers answers process).exited = false)
    (hcreated : (executeTimers answers process).runtime.tunnelInterfaceCreated = true) :
    (process.runtime.tunnelInterfaceCreated = false ∧
      ∃ device, greDevice (past ++ (executeTimers answers process).effects) = some device ∧
        device.Carries (executeTimers answers process).runtime.session) ∨
    (process.runtime.tunnelInterfaceCreated = true ∧
      greDevice (past ++ (executeTimers answers process).effects) =
        greDevice (past ++ process.effects)) := by
  have hbefore := Timer.agree_before answers process [.settings, .created, .effects .device]
    .updateTunnelDev (by decide)
  have hsame : (Timer.before answers .updateTunnelDev process).runtime.tunnelInterfaceCreated =
      process.runtime.tunnelInterfaceCreated := hbefore .created (by simp)
  have hoff : (Timer.before answers .updateTunnelDev process).runtime.bonding = false :=
    (congrArg Settings.bonding (hbefore .settings (by simp))).trans hbonding
  have hsession : (executeTimers answers process).runtime.session =
      (Timer.before answers .updateTunnelDev process).runtime.session :=
    Timer.agree_from answers process [.session] .updateTunnelDev (by decide) .session (by simp)
  have hend := agree_to_end answers [.effects .device] .updateTunnelDev (by decide) (by decide)
    (by decide) hstill
  rw [Timer.after_early answers process _ hrunning (by decide)] at hend
  rw [greDevice_congr (hend (.effects .device) (by simp)), hsession, ← hsame,
    ← greDevice_congr (hbefore (.effects .device) (by simp))]
  rw [created_executeTimers hrunning hstill] at hcreated
  rw [← hsame, ← up_before_updateTunnelDev hrunning] at hanswer
  exact greDevice_updateTunnelDev hoff hanswer hcreated

/-! ### The data socket -/

theorem created_stays (hrunning : process.exited = false)
    (hbonding : process.runtime.bonding = true)
    (hstill : (executeTimers answers process).exited = false)
    (hcreated : process.runtime.tunnelInterfaceCreated = true) :
    (executeTimers answers process).runtime.tunnelInterfaceCreated = true := by
  have hbefore := Timer.agree_before answers process [.settings, .created] .updateTunnelDev
    (by decide)
  have hsame : (Timer.before answers .updateTunnelDev process).runtime.tunnelInterfaceCreated =
      process.runtime.tunnelInterfaceCreated := hbefore .created (by simp)
  have hon : (Timer.before answers .updateTunnelDev process).runtime.bonding = true :=
    (congrArg Settings.bonding (hbefore .settings (by simp))).trans hbonding
  rw [created_executeTimers hrunning hstill]
  rcases updateTunnelDev_cases answers
      (Timer.before answers .updateTunnelDev process) with ⟨-, hnone, -⟩ | ⟨-, -, hupdate⟩ |
    ⟨-, hupdate⟩
  · exact absurd (hnone.symm.trans (hsame.trans hcreated)) Bool.false_ne_true
  · rw [hupdate]
    unfold destroyTunnelDev
    rw [if_pos hon]
    rfl
  · rw [hupdate]
    exact hsame.trans hcreated

/-- The data socket is open unless the process has exited. -/
theorem openGreSocket_of_running (hstill : (openGreSocket answers process).exited = false) :
    openGreSocket answers process =
      ({ process with sockfdGre := answers.greSocket.fd } : Process).emit
        (.greSocketOpened answers.greSocket.fd
          (if answers.greSocket.soAttachFilter then some process.runtime.haap.bondingKey
          else none)) := by
  unfold openGreSocket at hstill ⊢
  dsimp only at hstill ⊢
  by_cases hfd : answers.greSocket.fd < 0
  · rw [if_pos hfd] at hstill
    exact absurd hstill Bool.false_ne_true.symm
  · rw [if_neg hfd] at hstill ⊢
    by_cases htimeout : (!answers.greSocket.soRcvTimeo) = true
    · rw [if_pos htimeout] at hstill
      exact absurd hstill Bool.false_ne_true.symm
    · rw [if_neg htimeout]

theorem socket_startThreads_open (hopen : process.sockfdGre ≠ 0) :
    ofKind .greSocket (startThreads answers process).effects =
        ofKind .greSocket process.effects ∧
      (startThreads answers process).sockfdGre = process.sockfdGre := by
  have hwithin : Within [.threads, .effects .thread] process (startThreads answers process) := by
    unfold startThreads
    dsimp only
    rw [if_neg hopen]
    split
    · split
      · exact Within.refl _ _
      · exact within_startBoth answers process
    · exact Within.refl _ _
  exact ⟨hwithin (.effects .greSocket) (by decide), hwithin .sockfdGre (by decide)⟩

theorem greFilter_startThreads_closed (hbonding : process.runtime.bonding = true)
    (hcreated : process.runtime.tunnelInterfaceCreated = true) (hclosed : process.sockfdGre = 0)
    (hattach : answers.greSocket.soAttachFilter = true)
    (hstill : (startThreads answers process).exited = false) :
    greFilter (past ++ (startThreads answers process).effects) =
      some process.runtime.session.bondingKey := by
  have hstart : startThreads answers process =
      if (openGreSocket answers process).exited then openGreSocket answers process
      else startTun2gre answers (startGre2tun answers (openGreSocket answers process)) := by
    unfold startThreads
    rw [hbonding, hcreated, if_pos hclosed]
    rfl
  have hrunning : (openGreSocket answers process).exited = false := by
    cases hexited : (openGreSocket answers process).exited with
    | false => rfl
    | true =>
        rw [hstart, hexited, if_pos rfl, hexited] at hstill
        exact hstill
  rw [hrunning, if_neg Bool.false_ne_true] at hstart
  have hthreads := within_startBoth answers (openGreSocket answers process)
    (.effects .greSocket) (by decide)
  rw [hstart, greFilter_congr hthreads, openGreSocket_of_running hrunning, Process.emit,
    ← List.append_assoc, greFilter_snoc, if_pos hattach]
  rfl

theorem stopThreads_of_created (hcreated : process.runtime.tunnelInterfaceCreated = true) :
    stopThreads process = process := by
  unfold stopThreads
  rw [hcreated, Bool.not_true, Bool.and_false, if_neg Bool.false_ne_true]

theorem startThreads_of_not_created (hnone : process.runtime.tunnelInterfaceCreated = false) :
    startThreads answers process = process := by
  unfold startThreads
  rw [hnone, Bool.and_false, if_neg Bool.false_ne_true]

theorem after_stopThreads
    (hcreated : (Timer.before answers .stopThreads process).runtime.tunnelInterfaceCreated =
      true) :
    Timer.after answers .stopThreads process = Timer.before answers .stopThreads process := by
  cases hexited : (Timer.before answers .stopThreads process).exited with
  | true => exact leaving_of_done hexited
  | false => exact (leaving_of_not_done hexited).trans (stopThreads_of_created hcreated)

/-- The block that starts the threads decides about the socket, if a device is flagged. -/
theorem greFilter_to_end (hrunning : process.exited = false)
    (hstill : (executeTimers answers process).exited = false)
    (hcreated : (executeTimers answers process).runtime.tunnelInterfaceCreated = true) :
    greFilter (past ++ (executeTimers answers process).effects) =
      greFilter (past ++
        (startThreads answers (Timer.before answers .startThreads process)).effects) := by
  have hstart := Timer.agree_between answers process [.effects .greSocket] .startThreads
    .stopThreads (by decide) (by decide)
  have hstop : (Timer.before answers .stopThreads process).runtime.tunnelInterfaceCreated = true :=
    (Timer.agree_from answers process [.created] .stopThreads (by decide) .created
      (by simp)).symm.trans hcreated
  have hend := agree_to_end answers [.effects .greSocket] .stopThreads (by decide) (by decide)
    (by decide) hstill
  rw [after_stopThreads hstop] at hend
  rw [Timer.after_early answers process _ hrunning (by decide)] at hstart
  rw [greFilter_congr (hend (.effects .greSocket) (by simp)),
    greFilter_congr (hstart (.effects .greSocket) (by simp))]
  rfl

/-- What an execution does to the data socket, if a device is flagged behind it. -/
theorem greFilter_executeTimers (hrunning : process.exited = false)
    (hbonding : process.runtime.bonding = true)
    (hattach : process.sockfdGre = 0 → answers.greSocket.soAttachFilter = true)
    (hstill : (executeTimers answers process).exited = false)
    (hcreated : (executeTimers answers process).runtime.tunnelInterfaceCreated = true) :
    (process.sockfdGre = 0 ∧ greFilter (past ++ (executeTimers answers process).effects) =
      some (executeTimers answers process).runtime.session.bondingKey) ∨
    (process.sockfdGre ≠ 0 ∧ greFilter (past ++ (executeTimers answers process).effects) =
      greFilter (past ++ process.effects)) := by
  have hbefore := Timer.agree_before answers process
    [.settings, .sockfdGre, .effects .greSocket] .startThreads (by decide)
  have hfrom := Timer.agree_from answers process [.session, .created] .startThreads (by decide)
  have hsession : (executeTimers answers process).runtime.session =
      (Timer.before answers .startThreads process).runtime.session := hfrom .session (by simp)
  have hsocket : (Timer.before answers .startThreads process).sockfdGre = process.sockfdGre :=
    hbefore .sockfdGre (by simp)
  rw [greFilter_to_end hrunning hstill hcreated]
  by_cases hclosed : process.sockfdGre = 0
  · refine Or.inl ⟨hclosed, ?_⟩
    have hexited := agree_to_end answers [.exited] .startThreads (by decide) (by decide)
      (by decide) hstill .exited (by simp)
    rw [Timer.after_early answers process _ hrunning (by decide)] at hexited
    rw [hsession]
    exact greFilter_startThreads_closed
      ((congrArg Settings.bonding (hbefore .settings (by simp))).trans hbonding)
      ((hfrom .created (by simp)).symm.trans hcreated) (hsocket.trans hclosed) (hattach hclosed)
      (hexited.symm.trans hstill)
  · refine Or.inr ⟨hclosed, ?_⟩
    rw [greFilter_congr (socket_startThreads_open (hsocket.symm ▸ hclosed)).1]
    exact greFilter_congr (hbefore (.effects .greSocket) (by simp))

/-- Without a device behind it, or with a socket in front of it, an execution opens none. -/
theorem sockfdGre_executeTimers (hrunning : process.exited = false)
    (hstill : (executeTimers answers process).exited = false)
    (hnone : (executeTimers answers process).runtime.tunnelInterfaceCreated = false ∨
      process.sockfdGre ≠ 0) :
    (executeTimers answers process).sockfdGre = process.sockfdGre := by
  have hbefore : (Timer.before answers .startThreads process).sockfdGre = process.sockfdGre :=
    Timer.agree_before answers process [.sockfdGre] .startThreads (by decide) .sockfdGre (by simp)
  have hend := agree_to_end answers [.sockfdGre] .startThreads (by decide) (by decide)
    (by decide) hstill .sockfdGre (by simp)
  rw [Timer.after_early answers process _ hrunning (by decide)] at hend
  refine hend.trans ?_
  rcases hnone with hnone | hopen
  · have hoff := (Timer.agree_from answers process [.created] .startThreads (by decide) .created
      (by simp)).symm.trans hnone
    show (startThreads answers (Timer.before answers .startThreads process)).sockfdGre = _
    rw [startThreads_of_not_created hoff, hbefore]
  · exact (socket_startThreads_open (hbefore.symm ▸ hopen)).2.trans hbefore

/-! ### Runs -/

namespace Main

variable {config : Config} {buffer : Memory} {state next : State} {input : Input}
  {output : Output} {history : History Input Output}

def sessionAfter (input : Input) (output : Output) : Session :=
  if staysUp input.answers output.received.process.runtime then
    output.received.process.runtime.session
  else freshSession output.received.process.runtime

/-- Nothing is open that keeps a copy of an earlier session. -/
def unconfigured (process : Process) : Bool :=
  if process.runtime.bonding then decide (process.sockfdGre = 0)
  else !process.runtime.tunnelInterfaceCreated

/-- With bonding it is the data socket that keeps the key. -/
theorem unconfigured_of_bonding (hbonding : process.runtime.bonding = true) :
    unconfigured process = decide (process.sockfdGre = 0) := by
  rw [unconfigured, if_pos hbonding]

theorem unconfigured_of_lteOnly (hbonding : process.runtime.bonding = false) :
    unconfigured process = !process.runtime.tunnelInterfaceCreated := by
  rw [unconfigured, hbonding, if_neg Bool.false_ne_true]

def configured (history : History Input Output) : Option Session :=
  history.foldl (fun session step =>
    if unconfigured step.2.received.process then some (sessionAfter step.1 step.2) else session) none

/-- A tunnel that stays up uses the session that the data plane has been configured with, and
configuring it works. -/
@[mk_iff]
structure SameSession (history : History Input Output) (state : State) (input : Input) : Prop where
  socket : (receive state input).process.runtime.bonding = true →
    (receive state input).process.sockfdGre ≠ 0 →
    staysUp input.answers (receive state input).process.runtime = true →
    ∀ session ∈ configured history,
      session.bondingKey = (receive state input).process.runtime.session.bondingKey
  device : (receive state input).process.runtime.bonding = false →
    (receive state input).process.runtime.tunnelInterfaceCreated = true →
    staysUp input.answers (receive state input).process.runtime = true →
    ∀ session ∈ configured history,
      session.bondingKey = (receive state input).process.runtime.session.bondingKey ∧
        session.ip = (receive state input).process.runtime.session.ip
  filter : (receive state input).process.runtime.bonding = true →
    (receive state input).process.sockfdGre = 0 → input.answers.greSocket.soAttachFilter = true
  answer : (receive state input).process.runtime.bonding = false →
    (receive state input).process.runtime.tunnelInterfaceCreated = false →
    staysUp input.answers (receive state input).process.runtime = true →
      input.answers.netlink ≠ .noAnswer false
  contained : ReceiveContained state input

instance (history : History Input Output) (state : State) (input : Input) :
    Decidable (SameSession history state input) :=
  @decidable_of_iff' _ _ (sameSession_iff history state input)
    (@instDecidableAnd _ _ inferInstance (@instDecidableAnd _ _ inferInstance inferInstance))

/-- The data plane has the key of the session, and without bonding the address of the HAAP. -/
structure Follows (history : History Input Output) (state : State) : Prop where
  filter : state.process.runtime.bonding = true →
    greFilter (effectsOf history) = some state.process.runtime.haap.bondingKey
  device : state.process.runtime.bonding = false →
    ∃ device, greDevice (effectsOf history) = some device ∧
      device.Carries state.process.runtime.session

structure Configured (history : History Input Output) (state : State) : Prop where
  opened : state.process.runtime.bonding = true → state.process.sockfdGre ≠ 0 →
    state.process.runtime.tunnelInterfaceCreated = true
  socket : state.process.runtime.bonding = true →
    state.process.runtime.tunnelInterfaceCreated = true →
    ∃ session, configured history = some session ∧
      greFilter (effectsOf history) = some session.bondingKey
  device : state.process.runtime.bonding = false →
    state.process.runtime.tunnelInterfaceCreated = true →
    ∃ session device, configured history = some session ∧
      greDevice (effectsOf history) = some device ∧ device.Carries session

theorem configured_snoc (history : History Input Output) (input : Input) (output : Output) :
    configured (history ++ [(input, output)]) =
      if unconfigured output.received.process then some (sessionAfter input output)
      else configured history := by
  simp [configured]

theorem sessionAfter_of_step (hstep : Step state input output next) :
    sessionAfter input output = next.process.runtime.session := by
  rw [session_of_step hstep, sessionAfter, (output_of_step hstep).2.1]

theorem agree_receive_device (hcontained : ReceiveContained state input) :
    Agree Aspect.get [.settings, .created, .sockfdGre] state.process
      (receive state input).process := by
  refine agree_receive hcontained fun msgtype tuntype _ htuntype => ?_
  rcases htuntype with rfl | rfl <;> cases msgtype <;> decide

theorem Configured.receive (hconfigured : Configured history state)
    (hcontained : ReceiveContained state input) :
    Configured history (receive state input) := by
  have hagree := agree_receive_device hcontained
  have hbonding : (Main.receive state input).process.runtime.bonding =
      state.process.runtime.bonding := congrArg Settings.bonding (hagree .settings (by simp))
  have hcreated : (Main.receive state input).process.runtime.tunnelInterfaceCreated =
      state.process.runtime.tunnelInterfaceCreated := hagree .created (by simp)
  have hsocket : (Main.receive state input).process.sockfdGre = state.process.sockfdGre :=
    hagree .sockfdGre (by simp)
  refine ⟨?_, ?_, ?_⟩
  · rw [hbonding, hsocket, hcreated]
    exact hconfigured.opened
  · rw [hbonding, hcreated]
    exact hconfigured.socket
  · rw [hbonding, hcreated]
    exact hconfigured.device

/-- What a message leaves behind is the same session, or the data plane is configured anew. -/
theorem configured_of_step (history : History Input Output)
    (hstep : Step state input output next) :
    configured (history ++ [(input, output)]) =
      if unconfigured (Main.receive state input).process then some next.process.runtime.session
      else configured history := by
  rw [configured_snoc, sessionAfter_of_step hstep, (output_of_step hstep).2.1]

theorem effectsOf_of_step (hstep : Step state input output next) :
    effectsOf (history ++ [(input, output)]) =
      effectsOf history ++ (executeTimers input.answers
        (Main.receive state input).process.quiet).effects := by
  rw [effectsOf_snoc, (output_of_step hstep).2.2, next_of_step hstep]

theorem bonding_of_step (hcontained : ReceiveContained state input)
    (hstep : Step state input output next) :
    next.process.runtime.bonding = (Main.receive state input).process.runtime.bonding := by
  have hbefore := congrArg Settings.bonding (settings_receive hcontained)
  have hafter := congrArg Settings.bonding (settings_of_step hcontained hstep)
  exact hafter.trans hbefore.symm

theorem socket_of_step (hreceived : Configured history (Main.receive state input))
    (hguard : SameSession history state input) (hstep : Step state input output next)
    (hstill : next.process.exited = false)
    (hbonding : (Main.receive state input).process.runtime.bonding = true)
    (hcreated : next.process.runtime.tunnelInterfaceCreated = true) :
    ∃ session, configured (history ++ [(input, output)]) = some session ∧
      greFilter (effectsOf (history ++ [(input, output)])) = some session.bondingKey := by
  rw [configured_of_step history hstep, effectsOf_of_step hstep, unconfigured_of_bonding hbonding]
  rw [next_of_step hstep] at hstill hcreated ⊢
  rcases greFilter_executeTimers (running_of_step hstep) hbonding (hguard.filter hbonding) hstill
    hcreated with ⟨hclosed, hfilter⟩ | ⟨hopen, hfilter⟩
  · change (Main.receive state input).process.sockfdGre = 0 at hclosed
    rw [decide_eq_true hclosed, if_pos rfl]
    exact ⟨_, rfl, hfilter⟩
  · change (Main.receive state input).process.sockfdGre ≠ 0 at hopen
    rw [decide_eq_false hopen, if_neg Bool.false_ne_true]
    obtain ⟨session, hconfigured, hkey⟩ :=
      hreceived.socket hbonding (hreceived.opened hbonding hopen)
    refine ⟨session, hconfigured, ?_⟩
    rw [hfilter, Process.quiet_effects, List.append_nil, hkey]

theorem device_of_step (hreceived : Configured history (Main.receive state input))
    (hguard : SameSession history state input) (hstep : Step state input output next)
    (hstill : next.process.exited = false)
    (hbonding : (Main.receive state input).process.runtime.bonding = false)
    (hcreated : next.process.runtime.tunnelInterfaceCreated = true) :
    ∃ session device, configured (history ++ [(input, output)]) = some session ∧
      greDevice (effectsOf (history ++ [(input, output)])) = some device ∧
        device.Carries session := by
  rw [configured_of_step history hstep, effectsOf_of_step hstep, unconfigured_of_lteOnly hbonding]
  rw [next_of_step hstep] at hstill hcreated ⊢
  rcases greDevice_executeTimers (running_of_step hstep) hbonding (hguard.answer hbonding) hstill
    hcreated with ⟨hnone, device, hdevice, hcarries⟩ | ⟨hsome, hdevice⟩
  · rw [Process.quiet_runtime] at hnone
    rw [hnone, Bool.not_false, if_pos rfl]
    exact ⟨_, device, rfl, hdevice, hcarries⟩
  · rw [Process.quiet_runtime] at hsome
    rw [hsome, Bool.not_true, if_neg Bool.false_ne_true]
    obtain ⟨session, device, hconfigured, hold, hcarries⟩ := hreceived.device hbonding hsome
    refine ⟨session, device, hconfigured, ?_, hcarries⟩
    rw [hdevice, Process.quiet_effects, List.append_nil, hold]

/-- What one iteration preserves. -/
theorem Configured.step (hconfigured : Configured history state)
    (hguard : SameSession history state input) (hstep : Step state input output next)
    (hstill : next.process.exited = false) :
    Configured (history ++ [(input, output)]) next := by
  have hreceived := hconfigured.receive hguard.contained
  have hbonding := bonding_of_step hguard.contained hstep
  refine ⟨?_, ?_, ?_⟩
  · intro hon hopen
    rw [hbonding] at hon
    rw [next_of_step hstep] at hstill hopen ⊢
    by_cases hclosed : (Main.receive state input).process.sockfdGre = 0
    · cases hcreated : (executeTimers input.answers
          (Main.receive state input).process.quiet).runtime.tunnelInterfaceCreated with
      | true => rfl
      | false =>
          have hsame := sockfdGre_executeTimers (running_of_step hstep) hstill (.inl hcreated)
          exact absurd (hsame.trans hclosed) hopen
    · exact created_stays (running_of_step hstep) hon hstill (hreceived.opened hon hclosed)
  · intro hon hcreated
    exact socket_of_step hreceived hguard hstep hstill (hbonding ▸ hon) hcreated
  · intro hoff hcreated
    exact device_of_step hreceived hguard hstep hstill (hbonding ▸ hoff) hcreated

/-- The data plane is what it was last configured to be, along every such run. -/
theorem configured_of_run
    (hrun : RunWhere Step SameSession (State.initial config buffer) history state) :
    state.process.exited = false → Configured history state := by
  refine hrun.invariant (fun history state => state.process.exited = false →
    Configured history state) ?_ ?_
  · intro _
    refine ⟨fun _ hopen => absurd rfl hopen, fun _ hcreated => ?_, fun _ hcreated => ?_⟩
    · exact absurd hcreated Bool.false_ne_true
    · exact absurd hcreated Bool.false_ne_true
  · intro history state input output next hconfigured hguard hstep hstill
    exact (hconfigured hstep.1).step hguard hstep hstill

/-- **The data plane follows.** In every run in which a tunnel that stays up uses the session with
which the data socket was opened or the kernel device created, and in which opening and creating them
works, the data plane has the key, and without bonding the address, of the session wherever a tunnel
is up and a device flagged. -/
theorem follows_of_sameSession
    (hrun : RunWhere Step SameSession (State.initial config buffer) history state)
    (hguard : SameSession history state input) (hstep : Step state input output next)
    (hstill : next.process.exited = false) (hup : next.process.runtime.up = true)
    (hcreated : next.process.runtime.tunnelInterfaceCreated = true) :
    Follows (history ++ [(input, output)]) next := by
  have hconfigured := (configured_of_run hrun hstep.1)
  have hnext := hconfigured.step hguard hstep hstill
  have hbonding := bonding_of_step hguard.contained hstep
  have hstays : staysUp input.answers (Main.receive state input).process.runtime = true := by
    rw [Runtime.up, established_of_step hstep (.inl rfl), established_of_step hstep (.inr rfl),
      (output_of_step hstep).2.1] at hup
    exact hup
  have hsession : next.process.runtime.session =
      (Main.receive state input).process.runtime.session := by
    rw [session_of_step hstep, hstays, if_pos rfl]
  have hlast := configured_of_step history hstep
  refine ⟨?_, ?_⟩
  · intro hon
    obtain ⟨session, hsome, hfilter⟩ := hnext.socket hon hcreated
    rw [hfilter]
    have hkey : session.bondingKey = next.process.runtime.session.bondingKey := by
      rw [hlast, unconfigured_of_bonding (hbonding ▸ hon)] at hsome
      by_cases hclosed : (Main.receive state input).process.sockfdGre = 0
      · rw [decide_eq_true hclosed, if_pos rfl] at hsome
        rw [Option.some.inj hsome]
      · rw [decide_eq_false hclosed, if_neg Bool.false_ne_true] at hsome
        rw [hsession]
        exact hguard.socket (hbonding ▸ hon) hclosed hstays session hsome
    exact congrArg some hkey
  · intro hoff
    obtain ⟨session, device, hsome, hdevice, hcarries⟩ := hnext.device hoff hcreated
    refine ⟨device, hdevice, ?_⟩
    rw [hlast, unconfigured_of_lteOnly (hbonding ▸ hoff)] at hsome
    cases hflag : (Main.receive state input).process.runtime.tunnelInterfaceCreated with
    | false =>
        rw [hflag, Bool.not_false, if_pos rfl] at hsome
        rw [Option.some.inj hsome]
        exact hcarries
    | true =>
        rw [hflag, Bool.not_true, if_neg Bool.false_ne_true] at hsome
        obtain ⟨hkey, hip⟩ := hguard.device (hbonding ▸ hoff) hflag hstays session hsome
        rw [hsession]
        refine ⟨?_, ?_, ?_⟩
        · rw [← hkey, hcarries.inputKey]
        · rw [← hkey, hcarries.outputKey]
        · rw [← hip, hcarries.remoteIp]

def keyedAccept (key : Byte) : List Byte := bareAccept 0x20 ++ [20, 0, 4, 0, 0, 0, key]

def renewedAccept : List Byte := [0x20, 0, 1, 1, 0, 0, 0, 5, 0x20, 20, 0, 4, 0, 0, 0, 5]

/-- The tunnel is accepted with the key 5, and a hello goes out. -/
def keyed : List Input := [datagram (keyedAccept 5) ⟨20, 0⟩, silence ⟨40, 0⟩]

def keyedState (bonding : Bool) : State := played (plainStart bonding) keyed

/-- In both modes the data plane has the key behind another Accept of the same session. -/
theorem keyed_follows :
    (iteration (keyedState true) (datagram renewedAccept ⟨41, 0⟩)).process.runtime.haap.bondingKey =
        5 ∧
      Follows (recorded (plainStart true) keyed ++ [(datagram renewedAccept ⟨41, 0⟩,
          outputOf (keyedState true) (datagram renewedAccept ⟨41, 0⟩))])
        (iteration (keyedState true) (datagram renewedAccept ⟨41, 0⟩)) ∧
      Follows (recorded (plainStart false) keyed ++ [(datagram renewedAccept ⟨41, 0⟩,
          outputOf (keyedState false) (datagram renewedAccept ⟨41, 0⟩))])
        (iteration (keyedState false) (datagram renewedAccept ⟨41, 0⟩)) := by
  have hrun : ∀ bonding, RunWhere Step SameSession (plainStart bonding)
      (recorded (plainStart bonding) keyed) (keyedState bonding) := fun bonding =>
    run_played (by cases bonding <;> decide +kernel) (by cases bonding <;> decide +kernel)
  refine ⟨by decide +kernel, ?_, ?_⟩
  · exact follows_of_sameSession (hrun true) (by decide +kernel)
      (step_outputOf (by decide +kernel) _) (by decide +kernel) (by decide +kernel)
      (by decide +kernel)
  · exact follows_of_sameSession (hrun false) (by decide +kernel)
      (step_outputOf (by decide +kernel) _) (by decide +kernel) (by decide +kernel)
      (by decide +kernel)

/-- With bonding, the tunnel is accepted with one key, torn down and accepted with another one. -/
def rekeyed : State :=
  iteration (iteration (iteration (plainStart true) (datagram (keyedAccept 5) ⟨20, 0⟩))
    (datagram [0x20, 0, 1, 1, 0, 0, 0, 5, 0x50] ⟨21, 0⟩)) (datagram (keyedAccept 6) ⟨22, 0⟩)

/-- The socket still filters for the first key. -/
theorem rekeyed_filtersOld :
    ∃ history, Run Step (plainStart true) history rekeyed ∧
      rekeyed.process.exited = false ∧ rekeyed.process.runtime.up = true ∧
      rekeyed.process.runtime.tunnelInterfaceCreated = true ∧
      rekeyed.process.runtime.haap.bondingKey = 6 ∧ greFilter (effectsOf history) = some 5 := by
  refine ⟨_, .snoc (.snoc (.snoc .nil trivial (step_outputOf rfl _)) trivial
    (step_outputOf (by decide +kernel) _)) trivial (step_outputOf (by decide +kernel) _),
    by decide +kernel, by decide +kernel, by decide +kernel, by decide +kernel, by decide +kernel⟩

end Main

end OpenHybrid

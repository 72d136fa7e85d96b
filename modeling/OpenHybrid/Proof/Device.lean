import OpenHybrid.Proof.Events
import OpenHybrid.Proof.Reconnect
import OpenHybrid.Proof.Shutdown

/-!
# The tunnel device

Whether there is a tunnel device, read off what has been done to it, and when the flag
`tunnel_interface_created` says so. Taking the tun device down leaves the flag set.
-/

namespace OpenHybrid

open ByteMemory Frame Transition Alternation

variable {answers : Answers} {past : List Effect} {process other : Process}

/-- Whether there is a device behind an effect. Closing a tun device ends it. -/
def Effect.leavesDevice (before : Bool) : Effect → Bool
  | .greDeviceCreated _ | .tunDeviceCreated _ => true
  | .greDeviceDestroyed | .tunDeviceClosed _ => false
  | _ => before

def deviceExists (effects : List Effect) : Bool := effects.foldl Effect.leavesDevice false

theorem deviceExists_snoc (effects : List Effect) (effect : Effect) :
    deviceExists (effects ++ [effect]) = effect.leavesDevice (deviceExists effects) := by
  simp [deviceExists]

theorem deviceExists_event (effects : List Effect) (name : EventName) :
    deviceExists (effects ++ [.event name]) = deviceExists effects := by
  rw [deviceExists_snoc]
  rfl

theorem leavesDevice_of_kind (before : Bool) (effect : Effect) (hkind : effect.kind ≠ .device) :
    effect.leavesDevice before = before := by
  cases effect with
  | greDeviceCreated device => exact absurd rfl hkind
  | greDeviceDestroyed => exact absurd rfl hkind
  | tunDeviceCreated device => exact absurd rfl hkind
  | tunDeviceClosed fd => exact absurd rfl hkind
  | _ => rfl

/-- The flag says whether there is a device, and the events have told so. -/
structure Flagged (past : List Effect) (process : Process) : Prop where
  device : deviceExists (past ++ process.effects) = process.runtime.tunnelInterfaceCreated
  events : Announced .tunnelup .tunneldown process.runtime.tunnelInterfaceCreated past process

theorem deviceExists_congr (heffects : ofKind .device other.effects = ofKind .device process.effects) :
    deviceExists (past ++ other.effects) = deviceExists (past ++ process.effects) := by
  unfold deviceExists
  rw [List.foldl_append, List.foldl_append, ← foldl_ofKind leavesDevice_of_kind other.effects,
    heffects, foldl_ofKind leavesDevice_of_kind]

theorem Flagged.congr (hflagged : Flagged past process)
    (hagree : Agree Aspect.get [.settings, .created, .effects .device] process other) :
    Flagged past other := by
  have heffects : ofKind .device other.effects = ofKind .device process.effects :=
    hagree (.effects .device) (by simp)
  have hcreated : other.runtime.tunnelInterfaceCreated = process.runtime.tunnelInterfaceCreated :=
    hagree .created (by simp)
  refine ⟨?_, ?_⟩
  · rw [deviceExists_congr heffects, hcreated]
    exact hflagged.device
  · rw [hcreated]
    exact hflagged.events.congr rfl rfl (hagree .settings (by simp)) heffects

/-! ### Creating and destroying -/

/-- An effect and then the event about it, and the flag set accordingly. -/
theorem deviceExists_announce (process : Process) (effect : Effect) (name : EventName) :
    deviceExists (past ++ (triggerEvent name (process.emit effect)).effects) =
      effect.leavesDevice (deviceExists (past ++ process.effects)) := by
  rw [effects_triggerEvent, ← List.append_assoc]
  have hemit : deviceExists (past ++ (process.emit effect).effects) =
      effect.leavesDevice (deviceExists (past ++ process.effects)) := by
    rw [Process.emit, ← List.append_assoc, deviceExists_snoc]
  split
  · rw [deviceExists_event, hemit]
  · rw [List.append_nil, hemit]

theorem Announced.emit {up down : EventName} {isUp : Bool}
    (hannounced : Announced up down isUp past process) (effect : Effect)
    (hother : eventsOf up down [effect] = []) :
    Announced up down isUp past (process.emit effect) := by
  unfold Announced at hannounced ⊢
  rw [Process.emit, ← List.append_assoc, eventsOf_append, hother, List.append_nil]
  exact hannounced

/-- A device that is created and announced is flagged. -/
theorem Flagged.create (hflagged : Flagged past process) {effect : Effect}
    (hdown : process.runtime.tunnelInterfaceCreated = false)
    (heffect : ∀ before, effect.leavesDevice before = true)
    (hother : eventsOf .tunnelup .tunneldown [effect] = []) :
    Flagged past { triggerEvent .tunnelup (process.emit effect) with
      runtime.tunnelInterfaceCreated := true } := by
  refine ⟨?_, ?_⟩
  · exact (deviceExists_announce process effect .tunnelup).trans (heffect _)
  · have hevents := hflagged.events
    rw [hdown] at hevents
    exact (hevents.emit effect hother).goUp

theorem Flagged.destroy (hflagged : Flagged past process) {effect : Effect}
    (hup : process.runtime.tunnelInterfaceCreated = true)
    (heffect : ∀ before, effect.leavesDevice before = false)
    (hother : eventsOf .tunnelup .tunneldown [effect] = []) :
    Flagged past { triggerEvent .tunneldown (process.emit effect) with
      runtime.tunnelInterfaceCreated := false } := by
  refine ⟨?_, ?_⟩
  · exact (deviceExists_announce process effect .tunneldown).trans (heffect _)
  · have hevents := hflagged.events
    rw [hup] at hevents
    exact (hevents.emit effect hother).goDown

theorem Flagged.keep (hflagged : Flagged past process) {created : Bool}
    (hcreated : process.runtime.tunnelInterfaceCreated = created) :
    Flagged past { process with runtime.tunnelInterfaceCreated := created } := by
  subst hcreated
  exact hflagged

theorem Flagged.close (hflagged : Flagged past process) (fd : Int)
    (hdown : process.runtime.tunnelInterfaceCreated = false) :
    Flagged past { process.emit (.tunDeviceClosed fd) with
      runtime.tunnelInterfaceCreated := false } := by
  refine ⟨?_, ?_⟩
  · show deviceExists (past ++ (process.effects ++ [.tunDeviceClosed fd])) = false
    rw [← List.append_assoc, deviceExists_snoc]
    rfl
  · have hevents := hflagged.events
    rw [hdown] at hevents
    exact hevents.emit _ rfl

theorem flagged_createTunnelDev (hflagged : Flagged past process)
    (hdown : process.runtime.tunnelInterfaceCreated = false)
    (hanswer : process.runtime.bonding = false → answers.netlink ≠ .noAnswer false) :
    Flagged past { (createTunnelDev answers process).2 with
      runtime.tunnelInterfaceCreated := (createTunnelDev answers process).1 } := by
  unfold createTunnelDev
  split
  · have hopened : Flagged past { process with sockfdTun := answers.tun.fd } :=
      ⟨hflagged.device, hflagged.events⟩
    unfold createTunTunnelDev
    dsimp only
    split
    · exact hopened.keep hdown
    · split
      · exact hopened.close _ hdown
      · exact hopened.create hdown (fun _ => rfl) rfl
  · rename_i hbonding
    unfold createGreTunnelDev
    cases hnetlink : answers.netlink with
    | noSocket => exact hflagged.keep hdown
    | refused => exact hflagged.keep hdown
    | acknowledged => exact hflagged.create hdown (fun _ => rfl) rfl
    | noAnswer carriedOut =>
        cases carriedOut with
        | true => exact hflagged.create hdown (fun _ => rfl) rfl
        | false => exact absurd hnetlink (hanswer (Bool.eq_false_of_not_eq_true hbonding))

theorem flagged_destroyTunnelDev (hflagged : Flagged past process)
    (hup : process.runtime.tunnelInterfaceCreated = true)
    (hbonding : process.runtime.bonding = false) (hsocket : answers.netlink ≠ .noSocket)
    (hanswer : answers.netlink ≠ .noAnswer false) :
    Flagged past { (destroyTunnelDev answers process).2 with
      runtime.tunnelInterfaceCreated := !(destroyTunnelDev answers process).1 } := by
  unfold destroyTunnelDev destroyGreTunnelDev
  rw [hbonding, if_neg Bool.false_ne_true]
  cases hnetlink : answers.netlink with
  | noSocket => exact absurd hnetlink hsocket
  | refused => exact hflagged.keep hup
  | acknowledged => exact hflagged.destroy hup (fun _ => rfl) rfl
  | noAnswer carriedOut =>
      cases carriedOut with
      | true => exact hflagged.destroy hup (fun _ => rfl) rfl
      | false => exact absurd hnetlink hanswer

/-- What the code learns about the device is so: no tun device is taken down, and the requests about
the kernel device are carried out if they do not fail. -/
@[mk_iff]
structure Candid (answers : Answers) (up : Bool) (runtime : Runtime) : Prop where
  create : up = true → runtime.tunnelInterfaceCreated = false → runtime.bonding = false →
    answers.netlink ≠ .noAnswer false
  destroy : up = false → runtime.tunnelInterfaceCreated = true →
    runtime.bonding = false ∧ answers.netlink ≠ .noSocket ∧ answers.netlink ≠ .noAnswer false

instance (up : Bool) (runtime : Runtime) : Decidable (Candid answers up runtime) :=
  decidable_of_iff' _ (candid_iff answers up runtime)

theorem Candid.congr {up : Bool} {runtime other : Runtime} (hcandid : Candid answers up runtime)
    (hcreated : other.tunnelInterfaceCreated = runtime.tunnelInterfaceCreated)
    (hbonding : other.bonding = runtime.bonding) : Candid answers up other := by
  refine ⟨?_, ?_⟩
  · rw [hcreated, hbonding]
    exact hcandid.create
  · rw [hcreated, hbonding]
    exact hcandid.destroy

def Answers.creates (answers : Answers) (bonding : Bool) : Prop :=
  if bonding then 0 ≤ answers.tun.fd ∧ answers.tun.tunSetIff = true
  else answers.netlink = .acknowledged ∨ answers.netlink = .noAnswer true

theorem createTunnelDev_of_creates (hcreates : answers.creates process.runtime.bonding) :
    (createTunnelDev answers process).1 = true := by
  unfold Answers.creates at hcreates
  unfold createTunnelDev
  split at hcreates
  · rename_i hbonding
    rw [if_pos hbonding, createTunTunnelDev]
    dsimp only
    rw [if_neg (not_lt.mpr hcreates.1), hcreates.2]
    rfl
  · rename_i hbonding
    rw [if_neg hbonding, createGreTunnelDev]
    rcases hcreates with hacknowledged | hcarriedOut
    · rw [hacknowledged]
    · rw [hcarriedOut]

/-- The kernel device goes unless the kernel refuses. -/
theorem refused_of_kept (hbonding : process.runtime.bonding = false)
    (hkept : (destroyTunnelDev answers process).1 = false) : answers.netlink = .refused := by
  unfold destroyTunnelDev destroyGreTunnelDev at hkept
  rw [hbonding, if_neg Bool.false_ne_true] at hkept
  cases hnetlink : answers.netlink with
  | refused => rfl
  | _ =>
      rw [hnetlink] at hkept
      exact absurd hkept Bool.false_ne_true.symm

def Runtime.up (runtime : Runtime) : Bool :=
  runtime.established grecpTuntypeLte || runtime.established grecpTuntypeDsl

theorem updateTunnelDev_cases (answers : Answers) (process : Process) :
    (process.runtime.up = true ∧ process.runtime.tunnelInterfaceCreated = false ∧
      updateTunnelDev answers process = { (createTunnelDev answers process).2 with
        runtime.tunnelInterfaceCreated := (createTunnelDev answers process).1 }) ∨
    (process.runtime.up = false ∧ process.runtime.tunnelInterfaceCreated = true ∧
      updateTunnelDev answers process = { (destroyTunnelDev answers process).2 with
        runtime.tunnelInterfaceCreated := !(destroyTunnelDev answers process).1 }) ∨
    (process.runtime.up = process.runtime.tunnelInterfaceCreated ∧
      updateTunnelDev answers process = process) := by
  have hup : process.runtime.up = (process.runtime.lte.tunnelEstablished ||
      process.runtime.dsl.tunnelEstablished) := rfl
  unfold updateTunnelDev
  rw [← hup]
  dsimp only
  cases process.runtime.up with
  | true =>
      cases hcreated : process.runtime.tunnelInterfaceCreated with
      | true => exact Or.inr (Or.inr ⟨rfl, rfl⟩)
      | false => exact Or.inl ⟨rfl, rfl, rfl⟩
  | false =>
      cases hcreated : process.runtime.tunnelInterfaceCreated with
      | true => exact Or.inr (Or.inl ⟨rfl, rfl, rfl⟩)
      | false => exact Or.inr (Or.inr ⟨rfl, rfl⟩)

/-- The block that creates and destroys the device keeps the flag right. -/
theorem flagged_updateTunnelDev (hflagged : Flagged past process)
    (hcandid : Candid answers process.runtime.up process.runtime) :
    Flagged past (updateTunnelDev answers process) := by
  rcases updateTunnelDev_cases answers process with ⟨hup, hcreated, hupdate⟩ |
    ⟨hdown, hcreated, hupdate⟩ | ⟨-, hupdate⟩
  · rw [hupdate]
    exact flagged_createTunnelDev hflagged hcreated (hcandid.create hup hcreated)
  · rw [hupdate]
    obtain ⟨hbonding, hsocket, hanswer⟩ := hcandid.destroy hdown hcreated
    exact flagged_destroyTunnelDev hflagged hcreated hbonding hsocket hanswer
  · rw [hupdate]
    exact hflagged

/-! ### One execution -/

theorem up_before_updateTunnelDev (hrunning : process.exited = false) :
    (Timer.before answers .updateTunnelDev process).runtime.up =
      staysUp answers process.runtime := by
  obtain ⟨hlte, hdsl⟩ := established_before answers .updateTunnelDev hrunning (by decide)
  rw [Runtime.up, hlte, hdsl]
  rfl

/-- No other block touches the flag. -/
theorem created_executeTimers (hrunning : process.exited = false)
    (hstill : (executeTimers answers process).exited = false) :
    (executeTimers answers process).runtime.tunnelInterfaceCreated =
      (updateTunnelDev answers
        (Timer.before answers .updateTunnelDev process)).runtime.tunnelInterfaceCreated := by
  have hend := agree_to_end answers [.created] .updateTunnelDev (by decide) (by decide) (by decide)
    hstill
  rw [Timer.after_early answers process _ hrunning (by decide)] at hend
  exact hend .created (by simp)

theorem Candid.before (hrunning : process.exited = false)
    (hcandid : Candid answers (staysUp answers process.runtime) process.runtime) :
    Candid answers (Timer.before answers .updateTunnelDev process).runtime.up
      (Timer.before answers .updateTunnelDev process).runtime := by
  have hbefore := Timer.agree_before answers process [.settings, .created] .updateTunnelDev
    (by decide)
  rw [up_before_updateTunnelDev hrunning]
  exact hcandid.congr (hbefore .created (by simp))
    (congrArg Settings.bonding (hbefore .settings (by simp)))

theorem Flagged.beforeSignals (hflagged : Flagged past process) (hrunning : process.exited = false)
    (hcandid : Candid answers (staysUp answers process.runtime) process.runtime) :
    Flagged past (Timer.before answers .handleSignals process) := by
  have hbefore := Timer.agree_before answers process [.settings, .created, .effects .device]
    .updateTunnelDev (by decide)
  have hafter := Timer.agree_between answers process [.settings, .created, .effects .device]
    .updateTunnelDev .handleSignals (by decide) (by decide)
  rw [Timer.after_early answers process _ hrunning (by decide)] at hafter
  exact (flagged_updateTunnelDev (hflagged.congr hbefore) (hcandid.before hrunning)).congr hafter

/-- **One execution.** -/
theorem flagged_executeTimers (hflagged : Flagged past process) (hrunning : process.exited = false)
    (hcandid : Candid answers (staysUp answers process.runtime) process.runtime)
    (hstill : (executeTimers answers process).exited = false) :
    Flagged past (executeTimers answers process) :=
  (hflagged.beforeSignals hrunning hcandid).congr
    (agree_of_running answers (by decide) hstill)

theorem Flagged.alternates_removeDevice (hflagged : Flagged past process) :
    Alternates (.event .tunnelup) (.event .tunneldown)
      (eventsOf .tunnelup .tunneldown (past ++ (removeDevice answers process).effects)) := by
  unfold removeDevice
  have hcancelled : Flagged past
      (if process.runtime.bonding then cancelThreads process else process) :=
    hflagged.congr ((within_if process (within_cancelThreads process)).agree (by decide))
  generalize (if process.runtime.bonding then cancelThreads process else process) = cancelled
    at hcancelled ⊢
  dsimp only
  split
  · rename_i hcreated
    have hevents := hcancelled.events
    rw [hcreated] at hevents
    unfold destroyTunnelDev
    split
    · exact (hevents.emit (.tunDeviceClosed cancelled.sockfdTun) rfl).goDown.alternates
    · unfold destroyGreTunnelDev
      cases answers.netlink with
      | noSocket => exact hevents.alternates
      | refused => exact hevents.alternates
      | acknowledged =>
          exact (hevents.emit .greDeviceDestroyed rfl).goDown.alternates
      | noAnswer carriedOut =>
          cases carriedOut with
          | true => exact (hevents.emit .greDeviceDestroyed rfl).goDown.alternates
          | false => exact hevents.goDown.alternates
  · exact hcancelled.events.alternates

theorem Flagged.alternates_executeTimers (hflagged : Flagged past process)
    (hrunning : process.exited = false)
    (hcandid : Candid answers (staysUp answers process.runtime) process.runtime) :
    Alternates (.event .tunnelup) (.event .tunneldown)
      (eventsOf .tunnelup .tunneldown (past ++ (executeTimers answers process).effects)) := by
  have hbefore := hflagged.beforeSignals hrunning hcandid
  have hsignal : ∀ signal, Flagged past
      { Timer.before answers .handleSignals process with runtime.signal := signal } := fun signal =>
    hbefore.congr ((within_signal _ signal).agree (by decide))
  cases ends_executeTimers answers process with
  | fatal _ hafter =>
      rw [hafter]
      exact hbefore.events.alternates
  | goesOn _ signal hafter =>
      rw [hafter]
      exact (hsignal signal).events.alternates
  | shutsDown _ signal hafter =>
      rw [hafter, shutdown_eq]
      have hended : Flagged past (endLeases (killClients answers
          { Timer.before answers .handleSignals process with runtime.signal := signal })) :=
        ((hsignal signal).congr ((within_killClients answers _).agree (by decide))).congr
          ((within_endLeases _).agree (by decide))
      generalize endLeases (killClients answers
        { Timer.before answers .handleSignals process with runtime.signal := signal }) = ended
        at hended ⊢
      have heffects : ofKind .device (sayGoodbye answers (removeDevice answers ended)).effects =
          ofKind .device (removeDevice answers ended).effects :=
        within_sayGoodbye answers (removeDevice answers ended) (.effects .device) (by decide)
      have hevents : eventsOf .tunnelup .tunneldown
            (past ++ (sayGoodbye answers (removeDevice answers ended)).effects) =
          eventsOf .tunnelup .tunneldown (past ++ (removeDevice answers ended).effects) :=
        eventsOf_congr rfl rfl heffects
      rw [hevents]
      exact hended.alternates_removeDevice

/-! ### Runs -/

namespace Main

variable {config : Config} {buffer : Memory} {state next : State} {input : Input}
  {output : Output} {history : History Input Output}

/-- In every iteration the code learns what has become of the device, and Accepts copy nothing across
the end of `runtime.haap`. -/
@[mk_iff]
structure CandidStep (state : State) (input : Input) : Prop where
  candid : Candid input.answers
    (staysUp input.answers (receive state input).process.runtime)
    (receive state input).process.runtime
  contained : ReceiveContained state input

instance (state : State) (input : Input) : Decidable (CandidStep state input) :=
  decidable_of_iff' _ (candidStep_iff state input)

structure DeviceTold (history : History Input Output) (input : Input) (output : Output)
    (next : State) : Prop where
  flag : next.process.exited = false →
    (next.process.runtime.tunnelInterfaceCreated = true ↔
      deviceExists (effectsOf (history ++ [(input, output)])) = true)
  events : Alternates (.event .tunnelup) (.event .tunneldown)
    (eventsOf .tunnelup .tunneldown (effectsOf (history ++ [(input, output)])))
  /-- Without a tunnel there is a device only if the kernel has refused to remove it. -/
  lost : next.process.exited = false → next.process.runtime.up = false →
    deviceExists (effectsOf (history ++ [(input, output)])) = true → input.answers.netlink = .refused
  /-- With a tunnel a device is created if there is none. -/
  anew : next.process.exited = false → next.process.runtime.up = true →
    input.answers.creates next.process.runtime.bonding → deviceExists (effectsOf history) = false →
    ∃ effect ∈ output.effects, effect.leavesDevice false = true

def KnowsDevice (history : History Input Output) (state : State) : Prop :=
  state.process.exited = false → Flagged (effectsOf history) state.process.quiet

theorem flagged_receive (hknows : KnowsDevice history state)
    (hcontained : ReceiveContained state input) (hstep : Step state input output next) :
    Flagged (effectsOf history) (receive state input).process.quiet := by
  have hreceive : Agree Aspect.get [.settings, .created] state.process
      (receive state input).process := by
    refine agree_receive hcontained fun msgtype tuntype _ htuntype => ?_
    rcases htuntype with rfl | rfl <;> cases msgtype <;> decide
  refine (hknows hstep.1).congr fun aspect haspect => ?_
  simp only [List.mem_cons, List.not_mem_nil, or_false] at haspect
  rcases haspect with rfl | rfl | rfl
  · exact hreceive .settings (by simp)
  · exact hreceive .created (by simp)
  · rfl

/-- **One iteration.** -/
theorem flagged_of_step (hknows : KnowsDevice history state) (hguard : CandidStep state input)
    (hstep : Step state input output next) (hstill : next.process.exited = false) :
    Flagged (effectsOf history) next.process := by
  rw [next_of_step hstep] at hstill ⊢
  exact flagged_executeTimers (flagged_receive hknows hguard.contained hstep)
    (running_of_step hstep) hguard.candid hstill

theorem knowsDevice_step (hknows : KnowsDevice history state) (hguard : CandidStep state input)
    (hstep : Step state input output next) :
    KnowsDevice (history ++ [(input, output)]) next := by
  intro hstill
  have hflagged := flagged_of_step hknows hguard hstep hstill
  have heffects : effectsOf (history ++ [(input, output)]) ++ next.process.quiet.effects =
      effectsOf history ++ next.process.effects := by
    rw [effectsOf_snoc, (output_of_step hstep).2.2, Process.quiet_effects, List.append_nil]
  refine ⟨?_, ?_⟩
  · rw [heffects]
    exact hflagged.device
  · unfold Announced
    rw [heffects]
    exact hflagged.events

/-- Along every candid run the flag is right. -/
theorem knowsDevice_of_run
    (hrun : RunWhere Step (fun _ => CandidStep) (State.initial config buffer) history state) :
    KnowsDevice history state := by
  refine hrun.invariant KnowsDevice ?_ ?_
  · intro _
    refine ⟨rfl, ?_⟩
    unfold Announced
    rw [show (State.initial config buffer).process.quiet.runtime.tunnelInterfaceCreated = false from
      rfl, Bool.and_false]
    exact InStep.nil
  · intro history state input output next hknows hguard hstep
    exact knowsDevice_step hknows hguard hstep

theorem exists_creation {before after : List Effect} (hnone : deviceExists before = false)
    (hsome : deviceExists (before ++ after) = true) :
    ∃ effect ∈ after, effect.leavesDevice false = true := by
  by_contra hnever
  push Not at hnever
  unfold deviceExists at hnone hsome
  rw [List.foldl_append, hnone] at hsome
  have hstays : after.foldl Effect.leavesDevice false = false := by
    clear hsome
    induction after with
    | nil => rfl
    | cons effect after ih =>
        rw [List.foldl_cons, Bool.eq_false_of_not_eq_true (hnever effect List.mem_cons_self)]
        exact ih fun other hother => hnever other (List.mem_cons_of_mem effect hother)
  exact absurd (hstays.symm.trans hsome) Bool.false_ne_true

theorem created_of_step (hstep : Step state input output next)
    (hstill : next.process.exited = false) :
    next.process.runtime.tunnelInterfaceCreated =
      (updateTunnelDev input.answers (Timer.before input.answers .updateTunnelDev
        (receive state input).process.quiet)).runtime.tunnelInterfaceCreated := by
  rw [next_of_step hstep] at hstill ⊢
  exact created_executeTimers (running_of_step hstep) hstill

/-- **The device flag.** In every run in which no tun device is taken down while the loop goes on,
requests about the kernel device are carried out if they do not fail, and Accepts copy nothing across
the end of `runtime.haap`, the flag says whether there is a device, the events alternate, the device
goes when both tunnels are lost, and is created again when one is accepted. -/
theorem deviceTold_of_candid
    (hrun : RunWhere Step (fun _ => CandidStep) (State.initial config buffer) history state)
    (hguard : CandidStep state input) (hstep : Step state input output next) :
    DeviceTold history input output next := by
  have hknows := knowsDevice_of_run hrun
  have hreceived := flagged_receive hknows hguard.contained hstep
  have heffects : effectsOf (history ++ [(input, output)]) =
      effectsOf history ++ next.process.effects := by
    rw [effectsOf_snoc, (output_of_step hstep).2.2]
  have hflagged := flagged_of_step hknows hguard hstep
  have hup : (Timer.before input.answers .updateTunnelDev
      (receive state input).process.quiet).runtime.up = next.process.runtime.up := by
    rw [up_before_updateTunnelDev (running_of_step hstep), Runtime.up,
      established_of_step hstep (.inl rfl), established_of_step hstep (.inr rfl),
      (output_of_step hstep).2.1]
    rfl
  have hcandid := hguard.candid.before (running_of_step hstep)
  have hbonding : (Timer.before input.answers .updateTunnelDev
      (receive state input).process.quiet).runtime.bonding = next.process.runtime.bonding := by
    have hbefore := Timer.agree_before input.answers (receive state input).process.quiet
      [.settings] .updateTunnelDev (by decide)
    have hafter := Timer.agree_executeTimers input.answers (receive state input).process.quiet
      [.settings] (by decide)
    rw [next_of_step hstep]
    exact congrArg Settings.bonding
      ((hbefore .settings (by simp)).trans (hafter .settings (by simp)).symm)
  refine ⟨?_, ?_, ?_, ?_⟩
  · intro hstill
    rw [heffects, (hflagged hstill).device]
  · rw [heffects, next_of_step hstep]
    exact hreceived.alternates_executeTimers (running_of_step hstep) hguard.candid
  · intro hstill hdown hexists
    rw [heffects, (hflagged hstill).device, created_of_step hstep hstill] at hexists
    rw [← hup] at hdown
    rcases updateTunnelDev_cases input.answers (Timer.before input.answers
        .updateTunnelDev (receive state input).process.quiet) with ⟨hother, -, -⟩ |
      ⟨-, hcreated, hupdate⟩ | ⟨hsame, hupdate⟩
    · exact absurd (hdown.symm.trans hother) Bool.false_ne_true
    · rw [hupdate] at hexists
      exact refused_of_kept (hcandid.destroy hdown hcreated).1 (Bool.not_eq_true' _ ▸ hexists)
    · rw [hupdate, ← hsame, hdown] at hexists
      exact absurd hexists Bool.false_ne_true
  · intro hstill hsome hcreates hnone
    refine exists_creation hnone ?_
    rw [(output_of_step hstep).2.2, (hflagged hstill).device, created_of_step hstep hstill]
    rw [← hup] at hsome
    rw [← hbonding] at hcreates
    rcases updateTunnelDev_cases input.answers (Timer.before input.answers
        .updateTunnelDev (receive state input).process.quiet) with ⟨-, -, hupdate⟩ |
      ⟨hother, -, -⟩ | ⟨hsame, hupdate⟩
    · rw [hupdate]
      exact createTunnelDev_of_creates hcreates
    · exact absurd (hother.symm.trans hsome) Bool.false_ne_true
    · rw [hupdate, ← hsame, hsome]

def scriptedStart : State :=
  State.initial { Config.plain false with eventScriptPath := fun _ => 47 } fun _ => 0

def interlude : List Input :=
  [datagram (bareAccept 0x20) ⟨20, 0⟩, datagram bareTeardown ⟨21, 0⟩]

/-- The device is gone, and comes up again with the next Accept. -/
theorem interlude_deviceTold :
    eventsOf .tunnelup .tunneldown (effectsOf (recorded scriptedStart interlude)) =
        [.event .tunnelup, .event .tunneldown] ∧
      deviceExists (effectsOf (recorded scriptedStart interlude)) = false ∧
      DeviceTold (recorded scriptedStart interlude) (datagram (bareAccept 0x20) ⟨22, 0⟩)
        (outputOf (played scriptedStart interlude) (datagram (bareAccept 0x20) ⟨22, 0⟩))
        (iteration (played scriptedStart interlude)
          (datagram (bareAccept 0x20) ⟨22, 0⟩)) := by
  have hrun : RunWhere Step (fun _ => CandidStep) scriptedStart
      (recorded scriptedStart interlude) (played scriptedStart interlude) :=
    run_played (by decide +kernel) (by decide +kernel)
  exact ⟨by decide +kernel, by decide +kernel,
    deviceTold_of_candid hrun (by decide +kernel) (step_outputOf (by decide +kernel) _)⟩

/-- With bonding, the tunnel is accepted, torn down and accepted again. -/
def reaccepted : State :=
  iteration (iteration (iteration (plainStart true) (datagram (bareAccept 0x20) ⟨20, 0⟩))
    (datagram bareTeardown ⟨21, 0⟩)) (datagram (bareAccept 0x20) ⟨22, 0⟩)

/-- The flag is still set, there is no device, and none is created. -/
theorem reaccepted_withoutDevice :
    ∃ history, Run Step (plainStart true) history reaccepted ∧
      reaccepted.process.exited = false ∧ reaccepted.process.runtime.up = true ∧
      reaccepted.process.runtime.tunnelInterfaceCreated = true ∧
      deviceExists (effectsOf history) = false := by
  refine ⟨_, .snoc (.snoc (.snoc .nil trivial (step_outputOf rfl _)) trivial
    (step_outputOf (by decide +kernel) _)) trivial (step_outputOf (by decide +kernel) _),
    by decide +kernel, by decide +kernel, by decide +kernel, by decide +kernel⟩

end Main

end OpenHybrid

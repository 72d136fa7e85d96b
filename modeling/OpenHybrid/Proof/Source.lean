import OpenHybrid.Proof.Ownership
import OpenHybrid.Proof.Upstream

/-!
# Source addresses

Control messages and data messages are built by two copies of the same code. The one for control
messages asks whether the tunnel's interface has an address; the one for data messages does not.
-/

namespace OpenHybrid

open ByteMemory Frame Transition

variable {answers : Answers} {process other : Process}

/-! ### What is handed to `sendmsg` -/

def Effect.message : Effect → Option Message
  | .sendmsg _ _ message _ => some message
  | _ => none

inductive Transmission where
  | control (msgtype : Msgtype) (tuntype : Byte) (attributes : List Byte)
  | data (call : Tun2gre.Call)

def Transmission.tuntype : Transmission → Byte
  | .control _ tuntype _ => tuntype
  | .data call => call.tuntype

def Transmission.IsControl : Transmission → Prop
  | .control _ _ _ => True
  | .data _ => False

def Runtime.interfaceIp (runtime : Runtime) (tuntype : Byte) : In6Addr :=
  if tuntype = grecpTuntypeLte then runtime.lte.interfaceIp else runtime.dsl.interfaceIp

def Transmission.handed (answers : Answers) (process : Process) : Transmission → List Message
  | .control msgtype tuntype attributes =>
      ((sendGrecpmessage answers msgtype tuntype attributes
        { process with effects := [] }).2.effects).filterMap Effect.message
  | .data call => [call.message process.runtime]

/-- Whatever is handed over has the tunnel's own address for its source. -/
def OwnSource (answers : Answers) (process : Process) (transmission : Transmission) : Prop :=
  ∀ message ∈ transmission.handed answers process,
    message.source = process.runtime.interfaceIp transmission.tuntype ∧
      message.source ≠ in6addrAny

/-- Only data messages are sent without an address. -/
theorem ownSource_iff (answers : Answers) (process : Process) (transmission : Transmission) :
    OwnSource answers process transmission ↔
      transmission.IsControl ∨ process.runtime.interfaceIp transmission.tuntype ≠ in6addrAny := by
  cases transmission with
  | control msgtype tuntype attributes =>
      refine iff_of_true (fun message hmem => ?_) (Or.inl trivial)
      have hsource : (grecpmessage process.runtime msgtype tuntype attributes).source =
        process.runtime.interfaceIp tuntype := rfl
      simp only [Transmission.handed, sendGrecpmessage, hsource] at hmem
      split at hmem
      · rename_i hspecified
        obtain rfl : message = grecpmessage process.runtime msgtype tuntype attributes := by
          simpa [Process.emit, Effect.message] using hmem
        exact ⟨hsource, hspecified⟩
      · exact absurd hmem List.not_mem_nil
  | data call =>
      have hsource : (call.message process.runtime).source =
        process.runtime.interfaceIp call.tuntype := rfl
      constructor
      · intro hown
        obtain ⟨-, hspecified⟩ := hown _ (List.mem_singleton_self _)
        exact Or.inr (hsource ▸ hspecified)
      · intro hspecified message hmem
        obtain rfl := List.mem_singleton.mp hmem
        exact ⟨hsource, hsource ▸ hspecified.resolve_left id⟩

def stranded : Process :=
  updateInterfaceIps { Answers.plain ⟨20, 0⟩ with getPrimaryIp6 := fun _ => in6addrAny }
    ⟨Tun2gre.bondedRuntime, 4, 3, false, []⟩

/-- A packet read from the tun device is still sent. -/
theorem stranded_notOwnSource :
    Tun2gre.calls (Tun2gre.State.initial fun _ => 0) ⟨tcpSyn, stranded.runtime⟩ =
        [⟨grecpTuntypeLte, ethertypeIp, 0, true, tcpSyn⟩] ∧
      ¬ OwnSource (Answers.plain ⟨20, 0⟩) stranded
        (.data ⟨grecpTuntypeLte, ethertypeIp, 0, true, tcpSyn⟩) := by
  refine ⟨by decide, fun hown => ?_⟩
  obtain ⟨-, hspecified⟩ := hown _ (List.mem_singleton_self _)
  exact hspecified rfl

/-! ### Control messages along a run -/

def Sourced (effects : List Effect) : Prop :=
  ∀ effect ∈ effects, ∀ message ∈ effect.message, message.source ≠ in6addrAny

def Kind.isMessage : Kind → Bool
  | .request | .hello | .notify _ | .otherMessage => true
  | _ => false

theorem isMessage_kind {effect : Effect} {message : Message} (hmessage : message ∈ effect.message) :
    effect.kind.isMessage = true := by
  cases effect with
  | sendmsg msgtype tuntype message sent => cases msgtype <;> rfl
  | _ => exact absurd hmessage (by simp [Effect.message])

theorem Sourced.within {footprint : List Aspect} (hsourced : Sourced process.effects)
    (hwithin : Within footprint process other)
    (hsilent : ∀ aspect ∈ footprint, ∀ kind, aspect = .effects kind → kind.isMessage = false) :
    Sourced other.effects := by
  intro effect hmem message hmessage
  have houtside : .effects effect.kind ∉ footprint := by
    intro hinside
    have hother := hsilent _ hinside _ rfl
    rw [isMessage_kind hmessage] at hother
    exact absurd hother (by decide)
  have hsame : ofKind effect.kind other.effects = ofKind effect.kind process.effects :=
    hwithin (.effects effect.kind) houtside
  refine hsourced effect ?_ message hmessage
  rw [← mem_ofKind] at hmem ⊢
  exact hsame ▸ hmem

/-- What `send_grecpmessage` hands over has a source. -/
theorem Sourced.sendGrecpmessage (hsourced : Sourced process.effects) (msgtype : Msgtype)
    (tuntype : Byte) (attributes : List Byte) :
    Sourced (sendGrecpmessage answers msgtype tuntype attributes process).2.effects := by
  unfold OpenHybrid.sendGrecpmessage
  dsimp only
  split
  · rename_i hspecified
    intro effect hmem message hmessage
    rcases List.mem_append.mp hmem with hmem | hmem
    · exact hsourced effect hmem message hmessage
    · obtain rfl := List.mem_singleton.mp hmem
      obtain rfl := Option.mem_some.mp hmessage
      exact hspecified
  · exact hsourced

theorem Sourced.sendHello (hsourced : Sourced process.effects) (tuntype : Byte)
    (due seconds milliseconds : Reading) :
    Sourced (sendHello answers tuntype due seconds milliseconds process).effects := by
  unfold OpenHybrid.sendHello
  dsimp only
  split
  · refine Sourced.sendGrecpmessage ?_ _ _ _
    split <;> exact hsourced
  · exact hsourced

theorem Sourced.sayGoodbye (hsourced : Sourced process.effects) :
    Sourced (sayGoodbye answers process).effects := by
  unfold OpenHybrid.sayGoodbye
  dsimp only
  have hfailures : Sourced (sendGrecpnotifyLinkfailure answers grecpTuntypeDsl
      (sendGrecpnotifyLinkfailure answers grecpTuntypeLte process).2).2.effects :=
    Sourced.sendGrecpmessage (hsourced.sendGrecpmessage _ _ _) _ _ _
  have hgoodbye : ∀ process : Process, Sourced process.effects →
      Sourced ((triggerEvent .shutdown process).exit true).effects := by
    intro process hsourced
    have hwithin : Within [.exited, .effects .lifecycle] process
        ((triggerEvent .shutdown process).exit true) :=
      (within_triggerEvent process (by decide)).trans
        (within_exit _ (by decide) (by decide) true)
    exact hsourced.within hwithin (by simp [Kind.isMessage])
  split
  · exact hgoodbye _ hfailures
  · exact hgoodbye _ hsourced

theorem Sourced.handleSignals (hsourced : Sourced process.effects) :
    Sourced (handleSignals answers process).effects := by
  unfold OpenHybrid.handleSignals
  dsimp only
  have hshutdown : ∀ process : Process, Sourced process.effects →
      Sourced (shutdown answers process).effects := by
    intro process hsourced
    rw [shutdown_eq]
    have hwithin : Within [.effects .client, .effects .dhcpEvent, .effects .dhcp6Event,
        .effects .greSocket, .effects .thread, .effects .device] process
        (removeDevice answers (endLeases (killClients answers process))) :=
      (((within_killClients answers process).mono (by simp)).trans
        ((within_endLeases _).mono (by simp))).trans ((within_removeDevice answers _).mono (by simp))
    exact (hsourced.within hwithin (by simp [Kind.isMessage])).sayGoodbye
  split_ifs
  · exact hshutdown _ hsourced
  · exact hsourced
  · exact hsourced

/-- Every timer asks for an address before it sends. -/
theorem Sourced.run (timer : Timer) (hsourced : Sourced process.effects) :
    Sourced (timer.run answers process).effects := by
  cases timer with
  | connect =>
      unfold Timer.run OpenHybrid.connect
      dsimp only
      split_ifs
      · exact hsourced.sendGrecpmessage _ _ _
      · exact hsourced.sendGrecpmessage _ _ _
      · exact hsourced
  | ackFilterList =>
      unfold Timer.run OpenHybrid.ackFilterList
      dsimp only
      split
      · exact hsourced.sendGrecpmessage _ _ _
      · exact hsourced
  | verifyTunnel =>
      unfold Timer.run OpenHybrid.verifyTunnel
      dsimp only
      split
      · exact hsourced.sendGrecpmessage _ _ _
      · exact hsourced
  | sendLteHello => exact hsourced.sendHello _ _ _ _
  | sendDslHello => exact hsourced.sendHello _ _ _ _
  | bypassBandwidth =>
      unfold Timer.run OpenHybrid.bypassBandwidth sendGrecpnotifyBypasstraffic
      dsimp only
      split_ifs
      · exact hsourced.sendGrecpmessage _ _ _
      · exact hsourced.sendGrecpmessage _ _ _
      · exact hsourced
  | handleSignals => exact hsourced.handleSignals
  | _ =>
      refine hsourced.within (Timer.within_run answers _ process) ?_
      simp [Timer.footprint, threadsFootprint, Kind.isMessage]

namespace Main

/-- No control message is ever sent without an address. -/
theorem sourced_of_run {config : Config} {buffer : Memory} {history : History Input Output}
    {state : State} (hrun : Transition.Run Step (State.initial config buffer) history state) :
    Sourced (effectsOf history) := by
  refine hrun.invariant (fun history _ => Sourced (effectsOf history)) ?_ ?_
  · intro effect hmem
    exact absurd hmem List.not_mem_nil
  · intro history state input output next hsourced _ hstep
    obtain ⟨-, rfl, rfl⟩ := hstep
    have hempty : Sourced ({ (receive state input).process with effects := [] } : Process).effects :=
      fun effect hmem => absurd hmem List.not_mem_nil
    have hstep : Sourced (iteration state input).process.effects := by
      unfold iteration
      dsimp only
      rw [executeTimers_eq]
      exact runUntil_preserves (fun process : Process => Sourced process.effects) hempty
        fun timer process hsourced => hsourced.run timer
    rw [effectsOf_snoc]
    intro effect hmem
    rcases List.mem_append.mp hmem with hmem | hmem
    · exact hsourced effect hmem
    · exact hstep effect hmem

end Main

end OpenHybrid

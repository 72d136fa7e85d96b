import OpenHybrid.Proof.Leases

/-!
# Interference

The state of each address family behind an execution as a function of what it was before, of the
tunnels and of what its own client does. Only the expiry of a DHCPv6 lease spoils this: it ends the
DHCPv4 lease instead.
-/

namespace OpenHybrid

open ByteMemory Frame Transition

variable {answers other : Answers} {client : Client} {process : Process}

/-- What an execution makes of the DHCPv4 state when no DHCPv6 lease expires. -/
def Dhcp.evolve (answers : Answers) (up created : Bool) (dhcp : Dhcp) : Dhcp :=
  let polled := ((if up then dhcp else Dhcp.none).start created answers.udhcpc).poll answers
  if polled.over answers then polled.clear else polled

def Dhcp6.evolve (answers : Answers) (up created : Bool) (dhcp6 : Dhcp6) : Dhcp6 :=
  ((if up then dhcp6 else Dhcp6.none).start created answers.udhcpc6).poll answers

theorem dhcp_resetSession (process : Process) :
    (resetSession answers process).runtime.dhcp =
      if process.runtime.up then process.runtime.dhcp else Dhcp.none := by
  cases hup : process.runtime.up with
  | true =>
      rw [resetSession_of_up answers hup]
      rfl
  | false =>
      rw [resetSession_of_down answers hup]
      exact (within_resetDhcp6 answers (resetDhcp answers (forgetSession process)) .dhcp
        (by decide)).trans (dhcp_resetDhcp answers (forgetSession process))

theorem dhcp6_resetSession (process : Process) :
    (resetSession answers process).runtime.dhcp6 =
      if process.runtime.up then process.runtime.dhcp6 else Dhcp6.none := by
  cases hup : process.runtime.up with
  | true =>
      rw [resetSession_of_up answers hup]
      rfl
  | false =>
      rw [resetSession_of_down answers hup]
      exact dhcp6_resetDhcp6 answers (resetDhcp answers (forgetSession process))

/-- The tunnels behind an execution are those that the late blocks see. -/
theorem up_before (timer : Timer) (process : Process)
    (hlate : ∀ other ∈ Timer.all.dropWhile (· ≠ timer),
      ∀ aspect ∈ [Aspect.lteEstablished, .dslEstablished], aspect ∉ other.footprint) :
    (Timer.before answers timer process).runtime.up =
      (executeTimers answers process).runtime.up := by
  have hagree := Timer.agree_from answers process [.lteEstablished, .dslEstablished] timer hlate
  have hlte : (executeTimers answers process).runtime.established grecpTuntypeLte =
      (Timer.before answers timer process).runtime.established grecpTuntypeLte :=
    hagree .lteEstablished (by simp)
  have hdsl : (executeTimers answers process).runtime.established grecpTuntypeDsl =
      (Timer.before answers timer process).runtime.established grecpTuntypeDsl :=
    hagree .dslEstablished (by simp)
  rw [Runtime.up, Runtime.up, hlte, hdsl]

theorem created_before (timer : Timer) (process : Process)
    (hlate : ∀ other ∈ Timer.all.dropWhile (· ≠ timer), ∀ aspect ∈ [Aspect.created],
      aspect ∉ other.footprint) :
    (Timer.before answers timer process).runtime.tunnelInterfaceCreated =
      (executeTimers answers process).runtime.tunnelInterfaceCreated :=
  (Timer.agree_from answers process [.created] timer hlate .created (by simp)).symm

theorem dhcp_polled (hstill : (executeTimers answers process).exited = false) :
    (Timer.before answers .expireDhcp process).runtime.dhcp =
      ((if (executeTimers answers process).runtime.up then process.runtime.dhcp
        else Dhcp.none).start (executeTimers answers process).runtime.tunnelInterfaceCreated
          answers.udhcpc).poll answers := by
  have hreset : (Timer.before answers .resetSession process).runtime.dhcp = process.runtime.dhcp :=
    Timer.agree_before answers process [.dhcp] .resetSession (by decide) .dhcp (by simp)
  have hstart : (Timer.before answers .startDhcp process).runtime.dhcp =
      (Timer.after answers .resetSession process).runtime.dhcp :=
    Timer.agree_between answers process [.dhcp] .resetSession .startDhcp (by decide) (by decide)
      .dhcp (by simp)
  have hpoll : (Timer.before answers .pollDhcp process).runtime.dhcp =
      (Timer.after answers .startDhcp process).runtime.dhcp :=
    Timer.agree_between answers process [.dhcp] .startDhcp .pollDhcp (by decide) (by decide)
      .dhcp (by simp)
  have hexpire : (Timer.before answers .expireDhcp process).runtime.dhcp =
      (Timer.after answers .pollDhcp process).runtime.dhcp :=
    Timer.agree_between answers process [.dhcp] .pollDhcp .expireDhcp (by decide) (by decide)
      .dhcp (by simp)
  calc
    (Timer.before answers .expireDhcp process).runtime.dhcp =
        (pollDhcp answers (Timer.before answers .pollDhcp process)).runtime.dhcp := by
      rw [hexpire, after_of_running answers .pollDhcp hstill]
      rfl
    _ = (Timer.after answers .startDhcp process).runtime.dhcp.poll answers := by
      rw [dhcp_pollDhcp, hpoll]
    _ = ((Timer.after answers .resetSession process).runtime.dhcp.start
          (executeTimers answers process).runtime.tunnelInterfaceCreated
          answers.udhcpc).poll answers := by
      rw [after_of_running answers .startDhcp hstill]
      show ((startDhcp answers _).runtime.dhcp).poll answers = _
      rw [dhcp_startDhcp, hstart, created_before .startDhcp process (by decide)]
    _ = _ := by
      rw [after_of_running answers .resetSession hstill]
      show ((resetSession answers _).runtime.dhcp.start _ _).poll answers = _
      rw [dhcp_resetSession, hreset, up_before .resetSession process (by decide)]

theorem dhcp6_polled (hstill : (executeTimers answers process).exited = false) :
    (Timer.before answers .expireDhcp process).runtime.dhcp6 =
      process.runtime.dhcp6.evolve answers (executeTimers answers process).runtime.up
        (executeTimers answers process).runtime.tunnelInterfaceCreated := by
  have hreset : (Timer.before answers .resetSession process).runtime.dhcp6 =
      process.runtime.dhcp6 :=
    Timer.agree_before answers process [.dhcp6] .resetSession (by decide) .dhcp6 (by simp)
  have hstart : (Timer.before answers .startDhcp6 process).runtime.dhcp6 =
      (Timer.after answers .resetSession process).runtime.dhcp6 :=
    Timer.agree_between answers process [.dhcp6] .resetSession .startDhcp6 (by decide) (by decide)
      .dhcp6 (by simp)
  have hpoll : (Timer.before answers .pollDhcp6 process).runtime.dhcp6 =
      (Timer.after answers .startDhcp6 process).runtime.dhcp6 :=
    Timer.agree_between answers process [.dhcp6] .startDhcp6 .pollDhcp6 (by decide) (by decide)
      .dhcp6 (by simp)
  have hexpire : (Timer.before answers .expireDhcp process).runtime.dhcp6 =
      (Timer.after answers .pollDhcp6 process).runtime.dhcp6 :=
    Timer.agree_between answers process [.dhcp6] .pollDhcp6 .expireDhcp (by decide) (by decide)
      .dhcp6 (by simp)
  calc
    (Timer.before answers .expireDhcp process).runtime.dhcp6 =
        (pollDhcp6 answers (Timer.before answers .pollDhcp6 process)).runtime.dhcp6 := by
      rw [hexpire, after_of_running answers .pollDhcp6 hstill]
      rfl
    _ = (Timer.after answers .startDhcp6 process).runtime.dhcp6.poll answers := by
      rw [dhcp6_pollDhcp6, hpoll]
    _ = ((Timer.after answers .resetSession process).runtime.dhcp6.start
          (executeTimers answers process).runtime.tunnelInterfaceCreated
          answers.udhcpc6).poll answers := by
      rw [after_of_running answers .startDhcp6 hstill]
      show ((startDhcp6 answers _).runtime.dhcp6).poll answers = _
      rw [dhcp6_startDhcp6, hstart, created_before .startDhcp6 process (by decide)]
    _ = _ := by
      rw [after_of_running answers .resetSession hstill]
      show ((resetSession answers _).runtime.dhcp6.start _ _).poll answers = _
      rw [dhcp6_resetSession, hreset, up_before .resetSession process (by decide)]
      rfl

/-- **DHCPv4.** When no DHCPv6 lease expires. -/
theorem dhcp_executeTimers (hstill : (executeTimers answers process).exited = false)
    (hvalid : (Timer.before answers .expireDhcp6 process).runtime.dhcp6.over answers = false) :
    (executeTimers answers process).runtime.dhcp =
      process.runtime.dhcp.evolve answers (executeTimers answers process).runtime.up
        (executeTimers answers process).runtime.tunnelInterfaceCreated := by
  have hexpire6 : (Timer.before answers .expireDhcp6 process).runtime.dhcp =
      (Timer.after answers .expireDhcp process).runtime.dhcp :=
    Timer.agree_between answers process [.dhcp] .expireDhcp .expireDhcp6 (by decide) (by decide)
      .dhcp (by simp)
  calc
    (executeTimers answers process).runtime.dhcp =
        (Timer.after answers .expireDhcp6 process).runtime.dhcp :=
      agree_to_end answers [.dhcp] .expireDhcp6 (by decide) (by decide) (by decide) hstill .dhcp
        (by simp)
    _ = (expireDhcp answers (Timer.before answers .expireDhcp process)).runtime.dhcp := by
      rw [after_of_running answers .expireDhcp6 hstill]
      show (expireDhcp6 answers _).runtime.dhcp = _
      rw [dhcp_expireDhcp6, hvalid, if_neg Bool.false_ne_true, hexpire6,
        after_of_running answers .expireDhcp hstill]
      rfl
    _ = _ := by
      rw [dhcp_expireDhcp, dhcp_polled hstill]
      rfl

/-- **DHCPv6.** Its state does not depend on the DHCPv4 state at all. -/
theorem dhcp6_executeTimers (hstill : (executeTimers answers process).exited = false) :
    (executeTimers answers process).runtime.dhcp6 =
      process.runtime.dhcp6.evolve answers (executeTimers answers process).runtime.up
        (executeTimers answers process).runtime.tunnelInterfaceCreated := by
  rw [← dhcp6_polled hstill]
  exact Timer.agree_from answers process [.dhcp6] .expireDhcp (by decide) .dhcp6 (by simp)

def SameClient (client : Client) (answers other : Answers) : Prop :=
  match client with
  | .udhcpc => answers.udhcpc = other.udhcpc ∧ answers.inetPton = other.inetPton ∧
      answers.uptime .udhcpcOutput = other.uptime .udhcpcOutput ∧
      answers.uptime .dhcpExpiry = other.uptime .dhcpExpiry
  | .udhcpc6 => answers.udhcpc6 = other.udhcpc6 ∧ answers.inetPton6 = other.inetPton6 ∧
      answers.uptime .udhcpc6Output = other.uptime .udhcpc6Output ∧
      answers.uptime .dhcp6Expiry = other.uptime .dhcp6Expiry

theorem evolve_congr (hsame : SameClient .udhcpc answers other) (up created : Bool) (dhcp : Dhcp) :
    dhcp.evolve answers up created = dhcp.evolve other up created := by
  obtain ⟨hclient, hpton, houtput, hexpiry⟩ := hsame
  have hline : udhcpcLine answers = udhcpcLine other := by
    funext dhcp line
    unfold udhcpcLine
    rw [hpton]
  have hpoll : ∀ dhcp : Dhcp, dhcp.poll answers = dhcp.poll other := by
    intro dhcp
    unfold Dhcp.poll Dhcp.exits Dhcp.output
    rw [hclient, hline, houtput]
  have hover : ∀ dhcp : Dhcp, dhcp.over answers = dhcp.over other := by
    intro dhcp
    unfold Dhcp.over
    rw [hexpiry]
  unfold Dhcp.evolve
  dsimp only
  rw [hclient, hpoll, hover]

theorem evolve6_congr (hsame : SameClient .udhcpc6 answers other) (up created : Bool)
    (dhcp6 : Dhcp6) : dhcp6.evolve answers up created = dhcp6.evolve other up created := by
  obtain ⟨hclient, hpton, houtput, -⟩ := hsame
  have hline : udhcpc6Line answers = udhcpc6Line other := by
    funext dhcp6 line
    unfold udhcpc6Line
    rw [hpton]
  unfold Dhcp6.evolve Dhcp6.poll Dhcp6.exits Dhcp6.output
  rw [hclient, hline, houtput]

/-- **One execution.** What the client is told, the tunnels and the device decide alone. -/
theorem family_executeTimers {left right : Process} (hsame : SameClient client answers other)
    (hfamily : client.aspect.get left = client.aspect.get right)
    (hup : (executeTimers answers left).runtime.up = (executeTimers other right).runtime.up)
    (hcreated : (executeTimers answers left).runtime.tunnelInterfaceCreated =
      (executeTimers other right).runtime.tunnelInterfaceCreated)
    (hleft : (executeTimers answers left).exited = false)
    (hright : (executeTimers other right).exited = false)
    (hleftValid : (Timer.before answers .expireDhcp6 left).runtime.dhcp6.over answers = false)
    (hrightValid : (Timer.before other .expireDhcp6 right).runtime.dhcp6.over other = false) :
    client.aspect.get (executeTimers answers left) =
      client.aspect.get (executeTimers other right) := by
  cases client with
  | udhcpc =>
      show (executeTimers answers left).runtime.dhcp = (executeTimers other right).runtime.dhcp
      have hdhcp : left.runtime.dhcp = right.runtime.dhcp := hfamily
      rw [dhcp_executeTimers hleft hleftValid, dhcp_executeTimers hright hrightValid, hup, hcreated,
        hdhcp]
      exact evolve_congr hsame _ _ _
  | udhcpc6 =>
      show (executeTimers answers left).runtime.dhcp6 = (executeTimers other right).runtime.dhcp6
      have hdhcp6 : left.runtime.dhcp6 = right.runtime.dhcp6 := hfamily
      rw [dhcp6_executeTimers hleft, dhcp6_executeTimers hright, hup, hcreated, hdhcp6]
      exact evolve6_congr hsame _ _ _

/-- The expiry of a DHCPv6 lease ends that lease and no other one. -/
def ExpiresAlone (answers : Answers) (process : Process) : Prop :=
  process.runtime.dhcp6.over answers = true →
    (expireDhcp6 answers process).runtime.dhcp6.leaseTime = 0 ∧
      (expireDhcp6 answers process).runtime.dhcp = process.runtime.dhcp

/-- A DHCPv6 lease that is over never ends alone. -/
theorem expiresAlone_iff :
    ExpiresAlone answers process ↔ process.runtime.dhcp6.over answers = false := by
  have hkept : (expireDhcp6 answers process).runtime.dhcp6 = process.runtime.dhcp6 :=
    within_expireDhcp6 answers process .dhcp6 (by decide)
  constructor
  · intro halone
    cases hover : process.runtime.dhcp6.over answers with
    | false => rfl
    | true =>
        have hcleared := (halone hover).1
        rw [hkept] at hcleared
        exact absurd hcleared (of_decide_eq_true hover).1
  · intro hvalid hover
    exact absurd (hvalid.symm.trans hover) Bool.false_ne_true

/-! ### Two runs -/

namespace Main

/-- Two iterations that look alike to one family: its client does the same, and so do the tunnels and
the device. -/
structure Alike (client : Client) (states : State × State) (inputs : Input × Input) : Prop where
  client : SameClient client inputs.1.answers inputs.2.answers
  up : (iteration states.1 inputs.1).process.runtime.up =
    (iteration states.2 inputs.2).process.runtime.up
  created : (iteration states.1 inputs.1).process.runtime.tunnelInterfaceCreated =
    (iteration states.2 inputs.2).process.runtime.tunnelInterfaceCreated

def beforeExpiry (state : State) (input : Input) : Process :=
  Timer.before input.answers .expireDhcp6 (receive state input).process.quiet

/-- No DHCPv6 lease is found expired, and Accepts copy nothing across the end of `runtime.haap`. -/
structure Unexpired (state : State) (input : Input) : Prop where
  valid : (beforeExpiry state input).runtime.dhcp6.over input.answers = false
  contained : ReceiveContained state input

structure AlikeUnexpired (client : Client) (states : State × State) (inputs : Input × Input) :
    Prop where
  alike : Alike client states inputs
  left : Unexpired states.1 inputs.1
  right : Unexpired states.2 inputs.2

variable {start states nexts : State × State} {inputs : Input × Input}
  {outputs : Output × Output} {history : History (Input × Input) (Output × Output)}

theorem family_receive (client : Client) {state : State} {input : Input}
    (hcontained : ReceiveContained state input) :
    client.aspect.get (receive state input).process.quiet = client.aspect.get state.process := by
  have hagree : Agree Aspect.get [client.aspect] state.process (receive state input).process := by
    refine agree_receive hcontained fun msgtype tuntype _ htuntype => ?_
    cases client <;> rcases htuntype with rfl | rfl <;> cases msgtype <;> decide
  cases client with
  | udhcpc => exact hagree .dhcp (by decide)
  | udhcpc6 => exact hagree .dhcp6 (by decide)

/-- **One iteration of both.** -/
theorem family_step (hguard : AlikeUnexpired client states inputs)
    (hstep : Both Step Step states inputs outputs nexts)
    (hfamily : client.aspect.get states.1.process = client.aspect.get states.2.process)
    (hleft : nexts.1.process.exited = false) (hright : nexts.2.process.exited = false) :
    client.aspect.get nexts.1.process = client.aspect.get nexts.2.process := by
  have hreceived : client.aspect.get (receive states.1 inputs.1).process.quiet =
      client.aspect.get (receive states.2 inputs.2).process.quiet :=
    ((family_receive client hguard.left.contained).trans hfamily).trans
      (family_receive client hguard.right.contained).symm
  rw [next_of_step hstep.1] at hleft ⊢
  rw [next_of_step hstep.2] at hright ⊢
  exact family_executeTimers hguard.alike.client hreceived hguard.alike.up hguard.alike.created
    hleft hright hguard.left.valid hguard.right.valid

/-- Running in pairs, as long as both are running. -/
theorem family_of_run
    (hstart : client.aspect.get start.1.process = client.aspect.get start.2.process)
    (hrun : RunWhere (Both Step Step) (fun _ => AlikeUnexpired client) start history states)
    (hleft : states.1.process.exited = false) (hright : states.2.process.exited = false) :
    client.aspect.get states.1.process = client.aspect.get states.2.process := by
  refine hrun.invariant (fun _ states => states.1.process.exited = false →
    states.2.process.exited = false →
      client.aspect.get states.1.process = client.aspect.get states.2.process)
    (fun _ _ => hstart) ?_ hleft hright
  intro history states inputs outputs nexts hfamily hguard hstep hleft hright
  exact family_step hguard hstep (hfamily hstep.1.1 hstep.2.1) hleft hright

/-- **Non-interference.** Two runs that look alike to one family, from any two states that agree on
it, agree on it behind every step in which both go on, if no DHCPv6 lease is found expired in either
of them. Then, and only then, an expiry does what it should. -/
theorem family_of_alike {first second left right left' right' : State} {input input' : Input}
    {output output' : Output}
    (hstart : client.aspect.get first.process = client.aspect.get second.process)
    (hrun : RunWhere (Both Step Step) (fun _ => AlikeUnexpired client) (first, second) history
      (left, right))
    (hguard : AlikeUnexpired client (left, right) (input, input'))
    (hstep : Both Step Step (left, right) (input, input') (output, output') (left', right')) :
    (left'.process.exited = false → right'.process.exited = false →
      client.aspect.get left'.process = client.aspect.get right'.process) ∧
    ExpiresAlone input.answers (beforeExpiry left input) ∧
    ExpiresAlone input'.answers (beforeExpiry right input') := by
  have hfamily := family_of_run hstart hrun hstep.1.1 hstep.2.1
  exact ⟨family_step hguard hstep hfamily, expiresAlone_iff.mpr hguard.left.valid,
    expiresAlone_iff.mpr hguard.right.valid⟩

def Input.printing (input : Input) (text : String) : Input :=
  { input with answers.udhcpc := ⟨true, 99, 0, some 0, some (ascii text)⟩ }

def leasing (lease6 : String) : Input :=
  ((datagram (bareAccept 0x20) ⟨20, 0⟩).printing "lease=100").printing6 lease6

theorem leasing_contained (state : State) (lease6 : String) :
    ReceiveContained state (leasing lease6) := bareAccept_contained state 0x20 ⟨20, 0⟩

-- the texts are variables here: comparing two literals is slow
theorem leasing_same (first second : String) :
    SameClient .udhcpc (leasing first).answers (leasing second).answers := ⟨rfl, rfl, rfl, rfl⟩

theorem both_outputOf {left right : State} (hleft : left.process.exited = false)
    (hright : right.process.exited = false) (first second : Input) :
    Both Step Step (left, right) (first, second) (outputOf left first, outputOf right second)
      (iteration left first, iteration right second) :=
  ⟨step_outputOf hleft first, step_outputOf hright second⟩

/-- Leases for different times, which are still valid. -/
theorem leasing_independent :
    ((iteration (plainStart false) (leasing "lease=50")).process.exited = false →
      (iteration (plainStart false) (leasing "lease=60")).process.exited = false →
      Client.udhcpc.aspect.get (iteration (plainStart false) (leasing "lease=50")).process =
        Client.udhcpc.aspect.get (iteration (plainStart false) (leasing "lease=60")).process) ∧
    ExpiresAlone (leasing "lease=50").answers
      (beforeExpiry (plainStart false) (leasing "lease=50")) ∧
    ExpiresAlone (leasing "lease=60").answers
      (beforeExpiry (plainStart false) (leasing "lease=60")) := by
  have hguard : AlikeUnexpired .udhcpc (plainStart false, plainStart false)
      (leasing "lease=50", leasing "lease=60") :=
    ⟨⟨leasing_same _ _, by decide +kernel, by decide +kernel⟩,
      ⟨by decide +kernel, leasing_contained _ _⟩, ⟨by decide +kernel, leasing_contained _ _⟩⟩
  exact family_of_alike rfl .nil hguard
    (both_outputOf rfl rfl (leasing "lease=50") (leasing "lease=60"))

/-- The leases are still the same for the DHCPv4 client six seconds later. -/
def sixSecondsLater (lease6 : String) : State :=
  iteration (iteration (plainStart false) (leasing lease6)) (silence ⟨26, 0⟩)

/-- The DHCPv4 lease is gone in the run in which the DHCPv6 lease was a short one. -/
theorem shortLease_interferes :
    ∃ history, RunWhere (Both Step Step) (fun _ => Alike .udhcpc)
        (plainStart false, plainStart false) history
        (sixSecondsLater "lease=5", sixSecondsLater "lease=60") ∧
      (sixSecondsLater "lease=5").process.exited = false ∧
      (sixSecondsLater "lease=60").process.exited = false ∧
      (sixSecondsLater "lease=5").process.runtime.dhcp.leaseTime = 0 ∧
      (sixSecondsLater "lease=60").process.runtime.dhcp.leaseTime = 100 := by
  have hfirst : Alike .udhcpc (plainStart false, plainStart false)
      (leasing "lease=5", leasing "lease=60") :=
    ⟨leasing_same _ _, by decide +kernel, by decide +kernel⟩
  have hsecond : Alike .udhcpc (iteration (plainStart false) (leasing "lease=5"),
      iteration (plainStart false) (leasing "lease=60")) (silence ⟨26, 0⟩, silence ⟨26, 0⟩) :=
    ⟨⟨rfl, rfl, rfl, rfl⟩, by decide +kernel, by decide +kernel⟩
  exact ⟨_, .snoc (.snoc .nil hfirst (both_outputOf rfl rfl _ _)) hsecond
      (both_outputOf (by decide +kernel) (by decide +kernel) _ _),
    by decide +kernel, by decide +kernel, by decide +kernel, by decide +kernel⟩

end Main

end OpenHybrid

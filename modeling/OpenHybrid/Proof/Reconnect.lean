import OpenHybrid.Proof.Establishment

/-!
# Starting from scratch

The session is forgotten behind the block that sends requests. A session that a Tear Down has ended
is therefore still there when the next request goes out; one that ends in the timers is not.
-/

namespace OpenHybrid

open ByteMemory Frame Transition

/-! ### The first request -/

def Message.memory (message : Message) : Memory := received (fun _ => 0) message.bytes

def firstRequest (config : Config) (address : In6Addr) : Message :=
  requestMessage { config.runtime with lte.interfaceIp := address } grecpTuntypeLte

/-- It goes to the anycast address, under key 0 and without a Session ID. -/
structure FromScratch (config : Config) (message : Message) : Prop where
  first : ∃ address, message = firstRequest config address
  anycast : message.destination = config.anycastIp
  keyless : (Grehdr.at message.memory).key = 0
  sessionless : ∀ attr ∈ messageAttributes message.memory message.bytes.length,
    attr.id ≠ msgattrSessionId

theorem firstRequest_bytes (config : Config) (address : In6Addr) :
    (firstRequest config address).bytes =
      Grehdr.bytes ⟨htons grecpFlagsandversion, htons grecpProto, htonl 0⟩ ++
        (Msgtype.request.code <<< 4 ||| grecpTuntypeLte) ::
          requestAttributes Runtime.zero grecpTuntypeLte := rfl

theorem fromScratch_firstRequest (config : Config) (address : In6Addr) :
    FromScratch config (firstRequest config address) := by
  refine ⟨⟨address, rfl⟩, rfl, ?_, ?_⟩
  · rw [Message.memory, firstRequest_bytes]
    decide +kernel
  · rw [Message.memory, firstRequest_bytes]
    decide +kernel

theorem requestMessage_lte_congr {runtime other : Runtime}
    (hsession : runtime.session = other.session)
    (haddress : runtime.lte.interfaceIp = other.lte.interfaceIp) :
    requestMessage runtime grecpTuntypeLte = requestMessage other grecpTuntypeLte := by
  have hip : runtime.haap.ip = other.haap.ip := congrArg Session.ip hsession
  have hsessionId : runtime.haap.sessionId = other.haap.sessionId :=
    congrArg Session.sessionId hsession
  have hkey : runtime.haap.bondingKey = other.haap.bondingKey :=
    congrArg Session.bondingKey hsession
  simp only [requestMessage, grecpmessage, requestAttributes, hip, hsessionId, hkey, haddress,
    if_true]

theorem updateInterfaceIps_session (answers : Answers) (process : Process) :
    (updateInterfaceIps answers process).runtime.session = process.runtime.session := by
  exact within_updateInterfaceIps answers process .session (by decide)

theorem updateInterfaceIps_lte (answers : Answers) (process : Process) :
    (updateInterfaceIps answers process).runtime.lte.interfaceIp =
      answers.getPrimaryIp6 process.runtime.lte.interfaceName := by
  unfold updateInterfaceIps
  dsimp only
  split <;> rfl

/-- Without the LTE tunnel, the request is for it. -/
theorem mem_requestEffects_of_down {answers : Answers} {runtime : Runtime} {tuntype : Byte}
    {message : Message} {sent : Bool} (hdown : runtime.established grecpTuntypeLte = false)
    (hmem : .sendmsg .request tuntype message sent ∈ requestEffects answers runtime) :
    runtime.lte.interfaceIp ≠ in6addrAny ∧ message = requestMessage runtime grecpTuntypeLte := by
  unfold requestEffects requested at hmem
  rw [if_pos hdown] at hmem
  dsimp only at hmem
  split at hmem
  · rename_i hsource
    rw [List.mem_singleton, Effect.sendmsg.injEq] at hmem
    exact ⟨hsource, hmem.2.2.1⟩
  · exact absurd hmem List.not_mem_nil

namespace Main

variable {config : Config} {buffer : Memory} {state next : State} {input : Input}
  {output : Output}

/-- A Tear Down finds no session, or no address to send the next request from, and Accepts copy
nothing across the end of `runtime.haap`. -/
structure Untorn (config : Config) (state : State) (input : Input) : Prop where
  teardown : ∀ tuntype, handled state input = some (.teardown, tuntype) →
    state.process.runtime.session = config.runtime.session ∨
      input.answers.getPrimaryIp6 state.process.runtime.lte.interfaceName = in6addrAny
  contained : ReceiveContained state input

structure Forgotten (config : Config) (state : State) : Prop where
  settings : state.process.runtime.settings = config.runtime.settings
  session : state.process.runtime.established grecpTuntypeLte = false →
    state.process.runtime.established grecpTuntypeDsl = false →
      state.process.runtime.session = config.runtime.session

theorem session_of_step (hstep : Step state input output next) :
    next.process.runtime.session =
      if staysUp input.answers (receive state input).process.runtime then
        (receive state input).process.runtime.session
      else freshSession (receive state input).process.runtime := by
  rw [next_of_step hstep]
  exact session_executeTimers input.answers (running_of_step hstep)

theorem freshSession_of_settings {runtime : Runtime}
    (hsettings : runtime.settings = config.runtime.settings) :
    freshSession runtime = config.runtime.session := by
  rw [freshSession, hsettings]
  rfl

/-- What one iteration preserves. -/
theorem Forgotten.step (hforgotten : Forgotten config state)
    (hguard : Untorn config state input) (hstep : Step state input output next) :
    Forgotten config next := by
  refine ⟨(settings_of_step hguard.contained hstep).trans hforgotten.settings, ?_⟩
  intro hlte hdsl
  have hdown : staysUp input.answers (receive state input).process.runtime = false := by
    have hreceived := (output_of_step hstep).2.1
    rw [established_of_step hstep (.inl rfl), hreceived] at hlte
    rw [established_of_step hstep (.inr rfl), hreceived] at hdsl
    rw [staysUp, hlte, hdsl]
    rfl
  rw [session_of_step hstep, hdown, if_neg Bool.false_ne_true]
  exact freshSession_of_settings
    ((settings_receive hguard.contained).trans hforgotten.settings)

/-- Where no tunnel is up behind a message, the session is fresh or the interface is down. -/
theorem Forgotten.received (hforgotten : Forgotten config state)
    (hguard : Untorn config state input)
    (hlte : (receive state input).process.runtime.established grecpTuntypeLte = false)
    (hdsl : (receive state input).process.runtime.established grecpTuntypeDsl = false) :
    (receive state input).process.runtime.session = config.runtime.session ∨
      input.answers.getPrimaryIp6 (receive state input).process.runtime.lte.interfaceName =
        in6addrAny := by
  have hname : (receive state input).process.runtime.lte.interfaceName =
      state.process.runtime.lte.interfaceName :=
    congrArg Settings.lteInterfaceName (settings_receive hguard.contained)
  rw [established_receive (.inl rfl) hguard.contained] at hlte
  rw [established_receive (.inr rfl) hguard.contained] at hdsl
  have hother : ∀ tuntype, handled state input ≠ some (.accept, tuntype) := by
    intro tuntype hhandled
    rw [hhandled, establishedBy] at hlte hdsl
    rcases isTuntype_of_handled hhandled with rfl | rfl
    · exact absurd hlte (by simp)
    · exact absurd hdsl (by simp)
  have hsession := session_receive hguard.contained hother
  by_cases hteardown : ∃ tuntype, handled state input = some (.teardown, tuntype)
  · obtain ⟨tuntype, hhandled⟩ := hteardown
    rw [hsession, hname]
    exact hguard.teardown tuntype hhandled
  · have hkept : ∀ tuntype before, establishedBy (handled state input) tuntype before = before := by
      intro tuntype before
      unfold establishedBy
      split
      · rename_i accepted hhandled
        exact absurd hhandled (hother accepted)
      · rename_i torn hhandled
        exact absurd ⟨torn, hhandled⟩ hteardown
      · rfl
    rw [hkept] at hlte hdsl
    exact Or.inl (hsession.trans (hforgotten.session hlte hdsl))

variable {history : History Input Output}

/-- Without a tunnel there is no session, in any such run. -/
theorem forgotten_of_run
    (hrun : RunWhere Step (fun _ => Untorn config) (State.initial config buffer) history state) :
    Forgotten config state := by
  refine hrun.invariant (fun _ => Forgotten config) ?_ ?_
  · exact ⟨rfl, fun _ _ => rfl⟩
  · intro history state input output next hforgotten hguard hstep
    exact hforgotten.step hguard hstep

/-- A request is made from what the message of the iteration has left. -/
theorem request_of_step (hstep : Step state input output next) {tuntype : Byte} {message : Message}
    {sent : Bool} (hrequest : .sendmsg .request tuntype message sent ∈ output.effects) :
    .sendmsg .request tuntype message sent ∈ requestEffects input.answers
      (updateInterfaceIps input.answers (receive state input).process).runtime := by
  have hmem : .sendmsg .request tuntype message sent ∈ ofKind .request next.process.effects := by
    rw [(output_of_step hstep).2.2] at hrequest
    exact List.mem_filter.mpr ⟨hrequest, by simp [Effect.kind]⟩
  have hruntime := updateInterfaceIps_runtime_congr input.answers
    (receive state input).process.quiet_runtime
  rw [next_of_step hstep, requests_executeTimers _ _ (running_of_step hstep), hruntime] at hmem
  exact hmem

/-- A request for the LTE tunnel without any tunnel is the first one. -/
theorem fromScratch_of_request (hforgotten : Forgotten config state)
    (hguard : Untorn config state input) (hstep : Step state input output next)
    (hlte : (receive state input).process.runtime.established grecpTuntypeLte = false)
    (hdsl : (receive state input).process.runtime.established grecpTuntypeDsl = false)
    {message : Message} {sent : Bool}
    (hrequest : .sendmsg .request grecpTuntypeLte message sent ∈ output.effects) :
    FromScratch config message := by
  have hmem := request_of_step hstep hrequest
  have hdown : (updateInterfaceIps input.answers
      (receive state input).process).runtime.established grecpTuntypeLte = false :=
    (within_updateInterfaceIps input.answers _ .lteEstablished (by decide)).trans hlte
  obtain ⟨hsource, rfl⟩ := mem_requestEffects_of_down hdown hmem
  have haddress := updateInterfaceIps_lte input.answers (receive state input).process
  rcases hforgotten.received hguard hlte hdsl with hfresh | hnone
  · have hfirst : requestMessage (updateInterfaceIps input.answers
          (receive state input).process).runtime grecpTuntypeLte =
        firstRequest config (input.answers.getPrimaryIp6
          (receive state input).process.runtime.lte.interfaceName) :=
      requestMessage_lte_congr
        ((updateInterfaceIps_session input.answers (receive state input).process).trans hfresh)
        haddress
    rw [hfirst]
    exact fromScratch_firstRequest config _
  · exact absurd (haddress.trans hnone) hsource

theorem haapIp_of_step (hforgotten : Forgotten config state) (hguard : Untorn config state input)
    (hnames : NamesNoAddress state input) (hstep : Step state input output next)
    (hanycast : state.process.runtime.haap.ip = config.anycastIp) :
    next.process.runtime.haap.ip = config.anycastIp := by
  have hsession := congrArg Session.ip (session_of_step hstep)
  rw [apply_ite Session.ip] at hsession
  refine hsession.trans ?_
  split
  · exact (haapIp_receive hguard.contained hnames).trans hanycast
  · exact congrArg Session.ip (freshSession_of_settings
      ((settings_receive hguard.contained).trans hforgotten.settings))

/-- **Reconnecting.** In every run in which a Tear Down is handled only where there is no session or
the LTE interface has no address, and Accepts copy nothing across the end of `runtime.haap`, each
request for the LTE tunnel that is handed to `sendmsg` while no tunnel is up is one a freshly started
client would send first, and what `main` accepts from then on comes from the address it was sent to,
until an Accept names another one. -/
theorem fromScratch_of_untorn
    (hrun : RunWhere Step (fun _ => Untorn config) (State.initial config buffer) history state)
    (hguard : Untorn config state input) (hstep : Step state input output next)
    (hlte : output.received.process.runtime.established grecpTuntypeLte = false)
    (hdsl : output.received.process.runtime.established grecpTuntypeDsl = false)
    (message : Message) (sent : Bool)
    (hrequest : .sendmsg .request grecpTuntypeLte message sent ∈ output.effects) :
    FromScratch config message ∧
      ∀ later final,
        RunWhere Step (fun _ state input => Untorn config state input ∧ NamesNoAddress state input)
          next later final →
        final.process.runtime.haap.ip = message.destination := by
  have hforgotten := forgotten_of_run hrun
  have hreceived := (output_of_step hstep).2.1
  rw [hreceived] at hlte hdsl
  have hscratch := fromScratch_of_request hforgotten hguard hstep hlte hdsl hrequest
  refine ⟨hscratch, fun later final hlater => ?_⟩
  rw [hscratch.anycast]
  have hnext := hforgotten.step hguard hstep
  have hstart : next.process.runtime.haap.ip = config.anycastIp := by
    have hdown : staysUp input.answers (receive state input).process.runtime = false := by
      unfold staysUp survives
      rw [hlte, hdsl]
      rfl
    have hsession := session_of_step hstep
    rw [hdown, if_neg Bool.false_ne_true, freshSession_of_settings
      ((settings_receive hguard.contained).trans hforgotten.settings)] at hsession
    exact congrArg Session.ip hsession
  have hkept := hlater.invariant
    (fun _ state => Forgotten config state ∧ state.process.runtime.haap.ip = config.anycastIp)
    ⟨hnext, hstart⟩ fun history state input output next hinv hmeets hstep =>
      ⟨hinv.1.step hmeets.1 hstep, haapIp_of_step hinv.1 hmeets.1 hmeets.2 hstep hinv.2⟩
  exact hkept.2

theorem silence_untorn (state : State) (now : Timeval) : Untorn config state (silence now) :=
  ⟨fun _ hhandled => absurd hhandled (by simp), silence_contained state now⟩

def sessionAccept : List Byte := bareAccept 0x20 ++ [4, 0, 4, 0, 0, 0, 7]

/-- The session is accepted behind the first request, and no hello is answered. -/
def desertion : List Input :=
  [silence ⟨20, 0⟩, datagram sessionAccept ⟨21, 0⟩, silence ⟨40, 0⟩, silence ⟨60, 0⟩,
    silence ⟨80, 0⟩, silence ⟨100, 0⟩]

theorem desertion_untorn :
    RunWhere Step (fun _ => Untorn (.plain false)) (plainStart false)
      (recorded (plainStart false) desertion) (played (plainStart false) desertion) := by
  have haccept : Untorn (.plain false) (iteration (plainStart false) (silence ⟨20, 0⟩))
      (datagram sessionAccept ⟨21, 0⟩) := by
    refine ⟨fun tuntype hhandled => ?_, fun _ _ => ?_⟩
    · have hhandled' : handled (iteration (plainStart false) (silence ⟨20, 0⟩))
          (datagram sessionAccept ⟨21, 0⟩) = some (.accept, grecpTuntypeLte) := by decide +kernel
      exact absurd (hhandled'.symm.trans hhandled) (by simp)
    · decide +kernel
  exact run_played (by decide +kernel) ⟨silence_untorn _ _, haccept, silence_untorn _ _,
    silence_untorn _ _, silence_untorn _ _, silence_untorn _ _, trivial⟩

def startRequest : Message := firstRequest (.plain false) fun _ => 2

/-- At second 100 the session dies, and at second 120 the client starts again. -/
theorem deserted_fromScratch :
    (played (plainStart false) (desertion.take 5)).process.runtime.haap.sessionId = 7 ∧
    FromScratch (.plain false) startRequest ∧
      ∀ later final,
        RunWhere Step
          (fun _ state input => Untorn (.plain false) state input ∧ NamesNoAddress state input)
          (iteration (played (plainStart false) desertion) (silence ⟨120, 0⟩)) later final →
        final.process.runtime.haap.ip = startRequest.destination :=
  ⟨by decide +kernel,
    fromScratch_of_untorn desertion_untorn (silence_untorn _ _)
      (step_outputOf (by decide +kernel) _) (by decide +kernel) (by decide +kernel) startRequest
      true (by decide +kernel)⟩

def bareTeardown : List Byte := [0x20, 0, 1, 1, 0, 0, 0, 0, 0x50]

def sessionState : State :=
  iteration (iteration (plainStart false) (silence ⟨20, 0⟩)) (datagram sessionAccept ⟨21, 0⟩)

/-- Behind the Tear Down the next request goes out in the same iteration, with the Session ID. -/
theorem tornSession_goesOn :
    ∃ history state output next message,
      Run Step (plainStart false) history state ∧
      Step state (datagram bareTeardown ⟨22, 0⟩) output next ∧
      output.received.process.runtime.established grecpTuntypeLte = false ∧
      output.received.process.runtime.established grecpTuntypeDsl = false ∧
      .sendmsg .request grecpTuntypeLte message true ∈ output.effects ∧
      ¬ FromScratch (.plain false) message := by
  have hmessage : .sendmsg .request grecpTuntypeLte
      (requestMessage { sessionState.process.runtime with lte.interfaceIp := fun _ => 2 }
        grecpTuntypeLte) true ∈
      (outputOf sessionState (datagram bareTeardown ⟨22, 0⟩)).effects := by decide +kernel
  refine ⟨_, sessionState, outputOf sessionState (datagram bareTeardown ⟨22, 0⟩), _, _,
    .snoc (.snoc .nil trivial ⟨rfl, rfl, rfl⟩) trivial ⟨by decide, rfl, rfl⟩,
    ⟨by decide +kernel, rfl, rfl⟩, by decide +kernel, by decide +kernel, hmessage, ?_⟩
  intro hscratch
  have hsessionless := hscratch.sessionless
  revert hsessionless
  decide +kernel

end Main

end OpenHybrid

import OpenHybrid.Proof.Footprint

/-!
# One execution of the timers

What `execute_timers` does to the tunnels, the session and the requests, as functions of the process
it finds.
-/

namespace OpenHybrid

open ByteMemory Frame

variable (answers : Answers) {process : Process} {tuntype : Byte}

/-! ### The timers of a tunnel -/

def sendTimer (tuntype : Byte) : Timer :=
  if tuntype = grecpTuntypeLte then .sendLteHello else .sendDslHello

def verifyTimer (tuntype : Byte) : Timer :=
  if tuntype = grecpTuntypeLte then .verifyLteHellos else .verifyDslHellos

def resetTimer (tuntype : Byte) : Timer :=
  if tuntype = grecpTuntypeLte then .resetLteStats else .resetDslStats

/-- The process as an iteration hands it to the timers: nothing has been done yet. -/
def Process.quiet (process : Process) : Process := { process with effects := [] }

@[simp]
theorem Process.quiet_runtime (process : Process) : process.quiet.runtime = process.runtime := rfl

@[simp]
theorem Process.quiet_effects (process : Process) : process.quiet.effects = [] := rfl

/-! ### Tunnel fields -/

theorem tunnel_setTunnel (runtime : Runtime) (tuntype : Byte) (tunnel : Tunnel) :
    (runtime.setTunnel tuntype tunnel).tunnel tuntype = tunnel := by
  unfold Runtime.setTunnel Runtime.tunnel
  split <;> rfl

theorem setLastHelloSent_tunnel (runtime : Runtime) (tuntype : Byte) (tvSec : Int) :
    (runtime.setLastHelloSent tuntype tvSec).tunnel tuntype =
      { runtime.tunnel tuntype with lastHelloSent := tvSec } := by
  unfold Runtime.setLastHelloSent Runtime.tunnel
  split <;> rfl

theorem runtime_emit (process : Process) (effect : Effect) :
    (process.emit effect).runtime = process.runtime := rfl

theorem runtime_sendGrecpmessage (msgtype : Msgtype) (tuntype : Byte) (attributes : List Byte)
    (process : Process) :
    (sendGrecpmessage answers msgtype tuntype attributes process).2.runtime = process.runtime := by
  unfold sendGrecpmessage
  dsimp only
  split <;> rfl

/-! ### Hellos -/

structure HelloReadings where
  due : Reading
  seconds : Reading
  milliseconds : Reading

def helloReadings (tuntype : Byte) : HelloReadings :=
  if tuntype = grecpTuntypeLte then ⟨.lteHelloDue, .lteHelloSeconds, .lteHelloMilliseconds⟩
  else ⟨.dslHelloDue, .dslHelloSeconds, .dslHelloMilliseconds⟩

def helloDue (tuntype : Byte) (runtime : Runtime) : Bool :=
  runtime.established tuntype &&
    decide ((runtime.hellos tuntype).lastHelloSent <
      (answers.uptime (helloReadings tuntype).due).tvSec -
        runtime.parameters.activeHelloInterval.toNat)

def Hellos.unanswered (hellos : Hellos) : Bool :=
  decide (hellos.lastHelloReceived ≠ hellos.lastHelloSent)

def helloSecond (tuntype : Byte) : BitVec 32 :=
  (helloTimestamp (answers.uptime (helloReadings tuntype).seconds)
    (answers.uptime (helloReadings tuntype).milliseconds)).1

/-- The hellos of a tunnel after the next one has been sent if it is due. -/
def nextHellos (tuntype : Byte) (runtime : Runtime) : Hellos :=
  let hellos := runtime.hellos tuntype
  if helloDue answers tuntype runtime then
    { hellos with
      lastHelloSent := (helloSecond answers tuntype).toNat
      missedHellos := if hellos.unanswered then hellos.missedHellos + 1 else hellos.missedHellos }
  else hellos

def survives (tuntype : Byte) (runtime : Runtime) : Bool :=
  runtime.established tuntype &&
    decide ((nextHellos answers tuntype runtime).missedHellos.toNat <
      runtime.parameters.helloRetryTimes.toNat)

theorem helloDue_eq {due seconds milliseconds : Reading} (runtime : Runtime)
    (hreadings : helloReadings tuntype = ⟨due, seconds, milliseconds⟩) :
    helloDue answers tuntype runtime = ((runtime.tunnel tuntype).tunnelEstablished &&
      decide ((runtime.tunnel tuntype).lastHelloSent <
        (answers.uptime due).tvSec - runtime.haap.activeHelloInterval.toNat)) := by
  unfold helloDue
  rw [hreadings]
  rfl

/-- A hello that is due counts the last one, if it was not answered, and takes its time. -/
theorem hellos_sendHello (process : Process) {due seconds milliseconds : Reading}
    (hreadings : helloReadings tuntype = ⟨due, seconds, milliseconds⟩) :
    (sendHello answers tuntype due seconds milliseconds process).runtime.hellos tuntype =
      nextHellos answers tuntype process.runtime := by
  unfold sendHello nextHellos
  dsimp only
  rw [← helloDue_eq answers process.runtime hreadings]
  cases helloDue answers tuntype process.runtime with
  | false => rfl
  | true =>
      simp only [if_true, Hellos.unanswered, decide_eq_true_eq]
      unfold sendGrecphello helloSecond
      rw [hreadings]
      dsimp only [Runtime.hellos]
      rw [setLastHelloSent_tunnel, runtime_sendGrecpmessage]
      by_cases hanswered : (process.runtime.tunnel tuntype).lastHelloReceived =
          (process.runtime.tunnel tuntype).lastHelloSent
      · simp [hanswered]
      · simp [hanswered, Process.setTunnel, tunnel_setTunnel]

/-- The tunnel is given up when too many hellos have been missed. -/
theorem established_verifyHellos (process : Process) (tuntype : Byte) :
    (verifyHellos tuntype process).runtime.established tuntype =
      (process.runtime.established tuntype &&
        decide ((process.runtime.hellos tuntype).missedHellos.toNat <
          process.runtime.parameters.helloRetryTimes.toNat)) := by
  show ((verifyHellos tuntype process).runtime.tunnel tuntype).tunnelEstablished =
    ((process.runtime.tunnel tuntype).tunnelEstablished &&
      decide ((process.runtime.tunnel tuntype).missedHellos.toNat <
        process.runtime.haap.helloRetryTimes.toNat))
  unfold verifyHellos
  dsimp only
  split
  · rename_i hdead
    simp only [Bool.and_eq_true, decide_eq_true_eq] at hdead
    rw [Process.setTunnel, tunnel_setTunnel, decide_eq_false (by omega), Bool.and_false]
  · rename_i hlive
    cases hup : (process.runtime.tunnel tuntype).tunnelEstablished with
    | false => rfl
    | true =>
        rw [hup, Bool.true_and, decide_eq_true_eq] at hlive
        rw [Bool.true_and, decide_eq_true (by omega)]

/-! ### Tunnels -/

/-- What `helloDue`, `nextHellos` and `survives` look at. -/
theorem survives_congr {runtime other : Runtime}
    (hestablished : runtime.established tuntype = other.established tuntype)
    (hhellos : runtime.hellos tuntype = other.hellos tuntype)
    (hparameters : runtime.parameters = other.parameters) :
    survives answers tuntype runtime = survives answers tuntype other ∧
      nextHellos answers tuntype runtime = nextHellos answers tuntype other := by
  have hdue : helloDue answers tuntype runtime = helloDue answers tuntype other := by
    simp only [helloDue, hestablished, hhellos, hparameters]
  have hnext : nextHellos answers tuntype runtime = nextHellos answers tuntype other := by
    simp only [nextHellos, hdue, hhellos]
  refine ⟨?_, hnext⟩
  simp only [survives, hestablished, hnext, hparameters]

theorem hellos_sendTimer (htuntype : IsTuntype tuntype) (process : Process) :
    ((sendTimer tuntype).run answers process).runtime.hellos tuntype =
      nextHellos answers tuntype process.runtime := by
  rcases htuntype with rfl | rfl
  · exact hellos_sendHello answers process rfl
  · exact hellos_sendHello answers process rfl

theorem hellos_after_send (htuntype : IsTuntype tuntype) (hrunning : process.exited = false) :
    (Timer.after answers (sendTimer tuntype) process).runtime.hellos tuntype =
      nextHellos answers tuntype process.runtime := by
  have hagree := Timer.agree_before answers process
    [.parameters, establishedAspect tuntype, hellosAspect tuntype] (sendTimer tuntype)
    (by rcases htuntype with rfl | rfl <;> decide)
  have hestablished := established_eq_of_get htuntype (hagree (establishedAspect tuntype) (by simp))
  have hhellos := hellos_eq_of_get htuntype (hagree (hellosAspect tuntype) (by simp))
  calc
    (Timer.after answers (sendTimer tuntype) process).runtime.hellos tuntype =
        ((sendTimer tuntype).run answers
          (Timer.before answers (sendTimer tuntype) process)).runtime.hellos tuntype := by
      rw [Timer.after_early answers process _ hrunning
        (by rcases htuntype with rfl | rfl <;> decide)]
    _ = nextHellos answers tuntype (Timer.before answers (sendTimer tuntype) process).runtime :=
      hellos_sendTimer answers htuntype _
    _ = nextHellos answers tuntype process.runtime :=
      (survives_congr answers hestablished hhellos (hagree .parameters (by simp))).2

theorem established_verifyTimer (htuntype : IsTuntype tuntype) (process : Process) :
    ((verifyTimer tuntype).run answers process).runtime.established tuntype =
      (process.runtime.established tuntype &&
        decide ((process.runtime.hellos tuntype).missedHellos.toNat <
          process.runtime.parameters.helloRetryTimes.toNat)) := by
  rcases htuntype with rfl | rfl
  · exact established_verifyHellos process _
  · exact established_verifyHellos process _

/-- A tunnel is established behind the timers if it was in front of them and has survived. -/
theorem established_executeTimers (hrunning : process.exited = false)
    (htuntype : IsTuntype tuntype) :
    (executeTimers answers process).runtime.established tuntype =
      survives answers tuntype process.runtime := by
  have hbefore := Timer.agree_before answers process [.parameters, establishedAspect tuntype]
    (verifyTimer tuntype) (by rcases htuntype with rfl | rfl <;> decide)
  have hestablished : (Timer.before answers (verifyTimer tuntype) process).runtime.established
      tuntype = process.runtime.established tuntype :=
    established_eq_of_get htuntype (hbefore (establishedAspect tuntype) (by simp))
  have hparameters : (Timer.before answers (verifyTimer tuntype) process).runtime.parameters =
      process.runtime.parameters := hbefore .parameters (by simp)
  have hbetween := Timer.agree_between answers process [hellosAspect tuntype] (sendTimer tuntype)
    (verifyTimer tuntype) (by rcases htuntype with rfl | rfl <;> decide)
    (by rcases htuntype with rfl | rfl <;> decide)
  have hhellos : (Timer.before answers (verifyTimer tuntype) process).runtime.hellos tuntype =
      nextHellos answers tuntype process.runtime :=
    (hellos_eq_of_get htuntype (hbetween (hellosAspect tuntype) (by simp))).trans
      (hellos_after_send answers htuntype hrunning)
  have hafter := Timer.agree_after answers process [establishedAspect tuntype]
    (verifyTimer tuntype) (by rcases htuntype with rfl | rfl <;> decide)
    (by rcases htuntype with rfl | rfl <;> decide)
  calc
    (executeTimers answers process).runtime.established tuntype =
        (Timer.after answers (verifyTimer tuntype) process).runtime.established tuntype :=
      established_eq_of_get htuntype (hafter (establishedAspect tuntype) (by simp))
    _ = ((verifyTimer tuntype).run answers
          (Timer.before answers (verifyTimer tuntype) process)).runtime.established tuntype := by
      rw [Timer.after_early answers process _ hrunning
        (by rcases htuntype with rfl | rfl <;> decide)]
    _ = survives answers tuntype process.runtime := by
      rw [established_verifyTimer answers htuntype, hestablished, hparameters, hhellos, survives]

/-! ### Hello messages -/

def helloMessage (tuntype : Byte) (runtime : Runtime) : Message :=
  grecpmessage runtime .hello tuntype
    (helloAttributes (helloTimestamp (answers.uptime (helloReadings tuntype).seconds)
      (answers.uptime (helloReadings tuntype).milliseconds)))

def helloEffects (tuntype : Byte) (runtime : Runtime) : List Effect :=
  if helloDue answers tuntype runtime = true ∧
      (helloMessage answers tuntype runtime).source ≠ in6addrAny then
    [.sendmsg .hello tuntype (helloMessage answers tuntype runtime)
      (answers.sendmsg (helloMessage answers tuntype runtime))]
  else []

theorem grecpmessage_setTunnel (runtime : Runtime) (tuntype : Byte) (tunnel : Tunnel)
    (msgtype : Msgtype) (attributes : List Byte) :
    grecpmessage (runtime.setTunnel tuntype tunnel) msgtype tuntype attributes =
      grecpmessage runtime msgtype tuntype attributes := by
  unfold Runtime.setTunnel
  split <;> rfl

theorem effects_sendGrecphello (tuntype : Byte) (seconds milliseconds : Timeval)
    (process : Process) :
    (sendGrecphello answers tuntype seconds milliseconds process).2.effects = process.effects ++
      let message := grecpmessage process.runtime .hello tuntype
        (helloAttributes (helloTimestamp seconds milliseconds))
      if message.source ≠ in6addrAny then
        [.sendmsg .hello tuntype message (answers.sendmsg message)]
      else [] := by
  unfold sendGrecphello sendGrecpmessage
  dsimp only
  split
  · rfl
  · exact (List.append_nil _).symm

theorem effects_sendHello (process : Process) {due seconds milliseconds : Reading}
    (hreadings : helloReadings tuntype = ⟨due, seconds, milliseconds⟩) :
    (sendHello answers tuntype due seconds milliseconds process).effects =
      process.effects ++ helloEffects answers tuntype process.runtime := by
  unfold sendHello helloEffects
  dsimp only
  rw [← helloDue_eq answers process.runtime hreadings]
  cases helloDue answers tuntype process.runtime with
  | false => simp
  | true =>
      simp only [if_true, true_and]
      rw [effects_sendGrecphello]
      unfold helloMessage
      rw [hreadings]
      split
      · rw [Process.setTunnel, grecpmessage_setTunnel]
      · rfl

theorem grecpmessage_congr {runtime other : Runtime} (hsession : runtime.session = other.session)
    (hlte : runtime.lte.interfaceIp = other.lte.interfaceIp)
    (hdsl : runtime.dsl.interfaceIp = other.dsl.interfaceIp) (msgtype : Msgtype) (tuntype : Byte)
    (attributes : List Byte) :
    grecpmessage runtime msgtype tuntype attributes =
      grecpmessage other msgtype tuntype attributes := by
  have hip : runtime.haap.ip = other.haap.ip := congrArg Session.ip hsession
  have hkey : runtime.haap.bondingKey = other.haap.bondingKey :=
    congrArg Session.bondingKey hsession
  simp only [grecpmessage, hip, hkey, hlte, hdsl]

theorem helloEffects_congr {runtime other : Runtime}
    (hestablished : runtime.established tuntype = other.established tuntype)
    (hhellos : runtime.hellos tuntype = other.hellos tuntype)
    (hparameters : runtime.parameters = other.parameters)
    (hsession : runtime.session = other.session)
    (hinterfaces : (runtime.lte.interfaceIp, runtime.dsl.interfaceIp) =
      (other.lte.interfaceIp, other.dsl.interfaceIp)) :
    helloEffects answers tuntype runtime = helloEffects answers tuntype other := by
  obtain ⟨hlte, hdsl⟩ := Prod.mk.inj hinterfaces
  have hdue : helloDue answers tuntype runtime = helloDue answers tuntype other := by
    simp only [helloDue, hestablished, hhellos, hparameters]
  have hmessage : helloMessage answers tuntype runtime = helloMessage answers tuntype other :=
    grecpmessage_congr hsession hlte hdsl _ _ _
  simp only [helloEffects, hdue, hmessage]

theorem ofKind_helloEffects (tuntype : Byte) (runtime : Runtime) :
    ofKind .hello (helloEffects answers tuntype runtime) =
      helloEffects answers tuntype runtime := by
  unfold helloEffects
  split <;> rfl

theorem updateInterfaceIps_runtime_congr {process other : Process}
    (hruntime : process.runtime = other.runtime) :
    (updateInterfaceIps answers process).runtime = (updateInterfaceIps answers other).runtime := by
  simp only [updateInterfaceIps, hruntime, apply_ite Process.runtime]

theorem helloDue_updateInterfaceIps (tuntype : Byte) (process : Process) :
    helloDue answers tuntype (updateInterfaceIps answers process).runtime =
      helloDue answers tuntype process.runtime := by
  unfold updateInterfaceIps
  dsimp only
  split <;> (unfold helloDue Runtime.established Runtime.hellos Runtime.tunnel; split <;> rfl)

theorem after_updateInterfaceIps (process : Process) (hrunning : process.exited = false) :
    Timer.after answers .updateInterfaceIps process = updateInterfaceIps answers process :=
  Timer.after_early answers process _ hrunning (by decide)

/-- What a hello is made of is settled once the addresses are known. -/
theorem helloEffects_before (process : Process) (hrunning : process.exited = false) :
    helloEffects answers grecpTuntypeLte (Timer.before answers .sendLteHello process).runtime =
        helloEffects answers grecpTuntypeLte (updateInterfaceIps answers process).runtime ∧
      helloEffects answers grecpTuntypeDsl (Timer.before answers .sendDslHello process).runtime =
        helloEffects answers grecpTuntypeDsl (updateInterfaceIps answers process).runtime := by
  have hlte := Timer.agree_between answers process
    [.parameters, .session, .interfaceIps, .lteEstablished, .lteHellos] .updateInterfaceIps
    .sendLteHello (by decide) (by decide)
  have hdsl := Timer.agree_between answers process
    [.parameters, .session, .interfaceIps, .dslEstablished, .dslHellos] .updateInterfaceIps
    .sendDslHello (by decide) (by decide)
  rw [after_updateInterfaceIps answers process hrunning] at hlte hdsl
  constructor
  · exact helloEffects_congr answers (hlte .lteEstablished (by simp)) (hlte .lteHellos (by simp))
      (hlte .parameters (by simp)) (hlte .session (by simp)) (hlte .interfaceIps (by simp))
  · exact helloEffects_congr answers (hdsl .dslEstablished (by simp)) (hdsl .dslHellos (by simp))
      (hdsl .parameters (by simp)) (hdsl .session (by simp)) (hdsl .interfaceIps (by simp))

/-- The hellos of an execution: first that of the LTE tunnel, then that of the DSL tunnel. -/
theorem hellos_sent_executeTimers (process : Process) (hrunning : process.exited = false) :
    ofKind .hello (executeTimers answers process).effects =
      ofKind .hello process.effects ++
        helloEffects answers grecpTuntypeLte (updateInterfaceIps answers process).runtime ++
        helloEffects answers grecpTuntypeDsl (updateInterfaceIps answers process).runtime := by
  obtain ⟨hlte, hdsl⟩ := helloEffects_before answers process hrunning
  have hsent : ∀ (timer : Timer) (effects : List Effect),
      (Timer.after answers timer process).effects =
        (Timer.before answers timer process).effects ++ effects →
      ofKind .hello (Timer.after answers timer process).effects =
        ofKind .hello (Timer.before answers timer process).effects ++ ofKind .hello effects := by
    intro timer effects heffects
    rw [heffects, ofKind, List.filter_append]
    rfl
  have hlteSent : (Timer.after answers .sendLteHello process).effects =
      (Timer.before answers .sendLteHello process).effects ++ helloEffects answers grecpTuntypeLte
        (Timer.before answers .sendLteHello process).runtime := by
    rw [Timer.after_early answers process _ hrunning (by decide)]
    exact effects_sendHello answers _ rfl
  have hdslSent : (Timer.after answers .sendDslHello process).effects =
      (Timer.before answers .sendDslHello process).effects ++ helloEffects answers grecpTuntypeDsl
        (Timer.before answers .sendDslHello process).runtime := by
    rw [Timer.after_early answers process _ hrunning (by decide)]
    exact effects_sendHello answers _ rfl
  calc
    ofKind .hello (executeTimers answers process).effects =
        ofKind .hello (Timer.after answers .sendDslHello process).effects :=
      Timer.agree_after answers process [.effects .hello] .sendDslHello (by decide) (by decide)
        (.effects .hello) (by simp)
    _ = ofKind .hello (Timer.after answers .sendLteHello process).effects ++
          helloEffects answers grecpTuntypeDsl (updateInterfaceIps answers process).runtime := by
      rw [hsent _ _ hdslSent, hdsl, ofKind_helloEffects]
      exact congrArg (· ++ _) (Timer.agree_between answers process [.effects .hello] .sendLteHello
        .sendDslHello (by decide) (by decide) (.effects .hello) (by simp))
    _ = _ := by
      rw [hsent _ _ hlteSent, hlte, ofKind_helloEffects]
      exact congrArg (fun effects => effects ++ _ ++ _) (Timer.agree_before answers process
        [.effects .hello] .sendLteHello (by decide) (.effects .hello) (by simp))

/-- A tunnel that is down is forgotten as long as there is a device. -/
def keptHellos (tuntype : Byte) (runtime : Runtime) : Hellos :=
  if survives answers tuntype runtime = false ∧ runtime.tunnelInterfaceCreated = true then ⟨0, 0, 0⟩
  else nextHellos answers tuntype runtime

theorem hellos_resetTimer (htuntype : IsTuntype tuntype) (process : Process) :
    ((resetTimer tuntype).run answers process).runtime.hellos tuntype =
      if process.runtime.established tuntype = false ∧
          process.runtime.tunnelInterfaceCreated = true then ⟨0, 0, 0⟩
      else process.runtime.hellos tuntype := by
  have hreset : ∀ {up created : Bool} {forgotten : Process},
      forgotten.runtime.hellos tuntype = ⟨0, 0, 0⟩ →
      (if !up && created then forgotten else process).runtime.hellos tuntype =
        if up = false ∧ created = true then ⟨0, 0, 0⟩ else process.runtime.hellos tuntype := by
    intro up created forgotten hforgotten
    cases up <;> cases created <;> first | rfl | exact hforgotten
  rcases htuntype with rfl | rfl
  · exact hreset rfl
  · exact hreset rfl

/-- **The hellos behind an execution.** -/
theorem hellos_executeTimers (hrunning : process.exited = false) (htuntype : IsTuntype tuntype) :
    (executeTimers answers process).runtime.hellos tuntype =
      keptHellos answers tuntype process.runtime := by
  have hfrom := Timer.agree_from answers process [establishedAspect tuntype] (resetTimer tuntype)
    (by rcases htuntype with rfl | rfl <;> decide)
  have hestablished : (Timer.before answers (resetTimer tuntype) process).runtime.established
      tuntype = survives answers tuntype process.runtime :=
    (established_eq_of_get htuntype (hfrom (establishedAspect tuntype) (by simp))).symm.trans
      (established_executeTimers answers hrunning htuntype)
  have hcreated : (Timer.before answers (resetTimer tuntype) process).runtime.tunnelInterfaceCreated =
      process.runtime.tunnelInterfaceCreated :=
    Timer.agree_before answers process [.created] (resetTimer tuntype)
      (by rcases htuntype with rfl | rfl <;> decide) .created (by simp)
  have hbetween := Timer.agree_between answers process [hellosAspect tuntype] (sendTimer tuntype)
    (resetTimer tuntype) (by rcases htuntype with rfl | rfl <;> decide)
    (by rcases htuntype with rfl | rfl <;> decide)
  have hhellos : (Timer.before answers (resetTimer tuntype) process).runtime.hellos tuntype =
      nextHellos answers tuntype process.runtime :=
    (hellos_eq_of_get htuntype (hbetween (hellosAspect tuntype) (by simp))).trans
      (hellos_after_send answers htuntype hrunning)
  have hafter := Timer.agree_after answers process [hellosAspect tuntype] (resetTimer tuntype)
    (by rcases htuntype with rfl | rfl <;> decide) (by rcases htuntype with rfl | rfl <;> decide)
  calc
    (executeTimers answers process).runtime.hellos tuntype =
        (Timer.after answers (resetTimer tuntype) process).runtime.hellos tuntype :=
      hellos_eq_of_get htuntype (hafter (hellosAspect tuntype) (by simp))
    _ = ((resetTimer tuntype).run answers
          (Timer.before answers (resetTimer tuntype) process)).runtime.hellos tuntype := by
      rw [Timer.after_early answers process _ hrunning
        (by rcases htuntype with rfl | rfl <;> decide)]
    _ = keptHellos answers tuntype process.runtime := by
      rw [hellos_resetTimer answers htuntype, hestablished, hcreated, hhellos, keptHellos]

/-! ### Requests -/

def requested (runtime : Runtime) : Option Byte :=
  if runtime.established grecpTuntypeLte = false then some grecpTuntypeLte
  else if runtime.bonding = true ∧ runtime.established grecpTuntypeDsl = false then
    some grecpTuntypeDsl
  else none

def requestMessage (runtime : Runtime) (tuntype : Byte) : Message :=
  grecpmessage runtime .request tuntype (requestAttributes runtime tuntype)

def requestEffects (runtime : Runtime) : List Effect :=
  match requested runtime with
  | none => []
  | some tuntype =>
      let message := requestMessage runtime tuntype
      if message.source ≠ in6addrAny then
        [.sendmsg .request tuntype message (answers.sendmsg message)]
      else []

theorem effects_sendGrecprequest (tuntype : Byte) (process : Process) :
    (sendGrecprequest answers tuntype process).2.effects = process.effects ++
      (if (requestMessage process.runtime tuntype).source ≠ in6addrAny then
        [.sendmsg .request tuntype (requestMessage process.runtime tuntype)
          (answers.sendmsg (requestMessage process.runtime tuntype))]
      else []) := by
  unfold sendGrecprequest sendGrecpmessage requestMessage
  dsimp only
  split
  · rfl
  · exact (List.append_nil _).symm

theorem effects_connect (process : Process) :
    (connect answers process).effects =
      process.effects ++ requestEffects answers process.runtime := by
  unfold connect requestEffects requested Runtime.established Runtime.tunnel
  cases hlte : process.runtime.lte.tunnelEstablished with
  | false => simp [effects_sendGrecprequest]
  | true =>
      cases hbonding : process.runtime.bonding with
      | false => simp
      | true =>
          have hother : grecpTuntypeDsl ≠ grecpTuntypeLte := by decide
          cases hdsl : process.runtime.dsl.tunnelEstablished with
          | false => simp [effects_sendGrecprequest, hother]
          | true => simp [hother]

/-- **The requests of an execution.** One at most, for the tunnel that is to be asked for. -/
theorem requests_executeTimers (process : Process) (hrunning : process.exited = false) :
    ofKind .request (executeTimers answers process).effects =
      ofKind .request process.effects ++
        requestEffects answers (updateInterfaceIps answers process).runtime := by
  have hbefore : Timer.before answers .connect process = updateInterfaceIps answers process := by
    show (if process.exited = true then process else _) = _
    rw [hrunning]
    rfl
  have hkind : ∀ runtime, ofKind .request (requestEffects answers runtime) =
      requestEffects answers runtime := by
    intro runtime
    unfold requestEffects
    cases requested runtime with
    | none => rfl
    | some tuntype =>
        dsimp only
        split <;> rfl
  have hinterfaces : (updateInterfaceIps answers process).effects = process.effects := by
    unfold updateInterfaceIps
    dsimp only
    split <;> rfl
  calc
    ofKind .request (executeTimers answers process).effects =
        ofKind .request (Timer.after answers .connect process).effects :=
      Timer.agree_after answers process [.effects .request] .connect (by decide) (by decide)
        (.effects .request) (by simp)
    _ = ofKind .request (connect answers (updateInterfaceIps answers process)).effects := by
      rw [Timer.after_early answers process _ hrunning (by decide), hbefore]
      rfl
    _ = ofKind .request process.effects ++
        requestEffects answers (updateInterfaceIps answers process).runtime := by
      rw [effects_connect, hinterfaces, ofKind, List.filter_append]
      exact congrArg _ (hkind _)

/-! ### The session -/

def staysUp (runtime : Runtime) : Bool :=
  survives answers grecpTuntypeLte runtime || survives answers grecpTuntypeDsl runtime

def freshSession (runtime : Runtime) : Session := ⟨runtime.settings.anycastIp, 0, 0⟩

theorem resetSession_of_up
    (hup : (process.runtime.established grecpTuntypeLte ||
      process.runtime.established grecpTuntypeDsl) = true) :
    resetSession answers process = process := by
  have hcondition : ¬ ((!process.runtime.lte.tunnelEstablished &&
      !process.runtime.dsl.tunnelEstablished) = true) := by
    change (process.runtime.lte.tunnelEstablished || process.runtime.dsl.tunnelEstablished) = true
      at hup
    cases hlte : process.runtime.lte.tunnelEstablished <;> simp_all
  rw [resetSession, if_neg hcondition]

def forgetSession (process : Process) : Process :=
  { process with
    runtime.haap.ip := process.runtime.haap.anycastIp
    runtime.haap.bondingKey := 0
    runtime.haap.sessionId := 0
    runtime.haap.commitCount := 0
    runtime.filterListAcked := false }

theorem resetSession_of_down
    (hdown : (process.runtime.established grecpTuntypeLte ||
      process.runtime.established grecpTuntypeDsl) = false) :
    resetSession answers process =
      resetDhcp6 answers (resetDhcp answers (forgetSession process)) := by
  have hcondition : (!process.runtime.lte.tunnelEstablished &&
      !process.runtime.dsl.tunnelEstablished) = true := by
    change (process.runtime.lte.tunnelEstablished || process.runtime.dsl.tunnelEstablished) = false
      at hdown
    cases hlte : process.runtime.lte.tunnelEstablished <;> simp_all
  rw [resetSession, if_pos hcondition]
  rfl

/-- In front of a late timer the tunnels are what they will be at the end. -/
theorem established_before (timer : Timer) (hrunning : process.exited = false)
    (hlate : ∀ other ∈ Timer.all.dropWhile (· ≠ timer),
      ∀ aspect ∈ [Aspect.lteEstablished, .dslEstablished], aspect ∉ other.footprint) :
    (Timer.before answers timer process).runtime.established grecpTuntypeLte =
        survives answers grecpTuntypeLte process.runtime ∧
      (Timer.before answers timer process).runtime.established grecpTuntypeDsl =
        survives answers grecpTuntypeDsl process.runtime := by
  have hagree := Timer.agree_from answers process [.lteEstablished, .dslEstablished] timer hlate
  constructor
  · exact (hagree .lteEstablished (by simp)).symm.trans
      (established_executeTimers answers hrunning (.inl rfl))
  · exact (hagree .dslEstablished (by simp)).symm.trans
      (established_executeTimers answers hrunning (.inr rfl))

/-- Without a tunnel the session is forgotten. -/
theorem session_resetSession (process : Process) :
    (resetSession answers process).runtime.session =
      if (process.runtime.established grecpTuntypeLte ||
          process.runtime.established grecpTuntypeDsl) = true then process.runtime.session
      else freshSession process.runtime := by
  split
  · rename_i hup
    rw [resetSession_of_up answers hup]
  · rename_i hdown
    rw [resetSession_of_down answers (Bool.eq_false_of_not_eq_true hdown)]
    exact (within_resetDhcp6 answers _ .session (by decide)).trans
      (within_resetDhcp answers (forgetSession process) .session (by decide))

/-- The session is kept as long as a tunnel is up, and forgotten when none is. -/
theorem session_executeTimers (hrunning : process.exited = false) :
    (executeTimers answers process).runtime.session =
      if staysUp answers process.runtime then process.runtime.session
      else freshSession process.runtime := by
  have hbefore := Timer.agree_before answers process [.settings, .session] .resetSession (by decide)
  have hsession : (Timer.before answers .resetSession process).runtime.session =
      process.runtime.session := hbefore .session (by simp)
  have hfresh : freshSession (Timer.before answers .resetSession process).runtime =
      freshSession process.runtime := by
    have hsettings : (Timer.before answers .resetSession process).runtime.settings =
      process.runtime.settings := hbefore .settings (by simp)
    rw [freshSession, freshSession, hsettings]
  obtain ⟨hlte, hdsl⟩ := established_before answers .resetSession hrunning (by decide)
  calc
    (executeTimers answers process).runtime.session =
        (Timer.after answers .resetSession process).runtime.session :=
      Timer.agree_after answers process [.session] .resetSession (by decide) (by decide)
        .session (by simp)
    _ = (resetSession answers (Timer.before answers .resetSession process)).runtime.session := by
      rw [Timer.after_early answers process _ hrunning (by decide)]
      rfl
    _ = _ := by
      rw [session_resetSession, hlte, hdsl, hsession, hfresh]
      rfl

/-! ### Exits -/

theorem exited_before_signals (hrunning : process.exited = false)
    (hbonding : process.runtime.bonding = false) :
    (Timer.before answers .handleSignals process).exited = false := by
  have hsettings : (Timer.before answers .startThreads process).runtime.settings =
      process.runtime.settings :=
    Timer.agree_before answers process [.settings] .startThreads (by decide) .settings (by simp)
  have hoff : (Timer.before answers .startThreads process).runtime.bonding = false :=
    (congrArg Settings.bonding hsettings).trans hbonding
  have hthreads : startThreads answers (Timer.before answers .startThreads process) =
      Timer.before answers .startThreads process := by
    unfold startThreads
    rw [hoff]
    rfl
  calc
    (Timer.before answers .handleSignals process).exited =
        (Timer.after answers .startThreads process).exited :=
      Timer.agree_between answers process [.exited] .startThreads .handleSignals (by decide)
        (by decide) .exited (by simp)
    _ = (startThreads answers (Timer.before answers .startThreads process)).exited := by
      rw [Timer.after_early answers process _ hrunning (by decide)]
      rfl
    _ = false := by
      rw [hthreads]
      exact (Timer.agree_before answers process [.exited] .startThreads (by decide) .exited
        (by simp)).trans hrunning

/-- Without bonding and without a signal the process goes on. -/
theorem exited_executeTimers (hrunning : process.exited = false)
    (hbonding : process.runtime.bonding = false) (hsignal : process.runtime.signal = 0)
    (hnone : answers.signal = none) :
    (executeTimers answers process).exited = false ∧
      (executeTimers answers process).runtime.signal = 0 := by
  have hbefore := exited_before_signals answers hrunning hbonding
  have hquiet : (Timer.before answers .handleSignals process).runtime.signal = 0 :=
    (Timer.agree_before answers process [.signal] .handleSignals (by decide) .signal
      (by simp)).trans hsignal
  have hlast := Timer.agree_after answers process [.exited, .signal] .handleSignals (by decide)
    (by decide)
  have hafter : Timer.after answers .handleSignals process =
      { Timer.before answers .handleSignals process with
        runtime.signal := (Timer.before answers .handleSignals process).runtime.signal } := by
    refine (leaving_of_not_done hbefore).trans ?_
    show handleSignals answers (Timer.before answers .handleSignals process) = _
    unfold handleSignals
    dsimp only
    rw [hnone, Option.getD_none, hquiet]
    rfl
  constructor
  · refine (hlast .exited (by simp)).trans ?_
    rw [hafter]
    exact hbefore
  · refine (hlast .signal (by simp)).trans ?_
    rw [hafter]
    exact hquiet

/-! ### A plain surrounding -/

def ClientAnswers.plain : ClientAnswers where
  pipe := false
  fork := -1
  uninitialized := 0
  waitpid := none
  read := none

def Answers.plain (now : Timeval) : Answers where
  getPrimaryIp6 _ := fun _ => 2
  sendmsg _ := true
  uptime _ := now
  netlink := .acknowledged
  tun := ⟨3, true, true, true⟩
  greSocket := ⟨4, true, true⟩
  gre2tunThread := ⟨true, 5⟩
  tun2greThread := ⟨true, 6⟩
  kill _ := true
  udhcpc := ClientAnswers.plain
  udhcpc6 := ClientAnswers.plain
  inetPton _ := none
  inetPton6 _ := none
  signal := none

def Config.plain (bonding : Bool) : Config where
  anycastIp := fun _ => 1
  activeHelloInterval := 10
  helloRetryTimes := 3
  bonding := bonding
  logLevel := 0
  tunnelInterfaceMtu := 1452
  tunnelInterfaceName := fun _ => 0
  eventScriptPath := fun _ => 0
  reorderBufferTimeout := ⟨0, 0⟩
  lteInterfaceName := fun _ => 0
  dslInterfaceName := fun _ => 0

end OpenHybrid

import OpenHybrid.Proof.Emission
import OpenHybrid.Proof.SetUp

/-!
# How the process ends

The process ends for one of two reasons: the data socket cannot be opened, or a signal asks for it.
Nothing happens behind the end. In the second case the script is told before, and what was set up for
bonding is taken down again.
-/

namespace OpenHybrid

open ByteMemory Frame Transition

variable {answers : Answers} {process other : Process}

/-! ### The last effects -/

def farewell (runtime : Runtime) (success : Bool) : List Effect :=
  if success && runtime.scripted then [.event .shutdown, .exit success] else [.exit success]

def GreSocketAnswers.refused (socket : GreSocketAnswers) : Bool :=
  decide (socket.fd < 0) || !socket.soRcvTimeo

/-- How an execution ends: only in front of the last timer, or by a shutdown. -/
inductive Outcome (answers : Answers) (before after : Process) : Prop
  | goesOn (hrunning : after.exited = false) (hsignal : after.runtime.signal = 0)
      (hreached : after.effects = (Timer.before answers .handleSignals before).effects)
      (hnone : ofKind .lifecycle after.effects = ofKind .lifecycle before.effects)
  | fails (hexited : after.exited = true)
      (hreached : after.effects = (Timer.before answers .handleSignals before).effects)
      (front : List Effect) (heffects : after.effects = front ++ farewell after.runtime false)
      (hfront : ofKind .lifecycle front = ofKind .lifecycle before.effects)
      (hbonding : before.runtime.bonding = true) (hrefused : answers.greSocket.refused = true)
  | obeys (signal : Int)
      (hshutdown : after = shutdown answers
        { Timer.before answers .handleSignals before with runtime.signal := signal })
      (front : List Effect) (heffects : after.effects = front ++ farewell after.runtime true)
      (hfront : ofKind .lifecycle front = ofKind .lifecycle before.effects)
      (hterminating : terminating answers before.runtime = true)

def GoesOn (before after : Process) : Prop :=
  after.exited = false ∧ ofKind .lifecycle after.effects = ofKind .lifecycle before.effects

theorem GoesOn.within {middle : Process} {footprint : List Aspect} (hgoes : GoesOn process middle)
    (hwithin : Within footprint middle other) (hexited : .exited ∉ footprint)
    (hlifecycle : .effects .lifecycle ∉ footprint) : GoesOn process other :=
  ⟨(hwithin .exited hexited).trans hgoes.1,
    (hwithin (.effects .lifecycle) hlifecycle).trans hgoes.2⟩

theorem openGreSocket_outcome (answers : Answers) (process : Process)
    (hrunning : process.exited = false) :
    GoesOn process (openGreSocket answers process) ∨
      ((openGreSocket answers process).exited = true ∧ answers.greSocket.refused = true ∧
        (openGreSocket answers process).effects = process.effects ++ [.exit false]) := by
  unfold openGreSocket GreSocketAnswers.refused
  dsimp only
  by_cases hfd : answers.greSocket.fd < 0
  · rw [if_pos hfd]
    exact Or.inr ⟨rfl, by simp [hfd], rfl⟩
  · rw [if_neg hfd]
    cases hset : answers.greSocket.soRcvTimeo with
    | false => exact Or.inr ⟨rfl, by simp, rfl⟩
    | true =>
        have hopened : GoesOn process { process with sockfdGre := answers.greSocket.fd } :=
          ⟨hrunning, rfl⟩
        have hemitted : ∀ filter, Within [.effects .greSocket]
            { process with sockfdGre := answers.greSocket.fd }
            (({ process with sockfdGre := answers.greSocket.fd } : Process).emit
              (.greSocketOpened answers.greSocket.fd filter)) :=
          fun filter => within_emit _ (by simp [Effect.kind])
        exact Or.inl (hopened.within (hemitted _) (by decide) (by decide))

/-- The threads are started, or the refused socket ends the process. -/
theorem startThreads_outcome (answers : Answers) (process : Process)
    (hrunning : process.exited = false) :
    GoesOn process (startThreads answers process) ∨
      ((startThreads answers process).exited = true ∧ process.runtime.bonding = true ∧
        answers.greSocket.refused = true ∧
        (startThreads answers process).effects = process.effects ++ [.exit false]) := by
  have hboth : ∀ middle : Process, GoesOn process middle →
      GoesOn process (startTun2gre answers (startGre2tun answers middle)) := fun middle hgoes =>
    hgoes.within (within_startBoth answers middle) (by decide) (by decide)
  unfold startThreads
  dsimp only
  cases hbonding : process.runtime.bonding with
  | false => exact Or.inl ⟨hrunning, rfl⟩
  | true =>
      cases hcreated : process.runtime.tunnelInterfaceCreated with
      | false => exact Or.inl ⟨hrunning, rfl⟩
      | true =>
          rw [Bool.and_true, if_pos rfl]
          by_cases hclosed : process.sockfdGre = 0
          · rw [if_pos hclosed]
            rcases openGreSocket_outcome answers process hrunning with
              hgoes | ⟨hexited, hrefused, heffects⟩
            · rw [hgoes.1, if_neg Bool.false_ne_true]
              exact Or.inl (hboth _ hgoes)
            · rw [hexited, if_pos rfl]
              exact Or.inr ⟨hexited, rfl, hrefused, heffects⟩
          · rw [if_neg hclosed, hrunning, if_neg Bool.false_ne_true]
            exact Or.inl (hboth process ⟨hrunning, rfl⟩)

theorem handleSignals_of_terminating (hterminating : terminating answers process.runtime = true) :
    handleSignals answers process = shutdown answers
      { process with runtime.signal := answers.signal.getD process.runtime.signal } := by
  have hends := of_decide_eq_true hterminating
  have hsome : answers.signal.getD process.runtime.signal ≠ 0 := by
    rcases hends with hends | hends <;> rw [hends] <;> decide
  unfold handleSignals
  dsimp only
  rw [if_pos hsome, if_pos hends]

theorem handleSignals_of_not_terminating
    (hquiet : terminating answers process.runtime = false) :
    handleSignals answers process = { process with runtime.signal := 0 } := by
  have hnone := of_decide_eq_false hquiet
  unfold handleSignals
  dsimp only
  rw [if_neg hnone]
  by_cases hzero : answers.signal.getD process.runtime.signal = 0
  · rw [if_neg (not_not.mpr hzero), hzero]
  · rw [if_pos hzero]

theorem sayGoodbye_effects (answers : Answers) (process : Process) :
    ∃ front, (sayGoodbye answers process).effects =
        front ++ farewell (sayGoodbye answers process).runtime true ∧
      ofKind .lifecycle front = ofKind .lifecycle process.effects := by
  let spoken := if process.runtime.lte.tunnelEstablished && process.runtime.dsl.tunnelEstablished then
      (sendGrecpnotifyLinkfailure answers grecpTuntypeDsl
        (sendGrecpnotifyLinkfailure answers grecpTuntypeLte process).2).2
    else process
  have hgoodbye : sayGoodbye answers process = (triggerEvent .shutdown spoken).exit true := rfl
  have hruntime : (sayGoodbye answers process).runtime = spoken.runtime := by
    rw [hgoodbye]
    exact runtime_triggerEvent _ _
  have hsilent : Within [.effects (.notify msgattrDslLinkFailure),
      .effects (.notify msgattrLteLinkFailure)] process spoken :=
    within_if process (Within.trans (within_sendNotify answers process (by decide))
      (within_sendNotify answers _ (by decide)))
  refine ⟨spoken.effects, ?_, hsilent (.effects .lifecycle) (by decide)⟩
  rw [hruntime, hgoodbye]
  show (triggerEvent .shutdown spoken).effects ++ [.exit true] = _
  rw [effects_triggerEvent, List.append_assoc]
  congr 1
  unfold farewell
  cases spoken.runtime.scripted <;> rfl

/-- A shutdown ends in the farewell, and nothing before it looks like one. -/
theorem shutdown_effects (answers : Answers) (process : Process) :
    ∃ front, (shutdown answers process).effects =
        front ++ farewell (shutdown answers process).runtime true ∧
      ofKind .lifecycle front = ofKind .lifecycle process.effects := by
  rw [shutdown_eq]
  obtain ⟨front, heffects, hfront⟩ := sayGoodbye_effects answers
    (removeDevice answers (endLeases (killClients answers process)))
  have hwithin : Within [.effects .client, .effects .dhcpEvent, .effects .dhcp6Event,
      .effects .greSocket, .effects .thread, .effects .device] process
      (removeDevice answers (endLeases (killClients answers process))) :=
    (((within_killClients answers process).mono (by simp)).trans
      ((within_endLeases _).mono (by simp))).trans ((within_removeDevice answers _).mono (by simp))
  exact ⟨front, heffects, hfront.trans (hwithin (.effects .lifecycle) (by decide))⟩

/-- **One execution.** It goes on, or ends in one of two ways. -/
theorem outcome_executeTimers (answers : Answers) (process : Process)
    (hrunning : process.exited = false) :
    Outcome answers process (executeTimers answers process) := by
  have hstart := Timer.agree_before answers process [.settings, .exited, .effects .lifecycle]
    .startThreads (by decide)
  have hbonding : (Timer.before answers .startThreads process).runtime.bonding =
      process.runtime.bonding := congrArg Settings.bonding (hstart .settings (by simp))
  have hnone : ofKind .lifecycle (Timer.before answers .startThreads process).effects =
      ofKind .lifecycle process.effects := hstart (.effects .lifecycle) (by simp)
  have hthreads : Timer.after answers .startThreads process =
      startThreads answers (Timer.before answers .startThreads process) :=
    Timer.after_early answers process .startThreads hrunning (by decide)
  have hbetween := Timer.agree_between answers process [.exited, .effects .lifecycle] .startThreads
    .handleSignals (by decide) (by decide)
  rcases startThreads_outcome answers _
    ((hstart .exited (by simp)).trans hrunning) with hgoes | ⟨hexited, hbonded, hrefused, heffects⟩
  · rw [← hthreads] at hgoes
    have hreached : (Timer.before answers .handleSignals process).exited = false :=
      (hbetween .exited (by simp)).trans hgoes.1
    have hquiet : ofKind .lifecycle (Timer.before answers .handleSignals process).effects =
        ofKind .lifecycle process.effects :=
      (hbetween (.effects .lifecycle) (by simp)).trans (hgoes.2.trans hnone)
    have hsignal : (Timer.before answers .handleSignals process).runtime.signal =
        process.runtime.signal :=
      Timer.agree_before answers process [.signal] .handleSignals (by decide) .signal (by simp)
    have hsame : terminating answers (Timer.before answers .handleSignals process).runtime =
        terminating answers process.runtime := by
      unfold terminating
      rw [hsignal]
    have hend : executeTimers answers process =
        handleSignals answers (Timer.before answers .handleSignals process) := by
      rw [← after_handleSignals]
      exact leaving_of_not_done hreached
    rw [hend]
    cases hterminating : terminating answers process.runtime with
    | false =>
        rw [handleSignals_of_not_terminating (hsame.trans hterminating)]
        exact .goesOn hreached rfl rfl hquiet
    | true =>
        rw [handleSignals_of_terminating (hsame.trans hterminating)]
        obtain ⟨front, heffects, hfront⟩ := shutdown_effects answers
          { Timer.before answers .handleSignals process with
            runtime.signal := answers.signal.getD
              (Timer.before answers .handleSignals process).runtime.signal }
        exact .obeys _ rfl front heffects (hfront.trans hquiet) hterminating
  · -- nothing runs behind a socket that was refused
    rw [← hthreads] at hexited heffects
    have hend : executeTimers answers process = Timer.after answers .startThreads process := by
      rw [executeTimers_eq]
      exact runUntil_of_leaving_done (by decide : Timer.all = Timer.all.takeWhile (· ≠ .startThreads) ++
        .startThreads :: (Timer.all.dropWhile (· ≠ .startThreads)).tail) hexited
    have hreached : executeTimers answers process = Timer.before answers .handleSignals process := by
      rw [← after_handleSignals]
      exact leaving_of_done ((hbetween .exited (by simp)).trans hexited)
    refine .fails ?_ (congrArg Process.effects hreached) _ ?_ hnone
      (hbonding.symm.trans hbonded) hrefused
    · rw [hend]
      exact hexited
    · rw [hend]
      exact heffects

namespace Main

variable {config : Config} {buffer : Memory} {state next : State} {input : Input} {output : Output}
  {history : History Input Output}

/-- Why an iteration is the last one. -/
def Cause (input : Input) (output : Output) (success : Bool) : Prop :=
  if success then input.answers.signal = some sigint ∨ input.answers.signal = some sigterm
  else output.received.process.runtime.bonding = true ∧ input.answers.greSocket.refused = true

/-- The process runs and nothing looked like its end, or its last iteration has ended it. -/
inductive Ended (history : History Input Output) (state : State) : Prop
  | running (hrunning : state.process.exited = false)
      (hnone : ofKind .lifecycle (effectsOf history) = [])
  | ended (hexited : state.process.exited = true) (earlier : History Input Output) (input : Input)
      (output : Output) (hlast : history = earlier ++ [(input, output)]) (front : List Effect)
      (success : Bool) (heffects : effectsOf history = front ++ farewell state.process.runtime success)
      (hfront : ofKind .lifecycle front = []) (hcause : Cause input output success)

theorem effectsOf_step (history : History Input Output) (hstep : Step state input output next) :
    effectsOf (history ++ [(input, output)]) = effectsOf history ++ next.process.effects := by
  rw [effectsOf_snoc, (output_of_step hstep).2.2]

theorem lifecycle_append {past front : List Effect} (hnone : ofKind .lifecycle past = [])
    (hfront : ofKind .lifecycle front = []) : ofKind .lifecycle (past ++ front) = [] := by
  rw [ofKind, List.filter_append]
  exact List.append_eq_nil_iff.mpr ⟨hnone, hfront⟩

/-- A process that runs has never said that it ends. -/
theorem lifecycle_of_running (hrun : Transition.Run Step (State.initial config buffer) history state)
    (hrunning : state.process.exited = false) : ofKind .lifecycle (effectsOf history) = [] := by
  revert hrunning
  refine hrun.invariant (fun history state =>
    state.process.exited = false → ofKind .lifecycle (effectsOf history) = []) (fun _ => rfl) ?_
  intro history state input output next hinv _ hstep hrunning
  rw [effectsOf_step history hstep]
  have hnext := next_of_step hstep
  cases outcome_executeTimers input.answers _ (running_of_step hstep) with
  | goesOn _ _ _ heffects =>
      rw [← hnext] at heffects
      exact lifecycle_append (hinv hstep.1) heffects
  | fails hexited =>
      rw [← hnext] at hexited
      exact absurd (hexited.symm.trans hrunning) Bool.false_ne_true.symm
  | obeys signal hshutdown =>
      rw [← hnext] at hshutdown
      rw [hshutdown, exited_shutdown] at hrunning
      exact absurd hrunning Bool.false_ne_true.symm

theorem signal_receive (hcontained : ReceiveContained state input) :
    (receive state input).process.runtime.signal = state.process.runtime.signal := by
  have hagree : Agree Aspect.get [.signal] state.process (receive state input).process := by
    refine agree_receive hcontained fun msgtype tuntype _ htuntype => ?_
    rcases htuntype with rfl | rfl <;> cases msgtype <;> decide
  exact hagree .signal (by simp)

/-- No signal is left to the next iteration. -/
theorem signal_of_run
    (hrun : RunWhere Step (fun _ => ReceiveContained) (State.initial config buffer) history state)
    (hrunning : state.process.exited = false) : state.process.runtime.signal = 0 := by
  cases hrun with
  | nil => rfl
  | snoc _ _ hstep =>
      have hnext := next_of_step hstep
      cases outcome_executeTimers _ _ (running_of_step hstep) with
      | goesOn _ hsignal =>
          rw [hnext]
          exact hsignal
      | fails hexited =>
          rw [← hnext] at hexited
          exact absurd (hexited.symm.trans hrunning) Bool.false_ne_true.symm
      | obeys signal hshutdown =>
          rw [← hnext] at hshutdown
          rw [hshutdown, exited_shutdown] at hrunning
          exact absurd hrunning Bool.false_ne_true.symm

/-- **One iteration.** -/
theorem ended_of_step (hnone : ofKind .lifecycle (effectsOf history) = [])
    (hsignal : (receive state input).process.runtime.signal = 0)
    (hstep : Step state input output next) : Ended (history ++ [(input, output)]) next := by
  have hnext := next_of_step hstep
  have hreceived : output.received = receive state input := (output_of_step hstep).2.1
  have hall := effectsOf_step history hstep
  cases outcome_executeTimers input.answers _ (running_of_step hstep) with
  | goesOn hrunning _ _ heffects =>
      rw [← hnext] at hrunning heffects
      exact .running hrunning (hall ▸ lifecycle_append hnone heffects)
  | fails hexited _ front heffects hfront hbonding hrefused =>
      rw [← hnext] at hexited heffects
      refine .ended hexited history input output rfl (effectsOf history ++ front) false ?_
        (lifecycle_append hnone hfront) ⟨hreceived ▸ hbonding, hrefused⟩
      rw [hall, heffects, List.append_assoc]
  | obeys signal hshutdown front heffects hfront hterminating =>
      rw [← hnext] at hshutdown heffects
      have hexited : next.process.exited = true := by rw [hshutdown, exited_shutdown]
      refine .ended hexited history input output rfl (effectsOf history ++ front) true ?_
        (lifecycle_append hnone hfront) ?_
      · rw [hall, heffects, List.append_assoc]
      · show input.answers.signal = some sigint ∨ input.answers.signal = some sigterm
        have hends := of_decide_eq_true hterminating
        change input.answers.signal.getD (receive state input).process.runtime.signal = sigint ∨
          input.answers.signal.getD (receive state input).process.runtime.signal = sigterm at hends
        rw [hsignal] at hends
        cases hcame : input.answers.signal with
        | none =>
            rw [hcame] at hends
            exact absurd hends (by decide)
        | some came =>
            rw [hcame] at hends
            exact hends.imp (congrArg some) (congrArg some)

/-- **The end of a run.** As long as the process runs nothing has looked like its end. It ends in one
iteration, either because a signal came in that asks for it, and then the script hears of it first,
or because bonding needs a data socket that was refused; and nothing is done behind that. -/
theorem exits_once
    (hrun : RunWhere Step (fun _ => ReceiveContained) (State.initial config buffer) history state) :
    Ended history state := by
  cases hrun with
  | nil => exact .running rfl rfl
  | snoc hbefore hcontained hstep =>
      have hsignal := (signal_receive hcontained).trans (signal_of_run hbefore hstep.1)
      exact ended_of_step (lifecycle_of_running hbefore.run hstep.1) hsignal hstep

def interruption (signal : Int) (now : Timeval) : Input :=
  ⟨.failed, fun _ => now, { Answers.plain now with signal := some signal }⟩

/-- The client is stopped from the terminal in its second iteration. -/
theorem interrupted_ended :
    ∃ history state, history.length = 2 ∧ Ended history state ∧
      .exit true ∈ effectsOf history := by
  let first := silence ⟨20, 0⟩
  let second := interruption sigint ⟨21, 0⟩
  have hcontained : ∀ state, ReceiveContained state first ∧ ReceiveContained state second :=
    fun state => ⟨fun _ hhandled => absurd hhandled (by simp [handled, first, silence]),
      fun _ hhandled => absurd hhandled (by simp [handled, second, interruption])⟩
  have hrun : RunWhere Step (fun _ => ReceiveContained) (plainStart true)
      [(first, outputOf (plainStart true) first),
        (second, outputOf (iteration (plainStart true) first) second)]
      (iteration (iteration (plainStart true) first) second) :=
    .snoc (.snoc .nil (hcontained _).1 (step_outputOf rfl first)) (hcontained _).2
      (step_outputOf (by decide) second)
  exact ⟨_, _, rfl, exits_once hrun, by decide⟩

end Main

end OpenHybrid

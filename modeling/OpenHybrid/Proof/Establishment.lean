import OpenHybrid.Lib.Run
import OpenHybrid.Proof.Reception

/-!
# Establishing tunnels

A tunnel should come up only because its request has been answered. An Accept is taken for the
answer whether or not there was a request, so this holds of the runs in which every Accept that is
handled was asked for.
-/

namespace OpenHybrid

open ByteMemory Frame Transition

def Effect.asksFor (tuntype : Byte) : Effect → Bool
  | .sendmsg .request requested _ sent => decide (requested = tuntype) && sent
  | _ => false

namespace Main

variable {config : Config} {buffer : Memory} {state next : State} {input : Input}
  {output : Output} {tuntype : Byte}

def Output.answersFor (tuntype : Byte) (output : Output) : Bool :=
  decide (output.handled = some (.accept, tuntype) ∨ output.handled = some (.deny, tuntype))

/-- Whether a request for the tunnel waits for its answer after an iteration. -/
def awaiting (tuntype : Byte) (pending : Bool) (output : Output) : Bool :=
  (pending && !output.answersFor tuntype) || output.effects.any (Effect.asksFor tuntype)

def pending (tuntype : Byte) (history : History Input Output) : Bool :=
  history.foldl (fun waiting step => awaiting tuntype waiting step.2) false

/-- Every Accept that is handled has been asked for or finds its tunnel established, and stores
nothing behind `runtime.haap`. -/
structure Solicited (history : History Input Output) (state : State) (input : Input) : Prop where
  accepts : ∀ tuntype, handled state input = some (.accept, tuntype) →
    state.process.runtime.established tuntype = true ∨ pending tuntype history = true
  contained : ReceiveContained state input

structure OnRequest (config : Config) (history : History Input Output) (state : State)
    (output : Output) (next : State) : Prop where
  /-- Only an Accept for it, from the current HAAP and while its request is pending, establishes a
  tunnel. -/
  accepted : ∀ tuntype, IsTuntype tuntype →
    state.process.runtime.established tuntype = false →
    output.received.process.runtime.established tuntype = true →
      output.handled = some (.accept, tuntype) ∧ pending tuntype history = true
  timers : ∀ tuntype, IsTuntype tuntype →
    output.received.process.runtime.established tuntype = false →
      next.process.runtime.established tuntype = false
  lteOnly : config.bonding = false →
    output.received.process.runtime.established grecpTuntypeDsl = false ∧
      next.process.runtime.established grecpTuntypeDsl = false

theorem pending_snoc (tuntype : Byte) (history : History Input Output) (input : Input)
    (output : Output) :
    pending tuntype (history ++ [(input, output)]) =
      awaiting tuntype (pending tuntype history) output := by
  simp [pending]

/-! ### Requests -/

theorem asksFor_kind {effect : Effect} (hasks : effect.asksFor tuntype = true) :
    effect.kind = .request := by
  unfold Effect.asksFor at hasks
  split at hasks
  · rfl
  · exact absurd hasks Bool.false_ne_true

theorem requestEffects_lteOnly (answers : Answers) {runtime : Runtime}
    (hbonding : runtime.bonding = false) :
    (requestEffects answers runtime).any (Effect.asksFor grecpTuntypeDsl) = false := by
  have hrequested : requested runtime = some grecpTuntypeLte ∨ requested runtime = none := by
    unfold requested
    cases runtime.established grecpTuntypeLte <;> simp [hbonding]
  unfold requestEffects
  rcases hrequested with hlte | hnone
  · rw [hlte]
    dsimp only
    split
    · rfl
    · rfl
  · rw [hnone]
    rfl

theorem bonding_updateInterfaceIps (answers : Answers) (process : Process) :
    (updateInterfaceIps answers process).runtime.bonding = process.runtime.bonding := by
  unfold updateInterfaceIps
  dsimp only
  split <;> rfl

theorem asksFor_iff_requests (tuntype : Byte) (effects : List Effect) :
    effects.any (Effect.asksFor tuntype) =
      (ofKind .request effects).any (Effect.asksFor tuntype) := by
  unfold ofKind
  rw [List.any_filter]
  congr 1
  funext effect
  cases hasks : effect.asksFor tuntype with
  | false => rw [Bool.and_false]
  | true => rw [decide_eq_true (asksFor_kind hasks), Bool.and_true]

theorem effects_lteOnly {answers : Answers} {process : Process}
    (hrunning : process.exited = false) (hbonding : process.runtime.bonding = false) :
    (executeTimers answers process.quiet).effects.any (Effect.asksFor grecpTuntypeDsl) = false := by
  rw [asksFor_iff_requests, requests_executeTimers answers process.quiet hrunning]
  refine requestEffects_lteOnly answers ?_
  rw [bonding_updateInterfaceIps]
  exact hbonding

/-! ### One iteration -/

theorem output_of_step (hstep : Step state input output next) :
    output.handled = handled state input ∧ output.received = receive state input ∧
      output.effects = next.process.effects := by
  obtain ⟨-, -, rfl⟩ := hstep
  exact ⟨rfl, rfl, rfl⟩

theorem running_of_step (hstep : Step state input output next) :
    (receive state input).process.quiet.exited = false :=
  (exited_receive state input).trans hstep.1

theorem next_of_step (hstep : Step state input output next) :
    next.process = executeTimers input.answers (receive state input).process.quiet := by
  obtain ⟨-, rfl, -⟩ := hstep
  rfl

/-- A tunnel is up behind an iteration if the timers let it live. -/
theorem established_of_step (hstep : Step state input output next) (htuntype : IsTuntype tuntype) :
    next.process.runtime.established tuntype =
      survives input.answers tuntype output.received.process.runtime := by
  rw [next_of_step hstep, (output_of_step hstep).2.1]
  exact established_executeTimers input.answers (running_of_step hstep) htuntype

/-- An iteration whose copies are contained changes nothing that is configured. -/
theorem settings_of_step (hcontained : ReceiveContained state input)
    (hstep : Step state input output next) :
    next.process.runtime.settings = state.process.runtime.settings := by
  have htimers := Timer.agree_executeTimers input.answers (receive state input).process.quiet
    [.settings] (by decide)
  rw [next_of_step hstep]
  exact (htimers .settings (by simp)).trans (settings_receive hcontained)

/-- What the run keeps: the settings, and without bonding no trace of a second tunnel. -/
structure Modest (config : Config) (history : History Input Output) (state : State) : Prop where
  settings : state.process.runtime.settings = config.runtime.settings
  unasked : config.bonding = false → pending grecpTuntypeDsl history = false
  down : config.bonding = false → state.process.runtime.established grecpTuntypeDsl = false

variable {history : History Input Output}

theorem Modest.bonding (hmodest : Modest config history state) :
    state.process.runtime.bonding = config.bonding := congrArg Settings.bonding hmodest.settings

/-- Unasked, a tunnel does not come up. -/
theorem established_of_unasked (hguard : Solicited history state input)
    (hstep : Step state input output next) (htuntype : IsTuntype tuntype)
    (hunasked : pending tuntype history = false)
    (hdown : state.process.runtime.established tuntype = false) :
    output.received.process.runtime.established tuntype = false ∧
      next.process.runtime.established tuntype = false := by
  have hreceived : output.received.process.runtime.established tuntype = false := by
    rw [(output_of_step hstep).2.1, established_receive htuntype hguard.contained, hdown]
    unfold establishedBy
    split
    · rename_i accepted hhandled
      split
      · rename_i hsame
        subst hsame
        rcases hguard.accepts accepted hhandled with hup | hpending
        · exact hup.symm.trans hdown
        · exact hpending.symm.trans hunasked
      · rfl
    · rfl
    · rfl
  refine ⟨hreceived, ?_⟩
  rw [established_of_step hstep htuntype, survives, hreceived]
  rfl

theorem Modest.step (hmodest : Modest config history state)
    (hguard : Solicited history state input) (hstep : Step state input output next) :
    Modest config (history ++ [(input, output)]) next := by
  refine ⟨(settings_of_step hguard.contained hstep).trans hmodest.settings, fun hbonding => ?_,
    fun hbonding => ?_⟩
  · rw [pending_snoc, awaiting, hmodest.unasked hbonding, Bool.false_and, Bool.false_or]
    obtain ⟨hrunning, rfl, rfl⟩ := hstep
    refine effects_lteOnly ((exited_receive state input).trans hrunning) ?_
    have hsettings := (settings_receive hguard.contained).trans hmodest.settings
    exact (congrArg Settings.bonding hsettings).trans hbonding
  · exact (established_of_unasked hguard hstep (.inr rfl) (hmodest.unasked hbonding)
      (hmodest.down hbonding)).2

/-- What holds along every run with solicited Accepts only. -/
theorem modest_of_run (hrun : RunWhere Step Solicited (State.initial config buffer) history state) :
    Modest config history state := by
  refine hrun.invariant (Modest config) ?_ ?_
  · exact ⟨rfl, fun _ => rfl, fun _ => rfl⟩
  · intro history state input output next hmodest hguard hstep
    exact hmodest.step hguard hstep

/-- **Establishment on request.** In every run in which each Accept that is handled was asked for,
or finds its tunnel established, and copies nothing across the end of `runtime.haap`, a tunnel comes
up only through an Accept that answers its pending request, the timers establish none, and without
bonding the DSL tunnel is never established. -/
theorem onRequest_of_solicited
    (hrun : RunWhere Step Solicited (State.initial config buffer) history state)
    (hguard : Solicited history state input) (hstep : Step state input output next) :
    OnRequest config history state output next := by
  have hmodest := modest_of_run hrun
  refine ⟨?_, ?_, ?_⟩
  · intro tuntype htuntype hdown hup
    by_cases hpending : pending tuntype history = true
    · refine ⟨?_, hpending⟩
      rw [(output_of_step hstep).2.1, established_receive htuntype hguard.contained, hdown] at hup
      rw [(output_of_step hstep).1]
      unfold establishedBy at hup
      split at hup
      · rename_i accepted hhandled
        split at hup
        · rename_i hsame
          rw [hhandled, hsame]
        · exact absurd hup Bool.false_ne_true
      · exact absurd hup Bool.false_ne_true
      · exact absurd hup Bool.false_ne_true
    · have hunasked := Bool.eq_false_of_not_eq_true hpending
      have hstays := (established_of_unasked hguard hstep htuntype hunasked hdown).1
      exact absurd (hstays.symm.trans hup) Bool.false_ne_true
  · intro tuntype htuntype hdown
    rw [established_of_step hstep htuntype, survives, hdown]
    rfl
  · intro hbonding
    exact established_of_unasked hguard hstep (.inr rfl) (hmodest.unasked hbonding)
      (hmodest.down hbonding)

def bareAccept (typeByte : Byte) : List Byte := [0x20, 0, 1, 1, 0, 0, 0, 0, typeByte]

theorem messageAttributes_bareAccept (memory : Memory) (typeByte : Byte) :
    messageAttributes memory (bareAccept typeByte).length = [] := rfl

def silence (now : Timeval) : Input := ⟨.failed, fun _ => now, .plain now⟩

@[simp]
theorem handled_silence (state : State) (now : Timeval) : handled state (silence now) = none := rfl

theorem contained_of_failed (state : State) {input : Input} (hrecvfrom : input.recvfrom = .failed) :
    ReceiveContained state input := by
  intro tuntype hhandled
  rw [handled, hrecvfrom] at hhandled
  exact absurd hhandled (by simp)

theorem silence_contained (state : State) (now : Timeval) :
    ReceiveContained state (silence now) := contained_of_failed state rfl

def datagram (bytes : List Byte) (now : Timeval) : Input :=
  ⟨.datagram (fun _ => 1) bytes, fun _ => now, .plain now⟩

theorem contained_of_bareAccept (state : State) {input : Input} {saddr : In6Addr} {typeByte : Byte}
    (hrecvfrom : input.recvfrom = .datagram saddr (bareAccept typeByte)) :
    ReceiveContained state input := by
  intro tuntype _ attr hattr
  have hnone : messageAttributes (receive state input).buffer input.receivedSize = [] := by
    rw [Input.receivedSize, hrecvfrom]
    exact messageAttributes_bareAccept _ typeByte
  rw [hnone] at hattr
  exact absurd hattr List.not_mem_nil

theorem bareAccept_contained (state : State) (typeByte : Byte) (now : Timeval) :
    ReceiveContained state (datagram (bareAccept typeByte) now) := contained_of_bareAccept state rfl

def outputOf (state : State) (input : Input) : Output :=
  ⟨handled state input, receive state input, (iteration state input).process.effects⟩

theorem step_outputOf {state : State} (hrunning : state.process.exited = false) (input : Input) :
    Step state input (outputOf state input) (iteration state input) := ⟨hrunning, rfl, rfl⟩

def played (start : State) (inputs : List Input) : State := inputs.foldl iteration start

def recorded (start : State) (inputs : List Input) : History Input Output :=
  replay iteration outputOf start inputs

def Lasts (start : State) (inputs : List Input) : Prop :=
  Meets iteration outputOf (fun _ state _ => state.process.exited = false) [] start inputs

instance (start : State) (inputs : List Input) : Decidable (Lasts start inputs) :=
  inferInstanceAs (Decidable (Meets ..))

/-- Inputs that meet a guard, each where it comes, make a run. -/
theorem run_played {guard : History Input Output → State → Input → Prop} {start : State}
    {inputs : List Input} (hlasts : Lasts start inputs)
    (hguard : Meets iteration outputOf guard [] start inputs) :
    RunWhere Step guard start (recorded start inputs) (played start inputs) :=
  RunWhere.nil.replay (hlasts.mono fun _ _ input hrunning => step_outputOf hrunning input) hguard

def plainStart (bonding : Bool) : State := State.initial (.plain bonding) fun _ => 0

/-- The Accept that follows the request for the LTE tunnel. -/
theorem requestedAccept_onRequest :
    OnRequest (.plain false)
      [(silence ⟨20, 0⟩, outputOf (plainStart false) (silence ⟨20, 0⟩))]
      (iteration (plainStart false) (silence ⟨20, 0⟩))
      (outputOf (iteration (plainStart false) (silence ⟨20, 0⟩))
        (datagram (bareAccept 0x20) ⟨21, 0⟩))
      (iteration (iteration (plainStart false) (silence ⟨20, 0⟩))
        (datagram (bareAccept 0x20) ⟨21, 0⟩)) := by
  have hsilence : Solicited [] (plainStart false) (silence ⟨20, 0⟩) :=
    ⟨fun _ hhandled => absurd hhandled (by simp [handled, silence]),
      fun _ hhandled => absurd hhandled (by simp [handled, silence])⟩
  have hhandled : handled (iteration (plainStart false) (silence ⟨20, 0⟩))
      (datagram (bareAccept 0x20) ⟨21, 0⟩) = some (.accept, grecpTuntypeLte) := by decide +kernel
  refine onRequest_of_solicited (.snoc .nil hsilence ⟨rfl, rfl, rfl⟩) ⟨?_, ?_⟩
    ⟨by decide, rfl, rfl⟩
  · intro tuntype hother
    obtain rfl : grecpTuntypeLte = tuntype := by simpa using hhandled.symm.trans hother
    exact Or.inr (by decide)
  · exact bareAccept_contained _ _ _

/-- Without bonding and without any request, an Accept establishes the DSL tunnel. -/
theorem unsolicitedAccept_establishes :
    ∃ history state, Run Step (plainStart false) history state ∧
      (Config.plain false).bonding = false ∧ pending grecpTuntypeDsl history = false ∧
      state.process.runtime.established grecpTuntypeDsl = true :=
  ⟨_, _, .snoc .nil trivial ⟨rfl, rfl, rfl⟩, rfl, by decide +kernel,
    (by decide +kernel : (iteration (plainStart false)
      (datagram (bareAccept 0x28) ⟨20, 0⟩)).process.runtime.established grecpTuntypeDsl = true)⟩

end Main

end OpenHybrid

import OpenHybrid.Proof.Establishment

/-!
# Dead peers

A tunnel that is accepted and then hears nothing is declared dead with the hello that follows
`hello_retry_times` unanswered ones. The count of these has eight bits, and the time of the last
hello is kept in 32.
-/

namespace OpenHybrid

open ByteMemory Frame Transition

/-- The runtime in front of the timers after `due` calls at which a hello was due, since the
tunnel was accepted with nothing missed. -/
structure Counted (tuntype : Byte) (retryTimes : BitVec 32) (due : Nat) (runtime : Runtime) :
    Prop where
  retryTimes_eq : runtime.parameters.helloRetryTimes = retryTimes
  established : runtime.established tuntype = decide (due ≤ retryTimes.toNat)
  missed : due ≤ retryTimes.toNat → (runtime.hellos tuntype).missedHellos.toNat = due - 1
  fresh : due = 0 →
    (runtime.hellos tuntype).lastHelloReceived = (runtime.hellos tuntype).lastHelloSent
  stale : 0 < due → due ≤ retryTimes.toNat →
    (runtime.hellos tuntype).lastHelloReceived < (runtime.hellos tuntype).lastHelloSent

variable {answers : Answers} {runtime : Runtime} {tuntype : Byte} {retryTimes : BitVec 32}
  {due : Nat}

theorem helloSecond_toNat
    (hlow : 0 ≤ (answers.uptime (helloReadings tuntype).seconds).tvSec)
    (hhigh : (answers.uptime (helloReadings tuntype).seconds).tvSec < 2 ^ 32) :
    ((helloSecond answers tuntype).toNat : Int) =
      (answers.uptime (helloReadings tuntype).seconds).tvSec := by
  unfold helloSecond helloTimestamp
  dsimp only
  rw [BitVec.toNat_ofInt]
  omega

/-- A call at which a hello is due counts the one before as missed. -/
theorem Counted.next (hcounted : Counted tuntype retryTimes due runtime)
    (hdue : helloDue answers tuntype runtime = true)
    (hclock : (answers.uptime (helloReadings tuntype).due).tvSec ≤
      (answers.uptime (helloReadings tuntype).seconds).tvSec)
    (hlow : 0 ≤ (answers.uptime (helloReadings tuntype).seconds).tvSec)
    (hhigh : (answers.uptime (helloReadings tuntype).seconds).tvSec < 2 ^ 32)
    (hcounter : retryTimes.toNat ≤ 255 ∨ (runtime.hellos tuntype).missedHellos ≠ 255) :
    due ≤ retryTimes.toNat ∧ (nextHellos answers tuntype runtime).missedHellos.toNat = due ∧
      (nextHellos answers tuntype runtime).lastHelloReceived <
        (nextHellos answers tuntype runtime).lastHelloSent := by
  have hestablished := hdue
  unfold helloDue at hestablished
  rw [Bool.and_eq_true, hcounted.established, decide_eq_true_eq, decide_eq_true_eq] at hestablished
  obtain ⟨hbound, hlate⟩ := hestablished
  have hmissed := hcounted.missed hbound
  have hsecond := helloSecond_toNat hlow hhigh
  unfold nextHellos
  rw [if_pos hdue]
  dsimp only
  rcases Nat.eq_zero_or_pos due with hzero | hpos
  · have hfresh := hcounted.fresh hzero
    have hanswered : (runtime.hellos tuntype).unanswered = false := by
      rw [Hellos.unanswered, hfresh]
      simp
    rw [hanswered, if_neg Bool.false_ne_true, hsecond]
    refine ⟨hbound, by omega, by omega⟩
  · have hstale := hcounted.stale hpos hbound
    have hunanswered : (runtime.hellos tuntype).unanswered = true := by
      rw [Hellos.unanswered, decide_eq_true_eq]
      omega
    have hroom : (runtime.hellos tuntype).missedHellos.toNat < 255 := by
      rcases hcounter with hfew | hnotLast
      · omega
      · have hlimit := (runtime.hellos tuntype).missedHellos.isLt
        have hne : (runtime.hellos tuntype).missedHellos.toNat ≠ 255 := fun heq =>
          hnotLast (BitVec.eq_of_toNat_eq heq)
        omega
    have hcount : ((runtime.hellos tuntype).missedHellos + 1).toNat = due := by
      rw [BitVec.toNat_add]
      show ((runtime.hellos tuntype).missedHellos.toNat + 1) % 256 = due
      omega
    rw [hunanswered, if_pos rfl, hsecond]
    exact ⟨hbound, hcount, by omega⟩

/-- One execution counts one more hello if it is due, and only then. -/
theorem Counted.execute {process : Process} (hrunning : process.exited = false)
    (htuntype : IsTuntype tuntype) (hretryTimes : retryTimes ≠ 0)
    (hcounted : Counted tuntype retryTimes due process.runtime)
    (hclock : (answers.uptime (helloReadings tuntype).due).tvSec ≤
      (answers.uptime (helloReadings tuntype).seconds).tvSec)
    (hsecond : helloDue answers tuntype process.runtime = true →
      0 ≤ (answers.uptime (helloReadings tuntype).seconds).tvSec ∧
        (answers.uptime (helloReadings tuntype).seconds).tvSec < 2 ^ 32)
    (hcounter : helloDue answers tuntype process.runtime = true →
      retryTimes.toNat ≤ 255 ∨ (process.runtime.hellos tuntype).missedHellos ≠ 255) :
    Counted tuntype retryTimes
      (due + if helloDue answers tuntype process.runtime = true then 1 else 0)
      (executeTimers answers process).runtime := by
  have hpositive : 0 < retryTimes.toNat := by
    rw [Nat.pos_iff_ne_zero]
    exact fun hzero => hretryTimes (BitVec.eq_of_toNat_eq hzero)
  have hparameters : (executeTimers answers process).runtime.parameters =
      process.runtime.parameters :=
    Timer.agree_executeTimers answers process [.parameters] (by decide) .parameters (by simp)
  have hestablished := established_executeTimers answers hrunning htuntype
  have hhellos := hellos_executeTimers answers hrunning htuntype
  have hretries : (executeTimers answers process).runtime.parameters.helloRetryTimes =
      retryTimes := hparameters ▸ hcounted.retryTimes_eq
  -- a tunnel that survives keeps its hellos
  have hkept : survives answers tuntype process.runtime = true →
      (executeTimers answers process).runtime.hellos tuntype =
        nextHellos answers tuntype process.runtime := by
    intro hsurvives
    rw [hhellos, keptHellos, hsurvives]
    exact if_neg fun hdown => absurd hdown.1 Bool.false_ne_true.symm
  cases hdue : helloDue answers tuntype process.runtime with
  | true =>
      rw [if_pos rfl]
      obtain ⟨hlow, hhigh⟩ := hsecond hdue
      obtain ⟨hbound, hmissed, hstale⟩ := hcounted.next hdue hclock hlow hhigh (hcounter hdue)
      have hsurvives : survives answers tuntype process.runtime =
          decide (due + 1 ≤ retryTimes.toNat) := by
        rw [survives, hcounted.established, decide_eq_true hbound, Bool.true_and, hmissed,
          hcounted.retryTimes_eq]
        rfl
      refine ⟨hretries, hestablished.trans hsurvives, fun hlive => ?_, fun hzero => ?_,
        fun _ hlive => ?_⟩
      · rw [hkept (hsurvives.trans (decide_eq_true hlive)), hmissed]
        rfl
      · exact absurd hzero (Nat.succ_ne_zero due)
      · rw [hkept (hsurvives.trans (decide_eq_true hlive))]
        exact hstale
  | false =>
      rw [if_neg Bool.false_ne_true, Nat.add_zero]
      have hsame : nextHellos answers tuntype process.runtime = process.runtime.hellos tuntype := by
        rw [nextHellos, hdue]
        rfl
      have hsurvives : survives answers tuntype process.runtime =
          decide (due ≤ retryTimes.toNat) := by
        rw [survives, hcounted.established, hsame, hcounted.retryTimes_eq]
        by_cases hbound : due ≤ retryTimes.toNat
        · have hmissed := hcounted.missed hbound
          rw [decide_eq_true hbound, Bool.true_and, decide_eq_true (by omega)]
        · rw [decide_eq_false hbound, Bool.false_and]
      have hunchanged : due ≤ retryTimes.toNat →
          (executeTimers answers process).runtime.hellos tuntype =
            process.runtime.hellos tuntype := fun hbound =>
        (hkept (hsurvives.trans (decide_eq_true hbound))).trans hsame
      refine ⟨hretries, hestablished.trans hsurvives, fun hbound => ?_, fun hzero => ?_,
        fun hpos hbound => ?_⟩
      · rw [hunchanged hbound]
        exact hcounted.missed hbound
      · rw [hunchanged (by omega)]
        exact hcounted.fresh hzero
      · rw [hunchanged hbound]
        exact hcounted.stale hpos hbound

namespace Main

variable {state next start : State} {input : Input} {output : Output}
  {history : History Input Output}

/-- The tunnel has been accepted with nothing missed, and no Hello, Accept or Tear Down for it
comes any more. A Tear Down is for both tunnels. -/
structure Unanswered (tuntype : Byte) (retryTimes : BitVec 32) (history : History Input Output)
    (state : State) (input : Input) : Prop where
  accepted : history = [] → handled state input = some (.accept, tuntype) ∧
    ((receive state input).process.runtime.hellos tuntype).missedHellos = 0 ∧
      (receive state input).process.runtime.parameters.helloRetryTimes = retryTimes
  silent : history ≠ [] → handled state input ≠ some (.accept, tuntype) ∧
    handled state input ≠ some (.hello, tuntype) ∧
      ∀ torn, handled state input ≠ some (.teardown, torn)
  clock : (input.answers.uptime (helloReadings tuntype).due).tvSec ≤
    (input.answers.uptime (helloReadings tuntype).seconds).tvSec

def dueIn (tuntype : Byte) (state : State) (input : Input) : Prop :=
  helloDue input.answers tuntype (receive state input).process.runtime = true

/-- The count and the clock do not overflow, and the Accepts for the other tunnel stay in their
fields. -/
structure Countable (tuntype : Byte) (retryTimes : BitVec 32) (history : History Input Output)
    (state : State) (input : Input) : Prop where
  fits : history ≠ [] → ReceiveFits state input
  second : dueIn tuntype state input →
    0 ≤ (input.answers.uptime (helloReadings tuntype).seconds).tvSec ∧
      (input.answers.uptime (helloReadings tuntype).seconds).tvSec < 2 ^ 32
  counter : dueIn tuntype state input → retryTimes.toNat ≤ 255 ∨
    ((receive state input).process.runtime.hellos tuntype).missedHellos ≠ 255

def dueCalls (tuntype : Byte) (history : History Input Output) : Nat :=
  history.countP fun step =>
    helloDue step.1.answers tuntype step.2.received.process.runtime

theorem dueCalls_snoc (tuntype : Byte) (history : History Input Output) (input : Input)
    (output : Output) :
    dueCalls tuntype (history ++ [(input, output)]) = dueCalls tuntype history +
      if helloDue input.answers tuntype output.received.process.runtime = true then 1 else 0 := by
  unfold dueCalls
  rw [List.countP_append, List.countP_singleton]

theorem hellos_establish (tuntype : Byte) (now : Timeval) (runtime : Runtime) :
    ((establish tuntype now runtime).hellos tuntype).lastHelloReceived =
      ((establish tuntype now runtime).hellos tuntype).lastHelloSent := by
  unfold establish Runtime.hellos Runtime.tunnel
  split <;> rfl

theorem counted_accepted (hunanswered : Unanswered tuntype retryTimes [] state input) :
    Counted tuntype retryTimes 0 (receive state input).process.runtime := by
  obtain ⟨hhandled, hmissed, hretries⟩ := hunanswered.accepted rfl
  have hreceive := receive_of_some hhandled
  refine ⟨hretries, ?_, fun _ => ?_, fun _ => ?_, fun hpos => absurd hpos (Nat.lt_irrefl 0)⟩
  · rw [hreceive]
    exact established_establish tuntype _ _
  · rw [hmissed]
    rfl
  · rw [hreceive]
    exact hellos_establish tuntype _ _

/-- Nothing that is received later touches the count. -/
theorem counted_receive (htuntype : IsTuntype tuntype) (hretryTimes : retryTimes ≠ 0)
    (hcounted : Counted tuntype retryTimes due state.process.runtime) (hlater : history ≠ [])
    (hunanswered : Unanswered tuntype retryTimes history state input)
    (hfits : ReceiveFits state input) :
    Counted tuntype retryTimes due (receive state input).process.runtime := by
  obtain ⟨haccept, hhello, hteardown⟩ := hunanswered.silent hlater
  have hhellos := hellos_receive htuntype hfits.contained haccept hhello
  have hestablished := established_receive htuntype hfits.contained
  have hretries := retryTimes_receive hfits (hcounted.retryTimes_eq ▸ hretryTimes)
  have hkept : establishedBy (handled state input) tuntype
      (state.process.runtime.established tuntype) = state.process.runtime.established tuntype := by
    unfold establishedBy
    split
    · rename_i accepted hhandled
      refine if_neg fun hsame => ?_
      exact haccept (hsame ▸ hhandled)
    · rename_i torn hhandled
      exact absurd hhandled (hteardown torn)
    · rfl
  refine ⟨hretries.trans hcounted.retryTimes_eq, ?_, ?_, ?_, ?_⟩
  · rw [hestablished, hkept]
    exact hcounted.established
  · rw [hhellos]
    exact hcounted.missed
  · rw [hhellos]
    exact hcounted.fresh
  · rw [hhellos]
    exact hcounted.stale

/-- **The count along a run.** -/
theorem counted_of_run (htuntype : IsTuntype tuntype) (hretryTimes : retryTimes ≠ 0)
    (hrun : RunWhere Step (fun history state input =>
      Unanswered tuntype retryTimes history state input ∧
        Countable tuntype retryTimes history state input) start history state) :
    history ≠ [] → Counted tuntype retryTimes (dueCalls tuntype history) state.process.runtime := by
  refine hrun.invariant (fun history state => history ≠ [] →
    Counted tuntype retryTimes (dueCalls tuntype history) state.process.runtime) ?_ ?_
  · exact fun hlater => absurd rfl hlater
  · intro history state input output next hcounted hmeets hstep _
    obtain ⟨hunanswered, hcountable⟩ := hmeets
    have hreceived : Counted tuntype retryTimes (dueCalls tuntype history)
        (receive state input).process.runtime := by
      by_cases hlater : history = []
      · subst hlater
        exact counted_accepted hunanswered
      · exact counted_receive htuntype hretryTimes (hcounted hlater) hlater hunanswered
          (hcountable.fits hlater)
    rw [dueCalls_snoc, next_of_step hstep, (output_of_step hstep).2.1]
    exact Counted.execute (running_of_step hstep) htuntype hretryTimes hreceived hunanswered.clock
      hcountable.second hcountable.counter

/-- **Dead-peer detection.** In every run that begins with an Accept for a tunnel, with nothing
missed, and in which nothing comes for the tunnel any more, the tunnel is established after an
iteration exactly if a hello has been due at most as often as hellos may be missed, and until then
each due hello but the first has counted one as missed: as long as the clock stays below 2^32
seconds, at most 255 hellos may be missed or fewer are, and the Accepts for the other tunnel fit. -/
theorem established_iff_dueCalls (htuntype : IsTuntype tuntype) (hretryTimes : retryTimes ≠ 0)
    (hrun : RunWhere Step (fun history state input =>
      Unanswered tuntype retryTimes history state input ∧
        Countable tuntype retryTimes history state input) start history state)
    (hbegun : history ≠ []) :
    (state.process.runtime.established tuntype = true ↔
      dueCalls tuntype history ≤ retryTimes.toNat) ∧
    (dueCalls tuntype history ≤ retryTimes.toNat →
      (state.process.runtime.hellos tuntype).missedHellos.toNat = dueCalls tuntype history - 1) := by
  have hcounted := counted_of_run htuntype hretryTimes hrun hbegun
  refine ⟨?_, hcounted.missed⟩
  rw [hcounted.established, decide_eq_true_eq]

/-- The iteration in which the plain start receives an Accept for the LTE tunnel. -/
theorem unanswered_bareAccept {config : Config} {retryTimes : BitVec 32}
    (hhandled : handled (State.initial config fun _ => 0) (datagram (bareAccept 0x20) ⟨20, 0⟩) =
      some (.accept, grecpTuntypeLte))
    (hmissed : ((receive (State.initial config fun _ => 0)
      (datagram (bareAccept 0x20) ⟨20, 0⟩)).process.runtime.hellos
        grecpTuntypeLte).missedHellos = 0)
    (hretries : (receive (State.initial config fun _ => 0)
      (datagram (bareAccept 0x20) ⟨20, 0⟩)).process.runtime.parameters.helloRetryTimes =
        retryTimes) :
    Unanswered grecpTuntypeLte retryTimes [] (State.initial config fun _ => 0)
      (datagram (bareAccept 0x20) ⟨20, 0⟩) :=
  ⟨fun _ => ⟨hhandled, hmissed, hretries⟩, fun hlater => absurd rfl hlater, le_refl _⟩

theorem silence_unanswered {retryTimes : BitVec 32} (hbegun : history ≠ []) (state : State)
    (now : Timeval) : Unanswered grecpTuntypeLte retryTimes history state (silence now) :=
  ⟨fun hempty => absurd hempty hbegun, fun _ => ⟨by simp, by simp, by simp⟩, le_refl _⟩

theorem silence_countable {retryTimes : BitVec 32} (hretries : retryTimes.toNat ≤ 255)
    (state : State) {now : Timeval} (hsecond : 0 ≤ now.tvSec ∧ now.tvSec < 2 ^ 32) :
    Countable grecpTuntypeLte retryTimes history state (silence now) :=
  ⟨fun _ _ hhandled => absurd hhandled (by simp), fun _ => hsecond, fun _ => .inl hretries⟩

/-- The LTE tunnel is accepted at second 20, and nothing comes any more. -/
def abandoned (later : List Timeval) : List Input :=
  datagram (bareAccept 0x20) ⟨20, 0⟩ :: later.map silence

theorem abandoned_unanswered {later : List Timeval}
    (hlasts : Lasts (plainStart false) (abandoned later))
    (hseconds : ∀ now ∈ later, 0 ≤ now.tvSec ∧ now.tvSec < 2 ^ 32) :
    RunWhere Step (fun history state input =>
        Unanswered grecpTuntypeLte 3 history state input ∧
          Countable grecpTuntypeLte 3 history state input) (plainStart false)
      (recorded (plainStart false) (abandoned later))
      (played (plainStart false) (abandoned later)) := by
  have hsilent : ∀ {history : History Input Output} {state : State}, history ≠ [] →
      Meets iteration outputOf (fun history state input =>
        Unanswered grecpTuntypeLte 3 history state input ∧
          Countable grecpTuntypeLte 3 history state input) history state (later.map silence) := by
    clear hlasts
    induction later with
    | nil => exact fun _ => trivial
    | cons now later ih =>
        intro history state hbegun
        exact ⟨⟨silence_unanswered hbegun state now,
            silence_countable (by decide) state (hseconds now List.mem_cons_self)⟩,
          ih (fun other hmem => hseconds other (List.mem_cons_of_mem now hmem)) (by simp)⟩
  refine run_played hlasts ⟨⟨unanswered_bareAccept ?_ ?_ ?_, ?_⟩, hsilent (by simp)⟩
  · decide +kernel
  · decide +kernel
  · decide +kernel
  · exact ⟨fun hlater => absurd rfl hlater, fun _ => by decide, fun _ => .inl (by decide)⟩

/-- With three hellos to miss, the tunnel is up at the third call at which a hello is due, with two
missed, and given up at the fourth. -/
theorem abandoned_givenUp :
    let third := played (plainStart false) (abandoned [⟨40, 0⟩, ⟨60, 0⟩, ⟨80, 0⟩])
    third.process.runtime.established grecpTuntypeLte = true ∧
      (third.process.runtime.hellos grecpTuntypeLte).missedHellos.toNat = 2 ∧
      ¬ (iteration third (silence ⟨100, 0⟩)).process.runtime.established grecpTuntypeLte = true := by
  have hthree : Lasts (plainStart false) (abandoned [⟨40, 0⟩, ⟨60, 0⟩, ⟨80, 0⟩]) := by
    decide +kernel
  have hfour : Lasts (plainStart false) (abandoned [⟨40, 0⟩, ⟨60, 0⟩, ⟨80, 0⟩, ⟨100, 0⟩]) := by
    decide +kernel
  have hthird := established_iff_dueCalls (.inl rfl) (by decide)
    (abandoned_unanswered hthree (by decide)) (List.cons_ne_nil _ _)
  have hfourth := established_iff_dueCalls (.inl rfl) (by decide)
    (abandoned_unanswered hfour (by decide)) (List.cons_ne_nil _ _)
  have hcalls : dueCalls grecpTuntypeLte (recorded (plainStart false)
      (abandoned [⟨40, 0⟩, ⟨60, 0⟩, ⟨80, 0⟩])) = 3 := by decide +kernel
  rw [hcalls] at hthird
  refine ⟨hthird.1.mpr (by decide), hthird.2 (by decide), fun hup => ?_⟩
  have hfew := hfourth.1.mp hup
  revert hfew
  decide +kernel

/-! ### A count that overflows -/

def patientConfig : Config := { Config.plain false with helloRetryTimes := 256 }

def patientStart : State := State.initial patientConfig fun _ => 0

structure Waiting (calls : Nat) (state : State) : Prop where
  running : state.process.exited = false
  bonding : state.process.runtime.bonding = false
  signal : state.process.runtime.signal = 0
  parameters : state.process.runtime.parameters = ⟨10, 256, 0⟩
  established : state.process.runtime.established grecpTuntypeLte = true
  sent : (state.process.runtime.hellos grecpTuntypeLte).lastHelloSent = 20 * (calls + 1)

def waitingTime (calls : Nat) : Timeval := ⟨20 * (calls + 2), 0⟩

theorem Waiting.isDue {calls : Nat} (hwaiting : Waiting calls state) :
    helloDue (Answers.plain (waitingTime calls)) grecpTuntypeLte state.process.runtime = true := by
  unfold helloDue
  rw [hwaiting.established, hwaiting.sent, hwaiting.parameters, Bool.true_and, decide_eq_true_eq]
  show (20 * (calls + 1) : Int) < 20 * (calls + 2) - 10
  omega

theorem Waiting.survives {calls : Nat} (hwaiting : Waiting calls state) :
    survives (Answers.plain (waitingTime calls)) grecpTuntypeLte state.process.runtime = true := by
  unfold OpenHybrid.survives
  rw [hwaiting.established, hwaiting.parameters, Bool.true_and, decide_eq_true_eq]
  exact (nextHellos _ _ _).missedHellos.isLt

theorem Waiting.step {calls : Nat} (hwaiting : Waiting calls state) (hcalls : calls < 1000) :
    Waiting (calls + 1) (iteration state (silence (waitingTime calls))) := by
  have hrunning : state.process.quiet.exited = false := hwaiting.running
  have hsettings := Timer.agree_executeTimers (Answers.plain (waitingTime calls))
    state.process.quiet [.settings, .parameters] (by decide)
  obtain ⟨hexited, hsignal⟩ := exited_executeTimers (Answers.plain (waitingTime calls)) hrunning
    hwaiting.bonding hwaiting.signal rfl
  have hhellos := hellos_executeTimers (Answers.plain (waitingTime calls)) hrunning (.inl rfl)
  refine ⟨hexited, ?_, hsignal, ?_, ?_, ?_⟩
  · exact (congrArg Settings.bonding (hsettings .settings (by simp))).trans hwaiting.bonding
  · exact (hsettings .parameters (by simp)).trans hwaiting.parameters
  · exact (established_executeTimers _ hrunning (.inl rfl)).trans hwaiting.survives
  · refine (congrArg Hellos.lastHelloSent hhellos).trans ?_
    rw [keptHellos, Process.quiet_runtime, hwaiting.survives,
      if_neg fun hdown => absurd hdown.1 Bool.false_ne_true.symm, nextHellos, if_pos hwaiting.isDue]
    show ((BitVec.ofInt 32 (20 * (calls + 2))).toNat : Int) = 20 * ((calls + 1 : Nat) + 1)
    rw [BitVec.toNat_ofInt]
    push_cast
    omega

/-- There are such runs with any number of due calls below a thousand. -/
theorem exists_waiting : ∀ {calls : Nat}, calls < 1000 →
    ∃ history state, RunWhere Step (Unanswered grecpTuntypeLte 256) patientStart history state ∧
      history ≠ [] ∧ dueCalls grecpTuntypeLte history = calls ∧ Waiting calls state := by
  intro calls
  induction calls with
  | zero =>
      intro _
      have hstart : Unanswered grecpTuntypeLte 256 [] patientStart
          (datagram (bareAccept 0x20) ⟨20, 0⟩) :=
        unanswered_bareAccept (by decide +kernel) (by decide +kernel) (by decide +kernel)
      exact ⟨_, _, .snoc .nil hstart (step_outputOf rfl _), List.cons_ne_nil _ _,
        by decide +kernel, by decide +kernel, by decide +kernel, by decide +kernel,
        by decide +kernel, by decide +kernel, by decide +kernel⟩
  | succ calls ih =>
      intro hcalls
      obtain ⟨history, state, hrun, hbegun, hdue, hwaiting⟩ := ih (by omega)
      have hsilent : Unanswered grecpTuntypeLte 256 history state
          (silence (waitingTime calls)) := silence_unanswered hbegun state _
      refine ⟨_, _, .snoc hrun hsilent (step_outputOf hwaiting.running _), by simp, ?_,
        hwaiting.step (by omega)⟩
      rw [dueCalls_snoc, hdue]
      exact congrArg (calls + ·) (if_pos hwaiting.isDue)

/-- With 256 hellos to miss, a tunnel outlives the call at which the 257th is due. -/
theorem patient_outlives :
    ∃ history state, RunWhere Step (Unanswered grecpTuntypeLte 256) patientStart history state ∧
      history ≠ [] ∧ dueCalls grecpTuntypeLte history = (256 : BitVec 32).toNat + 1 ∧
      state.process.runtime.established grecpTuntypeLte = true := by
  obtain ⟨history, state, hrun, hbegun, hdue, hwaiting⟩ :=
    exists_waiting (by decide : (256 : BitVec 32).toNat + 1 < 1000)
  exact ⟨history, state, hrun, hbegun, hdue, hwaiting.established⟩

end Main

end OpenHybrid

import OpenHybrid.Lib.Once
import OpenHybrid.Proof.Reconnect

/-!
# Pushed parameters

The two hello parameters, which the configuration may set and an Accept may push. Both write the same
variable, where 0 stands for neither, and nothing ever resets it: it holds what came first.
-/

namespace OpenHybrid

open ByteMemory Frame Transition Once

variable {memory : Memory} {attr : Grecpattr} {runtime : Runtime}

inductive Pushed where
  | activeHelloInterval
  | helloRetryTimes
  deriving DecidableEq

def Pushed.field : Pushed → WordField
  | .activeHelloInterval => activeHelloIntervalField
  | .helloRetryTimes => helloRetryTimesField

def Pushed.id : Pushed → Byte
  | .activeHelloInterval => msgattrActiveHelloInterval
  | .helloRetryTimes => msgattrHelloRetryTimes

def Pushed.configured (config : Config) : Pushed → BitVec 32
  | .activeHelloInterval => config.activeHelloInterval
  | .helloRetryTimes => config.helloRetryTimes

def Pushed.get (pushed : Pushed) (runtime : Runtime) : BitVec 32 := pushed.field.get runtime.haap

variable {pushed : Pushed}

/-- Copies of other attributes do not reach the parameter. -/
def Spares (pushed : Pushed) (attr : Grecpattr) : Prop :=
  attr.id ≠ pushed.id → ∀ offset, fieldOffset attr.id = some offset →
    offset + attr.length.toNat ≤ pushed.field.offset ∨ pushed.field.offset + 4 ≤ offset

def Carries (pushed : Pushed) (attr : Grecpattr) : Prop :=
  attr.id = pushed.id ∧ attr.length.toNat = 4

instance (pushed : Pushed) : DecidablePred (Carries pushed) := fun attr =>
  inferInstanceAs (Decidable (attr.id = pushed.id ∧ attr.length.toNat = 4))

def carried (pushed : Pushed) (memory : Memory) (attrs : List Grecpattr) : List (BitVec 32) :=
  (attrs.filter (Carries pushed)).map fun attr => wordOf (attr.bytes memory)

theorem carried_of_carries (hcarries : Carries pushed attr) (attrs : List Grecpattr) :
    carried pushed memory (attr :: attrs) =
      wordOf (attr.bytes memory) :: carried pushed memory attrs := by
  unfold carried
  rw [List.filter_cons_of_pos (by simpa using hcarries), List.map_cons]

theorem carried_of_not_carries (hcarries : ¬Carries pushed attr) (attrs : List Grecpattr) :
    carried pushed memory (attr :: attrs) = carried pushed memory attrs := by
  unfold carried
  rw [List.filter_cons_of_neg (by simpa using hcarries)]

theorem get_acceptAttribute_other (hspares : Spares pushed attr) (hid : attr.id ≠ pushed.id)
    (runtime : Runtime) :
    pushed.get (acceptAttribute memory runtime attr) = pushed.get runtime := by
  have hcopy : ∀ offset, fieldOffset attr.id = some offset →
      pushed.get (copyAttribute memory offset attr runtime) = pushed.get runtime :=
    fun offset hoffset => pushed.field.memcpy_outside _ _ (hspares hid offset hoffset)
  unfold fieldOffset at hcopy
  unfold acceptAttribute
  split_ifs at hcopy ⊢ with _ _ hinterval _ hretries
  · exact hcopy _ rfl
  · cases pushed <;> exact hcopy _ rfl
  · cases pushed with
    | activeHelloInterval => exact absurd hinterval hid
    | helloRetryTimes => exact hcopy _ rfl
  · rfl
  · cases pushed with
    | activeHelloInterval => exact hcopy _ rfl
    | helloRetryTimes => exact absurd hretries hid
  · rfl
  · cases pushed <;> exact hcopy _ rfl
  · cases pushed <;> exact hcopy _ rfl
  · rfl

/-- Its own attribute is stored if the parameter is not set. -/
theorem get_acceptAttribute_own (hid : attr.id = pushed.id)
    (hsized : attr.length.toNat = 4 ∨ pushed.get runtime ≠ 0) :
    pushed.get (acceptAttribute memory runtime attr) =
      store (pushed.get runtime) (wordOf (attr.bytes memory)) := by
  have hstep : acceptAttribute memory runtime attr =
      if pushed.get runtime = 0 then storeWord pushed.field memory attr runtime else runtime := by
    unfold acceptAttribute
    rw [hid]
    cases pushed <;> rfl
  rw [hstep]
  unfold store
  by_cases hunset : pushed.get runtime = 0
  · have hlength := hsized.resolve_right (not_not.mpr hunset)
    rw [if_pos hunset, if_pos hunset, storeWord_of_eq pushed.field runtime hlength]
    exact pushed.field.get_set _ _
  · rw [if_neg hunset, if_neg hunset]

/-- The attributes that an Accept must have for the parameter to be told apart: no copy of another
attribute reaches it, and its own have four bytes as long as it may be unset. -/
structure Sized (pushed : Pushed) (unset : Prop) (attrs : List Grecpattr) : Prop where
  spared : ∀ attr ∈ attrs, Spares pushed attr
  sized : unset → ∀ attr ∈ attrs, attr.id = pushed.id → attr.length.toNat = 4

/-- What an Accept leaves is what its values leave, one after the other. -/
theorem get_acceptAttributes {unset : Prop} {attrs : List Grecpattr}
    (hsized : Sized pushed unset attrs) (hset : ¬unset → pushed.get runtime ≠ 0) :
    pushed.get (attrs.foldl (acceptAttribute memory) runtime) =
      (carried pushed memory attrs).foldl store (pushed.get runtime) := by
  induction attrs generalizing runtime with
  | nil => rfl
  | cons attr attrs ih =>
      have hrest : Sized pushed unset attrs :=
        ⟨fun other hother => hsized.spared other (List.mem_cons_of_mem attr hother),
          fun hunset other hother => hsized.sized hunset other (List.mem_cons_of_mem attr hother)⟩
      rw [List.foldl_cons]
      by_cases hcarries : Carries pushed attr
      · have hstored : pushed.get (acceptAttribute memory runtime attr) =
            store (pushed.get runtime) (wordOf (attr.bytes memory)) :=
          get_acceptAttribute_own hcarries.1 (Or.inl hcarries.2)
        rw [carried_of_carries hcarries, List.foldl_cons, ← hstored]
        refine ih hrest fun hdecided => ?_
        rw [hstored, store, if_neg (hset hdecided)]
        exact hset hdecided
      · have hkept : pushed.get (acceptAttribute memory runtime attr) = pushed.get runtime := by
          by_cases hid : attr.id = pushed.id
          · have hheld := hset fun hunset =>
              hcarries ⟨hid, hsized.sized hunset attr List.mem_cons_self hid⟩
            rw [get_acceptAttribute_own hid (Or.inr hheld), store, if_neg hheld]
          · exact get_acceptAttribute_other (hsized.spared attr List.mem_cons_self) hid runtime
        rw [carried_of_not_carries hcarries, ← hkept]
        refine ih hrest fun hdecided => ?_
        rw [hkept]
        exact hset hdecided

theorem get_executeTimers (pushed : Pushed) (answers : Answers) (process : Process) :
    pushed.get (executeTimers answers process).runtime = pushed.get process.runtime := by
  have hparameters := Timer.agree_executeTimers answers process [.parameters] (by decide)
    .parameters (by simp)
  cases pushed with
  | activeHelloInterval => exact congrArg Parameters.activeHelloInterval hparameters
  | helloRetryTimes => exact congrArg Parameters.helloRetryTimes hparameters

/-! ### Runs -/

namespace Main

variable {config : Config} {buffer : Memory} {state next : State} {input : Input}
  {output : Output} {history : History Input Output}

def pushedIn (pushed : Pushed) (message : Option (Msgtype × Byte)) (buffer : Memory) (size : Nat) :
    List (BitVec 32) :=
  match message with
  | some (.accept, _) => carried pushed buffer (messageAttributes buffer size)
  | _ => []

def pushedBy (pushed : Pushed) (history : History Input Output) : List (BitVec 32) :=
  history.flatMap fun step =>
    pushedIn pushed step.2.handled step.2.received.buffer step.1.receivedSize

def arriving (pushed : Pushed) (state : State) (input : Input) : List (BitVec 32) :=
  pushedIn pushed (handled state input) (receive state input).buffer input.receivedSize

theorem pushedBy_snoc (hstep : Step state input output next) :
    pushedBy pushed (history ++ [(input, output)]) =
      pushedBy pushed history ++ arriving pushed state input := by
  obtain ⟨hhandled, hreceived, -⟩ := output_of_step hstep
  unfold pushedBy arriving
  rw [List.flatMap_append, List.flatMap_singleton, hhandled, hreceived]

def ReceiveSized (pushed : Pushed) (config : Config) (state : State) (input : Input) : Prop :=
  ∀ tuntype, handled state input = some (.accept, tuntype) →
    Sized pushed (pushed.configured config = 0)
      (messageAttributes (receive state input).buffer input.receivedSize)

theorem get_establish (pushed : Pushed) (tuntype : Byte) (now : Timeval) (runtime : Runtime) :
    pushed.get (establish tuntype now runtime) = pushed.get runtime := by
  unfold establish
  split <;> rfl

/-- Only an Accept changes the parameters. -/
theorem get_receive_other (hother : ∀ tuntype, handled state input ≠ some (.accept, tuntype)) :
    pushed.get (receive state input).process.runtime = pushed.get state.process.runtime := by
  have hcontained : ReceiveContained state input :=
    fun tuntype hhandled => absurd hhandled (hother tuntype)
  have hagree : Agree Aspect.get [.parameters] state.process (receive state input).process := by
    refine agree_receive hcontained fun msgtype tuntype hhandled htuntype => ?_
    cases msgtype with
    | accept => exact absurd hhandled (hother tuntype)
    | _ => rcases htuntype with rfl | rfl <;> decide
  have hparameters := hagree .parameters (by simp)
  cases pushed with
  | activeHelloInterval => exact congrArg Parameters.activeHelloInterval hparameters
  | helloRetryTimes => exact congrArg Parameters.helloRetryTimes hparameters

/-- What arrives is stored if nothing has been stored before. -/
theorem get_receive (hsized : ReceiveSized pushed config state input)
    (hset : pushed.configured config ≠ 0 → pushed.get state.process.runtime ≠ 0) :
    pushed.get (receive state input).process.runtime =
      (arriving pushed state input).foldl store (pushed.get state.process.runtime) := by
  by_cases haccept : ∃ tuntype, handled state input = some (.accept, tuntype)
  · obtain ⟨tuntype, hhandled⟩ := haccept
    unfold arriving
    rw [hhandled]
    refine Eq.trans ?_ (get_acceptAttributes (hsized tuntype hhandled) hset)
    rw [receive_of_some hhandled]
    exact get_establish pushed tuntype _ _
  · have hother : ∀ tuntype, handled state input ≠ some (.accept, tuntype) :=
      fun tuntype hhandled => haccept ⟨tuntype, hhandled⟩
    have hnothing : arriving pushed state input = [] := by
      unfold arriving pushedIn
      split
      · rename_i tuntype hhandled
        exact absurd hhandled (hother tuntype)
      · rfl
    rw [get_receive_other hother, hnothing]
    rfl

/-- **What came first.** Along every run the parameter is the first value other than 0 that the
configuration or an Accept has brought. -/
theorem get_of_run
    (hrun : RunWhere Step (fun _ => ReceiveSized pushed config) (State.initial config buffer)
      history state) :
    pushed.get state.process.runtime =
      (pushedBy pushed history).foldl store (pushed.configured config) := by
  refine hrun.invariant (fun history state => pushed.get state.process.runtime =
    (pushedBy pushed history).foldl store (pushed.configured config)) ?_ ?_
  · cases pushed <;> rfl
  · intro history state input output next hget hsized hstep
    have hset : pushed.configured config ≠ 0 → pushed.get state.process.runtime ≠ 0 := by
      intro hconfigured
      rw [hget, foldl_store_of_ne_zero hconfigured]
      exact hconfigured
    rw [next_of_step hstep, get_executeTimers, Process.quiet_runtime, get_receive hsized hset, hget,
      pushedBy_snoc hstep, List.foldl_append]

/-- Accepts have suitable sizes, and if the configuration leaves the parameter unset they bring what
all Accepts before them have brought. -/
structure Steady (pushed : Pushed) (config : Config) (history : History Input Output)
    (state : State) (input : Input) : Prop where
  sized : ReceiveSized pushed config state input
  consistent : pushed.configured config = 0 →
    Consistent (pushedBy pushed history) (arriving pushed state input)

/-- Along a steady run nothing is ever ignored. -/
theorem settled_of_run (hunset : pushed.configured config = 0)
    (hrun : RunWhere Step (Steady pushed config) (State.initial config buffer) history state) :
    Settled (pushedBy pushed history) := by
  refine hrun.invariant (fun history _ => Settled (pushedBy pushed history)) nofun ?_
  intro history state input output next hsettled hguard hstep
  rw [pushedBy_snoc hstep]
  exact hsettled.append (hguard.consistent hunset)

/-- **Pushed parameters.** In every run in which Accepts keep bringing the same value, the next one
gets what it brings if and only if it brings that value too. A configured value is never given up. -/
theorem honoured_iff_consistent
    (hrun : RunWhere Step (Steady pushed config) (State.initial config buffer) history state)
    (hsized : ReceiveSized pushed config state input) (hstep : Step state input output next) :
    (pushed.configured config = 0 →
      ((∀ value ∈ pushedIn pushed output.handled output.received.buffer input.receivedSize,
          pushed.get next.process.runtime = value) ↔
        Consistent (pushedBy pushed history) (arriving pushed state input))) ∧
      (pushed.configured config ≠ 0 →
        pushed.get next.process.runtime = pushed.configured config) := by
  obtain ⟨hhandled, hreceived, -⟩ := output_of_step hstep
  have hsizes : RunWhere Step (fun _ => ReceiveSized pushed config) (State.initial config buffer)
      history state := hrun.mono fun _ _ _ hguard => hguard.sized
  have hget := get_of_run (.snoc hsizes hsized hstep)
  rw [pushedBy_snoc hstep] at hget
  constructor
  · intro hunset
    rw [hget, hunset, hhandled, hreceived]
    exact held_iff_consistent (settled_of_run hunset hrun)
  · intro hconfigured
    rw [hget, foldl_store_of_ne_zero hconfigured]

def unsetConfig : Config := { Config.plain false with activeHelloInterval := 0 }

def unsetStart : State := State.initial unsetConfig fun _ => 0

def pushingAccept (seconds : Byte) : List Byte :=
  bareAccept 0x20 ++ [msgattrActiveHelloInterval, 0, 4, 0, 0, 0, seconds]

def pushing (seconds : Byte) (second : Int) : Input :=
  datagram (pushingAccept seconds) ⟨second, 0⟩

theorem pushing_sized {seconds : Byte} {second : Int}
    (hattributes : messageAttributes (receive state (pushing seconds second)).buffer
      (pushing seconds second).receivedSize = [⟨msgattrActiveHelloInterval, 4, 12⟩]) :
    ReceiveSized .activeHelloInterval unsetConfig state (pushing seconds second) := by
  intro tuntype _
  rw [hattributes]
  refine ⟨fun attr hattr => ?_, fun _ attr hattr _ => ?_⟩
  · obtain rfl := List.mem_singleton.mp hattr
    exact fun hother => absurd rfl hother
  · obtain rfl := List.mem_singleton.mp hattr
    rfl

def pushed5 : List Input := [pushing 5 20, silence ⟨25, 0⟩]

/-- Another Accept gets its interval if that is five seconds as well. -/
theorem pushed5_honoured :
    let honoured := fun seconds =>
      ∀ value ∈ pushedIn .activeHelloInterval
          (outputOf (played unsetStart pushed5) (pushing seconds 26)).handled
          (outputOf (played unsetStart pushed5) (pushing seconds 26)).received.buffer
          (pushing seconds 26).receivedSize,
        Pushed.activeHelloInterval.get
          (iteration (played unsetStart pushed5) (pushing seconds 26)).process.runtime = value
    honoured 5 ∧ ¬ honoured 7 := by
  have hrun : RunWhere Step (Steady .activeHelloInterval unsetConfig) unsetStart
      (recorded unsetStart pushed5) (played unsetStart pushed5) := by
    refine run_played (by decide +kernel) ⟨⟨pushing_sized (by decide +kernel), fun _ => ?_⟩,
      ⟨fun _ hhandled => absurd hhandled (by simp), fun _ => nofun⟩, trivial⟩
    decide +kernel
  have hsized : ReceiveSized .activeHelloInterval unsetConfig (played unsetStart pushed5)
      (pushing 5 26) := pushing_sized (by decide +kernel)
  have hother : ReceiveSized .activeHelloInterval unsetConfig (played unsetStart pushed5)
      (pushing 7 26) := pushing_sized (by decide +kernel)
  have hrunning : (played unsetStart pushed5).process.exited = false := by decide +kernel
  have hfive := honoured_iff_consistent hrun hsized (step_outputOf hrunning _)
  have hseven := honoured_iff_consistent hrun hother (step_outputOf hrunning _)
  exact ⟨(hfive.1 rfl).mpr (by decide +kernel),
    fun hhonoured => absurd ((hseven.1 rfl).mp hhonoured) (by decide +kernel)⟩

/-- The tunnel is accepted with an interval of five seconds, torn down and accepted with seven. -/
def repushed : State :=
  iteration (iteration (iteration unsetStart (pushing 5 20))
    (datagram bareTeardown ⟨21, 0⟩)) (pushing 7 22)

/-- The first interval stays in use. -/
theorem repushed_keepsFirst :
    ∃ history last, Run Step unsetStart (history ++ [last]) repushed ∧
      pushedIn .activeHelloInterval last.2.handled last.2.received.buffer last.1.receivedSize =
        [7] ∧
      repushed.process.runtime.established grecpTuntypeLte = true ∧
      Pushed.activeHelloInterval.get repushed.process.runtime = 5 := by
  refine ⟨_, _, .snoc (.snoc (.snoc .nil trivial (step_outputOf rfl _)) trivial
    (step_outputOf (by decide +kernel) _)) trivial (step_outputOf (by decide +kernel) _),
    by decide +kernel, by decide +kernel, by decide +kernel⟩

end Main

end OpenHybrid

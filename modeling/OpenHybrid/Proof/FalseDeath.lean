import OpenHybrid.Proof.Establishment

/-!
# No false death

A tunnel whose hellos are all answered should not be declared dead, and a new one should start with
nothing missed. What is missed is forgotten when a Hello arrives and when a tunnel is down while
there is a device, but not when a tunnel is accepted.
-/

namespace OpenHybrid

open ByteMemory Frame Transition

variable {memory : Memory} {uptime : Nat → Timeval} {tuntype : Byte}

/-! ### Answers -/

def lastTimestamp (attrs : List Grecpattr) : Option Grecpattr :=
  (attrs.filter fun attr => attr.id = msgattrTimestamp).getLast?

/-- A Hello with a Timestamp forgets what was missed. -/
def answeredBy (memory : Memory) (attrs : List Grecpattr) (hellos : Hellos) : Hellos :=
  match lastTimestamp attrs with
  | none => hellos
  | some attr =>
      { hellos with lastHelloReceived := (timestampSent memory attr).tvSec, missedHellos := 0 }

theorem hellos_helloAttribute (runtime : Runtime) (readings : Nat) (attr : Grecpattr) :
    (helloAttribute memory tuntype uptime (runtime, readings) attr).1.hellos tuntype =
      if attr.id = msgattrTimestamp then
        { runtime.hellos tuntype with
          lastHelloReceived := (timestampSent memory attr).tvSec, missedHellos := 0 }
      else runtime.hellos tuntype := by
  unfold helloAttribute
  by_cases hid : attr.id = msgattrTimestamp
  · by_cases htuntype : tuntype = grecpTuntypeLte
    · simp [hid, htuntype, Runtime.hellos, Runtime.tunnel]
    · simp [hid, htuntype, Runtime.hellos, Runtime.tunnel]
  · simp only [if_neg hid]

/-- Of a Hello only its last Timestamp counts. -/
theorem hellos_helloAttributes (runtime : Runtime) (readings : Nat) (attrs : List Grecpattr) :
    (attrs.foldl (helloAttribute memory tuntype uptime) (runtime, readings)).1.hellos tuntype =
      answeredBy memory attrs (runtime.hellos tuntype) := by
  induction attrs using List.reverseRecOn with
  | nil => rfl
  | append_singleton attrs attr ih =>
      rw [List.foldl_append, List.foldl_cons, List.foldl_nil, hellos_helloAttribute, ih]
      unfold answeredBy lastTimestamp
      rw [List.filter_append]
      by_cases hid : attr.id = msgattrTimestamp
      · rw [if_pos hid, List.filter_cons_of_pos (by simpa using hid), List.filter_nil,
          List.getLast?_concat]
        split <;> rfl
      · rw [if_neg hid, List.filter_cons_of_neg (by simpa using hid), List.filter_nil,
          List.append_nil]

theorem lastTimestamp_isSome {attrs : List Grecpattr} {attr : Grecpattr} (hattr : attr ∈ attrs)
    (hid : attr.id = msgattrTimestamp) : ∃ last, lastTimestamp attrs = some last := by
  have hne : (attrs.filter fun attr => attr.id = msgattrTimestamp) ≠ [] :=
    List.ne_nil_of_mem (List.mem_filter.mpr ⟨hattr, by simpa using hid⟩)
  exact ⟨_, List.getLast?_eq_some_getLast hne⟩

def echo (timestamp : BitVec 32 × BitVec 32) : List Byte :=
  (grecpmessage Runtime.zero .hello grecpTuntypeLte (helloAttributes timestamp)).bytes

namespace Main

/-! ### The dialogue -/

def sentStamp (tuntype : Byte) : Effect → Option (List Byte)
  | .sendmsg .hello sentFor message true =>
      if sentFor = tuntype then some ((message.bytes.drop 12).take 8) else none
  | _ => none

/-- The hellos of a tunnel since its last Accept, as they look from outside. -/
structure Dialogue where
  /-- the Timestamp that has not been echoed yet -/
  outstanding : Option (List Byte)
  /-- every hello has been echoed before the next one was due -/
  prompt : Bool

def echoes (memory : Memory) (size : Nat) (stamp : List Byte) : Bool :=
  (messageAttributes memory size).any fun attr =>
    attr.id = msgattrTimestamp && attr.bytes memory = stamp

variable {state next : State} {input : Input} {output : Output}
  {history : History Input Output}

def Dialogue.receive (tuntype : Byte) (dialogue : Dialogue) (input : Input) (output : Output) :
    Dialogue :=
  match output.handled with
  | some (.accept, accepted) => if accepted = tuntype then ⟨none, true⟩ else dialogue
  | some (.hello, answering) =>
      if answering = tuntype ∧ dialogue.outstanding.any
          (echoes output.received.buffer input.receivedSize) = true then
        { dialogue with outstanding := none }
      else dialogue
  | _ => dialogue

def Dialogue.execute (tuntype : Byte) (dialogue : Dialogue) (input : Input) (output : Output) :
    Dialogue :=
  if helloDue input.answers tuntype output.received.process.runtime = true then
    ⟨output.effects.findSome? (sentStamp tuntype),
      dialogue.prompt && dialogue.outstanding.isNone⟩
  else dialogue

def dialogueOf (tuntype : Byte) (history : History Input Output) : Dialogue :=
  history.foldl (fun dialogue step =>
    (dialogue.receive tuntype step.1 step.2).execute tuntype step.1 step.2) ⟨none, true⟩

/-- In front of the timers, every hello since the last Accept has been echoed before the next one
was due, also if that is now. -/
def Answered (tuntype : Byte) (history : History Input Output) (input : Input) (output : Output) :
    Prop :=
  let dialogue := (dialogueOf tuntype history).receive tuntype input output
  dialogue.prompt = true ∧
    (helloDue input.answers tuntype output.received.process.runtime = true →
      dialogue.outstanding = none)

theorem dialogueOf_snoc (tuntype : Byte) (history : History Input Output) (input : Input)
    (output : Output) :
    dialogueOf tuntype (history ++ [(input, output)]) =
      ((dialogueOf tuntype history).receive tuntype input output).execute tuntype input output := by
  simp [dialogueOf]

/-! ### What goes wrong -/

/-- The conditions under which nothing is held against a tunnel that it is not to blame for. -/
@[mk_iff]
structure Fair (tuntype : Byte) (state : State) (input : Input) : Prop where
  /-- An Accept for an established tunnel finds nothing missed. -/
  accept : handled state input = some (.accept, tuntype) →
    state.process.runtime.established tuntype = true →
      (state.process.runtime.hellos tuntype).missedHellos = 0
  /-- The last Timestamp of a Hello carries the second of the last hello. -/
  current : handled state input = some (.hello, tuntype) →
    ∀ attr, lastTimestamp (messageAttributes (receive state input).buffer input.receivedSize) =
        some attr →
      (timestampSent (receive state input).buffer attr).tvSec =
        (state.process.runtime.hellos tuntype).lastHelloSent
  /-- A tunnel that is down, or goes down now, has nothing missed or finds the device there. -/
  device : survives input.answers tuntype (receive state input).process.runtime = false →
    (receive state input).process.runtime.tunnelInterfaceCreated = true ∨
      (nextHellos input.answers tuntype (receive state input).process.runtime).missedHellos = 0
  /-- A hello that is due goes out. -/
  sends : helloDue input.answers tuntype (receive state input).process.runtime = true →
    let message := helloMessage input.answers tuntype
      (updateInterfaceIps input.answers (receive state input).process).runtime
    message.source ≠ in6addrAny ∧ input.answers.sendmsg message = true
  contained : ReceiveContained state input

instance (tuntype : Byte) (state : State) (input : Input) : Decidable (Fair tuntype state input) :=
  decidable_of_iff' _ (fair_iff tuntype state input)

instance (tuntype : Byte) (history : History Input Output) (input : Input) (output : Output) :
    Decidable (Answered tuntype history input output) := inferInstanceAs (Decidable (_ ∧ _))

def Clean (tuntype : Byte) (dialogue : Dialogue) (runtime : Runtime) : Prop :=
  runtime.established tuntype = true → dialogue.prompt = true →
    (runtime.hellos tuntype).missedHellos = 0 ∧ (dialogue.outstanding = none →
      (runtime.hellos tuntype).lastHelloReceived = (runtime.hellos tuntype).lastHelloSent)

structure Unblamed (tuntype : Byte) (history : History Input Output) (state : State) : Prop where
  up : Clean tuntype (dialogueOf tuntype history) state.process.runtime
  down : state.process.runtime.established tuntype = false →
    (state.process.runtime.hellos tuntype).missedHellos = 0

theorem missed_establish (tuntype : Byte) (now : Timeval) (runtime : Runtime) :
    (establish tuntype now runtime).hellos tuntype =
      ⟨now.tvSec, now.tvSec, (runtime.hellos tuntype).missedHellos⟩ := by
  unfold establish Runtime.hellos Runtime.tunnel
  split <;> rfl

/-- An Accept leaves the count as it was and takes its own time for the last hello. -/
theorem hellos_receive_accept (htuntype : IsTuntype tuntype)
    (hhandled : handled state input = some (.accept, tuntype))
    (hcontained : ReceiveContained state input) :
    (receive state input).process.runtime.hellos tuntype =
      ⟨(input.uptime 0).tvSec, (input.uptime 0).tvSec,
        (state.process.runtime.hellos tuntype).missedHellos⟩ := by
  have hhaap := within_haapOnly state.process
    (haapOnly_acceptAttributes (hcontained tuntype hhandled) state.process.runtime)
  have hhellos := hellos_eq_of_get htuntype (hhaap (hellosAspect tuntype)
    (by rcases htuntype with rfl | rfl <;> decide))
  rw [receive_of_some hhandled]
  refine (missed_establish tuntype _ _).trans ?_
  exact congrArg (fun hellos : Hellos => (⟨_, _, hellos.missedHellos⟩ : Hellos)) hhellos

theorem hellos_receive_hello (hhandled : handled state input = some (.hello, tuntype)) :
    (receive state input).process.runtime.hellos tuntype =
      answeredBy (receive state input).buffer
        (messageAttributes (receive state input).buffer input.receivedSize)
        (state.process.runtime.hellos tuntype) := by
  rw [receive_of_some hhandled]
  exact hellos_helloAttributes _ 0 _

theorem Dialogue.receive_of_other {dialogue : Dialogue}
    (haccept : output.handled ≠ some (.accept, tuntype))
    (hhello : output.handled ≠ some (.hello, tuntype)) :
    dialogue.receive tuntype input output = dialogue := by
  unfold Dialogue.receive
  split
  · rename_i accepted hhandled
    refine if_neg fun hsame : accepted = tuntype => ?_
    exact haccept (hsame ▸ hhandled)
  · rename_i answering hhandled
    refine if_neg fun hechoed : answering = tuntype ∧ _ => ?_
    exact hhello (hechoed.1 ▸ hhandled)
  · rfl

/-- A Hello without a Timestamp echoes nothing. -/
theorem Dialogue.receive_of_silent {dialogue : Dialogue}
    (hhello : output.handled = some (.hello, tuntype))
    (hnone : lastTimestamp (messageAttributes output.received.buffer input.receivedSize) = none) :
    dialogue.receive tuntype input output = dialogue := by
  unfold Dialogue.receive
  rw [hhello]
  refine if_neg fun hechoed => ?_
  obtain ⟨stamp, -, hechoes⟩ := (Option.any_eq_true _ _).mp hechoed.2
  obtain ⟨attr, hattr, hmatch⟩ := List.any_eq_true.mp hechoes
  rw [Bool.and_eq_true, decide_eq_true_eq] at hmatch
  obtain ⟨last, hlast⟩ := lastTimestamp_isSome hattr hmatch.1
  rw [hnone] at hlast
  exact absurd hlast (by simp)

/-- Behind the message nothing is held against the tunnel. -/
theorem clean_received (hunblamed : Unblamed tuntype history state)
    (htuntype : IsTuntype tuntype) (hguard : Fair tuntype state input)
    (hstep : Step state input output next) :
    Clean tuntype ((dialogueOf tuntype history).receive tuntype input output)
      (receive state input).process.runtime := by
  have hestablished := established_receive htuntype hguard.contained
  obtain ⟨hhandled, hreceived, -⟩ := output_of_step hstep
  intro hup hprompt
  by_cases haccept : handled state input = some (.accept, tuntype)
  · rw [hellos_receive_accept htuntype haccept hguard.contained]
    refine ⟨?_, fun _ => rfl⟩
    cases hbefore : state.process.runtime.established tuntype with
    | false => exact hunblamed.down hbefore
    | true => exact hguard.accept haccept hbefore
  by_cases hhello : handled state input = some (.hello, tuntype)
  · have hkept : (receive state input).process.runtime.established tuntype =
        state.process.runtime.established tuntype := by
      rw [hestablished, hhello]
      rfl
    have hanswered := hellos_receive_hello hhello
    unfold answeredBy at hanswered
    cases hlast : lastTimestamp
        (messageAttributes (receive state input).buffer input.receivedSize) with
    | none =>
        rw [hlast] at hanswered
        rw [hanswered]
        rw [Dialogue.receive_of_silent (hhandled.trans hhello) (hreceived ▸ hlast)] at hprompt ⊢
        exact hunblamed.up (hkept.symm.trans hup) hprompt
    | some attr =>
        rw [hlast] at hanswered
        rw [hanswered]
        exact ⟨rfl, fun _ => hguard.current hhello attr hlast⟩
  · rw [Dialogue.receive_of_other (hhandled ▸ haccept) (hhandled ▸ hhello)] at hprompt ⊢
    rw [hellos_receive htuntype hguard.contained haccept hhello]
    refine hunblamed.up ?_ hprompt
    rw [hestablished] at hup
    unfold establishedBy at hup
    split at hup
    · rename_i accepted hother
      have hne : accepted ≠ tuntype := fun hsame => haccept (hsame ▸ hother)
      rwa [if_neg hne] at hup
    · exact absurd hup Bool.false_ne_true
    · exact hup

/-! ### The timers -/

/-- A hello that is due and goes out leaves its Timestamp in the dialogue. -/
theorem stamp_of_sends (htuntype : IsTuntype tuntype) (hguard : Fair tuntype state input)
    (hstep : Step state input output next)
    (hdue : helloDue input.answers tuntype (receive state input).process.runtime = true) :
    output.effects.findSome? (sentStamp tuntype) ≠ none := by
  obtain ⟨hsource, hsent⟩ := hguard.sends hdue
  have hruntime := updateInterfaceIps_runtime_congr input.answers
    (receive state input).process.quiet_runtime
  have heffects : helloEffects input.answers tuntype
      (updateInterfaceIps input.answers (receive state input).process).runtime =
      [.sendmsg .hello tuntype (helloMessage input.answers tuntype
        (updateInterfaceIps input.answers (receive state input).process).runtime) true] := by
    unfold helloEffects
    rw [helloDue_updateInterfaceIps, hdue, if_pos ⟨rfl, hsource⟩, hsent]
  have hall := hellos_sent_executeTimers input.answers (receive state input).process.quiet
    (running_of_step hstep)
  rw [hruntime] at hall
  intro hnone
  rw [(output_of_step hstep).2.2, next_of_step hstep, List.findSome?_eq_none_iff] at hnone
  have hmem : .sendmsg .hello tuntype (helloMessage input.answers tuntype
      (updateInterfaceIps input.answers (receive state input).process).runtime) true ∈
      ofKind .hello
        (executeTimers input.answers (receive state input).process.quiet).effects := by
    rw [hall]
    rcases htuntype with rfl | rfl
    · simp [heffects]
    · simp [heffects]
  have hstamp := hnone _ (List.mem_filter.mp hmem).1
  simp [sentStamp] at hstamp

/-- **One iteration.** -/
theorem unblamed_step (htuntype : IsTuntype tuntype) (hguard : Fair tuntype state input)
    (hstep : Step state input output next)
    (hclean : Clean tuntype ((dialogueOf tuntype history).receive tuntype input output)
      (receive state input).process.runtime) :
    Unblamed tuntype (history ++ [(input, output)]) next := by
  have hestablished := established_of_step hstep htuntype
  have hhellos : next.process.runtime.hellos tuntype =
      keptHellos input.answers tuntype (receive state input).process.runtime := by
    rw [next_of_step hstep]
    exact hellos_executeTimers input.answers (running_of_step hstep) htuntype
  have hreceived := (output_of_step hstep).2.1
  rw [hreceived] at hestablished
  refine ⟨?_, fun hdown => ?_⟩
  · intro hup hprompt
    rw [hestablished] at hup
    have hbefore : (receive state input).process.runtime.established tuntype = true := by
      unfold survives at hup
      exact (Bool.and_eq_true _ _ ▸ hup).1
    rw [dialogueOf_snoc] at hprompt ⊢
    unfold Dialogue.execute at hprompt ⊢
    rw [hreceived] at hprompt ⊢
    rw [hhellos, keptHellos, hup, if_neg fun hdown => absurd hdown.1 Bool.false_ne_true.symm,
      nextHellos]
    cases hdue : helloDue input.answers tuntype (receive state input).process.runtime with
    | false =>
        rw [hdue, if_neg Bool.false_ne_true] at hprompt
        rw [if_neg Bool.false_ne_true, if_neg Bool.false_ne_true]
        exact hclean hbefore hprompt
    | true =>
        rw [hdue, if_pos rfl, Bool.and_eq_true, Option.isNone_iff_eq_none] at hprompt
        rw [if_pos rfl, if_pos rfl]
        obtain ⟨hmissed, hanswered⟩ := hclean hbefore hprompt.1
        have hunanswered : ((receive state input).process.runtime.hellos tuntype).unanswered =
            false := by
          rw [Hellos.unanswered, hanswered hprompt.2]
          simp
        refine ⟨?_, fun hnone => absurd hnone (stamp_of_sends htuntype hguard hstep hdue)⟩
        rw [hunanswered]
        exact hmissed
  · rw [hestablished] at hdown
    rw [hhellos, keptHellos, hdown]
    split
    · rfl
    · rename_i hdevice
      rcases hguard.device hdown with hcreated | hnone
      · exact absurd ⟨rfl, hcreated⟩ hdevice
      · exact hnone

/-- Nor is anything along every fair run. -/
theorem unblamed_of_run {config : Config} {buffer : Memory} (htuntype : IsTuntype tuntype)
    (hrun : RunWhere Step (fun _ => Fair tuntype) (State.initial config buffer) history state) :
    Unblamed tuntype history state := by
  refine hrun.invariant (Unblamed tuntype) ?_ ?_
  · exact ⟨fun hup => absurd hup (by rcases htuntype with rfl | rfl <;> exact Bool.false_ne_true),
      fun _ => by rcases htuntype with rfl | rfl <;> rfl⟩
  · intro history state input output next hunblamed hguard hstep
    exact unblamed_step htuntype hguard hstep (clean_received hunblamed htuntype hguard hstep)

/-- **No false death.** In every run whose steps are fair to a tunnel, an Accept leaves it with
nothing missed, and as long as hellos may be missed at all and each that has gone out since the last
Accept has been echoed before the next was due, the timers do not give it up. -/
theorem survives_of_answered {config : Config} {buffer : Memory} (htuntype : IsTuntype tuntype)
    (hrun : RunWhere Step (fun _ => Fair tuntype) (State.initial config buffer) history state)
    (hguard : Fair tuntype state input) (hstep : Step state input output next) :
    (output.handled = some (.accept, tuntype) →
      (output.received.process.runtime.hellos tuntype).missedHellos = 0) ∧
    (output.received.process.runtime.parameters.helloRetryTimes ≠ 0 →
      Answered tuntype history input output →
      output.received.process.runtime.established tuntype = true →
        next.process.runtime.established tuntype = true) := by
  have hunblamed := unblamed_of_run htuntype hrun
  have hclean := clean_received hunblamed htuntype hguard hstep
  have hestablished := established_of_step hstep htuntype
  obtain ⟨hhandled, hreceived, -⟩ := output_of_step hstep
  rw [hreceived] at hestablished ⊢
  constructor
  · intro haccept
    rw [hhandled] at haccept
    rw [hellos_receive_accept htuntype haccept hguard.contained]
    cases hbefore : state.process.runtime.established tuntype with
    | false => exact hunblamed.down hbefore
    | true => exact hguard.accept haccept hbefore
  · intro hretries hanswered hup
    obtain ⟨hmissed, hechoed⟩ := hclean hup hanswered.1
    have hcount : (nextHellos input.answers tuntype
        (receive state input).process.runtime).missedHellos = 0 := by
      unfold nextHellos
      split
      · rename_i hdue
        have hsame := hechoed (hanswered.2 (hreceived ▸ hdue))
        have hunanswered : ((receive state input).process.runtime.hellos tuntype).unanswered =
            false := by
          rw [Hellos.unanswered, hsame]
          simp
        dsimp only
        rw [hunanswered]
        exact hmissed
      · exact hmissed
    rw [hestablished, survives, hup, hcount, Bool.true_and, decide_eq_true_eq]
    exact Nat.pos_of_ne_zero fun hzero => hretries (BitVec.eq_of_toNat_eq hzero)

def strictStart : State :=
  State.initial { Config.plain false with helloRetryTimes := 1 } fun _ => 0

def conversation : List Input :=
  [datagram (bareAccept 0x20) ⟨20, 0⟩, silence ⟨40, 0⟩, datagram (echo (40, 0)) ⟨41, 0⟩]

/-- It outlives the second 60, at which the next hello is due. -/
theorem conversation_survives :
    helloDue (silence ⟨60, 0⟩).answers grecpTuntypeLte
        (played strictStart conversation).process.runtime = true ∧
      (iteration (played strictStart conversation) (silence ⟨60, 0⟩)).process.runtime.established
        grecpTuntypeLte = true := by
  have hrun : RunWhere Step (fun _ => Fair grecpTuntypeLte) strictStart
      (recorded strictStart conversation) (played strictStart conversation) :=
    run_played (by decide +kernel) (by decide +kernel)
  have hfair : Fair grecpTuntypeLte (played strictStart conversation) (silence ⟨60, 0⟩) := by
    decide +kernel
  obtain ⟨-, hsurvives⟩ :=
    survives_of_answered (.inl rfl) hrun hfair (step_outputOf (by decide +kernel) _)
  exact ⟨by decide +kernel, hsurvives (by decide +kernel) (by decide +kernel) (by decide +kernel)⟩

def Input.refusing (input : Input) : Input :=
  { input with answers := { input.answers with netlink := .refused } }

/-- The tunnel is accepted, its first hello is not answered, and it is given up. -/
def givenUp : State :=
  iteration (iteration (iteration strictStart (datagram (bareAccept 0x20) ⟨20, 0⟩).refusing)
    (silence ⟨40, 0⟩).refusing) (silence ⟨60, 0⟩).refusing

/-- When it is accepted again, it is given up at once. -/
theorem falseDeath :
    ∃ history, Run Step strictStart history givenUp ∧
      handled givenUp (datagram (bareAccept 0x20) ⟨61, 0⟩).refusing =
        some (.accept, grecpTuntypeLte) ∧
      Answered grecpTuntypeLte history (datagram (bareAccept 0x20) ⟨61, 0⟩).refusing
        (outputOf givenUp (datagram (bareAccept 0x20) ⟨61, 0⟩).refusing) ∧
      ((receive givenUp (datagram (bareAccept 0x20) ⟨61, 0⟩).refusing).process.runtime.hellos
        grecpTuntypeLte).missedHellos = 1 ∧
      (iteration givenUp (datagram (bareAccept 0x20) ⟨61, 0⟩).refusing).process.runtime.established
        grecpTuntypeLte = false := by
  refine ⟨_, .snoc (.snoc (.snoc .nil trivial (step_outputOf rfl _)) trivial
    (step_outputOf (by decide +kernel) _)) trivial (step_outputOf (by decide +kernel) _),
    by decide +kernel, ⟨by decide +kernel, by decide +kernel⟩, by decide +kernel,
    by decide +kernel⟩

end Main

end OpenHybrid

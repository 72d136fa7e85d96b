import OpenHybrid.Proof.Establishment
import OpenHybrid.Proof.StaleBytes

/-!
# Datagrams that are nobody's business

Datagrams that are not from the HAAP, or not for this client, go into the same receive buffer as its
messages. As long as those messages bring everything that is read from them, a run in which outsiders
send what they like is, step by step, the run in which nothing of that arrives.
-/

namespace OpenHybrid.Main

open ByteMemory Transition

variable {config : Config} {buffer : Memory} {state next : State} {input : Input} {output : Output}
  {history : History Input Output}

/-- The message that is handled brings its header and all that is read from its attributes. -/
def Whole (state : State) (input : Input) : Prop :=
  ∀ msgtype tuntype, handled state input = some (msgtype, tuntype) →
    attributesOffset ≤ input.receivedSize ∧
      Covered (receive state input).buffer input.receivedSize msgtype

/-- The same iteration if what is not handled had never arrived. -/
def purged (state : State) (input : Input) : Input :=
  if handled state input = none then { input with recvfrom := .failed } else input

structure Purged (seen clean : Input × Output) : Prop where
  recvfrom : clean.1 = if seen.2.handled = none then { seen.1 with recvfrom := .failed } else seen.1
  handled : clean.2.handled = seen.2.handled
  received : clean.2.received.process = seen.2.received.process
  effects : clean.2.effects = seen.2.effects

/-- The received bytes are the same in any buffer. -/
theorem agreeBelow_received (buffer other : Memory) (bytes : List Byte) :
    Memory.AgreeBelow (min bytes.length maxPktSize) (received buffer bytes)
      (received other bytes) := by
  intro i hi
  have hlength : i < (bytes.take maxPktSize).length := by
    rw [List.length_take, min_comm]
    exact hi
  have hmem : ∀ memory : Memory, received memory bytes i = (bytes.take maxPktSize)[i] := fun memory => by
    simpa [received] using memory.write_of_mem 0 hlength
  rw [hmem, hmem]

theorem buffer_receive {saddr : In6Addr} {bytes : List Byte}
    (hrecvfrom : input.recvfrom = .datagram saddr bytes) :
    (receive state input).buffer = received state.buffer bytes := by
  unfold receive
  rw [hrecvfrom]
  dsimp only
  split <;> rfl

/-- A whole message does not notice what the buffer held before. -/
theorem receive_congr {other : State} (hprocess : other.process = state.process)
    (hwhole : Whole state input) {message : Msgtype × Byte}
    (hhandled : handled state input = some message) :
    handled other input = handled state input ∧
      (receive other input).process = (receive state input).process := by
  obtain ⟨msgtype, tuntype⟩ := message
  obtain ⟨hsize, hcovered⟩ := hwhole msgtype tuntype hhandled
  cases hrecvfrom : input.recvfrom with
  | failed => exact absurd hhandled (by simp [handled, hrecvfrom])
  | datagram saddr bytes =>
      have hreceivedSize : input.receivedSize = min bytes.length maxPktSize := by
        rw [Input.receivedSize, hrecvfrom]
      rw [buffer_receive hrecvfrom, hreceivedSize] at hcovered
      rw [hreceivedSize] at hsize
      have hagree := agreeBelow_received state.buffer other.buffer bytes
      have hsame : handled other input = handled state input := by
        unfold handled
        rw [hrecvfrom, hprocess]
        dsimp only
        rw [dispatch_congr _ (hagree.mono hsize)]
      refine ⟨hsame, ?_⟩
      rw [receive_of_some hhandled, receive_of_some (hsame.trans hhandled), hprocess,
        buffer_receive hrecvfrom, buffer_receive hrecvfrom, hreceivedSize,
        handleGrecpmessage_congr hagree hcovered]

/-- One iteration of either run. -/
theorem purged_of_step {other : State} (hprocess : other.process = state.process)
    (hwhole : Whole state input) (hstep : Step state input output next) :
    ∃ clean outputs nexts, Step other clean outputs nexts ∧ nexts.process = next.process ∧
      Purged (input, output) (clean, outputs) := by
  have hhandled : output.handled = handled state input := (output_of_step hstep).1
  have hrunning : other.process.exited = false := hprocess ▸ hstep.1
  have hsame : handled other (purged state input) = handled state input ∧
      (receive other (purged state input)).process = (receive state input).process := by
    unfold purged
    cases hmessage : handled state input with
    | none =>
        rw [if_pos rfl, receive_of_none hmessage]
        exact ⟨rfl, hprocess⟩
    | some message =>
        rw [if_neg (by simp)]
        have hcongr := receive_congr hprocess hwhole hmessage
        exact ⟨hcongr.1.trans hmessage, hcongr.2⟩
  have hanswers : (purged state input).answers = input.answers := by
    unfold purged
    split <;> rfl
  have hnext : (iteration other (purged state input)).process = next.process := by
    rw [next_of_step hstep, next_of_step (step_outputOf hrunning _), hanswers, hsame.2]
  refine ⟨purged state input, outputOf other (purged state input), _, step_outputOf hrunning _,
    hnext, ?_, ?_, ?_, ?_⟩
  · rw [hhandled, purged]
  · exact hsame.1.trans hhandled.symm
  · rw [(output_of_step hstep).2.1]
    exact hsame.2
  · rw [(output_of_step hstep).2.2]
    exact congrArg Process.effects hnext

/-- **Outsiders.** However the receive buffers start, and whatever arrives from others or is not for
this client: the run in which none of it arrives goes through the same processes and does the same
things, iteration by iteration. -/
theorem outsiders_unnoticed (other : Memory)
    (hrun : RunWhere Step (fun _ => Whole) (State.initial config buffer) history state) :
    ∃ clean stateClean, Run Step (State.initial config other) clean stateClean ∧
      stateClean.process = state.process ∧ List.Forall₂ Purged history clean := by
  induction hrun with
  | nil => exact ⟨[], _, .nil, rfl, .nil⟩
  | snoc _ hwhole hstep ih =>
      obtain ⟨clean, stateClean, hclean, hprocess, hpurged⟩ := ih
      obtain ⟨input, output, next, hnext, hsame, hone⟩ := purged_of_step hprocess hwhole hstep
      exact ⟨_, next, hclean.snoc trivial hnext, hsame,
        List.rel_append hpurged (.cons hone .nil)⟩

def intrusion (now : Timeval) : Input :=
  ⟨.datagram (fun _ => 7) (bareAccept 0x50), fun _ => now, .plain now⟩

/-- The tunnel is accepted and stays up, whether or not somebody else tries to tear it down. -/
theorem intrusion_unnoticed :
    ∃ clean stateClean, Run Step (State.initial (.plain true) fun _ => 0xff) clean stateClean ∧
      stateClean.process.runtime.established grecpTuntypeLte = true ∧
      clean.map (fun step => step.2.handled) = [some (.accept, grecpTuntypeLte), none] := by
  let accept := datagram (bareAccept 0x20) ⟨20, 0⟩
  let up := iteration (plainStart true) accept
  have hcode : handled (plainStart true) accept = some (.accept, grecpTuntypeLte) := by
    decide +kernel
  have hforeign : handled up (intrusion ⟨21, 0⟩) = none := by decide +kernel
  have haccept : Whole (plainStart true) accept := by
    intro msgtype tuntype hhandled
    obtain ⟨rfl, -⟩ := Prod.mk.inj (Option.some.inj (hcode.symm.trans hhandled))
    exact ⟨show 9 ≤ 9 by decide, trivial⟩
  have hintrusion : Whole up (intrusion ⟨21, 0⟩) := fun msgtype tuntype hhandled =>
    absurd (hforeign.symm.trans hhandled) (by simp)
  have hrun : RunWhere Step (fun _ => Whole) (plainStart true)
      [(accept, outputOf (plainStart true) accept),
        (intrusion ⟨21, 0⟩, outputOf up (intrusion ⟨21, 0⟩))] (iteration up (intrusion ⟨21, 0⟩)) :=
    .snoc (.snoc .nil haccept (step_outputOf rfl accept)) hintrusion
      (step_outputOf (by decide +kernel) _)
  obtain ⟨clean, stateClean, hclean, hprocess, hpurged⟩ := outsiders_unnoticed (fun _ => 0xff) hrun
  refine ⟨clean, stateClean, hclean, ?_, ?_⟩
  · rw [hprocess]
    decide +kernel
  · cases hpurged with
    | cons hfirst hrest =>
        cases hrest with
        | cons hsecond hnil =>
            cases hnil
            rw [List.map_cons, List.map_singleton, hfirst.handled, hsecond.handled, outputOf,
              outputOf, hcode, hforeign]

end OpenHybrid.Main

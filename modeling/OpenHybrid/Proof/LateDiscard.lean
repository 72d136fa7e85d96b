import OpenHybrid.Proof.EmptyBuffer

/-!
# When discarding a packet is justified

`sequence_flushed` says where the stream stands only up to a multiple of 2^32, and before the first
packet it says nothing at all. The events say it exactly: every advance is either a written slot or
a skipped number, so counting them gives the counter without its wrap-around. A packet may be
discarded when its position in the stream is below that count. The plain comparison of the discard
step agrees with it as long as no packet runs ahead of the counter into another lap of the ring.
-/

namespace OpenHybrid.Gre2tun

open Transition

variable {timeout now : Timeval} {position : Nat → Nat}

def Event.passes : Event → Option (BitVec 32)
  | .written element => some element.sequence
  | .timedOut missing _ _ => some missing
  | _ => none

def passed (events : List Event) : List (BitVec 32) := events.filterMap Event.passes

/-- A number was written to the tun device, or skipped because a held packet had reached the
timeout. -/
def Passed (timeout : Timeval) (number : BitVec 32) (events : List Event) : Prop :=
  (∃ element, .written element ∈ events ∧ element.sequence = number) ∨
    ∃ held age, .timedOut number held age ∈ events ∧ held.Live ∧ timercmpGe age timeout = true

/-- Every discarded packet, told by its place in the stream, had been passed before. -/
def JustifiedDiscards (timeout : Timeval) (position : Nat → Nat) (events : List Event) : Prop :=
  ∀ before element after, events = before ++ .discarded element :: after →
    Passed timeout element.sequence before ∧
      position element.packet.handle < (passed before).length

/-- The packet at `place` is behind the counter, is the next one, or lies in the lap of 2^32 numbers
the counter is in. Before the first advance there is no such lap. -/
def OnCourse (count place : Nat) : Prop :=
  place < count ∨ place = count ∨ (0 < count ∧ place / 2 ^ 32 = (count - 1) / 2 ^ 32)

/-- The stream meets the reorder buffer on course: a packet put into it carries the number of its
place in the stream and, if it has a payload, is on course. -/
def Arrives (timeout : Timeval) (position : Nat → Nat) (history : History Input (List Event))
    (state : State) (input : Input) : Prop :=
  ∀ element, (receive timeout state input).2 = .enqueued element →
    element.sequence = BitVec.ofNat 32 (position element.packet.handle) ∧
      (element.Live →
        OnCourse (passed (outputs history)).length (position element.packet.handle))

@[simp]
theorem passed_append (before after : List Event) :
    passed (before ++ after) = passed before ++ passed after := by
  simp [passed]

theorem Passed.mono {number : BitVec 32} {events more : List Event} (hsub : events ⊆ more)
    (hpassed : Passed timeout number events) : Passed timeout number more := by
  rcases hpassed with ⟨element, hmem, hnumber⟩ | ⟨held, age, hmem, hheld⟩
  · exact Or.inl ⟨element, hsub hmem, hnumber⟩
  · exact Or.inr ⟨held, age, hsub hmem, hheld⟩

theorem passed_discardEvents (counter : BitVec 32) (packets : List ReorderBufferElement) :
    passed (discardEvents counter packets) = [] := by
  simp [passed, discardEvents, Event.passes, List.filterMap_flatMap]

theorem JustifiedDiscards.append {first second : List Event}
    (hfirst : JustifiedDiscards timeout position first)
    (hsecond : ∀ element, .discarded element ∈ second → Passed timeout element.sequence first ∧
      position element.packet.handle < (passed first).length) :
    JustifiedDiscards timeout position (first ++ second) := by
  intro before element after hsplit
  rcases List.append_eq_append_iff.mp hsplit with ⟨middle, rfl, hrest⟩ | ⟨middle, hfirstEq, hrest⟩
  · obtain ⟨hpassed, hplace⟩ := hsecond element (by rw [hrest]; simp)
    refine ⟨hpassed.mono (List.subset_append_left _ _), ?_⟩
    rw [passed_append, List.length_append]
    omega
  · cases middle with
    | nil =>
        obtain ⟨hpassed, hplace⟩ := hsecond element (by simp only [List.nil_append] at hrest; simp [← hrest])
        rw [List.append_nil] at hfirstEq
        exact hfirstEq ▸ ⟨hpassed, hplace⟩
    | cons event middle =>
        simp only [List.cons_append, List.cons.injEq] at hrest
        exact hfirst before element middle (by rw [hfirstEq, hrest.1])

/-! ### The counter and the events -/

structure Tallied (timeout : Timeval) (events : List Event) (counter : BitVec 32) : Prop where
  numbers : passed events = (List.range (passed events).length).map (BitVec.ofNat 32)
  counter_eq : counter + 1 = BitVec.ofNat 32 (passed events).length
  reasons : ∀ missing held age, .timedOut missing held age ∈ events →
    held.Live ∧ timercmpGe age timeout = true

theorem Tallied.append_of_quiet {events more : List Event} {counter : BitVec 32}
    (htallied : Tallied timeout events counter) (hquiet : passed more = []) :
    Tallied timeout (events ++ more) counter := by
  have hpassed : passed (events ++ more) = passed events := by rw [passed_append, hquiet,
    List.append_nil]
  refine ⟨by rw [hpassed]; exact htallied.numbers, by rw [hpassed]; exact htallied.counter_eq, ?_⟩
  intro missing held age hmem
  rcases List.mem_append.mp hmem with hmem | hmem
  · exact htallied.reasons missing held age hmem
  · have hnone : missing ∈ passed more := List.mem_filterMap.mpr ⟨_, hmem, rfl⟩
    simp [hquiet] at hnone

/-- Below the count, every number has been passed. -/
theorem Tallied.passed_of_lt {events : List Event} {counter : BitVec 32} {place : Nat}
    (htallied : Tallied timeout events counter) (hplace : place < (passed events).length) :
    Passed timeout (BitVec.ofNat 32 place) events := by
  have hmem : BitVec.ofNat 32 place ∈ passed events := by
    rw [htallied.numbers]
    exact List.mem_map_of_mem (List.mem_range.mpr hplace)
  obtain ⟨event, hevent, hpasses⟩ := List.mem_filterMap.mp hmem
  cases event <;> simp only [Event.passes, Option.some.injEq, reduceCtorEq] at hpasses
  case written element => exact Or.inl ⟨element, hevent, hpasses⟩
  case timedOut missing held age =>
    subst hpasses
    exact Or.inr ⟨held, age, hevent, htallied.reasons _ _ _ hevent⟩

theorem Tallied.advance {events more : List Event} {counter : BitVec 32}
    (htallied : Tallied timeout events counter) (hpasses : passed more = [counter + 1])
    (hreasons : ∀ missing held age, .timedOut missing held age ∈ more →
      held.Live ∧ timercmpGe age timeout = true) :
    Tallied timeout (events ++ more) (counter + 1) := by
  have hlength : (passed (events ++ more)).length = (passed events).length + 1 := by
    simp [hpasses]
  refine ⟨?_, ?_, ?_⟩
  · rw [hlength, List.range_succ, List.map_append, ← htallied.numbers, passed_append, hpasses,
      htallied.counter_eq, List.map_singleton]
  · rw [hlength, htallied.counter_eq]
    apply BitVec.eq_of_toNat_eq
    simp [Nat.add_mod]
  · intro missing held age hmem
    rcases List.mem_append.mp hmem with hmem | hmem
    · exact htallied.reasons missing held age hmem
    · exact hreasons missing held age hmem

/-! ### Held packets stay on course -/

theorem OnCourse.succ {count place : Nat} (hcourse : OnCourse count place) :
    OnCourse (count + 1) place := by
  rcases hcourse with hbehind | hnext | ⟨_, hlap⟩
  · exact Or.inl (by omega)
  · exact Or.inl (by omega)
  · rcases Nat.lt_or_ge place (count + 1) with hlt | hge
    · exact Or.inl hlt
    · have hlower : (count - 1) / 2 ^ 32 ≤ count / 2 ^ 32 := Nat.div_le_div_right (by omega)
      have hupper : count / 2 ^ 32 ≤ place / 2 ^ 32 := Nat.div_le_div_right (by omega)
      exact Or.inr (Or.inr ⟨by omega, by rw [Nat.add_sub_cancel]; omega⟩)

/-- On course, a number at or below the counter is a place the counter has passed. -/
theorem OnCourse.lt_of_le {count place : Nat} {counter : BitVec 32}
    (hcourse : OnCourse count place) (hne : place ≠ count)
    (hcounter : counter + 1 = BitVec.ofNat 32 count)
    (hle : BitVec.ofNat 32 place ≤ counter) : place < count := by
  rcases hcourse with hbehind | hnext | ⟨hpos, hlap⟩
  · exact hbehind
  · exact absurd hnext hne
  · by_contra hge
    have hnat : place % 2 ^ 32 ≤ counter.toNat := by
      simpa [BitVec.le_def] using hle
    have hsucc : (counter.toNat + 1) % 2 ^ 32 = count % 2 ^ 32 := by
      simpa using congrArg BitVec.toNat hcounter
    have hlt := counter.isLt
    omega

/-- Along a run: the events tell the counter, and every slot holds the number of a place that is
on course, `event` by `event`. -/
structure Course (timeout : Timeval) (position : Nat → Nat) (events : List Event)
    (counter : BitVec 32) (packets : List ReorderBufferElement) : Prop where
  tallied : Tallied timeout events counter
  justified : JustifiedDiscards timeout position events
  number : ∀ element ∈ packets,
    element.sequence = BitVec.ofNat 32 (position element.packet.handle)
  onCourse : ∀ element ∈ packets, element.Live →
    OnCourse (passed events).length (position element.packet.handle)

/-- A step of the counter keeps the stream on course. -/
theorem Course.advance {history : List Event} {flushing next : Flushing}
    (hcourse : Course timeout position (history ++ flushing.events) flushing.sequenceFlushed
      flushing.packets)
    (hadvance : Advance timeout now flushing next) :
    Course timeout position (history ++ next.events) next.sequenceFlushed next.packets := by
  obtain ⟨htallied, hjustified, hnumber, honCourse⟩ := hcourse
  cases hadvance with
  | flush before element after counter events hnext =>
      have hpasses : passed [.written element, .freed element.packet.handle] = [counter + 1] := by
        simp [passed, Event.passes, hnext]
      rw [← List.append_assoc]
      refine ⟨htallied.advance hpasses (by simp), hjustified.append (by simp), ?_, ?_⟩
      · intro other hother
        rcases List.mem_append.mp hother with hmem | hmem
        · exact hnumber other (by simp [hmem])
        · rcases List.mem_cons.mp hmem with rfl | hmem
          · exact hnumber element (by simp)
          · exact hnumber other (by simp [hmem])
      · intro other hother hlive
        rw [passed_append, hpasses, List.length_append, List.length_singleton]
        refine OnCourse.succ (honCourse other ?_ hlive)
        rcases List.mem_append.mp hother with hmem | hmem
        · simp [hmem]
        · rcases List.mem_cons.mp hmem with rfl | hmem
          · exact absurd hlive (not_live_flushed element)
          · simp [hmem]
  | skip packets held counter events hmissing hheld hoverdue =>
      have hpasses : passed [.timedOut (counter + 1) held (held.age now)] = [counter + 1] := rfl
      rw [← List.append_assoc]
      refine ⟨htallied.advance hpasses ?_, hjustified.append (by simp), hnumber, ?_⟩
      · intro missing other age hmem
        simp only [List.mem_singleton, Event.timedOut.injEq] at hmem
        obtain ⟨rfl, rfl, rfl⟩ := hmem
        exact hoverdue
      · intro other hother hlive
        rw [passed_append, hpasses, List.length_append, List.length_singleton]
        exact OnCourse.succ (honCourse other hother hlive)

/-- The discard step keeps the course: what it discards has been passed. -/
theorem Course.finish {history : List Event} {flushing : Flushing} (buffer : ByteMemory.Memory)
    (allocated : Nat)
    (hcourse : Course timeout position (history ++ flushing.events) flushing.sequenceFlushed
      flushing.packets)
    (hquiescent : Quiescent timeout now flushing) :
    Course timeout position (history ++ (Gre2tun.finish buffer allocated flushing).2)
      (Gre2tun.finish buffer allocated flushing).1.sequenceFlushed
      (Gre2tun.finish buffer allocated flushing).1.packets := by
  obtain ⟨htallied, hjustified, hnumber, honCourse⟩ := hcourse
  have hquiet := passed_discardEvents flushing.sequenceFlushed flushing.packets
  simp only [Gre2tun.finish, ← List.append_assoc]
  refine ⟨htallied.append_of_quiet hquiet, hjustified.append ?_, ?_, ?_⟩
  · intro element hdiscarded
    obtain ⟨late, hlate, hmem⟩ := List.mem_flatMap.mp hdiscarded
    obtain ⟨hpacket, hlate⟩ : late ∈ flushing.packets ∧ Late flushing.sequenceFlushed late := by
      simpa using hlate
    obtain rfl : element = late := by simpa using hmem
    have hplace : position element.packet.handle < (passed (history ++ flushing.events)).length := by
      refine (honCourse element hpacket hlate.1).lt_of_le ?_ htallied.counter_eq ?_
      · intro hnext
        apply hquiescent.missing element hpacket
        rw [htallied.counter_eq, ← hnext]
        exact hnumber element hpacket
      · rw [← hnumber element hpacket]
        exact hlate.2
    refine ⟨?_, hplace⟩
    rw [hnumber element hpacket]
    exact htallied.passed_of_lt hplace
  · intro element hmem
    obtain ⟨old, hold, ⟨rfl, _⟩ | ⟨rfl, _⟩⟩ := mem_compact_discardLate hmem
    · exact hnumber element hold
    · exact hnumber old hold
  · intro element hmem hlive
    rw [passed_append, hquiet, List.append_nil]
    obtain ⟨old, hold, ⟨rfl, _⟩ | ⟨rfl, _⟩⟩ := mem_compact_discardLate hmem
    · exact honCourse element hold hlive
    · exact absurd hlive (not_live_flushed old)

theorem Course.starts {history : History Input (List Event)} {state : State} {input : Input}
    {start : Flushing} {allocated : Nat}
    (hcourse : Course timeout position (outputs history) state.sequenceFlushed state.packets)
    (harrives : Arrives timeout position history state input)
    (hstarts : Starts timeout state input start allocated) :
    Course timeout position (outputs history ++ start.events) start.sequenceFlushed
      start.packets := by
  obtain ⟨htallied, hjustified, hnumber, honCourse⟩ := hcourse
  cases hstarts with
  | forwarded event hreceive =>
      have hevent : passed [event] = [] ∧ ∀ element, event ≠ .discarded element := by
        rcases receive_forwarded hreceive with ⟨_, rfl⟩ | ⟨_, rfl⟩ <;> simp [passed, Event.passes]
      refine ⟨htallied.append_of_quiet hevent.1, hjustified.append ?_, hnumber, ?_⟩
      · intro element hmem
        exact absurd (List.mem_singleton.mp hmem).symm (hevent.2 element)
      · rw [passed_append, hevent.1, List.append_nil]
        exact honCourse
  | idle hreceive =>
      rw [List.append_nil]
      exact ⟨htallied, hjustified, hnumber, honCourse⟩
  | enqueued element hreceive hsize =>
      obtain ⟨harrivesNumber, harrivesCourse⟩ := harrives element hreceive
      rw [List.append_nil]
      refine ⟨htallied, hjustified, ?_, ?_⟩
      · intro other hother
        rcases List.mem_append.mp hother with hmem | hmem
        · exact hnumber other hmem
        · exact List.mem_singleton.mp hmem ▸ harrivesNumber
      · intro other hother hlive
        rcases List.mem_append.mp hother with hmem | hmem
        · exact honCourse other hmem hlive
        · obtain rfl := List.mem_singleton.mp hmem
          exact harrivesCourse hlive

/-- What one iteration preserves. -/
theorem Course.step {history : History Input (List Event)} {state next : State} {input : Input}
    {events : List Event}
    (hcourse : Course timeout position (outputs history) state.sequenceFlushed state.packets)
    (harrives : Arrives timeout position history state input)
    (hstep : Step timeout state input events next) :
    Course timeout position (outputs (history ++ [(input, events)])) next.sequenceFlushed
      next.packets := by
  rw [outputs_append, outputs_singleton]
  rcases hstep.cases with ⟨_, rfl, rfl⟩ | ⟨start, allocated, flushing, hstarts, hreturns, hfinish⟩
  · simpa using hcourse
  · obtain ⟨hadvances, hquiescent⟩ := returns_flushRound hreturns
    have hstart := hcourse.starts harrives hstarts
    have hflushed := hadvances.invariant
      (fun flushing => Course timeout position (outputs history ++ flushing.events)
        flushing.sequenceFlushed flushing.packets)
      (fun _ _ hinv hadvance => hinv.advance hadvance) hstart
    obtain ⟨rfl, rfl⟩ := Prod.mk.inj hfinish
    exact hflushed.finish _ _ hquiescent

/-- **Justified discards.** In every run in which the packets put into the reorder buffer are on
course, a packet is discarded only after its number was written or skipped, and only when its own
place in the stream is behind the counter: a packet that merely arrives before its predecessors is
held. -/
theorem discards_justified {buffer : ByteMemory.Memory} {history : History Input (List Event)}
    {state : State}
    (hrun : RunWhere (Step timeout) (Arrives timeout position) (State.initial buffer) history
      state) :
    JustifiedDiscards timeout position (outputs history) := by
  have hinitial : Course timeout position (outputs ([] : History Input (List Event)))
      (State.initial buffer).sequenceFlushed (State.initial buffer).packets := by
    have hcounter : BitVec.allOnes 32 + 1 = BitVec.ofNat 32 0 := by decide
    refine ⟨⟨rfl, hcounter, by simp⟩, ?_, by simp [State.initial], by simp [State.initial]⟩
    intro before element after hsplit
    simp at hsplit
  have hcourse := hrun.invariant (fun history (state : State) =>
    Course timeout position (outputs history) state.sequenceFlushed state.packets) hinitial
    fun _ _ _ _ _ hcourse harrives hstep => hcourse.step harrives hstep
  exact hcourse.justified

/-- The first packet arrives twice: the second copy is discarded, and justly so. -/
theorem duplicate_discard_justified : ∃ history state,
    RunWhere (Step ⟨0, 250000⟩) (Arrives ⟨0, 250000⟩ fun _ => 0) (State.initial fun _ => 0) history
      state ∧
    (∃ element, .discarded element ∈ outputs history) ∧
    JustifiedDiscards ⟨0, 250000⟩ (fun _ => 0) (outputs history) := by
  have harrives : ∀ history (state : State),
      (passed (outputs history)).length ≤ 1 →
      Arrives ⟨0, 250000⟩ (fun _ => 0) history state (numbered 0) := by
    intro history state hcount element hreceive
    obtain rfl := Received.enqueued.inj ((receive_numbered _ 0).symm.trans hreceive)
    exact ⟨rfl, fun _ => by simp only [OnCourse]; omega⟩
  have hfirst := step_next rfl (receive_numbered (State.initial fun _ => 0) 0) (by decide)
  set buffer := (receive ⟨0, 250000⟩ (State.initial fun _ => 0) (numbered 0)).1
  have hsecond := step_late rfl (receive_numbered ⟨buffer, [], 0, 1⟩ 0) (by simp [numberedSlot])
    (by decide)
    ⟨by decide, BitVec.le_refl _⟩
  have hrun := RunWhere.snoc (.snoc .nil (harrives _ _ (Nat.zero_le 1)) hfirst)
    (harrives _ _ (le_refl 1)) hsecond
  exact ⟨_, _, hrun, ⟨numberedSlot 0 1, by simp [outputs]⟩, discards_justified hrun⟩

/-- The second packet of a stream arrives first and is discarded at once, with nothing written and
nothing timed out: the counter still has its initial value, and every number is at most
`UINT32_MAX`. -/
theorem second_packet_discarded : ∃ events state,
    Run ⟨0, 250000⟩ (State.initial fun _ => 0) [(numbered 1, events)] state ∧
      ∀ position, ¬ JustifiedDiscards ⟨0, 250000⟩ position events := by
  have hstep := step_late rfl (receive_numbered (State.initial fun _ => 0) 1) (by decide)
    (by decide) (by decide)
  refine ⟨_, _, .snoc .nil trivial hstep, fun position hjustified => ?_⟩
  obtain ⟨hpassed, _⟩ := hjustified [] _ _ rfl
  simp [Passed] at hpassed

end OpenHybrid.Gre2tun

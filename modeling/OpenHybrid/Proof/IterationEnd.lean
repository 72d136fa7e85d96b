import OpenHybrid.Proof.LateDiscard

/-!
# At the end of an iteration

The flush loops leave nothing deliverable and nothing overdue, the discard step leaves nothing late,
and neither the marks it sets nor the compaction bring any of it back. The counter has gone through
every number between where it was and where it is.
-/

namespace OpenHybrid.Gre2tun

open Transition

variable {timeout now : Timeval}

/-! ### What is left in the buffer -/

def Younger (age timeout : Timeval) : Prop :=
  age.tvSec < timeout.tvSec ∨ age.tvSec = timeout.tvSec ∧ age.tvUsec < timeout.tvUsec

theorem timercmpGe_eq_false_iff {age timeout : Timeval} :
    timercmpGe age timeout = false ↔ Younger age timeout := by
  unfold timercmpGe Younger
  split_ifs with hsame
  · simp [hsame]
  · simp only [decide_eq_false_iff_not, not_le, hsame, false_and, or_false]

/-- Every packet that is still held waits for another one, and has not waited for too long. -/
def Waiting (timeout now : Timeval) (state : State) : Prop :=
  ∀ element ∈ state.packets, element.Live →
    state.sequenceFlushed < element.sequence ∧
    element.sequence ≠ state.sequenceFlushed + 1 ∧
    Younger (element.age now) timeout

theorem not_late_iff {counter : BitVec 32} {element : ReorderBufferElement}
    (hlive : element.Live) : ¬ Late counter element ↔ counter < element.sequence := by
  rw [Late, not_and, imp_iff_right hlive, BitVec.not_le]

theorem not_overdue_iff {element : ReorderBufferElement} (hlive : element.Live) :
    ¬ Overdue timeout now element ↔ Younger (element.age now) timeout := by
  rw [Overdue, not_and, imp_iff_right hlive, ← timercmpGe_eq_false_iff, Bool.not_eq_true]

/-- The slots that get through the discard step alive were neither late nor touched by it. -/
theorem waiting_finish {flushing : Flushing} (hquiescent : Quiescent timeout now flushing)
    (buffer : ByteMemory.Memory) (allocated : Nat) :
    Waiting timeout now (finish buffer allocated flushing).1 := by
  intro element hmem hlive
  obtain ⟨old, hold, ⟨rfl, hkept⟩ | ⟨rfl, _⟩⟩ := mem_compact_discardLate hmem
  · exact ⟨(not_late_iff hlive).mp hkept, hquiescent.missing element hold,
      (not_overdue_iff hlive).mp (hquiescent.notOverdue element hold)⟩
  · exact absurd hlive (not_live_flushed old)

/-! ### What the counter went through -/

def stretch (start : BitVec 32) (count : Nat) : List (BitVec 32) :=
  (List.range count).map fun i => start + 1 + BitVec.ofNat 32 i

theorem stretch_succ (start : BitVec 32) (count : Nat) :
    stretch start (count + 1) = stretch start count ++ [start + BitVec.ofNat 32 count + 1] := by
  rw [stretch, List.range_succ, List.map_append, List.map_singleton, stretch,
    BitVec.add_assoc start 1, BitVec.add_comm 1, ← BitVec.add_assoc]

structure Contiguous (start : BitVec 32) (numbers : List (BitVec 32)) (last : BitVec 32) :
    Prop where
  numbers_eq : numbers = stretch start numbers.length
  last_eq : last = start + BitVec.ofNat 32 numbers.length

theorem contiguous_nil (start : BitVec 32) : Contiguous start [] start :=
  ⟨rfl, (BitVec.add_zero start).symm⟩

/-- The numbers go on without a gap. -/
theorem Contiguous.snoc {start last : BitVec 32} {numbers : List (BitVec 32)}
    (hcontiguous : Contiguous start numbers last) :
    Contiguous start (numbers ++ [last + 1]) (last + 1) := by
  obtain ⟨hnumbers, hlast⟩ := hcontiguous
  have hlength : (numbers ++ [last + 1]).length = numbers.length + 1 := by simp
  refine ⟨?_, ?_⟩
  · rw [hlength, stretch_succ, ← hnumbers, ← hlast]
  · rw [hlength, hlast, BitVec.add_assoc, BitVec.ofNat_add]
    rfl

/-- Every advance passes the one number it moves the counter to. -/
theorem Advance.passes {flushing next : Flushing} (hadvance : Advance timeout now flushing next) :
    next.sequenceFlushed = flushing.sequenceFlushed + 1 ∧
      passed next.events = passed flushing.events ++ [flushing.sequenceFlushed + 1] := by
  cases hadvance with
  | flush before element after counter events hnext =>
      refine ⟨rfl, ?_⟩
      rw [passed_append]
      simp [passed, Event.passes, hnext]
  | skip packets held counter events hmissing hheld hoverdue =>
      refine ⟨rfl, ?_⟩
      rw [passed_append]
      simp [passed, Event.passes]

/-- The counter never jumps. -/
theorem Advances.contiguous {start : BitVec 32} {flushing result : Flushing}
    (hadvances : Advances timeout now flushing result)
    (hcontiguous : Contiguous start (passed flushing.events) flushing.sequenceFlushed) :
    Contiguous start (passed result.events) result.sequenceFlushed := by
  refine hadvances.invariant
    (fun flushing => Contiguous start (passed flushing.events) flushing.sequenceFlushed) ?_
    hcontiguous
  intro flushing next hbefore hadvance
  obtain ⟨hcounter, hpassed⟩ := hadvance.passes
  rw [hcounter, hpassed]
  exact hbefore.snoc

theorem Starts.passes {state : State} {input : Input} {start : Flushing} {allocated : Nat}
    (hstarts : Starts timeout state input start allocated) :
    start.sequenceFlushed = state.sequenceFlushed ∧ passed start.events = [] := by
  cases hstarts with
  | forwarded event hreceive =>
      rcases receive_forwarded hreceive with ⟨_, rfl⟩ | ⟨_, rfl⟩ <;> exact ⟨rfl, rfl⟩
  | idle hreceive => exact ⟨rfl, rfl⟩
  | enqueued element hreceive hsize => exact ⟨rfl, rfl⟩

/-- **The end of an iteration.** Whatever state the thread is in, an iteration that is not left by
`continue` ends with nothing deliverable, late or overdue in the buffer, and the numbers it wrote
and skipped lead from the old counter to the new one without a gap. -/
theorem waiting_of_step {state next : State} {input : Input} {events : List Event}
    (hstep : Step timeout state input events next)
    (hthrough : (receive timeout state input).2 ≠ .skipped) :
    Waiting timeout input.now next ∧
      Contiguous state.sequenceFlushed (passed events) next.sequenceFlushed := by
  rcases hstep.cases with ⟨hskipped, _⟩ | ⟨start, allocated, flushing, hstarts, hreturns, hfinish⟩
  · exact absurd hskipped hthrough
  · obtain ⟨hadvances, hquiescent⟩ := returns_flushRound hreturns
    obtain ⟨rfl, rfl⟩ := Prod.mk.inj hfinish
    obtain ⟨hcounter, hnone⟩ := hstarts.passes
    have hstart : Contiguous state.sequenceFlushed (passed start.events) start.sequenceFlushed := by
      rw [hcounter, hnone]
      exact contiguous_nil _
    refine ⟨waiting_finish hquiescent _ _, ?_⟩
    rw [passed_append, passed_discardEvents, List.append_nil]
    exact hadvances.contiguous hstart

/-- With the counter at 0, packet 2 is held and waits for packet 1. -/
theorem held_waiting : ∃ next,
    next.packets = [numberedSlot 2 1] ∧ Waiting ⟨0, 250000⟩ ⟨5, 0⟩ next ∧
      Contiguous 0 [] next.sequenceFlushed := by
  set state : State := ⟨fun _ => 0, [], 0, 1⟩
  have hreceive := receive_numbered state 2
  have hstep : Step ⟨0, 250000⟩ state (numbered 2) []
      ⟨(receive ⟨0, 250000⟩ state (numbered 2)).1, [numberedSlot 2 1], 0, 2⟩ :=
    step_held hreceive rfl (by decide) ⟨by decide, by decide⟩ (by decide) (by decide)
  have hthrough : (receive ⟨0, 250000⟩ state (numbered 2)).2 ≠ .skipped := by
    rw [hreceive]
    simp
  have hend := waiting_of_step hstep hthrough
  exact ⟨⟨(receive ⟨0, 250000⟩ state (numbered 2)).1, [numberedSlot 2 1], 0, 2⟩, rfl, hend⟩

end OpenHybrid.Gre2tun

import OpenHybrid.Proof.Advance

/-!
# One packet in an empty buffer

A packet that finds the reorder buffer empty is written, discarded or held, depending on where its
number stands relative to the counter.
-/

namespace OpenHybrid.Gre2tun

variable {timeout : Timeval} {state : State} {input : Input} {element : ReorderBufferElement}

theorem starts_of_empty (hempty : state.packets = [])
    (hreceive : (receive timeout state input).2 = .enqueued element) :
    Starts timeout state input ⟨[element], state.sequenceFlushed, []⟩ (state.allocated + 1) := by
  have hstarts := Starts.enqueued element hreceive (by simp [hempty])
  rwa [hempty, List.nil_append] at hstarts

/-- When nothing is next and nothing overdue, the flush loops leave everything as it is. -/
theorem returns_of_quiescent {now : Timeval} (flushing : Flushing)
    (hquiescent : Quiescent timeout now flushing) :
    Loop.Returns (flushRound timeout now) flushing flushing := by
  rcases flushRound_cases timeout now flushing with
    ⟨⟨other, hother, hnext⟩, _⟩ | ⟨_, held, hheld, hoverdue, _⟩ | ⟨_, hleave⟩
  · exact absurd hnext (hquiescent.missing other hother)
  · exact absurd hoverdue (hquiescent.notOverdue held hheld)
  · exact Loop.returns_of_inr hleave

@[simp]
theorem compact_nil : compact [] = [] := rfl

theorem compact_of_live (hlive : element.Live) (rest : List ReorderBufferElement) :
    compact (element :: rest) = element :: rest := by
  have hsize : decide (element.size = 0) = false := decide_eq_false hlive
  have hfreeable : reorderBufferFreeable (element :: rest) = 0 := by
    rw [reorderBufferFreeable, List.takeWhile_cons, hsize]
    rfl
  simp [compact, hfreeable]

theorem compact_of_not_live (hdead : ¬ element.Live) : compact [element] = [] := by
  have hsize : element.size = 0 := by simpa [ReorderBufferElement.Live] using hdead
  simp [compact, reorderBufferFreeable, hsize]

theorem discardLate_of_not_late {counter : BitVec 32} {packets : List ReorderBufferElement}
    (hlate : ∀ element ∈ packets, ¬ Late counter element) :
    discardLate counter packets = packets := by
  rw [discardLate, List.map_congr_left fun element hmem => if_neg (hlate element hmem), List.map_id']

/-- The next packet is written at once. -/
theorem step_next (hempty : state.packets = [])
    (hreceive : (receive timeout state input).2 = .enqueued element)
    (hnext : element.sequence = state.sequenceFlushed + 1) :
    Step timeout state input [.written element, .freed element.packet.handle]
      ⟨(receive timeout state input).1, [], state.sequenceFlushed + 1, state.allocated + 1⟩ := by
  have hpass : flushPass state.sequenceFlushed [element] = ⟨[element.flushed],
      state.sequenceFlushed + 1, [.written element, .freed element.packet.handle]⟩ := by
    rw [flushPass, if_pos hnext]
    rfl
  have hround : flushRound timeout input.now ⟨[element], state.sequenceFlushed, []⟩ =
      .inl ⟨[element.flushed], state.sequenceFlushed + 1,
        [.written element, .freed element.packet.handle]⟩ := by
    simp [flushRound, hpass]
  have hquiescent : Quiescent timeout input.now ⟨[element.flushed], state.sequenceFlushed + 1,
      [.written element, .freed element.packet.handle]⟩ := by
    refine ⟨?_, ?_⟩
    · intro other hother
      obtain rfl := List.mem_singleton.mp hother
      have hsequence : element.flushed.sequence = state.sequenceFlushed + 1 := hnext
      rw [hsequence]
      bv_omega
    · intro other hother hoverdue
      obtain rfl := List.mem_singleton.mp hother
      exact not_live_flushed element hoverdue.1
  have hreturns := (returns_of_quiescent _ hquiescent).of_inl hround
  have hstep := Step.of_starts (starts_of_empty hempty hreceive) hreturns
  have hlate : ∀ counter, ¬ Late counter element.flushed :=
    fun counter hlate => not_live_flushed element hlate.1
  simpa [finish, discardLate, discardEvents, hlate, compact_of_not_live] using hstep

/-- A packet whose number has been passed is discarded at once. -/
theorem step_late (hempty : state.packets = [])
    (hreceive : (receive timeout state input).2 = .enqueued element)
    (hnext : element.sequence ≠ state.sequenceFlushed + 1)
    (hoverdue : ¬ Overdue timeout input.now element) (hlate : Late state.sequenceFlushed element) :
    Step timeout state input [.discarded element, .freed element.packet.handle]
      ⟨(receive timeout state input).1, [], state.sequenceFlushed, state.allocated + 1⟩ := by
  have hquiescent : Quiescent timeout input.now ⟨[element], state.sequenceFlushed, []⟩ :=
    ⟨by simpa using hnext, by simpa using hoverdue⟩
  have hreturns := returns_of_quiescent _ hquiescent
  have hstep := Step.of_starts (starts_of_empty hempty hreceive) hreturns
  simpa [finish, discardLate, discardEvents, hlate, compact_of_not_live] using hstep

/-- A packet that has to wait is kept. -/
theorem step_held {held : List ReorderBufferElement}
    (hreceive : (receive timeout state input).2 = .enqueued element)
    (hheld : state.packets ++ [element] = held) (hsize : held.length < 2 ^ 32)
    (hquiescent : Quiescent timeout input.now ⟨held, state.sequenceFlushed, []⟩)
    (hlate : ∀ other ∈ held, ¬ Late state.sequenceFlushed other)
    (hlive : ∀ other ∈ held, other.Live) :
    Step timeout state input []
      ⟨(receive timeout state input).1, held, state.sequenceFlushed, state.allocated + 1⟩ := by
  have hstarts := Starts.enqueued element hreceive (by rw [← hheld] at hsize; simpa using hsize)
  rw [hheld] at hstarts
  have hstep := Step.of_starts hstarts (returns_of_quiescent _ hquiescent)
  have hkeep := discardLate_of_not_late hlate
  have hquiet : discardEvents state.sequenceFlushed held = [] := by
    rw [discardEvents, List.filter_eq_nil_iff.mpr (by simpa using hlate), List.flatMap_nil]
  have hcompact : compact held = held := by
    cases held with
    | nil => rfl
    | cons first rest => exact compact_of_live (hlive first List.mem_cons_self) rest
  rwa [finish, hkeep, hquiet, hcompact] at hstep

/-! ### Packets of one byte -/

def numbered (number : BitVec 32) : Input where
  recvfrom := .datagram in6addrAny (dataMessage ethertypeIp 7 number [0x45#8])
  haapIp := in6addrAny
  timestamp := ⟨5, 0⟩
  now := ⟨5, 0⟩

def numberedSlot (number : BitVec 32) (handle : Nat) : ReorderBufferElement :=
  ⟨number, ⟨5, 0⟩, ⟨handle, [0x45#8]⟩, 1⟩

theorem receive_numbered (state : State) (number : BitVec 32) :
    (receive ⟨0, 250000⟩ state (numbered number)).2 =
      .enqueued (numberedSlot number state.allocated) :=
  (receive_dataMessage state (by simp) rfl).trans (if_neg (by decide))

end OpenHybrid.Gre2tun

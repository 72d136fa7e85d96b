import OpenHybrid.Proof.Conservation
import OpenHybrid.Proof.IterationEnd

/-!
# Compaction

The flushed slots in front of the first live one are removed, but they are counted in 16 bits. A
longer run of them is shortened by its length modulo 2^16, and what stays may be nothing but flushed
slots.
-/

namespace OpenHybrid.Gre2tun

open Transition

variable {timeout now : Timeval}

def flushedPrefix (packets : List ReorderBufferElement) : List ReorderBufferElement :=
  packets.takeWhile fun element => element.size = 0

/-- The prefix is counted in 16 bits. -/
theorem reorderBufferFreeable_eq (packets : List ReorderBufferElement) :
    reorderBufferFreeable packets = (flushedPrefix packets).length % 2 ^ 16 := rfl

/-! ### One compaction -/

/-- The compaction leaves `kept` of `packets`, as it should: every live slot and no flushed one in
front of the first of them. -/
structure Exact (packets kept : List ReorderBufferElement) : Prop where
  live : (kept.filter fun element => element.Live) = packets.filter fun element => element.Live
  removed : packets = flushedPrefix packets ++ kept
  first : kept = [] ∨ ∃ element rest, kept = element :: rest ∧ element.Live

theorem not_live_of_mem_flushedPrefix {packets : List ReorderBufferElement}
    {element : ReorderBufferElement} (hmem : element ∈ flushedPrefix packets) : ¬ element.Live := by
  have hsize := List.mem_takeWhile_imp hmem
  simpa [ReorderBufferElement.Live] using hsize

/-- Dropping the whole prefix is exact. -/
theorem exact_dropWhile (packets : List ReorderBufferElement) :
    Exact packets (packets.dropWhile fun element => element.size = 0) := by
  have hsplit : packets = flushedPrefix packets ++
      packets.dropWhile fun element => element.size = 0 := List.takeWhile_append_dropWhile.symm
  have hdead : ((flushedPrefix packets).filter fun element => element.Live) = [] := by
    rw [List.filter_eq_nil_iff]
    intro element hmem
    simpa using not_live_of_mem_flushedPrefix hmem
  refine ⟨?_, hsplit, ?_⟩
  · conv_rhs => rw [hsplit, List.filter_append, hdead, List.nil_append]
  · cases hkept : packets.dropWhile fun element => element.size = 0 with
    | nil => exact Or.inl rfl
    | cons element rest =>
        refine Or.inr ⟨element, rest, rfl, ?_⟩
        have hhead := List.head?_dropWhile_not (fun element : ReorderBufferElement =>
          decide (element.size = 0)) packets
        rw [hkept] at hhead
        simpa [ReorderBufferElement.Live] using hhead

/-- **When compaction is exact.** As long as the count of the flushed prefix fits 16 bits, and only
then. -/
theorem exact_compact_iff (packets : List ReorderBufferElement) :
    Exact packets (compact packets) ↔ (flushedPrefix packets).length < 2 ^ 16 := by
  have hlength : (flushedPrefix packets).length ≤ packets.length :=
    (List.takeWhile_prefix _).length_le
  rw [compact_eq_drop, reorderBufferFreeable_eq]
  constructor
  · intro hexact
    have hcount := congrArg List.length hexact.removed
    rw [List.length_append, List.length_drop] at hcount
    have hmod := Nat.mod_lt (flushedPrefix packets).length (show 0 < 2 ^ 16 by decide)
    omega
  · intro hshort
    have hexact := exact_dropWhile packets
    have hdrop : packets.drop (flushedPrefix packets).length =
        packets.dropWhile fun element => element.size = 0 := by
      calc packets.drop (flushedPrefix packets).length
          _ = (flushedPrefix packets ++ packets.dropWhile fun element => element.size = 0).drop
              (flushedPrefix packets).length := by rw [← hexact.removed]
          _ = packets.dropWhile fun element => element.size = 0 := List.drop_left
    rw [Nat.mod_eq_of_lt hshort, hdrop]
    exact hexact

/-! ### Along a run -/

def handles (packets : List ReorderBufferElement) : List Nat :=
  packets.map fun element => element.packet.handle

structure InOrder (allocated : Nat) (packets : List ReorderBufferElement) : Prop where
  increasing : (handles packets).Pairwise (· < ·)
  allocated : ∀ handle ∈ handles packets, handle < allocated

/-- No flushed slot is retained without a live packet, and with one at most as many as there are
blocks behind the oldest one's: `malloc` is called once for each slot that arrives. -/
structure FewFlushed (state : State) : Prop where
  empty : (∀ element ∈ state.packets, ¬ element.Live) → state.packets = []
  bounded : ∀ oldest ∈ state.packets, oldest.Live →
    (∀ other ∈ state.packets, other.Live → oldest.packet.handle ≤ other.packet.handle) →
    (state.packets.countP fun element => ¬ element.Live) ≤
      state.allocated - (oldest.packet.handle + 1)

def Compacts (timeout : Timeval) (state : State) (input : Input)
    (packets : List ReorderBufferElement) : Prop :=
  ∃ start allocated flushing, Starts timeout state input start allocated ∧
    Loop.Returns (flushRound timeout input.now) start flushing ∧
    packets = discardLate flushing.sequenceFlushed flushing.packets

/-- The flushed prefix of the buffer can be counted in 16 bits. -/
def Countable (timeout : Timeval) (state : State) (input : Input) : Prop :=
  ∀ packets, Compacts timeout state input packets → (flushedPrefix packets).length < 2 ^ 16

theorem length_le_of_increasing {numbers : List Nat} {low high : Nat}
    (hincreasing : numbers.Pairwise (· < ·)) (hlow : ∀ number ∈ numbers, low ≤ number)
    (hhigh : ∀ number ∈ numbers, number < high) : numbers.length ≤ high - low := by
  have hnodup : numbers.Nodup := hincreasing.imp fun hlt => Nat.ne_of_lt hlt
  have hsub : numbers.toFinset ⊆ Finset.Ico low high := by
    intro number hmem
    have hnumber := List.mem_toFinset.mp hmem
    exact Finset.mem_Ico.mpr ⟨hlow number hnumber, hhigh number hnumber⟩
  calc numbers.length
      _ = numbers.toFinset.card := (List.toFinset_card_of_nodup hnodup).symm
      _ ≤ (Finset.Ico low high).card := Finset.card_le_card hsub
      _ = high - low := Nat.card_Ico low high

theorem Advance.handles_eq {flushing next : Flushing} (hadvance : Advance timeout now flushing next) :
    handles next.packets = handles flushing.packets := by
  cases hadvance with
  | flush before element after counter events hnext => simp [handles, ReorderBufferElement.flushed]
  | skip packets held counter events hmissing hheld hoverdue => rfl

theorem Advances.handles_eq {flushing result : Flushing}
    (hadvances : Advances timeout now flushing result) :
    handles result.packets = handles flushing.packets :=
  hadvances.invariant (fun next => handles next.packets = handles flushing.packets)
    (fun _ _ hbefore hadvance => hadvance.handles_eq.trans hbefore) rfl

theorem handles_discardLate (counter : BitVec 32) (packets : List ReorderBufferElement) :
    handles (discardLate counter packets) = handles packets := by
  rw [handles, discardLate, List.map_map]
  refine List.map_congr_left fun element _ => ?_
  rw [Function.comp_apply]
  split_ifs <;> rfl

theorem InOrder.of_handles_eq {allocated : Nat} {packets others : List ReorderBufferElement}
    (horder : InOrder allocated packets) (hsame : handles others = handles packets) :
    InOrder allocated others :=
  ⟨hsame ▸ horder.increasing, hsame ▸ horder.allocated⟩

theorem InOrder.compact {allocated : Nat} {packets : List ReorderBufferElement}
    (horder : InOrder allocated packets) : InOrder allocated (compact packets) := by
  have hsub : (handles (Gre2tun.compact packets)).Sublist (handles packets) := by
    rw [compact_eq_drop]
    exact (List.drop_sublist _ _).map _
  exact ⟨horder.increasing.sublist hsub, fun handle hmem => horder.allocated handle (hsub.mem hmem)⟩

/-- A slot that arrives goes behind all others. -/
theorem Starts.inOrder {state : State} {input : Input} {start : Flushing} {allocated : Nat}
    (hstarts : Starts timeout state input start allocated)
    (horder : InOrder state.allocated state.packets) : InOrder allocated start.packets := by
  cases hstarts with
  | forwarded event hreceive => exact horder
  | idle hreceive => exact horder
  | enqueued element hreceive hsize =>
      have hhandle := (receive_enqueued hreceive).1
      have hhandles : handles (state.packets ++ [element]) =
          handles state.packets ++ [state.allocated] := by
        simp [handles, hhandle]
      refine ⟨?_, ?_⟩
      · rw [hhandles, List.pairwise_append]
        refine ⟨horder.increasing, List.pairwise_singleton _ _, fun handle hmem last hlast => ?_⟩
        rw [List.mem_singleton.mp hlast]
        exact horder.allocated handle hmem
      · intro handle hmem
        rw [hhandles, List.mem_append, List.mem_singleton] at hmem
        rcases hmem with hmem | rfl
        · exact Nat.lt_succ_of_lt (horder.allocated handle hmem)
        · exact Nat.lt_succ_self _

theorem Compacts.inOrder {state : State} {input : Input} {start flushing : Flushing}
    {allocated : Nat} (hstarts : Starts timeout state input start allocated)
    (hreturns : Loop.Returns (flushRound timeout input.now) start flushing)
    (horder : InOrder state.allocated state.packets) :
    InOrder allocated (discardLate flushing.sequenceFlushed flushing.packets) := by
  refine (hstarts.inOrder horder).of_handles_eq ?_
  rw [handles_discardLate]
  exact (returns_flushRound hreturns).1.handles_eq

/-- The first slot of the buffer is the oldest live packet, and the others arrived behind it. -/
theorem fewFlushed_of_first {state : State} (horder : InOrder state.allocated state.packets)
    (hfirst : state.packets = [] ∨ ∃ element rest, state.packets = element :: rest ∧ element.Live) :
    FewFlushed state := by
  rcases hfirst with hempty | ⟨first, rest, hpackets, hlive⟩
  · exact ⟨fun _ => hempty, fun oldest hmem => absurd (hempty ▸ hmem) List.not_mem_nil⟩
  obtain ⟨hincreasing, hallocated⟩ := horder
  rw [hpackets] at hincreasing hallocated
  rw [handles, List.map_cons, List.pairwise_cons] at hincreasing
  refine ⟨fun hdead => absurd hlive (hdead first (hpackets ▸ List.mem_cons_self)), ?_⟩
  intro oldest _ _ hmin
  have holdest := hmin first (hpackets ▸ List.mem_cons_self) hlive
  have hbehind : (handles rest).length ≤ state.allocated - (first.packet.handle + 1) :=
    length_le_of_increasing hincreasing.2 hincreasing.1
      fun handle hmem => hallocated handle (List.mem_cons_of_mem _ hmem)
  calc (state.packets.countP fun element => ¬ element.Live)
      _ = rest.countP fun element => ¬ element.Live := by
        rw [hpackets, List.countP_cons_of_neg (by simpa using hlive)]
      _ ≤ (handles rest).length := by
        rw [handles, List.length_map]
        exact List.countP_le_length
      _ ≤ state.allocated - (oldest.packet.handle + 1) := by omega

structure Compacted (state : State) : Prop where
  inOrder : InOrder state.allocated state.packets
  first : state.packets = [] ∨ ∃ element rest, state.packets = element :: rest ∧ element.Live

/-- What one iteration preserves, if its prefix can be counted. -/
theorem Compacted.step {state next : State} {input : Input} {events : List Event}
    (hcompacted : Compacted state) (hcountable : Countable timeout state input)
    (hstep : Step timeout state input events next) : Compacted next := by
  rcases hstep.cases with ⟨_, rfl, rfl⟩ | ⟨start, allocated, flushing, hstarts, hreturns, hfinish⟩
  · exact ⟨hcompacted.inOrder, hcompacted.first⟩
  · obtain ⟨rfl, rfl⟩ := Prod.mk.inj hfinish
    have hshort := hcountable _ ⟨start, allocated, flushing, hstarts, hreturns, rfl⟩
    exact ⟨(Compacts.inOrder hstarts hreturns hcompacted.inOrder).compact,
      ((exact_compact_iff _).mpr hshort).first⟩

/-- **Compaction.** It is exact when the count of the flushed prefix fits 16 bits, and only then; and
in every run in which all counts fit, the flushed slots that are retained are no more than the slots
that arrived behind the oldest live packet. -/
theorem compaction_exact (packets : List ReorderBufferElement) (timeout : Timeval)
    (buffer : ByteMemory.Memory) (history : History Input (List Event)) (state : State) :
    (Exact packets (compact packets) ↔ (flushedPrefix packets).length < 2 ^ 16) ∧
      (RunWhere (Step timeout) (fun _ => Countable timeout) (State.initial buffer) history state →
        FewFlushed state) := by
  refine ⟨exact_compact_iff packets, fun hrun => ?_⟩
  have hinitial : Compacted (State.initial buffer) :=
    ⟨⟨List.Pairwise.nil, fun _ hmem => absurd hmem List.not_mem_nil⟩, Or.inl rfl⟩
  have hcompacted : Compacted state := by
    refine hrun.invariant (fun _ state => Compacted state) hinitial ?_
    intro history state input events next hbefore hcountable hstep
    exact hbefore.step hcountable hstep
  exact fewFlushed_of_first hcompacted.inOrder hcompacted.first

/-- A buffer of fewer than 2^16 - 1 slots cannot have too long a prefix. -/
theorem countable_of_length {state : State} {input : Input}
    (hshort : state.packets.length + 1 < 2 ^ 16) : Countable timeout state input := by
  rintro packets ⟨start, allocated, flushing, hstarts, hreturns, rfl⟩
  have hstart : start.packets.length ≤ state.packets.length + 1 := by
    cases hstarts with
    | forwarded event hreceive => exact Nat.le_succ _
    | idle hreceive => exact Nat.le_succ _
    | enqueued element hreceive hsize => exact (List.length_append ..).le
  have hlength : (discardLate flushing.sequenceFlushed flushing.packets).length =
      start.packets.length := by
    have hsame := congrArg List.length (returns_flushRound hreturns).1.handles_eq
    simpa [handles, discardLate] using hsame
  calc (flushedPrefix (discardLate flushing.sequenceFlushed flushing.packets)).length
      _ ≤ (discardLate flushing.sequenceFlushed flushing.packets).length :=
        (List.takeWhile_prefix _).length_le
      _ < 2 ^ 16 := by omega

/-- Packet 0 is written and packet 2 held. -/
theorem compaction_exact_held : ∃ state, state.packets = [numberedSlot 2 1] ∧ FewFlushed state := by
  have hzero := step_next rfl (receive_numbered (State.initial fun _ => 0) 0) (by decide)
  set buffer := (receive ⟨0, 250000⟩ (State.initial fun _ => 0) (numbered 0)).1
  have htwo : Step ⟨0, 250000⟩ ⟨buffer, [], 0, 1⟩ (numbered 2) []
      ⟨(receive ⟨0, 250000⟩ ⟨buffer, [], 0, 1⟩ (numbered 2)).1, [numberedSlot 2 1], 0, 2⟩ :=
    step_held (receive_numbered _ 2) rfl (by decide) ⟨by decide, by decide⟩ (by decide) (by decide)
  have hrun : RunWhere (Step ⟨0, 250000⟩) (fun _ => Countable ⟨0, 250000⟩)
      (State.initial fun _ => 0) _ _ :=
    .snoc (.snoc .nil (countable_of_length (by decide)) hzero) (countable_of_length (by decide)) htwo
  exact ⟨⟨_, [numberedSlot 2 1], 0, 2⟩, rfl, (compaction_exact [] _ _ _ _).2 hrun⟩

/-! ### A prefix that is too long -/

def heldSlots (count : Nat) : List ReorderBufferElement :=
  (List.range count).map fun i => numberedSlot (BitVec.ofNat 32 (i + 2)) (i + 1)

@[simp]
theorem heldSlots_length (count : Nat) : (heldSlots count).length = count := by
  simp [heldSlots]

theorem heldSlots_succ (count : Nat) :
    heldSlots (count + 1) =
      heldSlots count ++ [numberedSlot (BitVec.ofNat 32 (count + 2)) (count + 1)] := by
  rw [heldSlots, List.range_succ, List.map_append, List.map_singleton, heldSlots]

theorem mem_heldSlots {count : Nat} {element : ReorderBufferElement}
    (hmem : element ∈ heldSlots count) :
    ∃ i < count, element = numberedSlot (BitVec.ofNat 32 (i + 2)) (i + 1) := by
  obtain ⟨i, hi, rfl⟩ := List.mem_map.mp hmem
  exact ⟨i, List.mem_range.mp hi, rfl⟩

theorem sequences_heldSlots (count : Nat) :
    (heldSlots count).map ReorderBufferElement.sequence = stretch 1 count := by
  rw [heldSlots, List.map_map, stretch]
  refine List.map_congr_left fun i _ => ?_
  show BitVec.ofNat 32 (i + 2) = 1 + 1 + BitVec.ofNat 32 i
  bv_omega

/-- The clock stands still, so nothing is overdue. -/
theorem not_overdue_numberedSlot (number : BitVec 32) (handle : Nat) :
    ¬ Overdue ⟨0, 250000⟩ ⟨5, 0⟩ (numberedSlot number handle) :=
  fun hoverdue => Bool.false_ne_true hoverdue.2

/-- So many packets may wait for packet 1. -/
theorem held_run (count : Nat) (hcount : count + 1 < 2 ^ 32) :
    ∃ history buffer, Run ⟨0, 250000⟩ (State.initial fun _ => 0) history
      ⟨buffer, heldSlots count, 0, count + 1⟩ := by
  induction count with
  | zero =>
      exact ⟨_, _, .snoc .nil trivial
        (step_next rfl (receive_numbered (State.initial fun _ => 0) 0) (by decide))⟩
  | succ count ih =>
      obtain ⟨history, buffer, hrun⟩ := ih (by omega)
      have hnumbers : ∀ element ∈ heldSlots (count + 1), 1 < element.sequence.toNat := by
        intro element hmem
        obtain ⟨i, hi, rfl⟩ := mem_heldSlots hmem
        show 1 < (i + 2) % 2 ^ 32
        omega
      have hquiescent : Quiescent ⟨0, 250000⟩ ⟨5, 0⟩ ⟨heldSlots (count + 1), 0, []⟩ := by
        refine ⟨fun element hmem hnext => ?_, fun element hmem => ?_⟩
        · have hnumber : 1 < (0 + 1 : BitVec 32).toNat := hnext ▸ hnumbers element hmem
          exact absurd hnumber (by decide)
        · obtain ⟨i, hi, rfl⟩ := mem_heldSlots hmem
          exact not_overdue_numberedSlot _ _
      have hlate : ∀ element ∈ heldSlots (count + 1), ¬ Late 0 element := by
        intro element hmem hlate
        have hnumber := hnumbers element hmem
        have hle : element.sequence.toNat ≤ 0 := hlate.2
        omega
      have hlive : ∀ element ∈ heldSlots (count + 1), element.Live := by
        intro element hmem
        obtain ⟨i, hi, rfl⟩ := mem_heldSlots hmem
        show (1 : BitVec 16) ≠ 0
        decide
      have hstep := step_held (receive_numbered ⟨buffer, heldSlots count, 0, count + 1⟩
        (BitVec.ofNat 32 (count + 2))) (heldSlots_succ count).symm
        (by rw [heldSlots_length]; omega) hquiescent hlate hlive
      exact ⟨_, _, .snoc hrun trivial hstep⟩

theorem stretch_cons (start : BitVec 32) (count : Nat) :
    stretch start (count + 1) = (start + 1) :: stretch (start + 1) count := by
  rw [stretch, List.range_succ_eq_map, List.map_cons, List.map_map, stretch, BitVec.add_zero]
  congr 1
  refine List.map_congr_left fun i _ => ?_
  show start + 1 + BitVec.ofNat 32 (i + 1) = start + 1 + 1 + BitVec.ofNat 32 i
  bv_omega

/-- A pass takes a whole stretch that stands in order. -/
theorem flushPass_of_stretch (packets rest : List ReorderBufferElement) (counter : BitVec 32)
    (hstretch : packets.map ReorderBufferElement.sequence = stretch counter packets.length)
    (hmissing : ∀ other ∈ rest,
      other.sequence ≠ counter + BitVec.ofNat 32 packets.length + 1) :
    ∃ events, flushPass counter (packets ++ rest) =
      ⟨packets.map ReorderBufferElement.flushed ++ rest,
        counter + BitVec.ofNat 32 packets.length, events⟩ := by
  induction packets generalizing counter with
  | nil =>
      rw [List.length_nil, BitVec.add_zero] at hmissing ⊢
      exact ⟨[], flushPass_of_missing hmissing⟩
  | cons element packets ih =>
      rw [List.map_cons, List.length_cons, stretch_cons, List.cons.injEq] at hstretch
      have hcount : counter + BitVec.ofNat 32 (element :: packets).length =
          counter + 1 + BitVec.ofNat 32 packets.length := by
        rw [List.length_cons]
        bv_omega
      rw [hcount] at hmissing ⊢
      obtain ⟨events, hpass⟩ := ih _ hstretch.2 hmissing
      rw [List.cons_append, flushPass, if_pos hstretch.1, hpass]
      exact ⟨_, rfl⟩

theorem flushedPrefix_of_dead {packets : List ReorderBufferElement}
    (hdead : ∀ element ∈ packets, ¬ element.Live) : flushedPrefix packets = packets := by
  rw [flushedPrefix, List.takeWhile_eq_self_iff]
  simpa [ReorderBufferElement.Live] using hdead

theorem compact_of_dead {packets : List ReorderBufferElement}
    (hdead : ∀ element ∈ packets, ¬ element.Live) :
    compact packets = packets.drop (packets.length % 2 ^ 16) := by
  rw [compact_eq_drop, reorderBufferFreeable_eq, flushedPrefix_of_dead hdead]

/-- Packet 1 arrives behind the others: one round writes it, a second one the others, and a third
finds nothing left to do. -/
theorem returns_heldSlots {count : Nat} (hpos : 0 < count) (hcount : count + 2 < 2 ^ 32) :
    ∃ counter events, Loop.Returns (flushRound ⟨0, 250000⟩ ⟨5, 0⟩)
      ⟨heldSlots count ++ [numberedSlot 1 (count + 1)], 0, []⟩
      ⟨(heldSlots count ++ [numberedSlot 1 (count + 1)]).map ReorderBufferElement.flushed,
        counter, events⟩ := by
  set last := numberedSlot 1 (count + 1) with hlast
  have hcounter : (1 : BitVec 32) + BitVec.ofNat 32 count + 1 = BitVec.ofNat 32 (count + 2) := by
    bv_omega
  have hnumbers : ∀ {element}, element ∈ heldSlots count →
      1 < element.sequence.toNat ∧ element.sequence.toNat < count + 2 := by
    intro element hmem
    obtain ⟨i, hi, rfl⟩ := mem_heldSlots hmem
    show 1 < (i + 2) % 2 ^ 32 ∧ (i + 2) % 2 ^ 32 < count + 2
    omega
  have hbehind : (BitVec.ofNat 32 (count + 2)).toNat = count + 2 := Nat.mod_eq_of_lt hcount
  have hone : last.sequence.toNat = 1 := rfl
  have hfirst : flushRound ⟨0, 250000⟩ ⟨5, 0⟩ ⟨heldSlots count ++ [last], 0, []⟩ =
      .inl ⟨heldSlots count ++ [last.flushed], 1, [.written last, .freed (count + 1)]⟩ := by
    refine flushRound_of_next (fun other hmem hsame => ?_) rfl
    have hnumber : 1 < (0 + 1 : BitVec 32).toNat := hsame ▸ (hnumbers hmem).1
    exact absurd hnumber (by decide)
  obtain ⟨events, hpass⟩ : ∃ events, flushPass 1 (heldSlots count ++ [last.flushed]) =
      ⟨(heldSlots count ++ [last]).map ReorderBufferElement.flushed, 1 + BitVec.ofNat 32 count,
        events⟩ := by
    have hstretch := flushPass_of_stretch (heldSlots count) [last.flushed] 1
      (by rw [sequences_heldSlots, heldSlots_length]) (by
        intro other hmem hsame
        rw [List.mem_singleton.mp hmem, heldSlots_length, hcounter] at hsame
        have hnat : last.sequence.toNat = _ := congrArg BitVec.toNat hsame
        omega)
    rwa [heldSlots_length, ← List.map_singleton, ← List.map_append] at hstretch
  have hevents : events ≠ [] := by
    have htwo : numberedSlot (BitVec.ofNat 32 2) 1 ∈ heldSlots count ++ [last.flushed] :=
      List.mem_append_left _ (List.mem_map_of_mem (List.mem_range.mpr hpos))
    have hnext : ¬ ∀ element ∈ heldSlots count ++ [last.flushed], element.sequence ≠ 1 + 1 :=
      fun hnone => hnone _ htwo rfl
    have hpassed := mt flushPass_events_eq_nil_iff.mp hnext
    rwa [hpass] at hpassed
  have hsecond : flushRound ⟨0, 250000⟩ ⟨5, 0⟩ ⟨heldSlots count ++ [last.flushed], 1,
      [.written last, .freed (count + 1)]⟩ =
      .inl ⟨(heldSlots count ++ [last]).map ReorderBufferElement.flushed,
        1 + BitVec.ofNat 32 count, [.written last, .freed (count + 1)] ++ events⟩ := by
    simp only [flushRound, hpass, ne_eq, hevents, not_false_eq_true, if_true]
  refine ⟨_, _, ((returns_of_quiescent _ ⟨?_, ?_⟩).of_inl hsecond).of_inl hfirst⟩
  · intro element hmem hsame
    obtain ⟨old, hold, rfl⟩ := List.mem_map.mp hmem
    have hnat : old.sequence.toNat = count + 2 :=
      (congrArg BitVec.toNat (hsame.trans hcounter)).trans hbehind
    rcases List.mem_append.mp hold with hheld | hlastMem
    · have hlt := (hnumbers hheld).2
      omega
    · rw [List.mem_singleton.mp hlastMem, hone] at hnat
      omega
  · intro element hmem hoverdue
    obtain ⟨old, _, rfl⟩ := List.mem_map.mp hmem
    exact not_live_flushed old hoverdue.1

/-- One iteration flushes all the packets of a run, and compacts what it has flushed. -/
theorem flushed_run (count : Nat) (hpos : 0 < count) (hcount : count + 2 < 2 ^ 32) :
    ∃ history state, Run ⟨0, 250000⟩ (State.initial fun _ => 0) history state ∧
      state.packets = compact
        ((heldSlots count ++ [numberedSlot 1 (count + 1)]).map ReorderBufferElement.flushed) := by
  obtain ⟨history, buffer, hrun⟩ := held_run count (by omega)
  obtain ⟨counter, events, hreturns⟩ := returns_heldSlots hpos hcount
  have hsize : (heldSlots count).length + 1 < 2 ^ 32 := by
    rw [heldSlots_length]
    omega
  have hstep := Step.of_starts (.enqueued _
    (receive_numbered ⟨buffer, heldSlots count, 0, count + 1⟩ 1) hsize) hreturns
  refine ⟨_, _, .snoc hrun trivial hstep, ?_⟩
  rw [finish]
  dsimp only
  rw [discardLate_of_not_late]
  intro element hmem hlate
  obtain ⟨old, _, rfl⟩ := List.mem_map.mp hmem
  exact not_live_flushed old hlate.1

/-- 65537 packets are flushed in one iteration, and 65536 of their slots stay in a buffer without a
live packet. -/
theorem compaction_wraps :
    (∃ packets, ¬ Exact packets (compact packets)) ∧
    ∃ history state, Run ⟨0, 250000⟩ (State.initial fun _ => 0) history state ∧
      state.packets.length = 65536 ∧ (∀ element ∈ state.packets, ¬ element.Live) ∧
      ¬ FewFlushed state := by
  obtain ⟨history, state, hrun, hpackets⟩ := flushed_run 65536 (by omega) (by omega)
  generalize hslots : (heldSlots 65536 ++ [numberedSlot 1 (65536 + 1)]).map
    ReorderBufferElement.flushed = slots at hpackets
  have hlength : slots.length = 65537 := by
    rw [← hslots, List.length_map, List.length_append, heldSlots_length, List.length_singleton]
  have hdead : ∀ element ∈ slots, ¬ element.Live := by
    intro element hmem
    rw [← hslots] at hmem
    obtain ⟨old, _, rfl⟩ := List.mem_map.mp hmem
    exact not_live_flushed old
  rw [compact_of_dead hdead, hlength] at hpackets
  have hstate : state.packets.length = 65536 := by
    rw [hpackets, List.length_drop, hlength]
    omega
  have hstateDead : ∀ element ∈ state.packets, ¬ element.Live := fun element hmem =>
    hdead element (List.mem_of_mem_drop (hpackets ▸ hmem))
  refine ⟨⟨slots, fun hexact => ?_⟩, history, state, hrun, hstate, hstateDead, fun hfew => ?_⟩
  · have hshort := (exact_compact_iff slots).mp hexact
    rw [flushedPrefix_of_dead hdead, hlength] at hshort
    omega
  · rw [hfew.empty hstateDead] at hstate
    exact absurd hstate (by decide)

end OpenHybrid.Gre2tun

import OpenHybrid.Proof.EmptyBuffer
import OpenHybrid.Proof.Termination

/-!
# Late packets

A packet whose number has been passed is put into the buffer like any other, goes through the flush
loops and the timeout check, and is thrown out behind them. As long as the counter has no way round
to its number, and it is not overdue itself, these do with it exactly what they do without it.
-/

namespace OpenHybrid.Gre2tun

open ByteMemory Transition

variable {timeout now : Timeval} {last counter : BitVec 32} {packets : List ReorderBufferElement}

/-! ### How far the counter gets -/

/-- No slot carries the number behind `last`, and nothing overdue forces the counter past it. -/
structure Fenced (timeout now : Timeval) (last counter : BitVec 32)
    (packets : List ReorderBufferElement) : Prop where
  behind : counter ≤ last
  absent : ∀ element ∈ packets, element.sequence ≠ last + 1
  overdue : ∀ element ∈ packets, Overdue timeout now element →
    counter < element.sequence ∧ element.sequence ≤ last
  unshared : Unshared timeout now packets

theorem Fenced.skip {held : ReorderBufferElement}
    (hfenced : Fenced timeout now last counter packets)
    (hmissing : ∀ element ∈ packets, element.sequence ≠ counter + 1) (hheld : held ∈ packets)
    (hoverdue : Overdue timeout now held) : Fenced timeout now last (counter + 1) packets := by
  refine ⟨?_, hfenced.absent, fun element hmem hlate => ?_, hfenced.unshared⟩
  · obtain ⟨hlow, hhigh⟩ := hfenced.overdue held hheld hoverdue
    bv_omega
  · obtain ⟨hlow, hhigh⟩ := hfenced.overdue element hmem hlate
    have hne := hmissing element hmem
    exact ⟨by bv_omega, hhigh⟩

theorem Fenced.flush {before after : List ReorderBufferElement} {element : ReorderBufferElement}
    (hfenced : Fenced timeout now last counter (before ++ element :: after))
    (hnext : element.sequence = counter + 1) :
    Fenced timeout now last (counter + 1) (before ++ element.flushed :: after) := by
  have hmem : ∀ other ∈ before ++ after, other ∈ before ++ element :: after := by
    intro other hother
    rcases List.mem_append.mp hother with hmem | hmem <;> simp [hmem]
  have hbehind := hfenced.behind
  have hnotLast := hfenced.absent element (by simp)
  refine ⟨by bv_omega, fun other hother => ?_, fun other hother hlate => ?_, hfenced.unshared.flush⟩
  · rcases mem_flush_iff.mp hother with rfl | hother
    · exact hnotLast
    · exact hfenced.absent other (hmem other hother)
  · rcases mem_flush_iff.mp hother with rfl | hother
    · exact absurd hlate.1 (not_live_flushed element)
    · obtain ⟨hlow, hhigh⟩ := hfenced.overdue other (hmem other hother) hlate
      -- whoever shares the number of the flushed slot is not overdue
      have hother : other.sequence ≠ element.sequence :=
        fun hsame => hfenced.unshared.not_overdue hother hsame hlate
      exact ⟨by bv_omega, hhigh⟩

/-- The counter moves on and stays behind the fence. -/
theorem Fenced.advance {flushing next : Flushing}
    (hfenced : Fenced timeout now last flushing.sequenceFlushed flushing.packets)
    (hadvance : Advance timeout now flushing next) :
    Fenced timeout now last next.sequenceFlushed next.packets ∧
      flushing.sequenceFlushed ≤ next.sequenceFlushed := by
  have hbehind := hfenced.behind
  cases hadvance with
  | flush before element after counter events hnext =>
      have hnotLast := hfenced.absent element (by simp)
      exact ⟨hfenced.flush hnext, by bv_omega⟩
  | skip packets held counter events hmissing hheld hoverdue =>
      have hheld' := hfenced.overdue held hheld hoverdue
      exact ⟨hfenced.skip hmissing hheld hoverdue, by bv_omega⟩

/-- The loops leave the counter between where it was and the fence. -/
theorem Fenced.advances {flushing next : Flushing}
    (hfenced : Fenced timeout now last flushing.sequenceFlushed flushing.packets)
    (hadvances : Advances timeout now flushing next) :
    Fenced timeout now last next.sequenceFlushed next.packets ∧
      flushing.sequenceFlushed ≤ next.sequenceFlushed := by
  refine hadvances.invariant (fun reached =>
    Fenced timeout now last reached.sequenceFlushed reached.packets ∧
      flushing.sequenceFlushed ≤ reached.sequenceFlushed) ?_ ⟨hfenced, BitVec.le_refl _⟩
  rintro reached next ⟨hreached, hle⟩ hadvance
  obtain ⟨hnext, hmore⟩ := hreached.advance hadvance
  exact ⟨hnext, BitVec.le_trans hle hmore⟩

theorem Fenced.halts {flushing : Flushing}
    (hfenced : Fenced timeout now last flushing.sequenceFlushed flushing.packets) :
    Loop.Halts (flushRound timeout now) flushing := by
  refine Loop.halts_of_measure
    (fun flushing => Fenced timeout now last flushing.sequenceFlushed flushing.packets)
    (fun flushing => lead (last + 1) flushing.sequenceFlushed) ?_ hfenced
  intro flushing next hfenced hround
  refine ⟨(hfenced.advances (flushRound_inl hround)).1, ?_⟩
  have habsent : last + 1 ∉ sequences flushing.packets := by
    intro hmem
    obtain ⟨element, helement, hsequence⟩ := List.mem_map.mp hmem
    exact hfenced.absent element helement hsequence
  rcases (flushRound_inl_cases hround).2 with ⟨hmem, hscan⟩ | ⟨-, hskip, held, hheld, hoverdue⟩
  · rw [hscan]
    exact (lead_scan habsent _).2 hmem
  · obtain ⟨hlow, hhigh⟩ := hfenced.overdue held hheld hoverdue
    rw [hskip]
    exact lead_succ (by bv_omega)

/-! ### A slot nobody takes -/

def Flushing.withLast (element : ReorderBufferElement) (flushing : Flushing) : Flushing :=
  { flushing with packets := flushing.packets ++ [element] }

variable {element : ReorderBufferElement}

/-- A pass does not notice a last slot whose turn has not come. -/
theorem flushPass_withLast :
    ∀ {counter : BitVec 32},
      element.sequence ≠ (flushPass counter packets).sequenceFlushed + 1 →
      flushPass counter (packets ++ [element]) = (flushPass counter packets).withLast element := by
  induction packets with
  | nil =>
      intro counter hne
      have hmissing : ∀ other ∈ [element], other.sequence ≠ counter + 1 := by
        rintro other hother
        rw [List.mem_singleton.mp hother]
        exact hne
      exact flushPass_of_missing hmissing
  | cons head rest ih =>
      intro counter hne
      rw [List.cons_append]
      by_cases hnext : head.sequence = counter + 1
      · rw [flushPass, if_pos hnext] at hne ⊢
        rw [flushPass, if_pos hnext, ih hne]
        rfl
      · rw [flushPass, if_neg hnext] at hne ⊢
        rw [flushPass, if_neg hnext, ih hne]
        rfl

/-- A round that takes another slot, or none, does not see the last one. -/
theorem flushRound_withLast {flushing : Flushing} (hfresh : ¬ Overdue timeout now element)
    (hne : element.sequence ≠
      (flushPass flushing.sequenceFlushed flushing.packets).sequenceFlushed + 1) :
    flushRound timeout now (flushing.withLast element) =
      Sum.map (Flushing.withLast element) (Flushing.withLast element)
        (flushRound timeout now flushing) := by
  have hpass : flushPass (flushing.withLast element).sequenceFlushed
      (flushing.withLast element).packets =
        (flushPass flushing.sequenceFlushed flushing.packets).withLast element :=
    flushPass_withLast hne
  have hfind : ∀ packets : List ReorderBufferElement,
      ((packets ++ [element]).find? fun other => Overdue timeout now other) =
        packets.find? fun other => Overdue timeout now other := by
    intro packets
    rw [List.find?_append]
    simp [hfresh]
  unfold flushRound
  rw [hpass]
  simp only [Flushing.withLast, hfind]
  split
  · rfl
  · split <;> rfl

theorem Fenced.ne_next {first number : BitVec 32} (hfirst : first ≤ counter)
    (hbehind : counter ≤ last) (hlate : number ≤ first) (hnumber : number ≠ last + 1) :
    number ≠ counter + 1 := by
  by_cases hlast : counter = last
  · rw [hlast]
    exact hnumber
  · bv_omega

/-- The loops do not see a slot whose number they do not get to. -/
theorem Fenced.returns_withLast {start result : Flushing}
    (hfenced : Fenced timeout now last start.sequenceFlushed start.packets)
    (hfresh : ¬ Overdue timeout now element) (hlate : element.sequence ≤ start.sequenceFlushed)
    (hnumber : element.sequence ≠ last + 1)
    (hreturns : Loop.Returns (flushRound timeout now) start result) :
    Loop.Returns (flushRound timeout now) (start.withLast element) (result.withLast element) := by
  obtain ⟨rounds, hrun⟩ := hreturns
  refine ⟨rounds, ?_⟩
  rw [Loop.run_lockstep (Flushing.withLast element) (Flushing.withLast element)
    (fun flushing => Fenced timeout now last flushing.sequenceFlushed flushing.packets ∧
      start.sequenceFlushed ≤ flushing.sequenceFlushed) ?_ ?_ rounds
    ⟨hfenced, BitVec.le_refl _⟩, hrun]
  · rfl
  · rintro flushing next ⟨hreached, hle⟩ hround
    obtain ⟨hnext, hmore⟩ := hreached.advances (flushRound_inl hround)
    exact ⟨hnext, BitVec.le_trans hle hmore⟩
  · rintro ⟨packets, counter, events⟩ ⟨hreached, hle⟩
    have hpass : Advances timeout now ⟨packets, counter, events⟩ _ :=
      flushPass_advances packets [] counter events
    obtain ⟨hpassed, hmore⟩ := hreached.advances hpass
    exact flushRound_withLast hfresh
      (Fenced.ne_next (BitVec.le_trans hle hmore) hpassed.behind hlate hnumber)

/-! ### Discarding it -/

theorem filter_compact (packets : List ReorderBufferElement) :
    ((compact packets).filter fun element => element.Live) =
      packets.filter fun element => element.Live := by
  obtain ⟨gone, hgone, hdead⟩ := exists_append_compact packets
  have hnone : (gone.filter fun element => element.Live) = [] := by
    rw [List.filter_eq_nil_iff]
    intro element hmem
    simpa using hdead element hmem
  calc ((compact packets).filter fun element => element.Live)
      _ = (gone ++ compact packets).filter fun element => element.Live := by
        rw [List.filter_append, hnone, List.nil_append]
      _ = packets.filter fun element => element.Live := by rw [← hgone]

/-- Behind the loops the last slot is thrown out, and that is all. -/
theorem finish_withLast {flushing : Flushing} (buffer other : Memory) (allocated more : Nat)
    (hlate : Late flushing.sequenceFlushed element) :
    (finish other more (flushing.withLast element)).2 =
        (finish buffer allocated flushing).2 ++
          [.discarded element, .freed element.packet.handle] ∧
      (finish other more (flushing.withLast element)).1.sequenceFlushed =
        (finish buffer allocated flushing).1.sequenceFlushed ∧
      ((finish other more (flushing.withLast element)).1.packets.filter fun held => held.Live) =
        (finish buffer allocated flushing).1.packets.filter fun held => held.Live := by
  obtain ⟨packets, counter, events⟩ := flushing
  have hdiscard : discardLate counter (packets ++ [element]) =
      discardLate counter packets ++ [element.flushed] := by
    unfold discardLate
    rw [List.map_append, List.map_singleton, if_pos hlate]
  have hevents : discardEvents counter (packets ++ [element]) =
      discardEvents counter packets ++ [.discarded element, .freed element.packet.handle] := by
    unfold discardEvents
    rw [List.filter_append, List.flatMap_append, List.filter_singleton]
    simp [show Late counter element from hlate]
  refine ⟨?_, rfl, ?_⟩
  · unfold finish Flushing.withLast
    dsimp only
    rw [hevents, List.append_assoc]
  · unfold finish Flushing.withLast
    dsimp only
    rw [hdiscard, filter_compact, filter_compact, List.filter_append, List.filter_singleton]
    simp

/-! ### Iterations -/

theorem lt_of_held {buffer : Memory} {history : History Input (List Event)} {state : State}
    (hrun : Run timeout (State.initial buffer) history state) :
    ∀ element ∈ state.packets, element.Live → state.sequenceFlushed < element.sequence := by
  refine hrun.invariant (fun _ state =>
    ∀ element ∈ state.packets, element.Live → state.sequenceFlushed < element.sequence) ?_ ?_
  · intro element hmem
    exact absurd hmem List.not_mem_nil
  · intro history state input events next hheld _ hstep
    rcases hstep.cases with ⟨-, rfl, -⟩ | ⟨start, allocated, flushing, -, -, hfinish⟩
    · exact hheld
    · obtain ⟨rfl, -⟩ := Prod.mk.inj hfinish
      intro element hmem hlive
      obtain ⟨old, -, ⟨rfl, hnot⟩ | ⟨rfl, -⟩⟩ := mem_compact_discardLate hmem
      · exact BitVec.not_le.mp fun hle => hnot ⟨hlive, hle⟩
      · exact absurd hlive (not_live_flushed old)

/-- A sequenced packet with a payload comes from the HAAP, and its number has been passed. -/
structure LateArrival (state : State) (input : Input) (number : BitVec 32) : Prop where
  arrives : ∃ bytes, input.recvfrom = .datagram input.haapIp bytes ∧ 12 < bytes.length ∧
    (Grehdr.at (received state.buffer bytes)).flagsAndVersion = htons grecpFlagsandversionWithSeq ∧
    ntohl (load 32 ((received state.buffer bytes).shift 8)) = number
  late : number ≤ state.sequenceFlushed
  notNext : number ≠ state.sequenceFlushed + 1

def Input.withoutArrival (input : Input) : Input := { input with recvfrom := .failed true }

/-- The iteration throws the packet out and otherwise does what it would have done without it. -/
def Harmless (timeout : Timeval) (state : State) (input : Input) (number : BitVec 32) : Prop :=
  ∃ (events : List Event) (next after : State) (element : ReorderBufferElement),
    Step timeout state input.withoutArrival events next ∧
      Step timeout state input
        (events ++ [.discarded element, .freed element.packet.handle]) after ∧
      element.packet.handle = state.allocated ∧ element.sequence = number ∧
      element.payload = input.payload ∧
      after.sequenceFlushed = next.sequenceFlushed ∧
      (after.packets.filter fun held => held.Live) = next.packets.filter fun held => held.Live

/-- Reordering is enabled, the slot array can take the packet, the packet is not overdue as soon as
it has arrived, and the counter stops before it comes round to the packet's number: the number
behind some `last` is carried by no slot and is not the packet's, and what is overdue lies before it
and shares its number with no other slot. -/
structure Outpaced (timeout : Timeval) (state : State) (input : Input) (number : BitVec 32) :
    Prop where
  reorders : ¬ (timeout.tvSec = 0 ∧ timeout.tvUsec = 0)
  room : state.packets.length + 1 < 2 ^ 32
  fresh : timercmpGe (timersub input.now input.timestamp) timeout = false
  stops : ∃ last, state.sequenceFlushed ≤ last ∧ number ≠ last + 1 ∧
    (∀ element ∈ state.packets, element.sequence ≠ last + 1) ∧
    (∀ element ∈ state.packets, Overdue timeout input.now element → element.sequence ≤ last) ∧
    Unshared timeout input.now state.packets

/-- The late packet is put into the buffer first. -/
theorem receive_late {state : State} {input : Input} {number : BitVec 32}
    (hreorders : ¬ (timeout.tvSec = 0 ∧ timeout.tvUsec = 0))
    (harrival : LateArrival state input number) :
    ∃ element, (receive timeout state input).2 = .enqueued element ∧ element.sequence = number ∧
      element.timestamp = input.timestamp ∧ element.payload = input.payload ∧ element.Live := by
  obtain ⟨bytes, hrecvfrom, hlength, hflags, hnumber⟩ := harrival.arrives
  have hpayload : input.payload ≠ [] := by
    intro hnone
    unfold Input.payload at hnone
    rw [hrecvfrom] at hnone
    have hshort := List.drop_eq_nil_iff.mp hnone
    rw [List.length_take, maxPktSize] at hshort
    omega
  have hreceive : ∃ element, (receive timeout state input).2 = .enqueued element ∧
      element.sequence = number ∧ element.timestamp = input.timestamp := by
    unfold receive
    rw [hrecvfrom]
    simp only [ne_eq, not_true_eq_false, if_false, hflags, if_true, if_neg hreorders]
    exact ⟨_, rfl, hnumber, rfl⟩
  obtain ⟨element, henqueued, hsequence, htimestamp⟩ := hreceive
  obtain ⟨hbytes, hlive⟩ := receive_enqueued_payload henqueued hpayload
  exact ⟨element, henqueued, hsequence, htimestamp, hbytes, hlive⟩

/-- A late packet does no harm in any state the thread can reach. -/
theorem late_harmless {buffer : Memory} {history : History Input (List Event)} {state : State}
    (hrun : Run timeout (State.initial buffer) history state) {input : Input} {number : BitVec 32}
    (harrival : LateArrival state input number) (houtpaced : Outpaced timeout state input number) :
    Harmless timeout state input number := by
  obtain ⟨element, hreceive, rfl, htimestamp, hpayload, hlive⟩ :=
    receive_late houtpaced.reorders harrival
  obtain ⟨last, hbehind, hnumber, habsent, hoverdue, hunshared⟩ := houtpaced.stops
  have hfenced : Fenced timeout input.now last state.sequenceFlushed state.packets :=
    ⟨hbehind, habsent, fun held hmem hlate =>
      ⟨lt_of_held hrun held hmem hlate.1, hoverdue held hmem hlate⟩, hunshared⟩
  have hfresh : ¬ Overdue timeout input.now element := by
    rintro ⟨-, hage⟩
    rw [ReorderBufferElement.age, htimestamp, houtpaced.fresh] at hage
    exact absurd hage Bool.false_ne_true
  have hhalts : Loop.Halts (flushRound timeout input.now)
      ⟨state.packets, state.sequenceFlushed, []⟩ := Fenced.halts hfenced
  obtain ⟨result, hreturns⟩ := hhalts
  have hwith := Fenced.returns_withLast hfenced hfresh harrival.late hnumber hreturns
  have hlate : Late result.sequenceFlushed element :=
    ⟨hlive, BitVec.le_trans harrival.late
      (Fenced.advances hfenced (returns_flushRound hreturns).1).2⟩
  have hidle : Step timeout state input.withoutArrival _ _ :=
    Step.of_starts (.idle rfl) hreturns
  have hother : Step timeout state input _ _ :=
    Step.of_starts (.enqueued element hreceive houtpaced.room) hwith
  obtain ⟨hevents, hcounter, hheld⟩ :=
    finish_withLast (receive timeout state input.withoutArrival).1 (receive timeout state input).1
      state.allocated (state.allocated + 1) hlate
  rw [hevents] at hother
  exact ⟨_, _, _, element, hidle, hother, (receive_enqueued hreceive).1, rfl, hpayload, hcounter,
    hheld⟩

theorem lateArrival_numbered {state : State} {number : BitVec 32}
    (hlate : number ≤ state.sequenceFlushed) (hnext : number ≠ state.sequenceFlushed + 1) :
    LateArrival state (numbered number) number := by
  obtain ⟨hheader, hsequence, -⟩ := received_dataMessage ethertypeIp 7 number state.buffer
    (show [0x45#8].length ≤ 1488 by decide)
  refine ⟨⟨_, rfl, ?_, ?_, hsequence⟩, hlate, hnext⟩
  · rw [dataMessage_length]
    decide
  · rw [hheader]
    rfl

/-- Packet 0 comes a second time while packet 2 waits for packet 1. -/
theorem duplicate_harmless : ∃ history state,
    Run ⟨0, 250000⟩ (State.initial fun _ => 0) history state ∧
      Harmless ⟨0, 250000⟩ state (numbered 0) 0 := by
  have hfirst := step_next rfl (receive_numbered (State.initial fun _ => 0) 0) (by decide)
  set buffer := (receive ⟨0, 250000⟩ (State.initial fun _ => 0) (numbered 0)).1
  have hquiescent : Quiescent ⟨0, 250000⟩ (numbered 2).now ⟨[numberedSlot 2 1], 0, []⟩ :=
    ⟨by decide, by decide⟩
  have hsecond : Step ⟨0, 250000⟩ ⟨buffer, [], 0, 1⟩ (numbered 2) []
      ⟨_, [numberedSlot 2 1], 0, 2⟩ :=
    step_held (receive_numbered ⟨buffer, [], 0, 1⟩ 2) rfl (by decide) hquiescent (by decide)
      (by decide)
  have hrun : Run ⟨0, 250000⟩ (State.initial fun _ => 0) _ _ :=
    .snoc (.snoc .nil trivial hfirst) trivial hsecond
  have hstops : Unshared ⟨0, 250000⟩ (numbered 0).now [numberedSlot 2 1] :=
    List.pairwise_singleton _ _
  exact ⟨_, _, hrun, late_harmless hrun (lateArrival_numbered (BitVec.le_refl _) (by simp))
    ⟨by decide, by decide, by decide, 0, by simp, by decide, by decide, by decide, hstops⟩⟩

/-- Packet 5 comes before anything else, and a quarter of a second passes before the clock is read
again. -/
def overtaken : Input := { numbered 5 with now := ⟨5, 250000⟩ }

/-- The thread gives up on the five numbers before it and writes it. -/
theorem step_overtaken : ∃ next, Step ⟨0, 250000⟩ (State.initial fun _ => 0) overtaken
    [.timedOut 0 (numberedSlot 5 0) ⟨0, 250000⟩, .timedOut 1 (numberedSlot 5 0) ⟨0, 250000⟩,
      .timedOut 2 (numberedSlot 5 0) ⟨0, 250000⟩, .timedOut 3 (numberedSlot 5 0) ⟨0, 250000⟩,
      .timedOut 4 (numberedSlot 5 0) ⟨0, 250000⟩, .written (numberedSlot 5 0), .freed 0] next := by
  have hstarts : Starts ⟨0, 250000⟩ (State.initial fun _ => 0) overtaken
      ⟨[numberedSlot 5 0], BitVec.allOnes 32, []⟩ 1 :=
    starts_of_empty rfl (receive_numbered (State.initial fun _ => 0) 5)
  have hreturns : Loop.Returns (flushRound ⟨0, 250000⟩ ⟨5, 250000⟩)
      ⟨[numberedSlot 5 0], BitVec.allOnes 32, []⟩ ⟨[(numberedSlot 5 0).flushed], 5, _⟩ := ⟨7, rfl⟩
  exact ⟨_, Step.of_starts hstarts hreturns⟩

/-- It is overdue at once and moves the counter itself, up to its own number. -/
theorem overtaken_written :
    Run ⟨0, 250000⟩ (State.initial fun _ => 0) [] (State.initial fun _ => 0) ∧
      LateArrival (State.initial fun _ => 0) overtaken 5 ∧
      ¬ Harmless ⟨0, 250000⟩ (State.initial fun _ => 0) overtaken 5 := by
  refine ⟨.nil, ?_, ?_⟩
  · obtain ⟨harrives, hlate, hnext⟩ :=
      @lateArrival_numbered (State.initial fun _ => 0) 5 (by decide) (by decide)
    exact ⟨harrives, hlate, hnext⟩
  · rintro ⟨events, -, after, element, -, hstep, -⟩
    obtain ⟨next, hwritten⟩ := step_overtaken
    have hsame := (hstep.deterministic hwritten).1
    have hlast := congrArg List.getLast? (congrArg List.dropLast hsame)
    simp at hlast

end OpenHybrid.Gre2tun

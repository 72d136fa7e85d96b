import OpenHybrid.Proof.Compaction

/-!
# How much is held

The slots stand in the order in which they arrived, behind a packet that is still waited with. That
packet is younger than the timeout, so everything behind it is, and the buffer is never longer than
the number of datagrams that came from the HAAP within one timeout. The 16 bits that count the
flushed slots suffice as long as that number fits.
-/

namespace OpenHybrid

def Timeval.Valid (time : Timeval) : Prop := 0 ≤ time.tvUsec ∧ time.tvUsec < 1000000

def Timeval.NotAfter (earlier later : Timeval) : Prop :=
  earlier.tvSec < later.tvSec ∨ earlier.tvSec = later.tvSec ∧ earlier.tvUsec ≤ later.tvUsec

instance (time : Timeval) : Decidable time.Valid := inferInstanceAs (Decidable (_ ∧ _))

instance (earlier later : Timeval) : Decidable (earlier.NotAfter later) :=
  inferInstanceAs (Decidable (_ ∨ _))

namespace Gre2tun

open ByteMemory Transition

variable {timeout now : Timeval}

instance (age timeout : Timeval) : Decidable (Younger age timeout) :=
  inferInstanceAs (Decidable (_ ∨ _))

def Input.fromHaap (input : Input) : Bool :=
  match input.recvfrom with
  | .failed _ => false
  | .datagram saddr _ => decide (saddr = input.haapIp)

def arrivals (inputs : List Input) : List Timeval :=
  (inputs.filter Input.fromHaap).map Input.timestamp

def recent (timeout now : Timeval) (times : List Timeval) : List Timeval :=
  times.filter fun time => Younger (timersub now time) timeout

/-- The clock does not go back, and the HAAP sends fewer than 2^16 - 1 datagrams within a timeout. -/
structure Paced (timeout : Timeval) (earlier : List Input) (input : Input) : Prop where
  valid : input.timestamp.Valid
  ordered : ∀ time ∈ arrivals earlier, time.NotAfter input.timestamp
  rate : (recent timeout input.now (arrivals (earlier ++ [input]))).length < 2 ^ 16 - 1

/-! ### Ages -/

/-- What arrived later is younger. -/
theorem younger_of_notAfter {earlier later : Timeval} (hearlier : earlier.Valid)
    (hlater : later.Valid) (horder : earlier.NotAfter later)
    (hyoung : Younger (timersub now earlier) timeout) : Younger (timersub now later) timeout := by
  unfold Timeval.Valid at hearlier hlater
  unfold Timeval.NotAfter at horder
  simp only [Younger, timersub] at hyoung ⊢
  split_ifs at hyoung ⊢ <;> dsimp only at hyoung ⊢ <;> omega

/-- When the first slot is young, all of them are. -/
theorem younger_of_first {times : List Timeval} (hvalid : ∀ time ∈ times, time.Valid)
    (hordered : times.Pairwise Timeval.NotAfter)
    (hfirst : ∀ first, times.head? = some first → Younger (timersub now first) timeout) :
    ∀ time ∈ times, Younger (timersub now time) timeout := by
  cases times with
  | nil => exact fun time hmem => absurd hmem List.not_mem_nil
  | cons first rest =>
      intro time hmem
      rcases List.mem_cons.mp hmem with rfl | hmem
      · exact hfirst time rfl
      · exact younger_of_notAfter (hvalid first List.mem_cons_self)
          (hvalid time (List.mem_cons_of_mem first hmem)) ((List.pairwise_cons.mp hordered).1 time hmem)
          (hfirst first rfl)

/-! ### Times of arrival -/

def timestamps (packets : List ReorderBufferElement) : List Timeval :=
  packets.map ReorderBufferElement.timestamp

theorem Advances.timestamps_eq {flushing result : Flushing}
    (hadvances : Advances timeout now flushing result) :
    timestamps result.packets = timestamps flushing.packets := by
  refine hadvances.invariant (fun next => timestamps next.packets = timestamps flushing.packets)
    (fun before next hbefore hadvance => ?_) rfl
  rw [← hbefore]
  cases hadvance with
  | flush before element after counter events hnext =>
      simp [timestamps, ReorderBufferElement.flushed]
  | skip packets held counter events hmissing hheld hoverdue => rfl

theorem timestamps_discardLate (counter : BitVec 32) (packets : List ReorderBufferElement) :
    timestamps (discardLate counter packets) = timestamps packets := by
  rw [timestamps, discardLate, List.map_map]
  refine List.map_congr_left fun element _ => ?_
  rw [Function.comp_apply]
  split_ifs <;> rfl

theorem arrivals_append (earlier : List Input) (input : Input) :
    arrivals (earlier ++ [input]) =
      arrivals earlier ++ if input.fromHaap then [input.timestamp] else [] := by
  rw [arrivals, List.filter_append, List.map_append, ← arrivals]
  cases hfrom : input.fromHaap <;> simp [hfrom]

theorem fromHaap_of_enqueued {state : State} {input : Input} {element : ReorderBufferElement}
    (hreceive : (receive timeout state input).2 = .enqueued element) : input.fromHaap = true := by
  unfold receive at hreceive
  unfold Input.fromHaap
  cases hrecvfrom : input.recvfrom with
  | failed eagain =>
      rw [hrecvfrom] at hreceive
      dsimp only at hreceive
      split_ifs at hreceive
  | datagram saddr bytes =>
      rw [hrecvfrom] at hreceive
      dsimp only at hreceive ⊢
      split_ifs at hreceive with hforeign
      exact decide_eq_true (not_not.mp hforeign)

/-- What the flush loops start from are datagrams of the HAAP, in the order of their arrival. -/
theorem Starts.sublist_arrivals {state : State} {input : Input} {start : Flushing}
    {allocated : Nat} {earlier : List Input}
    (hstarts : Starts timeout state input start allocated)
    (hsub : (timestamps state.packets).Sublist (arrivals earlier)) :
    (timestamps start.packets).Sublist (arrivals (earlier ++ [input])) := by
  rw [arrivals_append]
  cases hstarts with
  | forwarded event hreceive => exact hsub.trans (List.sublist_append_left _ _)
  | idle hreceive => exact hsub.trans (List.sublist_append_left _ _)
  | enqueued element hreceive hsize =>
      have htime : timestamps (state.packets ++ [element]) =
          timestamps state.packets ++ [input.timestamp] := by
        simp [timestamps, (receive_enqueued hreceive).2.1]
      rw [htime, if_pos (fromHaap_of_enqueued hreceive)]
      exact hsub.append (List.Sublist.refl _)

theorem sublist_arrivals_of_step {state next : State} {input : Input} {events : List Event}
    {earlier : List Input} (hstep : Step timeout state input events next)
    (hsub : (timestamps state.packets).Sublist (arrivals earlier)) :
    (timestamps next.packets).Sublist (arrivals (earlier ++ [input])) := by
  rcases hstep.cases with ⟨_, rfl, rfl⟩ | ⟨start, allocated, flushing, hstarts, hreturns, hfinish⟩
  · rw [arrivals_append]
    exact hsub.trans (List.sublist_append_left _ _)
  · obtain ⟨rfl, rfl⟩ := Prod.mk.inj hfinish
    have hcompact : (timestamps (finish (receive timeout state input).1 allocated
        flushing).1.packets).Sublist (timestamps start.packets) := by
      have hdiscarded : timestamps (discardLate flushing.sequenceFlushed flushing.packets) =
          timestamps start.packets :=
        (timestamps_discardLate _ _).trans (returns_flushRound hreturns).1.timestamps_eq
      rw [← hdiscarded, finish, compact_eq_drop]
      exact (List.drop_sublist _ _).map _
    exact hcompact.trans (hstarts.sublist_arrivals hsub)

/-! ### Along a run -/

structure Clocked (inputs : List Input) : Prop where
  valid : ∀ time ∈ arrivals inputs, time.Valid
  ordered : (arrivals inputs).Pairwise Timeval.NotAfter

theorem Clocked.snoc {earlier : List Input} {input : Input} (hclocked : Clocked earlier)
    (hpaced : Paced timeout earlier input) : Clocked (earlier ++ [input]) := by
  obtain ⟨hvalid, hordered⟩ := hclocked
  have hnew : ∀ time ∈ if input.fromHaap then [input.timestamp] else [],
      time = input.timestamp := by
    intro time hmem
    split_ifs at hmem
    · exact List.mem_singleton.mp hmem
    · exact absurd hmem List.not_mem_nil
  constructor <;> rw [arrivals_append]
  · intro time hmem
    rcases List.mem_append.mp hmem with hmem | hmem
    · exact hvalid time hmem
    · rw [hnew time hmem]
      exact hpaced.valid
  · refine List.pairwise_append.mpr ⟨hordered, ?_, fun time hmem last hlast => ?_⟩
    · split_ifs
      · exact List.pairwise_singleton _ _
      · exact List.Pairwise.nil
    · rw [hnew last hlast]
      exact hpaced.ordered time hmem

structure Bounded (earlier : List Input) (state : State) : Prop where
  compacted : Compacted state
  clocked : Clocked earlier
  sublist : (timestamps state.packets).Sublist (arrivals earlier)
  short : state.packets.length + 1 < 2 ^ 16

/-- The slots have all arrived within the timeout. -/
theorem younger_of_waiting {next : State} {inputs : List Input} (hcompacted : Compacted next)
    (hclocked : Clocked inputs)
    (hsub : (timestamps next.packets).Sublist (arrivals inputs))
    (hwaiting : Waiting timeout now next) :
    ∀ time ∈ timestamps next.packets, Younger (timersub now time) timeout := by
  refine younger_of_first (fun time hmem => hclocked.valid time (hsub.mem hmem))
    (hclocked.ordered.sublist hsub) fun time hhead => ?_
  rcases hcompacted.first with hempty | ⟨first, rest, hpackets, hlive⟩
  · simp [timestamps, hempty] at hhead
  · have htime : first.timestamp = time := by
      simpa [timestamps, hpackets] using hhead
    have hfirst := (hwaiting first (hpackets ▸ List.mem_cons_self) hlive).2.2
    rwa [ReorderBufferElement.age, htime] at hfirst

/-- Young slots belong to recent arrivals. -/
theorem length_le_recent {next : State} {inputs : List Input}
    (hsub : (timestamps next.packets).Sublist (arrivals inputs))
    (hyoung : ∀ time ∈ timestamps next.packets, Younger (timersub now time) timeout) :
    next.packets.length ≤ (recent timeout now (arrivals inputs)).length := by
  have hall : recent timeout now (timestamps next.packets) = timestamps next.packets := by
    refine List.filter_eq_self.mpr fun time hmem => ?_
    exact decide_eq_true (hyoung time hmem)
  calc next.packets.length
      _ = (recent timeout now (timestamps next.packets)).length := by
        rw [hall, timestamps, List.length_map]
      _ ≤ (recent timeout now (arrivals inputs)).length := (hsub.filter _).length_le

/-- What one iteration preserves. -/
theorem Bounded.step {state next : State} {input : Input} {events : List Event}
    {earlier : List Input} (hbounded : Bounded earlier state) (hpaced : Paced timeout earlier input)
    (hstep : Step timeout state input events next) : Bounded (earlier ++ [input]) next := by
  obtain ⟨hcompacted, hclocked, hsub, hshort⟩ := hbounded
  have hcompacted' := hcompacted.step (countable_of_length hshort) hstep
  have hsub' := sublist_arrivals_of_step hstep hsub
  have hclocked' := hclocked.snoc hpaced
  refine ⟨hcompacted', hclocked', hsub', ?_⟩
  by_cases hthrough : (receive timeout state input).2 = .skipped
  · rcases hstep.cases with ⟨_, rfl, rfl⟩ | ⟨_, _, _, hstarts, _⟩
    · exact hshort
    · cases hstarts with
      | forwarded event hreceive => exact absurd (hthrough.symm.trans hreceive) (by simp)
      | idle hreceive => exact absurd (hthrough.symm.trans hreceive) (by simp)
      | enqueued element hreceive hsize => exact absurd (hthrough.symm.trans hreceive) (by simp)
  · have hyoung := younger_of_waiting hcompacted' hclocked' hsub'
      (waiting_of_step hstep hthrough).1
    have hlength := length_le_recent hsub' hyoung
    have hrate := hpaced.rate
    omega

theorem bounded_initial (buffer : Memory) : Bounded [] (State.initial buffer) where
  compacted := ⟨⟨List.Pairwise.nil, fun _ hmem => absurd hmem List.not_mem_nil⟩, Or.inl rfl⟩
  clocked := ⟨fun _ hmem => absurd hmem List.not_mem_nil, List.Pairwise.nil⟩
  sublist := List.Sublist.refl _
  short := by
    show 0 + 1 < 2 ^ 16
    omega

/-- The buffer is bounded along every paced run. -/
theorem bounded_of_run {buffer : Memory} {history : History Input (List Event)} {state : State}
    (hrun : RunWhere (Step timeout)
      (fun history _ => Paced timeout (history.map Prod.fst)) (State.initial buffer) history state) :
    Bounded (history.map Prod.fst) state := by
  refine hrun.invariant (fun history state => Bounded (history.map Prod.fst) state)
    (bounded_initial buffer) ?_
  intro history state input events next hbounded hpaced hstep
  rw [List.map_append, List.map_singleton]
  exact hbounded.step hpaced hstep

/-- **The buffer is bounded.** While the HAAP sends fewer than 2^16 - 1 datagrams within a timeout,
an iteration that is not left by `continue` ends with at most as many slots, live and flushed, as
datagrams have come from the HAAP within the timeout: all of them arrived within it, and the first
one is live. -/
theorem occupancy_bounded {buffer : Memory} {history : History Input (List Event)}
    {state next : State} {input : Input} {events : List Event}
    (hrun : RunWhere (Step timeout)
      (fun history _ => Paced timeout (history.map Prod.fst)) (State.initial buffer) history state)
    (hpaced : Paced timeout (history.map Prod.fst) input)
    (hstep : Step timeout state input events next)
    (hthrough : (receive timeout state input).2 ≠ .skipped) :
    next.packets.length ≤
        (recent timeout input.now (arrivals (history.map Prod.fst ++ [input]))).length ∧
      (∀ element ∈ next.packets, Younger (element.age input.now) timeout) ∧
      (next.packets = [] ∨ ∃ first rest, next.packets = first :: rest ∧ first.Live) := by
  have hnext := (bounded_of_run hrun).step hpaced hstep
  have hyoung := younger_of_waiting hnext.compacted hnext.clocked hnext.sublist
    (waiting_of_step hstep hthrough).1
  refine ⟨length_le_recent hnext.sublist hyoung, fun element hmem => ?_, hnext.compacted.first⟩
  exact hyoung element.timestamp (List.mem_map_of_mem hmem)

/-- Packet 0 is written, and packet 2 waits for packet 1. -/
theorem occupancy_bounded_held : ∃ next : State, next.packets = [numberedSlot 2 1] ∧
    next.packets.length ≤
      (recent ⟨0, 250000⟩ ⟨5, 0⟩ (arrivals [numbered 0, numbered 2])).length := by
  have hzero := step_next rfl (receive_numbered (State.initial fun _ => 0) 0) (by decide)
  set buffer := (receive ⟨0, 250000⟩ (State.initial fun _ => 0) (numbered 0)).1
  have hreceive := receive_numbered ⟨buffer, [], 0, 1⟩ 2
  have htwo : Step ⟨0, 250000⟩ ⟨buffer, [], 0, 1⟩ (numbered 2) []
      ⟨(receive ⟨0, 250000⟩ ⟨buffer, [], 0, 1⟩ (numbered 2)).1, [numberedSlot 2 1], 0, 2⟩ :=
    step_held hreceive rfl (by decide) ⟨by decide, by decide⟩ (by decide) (by decide)
  have hthrough : (receive ⟨0, 250000⟩ ⟨buffer, [], 0, 1⟩ (numbered 2)).2 ≠ .skipped := by
    rw [hreceive]
    simp
  have hfirst : Paced ⟨0, 250000⟩ [] (numbered 0) :=
    ⟨by decide, by decide, by decide⟩
  have hsecond : Paced ⟨0, 250000⟩ [numbered 0] (numbered 2) :=
    ⟨by decide, by decide, by decide⟩
  exact ⟨_, rfl, (occupancy_bounded (.snoc .nil hfirst hzero) hsecond htwo hthrough).1⟩

end Gre2tun

end OpenHybrid

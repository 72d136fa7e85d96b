import OpenHybrid.Proof.Receive

/-!
# Advancing the counter

`flushPass` walks over the slots, `flushRound` wraps it in two loops and a jump. What matters to
every invariant is smaller: each change they make moves `sequence_flushed` by one, either because
some slot carries the next number or because none does and a held packet is overdue. `Advance` is
that step, and the loops are sequences of it that stop when nothing is left to do.
-/

namespace OpenHybrid.Gre2tun

open Relation

variable {timeout now : Timeval}

/-- The counter moves by one. Which of several slots with the next number is flushed is left
open. -/
inductive Advance (timeout now : Timeval) : Flushing → Flushing → Prop
  | flush (before : List ReorderBufferElement) (element : ReorderBufferElement)
      (after : List ReorderBufferElement) (counter : BitVec 32) (events : List Event)
      (hnext : element.sequence = counter + 1) :
      Advance timeout now ⟨before ++ element :: after, counter, events⟩
        ⟨before ++ element.flushed :: after, counter + 1,
          events ++ [.written element, .freed element.packet.handle]⟩
  | skip (packets : List ReorderBufferElement) (held : ReorderBufferElement)
      (counter : BitVec 32) (events : List Event)
      (hmissing : ∀ element ∈ packets, element.sequence ≠ counter + 1)
      (hheld : held ∈ packets) (hoverdue : Overdue timeout now held) :
      Advance timeout now ⟨packets, counter, events⟩
        ⟨packets, counter + 1,
          events ++ [.timedOut (counter + 1) held (held.age now)]⟩

abbrev Advances (timeout now : Timeval) : Flushing → Flushing → Prop :=
  ReflTransGen (Advance timeout now)

structure Quiescent (timeout now : Timeval) (flushing : Flushing) : Prop where
  missing : ∀ element ∈ flushing.packets, element.sequence ≠ flushing.sequenceFlushed + 1
  notOverdue : ∀ element ∈ flushing.packets, ¬ Overdue timeout now element

/-! ### One pass -/

/-- A pass is a sequence of advances, wherever in the slot array and in the run it starts. -/
theorem flushPass_advances (packets : List ReorderBufferElement) :
    ∀ (before : List ReorderBufferElement) (counter : BitVec 32) (events : List Event),
      Advances timeout now ⟨before ++ packets, counter, events⟩
        ⟨before ++ (flushPass counter packets).packets,
          (flushPass counter packets).sequenceFlushed,
          events ++ (flushPass counter packets).events⟩ := by
  induction packets with
  | nil =>
      intro before counter events
      simpa [flushPass] using ReflTransGen.refl
  | cons element rest ih =>
      intro before counter events
      by_cases hnext : element.sequence = counter + 1
      · have hfirst : Advance timeout now ⟨before ++ element :: rest, counter, events⟩ _ :=
          .flush before element rest counter events hnext
        have hrest := ih (before ++ [element.flushed]) (counter + 1)
          (events ++ [.written element, .freed element.packet.handle])
        rw [flushPass, if_pos hnext]
        simpa using ReflTransGen.head hfirst (by simpa using hrest)
      · rw [flushPass, if_neg hnext]
        simpa using ih (before ++ [element]) counter events

theorem flushPass_events_eq_nil_iff {packets : List ReorderBufferElement} {counter : BitVec 32} :
    (flushPass counter packets).events = [] ↔
      ∀ element ∈ packets, element.sequence ≠ counter + 1 := by
  induction packets with
  | nil => simp [flushPass]
  | cons element rest ih =>
      by_cases hnext : element.sequence = counter + 1
      · simp [flushPass, hnext]
      · rw [flushPass, if_neg hnext]
        simp only [List.forall_mem_cons, ne_eq, hnext, not_false_eq_true, true_and]
        exact ih

/-- A pass does nothing when no slot carries the next number. -/
theorem flushPass_of_missing {packets : List ReorderBufferElement} {counter : BitVec 32}
    (hmissing : ∀ element ∈ packets, element.sequence ≠ counter + 1) :
    flushPass counter packets = ⟨packets, counter, []⟩ := by
  induction packets with
  | nil => rfl
  | cons element rest ih =>
      have hrest := ih fun other hother => hmissing other (List.mem_cons_of_mem element hother)
      rw [flushPass, if_neg (hmissing element List.mem_cons_self), hrest]

/-! ### One round, and the loop -/

/-- What one round can do: flush a pass that flushes something, skip one number for an overdue
packet, or leave with the state as it is. -/
theorem flushRound_cases (timeout now : Timeval) (flushing : Flushing) :
    ((∃ element ∈ flushing.packets, element.sequence = flushing.sequenceFlushed + 1) ∧
      flushRound timeout now flushing =
        .inl { flushPass flushing.sequenceFlushed flushing.packets with
          events := flushing.events ++
            (flushPass flushing.sequenceFlushed flushing.packets).events }) ∨
    ((∀ element ∈ flushing.packets, element.sequence ≠ flushing.sequenceFlushed + 1) ∧
      ∃ held ∈ flushing.packets, Overdue timeout now held ∧
        flushRound timeout now flushing =
          .inl ⟨flushing.packets, flushing.sequenceFlushed + 1,
            flushing.events ++
              [.timedOut (flushing.sequenceFlushed + 1) held (held.age now)]⟩) ∨
    (Quiescent timeout now flushing ∧ flushRound timeout now flushing = .inr flushing) := by
  by_cases hmissing :
      ∀ element ∈ flushing.packets, element.sequence ≠ flushing.sequenceFlushed + 1
  · have hpass := flushPass_of_missing hmissing
    cases hfind : flushing.packets.find? fun element => Overdue timeout now element with
    | none =>
        refine Or.inr (Or.inr ⟨⟨hmissing, ?_⟩, by simp [flushRound, hpass, hfind]⟩)
        simpa using hfind
    | some held =>
        have hoverdue : Overdue timeout now held := by simpa using List.find?_some hfind
        exact Or.inr (Or.inl ⟨hmissing, held, List.mem_of_find?_eq_some hfind, hoverdue,
          by simp [flushRound, hpass, hfind]⟩)
  · have hevents := mt flushPass_events_eq_nil_iff.mp hmissing
    refine Or.inl ⟨by simpa using hmissing, ?_⟩
    simp [flushRound, hevents]

theorem flushRound_inl {flushing next : Flushing}
    (hround : flushRound timeout now flushing = .inl next) : Advances timeout now flushing next := by
  obtain ⟨packets, counter, events⟩ := flushing
  rcases flushRound_cases timeout now ⟨packets, counter, events⟩ with
    ⟨_, hflush⟩ | ⟨hmissing, held, hheld, hoverdue, hskip⟩ | ⟨_, hleave⟩
  · rw [hflush, Sum.inl.injEq] at hround
    subst hround
    simpa using flushPass_advances packets [] counter events
  · rw [hskip, Sum.inl.injEq] at hround
    subst hround
    exact ReflTransGen.single (.skip packets held counter events hmissing hheld hoverdue)
  · simp [hleave] at hround

theorem flushRound_inr {flushing result : Flushing}
    (hround : flushRound timeout now flushing = .inr result) :
    result = flushing ∧ Quiescent timeout now flushing := by
  rcases flushRound_cases timeout now flushing with
    ⟨_, hflush⟩ | ⟨_, _, _, _, hskip⟩ | ⟨hquiescent, hleave⟩
  · simp [hflush] at hround
  · simp [hskip] at hround
  · rw [hleave, Sum.inr.injEq] at hround
    exact ⟨hround.symm, hquiescent⟩

/-- **The flush loops refine `Advance`.** They advance the counter until nothing deliverable and
nothing overdue is left. -/
theorem returns_flushRound {flushing result : Flushing}
    (hreturns : Loop.Returns (flushRound timeout now) flushing result) :
    Advances timeout now flushing result ∧ Quiescent timeout now result := by
  refine hreturns.rule (fun state => Advances timeout now flushing state)
    (fun state => Advances timeout now flushing state ∧ Quiescent timeout now state) ?_ ?_ .refl
  · intro state next hstate hround
    exact hstate.trans (flushRound_inl hround)
  · intro state final hstate hround
    obtain ⟨rfl, hquiescent⟩ := flushRound_inr hround
    exact ⟨hstate, hquiescent⟩

/-- What every advance preserves, the loops preserve. -/
theorem Advances.invariant (inv : Flushing → Prop)
    (hadvance : ∀ flushing next, inv flushing → Advance timeout now flushing next → inv next)
    {flushing next : Flushing} (hadvances : Advances timeout now flushing next)
    (hinv : inv flushing) : inv next := by
  induction hadvances with
  | refl => exact hinv
  | tail _ hlast ih => exact hadvance _ _ ih hlast

/-! ### Discarding and compaction -/

@[simp]
theorem not_live_flushed (element : ReorderBufferElement) : ¬ element.flushed.Live := by
  simp [ReorderBufferElement.flushed, ReorderBufferElement.Live]

/-! ### Shared numbers -/

abbrev Unshared (timeout now : Timeval) (packets : List ReorderBufferElement) : Prop :=
  packets.Pairwise fun first second => first.sequence = second.sequence →
    ¬ Overdue timeout now first ∧ ¬ Overdue timeout now second

section Unshared

variable {before after : List ReorderBufferElement} {element : ReorderBufferElement}

theorem Unshared.not_overdue (hunshared : Unshared timeout now (before ++ element :: after))
    {other : ReorderBufferElement} (hother : other ∈ before ++ after)
    (hsame : other.sequence = element.sequence) : ¬ Overdue timeout now other := by
  unfold Unshared at hunshared
  rw [List.pairwise_append, List.pairwise_cons] at hunshared
  obtain ⟨-, ⟨hafter, -⟩, hbefore⟩ := hunshared
  rcases List.mem_append.mp hother with hmem | hmem
  · exact (hbefore other hmem element List.mem_cons_self hsame).1
  · exact (hafter other hmem hsame.symm).2

theorem Unshared.flush (hunshared : Unshared timeout now (before ++ element :: after)) :
    Unshared timeout now (before ++ element.flushed :: after) := by
  have hdead : ¬ Overdue timeout now element.flushed := fun hlate => not_live_flushed _ hlate.1
  unfold Unshared at hunshared ⊢
  rw [List.pairwise_append, List.pairwise_cons] at hunshared ⊢
  obtain ⟨hbefore, ⟨hhead, hafter⟩, hcross⟩ := hunshared
  refine ⟨hbefore, ⟨fun other hmem hsame => ⟨hdead, (hhead other hmem hsame).2⟩, hafter⟩, ?_⟩
  intro first hfirst second hsecond hsame
  rcases List.mem_cons.mp hsecond with rfl | hmem
  · exact ⟨(hcross first hfirst element List.mem_cons_self hsame).1, hdead⟩
  · exact hcross first hfirst second (List.mem_cons_of_mem element hmem) hsame

theorem mem_flush_iff {other : ReorderBufferElement} :
    other ∈ before ++ element.flushed :: after ↔
      other = element.flushed ∨ other ∈ before ++ after := by
  rw [List.mem_append, List.mem_cons, List.mem_append]
  tauto

end Unshared

/-- The three ways through the compaction come to the same. -/
theorem compact_eq_drop (packets : List ReorderBufferElement) :
    compact packets = packets.drop (reorderBufferFreeable packets) := by
  unfold compact
  split_ifs with hall hsome
  · rw [← hall, List.drop_length]
  · rfl
  · rw [Nat.eq_zero_of_not_pos hsome, List.drop_zero]

theorem exists_append_compact (packets : List ReorderBufferElement) :
    ∃ gone, packets = gone ++ compact packets ∧ ∀ element ∈ gone, ¬ element.Live := by
  have hcount : reorderBufferFreeable packets ≤
      (packets.takeWhile fun element => element.size = 0).length := Nat.mod_le _ _
  have htake : packets.take (reorderBufferFreeable packets) <+:
      packets.takeWhile fun element => element.size = 0 :=
    List.prefix_of_prefix_length_le (List.take_prefix _ _) (List.takeWhile_prefix _)
      (by rw [List.length_take]; omega)
  refine ⟨packets.take (reorderBufferFreeable packets), ?_, fun element hmem => ?_⟩
  · rw [compact_eq_drop, List.take_append_drop]
  · have hsize := List.mem_takeWhile_imp (htake.subset hmem)
    simpa [ReorderBufferElement.Live] using hsize

/-- Where a slot of the next iteration comes from. -/
theorem mem_compact_discardLate {packets : List ReorderBufferElement} {counter : BitVec 32}
    {element : ReorderBufferElement} (hmem : element ∈ compact (discardLate counter packets)) :
    ∃ old ∈ packets, (element = old ∧ ¬ Late counter old) ∨
      (element = old.flushed ∧ Late counter old) := by
  obtain ⟨gone, hgone, _⟩ := exists_append_compact (discardLate counter packets)
  have hdiscard : element ∈ discardLate counter packets := by
    rw [hgone]
    exact List.mem_append_right _ hmem
  obtain ⟨old, hold, rfl⟩ := List.mem_map.mp hdiscard
  refine ⟨old, hold, ?_⟩
  by_cases hlate : Late counter old <;> simp [hlate]

/-! ### One iteration -/

/-- What the flush loops of an iteration start from, and how many blocks are allocated by then. -/
inductive Starts (timeout : Timeval) (state : State) (input : Input) : Flushing → Nat → Prop
  | forwarded (event : Event) (hreceive : (receive timeout state input).2 = .forwarded event) :
      Starts timeout state input ⟨state.packets, state.sequenceFlushed, [event]⟩ state.allocated
  | idle (hreceive : (receive timeout state input).2 = .idle) :
      Starts timeout state input ⟨state.packets, state.sequenceFlushed, []⟩ state.allocated
  | enqueued (element : ReorderBufferElement)
      (hreceive : (receive timeout state input).2 = .enqueued element)
      (hsize : state.packets.length + 1 < 2 ^ 32) :
      Starts timeout state input ⟨state.packets ++ [element], state.sequenceFlushed, []⟩
        (state.allocated + 1)

/-- An iteration is either left by `continue` or runs the flush loops, the discard step and the
compaction from where `receive` left it. -/
theorem Step.cases {state next : State} {input : Input} {events : List Event}
    (hstep : Step timeout state input events next) :
    ((receive timeout state input).2 = .skipped ∧
      next = { state with buffer := (receive timeout state input).1 } ∧ events = []) ∨
    ∃ start allocated flushing, Starts timeout state input start allocated ∧
      Loop.Returns (flushRound timeout input.now) start flushing ∧
      (next, events) = finish (receive timeout state input).1 allocated flushing := by
  obtain ⟨rounds, hiteration⟩ := hstep
  have hsettle : ∀ start allocated, Starts timeout state input start allocated →
      settle timeout input.now rounds (receive timeout state input).1 allocated start =
        some (next, events) →
      ∃ start allocated flushing, Starts timeout state input start allocated ∧
        Loop.Returns (flushRound timeout input.now) start flushing ∧
        (next, events) = finish (receive timeout state input).1 allocated flushing := by
    intro start allocated hstarts hsettles
    obtain ⟨flushing, hrun, hfinish⟩ := Option.map_eq_some_iff.mp hsettles
    exact ⟨start, allocated, flushing, hstarts, ⟨rounds, hrun⟩, hfinish.symm⟩
  rw [iteration] at hiteration
  split at hiteration
  · rename_i buffer hreceive
    rw [Option.some.injEq, Prod.mk.injEq] at hiteration
    exact Or.inl ⟨by rw [hreceive], by rw [← hiteration.1, hreceive], hiteration.2.symm⟩
  · rename_i buffer event hreceive
    refine Or.inr (hsettle _ _ (.forwarded event (by rw [hreceive])) ?_)
    rw [hreceive]
    exact hiteration
  · rename_i buffer hreceive
    refine Or.inr (hsettle _ _ (.idle (by rw [hreceive])) ?_)
    rw [hreceive]
    exact hiteration
  · rename_i buffer element hreceive
    split at hiteration
    · rename_i hsize
      refine Or.inr (hsettle _ _ (.enqueued element (by rw [hreceive]) hsize) ?_)
      rw [hreceive]
      exact hiteration
    · simp at hiteration

theorem Step.of_starts {state : State} {input : Input} {start flushing : Flushing}
    {allocated : Nat} (hstarts : Starts timeout state input start allocated)
    (hreturns : Loop.Returns (flushRound timeout input.now) start flushing) :
    Step timeout state input (finish (receive timeout state input).1 allocated flushing).2
      (finish (receive timeout state input).1 allocated flushing).1 := by
  obtain ⟨rounds, hrun⟩ := hreturns
  refine ⟨rounds, ?_⟩
  obtain ⟨buffer, hbuffer⟩ : ∃ buffer, buffer = (receive timeout state input).1 := ⟨_, rfl⟩
  rw [← hbuffer, iteration]
  cases hstarts with
  | forwarded event hreceive =>
      have hpair : receive timeout state input = (buffer, .forwarded event) :=
        Prod.ext hbuffer.symm hreceive
      rw [hpair]
      simp [settle, hrun]
  | idle hreceive =>
      have hpair : receive timeout state input = (buffer, .idle) := Prod.ext hbuffer.symm hreceive
      rw [hpair]
      simp [settle, hrun]
  | enqueued element hreceive hsize =>
      have hpair : receive timeout state input = (buffer, .enqueued element) :=
        Prod.ext hbuffer.symm hreceive
      rw [hpair]
      simp only [if_pos hsize, settle, hrun, Option.map_some]

/-- An iteration has one result. -/
theorem Step.deterministic {state next other : State} {input : Input} {first second : List Event}
    (hfirst : Step timeout state input first next) (hsecond : Step timeout state input second other) :
    first = second ∧ next = other := by
  obtain ⟨roundsFirst, hfirst⟩ := hfirst
  obtain ⟨roundsSecond, hsecond⟩ := hsecond
  have hsettle : ∀ buffer allocated start,
      settle timeout input.now roundsFirst buffer allocated start = some (next, first) →
      settle timeout input.now roundsSecond buffer allocated start = some (other, second) →
      first = second ∧ next = other := by
    intro buffer allocated start hone htwo
    obtain ⟨resultOne, hrunOne, hfinishOne⟩ := Option.map_eq_some_iff.mp hone
    obtain ⟨resultTwo, hrunTwo, hfinishTwo⟩ := Option.map_eq_some_iff.mp htwo
    obtain rfl := Loop.Returns.unique ⟨_, hrunOne⟩ ⟨_, hrunTwo⟩
    obtain ⟨rfl, rfl⟩ := Prod.mk.inj (hfinishOne.symm.trans hfinishTwo)
    exact ⟨rfl, rfl⟩
  rw [iteration] at hfirst hsecond
  split at hfirst <;> rename_i hreceive <;> rw [hreceive] at hsecond
  · obtain ⟨rfl, rfl⟩ := Prod.mk.inj (Option.some.inj (hfirst.symm.trans hsecond))
    exact ⟨rfl, rfl⟩
  · exact hsettle _ _ _ hfirst hsecond
  · exact hsettle _ _ _ hfirst hsecond
  · split at hfirst
    · rename_i hsize
      simp only [if_pos hsize] at hsecond
      exact hsettle _ _ _ hfirst hsecond
    · simp at hfirst

/-- An iteration comes to an end when its flush loops do and the slot array can take the arrival. -/
theorem exists_step {state : State} {input : Input}
    (hsize : ∀ element, (receive timeout state input).2 = .enqueued element →
      state.packets.length + 1 < 2 ^ 32)
    (hhalts : ∀ start allocated, Starts timeout state input start allocated →
      Loop.Halts (flushRound timeout input.now) start) :
    ∃ events next, Step timeout state input events next := by
  have hstarted : ∀ {start allocated}, Starts timeout state input start allocated →
      ∃ events next, Step timeout state input events next := by
    intro start allocated hstarts
    obtain ⟨result, hreturns⟩ := hhalts start allocated hstarts
    exact ⟨_, _, Step.of_starts hstarts hreturns⟩
  cases hreceive : (receive timeout state input).2 with
  | skipped =>
      refine ⟨[], { state with buffer := (receive timeout state input).1 }, 0, ?_⟩
      have hpair : receive timeout state input = ((receive timeout state input).1, .skipped) :=
        Prod.ext rfl hreceive
      rw [iteration]
      split <;> rename_i hother <;> rw [hpair, Prod.mk.injEq] at hother
      · rw [hother.1]
      all_goals exact absurd hother.2 (by simp)
  | forwarded event => exact hstarted (.forwarded event hreceive)
  | idle => exact hstarted (.idle hreceive)
  | enqueued element => exact hstarted (.enqueued element hreceive (hsize element hreceive))

theorem Step.not_overdue {state next : State} {input : Input} {events : List Event}
    (hstep : Step timeout state input events next)
    (hreceive : (receive timeout state input).2 ≠ .skipped) :
    ∀ element ∈ next.packets, ¬ Overdue timeout input.now element := by
  rcases hstep.cases with ⟨hskipped, _⟩ | ⟨start, allocated, flushing, _, hreturns, hfinish⟩
  · exact absurd hskipped hreceive
  · obtain ⟨rfl, rfl⟩ := Prod.mk.inj hfinish
    intro element hmem hoverdue
    obtain ⟨old, hold, ⟨rfl, _⟩ | ⟨rfl, _⟩⟩ := mem_compact_discardLate hmem
    · exact (returns_flushRound hreturns).2.notOverdue element hold hoverdue
    · exact not_live_flushed old hoverdue.1

end OpenHybrid.Gre2tun

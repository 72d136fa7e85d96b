import OpenHybrid.Proof.EmptyBuffer

/-!
# No packet vanishes, none is freed twice

Every block `malloc` hands out belongs to one packet, and the events say what became of it. The
ledger counts: a packet is written once, discarded once or held once, and its block has been freed
exactly when it is no longer held.

A slot is marked as flushed by a `size` of zero, and the pass does not look at the mark. The ledger
therefore balances as long as the counter does not come round the ring to a flushed slot, and as
long as no packet starts out looking flushed.
-/

namespace OpenHybrid.Gre2tun

open Transition

variable {timeout now : Timeval}

/-! ### The ledger -/

def Event.writes (handle : Nat) : Event → Bool
  | .written element => element.packet.handle = handle
  | _ => false

def Event.discards (handle : Nat) : Event → Bool
  | .discarded element => element.packet.handle = handle
  | _ => false

def Event.frees (handle : Nat) : Event → Bool
  | .freed other => other = handle
  | _ => false

def writtenTimes (handle : Nat) (events : List Event) : Nat := events.countP (Event.writes handle)

def discardedTimes (handle : Nat) (events : List Event) : Nat :=
  events.countP (Event.discards handle)

def freedTimes (handle : Nat) (events : List Event) : Nat := events.countP (Event.frees handle)

def heldTimes (handle : Nat) (packets : List ReorderBufferElement) : Nat :=
  packets.countP fun element => element.Live ∧ element.packet.handle = handle

/-- The packet in this block is in exactly one of three states, and its block has been released
once in the first two and not at all in the third. -/
def Settled (handle : Nat) (events : List Event) (packets : List ReorderBufferElement) : Prop :=
  (writtenTimes handle events = 1 ∧ discardedTimes handle events = 0 ∧
      heldTimes handle packets = 0 ∧ freedTimes handle events = 1) ∨
    (writtenTimes handle events = 0 ∧ discardedTimes handle events = 1 ∧
      heldTimes handle packets = 0 ∧ freedTimes handle events = 1) ∨
    (writtenTimes handle events = 0 ∧ discardedTimes handle events = 0 ∧
      heldTimes handle packets = 1 ∧ freedTimes handle events = 0)

/-- The same as one equation, for every number `malloc` may ever give out. -/
structure Balanced (first allocated : Nat) (events : List Event)
    (packets : List ReorderBufferElement) : Prop where
  once : ∀ handle, writtenTimes handle events + discardedTimes handle events +
    heldTimes handle packets = if first ≤ handle ∧ handle < allocated then 1 else 0
  freed : ∀ handle, freedTimes handle events =
    writtenTimes handle events + discardedTimes handle events

theorem Balanced.settled {first allocated handle : Nat} {events : List Event}
    {packets : List ReorderBufferElement} (hbalanced : Balanced first allocated events packets)
    (hfirst : first ≤ handle) (hlast : handle < allocated) : Settled handle events packets := by
  have honce := hbalanced.once handle
  have hfreed := hbalanced.freed handle
  rw [if_pos ⟨hfirst, hlast⟩] at honce
  rw [Settled, hfreed]
  omega

section Counts

variable (handle : Nat)

@[simp]
theorem writtenTimes_append (before after : List Event) :
    writtenTimes handle (before ++ after) =
      writtenTimes handle before + writtenTimes handle after := List.countP_append

@[simp]
theorem discardedTimes_append (before after : List Event) :
    discardedTimes handle (before ++ after) =
      discardedTimes handle before + discardedTimes handle after := List.countP_append

@[simp]
theorem freedTimes_append (before after : List Event) :
    freedTimes handle (before ++ after) = freedTimes handle before + freedTimes handle after :=
  List.countP_append

@[simp]
theorem heldTimes_nil : heldTimes handle [] = 0 := rfl

@[simp]
theorem heldTimes_append (before after : List ReorderBufferElement) :
    heldTimes handle (before ++ after) = heldTimes handle before + heldTimes handle after :=
  List.countP_append

theorem heldTimes_cons (element : ReorderBufferElement) (rest : List ReorderBufferElement) :
    heldTimes handle (element :: rest) =
      (if element.Live ∧ element.packet.handle = handle then 1 else 0) + heldTimes handle rest := by
  rw [heldTimes, List.countP_cons, Nat.add_comm]
  simp [heldTimes]

@[simp]
theorem heldTimes_cons_flushed (element : ReorderBufferElement)
    (rest : List ReorderBufferElement) :
    heldTimes handle (element.flushed :: rest) = heldTimes handle rest := by
  simp [heldTimes_cons]

theorem heldTimes_eq_zero {packets : List ReorderBufferElement}
    (hdead : ∀ element ∈ packets, ¬ element.Live) : heldTimes handle packets = 0 := by
  rw [heldTimes, List.countP_eq_zero]
  intro element hmem
  simp [hdead element hmem]

theorem heldTimes_compact (packets : List ReorderBufferElement) :
    heldTimes handle (compact packets) = heldTimes handle packets := by
  obtain ⟨gone, hgone, hdead⟩ := exists_append_compact packets
  conv_rhs => rw [hgone]
  rw [heldTimes_append, heldTimes_eq_zero handle hdead, Nat.zero_add]

/-- What the discard step takes out of the buffer it discards, and frees. -/
theorem discardLate_counts (counter : BitVec 32) (packets : List ReorderBufferElement) :
    writtenTimes handle (discardEvents counter packets) = 0 ∧
      freedTimes handle (discardEvents counter packets) =
        discardedTimes handle (discardEvents counter packets) ∧
      discardedTimes handle (discardEvents counter packets) +
        heldTimes handle (discardLate counter packets) = heldTimes handle packets := by
  induction packets with
  | nil => exact ⟨rfl, rfl, rfl⟩
  | cons element rest ih =>
      obtain ⟨hwritten, hfreed, hheld⟩ := ih
      by_cases hlate : Late counter element
      · have hevents : discardEvents counter (element :: rest) =
            [.discarded element, .freed element.packet.handle] ++ discardEvents counter rest := by
          simp [discardEvents, hlate]
        have hpackets : discardLate counter (element :: rest) =
            element.flushed :: discardLate counter rest := by
          simp [discardLate, hlate]
        rw [hevents, hpackets, writtenTimes_append, freedTimes_append, discardedTimes_append,
          hwritten, hfreed, heldTimes_cons_flushed, heldTimes_cons, ← hheld]
        refine ⟨rfl, ?_, ?_⟩
        · simp [freedTimes, discardedTimes, List.countP_cons, Event.frees, Event.discards]
        · simp [discardedTimes, Event.discards, hlate.1, List.countP_cons, Nat.add_assoc]
      · have hevents : discardEvents counter (element :: rest) = discardEvents counter rest := by
          simp [discardEvents, hlate]
        have hpackets : discardLate counter (element :: rest) =
            element :: discardLate counter rest := by
          simp [discardLate, hlate]
        rw [hevents, hpackets, heldTimes_cons, heldTimes_cons]
        exact ⟨hwritten, hfreed, by omega⟩

end Counts

/-! ### Walking the ring -/

/-- How many numbers the counter passes before it comes to `number`. -/
def ahead (counter number : BitVec 32) : Nat := (number - (counter + 1)).toNat

theorem ahead_succ {counter number : BitVec 32} (hne : number ≠ counter + 1) :
    ahead (counter + 1) number + 1 = ahead counter number := by
  rw [ahead, ahead]
  bv_omega

theorem ahead_self (counter : BitVec 32) : ahead counter (counter + 1) = 0 := by
  simp [ahead]

theorem ahead_succ_self (counter : BitVec 32) : ahead (counter + 1) (counter + 1) = 2 ^ 32 - 1 := by
  rw [ahead]
  bv_omega

theorem ahead_lt (counter number : BitVec 32) : ahead counter number < 2 ^ 32 :=
  (number - (counter + 1)).isLt

/-- On the way round the ring the counter meets every overdue packet before `gap`, a number no slot
carries, and every flushed slot only behind it. -/
structure Sheltered (timeout now : Timeval) (gap counter : BitVec 32)
    (packets : List ReorderBufferElement) : Prop where
  absent : ∀ element ∈ packets, element.sequence ≠ gap
  flushed : ∀ element ∈ packets, ¬ element.Live →
    ahead counter gap < ahead counter element.sequence
  overdue : ∀ element ∈ packets, Overdue timeout now element →
    ahead counter element.sequence < ahead counter gap
  distinct : packets.Pairwise fun first second => first.sequence = second.sequence →
    ¬ Overdue timeout now first ∧ ¬ Overdue timeout now second

/-- When the counter moves on, the order on the ring stays. -/
theorem Sheltered.closer {gap counter : BitVec 32} {packets : List ReorderBufferElement}
    (hsheltered : Sheltered timeout now gap counter packets) (hgap : gap ≠ counter + 1)
    {element : ReorderBufferElement} (hmem : element ∈ packets)
    (hne : element.sequence ≠ counter + 1) :
    (¬ element.Live → ahead (counter + 1) gap < ahead (counter + 1) element.sequence) ∧
      (Overdue timeout now element →
        ahead (counter + 1) element.sequence < ahead (counter + 1) gap) := by
  have hflushed := hsheltered.flushed element hmem
  have hoverdue := hsheltered.overdue element hmem
  have hgapAhead := ahead_succ hgap
  have hahead := ahead_succ hne
  exact ⟨fun hdead => by have := hflushed hdead; omega, fun hheld => by have := hoverdue hheld; omega⟩

theorem Sheltered.gap_ne {gap counter : BitVec 32} {packets : List ReorderBufferElement}
    (hsheltered : Sheltered timeout now gap counter packets) {held : ReorderBufferElement}
    (hmem : held ∈ packets) (hoverdue : Overdue timeout now held) : gap ≠ counter + 1 := by
  rintro rfl
  have hlt := hsheltered.overdue held hmem hoverdue
  rw [ahead_self] at hlt
  omega

/-- **Shelter lasts.** An advance takes only slots that still hold their packet, and the counter
comes one step closer to everything else. -/
theorem Sheltered.advance {gap : BitVec 32} {flushing next : Flushing}
    (hsheltered : Sheltered timeout now gap flushing.sequenceFlushed flushing.packets)
    (hadvance : Advance timeout now flushing next) :
    Sheltered timeout now gap next.sequenceFlushed next.packets := by
  cases hadvance with
  | flush before element after counter events hnext =>
      have hgap : gap ≠ counter + 1 := by
        rintro rfl
        exact hsheltered.absent element (by simp) hnext
      have hgapAhead := ahead_succ hgap
      have hunshared : Unshared timeout now (before ++ element :: after) := hsheltered.distinct
      -- whatever carries the taken number as well is now a whole lap away, and was not overdue
      have hside : ∀ other ∈ before ++ after,
          (¬ other.Live → ahead (counter + 1) gap < ahead (counter + 1) other.sequence) ∧
            (Overdue timeout now other →
              ahead (counter + 1) other.sequence < ahead (counter + 1) gap) := by
        intro other hother
        have hmem : other ∈ before ++ element :: after := by
          rcases List.mem_append.mp hother with hmem | hmem <;> simp [hmem]
        by_cases hsame : other.sequence = counter + 1
        · refine ⟨fun hdead => ?_, fun hoverdue => absurd hoverdue ?_⟩
          · have hlt := hsheltered.flushed other hmem hdead
            rw [hsame, ahead_self] at hlt
            omega
          · exact hunshared.not_overdue hother (hsame.trans hnext.symm)
        · exact hsheltered.closer hgap hmem hsame
      have hflushed : ahead (counter + 1) gap < ahead (counter + 1) element.flushed.sequence := by
        have hself : element.flushed.sequence = counter + 1 := hnext
        have hlt := ahead_lt counter gap
        rw [hself, ahead_succ_self]
        omega
      refine ⟨?_, ?_, ?_, hunshared.flush⟩
      · intro other hother
        rcases mem_flush_iff.mp hother with rfl | hmem
        · exact hsheltered.absent element (by simp)
        · exact hsheltered.absent other (by
            rcases List.mem_append.mp hmem with hmem | hmem <;> simp [hmem])
      · intro other hother hdead
        rcases mem_flush_iff.mp hother with rfl | hmem
        · exact hflushed
        · exact (hside other hmem).1 hdead
      · intro other hother hoverdue
        rcases mem_flush_iff.mp hother with rfl | hmem
        · exact absurd hoverdue.1 (not_live_flushed element)
        · exact (hside other hmem).2 hoverdue
  | skip packets held counter events hmissing hheld hoverdue =>
      have hgap := hsheltered.gap_ne hheld hoverdue
      exact ⟨hsheltered.absent,
        fun element hmem => (hsheltered.closer hgap hmem (hmissing element hmem)).1,
        fun element hmem => (hsheltered.closer hgap hmem (hmissing element hmem)).2,
        hsheltered.distinct⟩

theorem Sheltered.live {gap counter : BitVec 32} {packets : List ReorderBufferElement}
    (hsheltered : Sheltered timeout now gap counter packets) {element : ReorderBufferElement}
    (hmem : element ∈ packets) (hnext : element.sequence = counter + 1) : element.Live := by
  by_contra hdead
  have hlt := hsheltered.flushed element hmem hdead
  rw [hnext, ahead_self] at hlt
  omega

/-! ### The ledger stays balanced -/

section Balanced

variable {first allocated : Nat} {history : List Event}

theorem counts_written (handle : Nat) (element : ReorderBufferElement) :
    writtenTimes handle [.written element, .freed element.packet.handle] =
        (if element.packet.handle = handle then 1 else 0) ∧
      discardedTimes handle [.written element, .freed element.packet.handle] = 0 ∧
      freedTimes handle [.written element, .freed element.packet.handle] =
        if element.packet.handle = handle then 1 else 0 := by
  simp [writtenTimes, discardedTimes, freedTimes, List.countP_cons, Event.writes, Event.discards,
    Event.frees]

/-- Writing a packet and freeing its block keeps the balance. -/
theorem Balanced.flush {before after : List ReorderBufferElement} {element : ReorderBufferElement}
    (hbalanced : Balanced first allocated history (before ++ element :: after))
    (hlive : element.Live) :
    Balanced first allocated (history ++ [.written element, .freed element.packet.handle])
      (before ++ element.flushed :: after) := by
  refine ⟨fun handle => ?_, fun handle => ?_⟩
  · have honce := hbalanced.once handle
    obtain ⟨hwritten, hdiscarded, _⟩ := counts_written handle element
    rw [heldTimes_append, heldTimes_cons] at honce
    simp only [hlive, true_and] at honce
    rw [writtenTimes_append, discardedTimes_append, heldTimes_append, heldTimes_cons_flushed,
      hwritten, hdiscarded, ← honce]
    omega
  · obtain ⟨hwritten, hdiscarded, hfreed⟩ := counts_written handle element
    rw [freedTimes_append, writtenTimes_append, discardedTimes_append, hbalanced.freed handle,
      hwritten, hdiscarded, hfreed]
    omega

theorem Balanced.append_of_quiet {packets : List ReorderBufferElement} {event : Event}
    (hbalanced : Balanced first allocated history packets)
    (hwritten : ∀ handle, event.writes handle = false)
    (hdiscarded : ∀ handle, event.discards handle = false)
    (hfreed : ∀ handle, event.frees handle = false) :
    Balanced first allocated (history ++ [event]) packets := by
  refine ⟨fun handle => ?_, fun handle => ?_⟩
  · rw [writtenTimes_append, discardedTimes_append, ← hbalanced.once handle]
    simp [writtenTimes, discardedTimes, hwritten, hdiscarded]
  · rw [freedTimes_append, writtenTimes_append, discardedTimes_append, hbalanced.freed handle]
    simp [freedTimes, writtenTimes, discardedTimes, hwritten, hdiscarded, hfreed]

/-- Sheltered flush loops keep the books. -/
theorem Balanced.advances {gap : BitVec 32} {flushing result : Flushing}
    (hbalanced : Balanced first allocated (history ++ flushing.events) flushing.packets)
    (hsheltered : Sheltered timeout now gap flushing.sequenceFlushed flushing.packets)
    (hadvances : Advances timeout now flushing result) :
    Balanced first allocated (history ++ result.events) result.packets := by
  refine (hadvances.invariant (fun flushing =>
    Balanced first allocated (history ++ flushing.events) flushing.packets ∧
      Sheltered timeout now gap flushing.sequenceFlushed flushing.packets) ?_
    ⟨hbalanced, hsheltered⟩).1
  rintro flushing next ⟨hbalanced, hsheltered⟩ hadvance
  refine ⟨?_, hsheltered.advance hadvance⟩
  cases hadvance with
  | flush before element after counter events hnext =>
      rw [← List.append_assoc]
      exact hbalanced.flush (hsheltered.live (by simp) hnext)
  | skip packets held counter events hmissing hheld hoverdue =>
      rw [← List.append_assoc]
      exact hbalanced.append_of_quiet (fun _ => rfl) (fun _ => rfl) fun _ => rfl

/-- So do the discards and the compaction. -/
theorem Balanced.finish {flushing : Flushing} (buffer : ByteMemory.Memory) (blocks : Nat)
    (hbalanced : Balanced first allocated (history ++ flushing.events) flushing.packets) :
    Balanced first allocated (history ++ (Gre2tun.finish buffer blocks flushing).2)
      (Gre2tun.finish buffer blocks flushing).1.packets := by
  obtain ⟨packets, counter, events⟩ := flushing
  dsimp only at hbalanced
  simp only [Gre2tun.finish, ← List.append_assoc]
  refine ⟨fun handle => ?_, fun handle => ?_⟩
  · have honce := hbalanced.once handle
    obtain ⟨hwritten, _, hheld⟩ := discardLate_counts handle counter packets
    rw [← hheld] at honce
    rw [writtenTimes_append, discardedTimes_append, heldTimes_compact, hwritten, ← honce]
    omega
  · have hfreedBefore := hbalanced.freed handle
    obtain ⟨hwritten, hfreed, _⟩ := discardLate_counts handle counter packets
    rw [writtenTimes_append, discardedTimes_append, freedTimes_append, hfreedBefore, hwritten, hfreed]
    omega

theorem Balanced.enqueued {packets : List ReorderBufferElement} {element : ReorderBufferElement}
    (hbalanced : Balanced first allocated history packets) (hfirst : first ≤ allocated)
    (hhandle : element.packet.handle = allocated) (hlive : element.Live) :
    Balanced first (allocated + 1) history (packets ++ [element]) := by
  refine ⟨fun handle => ?_, hbalanced.freed⟩
  have honce := hbalanced.once handle
  rw [heldTimes_append, heldTimes_cons, heldTimes_nil, ← Nat.add_assoc, honce, hhandle]
  simp only [hlive, true_and]
  split_ifs <;> omega

theorem Balanced.written {packets : List ReorderBufferElement} {element : ReorderBufferElement}
    (hbalanced : Balanced first allocated history packets) (hfirst : first ≤ allocated)
    (hhandle : element.packet.handle = allocated) :
    Balanced first (allocated + 1) (history ++ [.written element, .freed element.packet.handle])
      (packets ++ [element.flushed]) := by
  refine ⟨fun handle => ?_, fun handle => ?_⟩
  · have honce := hbalanced.once handle
    obtain ⟨hwritten, hdiscarded, _⟩ := counts_written handle element
    rw [writtenTimes_append, discardedTimes_append, heldTimes_append, heldTimes_cons_flushed,
      heldTimes_nil, hwritten, hdiscarded, hhandle]
    split_ifs at honce ⊢ <;> omega
  · obtain ⟨hwritten, hdiscarded, hfreed⟩ := counts_written handle element
    rw [freedTimes_append, writtenTimes_append, discardedTimes_append, hbalanced.freed handle,
      hwritten, hdiscarded, hfreed]
    omega

end Balanced

/-! ### An empty packet whose turn it is -/

theorem flushPass_append_of_missing {before : List ReorderBufferElement} {counter : BitVec 32}
    (hmissing : ∀ element ∈ before, element.sequence ≠ counter + 1)
    (after : List ReorderBufferElement) :
    flushPass counter (before ++ after) =
      { flushPass counter after with packets := before ++ (flushPass counter after).packets } := by
  induction before with
  | nil => rfl
  | cons element rest ih =>
      have hrest := ih fun other hother => hmissing other (List.mem_cons_of_mem element hother)
      rw [List.cons_append, flushPass, if_neg (hmissing element List.mem_cons_self), hrest]
      rfl

theorem flushRound_of_next {packets : List ReorderBufferElement} {element : ReorderBufferElement}
    {counter : BitVec 32} (hmissing : ∀ other ∈ packets, other.sequence ≠ counter + 1)
    (hnext : element.sequence = counter + 1) :
    flushRound timeout now ⟨packets ++ [element], counter, []⟩ =
      .inl ⟨packets ++ [element.flushed], counter + 1,
        [.written element, .freed element.packet.handle]⟩ := by
  have hlast : flushPass counter [element] =
      ⟨[element.flushed], counter + 1, [.written element, .freed element.packet.handle]⟩ := by
    rw [flushPass, if_pos hnext]
    rfl
  have hpass := flushPass_append_of_missing hmissing [element]
  rw [hlast] at hpass
  simp [flushRound, hpass]

theorem Sheltered.of_next {gap counter : BitVec 32} {packets : List ReorderBufferElement}
    {element : ReorderBufferElement} (hsheltered : Sheltered timeout now gap counter packets)
    (hmissing : ∀ other ∈ packets, other.sequence ≠ counter + 1)
    (hnext : element.sequence = counter + 1) (hgap : element.sequence ≠ gap) :
    Sheltered timeout now gap (counter + 1) (packets ++ [element.flushed]) := by
  have hne : gap ≠ counter + 1 := fun heq => hgap (hnext.trans heq.symm)
  have hcloser := fun {other} (hmem : other ∈ packets) =>
    hsheltered.closer hne hmem (hmissing other hmem)
  have hself : element.flushed.sequence = counter + 1 := hnext
  have hgapAhead := ahead_succ hne
  have hlt := ahead_lt counter gap
  refine ⟨?_, ?_, ?_, ?_⟩
  · intro other hother
    rcases List.mem_append.mp hother with hmem | hmem
    · exact hsheltered.absent other hmem
    · obtain rfl := List.mem_singleton.mp hmem
      exact hgap
  · intro other hother hdead
    rcases List.mem_append.mp hother with hmem | hmem
    · exact (hcloser hmem).1 hdead
    · obtain rfl := List.mem_singleton.mp hmem
      rw [hself, ahead_succ_self]
      omega
  · intro other hother hoverdue
    rcases List.mem_append.mp hother with hmem | hmem
    · exact (hcloser hmem).2 hoverdue
    · obtain rfl := List.mem_singleton.mp hmem
      exact absurd hoverdue.1 (not_live_flushed element)
  · rw [List.pairwise_append]
    refine ⟨hsheltered.distinct, List.pairwise_singleton _ _, fun other hother last hlast hsame => ?_⟩
    obtain rfl := List.mem_singleton.mp hlast
    exact absurd (hsame.trans hself) (hmissing other hother)

/-! ### The runs -/

def arrival (timeout : Timeval) (state : State) (input : Input) : List ReorderBufferElement :=
  match (receive timeout state input).2 with
  | .enqueued element => [element]
  | _ => []

/-- The packet that arrives has a payload or is the next one, and some number that no slot carries
shelters the flushed slots. -/
def Orderly (timeout : Timeval) (_history : History Input (List Event)) (state : State)
    (input : Input) : Prop :=
  (∀ element ∈ arrival timeout state input,
    element.Live ∨ element.sequence = state.sequenceFlushed + 1) ∧
  ∃ gap, (∀ element ∈ arrival timeout state input, element.sequence ≠ gap) ∧
    Sheltered timeout input.now gap state.sequenceFlushed
      (state.packets ++ (arrival timeout state input).filter fun element => element.Live)

structure Kept (first : Nat) (history : History Input (List Event)) (state : State) : Prop where
  balanced : Balanced first state.allocated (outputs history) state.packets
  allocated : first ≤ state.allocated
  missing : ∀ element ∈ state.packets, element.sequence ≠ state.sequenceFlushed + 1

/-- Wherever the flush loops start from, they end with the books balanced. -/
theorem Kept.starts {first : Nat} {history : History Input (List Event)} {state : State}
    {input : Input} {start result : Flushing} {allocated : Nat} (hkept : Kept first history state)
    (horderly : Orderly timeout history state input)
    (hstarts : Starts timeout state input start allocated)
    (hreturns : Loop.Returns (flushRound timeout input.now) start result) :
    Balanced first allocated (outputs history ++ result.events) result.packets ∧
      first ≤ allocated := by
  obtain ⟨hbalanced, hfirst, hmissing⟩ := hkept
  obtain ⟨hpayload, gap, hgap, hsheltered⟩ := horderly
  cases hstarts with
  | forwarded event hreceive =>
      refine ⟨Balanced.advances ?_ (by simpa [arrival, hreceive] using hsheltered)
        (returns_flushRound hreturns).1, hfirst⟩
      rcases receive_forwarded hreceive with ⟨payload, rfl⟩ | ⟨size, rfl⟩
      · exact hbalanced.append_of_quiet (fun _ => rfl) (fun _ => rfl) fun _ => rfl
      · exact hbalanced.append_of_quiet (fun _ => rfl) (fun _ => rfl) fun _ => rfl
  | idle hreceive =>
      refine ⟨Balanced.advances (by simpa using hbalanced)
        (by simpa [arrival, hreceive] using hsheltered) (returns_flushRound hreturns).1, hfirst⟩
  | enqueued element hreceive hsize =>
      have hhandle := (receive_enqueued hreceive).1
      simp only [arrival, hreceive, List.mem_singleton, forall_eq] at hpayload hgap hsheltered
      refine ⟨?_, by omega⟩
      by_cases hlive : element.Live
      · refine Balanced.advances ?_ (by simpa [hlive] using hsheltered)
          (returns_flushRound hreturns).1
        simpa using hbalanced.enqueued hfirst hhandle hlive
      · have hnext := hpayload.resolve_left hlive
        have hrest := hreturns.of_inl_inv (flushRound_of_next hmissing hnext)
        refine Balanced.advances ?_ (Sheltered.of_next (by simpa [hlive] using hsheltered) hmissing
          hnext hgap) (returns_flushRound hrest).1
        exact hbalanced.written hfirst hhandle

/-- What one iteration preserves. -/
theorem Kept.step {first : Nat} {history : History Input (List Event)} {state next : State}
    {input : Input} {events : List Event} (hkept : Kept first history state)
    (horderly : Orderly timeout history state input)
    (hstep : Step timeout state input events next) :
    Kept first (history ++ [(input, events)]) next := by
  rcases hstep.cases with ⟨_, rfl, rfl⟩ | ⟨start, allocated, flushing, hstarts, hreturns, hfinish⟩
  · exact ⟨by simpa using hkept.balanced, hkept.allocated, hkept.missing⟩
  · obtain ⟨hbalanced, hfirst⟩ := hkept.starts horderly hstarts hreturns
    obtain ⟨_, hquiescent⟩ := returns_flushRound hreturns
    obtain ⟨rfl, rfl⟩ := Prod.mk.inj hfinish
    refine ⟨?_, hfirst, ?_⟩
    · rw [outputs_append, outputs_singleton]
      exact hbalanced.finish _ _
    · intro element hmem
      obtain ⟨old, hold, ⟨rfl, _⟩ | ⟨rfl, _⟩⟩ := mem_compact_discardLate hmem
      · exact hquiescent.missing element hold
      · exact hquiescent.missing old hold

/-- **Conservation.** In every run whose iterations are orderly, each packet put into the reorder
buffer has been written once, has been discarded once or is held, and its block has been released
once, once or not at all. -/
theorem packets_conserved {buffer : ByteMemory.Memory} {history : History Input (List Event)}
    {state : State}
    (hrun : RunWhere (Step timeout) (Orderly timeout) (State.initial buffer) history state) :
    ∀ handle < state.allocated, Settled handle (outputs history) state.packets := by
  have hinitial : Kept 0 [] (State.initial buffer) :=
    ⟨⟨fun _ => rfl, fun _ => rfl⟩, Nat.zero_le _, by simp [State.initial]⟩
  have hkept := hrun.invariant (Kept 0) hinitial
    fun _ _ _ _ _ hkept horderly hstep => hkept.step horderly hstep
  exact fun handle hhandle => hkept.balanced.settled (Nat.zero_le handle) hhandle

/-- Packet 0 is written, packet 2 waits for packet 1. -/
theorem gap_conserved : ∃ history state,
    RunWhere (Step ⟨0, 250000⟩) (Orderly ⟨0, 250000⟩) (State.initial fun _ => 0) history state ∧
      history.map Prod.fst = [numbered 0, numbered 2] ∧
      ∀ handle < 2, Settled handle (outputs history) state.packets := by
  have harrival : ∀ (state : State) (number : BitVec 32),
      arrival ⟨0, 250000⟩ state (numbered number) = [numberedSlot number state.allocated] := by
    intro state number
    rw [arrival, receive_numbered]
  have horderly : ∀ (history : History Input (List Event)) (state : State) (number : BitVec 32),
      state.packets = [] → number ≠ 3 →
      Orderly ⟨0, 250000⟩ history state (numbered number) := by
    intro history state number hempty hne
    have hlive : (numberedSlot number state.allocated).Live := by
      show (1 : BitVec 16) ≠ 0
      decide
    have hfresh : ¬ Overdue ⟨0, 250000⟩ ⟨5, 0⟩ (numberedSlot number state.allocated) := by
      rintro ⟨_, hoverdue⟩
      revert hoverdue
      show ¬ timercmpGe (timersub ⟨5, 0⟩ ⟨5, 0⟩) ⟨0, 250000⟩ = true
      decide
    have hsequence : (numberedSlot number state.allocated).sequence = number := rfl
    rw [Orderly, harrival, hempty]
    refine ⟨by simpa using Or.inl hlive, 3, by simpa [hsequence] using hne, ?_⟩
    refine ⟨?_, ?_, ?_, ?_⟩
    · simpa [hlive, hsequence] using hne
    · simp [hlive]
    · intro element hmem hoverdue
      simp only [hlive, List.nil_append, List.filter_singleton] at hmem
      obtain rfl := List.mem_singleton.mp hmem
      exact absurd hoverdue hfresh
    · simp [hlive]
  have hzero := step_next rfl (receive_numbered (State.initial fun _ => 0) 0) (by decide)
  set buffer := (receive ⟨0, 250000⟩ (State.initial fun _ => 0) (numbered 0)).1
  have htwo := step_held (receive_numbered ⟨buffer, [], 0, 1⟩ 2) rfl (by decide)
    ⟨by decide, by decide⟩ (by decide) (by decide)
  have hrun := RunWhere.snoc (.snoc .nil (horderly _ _ 0 rfl (by decide)) hzero)
    (horderly _ _ 2 rfl (by decide)) htwo
  exact ⟨_, _, hrun, rfl, packets_conserved hrun⟩

def emptyMessage : Input where
  recvfrom := .datagram in6addrAny (dataMessage ethertypeIp 7 1 [])
  haapIp := in6addrAny
  timestamp := ⟨5, 0⟩
  now := ⟨5, 0⟩

/-- An empty packet vanishes: its size of zero is the mark of a flushed slot, so the compaction
drops it unwritten and its block is never freed. -/
theorem empty_packet_lost : ∃ events state,
    Run ⟨0, 250000⟩ (State.initial fun _ => 0) [(emptyMessage, events)] state ∧
      0 < state.allocated ∧ events = [] ∧ state.packets = [] ∧
      ¬ Settled 0 events state.packets := by
  set slot : ReorderBufferElement := ⟨1, ⟨5, 0⟩, ⟨0, []⟩, 0⟩ with hslot
  have hreceive : (receive ⟨0, 250000⟩ (State.initial fun _ => 0) emptyMessage).2 =
      .enqueued slot :=
    (receive_dataMessage _ (by simp) rfl).trans (if_neg (by decide))
  have hstarts := starts_of_empty rfl hreceive
  have hquiescent : Quiescent ⟨0, 250000⟩ ⟨5, 0⟩ ⟨[slot], BitVec.allOnes 32, []⟩ :=
    ⟨by decide, by decide⟩
  have hstep := Step.of_starts hstarts (returns_of_quiescent _ hquiescent)
  refine ⟨_, _, .snoc .nil trivial hstep, Nat.succ_pos _, by decide, ?_, ?_⟩
  · have hkeep : discardLate (BitVec.allOnes 32) [slot] = [slot] := by decide
    simp only [finish, State.initial, hkeep]
    exact compact_of_not_live (by decide)
  · rintro (⟨hcount, _⟩ | ⟨_, hcount, _⟩ | ⟨_, _, hcount, _⟩)
    all_goals exact absurd hcount (by decide)

end OpenHybrid.Gre2tun

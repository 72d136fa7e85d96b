import OpenHybrid.Proof.Termination

/-!
# Ordered delivery

Distinct numbers above the counter and below `UINT32_MAX`: the window in which the plain comparisons
of the loop mean what they say. Inside it no slot is taken twice, nothing that waits its turn is
discarded, and what is written is written in increasing order.
-/

namespace OpenHybrid.Gre2tun

open Transition

variable {timeout now : Timeval} {floor counter : BitVec 32}

/-! ### What was written -/

def Event.writtenSlot : Event → Option ReorderBufferElement
  | .written element => some element
  | _ => none

def written (events : List Event) : List ReorderBufferElement :=
  events.filterMap Event.writtenSlot

def writtenWith (number : BitVec 32) (events : List Event) : List ReorderBufferElement :=
  (written events).filter fun element => element.sequence = number

@[simp]
theorem written_append (before after : List Event) :
    written (before ++ after) = written before ++ written after := by
  simp [written]

@[simp]
theorem writtenWith_append (number : BitVec 32) (before after : List Event) :
    writtenWith number (before ++ after) = writtenWith number before ++ writtenWith number after := by
  simp [writtenWith]

theorem written_discardEvents (counter : BitVec 32) (packets : List ReorderBufferElement) :
    written (discardEvents counter packets) = [] := by
  simp [written, discardEvents, Event.writtenSlot, List.filterMap_flatMap]

theorem written_forwarded {state : State} {input : Input} {event : Event}
    (hreceive : (receive timeout state input).2 = .forwarded event) : written [event] = [] := by
  rcases receive_forwarded hreceive with ⟨_, rfl⟩ | ⟨_, rfl⟩ <;> rfl

theorem written_flush (element : ReorderBufferElement) :
    written [.written element, .freed element.packet.handle] = [element] := rfl

/-! ### The window -/

/-- The slots and the counter inside the window. A packet behind the counter may only be held if it
is `lateOk`. -/
structure Windowed (lateOk : ReorderBufferElement → Prop) (floor : BitVec 32) (events : List Event)
    (counter : BitVec 32) (packets : List ReorderBufferElement) : Prop where
  above : ∀ element ∈ packets, floor < element.sequence
  below : ∀ element ∈ packets, element.sequence < BitVec.allOnes 32
  distinct : (sequences packets).Nodup
  flushed : ∀ element ∈ packets, ¬ element.Live → element.sequence ≤ counter
  live : ∀ element ∈ packets, element.Live → counter < element.sequence ∨ lateOk element
  floor_le : floor ≤ counter
  increasing : ((written events).map ReorderBufferElement.sequence).Pairwise (· < ·)
  written_le : ∀ element ∈ written events, element.sequence ≤ counter

theorem lt_succ_of_floor (hnext : floor < counter + 1) : counter < counter + 1 := by
  bv_omega

theorem succ_lt_of_ne {number : BitVec 32} (hlt : counter < number) (hne : number ≠ counter + 1) :
    counter + 1 < number := by
  bv_omega

theorem lt_succ_of_lt {number : BitVec 32} (hlt : counter < number) : counter < counter + 1 := by
  bv_omega

theorem mem_of_mem_flush {before after : List ReorderBufferElement}
    {element other : ReorderBufferElement} (hmem : other ∈ before ++ element.flushed :: after) :
    other = element.flushed ∨ (other ∈ before ++ element :: after ∧ other ∈ before ++ after) := by
  simp only [List.mem_append, List.mem_cons] at hmem ⊢
  tauto

theorem sequence_ne_of_nodup {before after : List ReorderBufferElement}
    {element other : ReorderBufferElement}
    (hnodup : (sequences (before ++ element :: after)).Nodup) (hmem : other ∈ before ++ after) :
    other.sequence ≠ element.sequence := by
  rw [sequences, List.map_append, List.map_cons] at hnodup
  have hperm := hnodup.perm List.perm_middle
  intro heq
  apply (List.nodup_cons.mp hperm).1
  rw [← heq, ← List.map_append]
  exact List.mem_map_of_mem hmem

theorem Windowed.next_live {lateOk : ReorderBufferElement → Prop} {events : List Event}
    {packets : List ReorderBufferElement}
    (hwindowed : Windowed lateOk floor events counter packets) {element : ReorderBufferElement}
    (hmem : element ∈ packets) (hnext : element.sequence = counter + 1) :
    counter < counter + 1 ∧ element.Live := by
  have hlt := lt_succ_of_floor (hnext ▸ hwindowed.above element hmem)
  refine ⟨hlt, ?_⟩
  by_contra hdead
  have hle := hwindowed.flushed element hmem hdead
  rw [hnext] at hle
  exact BitVec.not_le.mpr hlt hle

theorem Windowed.overdue_ahead {events : List Event} {packets : List ReorderBufferElement}
    (hwindowed : Windowed (fun element => ¬ Overdue timeout now element) floor events counter packets)
    {held : ReorderBufferElement} (hmem : held ∈ packets) (hoverdue : Overdue timeout now held) :
    counter < held.sequence :=
  (hwindowed.live held hmem hoverdue.1).resolve_right (not_not_intro hoverdue)

/-- The window moves with the counter. -/
theorem Windowed.advance {history : List Event} {flushing next : Flushing}
    (hwindowed : Windowed (fun element => ¬ Overdue timeout now element) floor
      (history ++ flushing.events) flushing.sequenceFlushed flushing.packets)
    (hadvance : Advance timeout now flushing next) :
    Windowed (fun element => ¬ Overdue timeout now element) floor (history ++ next.events)
      next.sequenceFlushed next.packets := by
  cases hadvance with
  | flush before element after counter events hnext =>
      obtain ⟨hlt, _⟩ := hwindowed.next_live (by simp) hnext
      obtain ⟨habove, hbelow, hdistinct, hflushed, hlive, hfloor, hincreasing, hle⟩ := hwindowed
      have hsequences : sequences (before ++ element.flushed :: after) =
          sequences (before ++ element :: after) := by
        simp [ReorderBufferElement.flushed]
      have hwritten : written (history ++ (events ++
          [.written element, .freed element.packet.handle])) =
          written (history ++ events) ++ [element] := by
        rw [← List.append_assoc, written_append, written_flush]
      refine ⟨?_, ?_, hsequences ▸ hdistinct, ?_, ?_, BitVec.le_trans hfloor (BitVec.le_of_lt hlt),
        ?_, ?_⟩
      · intro other hother
        rcases mem_of_mem_flush hother with rfl | ⟨hmem, _⟩
        · exact habove element (by simp)
        · exact habove other hmem
      · intro other hother
        rcases mem_of_mem_flush hother with rfl | ⟨hmem, _⟩
        · exact hbelow element (by simp)
        · exact hbelow other hmem
      · intro other hother hdead
        rcases mem_of_mem_flush hother with rfl | ⟨hmem, _⟩
        · exact BitVec.le_of_eq hnext
        · exact BitVec.le_trans (hflushed other hmem hdead) (BitVec.le_of_lt hlt)
      · intro other hother hliveOther
        rcases mem_of_mem_flush hother with rfl | ⟨hmem, hside⟩
        · exact absurd hliveOther (not_live_flushed element)
        · refine (hlive other hmem hliveOther).imp_left fun hahead => ?_
          exact succ_lt_of_ne hahead (hnext ▸ sequence_ne_of_nodup hdistinct hside)
      · rw [hwritten, List.map_append, List.map_singleton, List.pairwise_append]
        refine ⟨hincreasing, List.pairwise_singleton _ _, fun number hnumber last hlast => ?_⟩
        obtain ⟨earlier, hearlier, rfl⟩ := List.mem_map.mp hnumber
        rw [List.mem_singleton.mp hlast, hnext]
        have hearlierLe := hle earlier hearlier
        bv_omega
      · intro other hother
        rw [hwritten] at hother
        rcases List.mem_append.mp hother with hmem | hmem
        · exact BitVec.le_trans (hle other hmem) (BitVec.le_of_lt hlt)
        · rw [List.mem_singleton.mp hmem]
          exact BitVec.le_of_eq hnext
  | skip packets held counter events hmissing hheld hoverdue =>
      have hlt := lt_succ_of_lt (hwindowed.overdue_ahead hheld hoverdue)
      obtain ⟨habove, hbelow, hdistinct, hflushed, hlive, hfloor, hincreasing, hle⟩ := hwindowed
      have hwritten : written (history ++ (events ++
          [.timedOut (counter + 1) held (held.age now)])) = written (history ++ events) := by
        rw [← List.append_assoc, written_append]
        exact List.append_nil _
      refine ⟨habove, hbelow, hdistinct, ?_, ?_, BitVec.le_trans hfloor (BitVec.le_of_lt hlt),
        by rwa [hwritten], ?_⟩
      · intro other hother hdead
        exact BitVec.le_trans (hflushed other hother hdead) (BitVec.le_of_lt hlt)
      · intro other hother hliveOther
        exact (hlive other hother hliveOther).imp_left fun hahead =>
          succ_lt_of_ne hahead (hmissing other hother)
      · rw [hwritten]
        exact fun other hother => BitVec.le_trans (hle other hother) (BitVec.le_of_lt hlt)

/-- After the discard step nothing is held behind the counter. -/
theorem Windowed.finish {history : List Event} {flushing : Flushing} (buffer : ByteMemory.Memory)
    (allocated : Nat) {lateOk : ReorderBufferElement → Prop}
    (hwindowed : Windowed lateOk floor (history ++ flushing.events) flushing.sequenceFlushed
      flushing.packets) :
    Windowed (fun _ => False) floor (history ++ (Gre2tun.finish buffer allocated flushing).2)
      (Gre2tun.finish buffer allocated flushing).1.sequenceFlushed
      (Gre2tun.finish buffer allocated flushing).1.packets := by
  obtain ⟨habove, hbelow, hdistinct, hflushed, hlive, hfloor, hincreasing, hle⟩ := hwindowed
  have hwritten : written (history ++ (flushing.events ++
      discardEvents flushing.sequenceFlushed flushing.packets)) =
      written (history ++ flushing.events) := by
    rw [← List.append_assoc, written_append, written_discardEvents, List.append_nil]
  simp only [Gre2tun.finish]
  refine ⟨?_, ?_, ?_, ?_, ?_, hfloor, by rwa [hwritten], by rwa [hwritten]⟩
  · intro element hmem
    obtain ⟨old, hold, ⟨rfl, _⟩ | ⟨rfl, _⟩⟩ := mem_compact_discardLate hmem
    · exact habove element hold
    · exact habove old hold
  · intro element hmem
    obtain ⟨old, hold, ⟨rfl, _⟩ | ⟨rfl, _⟩⟩ := mem_compact_discardLate hmem
    · exact hbelow element hold
    · exact hbelow old hold
  · have hsequences : sequences (discardLate flushing.sequenceFlushed flushing.packets) =
        sequences flushing.packets := by
      rw [sequences, discardLate, List.map_map]
      refine List.map_congr_left fun element _ => ?_
      by_cases hlate : Late flushing.sequenceFlushed element
      · simp [hlate, ReorderBufferElement.flushed]
      · simp [hlate]
    obtain ⟨gone, hgone, _⟩ :=
      exists_append_compact (discardLate flushing.sequenceFlushed flushing.packets)
    rw [← hsequences, hgone, sequences, List.map_append] at hdistinct
    exact hdistinct.of_append_right
  · intro element hmem hdead
    obtain ⟨old, hold, ⟨rfl, _⟩ | ⟨rfl, hlate⟩⟩ := mem_compact_discardLate hmem
    · exact hflushed element hold hdead
    · exact hlate.2
  · intro element hmem hliveElement
    obtain ⟨old, hold, ⟨rfl, hlate⟩ | ⟨rfl, _⟩⟩ := mem_compact_discardLate hmem
    · exact Or.inl (BitVec.not_le.mp fun hle => hlate ⟨hliveElement, hle⟩)
    · exact absurd hliveElement (not_live_flushed old)

/-! ### One packet on its way -/

/-- A packet that was ahead of the counter is held until its turn has come, and then it has been
written once. -/
def Tracked (events : List Event) (counter : BitVec 32) (packets : List ReorderBufferElement)
    (element : ReorderBufferElement) : Prop :=
  (element ∈ packets ∧ element.Live ∧ counter < element.sequence ∧
      writtenWith element.sequence events = []) ∨
    (element.sequence ≤ counter ∧ writtenWith element.sequence events = [element])

/-- A packet is tracked while the counter moves. -/
theorem Tracked.advance {history : List Event} {flushing next : Flushing}
    {element : ReorderBufferElement}
    (hwindowed : Windowed (fun element => ¬ Overdue timeout now element) floor
      (history ++ flushing.events) flushing.sequenceFlushed flushing.packets)
    (htracked : Tracked (history ++ flushing.events) flushing.sequenceFlushed flushing.packets
      element)
    (hadvance : Advance timeout now flushing next) :
    Tracked (history ++ next.events) next.sequenceFlushed next.packets element := by
  cases hadvance with
  | flush before taken after counter events hnext =>
      obtain ⟨hlt, _⟩ := hwindowed.next_live (by simp) hnext
      have hevents : writtenWith element.sequence (history ++ (events ++
          [.written taken, .freed taken.packet.handle])) =
          writtenWith element.sequence (history ++ events) ++
            [taken].filter fun other => other.sequence = element.sequence := by
        rw [← List.append_assoc, writtenWith_append]
        rfl
      rw [Tracked, hevents]
      rcases htracked with ⟨hmem, hlive, hahead, hnone⟩ | ⟨hbehind, honce⟩
      · by_cases hsame : taken.sequence = element.sequence
        · have heq : taken = element := by
            have hmiddle : element = taken ∨ element ∈ before ++ after := by
              simp only [List.mem_append, List.mem_cons] at hmem ⊢
              tauto
            rcases hmiddle with heq | hside
            · exact heq.symm
            · exact absurd hsame.symm (sequence_ne_of_nodup hwindowed.distinct hside)
          subst heq
          exact Or.inr ⟨BitVec.le_of_eq hnext, by simp [hnone]⟩
        · refine Or.inl ⟨?_, hlive, succ_lt_of_ne hahead fun heq => hsame (hnext.trans heq.symm), ?_⟩
          · have hne : element ≠ taken := fun heq => hsame (congrArg _ heq.symm)
            simp only [List.mem_append, List.mem_cons] at hmem ⊢
            tauto
          · simp [hnone, hsame]
      · have hne : taken.sequence ≠ element.sequence := by
          rw [hnext]
          intro heq
          rw [← heq] at hbehind
          exact BitVec.not_le.mpr hlt hbehind
        exact Or.inr ⟨BitVec.le_trans hbehind (BitVec.le_of_lt hlt), by simp [honce, hne]⟩
  | skip packets held counter events hmissing hheld hoverdue =>
      have hlt := lt_succ_of_lt (hwindowed.overdue_ahead hheld hoverdue)
      have hevents : writtenWith element.sequence (history ++ (events ++
          [.timedOut (counter + 1) held (held.age now)])) =
          writtenWith element.sequence (history ++ events) := by
        rw [← List.append_assoc, writtenWith_append]
        exact List.append_nil _
      rw [Tracked, hevents]
      rcases htracked with ⟨hmem, hlive, hahead, hnone⟩ | ⟨hbehind, honce⟩
      · exact Or.inl ⟨hmem, hlive, succ_lt_of_ne hahead (hmissing element hmem), hnone⟩
      · exact Or.inr ⟨BitVec.le_trans hbehind (BitVec.le_of_lt hlt), honce⟩

theorem Tracked.finish {history : List Event} {flushing : Flushing}
    {element : ReorderBufferElement} (buffer : ByteMemory.Memory) (allocated : Nat)
    (htracked : Tracked (history ++ flushing.events) flushing.sequenceFlushed flushing.packets
      element) :
    Tracked (history ++ (Gre2tun.finish buffer allocated flushing).2)
      (Gre2tun.finish buffer allocated flushing).1.sequenceFlushed
      (Gre2tun.finish buffer allocated flushing).1.packets element := by
  have hevents : writtenWith element.sequence (history ++ (flushing.events ++
      discardEvents flushing.sequenceFlushed flushing.packets)) =
      writtenWith element.sequence (history ++ flushing.events) := by
    rw [← List.append_assoc, writtenWith_append, writtenWith, writtenWith, written_discardEvents,
      List.filter_nil, List.append_nil]
  simp only [Gre2tun.finish, Tracked, hevents]
  rcases htracked with ⟨hmem, hlive, hahead, hnone⟩ | hwritten
  · refine Or.inl ⟨?_, hlive, hahead, hnone⟩
    have hlate : ¬ Late flushing.sequenceFlushed element :=
      fun hlate => BitVec.not_le.mpr hahead hlate.2
    have hdiscard : element ∈ discardLate flushing.sequenceFlushed flushing.packets :=
      List.mem_map.mpr ⟨element, hmem, if_neg hlate⟩
    obtain ⟨gone, hgone, hdead⟩ :=
      exists_append_compact (discardLate flushing.sequenceFlushed flushing.packets)
    rw [hgone] at hdiscard
    exact (List.mem_append.mp hdiscard).resolve_left fun hmem => hdead element hmem hlive
  · exact Or.inr hwritten

/-! ### The runs -/

/-- In this history the packet that `input` carries was put into the buffer as `element`, when the
state was `state`. -/
def Arrived (timeout : Timeval) (start : State) (history : History Input (List Event))
    (input : Input) (state : State) (element : ReorderBufferElement) : Prop :=
  ∃ before events after, history = before ++ (input, events) :: after ∧
    Run timeout start before state ∧ (receive timeout state input).2 = .enqueued element

def NumberArrived (timeout : Timeval) (start : State) (history : History Input (List Event))
    (number : BitVec 32) : Prop :=
  ∃ input state element, Arrived timeout start history input state element ∧
    element.sequence = number

def Expected (timeout : Timeval) (start : State) (history : History Input (List Event))
    (element : ReorderBufferElement) : Prop :=
  ∃ input state, Arrived timeout start history input state element ∧
    state.sequenceFlushed < element.sequence

/-- What is put into the buffer has a payload, a number of its own between the first value of the
counter and `UINT32_MAX`, and is not overdue in the iteration it arrives in. -/
def InWindow (timeout : Timeval) (start : State) (history : History Input (List Event))
    (state : State) (input : Input) : Prop :=
  ∀ element, (receive timeout state input).2 = .enqueued element →
    input.payload ≠ [] ∧ start.sequenceFlushed < element.sequence ∧
      element.sequence < BitVec.allOnes 32 ∧
      ¬ NumberArrived timeout start history element.sequence ∧
      timercmpGe (element.age input.now) timeout = false

theorem Arrived.append {start state : State} {history more : History Input (List Event)}
    {input : Input} {element : ReorderBufferElement}
    (harrived : Arrived timeout start history input state element) :
    Arrived timeout start (history ++ more) input state element := by
  obtain ⟨before, events, after, rfl, hrun, hreceive⟩ := harrived
  exact ⟨before, events, after ++ more, by simp, hrun, hreceive⟩

theorem Arrived.snoc_cases {start state last : State} {history : History Input (List Event)}
    {input lastInput : Input} {events : List Event} {element : ReorderBufferElement}
    (hrun : Run timeout start history last)
    (harrived : Arrived timeout start (history ++ [(lastInput, events)]) input state element) :
    Arrived timeout start history input state element ∨
      (input = lastInput ∧ state = last ∧ (receive timeout last input).2 = .enqueued element) := by
  obtain ⟨before, output, after, hsplit, hbefore, hreceive⟩ := harrived
  rcases List.eq_nil_or_concat after with rfl | ⟨initial, final, rfl⟩
  · obtain ⟨rfl, hlast⟩ := List.append_inj' hsplit rfl
    obtain ⟨rfl, rfl⟩ := Prod.mk.inj (List.singleton_injective hlast)
    obtain ⟨_, rfl⟩ := RunWhere.unique (fun _ _ _ _ _ _ hone htwo => hone.deterministic htwo)
      hbefore hrun rfl
    exact Or.inr ⟨rfl, rfl, hreceive⟩
  · refine Or.inl ⟨before, output, initial, ?_, hbefore, hreceive⟩
    have hshape : history ++ [(lastInput, events)] =
        (before ++ (input, output) :: initial) ++ [final] := by
      rw [hsplit, List.concat_eq_append]
      simp
    exact (List.append_inj' hshape rfl).1

theorem Expected.snoc_cases {start last : State} {history : History Input (List Event)}
    {lastInput : Input} {events : List Event} {element : ReorderBufferElement}
    (hrun : Run timeout start history last)
    (hexpected : Expected timeout start (history ++ [(lastInput, events)]) element) :
    Expected timeout start history element ∨
      ((receive timeout last lastInput).2 = .enqueued element ∧
        last.sequenceFlushed < element.sequence) := by
  obtain ⟨input, state, harrived, hahead⟩ := hexpected
  rcases harrived.snoc_cases hrun with hearlier | ⟨rfl, rfl, hreceive⟩
  · exact Or.inl ⟨input, state, hearlier, hahead⟩
  · exact Or.inr ⟨hreceive, hahead⟩

theorem Windowed.append_of_quiet {lateOk : ReorderBufferElement → Prop} {events more : List Event}
    {packets : List ReorderBufferElement} (hquiet : written more = [])
    (hwindowed : Windowed lateOk floor events counter packets) :
    Windowed lateOk floor (events ++ more) counter packets := by
  obtain ⟨habove, hbelow, hdistinct, hflushed, hlive, hfloor, hincreasing, hle⟩ := hwindowed
  have hwritten : written (events ++ more) = written events := by
    rw [written_append, hquiet, List.append_nil]
  exact ⟨habove, hbelow, hdistinct, hflushed, hlive, hfloor, by rwa [hwritten], by rwa [hwritten]⟩

theorem Windowed.mono {lateOk weaker : ReorderBufferElement → Prop} {events : List Event}
    {packets : List ReorderBufferElement} (hweaker : ∀ element, lateOk element → weaker element)
    (hwindowed : Windowed lateOk floor events counter packets) :
    Windowed weaker floor events counter packets :=
  { hwindowed with
    live := fun element hmem hlive => (hwindowed.live element hmem hlive).imp_right (hweaker _) }

theorem Tracked.append_of_quiet {events more : List Event} {packets : List ReorderBufferElement}
    {element : ReorderBufferElement} (hquiet : written more = [])
    (htracked : Tracked events counter packets element) :
    Tracked (events ++ more) counter packets element := by
  have hwith : writtenWith element.sequence (events ++ more) =
      writtenWith element.sequence events := by
    rw [writtenWith_append, writtenWith, writtenWith, hquiet, List.filter_nil, List.append_nil]
  rw [Tracked, hwith]
  exact htracked

structure Delivering (timeout : Timeval) (start : State) (history : History Input (List Event))
    (state : State) : Prop where
  run : Run timeout start history state
  windowed : Windowed (fun _ => False) start.sequenceFlushed (outputs history)
    state.sequenceFlushed state.packets
  missing : ∀ element ∈ state.packets, element.sequence ≠ state.sequenceFlushed + 1
  received : ∀ element ∈ state.packets,
    NumberArrived timeout start history element.sequence
  tracked : ∀ element, Expected timeout start history element →
    Tracked (outputs history) state.sequenceFlushed state.packets element
  carried : ∀ input earlier element, Arrived timeout start history input earlier element →
    element.payload = input.payload ∧ element.sequence.toNat = input.number

structure UnderWay (timeout : Timeval) (start : State) (history : History Input (List Event))
    (input : Input) (flushing : Flushing) : Prop where
  windowed : Windowed (fun element => ¬ Overdue timeout input.now element) start.sequenceFlushed
    (outputs history ++ flushing.events) flushing.sequenceFlushed flushing.packets
  received : ∀ element ∈ flushing.packets, ∀ events,
    NumberArrived timeout start (history ++ [(input, events)]) element.sequence
  tracked : ∀ element events, Expected timeout start (history ++ [(input, events)]) element →
    Tracked (outputs history ++ flushing.events) flushing.sequenceFlushed flushing.packets element

section Runs

variable {start state : State} {history : History Input (List Event)} {input : Input}

theorem UnderWay.advances {flushing result : Flushing}
    (hunderWay : UnderWay timeout start history input flushing)
    (hadvances : Advances timeout input.now flushing result) :
    UnderWay timeout start history input result := by
  refine hadvances.invariant _ (fun flushing next hinv hadvance => ?_) hunderWay
  obtain ⟨hwindowed, hreceived, htracked⟩ := hinv
  refine ⟨hwindowed.advance hadvance, ?_, fun element events hexpected =>
    (htracked element events hexpected).advance hwindowed hadvance⟩
  cases hadvance with
  | flush before element after counter events hnext =>
      intro other hother
      rcases mem_of_mem_flush hother with rfl | ⟨hmem, _⟩
      · exact hreceived element (by simp)
      · exact hreceived other hmem
  | skip packets held counter events hmissing hheld hoverdue => exact hreceived

theorem Windowed.enqueued {packets : List ReorderBufferElement} {element : ReorderBufferElement}
    {events : List Event} (hwindowed : Windowed (fun _ => False) floor events counter packets)
    (habove : floor < element.sequence) (hbelow : element.sequence < BitVec.allOnes 32)
    (hnew : ∀ other ∈ packets, other.sequence ≠ element.sequence) (hlive : element.Live)
    (hfresh : ¬ Overdue timeout now element) :
    Windowed (fun element => ¬ Overdue timeout now element) floor events counter
      (packets ++ [element]) := by
  have hcases : ∀ {motive : ReorderBufferElement → Prop}, (∀ other ∈ packets, motive other) →
      motive element → ∀ other ∈ packets ++ [element], motive other := by
    intro motive hpackets helement other hother
    rcases List.mem_append.mp hother with hmem | hmem
    · exact hpackets other hmem
    · exact List.mem_singleton.mp hmem ▸ helement
  refine ⟨hcases hwindowed.above habove, hcases hwindowed.below hbelow, ?_,
    hcases hwindowed.flushed (absurd hlive), hcases ?_ fun _ => Or.inr hfresh, hwindowed.floor_le,
    hwindowed.increasing, hwindowed.written_le⟩
  · rw [sequences, List.map_append, List.map_singleton, List.nodup_append]
    refine ⟨hwindowed.distinct, List.nodup_singleton _, fun number hnumber last hlast => ?_⟩
    obtain ⟨other, hother, rfl⟩ := List.mem_map.mp hnumber
    exact List.mem_singleton.mp hlast ▸ hnew other hother
  · exact fun other hother hliveOther =>
      Or.inl ((hwindowed.live other hother hliveOther).resolve_right id)

theorem Delivering.starts {flushing : Flushing} {allocated : Nat}
    (hdelivering : Delivering timeout start history state)
    (hwindow : InWindow timeout start history state input)
    (hstarts : Starts timeout state input flushing allocated) :
    UnderWay timeout start history input flushing := by
  obtain ⟨hrun, hwindowed, hmissing, hreceived, htracked, _⟩ := hdelivering
  have hkeep : ∀ element ∈ state.packets, ∀ events,
      NumberArrived timeout start (history ++ [(input, events)]) element.sequence := by
    intro element hmem events
    obtain ⟨earlierInput, earlier, original, harrived, hnumber⟩ := hreceived element hmem
    exact ⟨earlierInput, earlier, original, harrived.append, hnumber⟩
  have hweaken := hwindowed.mono fun element (hfalse : False) =>
    (hfalse.elim : ¬ Overdue timeout input.now element)
  cases hstarts with
  | forwarded event hreceive =>
      have hquiet := written_forwarded hreceive
      refine ⟨hweaken.append_of_quiet hquiet, hkeep, fun element events hexpected => ?_⟩
      rcases hexpected.snoc_cases hrun with hearlier | ⟨henqueued, _⟩
      · exact (htracked element hearlier).append_of_quiet hquiet
      · rw [hreceive] at henqueued
        simp at henqueued
  | idle hreceive =>
      refine ⟨hweaken.append_of_quiet rfl, hkeep, fun element events hexpected => ?_⟩
      rcases hexpected.snoc_cases hrun with hearlier | ⟨henqueued, _⟩
      · exact (htracked element hearlier).append_of_quiet rfl
      · rw [hreceive] at henqueued
        simp at henqueued
  | enqueued element hreceive hsize =>
      obtain ⟨hpayload, habove, hbelow, hnew, hage⟩ := hwindow element hreceive
      obtain ⟨_, hlive⟩ := receive_enqueued_payload hreceive hpayload
      have hfresh : ¬ Overdue timeout input.now element := by
        rintro ⟨_, hoverdue⟩
        rw [hage] at hoverdue
        exact Bool.false_ne_true hoverdue
      have hdistinct : ∀ other ∈ state.packets, other.sequence ≠ element.sequence :=
        fun other hother heq => hnew (heq ▸ hreceived other hother)
      refine ⟨?_, ?_, fun other events hexpected => ?_⟩
      · exact (hwindowed.enqueued habove hbelow hdistinct hlive hfresh).append_of_quiet rfl
      · intro other hother events
        rcases List.mem_append.mp hother with hmem | hmem
        · exact hkeep other hmem events
        · obtain rfl := List.mem_singleton.mp hmem
          exact ⟨input, state, other, ⟨history, events, [], rfl, hrun, hreceive⟩, rfl⟩
      · refine Tracked.append_of_quiet rfl ?_
        rcases hexpected.snoc_cases hrun with hearlier | ⟨henqueued, hahead⟩
        · exact (htracked other hearlier).imp_left fun hheld =>
            ⟨List.mem_append_left _ hheld.1, hheld.2⟩
        · obtain rfl := Received.enqueued.inj (henqueued.symm.trans hreceive)
          refine Or.inl ⟨by simp, hlive, hahead, ?_⟩
          refine List.filter_eq_nil_iff.mpr fun earlier hearlier heq => ?_
          have hle := hwindowed.written_le earlier hearlier
          rw [of_decide_eq_true heq] at hle
          exact BitVec.not_le.mpr hahead hle

/-- What one iteration preserves. -/
theorem Delivering.step {next : State} {events : List Event}
    (hdelivering : Delivering timeout start history state)
    (hwindow : InWindow timeout start history state input)
    (hstep : Step timeout state input events next) :
    Delivering timeout start (history ++ [(input, events)]) next := by
  have hrun : Run timeout start (history ++ [(input, events)]) next :=
    .snoc hdelivering.run trivial hstep
  have hcarried : ∀ arrivedInput earlier element,
      Arrived timeout start (history ++ [(input, events)]) arrivedInput earlier element →
      element.payload = arrivedInput.payload ∧
        element.sequence.toNat = arrivedInput.number := by
    intro arrivedInput earlier element harrived
    rcases harrived.snoc_cases hdelivering.run with hearlier | ⟨rfl, rfl, hreceive⟩
    · exact hdelivering.carried arrivedInput earlier element hearlier
    · have hpayload := (hwindow element hreceive).1
      exact ⟨(receive_enqueued_payload hreceive hpayload).1,
        receive_enqueued_number hreceive hpayload⟩
  rcases hstep.cases with ⟨hskipped, rfl, rfl⟩ |
    ⟨flushing, allocated, result, hstarts, hreturns, hfinish⟩
  · refine ⟨hrun, ?_, hdelivering.missing, ?_, fun element hexpected => ?_, hcarried⟩
    · simpa using hdelivering.windowed
    · intro element hmem
      obtain ⟨earlierInput, earlier, original, harrived, hnumber⟩ :=
        hdelivering.received element hmem
      exact ⟨earlierInput, earlier, original, harrived.append, hnumber⟩
    · rcases hexpected.snoc_cases hdelivering.run with hearlier | ⟨henqueued, _⟩
      · simpa using hdelivering.tracked element hearlier
      · rw [hskipped] at henqueued
        simp at henqueued
  · obtain ⟨hadvances, hquiescent⟩ := returns_flushRound hreturns
    obtain ⟨hwindowed, hreceived, htracked⟩ :=
      (hdelivering.starts hwindow hstarts).advances hadvances
    obtain ⟨rfl, rfl⟩ := Prod.mk.inj hfinish
    refine ⟨hrun, ?_, ?_, ?_, fun element hexpected => ?_, hcarried⟩
    · rw [outputs_append, outputs_singleton]
      exact hwindowed.finish _ _
    · intro element hmem
      obtain ⟨old, hold, ⟨rfl, _⟩ | ⟨rfl, _⟩⟩ := mem_compact_discardLate hmem
      · exact hquiescent.missing element hold
      · exact hquiescent.missing old hold
    · intro element hmem
      obtain ⟨old, hold, ⟨rfl, _⟩ | ⟨rfl, _⟩⟩ := mem_compact_discardLate hmem
      · exact hreceived element hold _
      · exact hreceived old hold _
    · rw [outputs_append, outputs_singleton]
      exact (htracked element _ hexpected).finish _ _

/-- What holds along every run inside the window. -/
theorem delivering_of_run (hempty : start.packets = [])
    (hrun : RunWhere (Step timeout) (InWindow timeout start) start history state) :
    Delivering timeout start history state := by
  refine hrun.invariant (Delivering timeout start) ?_
    fun _ _ _ _ _ hdelivering hwindow hstep => hdelivering.step hwindow hstep
  have hnone : ∀ {input earlier element}, ¬ Arrived timeout start [] input earlier element := by
    rintro input earlier element ⟨before, events, after, hsplit, _⟩
    simp at hsplit
  refine ⟨.nil, ⟨?_, ?_, ?_, ?_, ?_, BitVec.le_refl _, List.Pairwise.nil, by simp [written]⟩, ?_, ?_,
    ?_, fun _ _ _ harrived => absurd harrived hnone⟩
  · simp [hempty]
  · simp [hempty]
  · simp [hempty]
  · simp [hempty]
  · simp [hempty]
  · simp [hempty]
  · simp [hempty]
  · rintro element ⟨input, earlier, harrived, _⟩
    exact absurd harrived hnone

/-! ### Every iteration ends -/

/-- The numbers are all different, so the buffer has room. -/
theorem Windowed.length_lt {lateOk : ReorderBufferElement → Prop} {events : List Event}
    {packets : List ReorderBufferElement}
    (hwindowed : Windowed lateOk floor events counter packets) : packets.length < 2 ^ 32 := by
  have hnodup : ((sequences packets).map BitVec.toNat).Nodup :=
    hwindowed.distinct.map fun first second heq => BitVec.eq_of_toNat_eq heq
  have hsub : ((sequences packets).map BitVec.toNat).toFinset ⊆ Finset.range (2 ^ 32 - 1) := by
    intro value hvalue
    rw [List.mem_toFinset, List.map_map] at hvalue
    obtain ⟨element, hmem, rfl⟩ := List.mem_map.mp hvalue
    exact Finset.mem_range.mpr (hwindowed.below element hmem)
  have hcard := Finset.card_le_card hsub
  rw [List.toFinset_card_of_nodup hnodup, Finset.card_range, List.length_map, List.length_map] at hcard
  omega

theorem Delivering.exists_step (hdelivering : Delivering timeout start history state)
    (hwindow : InWindow timeout start history state input) :
    ∃ events next, Step timeout state input events next := by
  refine Gre2tun.exists_step (fun element hreceive => ?_) fun flushing allocated hstarts => ?_
  · obtain ⟨hpayload, habove, hbelow, hnew, hage⟩ := hwindow element hreceive
    obtain ⟨_, hlive⟩ := receive_enqueued_payload hreceive hpayload
    have hfresh : ¬ Overdue timeout input.now element := by
      rintro ⟨_, hoverdue⟩
      rw [hage] at hoverdue
      exact Bool.false_ne_true hoverdue
    have hdistinct : ∀ other ∈ state.packets, other.sequence ≠ element.sequence :=
      fun other hother heq => hnew (heq ▸ hdelivering.received other hother)
    have hlength := (hdelivering.windowed.enqueued habove hbelow hdistinct hlive hfresh).length_lt
    simpa using hlength
  · obtain ⟨hwindowed, _, _⟩ := hdelivering.starts hwindow hstarts
    exact halts_of_nodup hwindowed.length_lt hwindowed.distinct

/-! ### Without loss -/

def NeverOverdue (timeout : Timeval) (start : State) (history : History Input (List Event)) :
    Prop :=
  ∀ before input events after state, history = before ++ (input, events) :: after →
    Run timeout start before state → ∀ element ∈ state.packets, ¬ Overdue timeout input.now element

/-- What was written so far is the beginning of the stream, and the counter stands at its end. -/
structure Unbroken (floor : BitVec 32) (events : List Event) (counter : BitVec 32) : Prop where
  counter_eq : counter.toNat = floor.toNat + (written events).length
  numbers : (written events).map ReorderBufferElement.sequence =
    (List.range (written events).length).map fun i => floor + BitVec.ofNat 32 (i + 1)

theorem Unbroken.of_written_eq {events more : List Event} (hunbroken : Unbroken floor events counter)
    (hwritten : written more = written events) : Unbroken floor more counter := by
  obtain ⟨hcounter, hnumbers⟩ := hunbroken
  exact ⟨by rwa [hwritten], by rwa [hwritten]⟩

theorem Unbroken.mem {events : List Event} {number : BitVec 32}
    (hunbroken : Unbroken floor events counter) (habove : floor < number) (hle : number ≤ counter) :
    ∃ element ∈ written events, element.sequence = number := by
  have hcounter := hunbroken.counter_eq
  have hmem : number ∈ (written events).map ReorderBufferElement.sequence := by
    rw [hunbroken.numbers]
    refine List.mem_map.mpr ⟨number.toNat - floor.toNat - 1, List.mem_range.mpr ?_, ?_⟩
    · rw [BitVec.lt_def] at habove
      rw [BitVec.le_def] at hle
      omega
    · apply BitVec.eq_of_toNat_eq
      rw [BitVec.lt_def] at habove
      rw [BitVec.toNat_add, BitVec.toNat_ofNat]
      omega
  exact List.mem_map.mp hmem

theorem Unbroken.flush {events : List Event} {element : ReorderBufferElement}
    (hunbroken : Unbroken floor events counter) (hnext : element.sequence = counter + 1)
    (hlt : counter < counter + 1) :
    Unbroken floor (events ++ [.written element, .freed element.packet.handle]) (counter + 1) := by
  obtain ⟨hcounter, hnumbers⟩ := hunbroken
  have hwritten : written (events ++ [.written element, .freed element.packet.handle]) =
      written events ++ [element] := written_append _ _
  have hsucc : (counter + 1).toNat = counter.toNat + 1 := by bv_omega
  refine ⟨?_, ?_⟩
  · rw [hwritten, List.length_append, List.length_singleton]
    omega
  · rw [hwritten, List.length_append, List.length_singleton, List.range_succ, List.map_append,
      List.map_append, hnumbers, List.map_singleton, List.map_singleton, hnext]
    congr 2
    apply BitVec.eq_of_toNat_eq
    rw [hsucc, BitVec.toNat_add, BitVec.toNat_ofNat]
    omega

/-- While nothing is overdue, the flush loops only ever write the next packet. -/
theorem UnderWay.unbroken {flushing result : Flushing}
    (hunderWay : UnderWay timeout start history input flushing)
    (hfresh : ∀ element ∈ flushing.packets, ¬ Overdue timeout input.now element)
    (hunbroken : Unbroken start.sequenceFlushed (outputs history ++ flushing.events)
      flushing.sequenceFlushed)
    (hwritten : ∀ element ∈ written (outputs history ++ flushing.events), ∀ events,
      NumberArrived timeout start (history ++ [(input, events)]) element.sequence)
    (hadvances : Advances timeout input.now flushing result) :
    Unbroken start.sequenceFlushed (outputs history ++ result.events) result.sequenceFlushed ∧
      ∀ element ∈ written (outputs history ++ result.events), ∀ events,
        NumberArrived timeout start (history ++ [(input, events)]) element.sequence := by
  refine (hadvances.invariant (fun flushing => UnderWay timeout start history input flushing ∧
    (∀ element ∈ flushing.packets, ¬ Overdue timeout input.now element) ∧
    Unbroken start.sequenceFlushed (outputs history ++ flushing.events) flushing.sequenceFlushed ∧
    ∀ element ∈ written (outputs history ++ flushing.events), ∀ events,
      NumberArrived timeout start (history ++ [(input, events)]) element.sequence) ?_
    ⟨hunderWay, hfresh, hunbroken, hwritten⟩).2.2
  rintro flushing next ⟨hunderWay, hfresh, hunbroken, hwritten⟩ hadvance
  refine ⟨hunderWay.advances (.single hadvance), ?_⟩
  cases hadvance with
  | flush before element after counter events hnext =>
      obtain ⟨hlt, _⟩ := hunderWay.windowed.next_live (by simp) hnext
      refine ⟨?_, ?_, ?_⟩
      · intro other hother
        rcases mem_of_mem_flush hother with rfl | ⟨hmem, _⟩
        · exact fun hoverdue => not_live_flushed element hoverdue.1
        · exact hfresh other hmem
      · rw [← List.append_assoc]
        exact hunbroken.flush hnext hlt
      · intro other hother
        rw [← List.append_assoc, written_append] at hother
        rcases List.mem_append.mp hother with hmem | hmem
        · exact hwritten other hmem
        · obtain rfl := List.mem_singleton.mp hmem
          exact hunderWay.received other (by simp)
  | skip packets held counter events hmissing hheld hoverdue =>
      exact absurd hoverdue (hfresh held hheld)

structure Lossless (timeout : Timeval) (start : State) (history : History Input (List Event))
    (state : State) : Prop where
  unbroken : Unbroken start.sequenceFlushed (outputs history) state.sequenceFlushed
  written_arrived : ∀ element ∈ written (outputs history),
    NumberArrived timeout start history element.sequence
  ahead : ∀ input earlier element, Arrived timeout start history input earlier element →
    earlier.sequenceFlushed < element.sequence

theorem NumberArrived.append {more : History Input (List Event)} {number : BitVec 32}
    (harrived : NumberArrived timeout start history number) :
    NumberArrived timeout start (history ++ more) number := by
  obtain ⟨input, earlier, element, harrived, hnumber⟩ := harrived
  exact ⟨input, earlier, element, harrived.append, hnumber⟩

/-- What an iteration preserves in which nothing is overdue. -/
theorem Lossless.step {next : State} {events : List Event}
    (hlossless : Lossless timeout start history state)
    (hdelivering : Delivering timeout start history state)
    (hwindow : InWindow timeout start history state input)
    (hfresh : ∀ element ∈ state.packets, ¬ Overdue timeout input.now element)
    (hstep : Step timeout state input events next) :
    Lossless timeout start (history ++ [(input, events)]) next := by
  obtain ⟨hunbroken, hwritten, hahead⟩ := hlossless
  -- a number the counter has passed was written, so it cannot arrive again
  have haheadNext : ∀ arrivedInput earlier element,
      Arrived timeout start (history ++ [(input, events)]) arrivedInput earlier element →
      earlier.sequenceFlushed < element.sequence := by
    intro arrivedInput earlier element harrived
    rcases harrived.snoc_cases hdelivering.run with hearlier | ⟨rfl, rfl, hreceive⟩
    · exact hahead arrivedInput earlier element hearlier
    · obtain ⟨_, habove, _, hnew, _⟩ := hwindow element hreceive
      by_contra hbehind
      obtain ⟨other, hother, hsame⟩ := hunbroken.mem habove (BitVec.not_lt.mp hbehind)
      exact hnew (hsame ▸ hwritten other hother)
  rcases hstep.cases with ⟨_, rfl, rfl⟩ | ⟨flushing, allocated, result, hstarts, hreturns, hfinish⟩
  · refine ⟨by simpa using hunbroken, fun element hmem => ?_, haheadNext⟩
    rw [outputs_append, outputs_singleton, List.append_nil] at hmem
    exact (hwritten element hmem).append
  · have hunderWay := hdelivering.starts hwindow hstarts
    have hstart : (∀ element ∈ flushing.packets, ¬ Overdue timeout input.now element) ∧
        written (outputs history ++ flushing.events) = written (outputs history) ∧
        flushing.sequenceFlushed = state.sequenceFlushed := by
      rw [written_append]
      cases hstarts with
      | forwarded event hreceive =>
          exact ⟨hfresh, by rw [written_forwarded hreceive, List.append_nil], rfl⟩
      | idle hreceive => exact ⟨hfresh, List.append_nil _, rfl⟩
      | enqueued element hreceive hsize =>
          refine ⟨fun other hother => ?_, List.append_nil _, rfl⟩
          rcases List.mem_append.mp hother with hmem | hmem
          · exact hfresh other hmem
          · obtain rfl := List.mem_singleton.mp hmem
            rintro ⟨_, hoverdue⟩
            rw [(hwindow other hreceive).2.2.2.2] at hoverdue
            exact Bool.false_ne_true hoverdue
    obtain ⟨hstartFresh, hstartWritten, hstartCounter⟩ := hstart
    obtain ⟨hresult, hresultWritten⟩ := hunderWay.unbroken hstartFresh
      (hstartCounter ▸ hunbroken.of_written_eq hstartWritten)
      (fun element hmem events => (hwritten element (hstartWritten ▸ hmem)).append)
      (returns_flushRound hreturns).1
    obtain ⟨rfl, rfl⟩ := Prod.mk.inj hfinish
    have hevents : written (outputs (history ++ [(input, result.events ++
        discardEvents result.sequenceFlushed result.packets)])) =
        written (outputs history ++ result.events) := by
      rw [outputs_append, outputs_singleton, ← List.append_assoc, written_append _ (discardEvents _ _),
        written_discardEvents, List.append_nil]
    refine ⟨hresult.of_written_eq hevents, fun element hmem => ?_, haheadNext⟩
    exact hresultWritten element (hevents ▸ hmem) _

/-- As long as nothing is overdue, what was written is the beginning of the stream. -/
theorem lossless_of_run (hempty : start.packets = [])
    (hrun : RunWhere (Step timeout) (InWindow timeout start) start history state)
    (hnever : NeverOverdue timeout start history) : Lossless timeout start history state := by
  induction hrun with
  | nil =>
      refine ⟨⟨rfl, rfl⟩, by simp [written], ?_⟩
      rintro input earlier element ⟨before, events, after, hsplit, _⟩
      simp at hsplit
  | @snoc history state next input events hrun hwindow hstep ih =>
      have hbefore : NeverOverdue timeout start history := by
        rintro before earlierInput output after earlier rfl hearlier
        exact hnever before earlierInput output (after ++ [(input, events)]) earlier (by simp) hearlier
      exact (ih hbefore).step (delivering_of_run hempty hrun) hwindow
        (hnever history input events [] state rfl hrun.run) hstep

/-- When exactly the next `count` numbers have arrived and nothing was ever overdue, they have all
been written, in order. -/
theorem Lossless.complete {count : Nat} (hlossless : Lossless timeout start history state)
    (hdelivering : Delivering timeout start history state)
    (hcount : start.sequenceFlushed.toNat + count < 2 ^ 32 - 1)
    (hcomplete : ∀ number, NumberArrived timeout start history number ↔
      start.sequenceFlushed < number ∧ number.toNat ≤ start.sequenceFlushed.toNat + count) :
    state.sequenceFlushed.toNat = start.sequenceFlushed.toNat + count := by
  obtain ⟨⟨hcounter, hnumbers⟩, hwritten, hahead⟩ := hlossless
  apply Nat.le_antisymm
  · by_contra hover
    have habove : start.sequenceFlushed < state.sequenceFlushed := by
      rw [BitVec.lt_def]
      omega
    obtain ⟨element, hmem, hsequence⟩ :=
      Unbroken.mem ⟨hcounter, hnumbers⟩ habove (BitVec.le_refl _)
    have hlast := (hcomplete _).mp (hsequence ▸ hwritten element hmem)
    omega
  · by_contra hunder
    have hsucc : (state.sequenceFlushed + 1).toNat = state.sequenceFlushed.toNat + 1 := by
      rw [BitVec.toNat_add]
      simp only [BitVec.ofNat_eq_ofNat, BitVec.toNat_ofNat]
      omega
    obtain ⟨input, earlier, element, harrived, hnumber⟩ :=
      (hcomplete (state.sequenceFlushed + 1)).mpr ⟨by rw [BitVec.lt_def]; omega, by omega⟩
    rcases hdelivering.tracked element ⟨input, earlier, harrived, hahead _ _ _ harrived⟩ with
      ⟨hheld, _⟩ | ⟨hbehind, _⟩
    · exact hdelivering.missing element hheld hnumber
    · rw [hnumber, BitVec.le_def] at hbehind
      omega

end Runs

end OpenHybrid.Gre2tun

import OpenHybrid.Proof.Delivery

/-!
# The deadline

A packet that waits is written when it becomes overdue, provided that the iteration gets as far as
the timeout check. One that is left by `continue` does not: then whatever is overdue goes on waiting.
-/

namespace OpenHybrid.Gre2tun

open Transition

variable {timeout : Timeval} {start state : State} {history : History Input (List Event)}
  {input : Input}

/-! ### Where the packets come from -/

theorem Expected.append {more : History Input (List Event)} {element : ReorderBufferElement}
    (hexpected : Expected timeout start history element) :
    Expected timeout start (history ++ more) element := by
  obtain ⟨earlierInput, earlier, harrived, hahead⟩ := hexpected
  exact ⟨earlierInput, earlier, harrived.append, hahead⟩

/-- Inside the window the counter does not go back, and nothing comes to life. -/
theorem UnderWay.kept {flushing result : Flushing}
    (hunderWay : UnderWay timeout start history input flushing)
    (hadvances : Advances timeout input.now flushing result) :
    flushing.sequenceFlushed ≤ result.sequenceFlushed ∧
      ∀ element ∈ result.packets, element.Live → element ∈ flushing.packets := by
  refine (hadvances.invariant (fun reached => UnderWay timeout start history input reached ∧
    flushing.sequenceFlushed ≤ reached.sequenceFlushed ∧
    ∀ element ∈ reached.packets, element.Live → element ∈ flushing.packets) ?_
    ⟨hunderWay, BitVec.le_refl _, fun _ hmem _ => hmem⟩).2
  rintro reached next ⟨hreached, hle, hlive⟩ hadvance
  refine ⟨hreached.advances (.single hadvance), ?_⟩
  cases hadvance with
  | flush before taken after counter events hnext =>
      obtain ⟨hlt, -⟩ := hreached.windowed.next_live (by simp) hnext
      refine ⟨BitVec.le_trans hle (BitVec.le_of_lt hlt), fun element hmem hheld => ?_⟩
      rcases mem_of_mem_flush hmem with rfl | ⟨hold, -⟩
      · exact absurd hheld (not_live_flushed taken)
      · exact hlive element hold hheld
  | skip packets held counter events hmissing hheld hoverdue =>
      have hlt := lt_succ_of_lt (hreached.windowed.overdue_ahead hheld hoverdue)
      exact ⟨BitVec.le_trans hle (BitVec.le_of_lt hlt), hlive⟩

/-- What is held was ahead of the counter when it arrived. -/
theorem expected_of_run (hempty : start.packets = [])
    (hrun : RunWhere (Step timeout) (InWindow timeout start) start history state) :
    ∀ element ∈ state.packets, element.Live → Expected timeout start history element := by
  induction hrun with
  | nil =>
      intro element hmem
      rw [hempty] at hmem
      exact absurd hmem List.not_mem_nil
  | @snoc history state next input events hrun hwindow hstep ih =>
      have hdelivering := delivering_of_run hempty hrun
      rcases hstep.cases with ⟨-, rfl, -⟩ | ⟨flushing, allocated, result, hstarts, hreturns, hfinish⟩
      · exact fun element hmem hlive => (ih element hmem hlive).append
      · obtain ⟨hle, hkept⟩ :=
          (hdelivering.starts hwindow hstarts).kept (returns_flushRound hreturns).1
        obtain ⟨rfl, -⟩ := Prod.mk.inj hfinish
        intro element hmem hlive
        obtain ⟨old, hold, ⟨rfl, hnot⟩ | ⟨rfl, -⟩⟩ := mem_compact_discardLate hmem
        · have hahead : result.sequenceFlushed < element.sequence :=
            BitVec.not_le.mp fun hbehind => hnot ⟨hlive, hbehind⟩
          have horigin := hkept element hold hlive
          cases hstarts with
          | forwarded event hreceive => exact (ih element horigin hlive).append
          | idle hreceive => exact (ih element horigin hlive).append
          | enqueued arrived hreceive hsize =>
              rcases List.mem_append.mp horigin with hearlier | hlast
              · exact (ih element hearlier hlive).append
              · obtain rfl := List.mem_singleton.mp hlast
                exact ⟨input, state, ⟨history, _, [], rfl, hrun.run, hreceive⟩,
                  by bv_omega⟩
        · exact absurd hlive (not_live_flushed old)

/-! ### The deadline -/

/-- What was ahead of the counter when it arrived has been written, once, by the end of the first
iteration in which its age reaches the timeout. -/
def Punctual (timeout : Timeval) (start : State) (history : History Input (List Event)) : Prop :=
  ∀ before last events after, history = before ++ (last, events) :: after →
    ∀ element, Expected timeout start (before ++ [(last, events)]) element →
      timercmpGe (element.age last.now) timeout = true →
        writtenWith element.sequence (outputs (before ++ [(last, events)])) = [element]

/-- Nothing is overdue in an iteration that is left by `continue`. -/
def Unhurried (timeout : Timeval) (start : State) (history : History Input (List Event)) : Prop :=
  ∀ before last events after previous, history = before ++ (last, events) :: after →
    Run timeout start before previous → LeftByContinue previous last →
      ∀ element ∈ previous.packets, ¬ Overdue timeout last.now element

/-- An iteration that is left by `continue` changes nothing but the receive buffer. -/
theorem Step.of_skipped {next : State} {events : List Event}
    (hstep : Step timeout state input events next)
    (hskipped : (receive timeout state input).2 = .skipped) :
    next.packets = state.packets ∧ events = [] := by
  rcases hstep.cases with ⟨-, rfl, hnone⟩ | ⟨flushing, allocated, result, hstarts, -⟩
  · exact ⟨rfl, hnone⟩
  · cases hstarts with
    | forwarded event hreceive => exact absurd (hskipped.symm.trans hreceive) nofun
    | idle hreceive => exact absurd (hskipped.symm.trans hreceive) nofun
    | enqueued arrived hreceive => exact absurd (hskipped.symm.trans hreceive) nofun

/-- **The deadline.** It is met exactly in the runs in which nothing is overdue behind a `continue`.
-/
theorem punctual_iff (hempty : start.packets = [])
    (hrun : RunWhere (Step timeout) (InWindow timeout start) start history state) :
    Punctual timeout start history ↔ Unhurried timeout start history := by
  -- the run up to an iteration, and the iteration
  have hsplit : ∀ before last events after, history = before ++ (last, events) :: after →
      ∃ next previous, RunWhere (Step timeout) (InWindow timeout start) start
          (before ++ [(last, events)]) next ∧
        RunWhere (Step timeout) (InWindow timeout start) start before previous ∧
        Step timeout previous last events next := by
    rintro before last events after rfl
    rw [List.append_cons] at hrun
    obtain ⟨next, hnext⟩ := hrun.of_append
    obtain ⟨previous, hbefore, -, hstep⟩ := hnext.of_snoc
    exact ⟨next, previous, hnext, hbefore, hstep⟩
  constructor
  · rintro hpunctual before last events after previous hhistory hprevious hcontinue element hmem
      hoverdue
    obtain ⟨next, reached, -, hreached, hstep⟩ := hsplit before last events after hhistory
    obtain ⟨-, rfl⟩ := RunWhere.unique (fun _ _ _ _ _ _ hone htwo => hone.deterministic htwo)
      hprevious hreached.run rfl
    have hexpected := expected_of_run hempty hreached element hmem hoverdue.1
    have hwritten := hpunctual before last events after hhistory element hexpected.append hoverdue.2
    have hdelivering := delivering_of_run hempty hreached
    have hahead := (hdelivering.windowed.live element hmem hoverdue.1).resolve_right id
    obtain ⟨-, rfl⟩ := hstep.of_skipped (receive_skipped_iff.mpr hcontinue)
    rw [outputs_append, outputs_singleton, List.append_nil] at hwritten
    rcases hdelivering.tracked element hexpected with ⟨-, -, -, hnone⟩ | ⟨hbehind, -⟩
    · rw [hnone] at hwritten
      exact absurd hwritten (List.cons_ne_nil _ _).symm
    · exact BitVec.not_le.mpr hahead hbehind
  · intro hunhurried before last events after hhistory element hexpected hage
    obtain ⟨next, previous, hnext, hprevious, hstep⟩ := hsplit before last events after hhistory
    rcases (delivering_of_run hempty hnext).tracked element hexpected with
      ⟨hmem, hlive, -⟩ | ⟨-, honce⟩
    · by_cases hskipped : (receive timeout previous last).2 = .skipped
      · rw [(hstep.of_skipped hskipped).1] at hmem
        exact absurd ⟨hlive, hage⟩ (hunhurried before last events after previous hhistory
          hprevious.run (receive_skipped_iff.mp hskipped) element hmem)
      · exact absurd ⟨hlive, hage⟩ (hstep.not_overdue hskipped element hmem)
    · exact honce

/-- **Ordered delivery.** Inside the window every iteration ends; what is written is written in
increasing order; a packet is buffered under its own number, and if that was ahead of the counter it
is held or has been written exactly once; without loss the output is the stream itself. The deadline
is met exactly as long as nothing is overdue in an iteration that is left by `continue`. -/
theorem ordered_delivery (hempty : start.packets = [])
    (hrun : RunWhere (Step timeout) (InWindow timeout start) start history state) :
    (∀ input, InWindow timeout start history state input →
      ∃ events next, Step timeout state input events next) ∧
    ((written (outputs history)).map ReorderBufferElement.sequence).Pairwise (· < ·) ∧
    (∀ input earlier element, Arrived timeout start history input earlier element →
      element.payload = input.payload ∧ element.sequence.toNat = input.number ∧
        (earlier.sequenceFlushed < element.sequence →
          writtenWith element.sequence (outputs history) = [element] ∨
            (writtenWith element.sequence (outputs history) = [] ∧ element ∈ state.packets ∧
              element.Live))) ∧
    (Punctual timeout start history ↔ Unhurried timeout start history) ∧
    (∀ count, start.sequenceFlushed.toNat + count < 2 ^ 32 - 1 →
      (∀ number, NumberArrived timeout start history number ↔
        start.sequenceFlushed < number ∧ number.toNat ≤ start.sequenceFlushed.toNat + count) →
      NeverOverdue timeout start history →
      (written (outputs history)).map ReorderBufferElement.sequence =
        (List.range count).map (fun i => start.sequenceFlushed + BitVec.ofNat 32 (i + 1)) ∧
      ∀ input earlier element, Arrived timeout start history input earlier element →
        element ∈ written (outputs history)) := by
  have hdelivering := delivering_of_run hempty hrun
  refine ⟨fun input hwindow => hdelivering.exists_step hwindow, hdelivering.windowed.increasing,
    fun input earlier element harrived => ?_, punctual_iff hempty hrun,
    fun count hcount hcomplete hnever => ?_⟩
  · obtain ⟨hpayload, hnumber⟩ := hdelivering.carried input earlier element harrived
    refine ⟨hpayload, hnumber, fun hahead => ?_⟩
    rcases hdelivering.tracked element ⟨input, earlier, harrived, hahead⟩ with
      ⟨hmem, hlive, -, hnone⟩ | ⟨-, honce⟩
    · exact Or.inr ⟨hnone, hmem, hlive⟩
    · exact Or.inl honce
  · have hlossless := lossless_of_run hempty hrun hnever
    have hend := hlossless.complete hdelivering hcount hcomplete
    have hlength : (written (outputs history)).length = count := by
      have hcounter := hlossless.unbroken.counter_eq
      omega
    refine ⟨hlength ▸ hlossless.unbroken.numbers, fun input earlier element harrived => ?_⟩
    have hlast := ((hcomplete _).mp ⟨input, earlier, element, harrived, rfl⟩).2
    rcases hdelivering.tracked element ⟨input, earlier, harrived, hlossless.ahead _ _ _ harrived⟩ with
      ⟨_, _, hahead, _⟩ | ⟨_, honce⟩
    · rw [BitVec.lt_def] at hahead
      omega
    · have hmem : element ∈ writtenWith element.sequence (outputs history) := by
        rw [honce]
        exact List.mem_singleton_self element
      exact List.mem_of_mem_filter hmem

/-! ### Two runs -/

def atZero : State := ⟨fun _ => 0, [], 0, 0⟩

def laterSilence : Input := ⟨.failed true, in6addrAny, ⟨6, 0⟩, ⟨6, 0⟩⟩

def laterStranger : Input :=
  ⟨.datagram (fun _ => 1) (dataMessage ethertypeIp 7 9 [0x45#8]), in6addrAny, ⟨6, 0⟩, ⟨6, 0⟩⟩

theorem exists_input_of_numberArrived {number : BitVec 32}
    (harrived : NumberArrived timeout start history number) :
    ∃ input ∈ history.map Prod.fst, ∃ state element,
      (receive timeout state input).2 = .enqueued element ∧ element.sequence = number := by
  obtain ⟨input, earlier, element, ⟨before, events, after, rfl, -, hreceive⟩, hnumber⟩ := harrived
  exact ⟨input, by simp, earlier, element, hreceive, hnumber⟩

/-- A number that has not arrived yet is inside the window above 0. -/
theorem inWindow_numbered {history : History Input (List Event)} {state : State} (number : BitVec 32)
    (hnumber : 0 < number ∧ number < BitVec.allOnes 32) (earlier : List (BitVec 32))
    (hinputs : history.map Prod.fst = earlier.map numbered) (hnew : number ∉ earlier) :
    InWindow ⟨0, 250000⟩ atZero history state (numbered number) := by
  intro element hreceive
  obtain rfl := Received.enqueued.inj ((receive_numbered state number).symm.trans hreceive)
  have hpayload : (numbered number).payload ≠ [] := by
    intro hnone
    have hshort := List.drop_eq_nil_iff.mp hnone
    rw [List.length_take, dataMessage_length, maxPktSize, List.length_singleton] at hshort
    omega
  refine ⟨hpayload, hnumber.1, hnumber.2, fun harrived => ?_, rfl⟩
  obtain ⟨input, hmem, reached, other, hother, hsame⟩ := exists_input_of_numberArrived harrived
  rw [hinputs] at hmem
  obtain ⟨before, hbefore, rfl⟩ := List.mem_map.mp hmem
  obtain rfl := Received.enqueued.inj ((receive_numbered reached before).symm.trans hother)
  have hsame : before = number := hsame
  exact hnew (hsame ▸ hbefore)

theorem not_leftByContinue_numbered (state : State) (number : BitVec 32) :
    ¬ LeftByContinue state (numbered number) := by
  intro hcontinue
  have hskipped : (receive ⟨0, 250000⟩ state (numbered number)).2 = .skipped :=
    receive_skipped_iff.mpr hcontinue
  exact absurd (hskipped.symm.trans (receive_numbered state number)) nofun

theorem unhurried_of_inputs
    (hinputs : ∀ input ∈ history.map Prod.fst, ∀ state, ¬ LeftByContinue state input) :
    Unhurried timeout start history := by
  rintro before last events after previous rfl - hcontinue
  exact absurd hcontinue (hinputs last (by simp) previous)

def twoHeld : State := ⟨(receive ⟨0, 250000⟩ atZero (numbered 2)).1, [numberedSlot 2 0], 0, 1⟩

theorem twoHeld_run : RunWhere (Step ⟨0, 250000⟩) (InWindow ⟨0, 250000⟩ atZero) atZero
    [(numbered 2, [])] twoHeld := by
  have hheld : Step ⟨0, 250000⟩ atZero (numbered 2) [] twoHeld :=
    step_held (receive_numbered atZero 2) rfl (by decide) ⟨by decide, by decide⟩ (by decide)
      (by decide)
  exact .snoc .nil (inWindow_numbered 2 (by decide) [] rfl List.not_mem_nil) hheld

/-- Packet 2 arrives before packet 1, packet 4 behind them, and packet 3 not at all. -/
theorem delivered_in_order : ∃ history state,
    RunWhere (Step ⟨0, 250000⟩) (InWindow ⟨0, 250000⟩ atZero) atZero history state ∧
    history.map Prod.fst = [numbered 2, numbered 1, numbered 4, laterSilence] ∧
    (written (outputs history)).map ReorderBufferElement.sequence = [1, 2, 4] ∧
    Punctual ⟨0, 250000⟩ atZero history := by
  have hone : Loop.Returns (flushRound ⟨0, 250000⟩ ⟨5, 0⟩)
      ⟨[numberedSlot 2 0, numberedSlot 1 1], 0, []⟩
      ⟨[(numberedSlot 2 0).flushed, (numberedSlot 1 1).flushed], 2,
        [.written (numberedSlot 1 1), .freed 1, .written (numberedSlot 2 0), .freed 0]⟩ := ⟨3, rfl⟩
  have hfour : Loop.Returns (flushRound ⟨0, 250000⟩ ⟨6, 0⟩) ⟨[numberedSlot 4 2], 2, []⟩
      ⟨[(numberedSlot 4 2).flushed], 4, [.timedOut 3 (numberedSlot 4 2) ⟨1, 0⟩,
        .written (numberedSlot 4 2), .freed 2]⟩ := ⟨3, rfl⟩
  have hstepOne := Step.of_starts (.enqueued _ (receive_numbered twoHeld 1) (by decide)) hone
  set afterOne := (finish (receive ⟨0, 250000⟩ twoHeld (numbered 1)).1 2
    ⟨[(numberedSlot 2 0).flushed, (numberedSlot 1 1).flushed], 2,
      [.written (numberedSlot 1 1), .freed 1, .written (numberedSlot 2 0), .freed 0]⟩).1
  have hstepFour := step_held (receive_numbered afterOne 4) rfl (by decide)
    ⟨by decide, by decide⟩ (by decide) (by decide)
  set afterFour : State := ⟨(receive ⟨0, 250000⟩ afterOne (numbered 4)).1,
    afterOne.packets ++ [numberedSlot 4 afterOne.allocated], afterOne.sequenceFlushed,
    afterOne.allocated + 1⟩
  have hidle : (receive ⟨0, 250000⟩ afterFour laterSilence).2 = .idle := rfl
  have hstepLater := Step.of_starts (.idle hidle) hfour
  have hquiet : ∀ history, InWindow ⟨0, 250000⟩ atZero history afterFour laterSilence :=
    fun history element hreceive => absurd (hidle.symm.trans hreceive) nofun
  have hrun := ((twoHeld_run.snoc
      (inWindow_numbered 1 (by decide) [2] rfl (by decide)) hstepOne).snoc
      (inWindow_numbered 4 (by decide) [2, 1] rfl (by decide)) hstepFour).snoc (hquiet _) hstepLater
  have hinputs : ∀ input ∈ [numbered 2, numbered 1, numbered 4, laterSilence], ∀ state,
      ¬ LeftByContinue state input := by
    intro input hmem state hcontinue
    simp only [List.mem_cons, List.not_mem_nil, or_false] at hmem
    rcases hmem with rfl | rfl | rfl | rfl
    · exact not_leftByContinue_numbered state 2 hcontinue
    · exact not_leftByContinue_numbered state 1 hcontinue
    · exact not_leftByContinue_numbered state 4 hcontinue
    · exact Bool.false_ne_true hcontinue.symm
  have hpunctual := (ordered_delivery rfl hrun).2.2.2.1.mpr (unhurried_of_inputs hinputs)
  exact ⟨_, _, hrun, rfl, rfl, hpunctual⟩

/-- Packet 2 waits for packet 1. When it has become overdue, the datagram of a stranger arrives, and
it waits on. -/
theorem stranger_delays : ∃ history state,
    RunWhere (Step ⟨0, 250000⟩) (InWindow ⟨0, 250000⟩ atZero) atZero history state ∧
    history.map Prod.fst = [numbered 2, laterStranger] ∧
    numberedSlot 2 0 ∈ state.packets ∧ Overdue ⟨0, 250000⟩ ⟨6, 0⟩ (numberedSlot 2 0) ∧
    ¬ Punctual ⟨0, 250000⟩ atZero history := by
  have hcontinue : LeftByContinue twoHeld laterStranger := Or.inl fun hsame =>
    absurd (congrFun hsame 0) (by decide)
  have hskipped : (receive ⟨0, 250000⟩ twoHeld laterStranger).2 = .skipped :=
    receive_skipped_iff.mpr hcontinue
  have hstep : Step ⟨0, 250000⟩ twoHeld laterStranger []
      { twoHeld with buffer := (receive ⟨0, 250000⟩ twoHeld laterStranger).1 } := by
    have hpair : receive ⟨0, 250000⟩ twoHeld laterStranger =
        ((receive ⟨0, 250000⟩ twoHeld laterStranger).1, .skipped) := Prod.ext rfl hskipped
    refine ⟨0, ?_⟩
    rw [iteration, hpair]
  have hquiet : InWindow ⟨0, 250000⟩ atZero [(numbered 2, [])] twoHeld laterStranger := by
    intro element hreceive
    rw [hskipped] at hreceive
    cases hreceive
  have hrun := twoHeld_run.snoc hquiet hstep
  have hoverdue : Overdue ⟨0, 250000⟩ ⟨6, 0⟩ (numberedSlot 2 0) := by decide
  refine ⟨_, _, hrun, rfl, List.mem_singleton_self _, hoverdue, fun hpunctual => ?_⟩
  exact (punctual_iff rfl hrun).mp hpunctual [(numbered 2, [])] laterStranger [] [] twoHeld rfl
    twoHeld_run.run hcontinue _ (List.mem_singleton_self _) hoverdue

end OpenHybrid.Gre2tun

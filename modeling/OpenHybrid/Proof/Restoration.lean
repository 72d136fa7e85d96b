import OpenHybrid.Proof.Network
import OpenHybrid.Proof.Termination

/-!
# When the network only shuffles

As long as nothing waits for too long, no number is skipped. Then everything that has arrived since
the start of the stream is written or held, and once all of it has arrived, the tun device has got the
stream as it was sent, however the network has shuffled and repeated it.
-/

namespace OpenHybrid.Gre2tun

open ByteMemory Transition Channel

variable {timeout now : Timeval} {stream : List (List Byte)}

/-! ### What has arrived -/

def Delivers (stream : List (List Byte)) (place : Nat) (input : Input) : Prop :=
  ∃ bytes, input.recvfrom = .datagram input.haapIp bytes ∧ Carries stream place bytes

/-- The packet at `place` has come in, and the first one no later than it. -/
def InStream (stream : List (List Byte)) (history : History Input (List Event)) (place : Nat) :
    Prop :=
  ∃ before step after, history = before ++ step :: after ∧ Delivers stream place step.1 ∧
    (place = 0 ∨ ∃ earlier ∈ before, Delivers stream 0 earlier.1)

structure Prompt (timeout : Timeval) (state : State) (input : Input) : Prop where
  held : ∀ element ∈ state.packets, ¬ Overdue timeout input.now element
  arriving : ∀ element, (receive timeout state input).2 = .enqueued element →
    ¬ Overdue timeout input.now element

theorem inStream_snoc {history : History Input (List Event)} {step : Input × List Event}
    {place : Nat} (hin : InStream stream (history ++ [step]) place) :
    InStream stream history place ∨ (Delivers stream place step.1 ∧
      (place = 0 ∨ ∃ earlier ∈ history, Delivers stream 0 earlier.1)) := by
  obtain ⟨before, middle, after, hsplit, hdelivers, hfirst⟩ := hin
  cases after using List.reverseRecOn with
  | nil =>
      obtain ⟨rfl, hlast⟩ := List.append_inj' hsplit rfl
      obtain rfl := List.singleton_injective hlast
      exact Or.inr ⟨hdelivers, hfirst⟩
  | append_singleton after last _ =>
      have hsplit' : history ++ [step] = (before ++ middle :: after) ++ [last] := by
        rw [hsplit]
        simp
      obtain ⟨rfl, _⟩ := List.append_inj' hsplit' rfl
      exact Or.inl ⟨before, middle, after, rfl, hdelivers, hfirst⟩

def Accounted (count : Nat) (packets : List ReorderBufferElement) (place : Nat) : Prop :=
  place < count ∨ ∃ element ∈ packets, element.Live ∧ element.sequence = BitVec.ofNat 32 place

/-- Nothing has been skipped, and what has arrived is accounted for. -/
structure Complete (timeout now : Timeval) (stream : List (List Byte)) (arrived : Nat → Prop)
    (events : List Event) (counter : BitVec 32) (packets : List ReorderBufferElement) : Prop where
  conveying : Conveying timeout stream events counter packets
  unskipped : (passed events).length ≤ (writes events).length
  fresh : ∀ element ∈ packets, ¬ Overdue timeout now element
  accounted : ∀ place < stream.length, arrived place →
    Accounted (passed events).length packets place

theorem Complete.count_le {arrived : Nat → Prop} {events : List Event} {counter : BitVec 32}
    {packets : List ReorderBufferElement}
    (hcomplete : Complete timeout now stream arrived events counter packets) :
    (passed events).length ≤ stream.length :=
  (hcomplete.conveying.conveyed.eq_take hcomplete.unskipped).2

/-- A step of the counter skips nothing. -/
theorem Complete.advance (hstream : Streamable stream) (hshort : stream.length < 2 ^ 32)
    {arrived : Nat → Prop} {history : List Event} {flushing next : Flushing}
    (hcomplete : Complete timeout now stream arrived (history ++ flushing.events)
      flushing.sequenceFlushed flushing.packets)
    (hadvance : Advance timeout now flushing next) :
    Complete timeout now stream arrived (history ++ next.events) next.sequenceFlushed
      next.packets := by
  have hcount := hcomplete.count_le
  have htallied := hcomplete.conveying.tallied
  have hone : (passed (history ++ next.events)).length =
      (passed (history ++ flushing.events)).length + 1 := by
    rw [passed_append, hadvance.passes.2, ← List.append_assoc, ← passed_append, List.length_append,
      List.length_singleton]
  have hlap : FirstLap (history ++ next.events) := by
    rw [FirstLap, hone]
    omega
  have hconveying := Conveying.advance hstream hcomplete.conveying hlap hadvance
  obtain ⟨_, hunskipped, hfresh, haccounted⟩ := hcomplete
  cases hadvance with
  | flush before element after counter events hnext =>
      have hwrites : writes [.written element, .freed element.packet.handle] =
          [element.payload] := rfl
      refine ⟨hconveying, ?_, ?_, fun place hplace harrived => ?_⟩
      · rw [hone, ← List.append_assoc, writes_append, hwrites, List.length_append]
        exact Nat.succ_le_succ hunskipped
      · intro other hother
        rcases mem_flush_iff.mp hother with rfl | hmem
        · exact fun hoverdue => not_live_flushed element hoverdue.1
        · refine hfresh other ?_
          rcases List.mem_append.mp hmem with hmem | hmem <;> simp [hmem]
      · rw [hone]
        rcases haccounted place hplace harrived with hpassed | ⟨held, hheld, hlive, hnumber⟩
        · exact Or.inl (Nat.lt_succ_of_lt hpassed)
        · have hcases : held = element ∨ held ∈ before ++ after := by
            simpa [or_left_comm] using hheld
          rcases hcases with rfl | hmem
          · refine Or.inl (Nat.lt_succ_of_le (le_of_eq ?_))
            refine place_eq_of_number (by omega) (hcount.trans_lt hshort) ?_
            rw [← hnumber, hnext]
            exact htallied.counter_eq
          · exact Or.inr ⟨held, mem_flush_iff.mpr (Or.inr hmem), hlive, hnumber⟩
  | skip packets held counter events hmissing hheld hoverdue =>
      exact absurd hoverdue (hfresh held hheld)

/-- Once the first packet has arrived the counter has moved. -/
theorem Complete.started {arrived : Nat → Prop} {events : List Event} {flushing : Flushing}
    (hcomplete : Complete timeout now stream arrived events flushing.sequenceFlushed
      flushing.packets)
    (hquiescent : Quiescent timeout now flushing) (hpos : 0 < stream.length) (hfirst : arrived 0) :
    0 < (passed events).length := by
  rcases hcomplete.accounted 0 hpos hfirst with hpassed | ⟨held, hheld, _, hnumber⟩
  · exact hpassed
  · refine Nat.pos_of_ne_zero fun hzero => hquiescent.missing held hheld ?_
    rw [hnumber, hcomplete.conveying.tallied.counter_eq, hzero]

theorem mem_compact_of_live {packets : List ReorderBufferElement} {element : ReorderBufferElement}
    (hmem : element ∈ packets) (hlive : element.Live) : element ∈ compact packets := by
  obtain ⟨gone, hsplit, hdead⟩ := exists_append_compact packets
  rw [hsplit] at hmem
  rcases List.mem_append.mp hmem with hgone | hkept
  · exact absurd hlive (hdead element hgone)
  · exact hkept

/-- What the discard step takes has been passed. -/
theorem Complete.accounted_finish (hstream : Streamable stream) (hshort : stream.length < 2 ^ 32)
    {arrived : Nat → Prop} {events : List Event} {flushing : Flushing}
    (hcomplete : Complete timeout now stream arrived events flushing.sequenceFlushed
      flushing.packets)
    (hquiescent : Quiescent timeout now flushing) (hfirst : ∀ place, arrived place → arrived 0)
    {place : Nat} (hplace : place < stream.length) (harrived : arrived place) :
    Accounted (passed events).length
      (compact (discardLate flushing.sequenceFlushed flushing.packets)) place := by
  have hcount := hcomplete.count_le
  have hlap : FirstLap events := by
    rw [FirstLap]
    omega
  rcases hcomplete.accounted place hplace harrived with hpassed | ⟨held, hheld, hlive, hnumber⟩
  · exact Or.inl hpassed
  · by_cases hlate : Late flushing.sequenceFlushed held
    · have hpos := hcomplete.started hquiescent (Nat.zero_lt_of_lt hplace) (hfirst place harrived)
      exact Or.inl (place_lt_of_le hstream hcomplete.conveying.tallied hlap hpos
        (List.getElem?_eq_getElem hplace) (hnumber ▸ hlate.2))
    · refine Or.inr ⟨held, mem_compact_of_live ?_ hlive, hlive, hnumber⟩
      exact List.mem_map.mpr ⟨held, hheld, if_neg hlate⟩

/-! ### Runs -/

section Runs

variable {state next : State} {input : Input} {history : History Input (List Event)}
  {events : List Event}

def ArrivedBy (stream : List (List Byte)) (history : History Input (List Event)) (input : Input)
    (place : Nat) : Prop :=
  InStream stream history place ∨ (Delivers stream place input ∧
    (place = 0 ∨ ∃ earlier ∈ history, Delivers stream 0 earlier.1))

theorem inStream_zero {earlier : Input × List Event} (hmem : earlier ∈ history)
    (hdelivers : Delivers stream 0 earlier.1) : InStream stream history 0 := by
  obtain ⟨before, after, rfl⟩ := List.append_of_mem hmem
  exact ⟨before, earlier, after, rfl, hdelivers, Or.inl rfl⟩

theorem ArrivedBy.first {place : Nat} (harrived : ArrivedBy stream history input place) :
    ArrivedBy stream history input 0 := by
  rcases harrived with ⟨before, step, after, rfl, hdelivers, rfl | ⟨earlier, hmem, hfirst⟩⟩ |
    ⟨hdelivers, rfl | ⟨earlier, hmem, hfirst⟩⟩
  · exact Or.inl ⟨before, step, after, rfl, hdelivers, Or.inl rfl⟩
  · exact Or.inl (inStream_zero (List.mem_append_left _ hmem) hfirst)
  · exact Or.inr ⟨hdelivers, Or.inl rfl⟩
  · exact Or.inl (inStream_zero hmem hfirst)

theorem receive_delivers (hstream : Streamable stream)
    (htimeout : ¬ (timeout.tvSec = 0 ∧ timeout.tvUsec = 0)) (state : State) {place : Nat}
    (hdelivers : Delivers stream place input) :
    ∃ packet, stream[place]? = some packet ∧
      (receive timeout state input).2 = .enqueued (waitingSlot state input place packet) := by
  obtain ⟨_, hrecvfrom, proto, key, packet, hpacket, rfl⟩ := hdelivers
  refine ⟨packet, hpacket, ?_⟩
  rw [receive_dataMessage state (hstream.fits packet (List.mem_of_getElem? hpacket)) hrecvfrom,
    if_neg htimeout, waitingSlot]

/-- Between two iterations: nothing has been skipped, and what has arrived is accounted for. -/
structure Restoring (timeout : Timeval) (stream : List (List Byte))
    (history : History Input (List Event)) (state : State) : Prop where
  conveys : Conveys timeout stream (outputs history) state
  unskipped : (passed (outputs history)).length ≤ (writes (outputs history)).length
  accounted : ∀ place < stream.length, InStream stream history place →
    Accounted (passed (outputs history)).length state.packets place

theorem Restoring.starts (hstream : Streamable stream)
    (htimeout : ¬ (timeout.tvSec = 0 ∧ timeout.tvUsec = 0)) {start : Flushing} {allocated : Nat}
    (hrestoring : Restoring timeout stream history state) (hgenuine : Genuine stream input)
    (hprompt : Prompt timeout state input)
    (hstarts : Starts timeout state input start allocated) :
    start.events = [] ∧
      Complete timeout input.now stream (ArrivedBy stream history input)
        (outputs history ++ start.events) start.sequenceFlushed start.packets := by
  obtain ⟨hconveys, hunskipped, haccounted⟩ := hrestoring
  obtain ⟨hnone, hconveying⟩ := hconveys.starts hstream htimeout hgenuine hstarts
  refine ⟨hnone, hconveying, ?_, ?_, ?_⟩
  · rw [hnone, List.append_nil]
    exact hunskipped
  · cases hstarts with
    | forwarded event hreceive => exact hprompt.held
    | idle hreceive => exact hprompt.held
    | enqueued element hreceive hsize =>
        intro other hother
        rcases List.mem_append.mp hother with hmem | hmem
        · exact hprompt.held other hmem
        · rw [List.mem_singleton.mp hmem]
          exact hprompt.arriving element hreceive
  · intro place hplace harrived
    rw [hnone, List.append_nil]
    have hheld : ∀ element ∈ state.packets, element ∈ start.packets := by
      cases hstarts with
      | forwarded event hreceive => exact fun _ hmem => hmem
      | idle hreceive => exact fun _ hmem => hmem
      | enqueued element hreceive hsize => exact fun _ hmem => List.mem_append_left _ hmem
    rcases harrived with hearlier | ⟨hdelivers, _⟩
    · rcases haccounted place hplace hearlier with hpassed | ⟨element, hmem, hlive, hnumber⟩
      · exact Or.inl hpassed
      · exact Or.inr ⟨element, hheld element hmem, hlive, hnumber⟩
    · obtain ⟨packet, hpacket, hreceive⟩ := receive_delivers hstream htimeout state hdelivers
      cases hstarts with
      | forwarded event hforwarded => exact absurd (hforwarded.symm.trans hreceive) (by simp)
      | idle hidle => exact absurd (hidle.symm.trans hreceive) (by simp)
      | enqueued element henqueued hsize =>
          obtain rfl := Received.enqueued.inj (henqueued.symm.trans hreceive)
          exact Or.inr ⟨_, List.mem_append_right _ List.mem_cons_self,
            (live_waitingSlot hstream hpacket state input).1, rfl⟩

theorem Complete.advances (hstream : Streamable stream) (hshort : stream.length < 2 ^ 32)
    {arrived : Nat → Prop} {earlier : List Event} {start result : Flushing}
    (hcomplete : Complete timeout now stream arrived (earlier ++ start.events)
      start.sequenceFlushed start.packets)
    (hadvances : Advances timeout now start result) :
    Complete timeout now stream arrived (earlier ++ result.events) result.sequenceFlushed
      result.packets :=
  hadvances.invariant (fun flushing => Complete timeout now stream arrived
    (earlier ++ flushing.events) flushing.sequenceFlushed flushing.packets)
    (fun _ _ hbefore hadvance => hbefore.advance hstream hshort hadvance) hcomplete

/-- What one iteration preserves. -/
theorem Restoring.step (hstream : Streamable stream) (hshort : stream.length < 2 ^ 32)
    (htimeout : ¬ (timeout.tvSec = 0 ∧ timeout.tvUsec = 0))
    (hrestoring : Restoring timeout stream history state) (hgenuine : Genuine stream input)
    (hprompt : Prompt timeout state input) (hstep : Step timeout state input events next) :
    Restoring timeout stream (history ++ [(input, events)]) next := by
  have harrived : ∀ {place}, InStream stream (history ++ [(input, events)]) place →
      ArrivedBy stream history input place := fun hin => inStream_snoc hin
  rcases hstep.cases with ⟨hskipped, rfl, rfl⟩ |
    ⟨start, allocated, flushing, hstarts, hreturns, hfinish⟩
  · obtain ⟨⟨hconveying, hunstarted, hmissing⟩, hunskipped, haccounted⟩ := hrestoring
    have hsame : outputs (history ++ [(input, [])]) = outputs history := by simp
    refine ⟨?_, ?_, fun place hplace hin => ?_⟩
    · rw [hsame]
      exact ⟨hconveying, hunstarted, hmissing⟩
    · rw [hsame]
      exact hunskipped
    · rw [hsame]
      rcases harrived hin with hearlier | ⟨hdelivers, _⟩
      · exact haccounted place hplace hearlier
      · obtain ⟨packet, _, hreceive⟩ := receive_delivers hstream htimeout state hdelivers
        exact absurd (hskipped.symm.trans hreceive) (by simp)
  · obtain ⟨hadvances, hquiescent⟩ := returns_flushRound hreturns
    obtain ⟨rfl, rfl⟩ := Prod.mk.inj hfinish
    obtain ⟨_, hstart⟩ := hrestoring.starts hstream htimeout hgenuine hprompt hstarts
    have hcomplete := hstart.advances hstream hshort hadvances
    have hcount := hcomplete.count_le
    have hlap : FirstLap (outputs history ++ flushing.events) := by
      rw [FirstLap]
      omega
    have hpassed : passed (outputs history ++ (flushing.events ++
        discardEvents flushing.sequenceFlushed flushing.packets)) =
          passed (outputs history ++ flushing.events) := by
      rw [← List.append_assoc, passed_append, passed_discardEvents, List.append_nil]
    have hwrites : writes (outputs history ++ (flushing.events ++
        discardEvents flushing.sequenceFlushed flushing.packets)) =
          writes (outputs history ++ flushing.events) := by
      rw [← List.append_assoc, writes_append, writes_discardEvents, List.append_nil]
    refine ⟨?_, ?_, fun place hplace hin => ?_⟩
    · rw [outputs_append, outputs_singleton]
      exact hcomplete.conveying.finish hstream _ _ hlap hquiescent
    · rw [outputs_append, outputs_singleton, hpassed, hwrites]
      exact hcomplete.unskipped
    · rw [outputs_append, outputs_singleton, hpassed]
      exact hcomplete.accounted_finish hstream hshort hquiescent (fun _ => ArrivedBy.first) hplace
        (harrived hin)

/-- Nothing is skipped along every prompt run. -/
theorem restoring_of_run (hstream : Streamable stream) (hshort : stream.length < 2 ^ 32)
    (htimeout : ¬ (timeout.tvSec = 0 ∧ timeout.tvUsec = 0)) {buffer : Memory}
    (hrun : RunWhere (Step timeout)
      (fun _ state input => Genuine stream input ∧ Prompt timeout state input)
      (State.initial buffer) history state) : Restoring timeout stream history state := by
  refine hrun.invariant (Restoring timeout stream) ?_ fun _ _ _ _ _ hbefore hguard hstep =>
    hbefore.step hstream hshort htimeout hguard.1 hguard.2 hstep
  have hempty : FirstLap (outputs ([] : History Input (List Event))) := Nat.zero_le _
  refine ⟨conveys_of_run hstream htimeout .nil hempty, Nat.le_refl _, ?_⟩
  rintro place _ ⟨before, step, after, hsplit, _⟩
  exact absurd hsplit (by simp)

theorem Restoring.exists_step (hstream : Streamable stream)
    (htimeout : ¬ (timeout.tvSec = 0 ∧ timeout.tvUsec = 0))
    (hrestoring : Restoring timeout stream history state) (hgenuine : Genuine stream input)
    (hprompt : Prompt timeout state input) (hroom : state.packets.length + 1 < 2 ^ 32) :
    ∃ events next, Step timeout state input events next := by
  refine Gre2tun.exists_step (fun _ _ => hroom) fun start allocated hstarts => ?_
  obtain ⟨_, hcomplete⟩ := hrestoring.starts hstream htimeout hgenuine hprompt hstarts
  have hlength : start.packets.length < 2 ^ 32 := by
    cases hstarts with
    | forwarded event hreceive => exact Nat.lt_of_succ_lt hroom
    | idle hreceive => exact Nat.lt_of_succ_lt hroom
    | enqueued element hreceive hsize => simpa using hroom
  exact halts_of_hit hlength fun i element hslot hoverdue =>
    absurd hoverdue (hcomplete.fresh element (List.mem_of_getElem? hslot))

/-- When all of the stream has arrived, all of it has been written. -/
theorem Restoring.writes_eq
    (hrestoring : Restoring timeout stream history state)
    (hall : ∀ place < stream.length, InStream stream history place) :
    writes (outputs history) = stream := by
  obtain ⟨⟨hconveying, _, hmissing⟩, hunskipped, haccounted⟩ := hrestoring
  obtain ⟨htake, hcount⟩ := hconveying.conveyed.eq_take hunskipped
  rw [htake]
  refine List.take_of_length_le (Nat.le_of_not_lt fun hbehind => ?_)
  rcases haccounted _ hbehind (hall _ hbehind) with hpassed | ⟨element, hmem, _, hnumber⟩
  · exact Nat.lt_irrefl _ hpassed
  · exact hmissing element hmem (hnumber.trans hconveying.tallied.counter_eq.symm)

end Runs

end OpenHybrid.Gre2tun

namespace OpenHybrid

open ByteMemory Transition

/-- **What was shuffled is restored.** As long as nothing waits for as long as the timeout, every
iteration ends, and when every packet that was sent has arrived no earlier than the first one, what
has been written is what was sent, packet by packet: whatever overtook what on the way, and however
often it arrived. -/
theorem shuffled_restored {inputs : List Tun2gre.Input} {timeout : Timeval}
    {sendBuffer buffer : Memory} {history : History Gre2tun.Input (List Gre2tun.Event)}
    {state : Gre2tun.State} (hlength : (sentPackets inputs).length < 2 ^ 32)
    (hfits : ∀ input ∈ inputs, input.read.length ≤ 1488)
    (htimeout : ¬ (timeout.tvSec = 0 ∧ timeout.tvUsec = 0))
    (hrun : RunWhere (Gre2tun.Step timeout)
      (fun _ state input => Sent sendBuffer inputs input ∧ Gre2tun.Prompt timeout state input)
      (Gre2tun.State.initial buffer) history state) :
    (∀ input, Sent sendBuffer inputs input → Gre2tun.Prompt timeout state input →
      state.packets.length + 1 < 2 ^ 32 →
        ∃ events next, Gre2tun.Step timeout state input events next) ∧
    ((∀ place < (sentPackets inputs).length,
        Gre2tun.InStream (sentPackets inputs) history place) →
      Gre2tun.writes (outputs history) = sentPackets inputs) := by
  have hstream := streamable_sentPackets hlength.le hfits
  have hrestoring := Gre2tun.restoring_of_run hstream hlength htimeout
    (hrun.mono fun _ _ _ hguard => ⟨genuine_of_sent hguard.1, hguard.2⟩)
  exact ⟨fun input hsent hprompt hroom =>
    hrestoring.exists_step hstream htimeout (genuine_of_sent hsent) hprompt hroom,
    hrestoring.writes_eq⟩

theorem delivers_numbered {count number : Nat} (hnumber : number < count) :
    Gre2tun.Delivers (sentPackets (bytesRead count)) number
      (Gre2tun.numbered (BitVec.ofNat 32 number)) := by
  refine ⟨_, rfl, ethertypeIp, 7, [0x45#8], ?_, rfl⟩
  rw [sentPackets_bytesRead, List.getElem?_replicate, if_pos hnumber]

/-- Packet 2 arrives before packet 1. -/
theorem swapped_restored : ∃ history state,
    RunWhere (Gre2tun.Step ⟨0, 250000⟩)
      (fun _ state input => Sent (fun _ => 0) (bytesRead 3) input ∧
        Gre2tun.Prompt ⟨0, 250000⟩ state input) (Gre2tun.State.initial fun _ => 0) history state ∧
    history.map Prod.fst = [Gre2tun.numbered 0, Gre2tun.numbered 2, Gre2tun.numbered 1] ∧
    Gre2tun.writes (outputs history) = sentPackets (bytesRead 3) := by
  have hzero := Gre2tun.step_next rfl
    (Gre2tun.receive_numbered (Gre2tun.State.initial fun _ => 0) 0) (by decide)
  set first := (Gre2tun.receive ⟨0, 250000⟩ (Gre2tun.State.initial fun _ => 0)
    (Gre2tun.numbered 0)).1
  have htwo := Gre2tun.step_held (Gre2tun.receive_numbered ⟨first, [], 0, 1⟩ 2) rfl (by decide)
    ⟨by decide, by decide⟩ (by decide) (by decide)
  set second := (Gre2tun.receive ⟨0, 250000⟩ ⟨first, [], 0, 1⟩ (Gre2tun.numbered 2)).1
  have hreturns : Loop.Returns (Gre2tun.flushRound ⟨0, 250000⟩ ⟨5, 0⟩)
      ⟨[Gre2tun.numberedSlot 2 1, Gre2tun.numberedSlot 1 2], 0, []⟩
      ⟨[(Gre2tun.numberedSlot 2 1).flushed, (Gre2tun.numberedSlot 1 2).flushed], 2,
        [.written (Gre2tun.numberedSlot 1 2), .freed 2, .written (Gre2tun.numberedSlot 2 1),
          .freed 1]⟩ := ⟨3, rfl⟩
  have hone := Gre2tun.Step.of_starts (.enqueued _
    (Gre2tun.receive_numbered ⟨second, [Gre2tun.numberedSlot 2 1], 0, 2⟩ 1) (by decide)) hreturns
  have hprompt : ∀ (state : Gre2tun.State) (number : Nat), number < 3 →
      (∀ element ∈ state.packets, ¬ Gre2tun.Overdue ⟨0, 250000⟩ ⟨5, 0⟩ element) →
      Sent (fun _ => 0) (bytesRead 3) (Gre2tun.numbered (BitVec.ofNat 32 number)) ∧
        Gre2tun.Prompt ⟨0, 250000⟩ state (Gre2tun.numbered (BitVec.ofNat 32 number)) := by
    intro state number hnumber hheld
    refine ⟨sent_numbered hnumber, hheld, fun element hreceive => ?_⟩
    obtain rfl := Gre2tun.Received.enqueued.inj
      ((Gre2tun.receive_numbered state _).symm.trans hreceive)
    exact fun hoverdue => Bool.false_ne_true hoverdue.2
  have hrun : RunWhere (Gre2tun.Step ⟨0, 250000⟩)
      (fun _ state input => Sent (fun _ => 0) (bytesRead 3) input ∧
        Gre2tun.Prompt ⟨0, 250000⟩ state input) (Gre2tun.State.initial fun _ => 0) _ _ :=
    .snoc (.snoc (.snoc .nil (hprompt _ 0 (by decide) (by decide)) hzero)
      (hprompt _ 2 (by decide) (by decide)) htwo) (hprompt _ 1 (by decide) (by decide)) hone
  refine ⟨_, _, hrun, rfl, (shuffled_restored ?_ length_bytesRead (by decide) hrun).2 ?_⟩
  · rw [sentPackets_bytesRead]
    decide
  · intro place hplace
    rw [sentPackets_bytesRead, List.length_replicate] at hplace
    have hstart := delivers_numbered (show 0 < 3 by decide)
    match place, hplace with
    | 0, _ => exact ⟨[], _, _, rfl, hstart, Or.inl rfl⟩
    | 1, hplace =>
        exact ⟨[_, _], _, [], rfl, delivers_numbered hplace, Or.inr ⟨_, List.mem_cons_self, hstart⟩⟩
    | 2, hplace =>
        exact ⟨[_], _, _, rfl, delivers_numbered hplace, Or.inr ⟨_, List.mem_cons_self, hstart⟩⟩

end OpenHybrid

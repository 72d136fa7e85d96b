import OpenHybrid.Proof.EmptyBuffer

/-!
# When the flush loops end

A pass compares slots by number only, flushed ones included, so which slot of several with the same
number it takes depends on where the scan stands when the counter gets there. `Hit` says which
slots are ever taken, from the order of the numbers in the array alone. As long as an overdue packet
is held the counter keeps going round the ring; so the loops end exactly when every overdue packet
sits in a slot that is hit.
-/

namespace OpenHybrid.Gre2tun

open Transition

variable {timeout now : Timeval} {numbers : List (BitVec 32)} {counter start : BitVec 32}

/-! ### The scan of the numbers -/

def scan (counter : BitVec 32) : List (BitVec 32) → BitVec 32
  | [] => counter
  | number :: rest => if number = counter + 1 then scan (counter + 1) rest else scan counter rest

theorem scan_append (before after : List (BitVec 32)) :
    ∀ counter, scan counter (before ++ after) = scan (scan counter before) after := by
  induction before with
  | nil => intro counter; rfl
  | cons number rest ih =>
      intro counter
      by_cases hnext : number = counter + 1
      · simp only [List.cons_append, scan, if_pos hnext, ih]
      · simp only [List.cons_append, scan, if_neg hnext, ih]

theorem scan_of_notMem (habsent : counter + 1 ∉ numbers) : scan counter numbers = counter := by
  induction numbers with
  | nil => rfl
  | cons number rest ih =>
      rw [List.mem_cons, not_or] at habsent
      rw [scan, if_neg (Ne.symm habsent.1), ih habsent.2]

/-- The first `i` slots, and then the slot `i`. -/
theorem scan_take_succ {i : Nat} {number : BitVec 32} (hslot : numbers[i]? = some number) :
    scan counter (numbers.take (i + 1)) =
      if number = scan counter (numbers.take i) + 1 then number
      else scan counter (numbers.take i) := by
  rw [List.take_add_one, hslot, scan_append]
  simp only [Option.toList_some, scan]
  split_ifs with hnext
  · rw [hnext]
  · rfl

/-- The scan does not move over a stretch without the next number. -/
theorem scan_take_stretch {current : BitVec 32} {low high : Nat} (hle : low ≤ high)
    (hlow : scan counter (numbers.take low) = current)
    (hnone : ∀ j, low ≤ j → j < high → numbers[j]? ≠ some (current + 1)) :
    scan counter (numbers.take high) = current := by
  induction high, hle using Nat.le_induction with
  | base => exact hlow
  | succ high hle ih =>
      have hhigh := ih fun j hlow hj => hnone j hlow (by omega)
      cases hslot : numbers[high]? with
      | none => rw [List.take_add_one, hslot, Option.toList_none, List.append_nil, hhigh]
      | some number =>
          have hnumber : number ≠ current + 1 := by
            rintro rfl
            exact hnone high hle (by omega) hslot
          rw [scan_take_succ hslot, hhigh, if_neg hnumber]

def Taken (counter : BitVec 32) (numbers : List (BitVec 32)) (i : Nat) : Prop :=
  numbers[i]? = some (scan counter (numbers.take i) + 1)

structure FirstAt (numbers : List (BitVec 32)) (number : BitVec 32) (i : Nat) : Prop where
  slot : numbers[i]? = some number
  none_before : ∀ j < i, numbers[j]? ≠ some number

theorem Taken.of_firstAt {i : Nat} (hfirst : FirstAt numbers (counter + 1) i) :
    Taken counter numbers i := by
  have hstill : scan counter (numbers.take i) = counter :=
    scan_take_stretch (Nat.zero_le i) rfl fun j _ hj => hfirst.none_before j hj
  rw [Taken, hstill]
  exact hfirst.slot

/-- Behind a taken slot the counter is at its number. -/
theorem Taken.scan_eq {x high : Nat} {number : BitVec 32} (htaken : Taken counter numbers x)
    (hslot : numbers[x]? = some number) (hlt : x < high)
    (hnone : ∀ j, x < j → j < high → numbers[j]? ≠ some (number + 1)) :
    scan counter (numbers.take high) = number := by
  refine scan_take_stretch hlt ?_ fun j hj => hnone j hj
  have hnumber := Option.some.inj (hslot.symm.trans htaken)
  rw [scan_take_succ hslot, if_pos hnumber]

theorem Taken.next {x i : Nat} {number : BitVec 32} (htaken : Taken counter numbers x)
    (hslot : numbers[x]? = some number) (hlt : x < i)
    (hnone : ∀ j, x < j → j < i → numbers[j]? ≠ some (number + 1))
    (hnext : numbers[i]? = some (number + 1)) : Taken counter numbers i := by
  rw [Taken, htaken.scan_eq hslot hlt hnone]
  exact hnext

theorem Taken.scan_end {x : Nat} {number : BitVec 32} (htaken : Taken counter numbers x)
    (hslot : numbers[x]? = some number)
    (hnone : ∀ j, x < j → numbers[j]? ≠ some (number + 1)) :
    scan counter numbers = number := by
  have hlt : x < numbers.length := (List.getElem?_eq_some_iff.mp hslot).1
  have hend := htaken.scan_eq hslot hlt fun j hj _ => hnone j hj
  rwa [List.take_length] at hend

theorem Taken.mem {i : Nat} (htaken : Taken counter numbers i) : counter + 1 ∈ numbers := by
  by_contra habsent
  have hstill : scan counter (numbers.take i) = counter :=
    scan_of_notMem fun hmem => habsent (List.mem_of_mem_take hmem)
  rw [Taken, hstill] at htaken
  exact habsent (List.mem_of_getElem? htaken)

/-- Where the scan stands: no next slot met yet, or behind the last slot taken. -/
theorem scan_take_cases (counter : BitVec 32) (numbers : List (BitVec 32)) (j : Nat) :
    (scan counter (numbers.take j) = counter ∧ ∀ k < j, numbers[k]? ≠ some (counter + 1)) ∨
    ∃ x < j, Taken counter numbers x ∧
      numbers[x]? = some (scan counter (numbers.take j)) ∧
      ∀ k, x < k → k < j → numbers[k]? ≠ some (scan counter (numbers.take j) + 1) := by
  induction j with
  | zero => exact Or.inl ⟨rfl, by simp⟩
  | succ j ih =>
      by_cases htaken : Taken counter numbers j
      · refine Or.inr ⟨j, by omega, htaken, ?_, by omega⟩
        rw [scan_take_succ htaken, if_pos rfl]
        exact htaken
      · have hstill : scan counter (numbers.take (j + 1)) = scan counter (numbers.take j) := by
          cases hslot : numbers[j]? with
          | none => rw [List.take_add_one, hslot, Option.toList_none, List.append_nil]
          | some number =>
              rw [scan_take_succ hslot, if_neg]
              rintro rfl
              exact htaken hslot
        rw [hstill]
        rcases ih with ⟨hcounter, hnone⟩ | ⟨x, hx, htakenX, hslot, hnone⟩
        · refine Or.inl ⟨hcounter, fun k hk hnext => ?_⟩
          rcases Nat.lt_succ_iff_lt_or_eq.mp hk with hlt | rfl
          · exact hnone k hlt hnext
          · exact htaken (by rw [Taken, hcounter, hnext])
        · refine Or.inr ⟨x, by omega, htakenX, hslot, fun k hxk hk hnext => ?_⟩
          rcases Nat.lt_succ_iff_lt_or_eq.mp hk with hlt | rfl
          · exact hnone k hxk hlt hnext
          · exact htaken hnext

/-! ### The slots that are ever taken -/

/-- The slots the scans take, round after round, from the counter `start` on. -/
inductive Hit (start : BitVec 32) (numbers : List (BitVec 32)) : Nat → Prop
  /-- the first slot with the next number -/
  | first (i : Nat) (hfirst : FirstAt numbers (start + 1) i) : Hit start numbers i
  /-- the first slot behind a missing number, when the timeout has skipped that number -/
  | gap (number : BitVec 32) (i : Nat) (habsent : number ∉ numbers)
      (hfirst : FirstAt numbers (number + 1) i) : Hit start numbers i
  /-- the next slot of the same pass -/
  | next (number : BitVec 32) (x i : Nat) (hhit : Hit start numbers x)
      (hslot : numbers[x]? = some number) (hlt : x < i)
      (hnone : ∀ j, x < j → j < i → numbers[j]? ≠ some (number + 1))
      (hnext : numbers[i]? = some (number + 1)) : Hit start numbers i
  /-- the first slot of the next pass -/
  | wrap (number : BitVec 32) (x i : Nat) (hhit : Hit start numbers x)
      (hslot : numbers[x]? = some number)
      (hnone : ∀ j, x < j → numbers[j]? ≠ some (number + 1))
      (hfirst : FirstAt numbers (number + 1) i) : Hit start numbers i

def AtBoundary (start : BitVec 32) (numbers : List (BitVec 32)) (counter : BitVec 32) : Prop :=
  ∀ i, FirstAt numbers (counter + 1) i → Hit start numbers i

theorem AtBoundary.hit_of_taken (hboundary : AtBoundary start numbers counter) {i : Nat}
    (htaken : Taken counter numbers i) : Hit start numbers i := by
  induction i using Nat.strong_induction_on with
  | _ i ih =>
      rcases scan_take_cases counter numbers i with ⟨hcounter, hnone⟩ | ⟨x, hx, htakenX, hslot, hnone⟩
      · rw [Taken, hcounter] at htaken
        exact hboundary i ⟨htaken, hnone⟩
      · exact .next _ x i (ih x hx htakenX) hslot hx hnone htaken

/-- Another round leads to another boundary. -/
theorem AtBoundary.scan (hboundary : AtBoundary start numbers counter)
    (hmem : counter + 1 ∈ numbers) :
    AtBoundary start numbers (Gre2tun.scan counter numbers) := by
  intro i hfirst
  have hposition := scan_take_cases counter numbers numbers.length
  rw [List.take_length] at hposition
  rcases hposition with ⟨_, hnone⟩ | ⟨x, _, htaken, hslot, hnone⟩
  · obtain ⟨k, hk⟩ := List.mem_iff_getElem?.mp hmem
    exact absurd hk (hnone k (List.getElem?_eq_some_iff.mp hk).1)
  · refine .wrap _ x i (hboundary.hit_of_taken htaken) hslot (fun j hj hnext => ?_) hfirst
    exact hnone j hj (List.getElem?_eq_some_iff.mp hnext).1 hnext

theorem AtBoundary.skip (habsent : counter + 1 ∉ numbers) :
    AtBoundary start numbers (counter + 1) :=
  fun i hfirst => .gap _ i habsent hfirst

/-! ### One pass over the slots -/

abbrev sequences (packets : List ReorderBufferElement) : List (BitVec 32) :=
  packets.map ReorderBufferElement.sequence

theorem flushPass_sequenceFlushed (packets : List ReorderBufferElement) :
    ∀ counter, (flushPass counter packets).sequenceFlushed = scan counter (sequences packets) := by
  induction packets with
  | nil => intro counter; rfl
  | cons element rest ih =>
      intro counter
      by_cases hnext : element.sequence = counter + 1
      · rw [flushPass, if_pos hnext, sequences, List.map_cons, scan, if_pos hnext]
        exact ih (counter + 1)
      · rw [flushPass, if_neg hnext, sequences, List.map_cons, scan, if_neg hnext]
        exact ih counter

theorem flushPass_sequences (packets : List ReorderBufferElement) :
    ∀ counter, sequences (flushPass counter packets).packets = sequences packets := by
  induction packets with
  | nil => intro counter; rfl
  | cons element rest ih =>
      intro counter
      by_cases hnext : element.sequence = counter + 1
      · rw [flushPass, if_pos hnext, sequences, List.map_cons, sequences, List.map_cons]
        exact congrArg _ (ih (counter + 1))
      · rw [flushPass, if_neg hnext, sequences, List.map_cons, sequences, List.map_cons]
        exact congrArg _ (ih counter)

/-- A pass flushes the slots the scan takes and leaves the others alone. -/
theorem flushPass_getElem? (packets : List ReorderBufferElement) :
    ∀ (counter : BitVec 32) (i : Nat) (element : ReorderBufferElement),
      packets[i]? = some element →
      (Taken counter (sequences packets) i →
        (flushPass counter packets).packets[i]? = some element.flushed) ∧
      (¬ Taken counter (sequences packets) i →
        (flushPass counter packets).packets[i]? = some element) := by
  induction packets with
  | nil => simp
  | cons head rest ih =>
      intro counter i element hslot
      by_cases hnext : head.sequence = counter + 1
      · rw [flushPass, if_pos hnext]
        cases i with
        | zero =>
            obtain rfl := Option.some.inj hslot
            simp [Taken, scan, hnext]
        | succ i =>
            obtain ⟨htaken, hleft⟩ := ih (counter + 1) i element hslot
            have hiff : Taken counter (sequences (head :: rest)) (i + 1) ↔
                Taken (counter + 1) (sequences rest) i := by
              simp only [Taken, sequences, List.map_cons, List.take_succ_cons, scan, if_pos hnext,
                List.getElem?_cons_succ]
            rw [hiff]
            exact ⟨htaken, hleft⟩
      · rw [flushPass, if_neg hnext]
        cases i with
        | zero =>
            obtain rfl := Option.some.inj hslot
            simpa [Taken, scan] using fun hcontra => absurd hcontra hnext
        | succ i =>
            obtain ⟨htaken, hleft⟩ := ih counter i element hslot
            have hiff : Taken counter (sequences (head :: rest)) (i + 1) ↔
                Taken counter (sequences rest) i := by
              simp only [Taken, sequences, List.map_cons, List.take_succ_cons, scan, if_neg hnext,
                List.getElem?_cons_succ]
            rw [hiff]
            exact ⟨htaken, hleft⟩

/-- One round, seen from the numbers: a pass, and a skip when no slot carries the next one. -/
theorem flushRound_inl_cases {flushing next : Flushing}
    (hround : flushRound timeout now flushing = .inl next) :
    next.packets = (flushPass flushing.sequenceFlushed flushing.packets).packets ∧
      ((flushing.sequenceFlushed + 1 ∈ sequences flushing.packets ∧
          next.sequenceFlushed = scan flushing.sequenceFlushed (sequences flushing.packets)) ∨
        (flushing.sequenceFlushed + 1 ∉ sequences flushing.packets ∧
          next.sequenceFlushed = flushing.sequenceFlushed + 1 ∧
          ∃ held ∈ flushing.packets, Overdue timeout now held)) := by
  rcases flushRound_cases timeout now flushing with
    ⟨⟨element, hmem, hnext⟩, hflush⟩ | ⟨hmissing, held, hheld, hoverdue, hskip⟩ | ⟨_, hleave⟩
  · rw [hflush, Sum.inl.injEq] at hround
    subst hround
    exact ⟨rfl, Or.inl ⟨hnext ▸ List.mem_map_of_mem hmem, flushPass_sequenceFlushed _ _⟩⟩
  · rw [hskip, Sum.inl.injEq] at hround
    subst hround
    refine ⟨by rw [flushPass_of_missing hmissing], Or.inr ⟨?_, rfl, held, hheld, hoverdue⟩⟩
    rintro hmem
    obtain ⟨element, helement, hnext⟩ := List.mem_map.mp hmem
    exact hmissing element helement hnext
  · simp [hleave] at hround

/-! ### When the loops end, every overdue packet was hit -/

structure Untouched (start : BitVec 32) (packets : List ReorderBufferElement)
    (flushing : Flushing) : Prop where
  numbers : sequences flushing.packets = sequences packets
  boundary : AtBoundary start (sequences packets) flushing.sequenceFlushed
  slots : ∀ i element, packets[i]? = some element → ¬ Hit start (sequences packets) i →
    flushing.packets[i]? = some element

/-- A round leaves the slots alone that are not hit. -/
theorem Untouched.round {packets : List ReorderBufferElement} {flushing next : Flushing}
    (huntouched : Untouched start packets flushing)
    (hround : flushRound timeout now flushing = .inl next) : Untouched start packets next := by
  obtain ⟨hnumbers, hboundary, hslots⟩ := huntouched
  obtain ⟨hpackets, hcounter⟩ := flushRound_inl_cases hround
  rw [hnumbers] at hcounter
  refine ⟨by rw [hpackets, flushPass_sequences, hnumbers], ?_, ?_⟩
  · rcases hcounter with ⟨hmem, heq⟩ | ⟨habsent, heq, _⟩
    · rw [heq]
      exact hboundary.scan hmem
    · rw [heq]
      exact .skip habsent
  · intro i element hslot hhit
    rw [hpackets]
    refine (flushPass_getElem? _ _ i element (hslots i element hslot hhit)).2 fun htaken => hhit ?_
    rw [hnumbers] at htaken
    exact hboundary.hit_of_taken htaken

/-- Where the loops end, everything overdue has been hit. -/
theorem hit_of_halts {packets : List ReorderBufferElement} {events : List Event}
    (hhalts : Loop.Halts (flushRound timeout now) ⟨packets, start, events⟩) {i : Nat}
    {element : ReorderBufferElement} (hslot : packets[i]? = some element)
    (hoverdue : Overdue timeout now element) : Hit start (sequences packets) i := by
  obtain ⟨result, hreturns⟩ := hhalts
  have hend : Untouched start packets result ∧ Quiescent timeout now result := by
    refine hreturns.rule (Untouched start packets)
      (fun result => Untouched start packets result ∧ Quiescent timeout now result) ?_ ?_ ?_
    · intro state next huntouched hround
      exact huntouched.round hround
    · intro state final huntouched hround
      obtain ⟨rfl, hquiescent⟩ := flushRound_inr hround
      exact ⟨huntouched, hquiescent⟩
    · exact ⟨rfl, fun i hfirst => .first i hfirst, fun _ _ hslot _ => hslot⟩
  obtain ⟨huntouched, hquiescent⟩ := hend
  by_contra hhit
  have hstill := huntouched.slots i element hslot hhit
  exact hquiescent.notOverdue element (List.mem_of_getElem? hstill) hoverdue

/-! ### When every overdue packet is hit, the loops end -/

def lead (gap counter : BitVec 32) : Nat := (gap - 1 - counter).toNat

theorem lead_succ {gap : BitVec 32} (hne : counter + 1 ≠ gap) :
    lead gap (counter + 1) < lead gap counter := by
  rw [lead, lead]
  bv_omega

/-- A pass never runs past a missing number. -/
theorem lead_scan {gap : BitVec 32} (habsent : gap ∉ numbers) :
    ∀ counter, lead gap (scan counter numbers) ≤ lead gap counter ∧
      (counter + 1 ∈ numbers → lead gap (scan counter numbers) < lead gap counter) := by
  induction numbers with
  | nil => intro counter; exact ⟨le_refl _, by simp⟩
  | cons number rest ih =>
      intro counter
      rw [List.mem_cons, not_or] at habsent
      by_cases hnext : number = counter + 1
      · have hlt : lead gap (counter + 1) < lead gap counter :=
          lead_succ (hnext ▸ Ne.symm habsent.1)
        have hle := (ih habsent.2 (counter + 1)).1
        rw [scan, if_pos hnext]
        exact ⟨by omega, fun _ => by omega⟩
      · obtain ⟨hle, hlt⟩ := ih habsent.2 counter
        rw [scan, if_neg hnext]
        refine ⟨hle, fun hmem => hlt ?_⟩
        exact (List.mem_cons.mp hmem).resolve_left (Ne.symm hnext)

theorem exists_notMem (hlength : numbers.length < 2 ^ 32) : ∃ gap : BitVec 32, gap ∉ numbers := by
  by_contra! hall
  have hsub : Finset.range (2 ^ 32) ⊆ (numbers.map BitVec.toNat).toFinset := by
    intro value hvalue
    rw [List.mem_toFinset]
    refine List.mem_map.mpr ⟨BitVec.ofNat 32 value, hall _, ?_⟩
    rw [BitVec.toNat_ofNat, Nat.mod_eq_of_lt (Finset.mem_range.mp hvalue)]
  have hcard := (Finset.card_le_card hsub).trans (List.toFinset_card_le _)
  rw [Finset.card_range, List.length_map] at hcard
  omega

structure Endless (timeout now : Timeval) (start : BitVec 32) (numbers : List (BitVec 32))
    (rounds : Nat → Flushing) : Prop where
  counter_zero : (rounds 0).sequenceFlushed = start
  numbers_eq : ∀ k, sequences (rounds k).packets = numbers
  goes : ∀ k, flushRound timeout now (rounds k) = .inl (rounds (k + 1))

section Endless

variable {rounds : Nat → Flushing}

theorem Endless.counter_cases (hendless : Endless timeout now start numbers rounds) (k : Nat) :
    ((rounds k).sequenceFlushed + 1 ∈ numbers ∧
        (rounds (k + 1)).sequenceFlushed = scan (rounds k).sequenceFlushed numbers) ∨
      ((rounds k).sequenceFlushed + 1 ∉ numbers ∧
        (rounds (k + 1)).sequenceFlushed = (rounds k).sequenceFlushed + 1 ∧
        ∃ held ∈ (rounds k).packets, Overdue timeout now held) := by
  have hcounter := (flushRound_inl_cases (hendless.goes k)).2
  rwa [hendless.numbers_eq k] at hcounter

/-- The counter comes to every missing number between two rounds. -/
theorem Endless.reaches (hendless : Endless timeout now start numbers rounds) {gap : BitVec 32}
    (habsent : gap ∉ numbers) (k : Nat) : ∃ later, (rounds later).sequenceFlushed = gap := by
  induction hlead : lead gap (rounds k).sequenceFlushed using Nat.strong_induction_on
    generalizing k with
  | _ distance ih =>
      rcases hendless.counter_cases k with ⟨hmem, hscan⟩ | ⟨_, hskip, _⟩
      · refine ih _ ?_ (k + 1) rfl
        rw [hscan, ← hlead]
        exact (lead_scan habsent _).2 hmem
      · by_cases hgap : (rounds k).sequenceFlushed + 1 = gap
        · exact ⟨k + 1, hskip.trans hgap⟩
        · refine ih _ ?_ (k + 1) rfl
          rw [hskip, ← hlead]
          exact lead_succ hgap

theorem Endless.taken (hendless : Endless timeout now start numbers rounds) {i : Nat}
    (hhit : Hit start numbers i) : ∃ k, Taken (rounds k).sequenceFlushed numbers i := by
  induction hhit with
  | first i hfirst => exact ⟨0, .of_firstAt (by rwa [hendless.counter_zero])⟩
  | gap number i habsent hfirst =>
      obtain ⟨k, hk⟩ := hendless.reaches habsent 0
      exact ⟨k, .of_firstAt (by rwa [hk])⟩
  | next number x i _ hslot hlt hnone hnext ih =>
      obtain ⟨k, htaken⟩ := ih
      exact ⟨k, htaken.next hslot hlt hnone hnext⟩
  | wrap number x i _ hslot hnone hfirst ih =>
      obtain ⟨k, htaken⟩ := ih
      refine ⟨k + 1, .of_firstAt ?_⟩
      rcases hendless.counter_cases k with ⟨_, hscan⟩ | ⟨habsent, _⟩
      · rwa [hscan, htaken.scan_end hslot hnone]
      · exact absurd htaken.mem habsent

theorem Endless.slot (hendless : Endless timeout now start numbers rounds) {k i : Nat}
    {element : ReorderBufferElement} (hslot : (rounds k).packets[i]? = some element) :
    (Taken (rounds k).sequenceFlushed numbers i →
        (rounds (k + 1)).packets[i]? = some element.flushed) ∧
      (¬ Taken (rounds k).sequenceFlushed numbers i →
        (rounds (k + 1)).packets[i]? = some element) := by
  have hpass := flushPass_getElem? (rounds k).packets (rounds k).sequenceFlushed i element hslot
  rwa [← (flushRound_inl_cases (hendless.goes k)).1, hendless.numbers_eq k] at hpass

/-- A slot is what it was at the start, or flushed; and flushed it stays. -/
theorem Endless.slot_cases (hendless : Endless timeout now start numbers rounds) {i : Nat}
    {element : ReorderBufferElement} (hslot : (rounds 0).packets[i]? = some element) (k : Nat) :
    ((rounds k).packets[i]? = some element ∧
        ∀ j < k, ¬ Taken (rounds j).sequenceFlushed numbers i) ∨
      (rounds k).packets[i]? = some element.flushed := by
  induction k with
  | zero => exact Or.inl ⟨hslot, by simp⟩
  | succ k ih =>
      by_cases htaken : Taken (rounds k).sequenceFlushed numbers i
      · refine Or.inr ?_
        rcases ih with ⟨hk, _⟩ | hk
        · exact (hendless.slot hk).1 htaken
        · exact (hendless.slot hk).1 htaken
      · rcases ih with ⟨hk, hbefore⟩ | hk
        · refine Or.inl ⟨(hendless.slot hk).2 htaken, fun j hj => ?_⟩
          rcases Nat.lt_succ_iff_lt_or_eq.mp hj with hlt | rfl
          · exact hbefore j hlt
          · exact htaken
        · exact Or.inr ((hendless.slot hk).2 htaken)

/-- Rounds that are endless have an overdue packet in a slot that is never hit. -/
theorem Endless.exists_not_hit (hendless : Endless timeout now start numbers rounds)
    (hlength : numbers.length < 2 ^ 32) :
    ∃ i element, (rounds 0).packets[i]? = some element ∧ Overdue timeout now element ∧
      ¬ Hit start numbers i := by
  by_contra! hhit
  have htaken : ∀ i, ∃ k, Hit start numbers i → Taken (rounds k).sequenceFlushed numbers i := by
    intro i
    by_cases hi : Hit start numbers i
    · obtain ⟨k, hk⟩ := hendless.taken hi
      exact ⟨k, fun _ => hk⟩
    · exact ⟨0, fun hcontra => absurd hcontra hi⟩
  choose round hround using htaken
  -- from this round on every overdue packet has been taken
  set last := (Finset.range numbers.length).sup round + 1 with hlast
  have hnone : ∀ k, last ≤ k → ∀ held ∈ (rounds k).packets, ¬ Overdue timeout now held := by
    intro k hk held hheld hoverdue
    obtain ⟨i, hi⟩ := List.mem_iff_getElem?.mp hheld
    have hlengths : ∀ j, (rounds j).packets.length = numbers.length := by
      intro j
      rw [← hendless.numbers_eq j, List.length_map]
    have hbound : i < numbers.length := hlengths k ▸ (List.getElem?_eq_some_iff.mp hi).1
    obtain ⟨element, helement⟩ : ∃ element, (rounds 0).packets[i]? = some element :=
      ⟨_, List.getElem?_eq_getElem (by rwa [hlengths 0])⟩
    rcases hendless.slot_cases helement k with ⟨hsame, hbefore⟩ | hflushed
    · obtain rfl := Option.some.inj (hi.symm.trans hsame)
      have hi := hhit i held helement hoverdue
      have hle : round i ≤ (Finset.range numbers.length).sup round :=
        Finset.le_sup (Finset.mem_range.mpr hbound)
      exact hbefore (round i) (by omega) (hround i hi)
    · obtain rfl := Option.some.inj (hi.symm.trans hflushed)
      exact not_live_flushed element hoverdue.1
  -- but without a skip the counter cannot get past a missing number
  obtain ⟨gap, habsent⟩ := exists_notMem hlength
  refine not_strictAnti_of_wellFoundedLT
    (fun k => lead gap (rounds (last + k)).sequenceFlushed) (strictAnti_nat_of_succ_lt fun k => ?_)
  rcases hendless.counter_cases (last + k) with ⟨hmem, hscan⟩ | ⟨_, _, held, hheld, hoverdue⟩
  · simp only [← Nat.add_assoc, hscan]
    exact (lead_scan habsent _).2 hmem
  · exact absurd hoverdue (hnone _ (by omega) held hheld)

end Endless

/-- Where everything overdue is hit, the loops end. -/
theorem halts_of_hit {packets : List ReorderBufferElement} {events : List Event}
    (hlength : packets.length < 2 ^ 32)
    (hhit : ∀ i element, packets[i]? = some element → Overdue timeout now element →
      Hit start (sequences packets) i) :
    Loop.Halts (flushRound timeout now) ⟨packets, start, events⟩ := by
  by_contra hloop
  obtain ⟨rounds, hzero, hgoes⟩ := Loop.exists_rounds_of_not_halts hloop
  have hnumbers : ∀ k, sequences (rounds k).packets = sequences packets := by
    intro k
    induction k with
    | zero => rw [hzero]
    | succ k ih => rw [(flushRound_inl_cases (hgoes k)).1, flushPass_sequences, ih]
  have hendless : Endless timeout now start (sequences packets) rounds :=
    ⟨by rw [hzero], hnumbers, hgoes⟩
  obtain ⟨i, element, hslot, hoverdue, hnot⟩ :=
    hendless.exists_not_hit (by rwa [sequences, List.length_map])
  rw [hzero] at hslot
  exact hnot (hhit i element hslot hoverdue)

/-! ### Distinct numbers -/

theorem hit_of_nodup (hnodup : numbers.Nodup) {i : Nat} {number : BitVec 32}
    (hslot : numbers[i]? = some number) : Hit start numbers i := by
  have honly : ∀ {x y : Nat} {value : BitVec 32}, numbers[x]? = some value →
      numbers[y]? = some value → x = y := by
    intro x y value hx hy
    exact (List.getElem?_inj (List.getElem?_eq_some_iff.mp hx).1 hnodup).mp (hx.trans hy.symm)
  have hfirst : ∀ {x : Nat} {value : BitVec 32}, numbers[x]? = some value →
      FirstAt numbers value x :=
    fun hx => ⟨hx, fun j hj hother => absurd (honly hx hother) (by omega)⟩
  induction hdistance : (number - (start + 1)).toNat using Nat.strong_induction_on
    generalizing i number with
  | _ distance ih =>
      by_cases hnext : number = start + 1
      · exact .first i (hfirst (hnext ▸ hslot))
      · have hback : number - 1 + 1 = number := by bv_omega
        by_cases habsent : number - 1 ∈ numbers
        · obtain ⟨x, hx⟩ := List.mem_iff_getElem?.mp habsent
          have hhit := ih (number - 1 - (start + 1)).toNat (by bv_omega) hx rfl
          have hne : x ≠ i := by
            rintro rfl
            have := Option.some.inj (hx.symm.trans hslot)
            bv_omega
          rcases Nat.lt_or_gt_of_ne hne with hlt | hgt
          · refine .next _ x i hhit hx hlt (fun j _ hj hother => ?_) (by rwa [hback])
            rw [hback] at hother
            exact absurd (honly hslot hother) (by omega)
          · refine .wrap _ x i hhit hx (fun j hj hother => ?_) (by rw [hback]; exact hfirst hslot)
            rw [hback] at hother
            exact absurd (honly hslot hother) (by omega)
        · exact .gap _ i habsent (by rw [hback]; exact hfirst hslot)

theorem halts_of_nodup {packets : List ReorderBufferElement} {events : List Event}
    (hlength : packets.length < 2 ^ 32) (hnodup : (sequences packets).Nodup) :
    Loop.Halts (flushRound timeout now) ⟨packets, start, events⟩ := by
  refine halts_of_hit hlength fun i element hslot _ => ?_
  have hnumber : (sequences packets)[i]? = some element.sequence := by
    rw [sequences, List.getElem?_map, hslot, Option.map_some]
  exact hit_of_nodup hnodup hnumber

/-- **Termination.** The flush loops end if and only if every overdue packet sits in a slot that is
hit. -/
theorem flushRound_halts_iff {packets : List ReorderBufferElement} {events : List Event}
    (hlength : packets.length < 2 ^ 32) :
    Loop.Halts (flushRound timeout now) ⟨packets, start, events⟩ ↔
      ∀ i element, packets[i]? = some element → Overdue timeout now element →
        Hit start (sequences packets) i :=
  ⟨fun hhalts _ _ hslot hoverdue => hit_of_halts hhalts hslot hoverdue, halts_of_hit hlength⟩

/-- Packets 3 and 1 are held, both overdue: the loops skip 0 and 2 and write both. -/
theorem two_gaps_halt :
    Loop.Halts (flushRound ⟨0, 250000⟩ ⟨6, 0⟩)
      ⟨[numberedSlot 3 0, numberedSlot 1 1], BitVec.allOnes 32, []⟩ := by
  refine (flushRound_halts_iff (by decide)).mpr fun i element hslot _ => ?_
  have hnumber : (sequences [numberedSlot 3 0, numberedSlot 1 1])[i]? = some element.sequence := by
    rw [sequences, List.getElem?_map, hslot, Option.map_some]
  exact hit_of_nodup (by decide) hnumber

/-- The run 0, 2, 2: with packet 1 missing, the second 2 joins the first in the buffer. When both
have aged, the loops go round for ever: in each lap the pass takes the first of the two slots, and
the second stays live and overdue. -/
theorem duplicate_never_halts : ∃ history state,
    Run ⟨0, 250000⟩ (State.initial fun _ => 0) history state ∧
      history.map Prod.fst = [numbered 0, numbered 2, numbered 2] ∧
      ¬ Loop.Halts (flushRound ⟨0, 250000⟩ ⟨6, 0⟩) ⟨state.packets, state.sequenceFlushed, []⟩ := by
  have hzero := step_next rfl (receive_numbered (State.initial fun _ => 0) 0) (by decide)
  set bufferZero := (receive ⟨0, 250000⟩ (State.initial fun _ => 0) (numbered 0)).1
  have hone := step_held (receive_numbered ⟨bufferZero, [], 0, 1⟩ 2) rfl (by decide)
    ⟨by decide, by decide⟩ (by decide) (by decide)
  set bufferOne := (receive ⟨0, 250000⟩ ⟨bufferZero, [], 0, 1⟩ (numbered 2)).1
  have htwo := step_held (receive_numbered ⟨bufferOne, [numberedSlot 2 1], 0, 2⟩ 2) rfl (by decide)
    ⟨by decide, by decide⟩ (by decide) (by decide)
  refine ⟨_, _, .snoc (.snoc (.snoc .nil trivial hzero) trivial hone) trivial htwo, rfl, ?_⟩
  intro hhalts
  have hhit : Hit 0 [2, 2] 1 := hit_of_halts hhalts (i := 1) rfl (by decide)
  have hnotFirst : ∀ number, ¬ FirstAt [2, 2] number 1 := by
    intro number hfirst
    exact hfirst.none_before 0 (by omega) hfirst.slot
  cases hhit with
  | first _ hfirst => exact hnotFirst _ hfirst
  | gap number _ _ hfirst => exact hnotFirst _ hfirst
  | next number x _ _ hslot hlt _ hnext =>
      obtain rfl : x = 0 := by omega
      have hone := Option.some.inj hslot
      have htwo := Option.some.inj hnext
      rw [← hone] at htwo
      exact absurd htwo (by decide)
  | wrap number x _ _ _ _ hfirst => exact hnotFirst _ hfirst

end OpenHybrid.Gre2tun

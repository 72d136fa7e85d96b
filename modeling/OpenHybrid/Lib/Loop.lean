import Mathlib

/-!
# Loops that may not end

A loop is its body: one round either goes round again in a new state or leaves with a result. Run
with a number of rounds to spare it is an executable function; `Returns` and `Halts` forget the
number. A loop that does not halt has an infinite sequence of rounds, which is what a proof that it
must halt argues about.
-/

namespace Loop

variable {σ α : Type*}

/-- The loop, cut off after `rounds` rounds. -/
def run (body : σ → σ ⊕ α) : Nat → σ → Option α
  | 0, _ => none
  | rounds + 1, state =>
      match body state with
      | .inl next => run body rounds next
      | .inr result => some result

def Returns (body : σ → σ ⊕ α) (state : σ) (result : α) : Prop :=
  ∃ rounds, run body rounds state = some result

def Halts (body : σ → σ ⊕ α) (state : σ) : Prop := ∃ result, Returns body state result

variable {body : σ → σ ⊕ α} {state next : σ} {result : α}

theorem run_succ_of_inl (hbody : body state = .inl next) (rounds : Nat) :
    run body (rounds + 1) state = run body rounds next := by
  rw [run, hbody]

theorem run_succ_of_inr (hbody : body state = .inr result) (rounds : Nat) :
    run body (rounds + 1) state = some result := by
  rw [run, hbody]

theorem returns_of_inr (hbody : body state = .inr result) : Returns body state result :=
  ⟨1, run_succ_of_inr hbody 0⟩

theorem Returns.of_inl (hbody : body state = .inl next) (hnext : Returns body next result) :
    Returns body state result := by
  obtain ⟨rounds, hrun⟩ := hnext
  exact ⟨rounds + 1, (run_succ_of_inl hbody rounds).trans hrun⟩

theorem Returns.of_inl_inv (hreturns : Returns body state result) (hbody : body state = .inl next) :
    Returns body next result := by
  obtain ⟨rounds, hrun⟩ := hreturns
  cases rounds with
  | zero => simp [run] at hrun
  | succ rounds => exact ⟨rounds, (run_succ_of_inl hbody rounds).symm.trans hrun⟩

theorem Halts.of_inl (hbody : body state = .inl next) (hnext : Halts body next) :
    Halts body state := by
  obtain ⟨result, hresult⟩ := hnext
  exact ⟨result, hresult.of_inl hbody⟩

/-- Having rounds to spare does not change the result. -/
theorem run_mono {rounds more : Nat} (hle : rounds ≤ more) :
    ∀ {state : σ}, run body rounds state = some result → run body more state = some result := by
  induction rounds generalizing more with
  | zero => intro state hrun; simp [run] at hrun
  | succ rounds ih =>
      intro state hrun
      obtain ⟨more, rfl⟩ : ∃ k, more = k + 1 := ⟨more - 1, by omega⟩
      cases hbody : body state with
      | inl next =>
          rw [run_succ_of_inl hbody] at hrun ⊢
          exact ih (by omega) hrun
      | inr final =>
          rw [run_succ_of_inr hbody] at hrun ⊢
          exact hrun

/-- However many rounds it is given, the loop returns the same. -/
theorem Returns.unique {first second : α} (hfirst : Returns body state first)
    (hsecond : Returns body state second) : first = second := by
  obtain ⟨roundsFirst, hfirst⟩ := hfirst
  obtain ⟨roundsSecond, hsecond⟩ := hsecond
  have hone := run_mono (Nat.le_max_left roundsFirst roundsSecond) hfirst
  have htwo := run_mono (Nat.le_max_right roundsFirst roundsSecond) hsecond
  exact Option.some.inj (hone.symm.trans htwo)

/-- **The loop rule.** What every round preserves, and leaving turns into `post`, holds of the
result. -/
theorem Returns.rule (inv : σ → Prop) (post : α → Prop)
    (hround : ∀ state next, inv state → body state = .inl next → inv next)
    (hleave : ∀ state result, inv state → body state = .inr result → post result)
    (hreturns : Returns body state result) (hinv : inv state) : post result := by
  obtain ⟨rounds, hrun⟩ := hreturns
  induction rounds generalizing state with
  | zero => simp [run] at hrun
  | succ rounds ih =>
      cases hbody : body state with
      | inl next =>
          rw [run_succ_of_inl hbody] at hrun
          exact ih (hround state next hinv hbody) hrun
      | inr final =>
          rw [run_succ_of_inr hbody, Option.some.injEq] at hrun
          exact hrun ▸ hleave state final hinv hbody

/-- A measure that every round makes smaller bounds the number of rounds. -/
theorem run_of_measure (inv : σ → Prop) (measure : σ → Nat)
    (hround : ∀ state next, inv state → body state = .inl next →
      inv next ∧ measure next < measure state)
    (hinv : inv state) : ∃ result, run body (measure state + 1) state = some result := by
  induction hmeasure : measure state using Nat.strong_induction_on generalizing state with
  | _ bound ih =>
      cases hbody : body state with
      | inr final => exact ⟨final, run_succ_of_inr hbody _⟩
      | inl next =>
          obtain ⟨hnext, hcloser⟩ := hround state next hinv hbody
          obtain ⟨result, hresult⟩ := ih (measure next) (hmeasure ▸ hcloser) hnext rfl
          refine ⟨result, (run_succ_of_inl hbody _).trans ?_⟩
          exact run_mono (hmeasure ▸ hcloser) hresult

/-- A loop whose rounds lower a measure halts. -/
theorem halts_of_measure (inv : σ → Prop) (measure : σ → Nat)
    (hround : ∀ state next, inv state → body state = .inl next →
      inv next ∧ measure next < measure state)
    (hinv : inv state) : Halts body state := by
  obtain ⟨result, hrun⟩ := run_of_measure inv measure hround hinv
  exact ⟨result, _, hrun⟩

/-- **Lockstep.** Two loops whose rounds go the same way have the same result. -/
theorem run_lockstep {τ β : Type*} {other : τ → τ ⊕ β} (view : σ → τ) (see : α → β)
    (inv : σ → Prop) (hround : ∀ state next, inv state → body state = .inl next → inv next)
    (hother : ∀ state, inv state → other (view state) = Sum.map view see (body state))
    (rounds : Nat) :
    ∀ {state : σ}, inv state → run other rounds (view state) = (run body rounds state).map see := by
  induction rounds with
  | zero => intro state _; rfl
  | succ rounds ih =>
      intro state hinv
      have hstep := hother state hinv
      cases hbody : body state with
      | inl next =>
          rw [hbody] at hstep
          rw [run_succ_of_inl hbody, run_succ_of_inl hstep]
          exact ih (hround state next hinv hbody)
      | inr final =>
          rw [hbody] at hstep
          rw [run_succ_of_inr hbody, run_succ_of_inr hstep]
          rfl

/-- A loop halts when it can always take one more round only finitely often. -/
theorem exists_rounds_of_not_halts (hloop : ¬ Halts body state) :
    ∃ rounds : Nat → σ, rounds 0 = state ∧ ∀ n, body (rounds n) = .inl (rounds (n + 1)) := by
  have hgo : ∀ s : {s : σ // ¬ Halts body s}, ∃ t : {t : σ // ¬ Halts body t},
      body s.1 = .inl t.1 := by
    rintro ⟨s, hs⟩
    cases hbody : body s with
    | inl next => exact ⟨⟨next, fun hnext => hs (hnext.of_inl hbody)⟩, rfl⟩
    | inr final => exact absurd ⟨final, returns_of_inr hbody⟩ hs
  choose go hgo using hgo
  refine ⟨fun n => (go^[n] ⟨state, hloop⟩).1, rfl, fun n => ?_⟩
  simp only [Function.iterate_succ_apply']
  exact hgo _

end Loop

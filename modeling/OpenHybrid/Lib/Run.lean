import Mathlib

/-!
# Runs of a labelled transition system

A system takes an input, produces an output and changes state. A run is the list of its inputs and
outputs, oldest first. `RunWhere` also asks a guard of every step: a condition on the history so
far, the state before the step and its input.
-/

namespace Transition

variable {σ ι ω : Type*}

/-- What a run has taken in and put out, oldest first. -/
abbrev History (ι ω : Type*) := List (ι × ω)

/-- The runs of `step` from `start` in which every step meets `guard`. -/
inductive RunWhere (step : σ → ι → ω → σ → Prop) (guard : History ι ω → σ → ι → Prop) (start : σ) :
    History ι ω → σ → Prop
  | nil : RunWhere step guard start [] start
  | snoc {history : History ι ω} {state next : σ} {input : ι} {output : ω} :
      RunWhere step guard start history state → guard history state input →
      step state input output next →
      RunWhere step guard start (history ++ [(input, output)]) next

abbrev Run (step : σ → ι → ω → σ → Prop) (start : σ) : History ι ω → σ → Prop :=
  RunWhere step (fun _ _ _ => True) start

variable {step : σ → ι → ω → σ → Prop} {guard : History ι ω → σ → ι → Prop} {start state : σ}
  {history : History ι ω}

theorem RunWhere.mono {weaker : History ι ω → σ → ι → Prop}
    (hguard : ∀ history state input, guard history state input → weaker history state input)
    (hrun : RunWhere step guard start history state) :
    RunWhere step weaker start history state := by
  induction hrun with
  | nil => exact .nil
  | snoc _ hmeets hstep ih => exact .snoc ih (hguard _ _ _ hmeets) hstep

theorem RunWhere.run (hrun : RunWhere step guard start history state) :
    Run step start history state := hrun.mono fun _ _ _ _ => trivial

theorem RunWhere.of_snoc {next : σ} {input : ι} {output : ω}
    (hrun : RunWhere step guard start (history ++ [(input, output)]) next) :
    ∃ state, RunWhere step guard start history state ∧ guard history state input ∧
      step state input output next := by
  generalize hwhole : history ++ [(input, output)] = whole at hrun
  cases hrun with
  | nil => simp at hwhole
  | @snoc before state next' input' output' hbefore hmeets hstep =>
      obtain ⟨rfl, hlast⟩ := List.append_inj' hwhole rfl
      obtain ⟨rfl, rfl⟩ := Prod.mk.inj (List.singleton_injective hlast)
      exact ⟨state, hbefore, hmeets, hstep⟩

/-- Every beginning of a run is one. -/
theorem RunWhere.of_append {more : History ι ω}
    (hrun : RunWhere step guard start (history ++ more) state) :
    ∃ earlier, RunWhere step guard start history earlier := by
  induction more using List.reverseRecOn generalizing state with
  | nil => exact ⟨state, by rwa [List.append_nil] at hrun⟩
  | append_singleton more last ih =>
      rw [← List.append_assoc] at hrun
      obtain ⟨earlier, hearlier, -⟩ := hrun.of_snoc
      exact ih hearlier

/-- **The invariant rule.** What holds at the start and survives every step that meets the guard
holds along the run. -/
theorem RunWhere.invariant (inv : History ι ω → σ → Prop) (hstart : inv [] start)
    (hpreserves : ∀ history state input output next, inv history state →
      guard history state input → step state input output next →
      inv (history ++ [(input, output)]) next)
    (hrun : RunWhere step guard start history state) : inv history state := by
  induction hrun with
  | nil => exact hstart
  | snoc _ hmeets hstep ih => exact hpreserves _ _ _ _ _ ih hmeets hstep

/-- A deterministic system has at most one run on given inputs. -/
theorem RunWhere.unique
    (hdeterministic : ∀ state input first next second other, step state input first next →
      step state input second other → first = second ∧ next = other)
    {left right : History ι ω} {leftState rightState : σ}
    (hleft : RunWhere step guard start left leftState)
    (hright : RunWhere step guard start right rightState)
    (hinputs : left.map Prod.fst = right.map Prod.fst) :
    left = right ∧ leftState = rightState := by
  induction hleft generalizing right rightState with
  | nil =>
      cases hright with
      | nil => exact ⟨rfl, rfl⟩
      | snoc hrun hmeets hstep => simp at hinputs
  | snoc hrun hmeets hstep ih =>
      cases hright with
      | nil => simp at hinputs
      | snoc hother hotherMeets hotherStep =>
          simp only [List.map_append, List.map_cons, List.map_nil] at hinputs
          obtain ⟨hbefore, hlast⟩ := List.append_inj' hinputs rfl
          obtain ⟨rfl, rfl⟩ := ih hother hbefore
          obtain rfl := List.singleton_injective hlast
          obtain ⟨rfl, rfl⟩ := hdeterministic _ _ _ _ _ _ hstep hotherStep
          exact ⟨rfl, rfl⟩

/-- What a system takes in and puts out when each input decides its output and the next state. -/
def replay (next : σ → ι → σ) (out : σ → ι → ω) : σ → List ι → History ι ω
  | _, [] => []
  | state, input :: rest => (input, out state input) :: replay next out (next state input) rest

def Meets (next : σ → ι → σ) (out : σ → ι → ω) (guard : History ι ω → σ → ι → Prop) :
    History ι ω → σ → List ι → Prop
  | _, _, [] => True
  | history, state, input :: rest =>
      guard history state input ∧
        Meets next out guard (history ++ [(input, out state input)]) (next state input) rest

instance Meets.decidable {next : σ → ι → σ} {out : σ → ι → ω} [∀ history state input,
    Decidable (guard history state input)] : ∀ history state inputs,
    Decidable (Meets next out guard history state inputs)
  | _, _, [] => isTrue trivial
  | _, _, _ :: rest => @instDecidableAnd _ _ _ (Meets.decidable _ _ rest)

theorem Meets.mono {next : σ → ι → σ} {out : σ → ι → ω} {inputs : List ι}
    {weaker : History ι ω → σ → ι → Prop}
    (hguard : ∀ history state input, guard history state input → weaker history state input)
    (hmeets : Meets next out guard history state inputs) :
    Meets next out weaker history state inputs := by
  induction inputs generalizing history state with
  | nil => exact trivial
  | cons input rest ih => exact ⟨hguard _ _ _ hmeets.1, ih hmeets.2⟩

/-- **The replay rule.** -/
theorem RunWhere.replay {next : σ → ι → σ} {out : σ → ι → ω} {inputs : List ι}
    (hrun : RunWhere step guard start history state)
    (hsteps : Meets next out (fun _ state input => step state input (out state input)
      (next state input)) history state inputs)
    (hguard : Meets next out guard history state inputs) :
    RunWhere step guard start (history ++ replay next out state inputs)
      (inputs.foldl next state) := by
  induction inputs generalizing history state with
  | nil => rwa [Transition.replay, List.append_nil]
  | cons input rest ih =>
      rw [Transition.replay, List.append_cons]
      exact ih (.snoc hrun hguard.1 hsteps.1) hsteps.2 hguard.2

/-- Two systems side by side, step by step. -/
def Both {σ' ι' ω' : Type*} (step : σ → ι → ω → σ → Prop) (other : σ' → ι' → ω' → σ' → Prop) :
    σ × σ' → ι × ι' → ω × ω' → σ × σ' → Prop :=
  fun states inputs outputs nexts =>
    step states.1 inputs.1 outputs.1 nexts.1 ∧ other states.2 inputs.2 outputs.2 nexts.2

def outputs {ε : Type*} (history : History ι (List ε)) : List ε := history.flatMap Prod.snd

@[simp]
theorem outputs_nil {ε : Type*} : outputs ([] : History ι (List ε)) = [] := rfl

@[simp]
theorem outputs_append {ε : Type*} (before after : History ι (List ε)) :
    outputs (before ++ after) = outputs before ++ outputs after := by
  simp [outputs]

@[simp]
theorem outputs_singleton {ε : Type*} (input : ι) (output : List ε) :
    outputs [(input, output)] = output := by
  simp [outputs]

end Transition

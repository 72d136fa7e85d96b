import Mathlib

/-!
# Frames

A state is seen through a family of views. An action has a footprint, the views it may change, and
a schedule runs actions one after the other until the state says it is done. What a view shows is
what it showed before the last action whose footprint it is in.
-/

namespace Frame

variable {σ ι τ : Type*} {Value : ι → Type*} (view : (i : ι) → σ → Value i)

/-! ### Footprints -/

/-- Nothing outside the footprint has changed. -/
def Within (footprint : List ι) (before after : σ) : Prop :=
  ∀ i ∉ footprint, view i after = view i before

/-- Nothing in the support has changed. -/
def Agree (support : List ι) (before after : σ) : Prop :=
  ∀ i ∈ support, view i after = view i before

variable {view}

theorem Within.refl (footprint : List ι) (state : σ) : Within view footprint state state :=
  fun _ _ => rfl

theorem Within.trans {footprint : List ι} {before middle after : σ}
    (hfirst : Within view footprint before middle)
    (hsecond : Within view footprint middle after) : Within view footprint before after :=
  fun i hi => (hsecond i hi).trans (hfirst i hi)

theorem Within.mono {short long : List ι} {before after : σ} (hsubset : short ⊆ long)
    (hwithin : Within view short before after) : Within view long before after :=
  fun i hi => hwithin i fun hmem => hi (hsubset hmem)

theorem Agree.refl (support : List ι) (state : σ) : Agree view support state state :=
  fun _ _ => rfl

theorem Agree.trans {support : List ι} {before middle after : σ}
    (hfirst : Agree view support before middle) (hsecond : Agree view support middle after) :
    Agree view support before after :=
  fun i hi => (hsecond i hi).trans (hfirst i hi)

/-- What lies outside the footprint is still the same. -/
theorem Within.agree {footprint support : List ι} {before after : σ}
    (hwithin : Within view footprint before after) (hdisjoint : ∀ i ∈ support, i ∉ footprint) :
    Agree view support before after :=
  fun i hi => hwithin i (hdisjoint i hi)

/-! ### Schedules -/

variable (run : τ → σ → σ) (done : σ → Bool)

def perform (action : τ) (state : σ) : σ := if done state then state else run action state

def runUntil : List τ → σ → σ
  | [], state => state
  | action :: rest, state => if done state then state else runUntil rest (run action state)

variable {run done}

theorem runUntil_of_done {state : σ} (hdone : done state = true) (schedule : List τ) :
    runUntil run done schedule state = state := by
  cases schedule with
  | nil => rfl
  | cons action rest => rw [runUntil, if_pos hdone]

theorem runUntil_cons (action : τ) (rest : List τ) (state : σ) :
    runUntil run done (action :: rest) state =
      runUntil run done rest (perform run done action state) := by
  unfold perform
  rw [runUntil]
  split
  · rename_i hdone
    exact (runUntil_of_done hdone rest).symm
  · rfl

theorem runUntil_append (first second : List τ) (state : σ) :
    runUntil run done (first ++ second) state =
      runUntil run done second (runUntil run done first state) := by
  induction first generalizing state with
  | nil => rfl
  | cons action rest ih => rw [List.cons_append, runUntil_cons, runUntil_cons, ih]

/-- Actions that leave the support alone leave it alone one after the other. -/
theorem agree_runUntil {footprint : τ → List ι} {support : List ι}
    (hwithin : ∀ action state, Within view (footprint action) state (run action state))
    (schedule : List τ) (hdisjoint : ∀ action ∈ schedule, ∀ i ∈ support, i ∉ footprint action)
    (state : σ) : Agree view support state (runUntil run done schedule state) := by
  induction schedule generalizing state with
  | nil => exact Agree.refl support state
  | cons action rest ih =>
      have hrest := ih fun other hother => hdisjoint other (List.mem_cons_of_mem _ hother)
      rw [runUntil]
      split
      · exact Agree.refl support state
      · exact ((hwithin action state).agree (hdisjoint action List.mem_cons_self)).trans
          (hrest (run action state))

/-- What every action keeps is kept by all of them. -/
theorem runUntil_preserves (inv : σ → Prop) {schedule : List τ} {state : σ} (hstart : inv state)
    (hkeeps : ∀ action state, inv state → inv (run action state)) :
    inv (runUntil run done schedule state) := by
  induction schedule generalizing state with
  | nil => exact hstart
  | cons action rest ih =>
      rw [runUntil]
      split
      · exact hstart
      · exact ih (hkeeps action state hstart)

/-! ### Places in a schedule -/

variable [DecidableEq τ] (run done)

/-- The state in front of an action of a schedule. -/
def reaching (schedule : List τ) (action : τ) (state : σ) : σ :=
  runUntil run done (schedule.takeWhile (· ≠ action)) state

def leaving (schedule : List τ) (action : τ) (state : σ) : σ :=
  perform run done action (reaching run done schedule action state)

def between (schedule : List τ) (first second : τ) : List τ :=
  ((schedule.dropWhile (· ≠ first)).tail).takeWhile (· ≠ second)

variable {run done} {schedule : List τ}

/-- What the actions in front of an action leave alone. -/
theorem agree_reaching {footprint : τ → List ι} {support : List ι} {action : τ}
    (hwithin : ∀ action state, Within view (footprint action) state (run action state))
    (hdisjoint : ∀ other ∈ schedule.takeWhile (· ≠ action), ∀ i ∈ support, i ∉ footprint other)
    (state : σ) : Agree view support state (reaching run done schedule action state) :=
  agree_runUntil hwithin _ hdisjoint state

/-- Between two actions nothing changes that no action between them touches. -/
theorem agree_between {footprint : τ → List ι} {support : List ι} {first second : τ}
    (hwithin : ∀ action state, Within view (footprint action) state (run action state))
    (hplaces : schedule.takeWhile (· ≠ second) =
      schedule.takeWhile (· ≠ first) ++ first :: between schedule first second)
    (hdisjoint : ∀ other ∈ between schedule first second, ∀ i ∈ support, i ∉ footprint other)
    (state : σ) :
    Agree view support (leaving run done schedule first state)
      (reaching run done schedule second state) := by
  rw [reaching, hplaces, runUntil_append, runUntil_cons]
  exact agree_runUntil hwithin _ hdisjoint _

theorem agree_leaving {footprint : τ → List ι} {support : List ι} {action : τ}
    (hwithin : ∀ action state, Within view (footprint action) state (run action state))
    (hplace : schedule =
      schedule.takeWhile (· ≠ action) ++ action :: (schedule.dropWhile (· ≠ action)).tail)
    (hdisjoint : ∀ other ∈ (schedule.dropWhile (· ≠ action)).tail, ∀ i ∈ support,
      i ∉ footprint other) (state : σ) :
    Agree view support (leaving run done schedule action state)
      (runUntil run done schedule state) := by
  have hsplit : runUntil run done schedule state =
      runUntil run done (schedule.dropWhile (· ≠ action)).tail
        (leaving run done schedule action state) := by
    conv_lhs => rw [hplace, runUntil_append, runUntil_cons]
    rfl
  rw [hsplit]
  exact agree_runUntil hwithin _ hdisjoint _

/-- From an action on nothing changes that neither it nor a later one touches. -/
theorem agree_from {footprint : τ → List ι} {support : List ι} {action : τ}
    (hwithin : ∀ action state, Within view (footprint action) state (run action state))
    (hdisjoint : ∀ other ∈ schedule.dropWhile (· ≠ action), ∀ i ∈ support, i ∉ footprint other)
    (state : σ) :
    Agree view support (reaching run done schedule action state)
      (runUntil run done schedule state) := by
  have hsplit : runUntil run done schedule state =
      runUntil run done (schedule.dropWhile (· ≠ action))
        (reaching run done schedule action state) := by
    rw [reaching, ← runUntil_append, List.takeWhile_append_dropWhile]
  rw [hsplit]
  exact agree_runUntil hwithin _ hdisjoint _

theorem leaving_of_not_done {action : τ} {state : σ}
    (hdone : done (reaching run done schedule action state) = false) :
    leaving run done schedule action state =
      run action (reaching run done schedule action state) := by
  rw [leaving, perform, hdone]
  rfl

theorem leaving_of_done {action : τ} {state : σ}
    (hdone : done (reaching run done schedule action state) = true) :
    leaving run done schedule action state = reaching run done schedule action state := by
  rw [leaving, perform, hdone]
  rfl

/-- Behind an action that leaves the state done nothing runs. -/
theorem runUntil_of_leaving_done {action : τ} {rest : List τ} {state : σ}
    (hplace : schedule = schedule.takeWhile (· ≠ action) ++ action :: rest)
    (hdone : done (leaving run done schedule action state) = true) :
    runUntil run done schedule state = leaving run done schedule action state :=
  calc
    runUntil run done schedule state =
        runUntil run done (schedule.takeWhile (· ≠ action) ++ action :: rest) state :=
      congrArg (runUntil run done · state) hplace
    _ = runUntil run done rest (leaving run done schedule action state) := by
      rw [runUntil_append, runUntil_cons]
      rfl
    _ = leaving run done schedule action state := runUntil_of_done hdone rest

/-- An action that is left out keeps everything. -/
theorem leaving_invariant (inv : σ → Prop) {action : τ} {state : σ}
    (hbefore : inv (reaching run done schedule action state))
    (hkeeps : done (reaching run done schedule action state) = false →
      inv (run action (reaching run done schedule action state))) :
    inv (leaving run done schedule action state) := by
  cases hdone : done (reaching run done schedule action state) with
  | true => rwa [leaving_of_done hdone]
  | false =>
      rw [leaving_of_not_done hdone]
      exact hkeeps hdone

/-! ### One action after the other -/

/-- In a schedule without repetitions each place is known by its action. -/
theorem reaching_of_split {first rest : List τ} {action : τ} (state : σ)
    (hnodup : schedule.Nodup) (hsplit : schedule = first ++ action :: rest) :
    reaching run done schedule action state = runUntil run done first state := by
  subst hsplit
  have hnew : ∀ other ∈ first, (decide (other ≠ action)) = true := by
    intro other hother
    rw [decide_eq_true_eq]
    rintro rfl
    exact (List.nodup_append.mp hnodup).2.2 other hother other List.mem_cons_self rfl
  have hfront : (first ++ action :: rest).takeWhile (· ≠ action) = first := by
    rw [List.takeWhile_append_of_pos hnew, List.takeWhile_cons_of_neg (by simp), List.append_nil]
  rw [reaching, hfront]

theorem leaving_of_split {first rest : List τ} {action : τ} (state : σ)
    (hnodup : schedule.Nodup) (hsplit : schedule = first ++ action :: rest) :
    leaving run done schedule action state = runUntil run done (first ++ [action]) state := by
  rw [leaving, reaching_of_split state hnodup hsplit, runUntil_append, runUntil_cons]
  rfl

/-- What holds at the start and is kept by every action in its place holds behind a part of the
schedule. -/
theorem runUntil_invariant (inv : σ → Prop) {first rest : List τ} {state : σ}
    (hnodup : schedule.Nodup) (hsplit : schedule = first ++ rest) (hstart : inv state)
    (hkeeps : ∀ action ∈ first, inv (reaching run done schedule action state) →
      inv (leaving run done schedule action state)) :
    inv (runUntil run done first state) := by
  induction first using List.reverseRecOn generalizing rest with
  | nil => exact hstart
  | append_singleton first action ih =>
      rw [List.append_assoc] at hsplit
      have hbefore := ih hsplit fun other hother =>
        hkeeps other (List.mem_append_left [action] hother)
      rw [← leaving_of_split state hnodup hsplit]
      refine hkeeps action (by simp) ?_
      rw [reaching_of_split state hnodup hsplit]
      exact hbefore

/-- An invariant that the actions in front of `last` keep holds where `last` begins. -/
theorem reaching_invariant (inv : σ → Prop) {last : τ} {state : σ} (hnodup : schedule.Nodup)
    (hstart : inv state)
    (hkeeps : ∀ action ∈ schedule.takeWhile (· ≠ last),
      inv (reaching run done schedule action state) →
        inv (leaving run done schedule action state)) :
    inv (reaching run done schedule last state) :=
  runUntil_invariant inv hnodup List.takeWhile_append_dropWhile.symm hstart hkeeps

/-- What is collected in front of an action is what the actions before it emit, in order. -/
theorem collected_reaching {ε : Type*} (collected : σ → List ε) (emitted : τ → List ε) {last : τ}
    {state : σ} (hnodup : schedule.Nodup)
    (hemits : ∀ action ∈ schedule.takeWhile (· ≠ last),
      collected (leaving run done schedule action state) =
        collected (reaching run done schedule action state) ++ emitted action) :
    collected (reaching run done schedule last state) =
      collected state ++ (schedule.takeWhile (· ≠ last)).flatMap emitted := by
  have hsplit : schedule =
      schedule.takeWhile (· ≠ last) ++ schedule.dropWhile (· ≠ last) :=
    List.takeWhile_append_dropWhile.symm
  unfold reaching
  generalize schedule.takeWhile (· ≠ last) = first at hsplit hemits ⊢
  generalize schedule.dropWhile (· ≠ last) = rest at hsplit
  induction first using List.reverseRecOn generalizing rest with
  | nil => exact (List.append_nil _).symm
  | append_singleton first action ih =>
      rw [List.append_assoc] at hsplit
      have hbefore := ih (fun other hother => hemits other (List.mem_append_left [action] hother))
        _ hsplit
      rw [← leaving_of_split state hnodup hsplit, hemits action (by simp),
        reaching_of_split state hnodup hsplit, hbefore, List.flatMap_append, List.append_assoc,
        List.flatMap_singleton]

end Frame

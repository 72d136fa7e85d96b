import Mathlib

/-!
# Monitors

A monitor follows a trace with a state of its own and says of every event whether it is allowed
there. A trace is accepted when all of its events are.
-/

namespace Monitor

variable {σ ε : Type*} {follow : σ → ε → σ} {allowed : σ → ε → Prop}

/-- Every event is allowed where it happens. -/
def Accepts (follow : σ → ε → σ) (allowed : σ → ε → Prop) : σ → List ε → Prop
  | _, [] => True
  | state, event :: rest => allowed state event ∧ Accepts follow allowed (follow state event) rest

theorem accepts_append {state : σ} {before after : List ε} :
    Accepts follow allowed state (before ++ after) ↔
      Accepts follow allowed state before ∧
        Accepts follow allowed (before.foldl follow state) after := by
  induction before generalizing state with
  | nil => exact (and_iff_right trivial).symm
  | cons event rest ih =>
      rw [List.cons_append, Accepts, Accepts, ih, List.foldl_cons, and_assoc]

theorem Accepts.snoc {state : σ} {trace : List ε} {event : ε}
    (haccepts : Accepts follow allowed state trace)
    (hallowed : allowed (trace.foldl follow state) event) :
    Accepts follow allowed state (trace ++ [event]) :=
  accepts_append.mpr ⟨haccepts, hallowed, trivial⟩

variable {relevant : ε → Bool}

/-- Events that a monitor ignores do not change its state. -/
theorem foldl_filter_relevant
    (hignores : ∀ state event, relevant event = false → follow state event = state)
    (trace : List ε) (state : σ) :
    (trace.filter relevant).foldl follow state = trace.foldl follow state := by
  induction trace generalizing state with
  | nil => rfl
  | cons event rest ih =>
      cases hrelevant : relevant event with
      | true => rw [List.filter_cons_of_pos hrelevant, List.foldl_cons, List.foldl_cons, ih]
      | false =>
          rw [List.filter_cons_of_neg (by rw [hrelevant]; exact Bool.false_ne_true), ih,
            List.foldl_cons, hignores state event hrelevant]

/-- They do not decide whether a trace is accepted either. -/
theorem accepts_filter
    (hignores : ∀ state event, relevant event = false → follow state event = state)
    (hallows : ∀ state event, relevant event = false → allowed state event)
    {trace : List ε} {state : σ} :
    Accepts follow allowed state (trace.filter relevant) ↔ Accepts follow allowed state trace := by
  induction trace generalizing state with
  | nil => exact Iff.rfl
  | cons event rest ih =>
      cases hrelevant : relevant event with
      | true => rw [List.filter_cons_of_pos hrelevant, Accepts, Accepts, ih]
      | false =>
          rw [List.filter_cons_of_neg (by rw [hrelevant]; exact Bool.false_ne_true), ih, Accepts,
            hignores state event hrelevant]
          exact (and_iff_right (hallows state event hrelevant)).symm

end Monitor

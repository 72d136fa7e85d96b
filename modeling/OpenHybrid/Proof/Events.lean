import OpenHybrid.Lib.Alternate
import OpenHybrid.Lib.Monitor
import OpenHybrid.Proof.Establishment

/-!
# Events along a run

The event script hears of devices and leases in pairs: something went up, something went down. What
it has heard of one pair is read off the effects of all iterations.
-/

namespace OpenHybrid

open ByteMemory Frame Transition Alternation

variable {up down : EventName} {isUp : Bool} {past : List Effect} {process other : Process}

theorem effects_triggerEvent (name : EventName) (process : Process) :
    (triggerEvent name process).effects =
      process.effects ++ if process.runtime.scripted then [.event name] else [] := by
  unfold triggerEvent Runtime.scripted
  by_cases hnone : process.runtime.eventScriptPath 0 = 0
  · rw [if_pos hnone, decide_eq_false (not_not.mpr hnone)]
    exact (List.append_nil _).symm
  · rw [if_neg hnone, decide_eq_true hnone]
    rfl

theorem runtime_triggerEvent (name : EventName) (process : Process) :
    (triggerEvent name process).runtime = process.runtime := by
  unfold triggerEvent
  split <;> rfl

theorem scripted_congr {runtime other : Runtime} (hsettings : runtime.settings = other.settings) :
    runtime.scripted = other.scripted := by
  have hpath : runtime.eventScriptPath = other.eventScriptPath :=
    congrArg Settings.eventScriptPath hsettings
  unfold Runtime.scripted
  rw [hpath]

/-- A fold that looks at the effects of one kind only. -/
theorem foldl_ofKind {β : Type*} {kind : Kind} {follow : β → Effect → β}
    (hother : ∀ before effect, effect.kind ≠ kind → follow before effect = before)
    (effects : List Effect) (before : β) :
    (ofKind kind effects).foldl follow before = effects.foldl follow before := by
  refine Monitor.foldl_filter_relevant (fun before effect hirrelevant => ?_) effects before
  exact hother before effect (of_decide_eq_false hirrelevant)

def eventsOf (up down : EventName) (effects : List Effect) : List Effect :=
  effects.filter fun effect => effect = .event up ∨ effect = .event down

theorem eventsOf_append (up down : EventName) (before after : List Effect) :
    eventsOf up down (before ++ after) = eventsOf up down before ++ eventsOf up down after :=
  List.filter_append ..

theorem eventsOf_up (up down : EventName) : eventsOf up down [.event up] = [.event up] := by
  simp [eventsOf]

theorem eventsOf_down (up down : EventName) :
    eventsOf up down [.event down] = [.event down] := by
  simp [eventsOf]

theorem eventsOf_ofKind {kind : Kind} (hup : (Effect.event up).kind = kind)
    (hdown : (Effect.event down).kind = kind) (effects : List Effect) :
    eventsOf up down (ofKind kind effects) = eventsOf up down effects := by
  unfold eventsOf ofKind
  rw [List.filter_filter]
  congr 1
  funext effect
  rw [Bool.and_eq_left_iff_imp]
  intro hevent
  rw [decide_eq_true_eq] at hevent ⊢
  rcases hevent with rfl | rfl
  · exact hup
  · exact hdown

/-- The events so far alternate and the last one says whether it is up, if a script is there to hear
them. -/
def Announced (up down : EventName) (isUp : Bool) (past : List Effect) (process : Process) : Prop :=
  InStep (.event up) (.event down) (process.runtime.scripted && isUp)
    (eventsOf up down (past ++ process.effects))

theorem Announced.alternates (hannounced : Announced up down isUp past process) :
    Alternates (.event up) (.event down) (eventsOf up down (past ++ process.effects)) :=
  InStep.alternates hannounced

theorem Announced.goUp (hannounced : Announced up down false past process) :
    Announced up down true past (triggerEvent up process) := by
  unfold Announced at hannounced ⊢
  rw [runtime_triggerEvent, effects_triggerEvent, ← List.append_assoc, eventsOf_append,
    Bool.and_true]
  rw [Bool.and_false] at hannounced
  cases process.runtime.scripted with
  | false => exact (List.append_nil _).symm ▸ hannounced
  | true =>
      rw [if_pos rfl, eventsOf_up]
      exact hannounced.goUp

theorem Announced.goDown (hannounced : Announced up down true past process) :
    Announced up down false past (triggerEvent down process) := by
  unfold Announced at hannounced ⊢
  rw [runtime_triggerEvent, effects_triggerEvent, ← List.append_assoc, eventsOf_append,
    Bool.and_false]
  rw [Bool.and_true] at hannounced
  cases hscripted : process.runtime.scripted with
  | false =>
      rw [hscripted] at hannounced
      exact (List.append_nil _).symm ▸ hannounced
  | true =>
      rw [hscripted] at hannounced
      rw [if_pos rfl, eventsOf_down]
      exact hannounced.goDown

theorem eventsOf_congr {kind : Kind} (hup : (Effect.event up).kind = kind)
    (hdown : (Effect.event down).kind = kind)
    (heffects : ofKind kind other.effects = ofKind kind process.effects) :
    eventsOf up down (past ++ other.effects) = eventsOf up down (past ++ process.effects) := by
  rw [eventsOf_append, eventsOf_append, ← eventsOf_ofKind hup hdown other.effects, heffects,
    eventsOf_ofKind hup hdown]

/-- A block that says nothing and leaves the settings alone keeps what was announced. -/
theorem Announced.congr {kind : Kind} (hup : (Effect.event up).kind = kind)
    (hdown : (Effect.event down).kind = kind) (hannounced : Announced up down isUp past process)
    (hsettings : other.runtime.settings = process.runtime.settings)
    (heffects : ofKind kind other.effects = ofKind kind process.effects) :
    Announced up down isUp past other := by
  unfold Announced at hannounced ⊢
  rw [scripted_congr hsettings, eventsOf_congr hup hdown heffects]
  exact hannounced

/-! ### Runs -/

namespace Main

def effectsOf (history : History Input Output) : List Effect :=
  history.flatMap fun step => step.2.effects

theorem effectsOf_snoc (history : History Input Output) (input : Input) (output : Output) :
    effectsOf (history ++ [(input, output)]) = effectsOf history ++ output.effects := by
  simp [effectsOf]

end Main

end OpenHybrid

import OpenHybrid.Lib.Owed
import OpenHybrid.Proof.Emission
import OpenHybrid.Proof.FilterList

/-!
# What the HAAP asks for

The HAAP asks for two things in its notifications: that a filter list is acknowledged, and that the
tunnel is verified. Both are answered promptly, each demand once, as soon as the LTE tunnel is up and
the answer goes out.
-/

namespace OpenHybrid

open ByteMemory Frame Transition Owed

variable {answers : Answers} {memory : Memory} {runtime : Runtime} {process other : Process}

def Effect.sent : Effect → Bool
  | .sendmsg _ _ _ sent => sent
  | _ => false

def Content.sent (answers : Answers) (runtime : Runtime) (content : Content) : Bool :=
  (content.send answers runtime).any Effect.sent

/-- Something the HAAP asks for, with the values it does so with. -/
structure Concern (α : Type) where
  /-- the demand in an attribute of a Notify -/
  asks : Memory → Grecpattr → Option α
  /-- the answer that went out, if an effect is one -/
  answers : Effect → Option α
  kind : Kind
  owed : Runtime → Option α
  content : α → Content

namespace Concern

variable {α : Type} {concern : Concern α} {wire : List (Event α)}

def asked (concern : Concern α) (memory : Memory) (attrs : List Grecpattr) : List (Event α) :=
  (attrs.filterMap (concern.asks memory)).map .asked

def answered (concern : Concern α) (effects : List Effect) : List (Event α) :=
  (effects.filterMap concern.answers).map .answered

def KeptBehind (concern : Concern α) (wire : List (Event α)) (process : Process) : Prop :=
  Keeps (concern.owed process.runtime) (wire ++ concern.answered process.effects)

theorem answered_append (before after : List Effect) :
    concern.answered (before ++ after) = concern.answered before ++ concern.answered after := by
  unfold answered
  rw [List.filterMap_append, List.map_append]

theorem answered_ofKind (hkind : ∀ effect : Effect, effect.kind ≠ concern.kind →
    concern.answers effect = none) (effects : List Effect) :
    concern.answered (ofKind concern.kind effects) = concern.answered effects := by
  unfold answered ofKind
  rw [List.filterMap_filter]
  congr 2
  funext effect
  by_cases hsame : effect.kind = concern.kind
  · rw [if_pos (decide_eq_true hsame)]
  · rw [hkind effect hsame, ite_self]

end Concern

/-! ### Timers -/

namespace Concern

variable {α : Type} {concern : Concern α} {wire : List (Event α)} {value : α}

theorem answered_of_agree
    (hkind : ∀ effect : Effect, effect.kind ≠ concern.kind → concern.answers effect = none)
    (hagree : Agree Aspect.get [.effects concern.kind] process other) :
    concern.answered other.effects = concern.answered process.effects := by
  have heffects : ofKind concern.kind other.effects = ofKind concern.kind process.effects :=
    hagree (.effects concern.kind) List.mem_cons_self
  rw [← answered_ofKind hkind, heffects, answered_ofKind hkind]

/-- What an answer is owed for, and the answers, are all that the wire is about. -/
theorem KeptBehind.of_agree {aspects : List Aspect} (hkept : concern.KeptBehind wire process)
    (hkind : ∀ effect : Effect, effect.kind ≠ concern.kind → concern.answers effect = none)
    (howed : Agree Aspect.get aspects process other →
      concern.owed other.runtime = concern.owed process.runtime)
    (hagree : Agree Aspect.get (.effects concern.kind :: aspects) process other) :
    concern.KeptBehind wire other := by
  unfold KeptBehind
  rw [answered_of_agree hkind fun aspect haspect => hagree aspect (by simp_all), howed fun aspect haspect => hagree aspect (List.mem_cons_of_mem _ haspect)]
  exact hkept

end Concern

/-- An answer goes out, or nothing does. -/
theorem Concern.answered_send {α : Type} {concern : Concern α} {value : α}
    (hanswers : ∀ sent, concern.answers (.sendmsg (concern.content value).msgtype
      (concern.content value).tuntype ((concern.content value).message runtime) sent) =
        if sent then some value else none) :
    concern.answered ((concern.content value).send answers runtime) =
      if (concern.content value).sent answers runtime then [.answered value] else [] := by
  unfold Content.sent Content.send answered
  split
  · generalize hsent : answers.sendmsg _ = sent
    rw [List.any_cons, List.any_nil, Bool.or_false, List.filterMap_cons, hanswers]
    cases sent <;> rfl
  · rfl

namespace Concern

variable {α : Type} {concern : Concern α} {wire : List (Event α)} {value : α}

theorem KeptBehind.answer (hkept : concern.KeptBehind wire process)
    (howed : concern.owed process.runtime = some value)
    (hanswers : ∀ sent, concern.answers (.sendmsg (concern.content value).msgtype
      (concern.content value).tuntype ((concern.content value).message process.runtime) sent) =
        if sent then some value else none)
    (heffects : other.effects =
      process.effects ++ (concern.content value).send answers process.runtime)
    (hnext : concern.owed other.runtime =
      if (concern.content value).sent answers process.runtime then none else some value) :
    concern.KeptBehind wire other := by
  unfold KeptBehind at hkept ⊢
  rw [howed] at hkept
  rw [hnext, heffects, answered_append, answered_send hanswers, ← List.append_assoc]
  cases (concern.content value).sent answers process.runtime with
  | false =>
      rw [if_neg Bool.false_ne_true, if_neg Bool.false_ne_true, List.append_nil]
      exact hkept
  | true => exact hkept.answer

end Concern

/-! ### Filter lists -/

namespace Main

variable {α : Type} {concern : Concern α} {config : Config} {buffer : Memory}
  {state next : State} {input : Input} {output : Output} {history : History Input Output}

end Main

end OpenHybrid

import Mathlib.Logic.Function.Basic

/-!
# Event emitters

What the code relies on in the library `eventemitter3`: the functions that were registered for an
event are called in the order of their registration, and a function that is removed is removed as
often as it was registered.

## Main definitions

* `EventEmitter` : an emitter as its methods show it.
* `EventEmitter.Action`, `EventEmitter.act` : the calls that change it.
* `EventEmitter.live` : the registrations that are not undone by a later call.

## Main results

* `EventEmitter.listeners_foldl` : these are the functions that are called.
-/

namespace DeviceHub

/-- Emitters that call functions of the type `F`. -/
class EventEmitter (F : Type) [DecidableEq F] where
  State : Type
  new : State
  on : State → String → F → State
  removeListener : State → String → F → State
  removeAllListeners : State → String → State
  /-- The functions that `emit` calls, in this order. -/
  listeners : State → String → List F
  listeners_new : ∀ event, listeners new event = []
  listeners_on : ∀ s e fn event, listeners (on s e fn) event =
    if e = event then listeners s event ++ [fn] else listeners s event
  listeners_removeListener : ∀ s e fn event, listeners (removeListener s e fn) event =
    if e = event then (listeners s event).filter (· ≠ fn) else listeners s event
  listeners_removeAllListeners : ∀ s e event, listeners (removeAllListeners s e) event =
    if e = event then [] else listeners s event

namespace EventEmitter

variable {F : Type} [DecidableEq F]

/-- A call that changes the listeners. -/
inductive Action (F : Type)
  | on (event : String) (fn : F)
  | removeListener (event : String) (fn : F)
  | removeAllListeners (event : String)
  deriving DecidableEq

namespace Action

/-- The call removes the function from the event. -/
def removes (event : String) (fn : F) : Action F → Bool
  | .on _ _ => false
  | .removeListener e f => e = event ∧ f = fn
  | .removeAllListeners e => e = event

/-- The function that the call registers for the event. -/
def adds (event : String) : Action F → Option F
  | .on e fn => if e = event then some fn else none
  | .removeListener _ _ | .removeAllListeners _ => none

end Action

/-- The functions registered for an event, without those that a later call removes. -/
def live (event : String) : List (Action F) → List F
  | [] => []
  | action :: actions =>
    ((action.adds event).filter fun fn => !actions.any (Action.removes event fn)).toList ++
      live event actions

variable [EventEmitter F]

/-- What a call does. -/
def act (s : State F) : Action F → State F
  | .on event fn => on s event fn
  | .removeListener event fn => removeListener s event fn
  | .removeAllListeners event => removeAllListeners s event

variable {event : String}

theorem listeners_act (s : State F) (action : Action F) : listeners (act s action) event =
    (listeners s event).filter (fun fn => !action.removes event fn) ++
      (action.adds event).toList := by
  cases action with
  | on e fn =>
    have hkept : (listeners s event).filter (fun f => !(Action.on e fn).removes event f) =
        listeners s event := List.filter_eq_self.2 fun _ _ => rfl
    unfold act Action.adds
    rw [hkept, listeners_on]
    by_cases h : e = event
    · simp only [if_pos h, Option.toList_some]
    · simp only [if_neg h, Option.toList_none, List.append_nil]
  | removeListener e fn =>
    unfold act Action.adds
    rw [listeners_removeListener, Option.toList_none, List.append_nil]
    by_cases h : e = event
    · rw [if_pos h]
      exact List.filter_congr fun f _ => by simp [Action.removes, h, eq_comm]
    · rw [if_neg h]
      exact (List.filter_eq_self.2 fun f _ => by simp [Action.removes, h]).symm
  | removeAllListeners e =>
    unfold act Action.adds
    rw [listeners_removeAllListeners, Option.toList_none, List.append_nil]
    by_cases h : e = event
    · rw [if_pos h]
      exact (List.filter_eq_nil_iff.2 fun f _ => by simp [Action.removes, h]).symm
    · rw [if_neg h]
      exact (List.filter_eq_self.2 fun f _ => by simp [Action.removes, h]).symm

theorem listeners_foldl (s : State F) (actions : List (Action F)) :
    listeners (actions.foldl act s) event =
      (listeners s event).filter (fun fn => !actions.any (Action.removes event fn)) ++
        live event actions := by
  induction actions generalizing s with
  | nil =>
    rw [live, List.append_nil]
    exact (List.filter_eq_self.2 fun _ _ => rfl).symm
  | cons action actions ih =>
    rw [List.foldl_cons, ih, listeners_act, List.filter_append, List.filter_filter, live,
      Option.toList_filter, ← List.append_assoc]
    congr 2
    exact List.filter_congr fun fn _ => by
      rw [List.any_cons, Bool.not_or, Bool.and_comm]

theorem listeners_foldl_new (actions : List (Action F)) :
    listeners (actions.foldl act new) event = live event actions := by
  rw [listeners_foldl, listeners_new, List.filter_nil, List.nil_append]

end EventEmitter

namespace EventEmitter.Table

variable {F : Type} [DecidableEq F]

/-- An emitter as a table. -/
scoped instance table : EventEmitter F where
  State := String → List F
  new := fun _ => []
  on s e fn := Function.update s e (s e ++ [fn])
  removeListener s e fn := Function.update s e ((s e).filter (· ≠ fn))
  removeAllListeners s e := Function.update s e []
  listeners s event := s event
  listeners_new _ := rfl
  listeners_on s e fn event := by
    rw [Function.update_apply]
    by_cases h : e = event
    · subst h
      simp
    · rw [if_neg h, if_neg (Ne.symm h)]
  listeners_removeListener s e fn event := by
    rw [Function.update_apply]
    by_cases h : e = event
    · subst h
      simp
    · rw [if_neg h, if_neg (Ne.symm h)]
  listeners_removeAllListeners s e event := by
    rw [Function.update_apply]
    by_cases h : e = event
    · subst h
      simp
    · rw [if_neg h, if_neg (Ne.symm h)]

end EventEmitter.Table

end DeviceHub

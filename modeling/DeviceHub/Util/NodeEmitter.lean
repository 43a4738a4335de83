import Mathlib.Logic.Function.Basic

/-!
# Event emitters of Node

What the code relies on in the module `events` of Node: a function that was registered several times
for an event is removed once for each call that removes it.

## Main definitions

* `NodeEmitter` : an emitter as its methods show it.

## Main results

* `NodeEmitter.count_on`, `NodeEmitter.count_removeListener` : how often a function is registered.
-/

namespace DeviceHub

/-- Emitters that call functions of the type `F`. -/
class NodeEmitter (F : Type) [DecidableEq F] where
  State : Type
  new : State
  on : State → String → F → State
  removeListener : State → String → F → State
  /-- The functions that `emit` calls, in this order. -/
  listeners : State → String → List F
  listeners_new : ∀ event, listeners new event = []
  listeners_on : ∀ s e fn event, listeners (on s e fn) event =
    if e = event then listeners s event ++ [fn] else listeners s event
  /-- The registration that was made last is the one that is removed. -/
  listeners_removeListener : ∀ s e fn event, listeners (removeListener s e fn) event =
    if e = event then ((listeners s event).reverse.erase fn).reverse else listeners s event

namespace NodeEmitter

variable {F : Type} [DecidableEq F] [NodeEmitter F]

theorem count_on (s : State F) (e event : String) (fn f : F) :
    (listeners (on s e fn) event).count f =
      (listeners s event).count f + if e = event ∧ fn = f then 1 else 0 := by
  rw [listeners_on]
  by_cases hevent : e = event
  · rw [if_pos hevent, List.count_append, List.count_singleton]
    by_cases hfn : fn = f <;> simp [hevent, hfn]
  · rw [if_neg hevent, if_neg fun h => hevent h.1, Nat.add_zero]

theorem count_removeListener (s : State F) (e event : String) (fn f : F) :
    (listeners (removeListener s e fn) event).count f =
      (listeners s event).count f - if e = event ∧ fn = f then 1 else 0 := by
  rw [listeners_removeListener]
  by_cases hevent : e = event
  · rw [if_pos hevent, List.count_reverse, List.count_erase, List.count_reverse]
    by_cases hfn : fn = f <;> simp [hevent, hfn]
  · rw [if_neg hevent, if_neg fun h => hevent h.1, Nat.sub_zero]

end NodeEmitter

namespace NodeEmitter.Table

variable {F : Type} [DecidableEq F]

/-- An emitter as a table, with the last registration first. -/
scoped instance table : NodeEmitter F where
  State := String → List F
  new := fun _ => []
  on s e fn := Function.update s e (fn :: s e)
  removeListener s e fn := Function.update s e ((s e).erase fn)
  listeners s event := (s event).reverse
  listeners_new _ := List.reverse_nil
  listeners_on s e fn event := by
    rw [Function.update_apply]
    by_cases h : e = event
    · subst h
      rw [if_pos rfl, if_pos rfl, List.reverse_cons]
    · rw [if_neg h, if_neg (Ne.symm h)]
  listeners_removeListener s e fn event := by
    rw [Function.update_apply]
    by_cases h : e = event
    · subst h
      rw [if_pos rfl, if_pos rfl, List.reverse_reverse]
    · rw [if_neg h, if_neg (Ne.symm h)]

end NodeEmitter.Table

end DeviceHub

import Mathlib.Data.List.Basic

/-!
# `util/statequeue.js` and `util/failcounter.ts`

What the frame producer and the touch consumer keep of their requests and of their failures.

## Main definitions

* `StateQueue` : the states that are still to be reached, without repetitions.
* `FailCounter` : the times of the last failures.

## Main results

* `StateQueue.getLast?_push` : the state that was asked for last is the last one of the queue.
-/

namespace DeviceHub

/-- `STATE_STOPPED` and so on, which the two have in common. -/
inductive RunningState where
  | stopped
  | starting
  | started
  | stopping
  deriving DecidableEq

/-- The two states that are asked for. -/
inductive DesiredState where
  | stopped
  | started
  deriving DecidableEq

/-! ### `StateQueue` -/

/-- The states to be reached; the next one comes first. -/
abbrev StateQueue (State : Type) := List State

namespace StateQueue

variable {State : Type} [DecidableEq State]

/-- A state that is in the queue already cuts off all that comes after it. -/
def push (queue : StateQueue State) (state : State) : StateQueue State :=
  match queue with
  | [] => [state]
  | first :: rest => if first = state then [first] else first :: push rest state

@[simp] theorem getLast?_push (queue : StateQueue State) (state : State) :
    List.getLast? (queue.push state) = some state := by
  induction queue with
  | nil => rfl
  | cons first rest ih =>
    simp only [push]
    split
    · rename_i hfirst
      simp [hfirst]
    · rw [List.getLast?_cons, ih]
      rfl

end StateQueue

/-! ### `FailCounter` -/

/-- The times of the failures that still count, the oldest first. -/
structure FailCounter where
  threshold : Nat
  time : Nat
  values : List Nat := []
  deriving DecidableEq

namespace FailCounter

/-- One more failure at the time `now`. -/
def inc (counter : FailCounter) (now : Nat) : FailCounter :=
  { counter with
    values := counter.values.dropWhile (fun value => counter.time ≤ now - value) ++ [now] }

/-- The event `exceedLimit` is emitted after the failure was counted. -/
def exceedsLimit (counter : FailCounter) : Bool := counter.threshold < counter.values.length

end FailCounter

end DeviceHub

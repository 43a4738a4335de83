import DeviceHub.Touch.TouchService
import DeviceHub.Wire.SeqQueue

/-!
# `plugins/touch/index.ts`

The touch plugin of a device unit.  It puts the touch messages back into the order in which the user
interface sent them.

## Main definitions

* `touch.queue`, `touch.onMessage` : the queue and the router.
* `touch.seqAfter` : the numbers that follow a number in the user interface.
* `touch.Prompt` : no more than three messages ever wait for one that is missing.

## Main results

* `touch.seqAfter_eq` : the numbers wrap around at 100.
* `touch.inOrder_of_prompt` : a gesture survives every admissible order of arrival.
-/

namespace DeviceHub.touch

variable {α P : Type}

/-- The queue of a device, for numbers below 100. -/
def queue : SeqQueue α := .new 100 4

/-- What the router does with a message.  The sequence number is unsigned. -/
def onMessage (q : SeqQueue (TouchMessage P)) (message : TouchMessage P) :
    SeqQueue (TouchMessage P) :=
  match message with
  | .gestureStart seq => q.start seq.toNat
  | .gestureStop seq => q.push seq.toNat .stop
  | .touchDown seq _ _ | .touchMove seq _ _ | .touchUp seq _ | .touchCommit seq
  | .touchReset seq => q.push seq.toNat (.call message)

/-! ### Sequence numbers -/

/-- The number `i` messages after `s`. -/
def seqAfter (s i : Nat) : Nat := (TouchService.nextSeq^[i] s).toNat

theorem iterate_nextSeq {s : Nat} (hs : s < 100) (i : Nat) :
    TouchService.nextSeq^[i] s = ((s + i) % 100 : Nat) := by
  induction i with
  | zero => rw [Function.iterate_zero_apply, Nat.add_zero, Nat.mod_eq_of_lt hs]
  | succ i ih =>
    rw [Function.iterate_succ_apply', ih, TouchService.nextSeq, TouchService.cycle]
    split <;> omega

theorem seqAfter_eq {s : Nat} (hs : s < 100) (i : Nat) :
    seqAfter s i = SeqQueue.slotOf s 100 i := by
  rw [seqAfter, iterate_nextSeq hs, Int.toNat_natCast, SeqQueue.slotOf]

/-! ### Gestures -/

/-- Whenever a message has arrived, fewer than four that have arrived come after one that is
missing. -/
def Prompt (k : Nat) (order : List Nat) : Prop :=
  ∀ received ∈ order.inits, ∀ i ∈ List.range' 1 k, i ∉ received → received.countP (i < ·) < 4

instance (k : Nat) (order : List Nat) : Decidable (Prompt k order) :=
  inferInstanceAs (Decidable (∀ received ∈ order.inits, ∀ i ∈ List.range' 1 k, _))

/-- The messages of a gesture that started with the number `s` arrive. -/
def arrive (s : Nat) (handlers : Nat → SeqHandler α) (order : List Nat) (q : SeqQueue α) :
    SeqQueue α :=
  order.foldl (fun q i => q.push (seqAfter s i) (handlers i)) (q.start s)

theorem arrive_concat (s : Nat) (handlers : Nat → SeqHandler α) (order : List Nat) (i : Nat)
    (q : SeqQueue α) : arrive s handlers (order ++ [i]) q =
      (arrive s handlers order q).push (seqAfter s i) (handlers i) :=
  List.foldl_append

theorem arrive_eq {s : Nat} (hs : s < 100) {q : SeqQueue α} (hsize : q.size = 100)
    (handlers : Nat → SeqHandler α) (order : List Nat) :
    arrive s handlers order q = SeqQueue.pushAll s handlers order (q.start s) := by
  induction order using List.reverseRecOn with
  | nil => rfl
  | append_singleton order i ih =>
    rw [arrive_concat, SeqQueue.pushAll_concat, ih, seqAfter_eq hs, SeqQueue.pushAll_size,
      SeqQueue.start_size, hsize]

/-- The numbers from `s` on are pushed promptly. -/
theorem Prompt.pushes_inOrder {s k : Nat} (hs : s < 100) (hk : k < 100) {q : SeqQueue α}
    (hsize : q.size = 100) (hmax : q.maxWaiting = 4) (hwaiting : q.waiting = 0)
    (hempty : ∀ i, q.list i = none) {handlers : Nat → SeqHandler α}
    (hstop : ∀ i < k, handlers i ≠ .stop) {order : List Nat}
    (hperm : order.Perm (List.range' 1 k)) (hprompt : Prompt k order) :
    (SeqQueue.pushAll s handlers order (q.start s)).ran = q.ran ++ (List.range' 1 k).map handlers ∧
      (SeqQueue.pushAll s handlers order (q.start s)).waiting = 0 := by
  refine SeqQueue.pushes_inOrder (by omega) (by omega) hwaiting hempty hstop hperm
    fun received hpre i hi hik hmissing => ?_
  rw [hmax]
  exact hprompt received ((List.mem_inits _ _).2 hpre) i (List.mem_range'_1.2 ⟨hi, by omega⟩)
    hmissing

/-- **Touch input survives reordering.**  A gesture starts with the number `s`, and its messages are
numbered from there; only the last one can be the stop.  If they arrive promptly, all of them are
handled in the order in which they were sent. -/
theorem inOrder_of_prompt {s k : Nat} (hs : s < 100) (hk : k < 100) {q : SeqQueue α}
    (hsize : q.size = 100) (hmax : q.maxWaiting = 4) (hwaiting : q.waiting = 0)
    (hempty : ∀ i, q.list i = none) {handlers : Nat → SeqHandler α}
    (hstop : ∀ i < k, handlers i ≠ .stop) {order : List Nat}
    (hperm : order.Perm (List.range' 1 k)) (hprompt : Prompt k order) :
    (arrive s handlers order q).ran = q.ran ++ (List.range' 1 k).map handlers ∧
      (arrive s handlers order q).waiting = 0 := by
  rw [arrive_eq hs hsize]
  exact hprompt.pushes_inOrder hs hk hsize hmax hwaiting hempty hstop hperm

theorem inOrder_of_prompt_swapped :
    (arrive 98 (fun i => if i = 3 then .stop else .call i) [2, 1, 3] (queue : SeqQueue Nat)).ran =
      [.call 1, .call 2, .stop] ∧
    (arrive 98 (fun i => if i = 3 then .stop else .call i) [2, 1, 3]
      (queue : SeqQueue Nat)).waiting = 0 :=
  inOrder_of_prompt (s := 98) (k := 3) (by decide) (by decide) rfl rfl rfl (fun _ => rfl)
    (by decide) (by decide) (by decide)

/-! ### The router -/

/-- The number of a message. -/
def seqOf : TouchMessage P → Nat
  | .gestureStart seq | .gestureStop seq | .touchDown seq _ _ | .touchMove seq _ _ | .touchUp seq _
  | .touchCommit seq | .touchReset seq => seq.toNat

/-- The handler that the router pushes for a message. -/
def handlerOf : TouchMessage P → SeqHandler (TouchMessage P)
  | .gestureStop _ => .stop
  | message => .call message

theorem onMessage_eq_push {q : SeqQueue (TouchMessage P)} {message : TouchMessage P}
    (h : ∀ seq, message ≠ .gestureStart seq) :
    onMessage q message = q.push (seqOf message) (handlerOf message) := by
  cases message with
  | gestureStart seq => exact absurd rfl (h seq)
  | _ => rfl

theorem onMessages_eq_arrive {s : Nat} {messages : Nat → TouchMessage P} {order : List Nat}
    (hseq : ∀ i ∈ order, seqOf (messages i) = seqAfter s i)
    (hstart : ∀ i ∈ order, ∀ seq, messages i ≠ .gestureStart seq) (q : SeqQueue (TouchMessage P)) :
    (order.map messages).foldl onMessage (onMessage q (.gestureStart s)) =
      arrive s (fun i => handlerOf (messages i)) order q := by
  induction order using List.reverseRecOn with
  | nil => rfl
  | append_singleton order i ih =>
    rw [List.map_append, List.foldl_append, arrive_concat,
      ih (fun j hj => hseq j (List.mem_append_left _ hj))
        (fun j hj => hstart j (List.mem_append_left _ hj)), List.map_singleton, List.foldl_cons,
      List.foldl_nil, onMessage_eq_push (hstart i (by simp)), hseq i (by simp)]

theorem onMessages_inOrder {s k : Nat} (hs : s < 100) (hk : k < 100)
    {messages : Nat → TouchMessage P} {order : List Nat} (hperm : order.Perm (List.range' 1 k))
    (hprompt : Prompt k order) (hseq : ∀ i ∈ order, seqOf (messages i) = seqAfter s i)
    (hstart : ∀ i ∈ order, ∀ seq, messages i ≠ .gestureStart seq)
    (hstop : ∀ i < k, handlerOf (messages i) ≠ .stop) :
    ((order.map messages).foldl onMessage (onMessage queue (.gestureStart s))).ran =
      (List.range' 1 k).map fun i => handlerOf (messages i) := by
  rw [onMessages_eq_arrive hseq hstart, arrive_eq hs rfl]
  exact (hprompt.pushes_inOrder hs hk rfl rfl rfl (fun _ => rfl) hstop hperm).1

end DeviceHub.touch

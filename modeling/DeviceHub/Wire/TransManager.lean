import DeviceHub.Async.Lts
import Mathlib.Data.List.Nodup

/-!
# `wire/transmanager.ts`

The transactions that `runTransactionDev` runs over one router.  The listener that waits for the
answer is registered for the type of the message, not for the response channel, so that an answer
settles every transaction that is pending.

## Main definitions

* `Transactions` : the calls of `runTransactionDev`, and the listeners of the router.
* `Transactions.emit` : the router calls the listeners that it has when the message arrives.
* `Transactions.Own` : no transaction was settled by a message on another channel.
* `Transactions.OwnReply` : the condition on a message that arrives.

## Main results

* `Transactions.own_iff_of_run` : the transactions do not cross exactly when every message meets it.
* `Transactions.not_own_of_two` : of two pending transactions, the answer to one settles both.
-/

namespace DeviceHub

/-- The fields of the message that the listener reads. -/
structure TransactionDoneMessage where
  success : Bool
  body : Option String
  deriving DecidableEq

/-- How a promise was settled: by a message, which was published on `channel`, or by the timer. -/
inductive Settlement (β : Type) where
  | resolve (channel : String) (body : β)
  | reject (channel : String) (body : β)
  | timeout
  deriving DecidableEq

/-- The channel of the message that has settled the promise. -/
def Settlement.channel? {β : Type} : Settlement β → Option String
  | .resolve channel _ => some channel
  | .reject channel _ => some channel
  | .timeout => none

/-- A call of `runTransactionDev`. -/
structure Transaction (β : Type) where
  responseChannel : String
  /-- The timer is set. -/
  trTimeout : Bool
  settled : Option (Settlement β)
  deriving DecidableEq

/-- The calls in the order in which they were made, and the listeners for `TransactionDoneMessage`
in the order in which they were registered, each by the number of its call. -/
structure Transactions (β : Type) where
  calls : List (Transaction β)
  listeners : List Nat
  deriving DecidableEq

namespace Transactions

variable {β : Type}

/-- No transaction has been run. -/
def new : Transactions β := ⟨[], []⟩

/-- The channel is a fresh one; the listener is registered and the timer set before the message is
sent. -/
def runTransactionDev (s : Transactions β) (responseChannel : String) : Transactions β where
  calls := s.calls ++ [⟨responseChannel, true, none⟩]
  listeners := s.listeners ++ [s.calls.length]

/-- `router.removeListener`, and an assignment to the call. -/
def finish (s : Transactions β) (i : Nat) (f : Transaction β → Transaction β) : Transactions β where
  calls := s.calls.modify i fun t => f { t with trTimeout := false }
  listeners := s.listeners.erase i

/-- `resolve` and `reject`; a promise is settled once. -/
def settle (settlement : Settlement β) (t : Transaction β) : Transaction β :=
  { t with settled := t.settled.or (some settlement) }

/-- The timer of the call fires. -/
def expire (s : Transactions β) (i : Nat) : Transactions β := s.finish i (settle .timeout)

variable (parse : String → Option β) (empty : β)

/-- `message.body ? JSON.parse(message.body) : {}`; `none` when it throws. -/
def bodyOf (message : TransactionDoneMessage) : Option β :=
  (message.body.filter (· ≠ "")).elim (some empty) parse

/-- How a message settles a transaction. -/
def settlementOf (channel : String) (message : TransactionDoneMessage) (body : β) : Settlement β :=
  if message.success then .resolve channel body else .reject channel body

/-- The listeners `is` are called, one after the other, with a message that was published on
`channel`.  They do not look at the channel.  An exception stops the router. -/
def emitTo (channel : String) (message : TransactionDoneMessage) :
    List Nat → Transactions β → Transactions β
  | [], s => s
  | i :: is, s =>
    match bodyOf parse empty message with
    | some body => emitTo channel message is (s.finish i (settle (settlementOf channel message body)))
    | none => s.finish i id

/-- The router calls the listeners that it has when the message arrives. -/
def emit (s : Transactions β) (channel : String) (message : TransactionDoneMessage) :
    Transactions β := emitTo parse empty channel message s.listeners s

/-! ### Runs -/

/-- What can happen to the transactions. -/
inductive Event where
  | run (responseChannel : String)
  | message (channel : String) (message : TransactionDoneMessage)
  | expire (i : Nat)

/-- What an event does. -/
def next (s : Transactions β) : Event → Option (Transactions β)
  | .run responseChannel => some (s.runTransactionDev responseChannel)
  | .message channel message => some (s.emit parse empty channel message)
  | .expire i => if ∃ t ∈ s.calls[i]?, t.trTimeout = true then some (s.expire i) else none

/-- Calls, messages and timers, in any order. -/
def system : Lts (Transactions β) Event := .ofNext (next parse empty)

/-- No transaction was settled by a message on another channel. -/
def Own (s : Transactions β) : Prop :=
  ∀ t ∈ s.calls, ∀ settlement ∈ t.settled, ∀ channel ∈ settlement.channel?,
    channel = t.responseChannel

/-- The condition on a message whose body is well formed: the transactions that are pending wait for
it on the channel where it was published. -/
def OwnReply (s : Transactions β) : Event → Prop
  | .message channel message => (bodyOf parse empty message).isSome →
      ∀ i ∈ s.listeners, ∀ t ∈ s.calls[i]?, t.responseChannel = channel
  | _ => True

instance (s : Transactions β) : Decidable s.Own :=
  inferInstanceAs (Decidable (∀ t ∈ s.calls, _))

/-! ### Listeners -/

/-- The listeners belong to calls that are not settled. -/
def Pending (s : Transactions β) : Prop :=
  s.listeners.Nodup ∧ ∀ i ∈ s.listeners, ∃ t, s.calls[i]? = some t ∧ t.settled = none

theorem getElem?_finish (s : Transactions β) (i j : Nat) (f : Transaction β → Transaction β) :
    (s.finish i f).calls[j]? =
      (s.calls[j]?).map fun t => if j = i then f { t with trTimeout := false } else t := by
  simp only [finish, List.getElem?_modify, eq_comm]
  rfl

theorem Pending.finish {s : Transactions β} (h : s.Pending) (i : Nat)
    (f : Transaction β → Transaction β) : (s.finish i f).Pending := by
  refine ⟨h.1.erase i, fun j hj => ?_⟩
  obtain ⟨hne, hj⟩ := (h.1.mem_erase_iff).1 hj
  obtain ⟨t, ht, hpending⟩ := h.2 j hj
  refine ⟨t, ?_, hpending⟩
  rw [getElem?_finish, ht, Option.map_some, if_neg hne]

theorem Pending.emitTo {s : Transactions β} (h : s.Pending) (channel : String)
    (message : TransactionDoneMessage) (is : List Nat) :
    (emitTo parse empty channel message is s).Pending := by
  induction is generalizing s with
  | nil => exact h
  | cons i is ih =>
    unfold Transactions.emitTo
    split
    · exact ih (h.finish i _)
    · exact h.finish i _

variable {parse empty}

theorem Pending.step {s s' : Transactions β} {event : Event} (h : s.Pending)
    (hstep : (system parse empty).step s event s') : s'.Pending := by
  cases event with
  | run responseChannel =>
    obtain rfl := Option.some.inj hstep
    have hlt : ∀ i ∈ s.listeners, i < s.calls.length := by
      intro i hi
      obtain ⟨t, ht, -⟩ := h.2 i hi
      exact (List.getElem?_eq_some_iff.1 ht).1
    refine ⟨List.Nodup.append h.1 (List.nodup_singleton _) fun i hi hnew => ?_, fun i hi => ?_⟩
    · obtain rfl := List.mem_singleton.1 hnew
      exact Nat.lt_irrefl _ (hlt _ hi)
    · rcases List.mem_append.1 hi with hi | hi
      · obtain ⟨t, ht, hpending⟩ := h.2 i hi
        exact ⟨t, by rw [runTransactionDev, List.getElem?_append_left (hlt i hi), ht], hpending⟩
      · obtain rfl := List.mem_singleton.1 hi
        exact ⟨⟨responseChannel, true, none⟩, by simp [runTransactionDev], rfl⟩
  | message channel message =>
    obtain rfl := Option.some.inj hstep
    exact h.emitTo parse empty channel message s.listeners
  | expire i =>
    simp only [system, Lts.ofNext, next] at hstep
    obtain ⟨-, heq⟩ := Option.ite_none_right_eq_some.1 hstep
    obtain rfl := Option.some.inj heq
    exact h.finish i _

/-- **A message settles every call whose listener is called**, unless its body is not well
formed. -/
theorem getElem?_emitTo {message : TransactionDoneMessage} {body : β}
    (hbody : bodyOf parse empty message = some body) (channel : String) (is : List Nat)
    (s : Transactions β) (j : Nat) :
    (emitTo parse empty channel message is s).calls[j]? = (s.calls[j]?).map fun t =>
      if j ∈ is then settle (settlementOf channel message body) { t with trTimeout := false }
      else t := by
  induction is generalizing s with
  | nil => simp [emitTo]
  | cons i is ih =>
    unfold emitTo
    rw [hbody]
    dsimp only
    rw [ih, getElem?_finish, Option.map_map]
    congr 1
    funext t
    by_cases hi : j = i
    · subst hi
      by_cases hmem : j ∈ is
      · simp [settle, hmem]
      · simp [settle, hmem]
    · simp [hi]

theorem settled_emitTo {message : TransactionDoneMessage} (hbody : bodyOf parse empty message = none)
    (channel : String) (is : List Nat) (s : Transactions β) (j : Nat) :
    ((emitTo parse empty channel message is s).calls[j]?).map
        (fun t => (t.responseChannel, t.settled)) =
      (s.calls[j]?).map fun t => (t.responseChannel, t.settled) := by
  cases is with
  | nil => rfl
  | cons i is =>
    unfold emitTo
    rw [hbody]
    dsimp only
    rw [getElem?_finish, Option.map_map]
    congr 1
    funext t
    simp only [Function.comp_apply]
    split <;> rfl

theorem channel?_settlementOf (channel : String) (message : TransactionDoneMessage) (body : β) :
    (settlementOf channel message body).channel? = some channel := by
  unfold settlementOf
  split <;> rfl

theorem own_iff {s : Transactions β} : s.Own ↔ ∀ (i : Nat) (t : Transaction β),
    s.calls[i]? = some t → ∀ settlement ∈ t.settled, ∀ channel ∈ settlement.channel?,
      channel = t.responseChannel := by
  constructor
  · intro h i t ht
    exact h t (List.mem_of_getElem? ht)
  · intro h t ht
    obtain ⟨i, hi⟩ := List.mem_iff_getElem?.1 ht
    exact h i t hi

/-- **One message crosses nothing exactly under the condition.** -/
theorem own_emit_iff {s : Transactions β} (hpending : s.Pending) (hown : s.Own) (channel : String)
    (message : TransactionDoneMessage) :
    (s.emit parse empty channel message).Own ↔
      OwnReply parse empty s (.message channel message) := by
  unfold emit OwnReply
  rcases Option.eq_none_or_eq_some (bodyOf parse empty message) with hbody | ⟨body, hbody⟩
  · -- the first listener throws
    refine iff_of_true ?_ fun hsome => by simp [hbody] at hsome
    refine own_iff.2 fun i t ht settlement hsettled => ?_
    have hsame := settled_emitTo hbody channel s.listeners s i
    rw [ht, Option.map_some, eq_comm, Option.map_eq_some_iff] at hsame
    obtain ⟨t₀, ht₀, heq⟩ := hsame
    obtain ⟨hchannel, hsettled₀⟩ := Prod.mk.inj heq
    rw [← hchannel]
    exact own_iff.1 hown i t₀ ht₀ settlement (hsettled₀ ▸ hsettled)
  · constructor
    · intro h _ i hi t ht
      obtain ⟨t', ht', hnone⟩ := hpending.2 i hi
      obtain rfl := Option.some.inj (ht.symm.trans ht')
      have hafter := getElem?_emitTo hbody channel s.listeners s i
      rw [ht, Option.map_some, if_pos hi] at hafter
      refine (own_iff.1 h i _ hafter (settlementOf channel message body) ?_ channel
        (channel?_settlementOf channel message body)).symm
      simp only [settle, hnone, Option.none_or, Option.mem_def]
    · intro h
      refine own_iff.2 fun i t' ht' settlement hsettled channel' hchannel' => ?_
      rw [getElem?_emitTo hbody, Option.map_eq_some_iff] at ht'
      obtain ⟨t, ht, rfl⟩ := ht'
      by_cases hi : i ∈ s.listeners
      · rw [if_pos hi] at hsettled ⊢
        obtain ⟨t₀, ht₀, hnone⟩ := hpending.2 i hi
        obtain rfl := Option.some.inj (ht.symm.trans ht₀)
        have hset : settlementOf channel message body = settlement := by
          simpa only [settle, hnone, Option.none_or, Option.mem_def, Option.some.injEq] using hsettled
        rw [← hset, channel?_settlementOf] at hchannel'
        obtain rfl := Option.some.inj hchannel'
        exact (h (by rw [hbody]; rfl) i hi t ht).symm
      · rw [if_neg hi] at hsettled ⊢
        exact own_iff.1 hown i t ht settlement hsettled channel' hchannel'

/-- The other events cross nothing. -/
theorem own_step_iff {s s' : Transactions β} {event : Event} (hpending : s.Pending) (hown : s.Own)
    (hstep : (system parse empty).step s event s') : s'.Own ↔ OwnReply parse empty s event := by
  cases event with
  | run responseChannel =>
    obtain rfl := Option.some.inj hstep
    refine iff_of_true (fun t ht => ?_) trivial
    rcases List.mem_append.1 ht with ht | ht
    · exact hown t ht
    · obtain rfl := List.mem_singleton.1 ht
      rintro settlement ⟨⟩
  | message channel message =>
    obtain rfl := Option.some.inj hstep
    exact own_emit_iff hpending hown channel message
  | expire i =>
    simp only [system, Lts.ofNext, next] at hstep
    split at hstep
    · obtain rfl := Option.some.inj hstep
      refine iff_of_true (own_iff.2 fun j t' ht' settlement hsettled channel hchannel => ?_) trivial
      rw [expire, getElem?_finish, Option.map_eq_some_iff] at ht'
      obtain ⟨t, ht, rfl⟩ := ht'
      have hold : ∀ settlement ∈ t.settled, ∀ channel ∈ settlement.channel?,
          channel = t.responseChannel := own_iff.1 hown j t ht
      by_cases hj : j = i
      · rw [if_pos hj] at hsettled ⊢
        rcases Option.eq_none_or_eq_some t.settled with hnone | ⟨before, hbefore⟩
        · simp only [settle, hnone, Option.none_or, Option.mem_def, Option.some.injEq] at hsettled
          subst hsettled
          cases hchannel
        · simp only [settle, hbefore, Option.some_or, Option.mem_def, Option.some.injEq] at hsettled
          subst hsettled
          exact hold before hbefore channel hchannel
      · rw [if_neg hj] at hsettled ⊢
        exact hold settlement hsettled channel hchannel
    · cases hstep

variable (parse empty) in
/-- **Transactions do not cross exactly when every answer finds only its own transaction
pending.** -/
theorem own_iff_of_run {es : List Event} {s : Transactions β} :
    (system parse empty).Along Own new es s ↔
      ((system parse empty).restrict (OwnReply parse empty)).Run new es s :=
  Lts.along_iff_restrict (I := Pending) (fun _ _ _ h hstep => h.step hstep)
    (fun _ _ _ hpending hown hstep => own_step_iff hpending hown hstep)
    ⟨List.nodup_nil, fun _ hi => absurd hi List.not_mem_nil⟩
    fun _ ht => absurd ht List.not_mem_nil

/-- The reaper asks for the devices that are present and for those that are dead; the first answer
settles both transactions. -/
theorem not_own_of_two : ∃ es s, (system (fun text => some text) "").Run new es s ∧ ¬ s.Own := by
  obtain ⟨s, hrun, hs⟩ := Lts.exists_run_of_play (f := next (fun text => some text) "")
    (G := fun _ _ => True) new
    [.run "txn_present", .run "txn_dead", .message "txn_present" ⟨true, some "[]"⟩]
    (fun s => ¬ s.Own) (by decide +kernel)
  exact ⟨_, s, hrun.of_restrict, by simpa using hs⟩

end Transactions

end DeviceHub

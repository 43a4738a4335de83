import DeviceHub.Async.Lts
import Mathlib.Logic.Function.Basic

/-!
# `units/device/plugins/service.ts`

The commands to the service on the device.  A command waits for the envelope with its id, and a
timer is set that is to reject it.  The callback of the timer is read before the constructor has set
it, so that the timer does nothing.

## Main definitions

* `Deferred`, `Service` : the promises, and the table of those that wait.
* `Service.runServiceCommand`, `Service.handleEnvelope`, `Service.pass` : what happens to them.
* `Service.Settles` : every promise is settled by its own reply, or else by its timer.
* `Service.InTime` : the condition on a reply, and on the time that passes.

## Main results

* `Service.settles_iff_of_run` : all promises settle so exactly when every event meets the
  condition.
* `Service.not_settles_of_silence` : a command without a reply waits for ever.
-/

namespace DeviceHub

/-- In milliseconds. -/
def GRPC_WAIT_TIMEOUT : Nat := 20000

/-- How a promise was settled. -/
inductive Reaction (β : Type) where
  | resolve (value : β)
  | reject
  deriving DecidableEq

/-- The class `Deferred`, with the time of its construction. -/
structure Deferred (β : Type) where
  start : Nat
  /-- The timer is set. -/
  timeout : Bool
  settled : Option (Reaction β)
  deriving DecidableEq

namespace Deferred

variable {β : Type}

/-- A promise is settled once; when it is resolved, the timer is cleared. -/
def resolve (d : Deferred β) (value : β) : Deferred β where
  start := d.start
  timeout := if d.settled = none then false else d.timeout
  settled := d.settled.or (some (.resolve value))

/-- The promise is rejected unless it is settled. -/
def reject (d : Deferred β) : Deferred β := { d with settled := d.settled.or (some .reject) }

/-- `this.reject || (() => {})`, where `reject` is what the field holds. -/
def callback (reject : Option (Deferred β → Deferred β)) : Deferred β → Deferred β :=
  reject.getD id

/-- The callback of the timer.  The initialiser of the field runs before the constructor has
assigned `this.reject`. -/
def onTimeout : Deferred β → Deferred β := callback none

/-- The timer fires when its time has come. -/
def elapse (d : Deferred β) (now : Nat) : Deferred β :=
  if d.timeout = true ∧ d.start + GRPC_WAIT_TIMEOUT < now then onTimeout { d with timeout := false }
  else d

end Deferred

/-- A call of `runServiceCommand`, with the reply of the device to it and the time when this
came. -/
structure ServiceCommand (β : Type) where
  id : Nat
  deferred : Deferred β
  reply : Option (β × Nat)
  deriving DecidableEq

/-- The commands in the order of the calls; `resolvers` is the table of the class `MessageResolver`,
which has the number of the command for an id. -/
structure Service (β : Type) where
  now : Nat
  commands : List (ServiceCommand β)
  resolvers : Nat → Option Nat

namespace Service

variable {β : Type}

/-- A new service. -/
def new : Service β := ⟨0, [], fun _ => none⟩

/-- The id is drawn at random. -/
def runServiceCommand (s : Service β) (id : Nat) : Service β where
  now := s.now
  commands := s.commands ++ [⟨id, ⟨s.now, true, none⟩, none⟩]
  resolvers := Function.update s.resolvers id (some s.commands.length)

/-- `messageResolver.resolve(id, value)` -/
def resolve (s : Service β) (id : Nat) (value : β) : Service β :=
  match s.resolvers id with
  | none => s
  | some k =>
    { s with
      commands := s.commands.modify k fun c => { c with deferred := c.deferred.resolve value }
      resolvers := Function.update s.resolvers id none }

/-- An envelope without an id, or with the id zero, is an event. -/
def handleEnvelope (s : Service β) (id : Nat) (message : β) : Service β :=
  if id ≠ 0 then s.resolve id message else s

/-- The device replies to the command `k`. -/
def reply (s : Service β) (k : Nat) (message : β) : Service β :=
  match s.commands[k]? with
  | none => s
  | some c =>
    { s with commands := s.commands.modify k fun c => { c with reply := some (message, s.now) } }
      |>.handleEnvelope c.id message

/-- So much time passes. -/
def pass (s : Service β) (time : Nat) : Service β where
  now := s.now + time
  commands := s.commands.map fun c => { c with deferred := c.deferred.elapse (s.now + time) }
  resolvers := s.resolvers

/-! ### Runs -/

/-- What can happen to the service. -/
inductive Event (β : Type) where
  | command (id : Nat)
  | reply (k : Nat) (message : β)
  | pass (time : Nat)

/-- The id is `Math.floor(Math.random() * 0xFFFFFF)`; the device replies to a command once at
most. -/
def next (s : Service β) : Event β → Option (Service β)
  | .command id => if id < 0xFFFFFF then some (s.runServiceCommand id) else none
  | .reply k message => if ∃ c ∈ s.commands[k]?, c.reply.isNone then some (s.reply k message) else none
  | .pass time => some (s.pass time)

/-- Commands, replies and the time, in any order. -/
def system (β : Type) : Lts (Service β) (Event β) := .ofNext next

/-- The promise of the command is settled by its own reply if that has come in time, and by its
timer otherwise. -/
def CommandSettles (now : Nat) (c : ServiceCommand β) : Prop :=
  c.deferred.settled =
    match c.reply with
    | some (message, time) =>
      if time ≤ c.deferred.start + GRPC_WAIT_TIMEOUT then some (.resolve message) else some .reject
    | none => if now ≤ c.deferred.start + GRPC_WAIT_TIMEOUT then none else some .reject

/-- Every promise settles so, and no settled command has an entry in the table. -/
def Settles (s : Service β) : Prop :=
  (∀ c ∈ s.commands, CommandSettles s.now c) ∧
    ∀ id k, s.resolvers id = some k → ∀ c ∈ s.commands[k]?, c.deferred.settled = none

/-- The condition: the reply to a command finds the entry of that command under an id that is not
zero, and no command waits for longer than its timer is set to. -/
def InTime (s : Service β) : Event β → Prop
  | .command _ => True
  | .reply k _ => ∃ c ∈ s.commands[k]?, c.id ≠ 0 ∧ s.resolvers c.id = some k
  | .pass time => ∀ c ∈ s.commands, c.reply = none →
      s.now + time ≤ c.deferred.start + GRPC_WAIT_TIMEOUT

/-! ### The table -/

/-- The entries of the table belong to commands that wait, and no command is rejected. -/
structure Awaiting (s : Service β) : Prop where
  entry : ∀ id k, s.resolvers id = some k →
    ∃ c, s.commands[k]? = some c ∧ c.id = id ∧ c.deferred.settled = none
  kept : ∀ c ∈ s.commands, c.deferred.settled ≠ some .reject

theorem settled_elapse (d : Deferred β) (now : Nat) : (d.elapse now).settled = d.settled := by
  unfold Deferred.elapse
  split <;> rfl

theorem start_elapse (d : Deferred β) (now : Nat) : (d.elapse now).start = d.start := by
  unfold Deferred.elapse
  split <;> rfl

theorem settled_resolve_ne {d : Deferred β} (h : d.settled ≠ some .reject) (value : β) :
    (d.resolve value).settled ≠ some .reject := by
  unfold Deferred.resolve
  cases hd : d.settled with
  | none => simp
  | some r => simpa [hd] using h

theorem forall_commands {s : Service β} {P : ServiceCommand β → Prop} :
    (∀ c ∈ s.commands, P c) ↔ ∀ (k : Nat) (c : ServiceCommand β), s.commands[k]? = some c → P c := by
  constructor
  · intro h k c hc
    exact h c (List.mem_of_getElem? hc)
  · intro h c hc
    obtain ⟨k, hk⟩ := List.mem_iff_getElem?.1 hc
    exact h k c hk

/-- What a reply to the command `k` does: this command has its reply, and the command that the table
has under the id is resolved. -/
theorem getElem?_reply {s : Service β} {k : Nat} {c : ServiceCommand β} (hc : s.commands[k]? = some c)
    (message : β) (j : Nat) : (s.reply k message).commands[j]? = (s.commands[j]?).map fun c' =>
      let c' := if j = k then { c' with reply := some (message, s.now) } else c'
      if c.id ≠ 0 ∧ s.resolvers c.id = some j then
        { c' with deferred := c'.deferred.resolve message } else c' := by
  unfold reply
  rw [hc]
  dsimp only
  unfold handleEnvelope resolve
  have hreply : (s.commands.modify k fun c => { c with reply := some (message, s.now) })[j]? =
      (s.commands[j]?).map fun c' =>
        if j = k then { c' with reply := some (message, s.now) } else c' := by
    simp only [List.getElem?_modify, eq_comm]
    rfl
  by_cases hid : c.id = 0
  · simp only [hid, ne_eq, not_true_eq_false, if_false, false_and, hreply]
  rw [if_pos hid]
  dsimp only
  rcases Option.eq_none_or_eq_some (s.resolvers c.id) with hnone | ⟨k', hk'⟩
  · simp only [hnone, hreply, reduceCtorEq, and_false, if_false]
  · simp only [hk', List.getElem?_modify, hreply]
    cases s.commands[j]? with
    | none => simp
    | some c' => simp [hid]

theorem resolvers_reply {s : Service β} {k : Nat} {c : ServiceCommand β} (hc : s.commands[k]? = some c)
    (message : β) (i : Nat) : (s.reply k message).resolvers i =
      if c.id ≠ 0 ∧ i = c.id then none else s.resolvers i := by
  unfold reply
  rw [hc]
  dsimp only
  unfold handleEnvelope resolve
  by_cases hid : c.id = 0
  · simp [hid]
  rw [if_pos hid]
  dsimp only
  by_cases hi : i = c.id
  · subst hi
    rcases Option.eq_none_or_eq_some (s.resolvers c.id) with hnone | ⟨k', hk'⟩
    · simp [hnone]
    · simp [hk', hid]
  · rcases Option.eq_none_or_eq_some (s.resolvers c.id) with hnone | ⟨k', hk'⟩
    · simp [hnone, hi]
    · simp [hk', hi]

theorem now_reply {s : Service β} (k : Nat) (message : β) : (s.reply k message).now = s.now := by
  unfold reply
  cases s.commands[k]? with
  | none => rfl
  | some c =>
    dsimp only
    unfold handleEnvelope resolve
    split
    · split <;> rfl
    · rfl

theorem Awaiting.reply {s : Service β} (h : s.Awaiting) {k : Nat} {c : ServiceCommand β}
    (hc : s.commands[k]? = some c) (message : β) : (s.reply k message).Awaiting := by
  refine ⟨fun i j hij => ?_, forall_commands.2 fun j c' hc' => ?_⟩
  · rw [resolvers_reply hc] at hij
    split at hij
    · cases hij
    · rename_i hother
      obtain ⟨c₀, hc₀, hid, hsettled⟩ := h.entry i j hij
      -- the entry that is resolved is another one
      have hnot : ¬ (c.id ≠ 0 ∧ s.resolvers c.id = some j) := by
        rintro ⟨hne, hentry⟩
        obtain ⟨c₁, hc₁, hid₁, -⟩ := h.entry _ _ hentry
        obtain rfl := Option.some.inj (hc₀.symm.trans hc₁)
        exact hother ⟨hne, hid.symm.trans hid₁⟩
      rw [getElem?_reply hc, hc₀, Option.map_some]
      refine ⟨_, rfl, ?_, ?_⟩
      · dsimp only
        rw [if_neg hnot]
        split <;> exact hid
      · dsimp only
        rw [if_neg hnot]
        split <;> exact hsettled
  · rw [getElem?_reply hc, Option.map_eq_some_iff] at hc'
    obtain ⟨c₀, hc₀, rfl⟩ := hc'
    have hkept := h.kept c₀ (List.mem_of_getElem? hc₀)
    dsimp only
    split
    · refine settled_resolve_ne ?_ message
      split <;> exact hkept
    · split <;> exact hkept

theorem Awaiting.step {s s' : Service β} {event : Event β} (h : s.Awaiting)
    (hstep : (system β).step s event s') : s'.Awaiting := by
  cases event with
  | command id =>
    simp only [system, Lts.ofNext, next] at hstep
    obtain ⟨-, heq⟩ := Option.ite_none_right_eq_some.1 hstep
    obtain rfl := Option.some.inj heq
    refine ⟨fun i k hik => ?_, fun c hc => ?_⟩
    · by_cases hi : i = id
      · subst hi
        simp only [runServiceCommand, Function.update_self, Option.some.injEq] at hik
        subst hik
        exact ⟨⟨i, ⟨s.now, true, none⟩, none⟩, by simp [runServiceCommand], rfl, rfl⟩
      · simp only [runServiceCommand, Function.update_of_ne hi] at hik
        obtain ⟨c, hc, hid, hsettled⟩ := h.entry i k hik
        have hlt : k < s.commands.length := (List.getElem?_eq_some_iff.1 hc).1
        exact ⟨c, by rw [runServiceCommand, List.getElem?_append_left hlt, hc], hid, hsettled⟩
    · rcases List.mem_append.1 hc with hc | hc
      · exact h.kept c hc
      · obtain rfl := List.mem_singleton.1 hc
        nofun
  | reply k message =>
    simp only [system, Lts.ofNext, next] at hstep
    obtain ⟨⟨c, hc, -⟩, heq⟩ := Option.ite_none_right_eq_some.1 hstep
    obtain rfl := Option.some.inj heq
    exact h.reply hc message
  | pass time =>
    obtain rfl := Option.some.inj hstep
    refine ⟨fun i k hik => ?_, fun c hc => ?_⟩
    · obtain ⟨c, hc, hid, hsettled⟩ := h.entry i k hik
      refine ⟨{ c with deferred := c.deferred.elapse (s.now + time) }, ?_, hid, ?_⟩
      · simp only [pass, List.getElem?_map, hc, Option.map_some]
      · exact (settled_elapse _ _).trans hsettled
    · obtain ⟨c₀, hc₀, rfl⟩ := List.mem_map.1 hc
      rw [settled_elapse]
      exact h.kept c₀ hc₀

/-! ### The condition -/

/-- A command without a reply that is settled as it should has not waited too long, and still
waits. -/
theorem CommandSettles.waits {now : Nat} {c : ServiceCommand β} (h : CommandSettles now c)
    (hreply : c.reply = none) (hkept : c.deferred.settled ≠ some .reject) :
    now ≤ c.deferred.start + GRPC_WAIT_TIMEOUT ∧ c.deferred.settled = none := by
  unfold CommandSettles at h
  rw [hreply] at h
  dsimp only at h
  split at h
  · rename_i hle
    exact ⟨hle, h⟩
  · exact absurd h hkept

/-- A reply settles its command exactly under the condition. -/
theorem settles_reply_iff {s : Service β} (h : s.Awaiting) (hs : s.Settles) {k : Nat}
    {c : ServiceCommand β} (hc : s.commands[k]? = some c) (hreply : c.reply = none) (message : β) :
    (s.reply k message).Settles ↔ c.id ≠ 0 ∧ s.resolvers c.id = some k := by
  have hmem := List.mem_of_getElem? hc
  obtain ⟨hin, hwaits⟩ := (hs.1 c hmem).waits hreply (h.kept c hmem)
  constructor
  · intro hafter
    by_contra hnot
    -- otherwise the promise is told nothing, and the answer was in time
    have hc' : (s.reply k message).commands[k]? =
        some { c with reply := some (message, s.now) } := by
      rw [getElem?_reply hc, hc, Option.map_some]
      dsimp only
      rw [if_neg hnot, if_pos rfl]
    have hsettles := hafter.1 _ (List.mem_of_getElem? hc')
    unfold CommandSettles at hsettles
    dsimp only at hsettles
    rw [if_pos hin, hwaits] at hsettles
    cases hsettles
  · intro hentry
    refine ⟨forall_commands.2 fun j c' hc' => ?_, fun i j hij c' hc' => ?_⟩
    · rw [getElem?_reply hc, Option.map_eq_some_iff] at hc'
      obtain ⟨c₀, hc₀, rfl⟩ := hc'
      rw [now_reply]
      by_cases hj : j = k
      · subst hj
        obtain rfl := Option.some.inj (hc.symm.trans hc₀)
        dsimp only
        rw [if_pos hentry, if_pos rfl]
        unfold CommandSettles
        dsimp only
        rw [show (c.deferred.resolve message).start = c.deferred.start from rfl, if_pos hin]
        show c.deferred.settled.or _ = _
        rw [hwaits, Option.none_or]
      · -- the entry is of the command that is answered
        have hnot : ¬ (c.id ≠ 0 ∧ s.resolvers c.id = some j) := by
          rintro ⟨-, hother⟩
          exact hj (Option.some.inj (hother.symm.trans hentry.2))
        dsimp only
        rw [if_neg hnot, if_neg hj]
        exact hs.1 c₀ (List.mem_of_getElem? hc₀)
    · obtain ⟨c₁, hc₁, -, hsettled⟩ := (h.reply hc message).entry i j hij
      obtain rfl := Option.some.inj (hc₁.symm.trans hc')
      exact hsettled

theorem settles_step_iff {s s' : Service β} {event : Event β} (h : s.Awaiting) (hs : s.Settles)
    (hstep : (system β).step s event s') : s'.Settles ↔ s.InTime event := by
  -- a promise that the table can settle is not settled
  have htable : ∀ id k, s'.resolvers id = some k → ∀ c ∈ s'.commands[k]?,
      c.deferred.settled = none := by
    intro id k hik c hc
    obtain ⟨c₁, hc₁, -, hsettled⟩ := (h.step hstep).entry id k hik
    obtain rfl := Option.some.inj (hc₁.symm.trans hc)
    exact hsettled
  cases event with
  | command id =>
    simp only [system, Lts.ofNext, next] at hstep
    obtain ⟨-, heq⟩ := Option.ite_none_right_eq_some.1 hstep
    obtain rfl := Option.some.inj heq
    refine iff_of_true ⟨fun c hc => ?_, htable⟩ trivial
    rcases List.mem_append.1 hc with hc | hc
    · exact hs.1 c hc
    · obtain rfl := List.mem_singleton.1 hc
      exact (if_pos (Nat.le_add_right _ _)).symm
  | reply k message =>
    simp only [system, Lts.ofNext, next] at hstep
    obtain ⟨⟨c, hc, hreply⟩, heq⟩ := Option.ite_none_right_eq_some.1 hstep
    obtain rfl := Option.some.inj heq
    rw [settles_reply_iff h hs hc (Option.isNone_iff_eq_none.1 hreply)]
    constructor
    · exact fun hentry => ⟨c, hc, hentry⟩
    · rintro ⟨c', hc', hentry⟩
      obtain rfl := Option.some.inj (hc.symm.trans hc')
      exact hentry
  | pass time =>
    obtain rfl := Option.some.inj hstep
    constructor
    · intro hafter c hc hreply
      have hsettles := hafter.1 _ (List.mem_map_of_mem
        (f := fun c => { c with deferred := c.deferred.elapse (s.now + time) }) hc)
      -- time rejects a promise only once it is over
      have hkept : (c.deferred.elapse (s.now + time)).settled ≠ some .reject := by
        rw [settled_elapse]
        exact h.kept c hc
      rw [← start_elapse c.deferred (s.now + time)]
      exact (hsettles.waits hreply hkept).1
    · intro htime
      refine ⟨fun c' hc' => ?_, htable⟩
      obtain ⟨c, hc, rfl⟩ := List.mem_map.1 hc'
      have hsettles := hs.1 c hc
      rcases Option.eq_none_or_eq_some c.reply with hreply | ⟨r, hreply⟩
      · have hwaits := (hsettles.waits hreply (h.kept c hc)).2
        unfold CommandSettles
        dsimp only
        rw [hreply, settled_elapse, start_elapse, hwaits]
        exact (if_pos (htime c hc hreply)).symm
      · unfold CommandSettles at hsettles ⊢
        dsimp only
        rw [hreply] at hsettles ⊢
        rw [settled_elapse, start_elapse]
        exact hsettles

/-- **Every command is settled by its own reply or else by its timer exactly when every event meets
the condition**: since no timer ever rejects, all replies must come in time. -/
theorem settles_iff_of_run {es : List (Event β)} {s : Service β} :
    (system β).Along Settles new es s ↔ ((system β).restrict InTime).Run new es s :=
  Lts.along_iff_restrict (I := Awaiting) (fun _ _ _ h hstep => h.step hstep)
    (fun _ _ _ h hs hstep => settles_step_iff h hs hstep)
    ⟨fun _ _ hentry => (by cases hentry), fun _ hc => absurd hc List.not_mem_nil⟩
    ⟨fun _ hc => absurd hc List.not_mem_nil, fun _ _ hentry => (by cases hentry)⟩

/-- The device does not reply: when the time has passed the promise is still not rejected. -/
theorem not_settles_of_silence : ∃ es s, (system Unit).Run new es s ∧ ¬ s.Settles := by
  obtain ⟨s, hrun, hs⟩ := Lts.exists_run_of_play (f := next) (G := fun _ _ => True) (new : Service Unit)
    [.command 7, .pass (GRPC_WAIT_TIMEOUT + 1)]
    (fun s => ∃ c ∈ s.commands[0]?, c.reply = none ∧ c.deferred.settled = none ∧
      c.deferred.start + GRPC_WAIT_TIMEOUT < s.now) (by decide +kernel)
  refine ⟨_, s, hrun.of_restrict, fun hsettles => ?_⟩
  obtain ⟨c, hc, hreply, hsettled, hlate⟩ := of_decide_eq_true hs
  have hwaits := (hsettles.1 c (List.mem_of_getElem? hc)).waits hreply (by rw [hsettled]; nofun)
  omega

end Service

end DeviceHub

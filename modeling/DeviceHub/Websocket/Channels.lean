import DeviceHub.Async.Lts
import DeviceHub.Util.NodeEmitter
import Mathlib.Algebra.Order.BigOperators.Group.List
import Mathlib.Algebra.GroupWithZero.Nat
import Mathlib.Algebra.Order.Group.Nat
import Mathlib.Data.List.Basic

/-!
# `units/websocket/index.js`

The channels that the connections of a websocket unit have joined.  All connections share one
subscriber socket and one emitter, which calls the listener of each connection that has joined the
channel of a message.  The subscriber socket counts how often it was subscribed to a channel.

## Main definitions

* `Subscriber` : a subscriber socket as its methods show it.
* `Channels`, `Channels.joinChannel`, `Channels.leaveChannel` : the unit and its functions.
* `Channels.Event`, `Channels.next` : what the clients do.
* `Channels.Serves` : the subscriptions and the listeners are those of the channels that were
  joined.
* `Channels.Joined` : the condition on an event.

## Main results

* `Channels.serves_iff` : the runs in which this holds are the ones whose events meet the condition.
* `Channels.Serves.accepts` : who has joined a channel receives its messages.
-/

namespace DeviceHub

theorem sum_map_modify {α : Type} (g : α → ℕ) (f : α → α) {l : List α} {i : ℕ} {a : α}
    (h : l[i]? = some a) : ((l.modify i f).map g).sum + g a = (l.map g).sum + g (f a) := by
  induction l generalizing i with
  | nil => cases h
  | cons c l ih =>
    cases i with
    | zero =>
      obtain rfl := Option.some.inj h
      simp only [List.modify_zero_cons, List.map_cons, List.sum_cons]
      omega
    | succ i =>
      have hrest := ih h
      simp only [List.modify_succ_cons, List.map_cons, List.sum_cons]
      omega

/-- What the code relies on in a subscriber socket: a filter is attached as often as it was
subscribed to, and a message is received when a filter is the beginning of its channel. -/
class Subscriber where
  State : Type
  new : State
  subscribe : State → String → State
  unsubscribe : State → String → State
  /-- How many instances of a filter are attached. -/
  instances : State → String → ℕ
  instances_new : ∀ filter, instances new filter = 0
  instances_subscribe : ∀ s f filter, instances (subscribe s f) filter =
    if f = filter then instances s filter + 1 else instances s filter
  instances_unsubscribe : ∀ s f filter, instances (unsubscribe s f) filter =
    if f = filter then instances s filter - 1 else instances s filter

namespace Subscriber

/-- The socket receives the messages of the channel. -/
def Accepts [Subscriber] (s : State) (channel : String) : Prop :=
  ∃ filter, 0 < instances s filter ∧ filter.toList <+: channel.toList

end Subscriber

namespace Subscriber.Table

/-- A socket as a table. -/
scoped instance table : Subscriber where
  State := String → ℕ
  new := fun _ => 0
  subscribe s f := Function.update s f (s f + 1)
  unsubscribe s f := Function.update s f (s f - 1)
  instances s filter := s filter
  instances_new _ := rfl
  instances_subscribe s f filter := by
    rw [Function.update_apply]
    by_cases h : f = filter
    · subst h
      simp
    · rw [if_neg h, if_neg (Ne.symm h)]
  instances_unsubscribe s f filter := by
    rw [Function.update_apply]
    by_cases h : f = filter
    · subst h
      simp
    · rw [if_neg h, if_neg (Ne.symm h)]

end Subscriber.Table

/-- `wireutil.global`. -/
def globalChannel : String := "*ALL"

/-- A connection; its listener has its number. -/
structure SocketChannels where
  connected : Bool
  channels : List String
  deriving DecidableEq

namespace SocketChannels

/-- How often the connection keeps the channel subscribed. -/
def uses (socket : SocketChannels) (channel : String) : ℕ :=
  if socket.connected then socket.channels.count channel else 0

/-- How often the listener of the connection is called for a message. -/
def calls (socket : SocketChannels) (channel : String) : ℕ :=
  if socket.connected then
    socket.channels.count channel + if channel = globalChannel then 1 else 0
  else 0

/-- `_.pull(channels, channel)` removes every occurrence. -/
def pull (socket : SocketChannels) (channel : String) : SocketChannels :=
  { socket with channels := socket.channels.filter (· ≠ channel) }

variable {socket : SocketChannels} {channel : String}

theorem count_pull (channels : List String) (c : String) :
    (channels.filter (· ≠ channel)).count c = if c = channel then 0 else channels.count c := by
  by_cases hc : c = channel
  · rw [if_pos hc]
    exact List.count_eq_zero.2 fun hmem => by simp [hc] at hmem
  · rw [if_neg hc, List.count_filter (by simpa using hc)]

theorem uses_pull (c : String) :
    (socket.pull channel).uses c = if c = channel then 0 else socket.uses c := by
  unfold uses pull
  rw [count_pull]
  cases socket.connected <;> simp

section Calls

variable (socket channel)

theorem calls_eq : socket.calls channel = socket.uses channel +
    if socket.connected ∧ channel = globalChannel then 1 else 0 := by
  unfold calls uses
  cases socket.connected <;> simp

theorem calls_le :
    socket.calls channel ≤ socket.uses channel + if channel = globalChannel then 1 else 0 := by
  rw [calls_eq]
  refine Nat.add_le_add_left ?_ _
  by_cases hc : channel = globalChannel
  · rw [if_pos hc]
    split <;> omega
  · rw [if_neg hc, if_neg fun h => hc h.2]

theorem calls_pull (c : String) : (socket.pull channel).calls c +
    (if c = channel then socket.uses c else 0) = socket.calls c := by
  rw [calls_eq, calls_eq, uses_pull]
  by_cases hc : c = channel
  · rw [if_pos hc, if_pos hc, Nat.zero_add, Nat.add_comm]
    rfl
  · rw [if_neg hc, if_neg hc]
    rfl

end Calls

end SocketChannels

/-- The unit: its connections, the emitter that calls their listeners and the subscriber socket. -/
structure Channels [NodeEmitter ℕ] [Subscriber] where
  sockets : List SocketChannels
  channelRouter : NodeEmitter.State ℕ
  sub : Subscriber.State

namespace Channels

open NodeEmitter Subscriber

variable [NodeEmitter ℕ] [Subscriber]

/-- The unit after its start. -/
def initial : Channels := ⟨[], NodeEmitter.new, subscribe Subscriber.new globalChannel⟩

/-- The connection joins the channel. -/
def joinChannel (s : Channels) (i : ℕ) (channel : String) : Channels where
  sockets := s.sockets.modify i fun socket =>
    { socket with channels := socket.channels ++ [channel] }
  channelRouter := on s.channelRouter channel i
  sub := subscribe s.sub channel

/-- The connection leaves the channel. -/
def leaveChannel (s : Channels) (i : ℕ) (channel : String) : Channels where
  sockets := s.sockets.modify i fun socket => socket.pull channel
  channelRouter := removeListener s.channelRouter channel i
  sub := unsubscribe s.sub channel

/-- The listener of a new connection is registered for every message, and the private channel of the
user is joined. -/
def connection (s : Channels) (group : String) : Channels :=
  joinChannel
    { s with
      sockets := s.sockets ++ [⟨true, []⟩]
      channelRouter := on s.channelRouter globalChannel s.sockets.length }
    s.sockets.length group

/-- What is done for each channel when the connection is closed; the list stays as it is. -/
def forget (s : Channels) (i : ℕ) (channel : String) : Channels :=
  { s with
    channelRouter := removeListener s.channelRouter channel i
    sub := unsubscribe s.sub channel }

/-- The connection is closed. -/
def disconnect (s : Channels) (i : ℕ) (socket : SocketChannels) : Channels :=
  socket.channels.foldl (fun s channel => s.forget i channel)
    { s with
      sockets := s.sockets.modify i fun socket => { socket with connected := false }
      channelRouter := removeListener s.channelRouter globalChannel i }

/-! ### Events -/

/-- What the clients do.  A channel is left on `tx.cleanup`, or when an upload has failed, which may
be later than the end of the connection; and `device.getApps` is debounced, so that its join may
also come after the connection has ended. -/
inductive Event where
  | connection (group : String)
  | join (i : ℕ) (channel : String)
  | leave (i : ℕ) (channel : String)
  | disconnect (i : ℕ)
  deriving DecidableEq

/-- What an event does; a connection ends once. -/
def next (s : Channels) : Event → Option Channels
  | .connection group => some (s.connection group)
  | .join i channel => (s.sockets[i]?).map fun _ => s.joinChannel i channel
  | .leave i channel => (s.sockets[i]?).map fun _ => s.leaveChannel i channel
  | .disconnect i =>
    (s.sockets[i]?).bind fun socket =>
      if socket.connected then some (s.disconnect i socket) else none

/-- The runs of the unit. -/
def system : Lts Channels Event := .ofNext next

/-! ### What the functions change -/

variable {s s' : Channels} {i : ℕ} {socket : SocketChannels} {channel : String}

section Forget

variable (channels : List String)

theorem foldl_forget_sockets (s : Channels) :
    (channels.foldl (fun s channel => s.forget i channel) s).sockets = s.sockets := by
  induction channels generalizing s with
  | nil => rfl
  | cons channel channels ih => exact ih (s.forget i channel)

theorem instances_foldl_forget (s : Channels) :
    instances (channels.foldl (fun s channel => s.forget i channel) s).sub channel =
      instances s.sub channel - channels.count channel := by
  induction channels generalizing s with
  | nil => rfl
  | cons c channels ih =>
    rw [List.foldl_cons, ih, forget, instances_unsubscribe, List.count_cons]
    by_cases hc : c = channel
    · simp only [hc, if_true, beq_self_eq_true]
      omega
    · simp [hc]

theorem count_foldl_forget (s : Channels) (j : ℕ) :
    (listeners (channels.foldl (fun s channel => s.forget i channel) s).channelRouter
        channel).count j =
      (listeners s.channelRouter channel).count j -
        if i = j then channels.count channel else 0 := by
  induction channels generalizing s with
  | nil => simp
  | cons c channels ih =>
    rw [List.foldl_cons, ih, forget, count_removeListener, List.count_cons, Nat.sub_sub]
    by_cases hi : i = j
    · by_cases hc : c = channel
      · simp [hi, hc, Nat.add_comm]
      · simp [hi, hc]
    · simp [hi]

end Forget

/-- **The connections are served**: a channel is subscribed as often as the connections have joined
it, and the listener of a connection is registered as often as the connection has joined it. -/
structure Serves (s : Channels) : Prop where
  subscribed : ∀ channel, instances s.sub channel =
    (if channel = globalChannel then 1 else 0) + (s.sockets.map (·.uses channel)).sum
  listening : ∀ i channel, (listeners s.channelRouter channel).count i =
    (s.sockets[i]?).elim 0 (·.calls channel)

/-- The condition: a connection joins before it has ended, and it leaves what it has joined once, or
what nobody is subscribed to. -/
def Joined (s : Channels) : Event → Prop
  | .join i _ => ∃ socket ∈ s.sockets[i]?, socket.connected = true
  | .leave i channel =>
    (∃ socket ∈ s.sockets[i]?, socket.uses channel = 1) ∨ instances s.sub channel = 0
  | _ => True

/-! ### The functions -/

section Steps

variable {s s' : Channels} {i : ℕ} {socket : SocketChannels} {channel : String}

theorem Serves.joinChannel (h : s.Serves) (hsocket : s.sockets[i]? = some socket)
    (hconnected : socket.connected = true) : (s.joinChannel i channel).Serves where
  subscribed c := by
    have hsum := sum_map_modify (·.uses c)
      (fun socket => { socket with channels := socket.channels ++ [channel] }) hsocket
    have hsubscribed := h.subscribed c
    unfold Channels.joinChannel
    simp only [SocketChannels.uses, hconnected, if_true, List.count_append,
      List.count_singleton] at hsum ⊢
    simp only [SocketChannels.uses] at hsubscribed
    rw [instances_subscribe]
    by_cases hc : channel = c
    · rw [if_pos hc]
      simp only [hc, beq_self_eq_true, if_true] at hsum
      simp only [hc]
      omega
    · rw [if_neg hc]
      simp only [hc, beq_iff_eq, if_false] at hsum
      omega
  listening j c := by
    have hlistening := h.listening j c
    unfold Channels.joinChannel
    rw [count_on, hlistening, List.getElem?_modify]
    by_cases hj : i = j
    · subst hj
      rw [hsocket]
      by_cases hc : channel = c
      · simp [SocketChannels.calls, hconnected, hc]
        omega
      · simp [SocketChannels.calls, hconnected, hc]
    · simp [hj]

theorem Serves.joinChannel_iff (h : s.Serves) (hsocket : s.sockets[i]? = some socket) :
    (s.joinChannel i channel).Serves ↔ socket.connected = true := by
  refine ⟨fun h' => ?_, h.joinChannel hsocket⟩
  by_contra hconnected
  have hsum := sum_map_modify (·.uses channel)
    (fun socket => { socket with channels := socket.channels ++ [channel] }) hsocket
  have hsubscribed := h.subscribed channel
  have hsubscribed' := h'.subscribed channel
  simp only [Channels.joinChannel, instances_subscribe, if_true] at hsubscribed'
  simp only [SocketChannels.uses, hconnected, if_false] at hsum hsubscribed hsubscribed'
  omega

theorem Serves.connection (h : s.Serves) (group : String) : (s.connection group).Serves := by
  have hnew : ({ s with
      sockets := s.sockets ++ [⟨true, []⟩]
      channelRouter := on s.channelRouter globalChannel s.sockets.length } : Channels).Serves := by
    refine ⟨fun c => ?_, fun j c => ?_⟩
    · rw [List.map_append, List.sum_append]
      simpa [SocketChannels.uses] using h.subscribed c
    · dsimp only
      rw [count_on, h.listening j c]
      rcases Nat.lt_trichotomy j s.sockets.length with hj | hj | hj
      · rw [List.getElem?_append_left hj, if_neg fun heq => by omega, Nat.add_zero]
      · subst hj
        rw [List.getElem?_concat_length, List.getElem?_eq_none (Nat.le_refl _)]
        by_cases hc : globalChannel = c
        · simp [SocketChannels.calls, hc]
        · simp [SocketChannels.calls, hc, Ne.symm hc]
      · have hnone : (s.sockets ++ [⟨true, []⟩])[j]? = none :=
          List.getElem?_eq_none (by rw [List.length_append, List.length_singleton]; omega)
        rw [hnone, List.getElem?_eq_none (Nat.le_of_lt hj), if_neg fun heq => by omega,
          Nat.add_zero]
  exact hnew.joinChannel (List.getElem?_concat_length) rfl

theorem Serves.disconnect (h : s.Serves) (hsocket : s.sockets[i]? = some socket)
    (hconnected : socket.connected = true) : (s.disconnect i socket).Serves where
  subscribed c := by
    have hsum := sum_map_modify (·.uses c)
      (fun socket => { socket with connected := false }) hsocket
    have hsubscribed := h.subscribed c
    unfold Channels.disconnect
    rw [foldl_forget_sockets, instances_foldl_forget]
    simp only [SocketChannels.uses, hconnected, if_true, Bool.false_eq_true, if_false] at hsum ⊢
    simp only [SocketChannels.uses] at hsubscribed
    omega
  listening j c := by
    have hlistening := h.listening j c
    unfold Channels.disconnect
    rw [foldl_forget_sockets, count_foldl_forget, count_removeListener, hlistening,
      List.getElem?_modify]
    by_cases hj : i = j
    · subst hj
      rw [hsocket]
      by_cases hglobal : globalChannel = c
      · simp [SocketChannels.calls, hglobal, hconnected]
      · simp [SocketChannels.calls, hglobal, Ne.symm hglobal, hconnected]
    · simp [hj]

section Leave

variable (s i channel)

theorem leaveChannel_sockets (hsocket : s.sockets[i]? = some socket) (j : ℕ) :
    (s.leaveChannel i channel).sockets[j]? =
      if i = j then some (socket.pull channel) else s.sockets[j]? := by
  unfold Channels.leaveChannel
  rw [List.getElem?_modify]
  by_cases hj : i = j
  · subst hj
    simp [hsocket]
  · simp [hj]

theorem leaveChannel_instances (c : String) : instances (s.leaveChannel i channel).sub c =
    if channel = c then instances s.sub c - 1 else instances s.sub c :=
  Subscriber.instances_unsubscribe _ _ _

theorem leaveChannel_count (j : ℕ) (c : String) :
    (listeners (s.leaveChannel i channel).channelRouter c).count j =
      (listeners s.channelRouter c).count j - if channel = c ∧ i = j then 1 else 0 :=
  NodeEmitter.count_removeListener _ _ _ _ _

theorem leaveChannel_uses (hsocket : s.sockets[i]? = some socket) (c : String) :
    ((s.leaveChannel i channel).sockets.map (·.uses c)).sum + socket.uses c =
      (s.sockets.map (·.uses c)).sum + if c = channel then 0 else socket.uses c := by
  rw [← SocketChannels.uses_pull c]
  exact sum_map_modify (·.uses c) (·.pull channel) hsocket

end Leave

/-- Leaving a channel keeps to it when the connection has joined the channel once, or nobody is
subscribed to it. -/
theorem Serves.leaveChannel_iff (h : s.Serves) (hsocket : s.sockets[i]? = some socket) :
    (s.leaveChannel i channel).Serves ↔
      socket.uses channel = 1 ∨ instances s.sub channel = 0 := by
  have hown := h.subscribed channel
  have hsum := leaveChannel_uses s i channel hsocket
  have hownsum := hsum channel
  rw [if_pos rfl] at hownsum
  constructor
  · intro h'
    have hsubscribed := h'.subscribed channel
    rw [leaveChannel_instances, if_pos rfl] at hsubscribed
    omega
  · intro hjoined
    refine ⟨fun c => ?_, fun j c => ?_⟩
    · have hsumc := hsum c
      rw [leaveChannel_instances, h.subscribed c]
      by_cases hc : channel = c
      · subst hc
        rw [if_pos rfl] at hsumc ⊢
        omega
      · rw [if_neg (Ne.symm hc)] at hsumc
        rw [if_neg hc]
        omega
    · rw [leaveChannel_count, h.listening, leaveChannel_sockets s i channel hsocket]
      by_cases hj : i = j
      · subst hj
        have hpull := socket.calls_pull channel c
        rw [if_pos rfl, hsocket, Option.elim_some, Option.elim_some]
        by_cases hc : channel = c
        · subst hc
          have hcalls := socket.calls_le channel
          rw [if_pos rfl] at hpull
          rw [if_pos ⟨rfl, rfl⟩]
          omega
        · rw [if_neg (Ne.symm hc)] at hpull
          rw [if_neg fun heq => hc heq.1]
          omega
      · rw [if_neg fun heq => hj heq.2, if_neg hj]
        rfl

theorem Serves.accepts (h : s.Serves) (hsocket : s.sockets[i]? = some socket)
    (hcalls : 0 < socket.calls channel) : Accepts s.sub channel := by
  refine ⟨channel, ?_, List.prefix_rfl⟩
  have hmem : socket.uses channel ≤ (s.sockets.map (·.uses channel)).sum :=
    List.single_le_sum (fun _ _ => Nat.zero_le _) _
      (List.mem_map.2 ⟨socket, List.mem_of_getElem? hsocket, rfl⟩)
  have hsubscribed := h.subscribed channel
  have huses := socket.calls_le channel
  omega

/-- When every connection has ended nothing is left but the subscription to every message. -/
theorem Serves.of_closed (h : s.Serves)
    (hclosed : ∀ socket ∈ s.sockets, socket.connected = false) (channel : String) :
    instances s.sub channel = (if channel = globalChannel then 1 else 0) ∧
      listeners s.channelRouter channel = [] := by
  constructor
  · have hzero : (s.sockets.map (·.uses channel)).sum = 0 := List.sum_eq_zero fun n hn => by
      obtain ⟨socket, hmem, rfl⟩ := List.mem_map.1 hn
      simp [SocketChannels.uses, hclosed socket hmem]
    rw [h.subscribed, hzero, Nat.add_zero]
  · refine List.eq_nil_iff_forall_not_mem.2 fun i hi => ?_
    have hcount := h.listening i channel
    have hpos := List.count_pos_iff.2 hi
    rw [hcount] at hpos
    cases hsocket : s.sockets[i]? with
    | none => simp [hsocket] at hpos
    | some socket =>
      simp [hsocket, SocketChannels.calls, hclosed socket (List.mem_of_getElem? hsocket)] at hpos

end Steps

theorem serves_initial : (initial : Channels).Serves where
  subscribed c := by
    unfold initial
    rw [instances_subscribe, instances_new]
    by_cases hc : globalChannel = c
    · simp [hc]
    · simp [hc, Ne.symm hc]
  listening j c := by
    unfold initial
    rw [listeners_new]
    rfl

/-- **The connections are served** in exactly the runs in which no connection joins a channel after
its end, and each channel that is left was joined once by the connection that leaves it, or has no
subscription. -/
theorem serves_iff {s' : Channels} {events : List Event} :
    system.Along Serves initial events s' ↔ (system.restrict Joined).Run initial events s' := by
  refine Lts.along_iff_restrict (I := fun _ => True) (fun _ _ _ _ _ => trivial)
    (fun s event s' _ h hnext => ?_) trivial serves_initial
  cases event with
  | connection group =>
    obtain rfl := Option.some.inj hnext
    exact iff_of_true (h.connection group) trivial
  | join i channel =>
    obtain ⟨socket, hsocket, rfl⟩ := Option.map_eq_some_iff.1 hnext
    rw [h.joinChannel_iff hsocket]
    simp [Joined, hsocket]
  | leave i channel =>
    obtain ⟨socket, hsocket, rfl⟩ := Option.map_eq_some_iff.1 hnext
    rw [h.leaveChannel_iff hsocket]
    simp [Joined, hsocket]
  | disconnect i =>
    obtain ⟨socket, hsocket, hnext⟩ := Option.bind_eq_some_iff.1 hnext
    obtain ⟨hconnected, hnext⟩ := Option.ite_none_right_eq_some.1 hnext
    obtain rfl := Option.some.inj hnext
    exact iff_of_true (h.disconnect hsocket hconnected) trivial

end Channels

open Channels NodeEmitter Subscriber NodeEmitter.Table Subscriber.Table in
/-- A connection that has joined a channel twice and leaves it is called for its messages, but no
longer knows that it is subscribed to them. -/
example :
    let s := ((initial.connection "group").joinChannel 0 "device").joinChannel 0 "device"
    let s' := s.leaveChannel 0 "device"
    (instances s'.sub "device", listeners s'.channelRouter "device", s'.sockets) =
      (1, [0], [⟨true, ["group"]⟩]) := by
  decide

end DeviceHub

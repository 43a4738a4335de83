import DeviceHub.Async.Lts
import DeviceHub.Async.Order

/-!
# `units/websocket/index.js`

The channels of the devices that the user of a websocket controls.  The listener for
`JoinGroupMessage` changes them once it has looked up the device, the one for `LeaveGroupMessage`
does not.

## Main definitions

* `Socket` : the connection of a user, with the lookups that are under way.
* `Socket.deviceIsOwned`, `Socket.trySendPush` : what the user may send commands to.
* `Socket.Entitled` : the user may send commands only to devices that the user holds.
* `Socket.InTurn` : the condition on an event.

## Main results

* `Socket.entitled_of_run` : in a run whose events meet the condition the user is entitled.
* `Socket.not_entitled_of_leave` : a user who has left the device still types on it.
-/

namespace DeviceHub

/-- A message that a device has joined the group of `owner`, or has left it. -/
inductive OwnerMessage where
  | join (serial : String) (owner : Option String)
  | leave (serial : String)
  deriving DecidableEq

/-- The device that a message is about. -/
def OwnerMessage.serial : OwnerMessage → String
  | .join serial _ => serial
  | .leave serial => serial

/-- A device whose lookup is under way, and the email of the owner in the message. -/
structure Lookup where
  serial : String
  owner : Option String
  deriving DecidableEq

/-- The connection of the user `email`.  The set of channels is created by the first lookup. -/
structure Socket where
  email : String
  ownedChannels : Option (List String)
  lookups : List Lookup
  /-- The messages that were received. -/
  received : List OwnerMessage
  deriving DecidableEq

namespace Socket

/-- A new connection. -/
def new (email : String) : Socket := ⟨email, none, [], []⟩

/-- `user?.ownedChannels?.has(channel)` -/
def deviceIsOwned (s : Socket) (channel : String) : Bool :=
  s.ownedChannels.any fun channels => channels.contains channel

/-- What is sent for the arguments: a channel and an envelope. -/
def trySendPush {α : Type} (s : Socket) (args : String × α) : Option (String × α) :=
  if s.deviceIsOwned args.1 then some args else none

/-- The listener for `JoinGroupMessage` starts a lookup. -/
def onJoinGroupMessage (s : Socket) (serial : String) (owner : Option String) : Socket :=
  { s with
    lookups := s.lookups ++ [⟨serial, owner⟩]
    received := s.received ++ [.join serial owner] }

/-- The listener for `LeaveGroupMessage` only tells the browser. -/
def onLeaveGroupMessage (s : Socket) (serial : String) : Socket :=
  { s with received := s.received ++ [.leave serial] }

/-- What follows the lookup of a device, whose channel is `channel`. -/
def onApplications (s : Socket) (lookup : Lookup) (channel : String) : Socket :=
  let channels := s.ownedChannels.getD []
  { s with
    ownedChannels := some <|
      if lookup.owner = some s.email then
        if channels.contains channel then channels else channels ++ [channel]
      else if channels.contains channel then channels.filter (· ≠ channel)
      else channels }

/-! ### Runs -/

/-- What can happen to a connection. -/
inductive Event where
  | join (serial : String) (owner : Option String)
  | leave (serial : String)
  /-- The lookup with this number is completed. -/
  | lookup (i : Nat)
  deriving DecidableEq

variable (channelOf : String → String)

/-- The channel of the device `serial` is `channelOf serial`. -/
def next (s : Socket) : Event → Option Socket
  | .join serial owner => some (s.onJoinGroupMessage serial owner)
  | .leave serial => some (s.onLeaveGroupMessage serial)
  | .lookup i => (s.lookups[i]?).map fun lookup =>
      { s with lookups := s.lookups.eraseIdx i }.onApplications lookup (channelOf lookup.serial)

/-- Messages and lookups; the lookups are completed in any order. -/
def system : Lts Socket Event := .ofNext (next channelOf)

/-- The last message about the device. -/
def last (s : Socket) (serial : String) : Option OwnerMessage :=
  (s.received.filter fun m => m.serial = serial).getLast?

/-- The user holds the device: the last message about it is that it has joined the user's group. -/
def Holds (s : Socket) (serial : String) : Prop := s.last serial = some (.join serial (some s.email))

instance (s : Socket) (serial : String) : Decidable (s.Holds serial) :=
  inferInstanceAs (Decidable (_ = _))

/-- Commands are forwarded only to devices that the user holds. -/
def Entitled (s : Socket) : Prop :=
  ∀ channel, s.deviceIsOwned channel = true → ∃ serial, channelOf serial = channel ∧ s.Holds serial

/-- The condition: the lookups of a device are completed in the order of the messages, and a device
is left only when the user does not hold it. -/
def InTurn (s : Socket) : Event → Prop
  | .join _ _ => True
  | .leave serial => ¬ s.Holds serial
  | .lookup i => ∀ lookup ∈ s.lookups[i]?, ∀ earlier ∈ s.lookups.take i,
      channelOf earlier.serial ≠ channelOf lookup.serial

instance (s : Socket) (event : Event) : Decidable (s.InTurn channelOf event) := by
  unfold InTurn
  split <;> infer_instance

/-! ### What the lookups will do -/

variable {channelOf} {s : Socket}

theorem deviceIsOwned_onApplications {lookup : Lookup} {channel c : String} :
    (s.onApplications lookup channel).deviceIsOwned c = true ↔
      if c = channel then lookup.owner = some s.email else s.deviceIsOwned c = true := by
  have howned : s.deviceIsOwned c = (s.ownedChannels.getD []).contains c := by
    unfold deviceIsOwned
    cases s.ownedChannels <;> rfl
  unfold onApplications
  rw [howned]
  simp only [deviceIsOwned, Option.any_some]
  by_cases hc : c = channel
  · subst hc
    rw [if_pos rfl]
    by_cases howner : lookup.owner = some s.email
    · simp only [howner, if_true, iff_true]
      split
      · assumption
      · simp
    · simp only [howner, if_false, iff_false]
      split
      · simp
      · assumption
  · rw [if_neg hc]
    split
    · split
      · rfl
      · simp [hc]
    · split
      · simp [hc]
      · rfl

variable (channelOf) in
/-- The channel is owned when all lookups have been completed in their order. -/
def WillOwn (s : Socket) (channel : String) : Prop :=
  match (s.lookups.filter fun l => channelOf l.serial = channel).getLast? with
  | some lookup => lookup.owner = some s.email
  | none => s.deviceIsOwned channel = true

theorem willOwn_of_getLast? {channel : String} {lookup : Lookup}
    (h : (s.lookups.filter fun l => channelOf l.serial = channel).getLast? = some lookup) :
    s.WillOwn channelOf channel ↔ lookup.owner = some s.email := by
  unfold WillOwn
  rw [h]

theorem willOwn_of_none {channel : String}
    (h : (s.lookups.filter fun l => channelOf l.serial = channel) = []) :
    s.WillOwn channelOf channel ↔ s.deviceIsOwned channel = true := by
  unfold WillOwn
  rw [h]
  rfl

theorem willOwn_congr {s' : Socket} {channel : String} (hemail : s'.email = s.email)
    (hlookups : s'.lookups.filter (fun l => channelOf l.serial = channel) =
      s.lookups.filter fun l => channelOf l.serial = channel)
    (howned : s'.deviceIsOwned channel = true ↔ s.deviceIsOwned channel = true) :
    s'.WillOwn channelOf channel ↔ s.WillOwn channelOf channel := by
  unfold WillOwn
  rw [hlookups, hemail]
  cases (s.lookups.filter fun l => channelOf l.serial = channel).getLast? with
  | none => exact howned
  | some lookup => exact Iff.rfl

variable (channelOf) in
/-- Every channel that will be owned is that of a device that the user holds. -/
def WillBeEntitled (s : Socket) : Prop :=
  ∀ channel, s.WillOwn channelOf channel → ∃ serial, channelOf serial = channel ∧ s.Holds serial

theorem last_of_received {s' : Socket} {m : OwnerMessage} (h : s'.received = s.received ++ [m])
    (serial : String) : s'.last serial = if m.serial = serial then some m else s.last serial := by
  unfold last
  rw [h, List.filter_append]
  by_cases hm : m.serial = serial
  · simp [hm]
  · simp [hm]

theorem willBeEntitled_join (h : s.WillBeEntitled channelOf) (serial : String)
    (owner : Option String) : (s.onJoinGroupMessage serial owner).WillBeEntitled channelOf := by
  intro channel hwill
  by_cases hchannel : channelOf serial = channel
  · -- the lookup for this message is the last one
    have hlast : ((s.onJoinGroupMessage serial owner).lookups.filter
        fun l => channelOf l.serial = channel).getLast? = some ⟨serial, owner⟩ := by
      simp [onJoinGroupMessage, List.filter_append, hchannel]
    have howner : owner = some s.email := (willOwn_of_getLast? hlast).1 hwill
    refine ⟨serial, hchannel, ?_⟩
    unfold Holds
    rw [last_of_received rfl, howner]
    exact if_pos rfl
  · have hsame : (s.onJoinGroupMessage serial owner).WillOwn channelOf channel ↔
        s.WillOwn channelOf channel := by
      refine willOwn_congr rfl ?_ Iff.rfl
      simp [onJoinGroupMessage, List.filter_append, hchannel]
    obtain ⟨x, hx, hholds⟩ := h channel (hsame.1 hwill)
    refine ⟨x, hx, ?_⟩
    have hne : serial ≠ x := fun heq => hchannel (heq ▸ hx)
    unfold Holds at hholds ⊢
    rw [last_of_received rfl]
    exact (if_neg hne).trans hholds

theorem willBeEntitled_leave (h : s.WillBeEntitled channelOf) {serial : String}
    (hfree : ¬ s.Holds serial) : (s.onLeaveGroupMessage serial).WillBeEntitled channelOf := by
  intro channel hwill
  obtain ⟨x, hx, hholds⟩ := h channel hwill
  refine ⟨x, hx, ?_⟩
  -- the device that is left is not the one that the user holds
  have hne : serial ≠ x := fun heq => hfree (heq ▸ hholds)
  unfold Holds at hholds ⊢
  rw [last_of_received rfl]
  exact (if_neg hne).trans hholds

theorem willBeEntitled_lookup (h : s.WillBeEntitled channelOf) {i : Nat} {lookup : Lookup}
    (hlookup : s.lookups[i]? = some lookup)
    (hfirst : ∀ earlier ∈ s.lookups.take i, channelOf earlier.serial ≠ channelOf lookup.serial) :
    (onApplications { s with lookups := s.lookups.eraseIdx i } lookup
      (channelOf lookup.serial)).WillBeEntitled channelOf := by
  have hsplit : s.lookups = s.lookups.take i ++ lookup :: s.lookups.drop (i + 1) :=
    eq_take_append_drop hlookup
  have hrest : s.lookups.eraseIdx i = s.lookups.take i ++ s.lookups.drop (i + 1) :=
    List.eraseIdx_eq_take_drop_succ _ _
  intro channel hwill
  refine h channel ?_
  set s' : Socket := onApplications { s with lookups := s.lookups.eraseIdx i } lookup
    (channelOf lookup.serial) with hs'
  have howned : s'.deviceIsOwned channel = true ↔
      if channel = channelOf lookup.serial then lookup.owner = some s.email
      else s.deviceIsOwned channel = true := deviceIsOwned_onApplications
  by_cases hchannel : channelOf lookup.serial = channel
  · -- the lookup is the first one of its channel
    have hnone : (s.lookups.take i).filter (fun l => channelOf l.serial = channel) = [] := by
      refine List.filter_eq_nil_iff.2 fun earlier hearlier => ?_
      simpa [← hchannel] using hfirst earlier hearlier
    have hbefore : s.lookups.filter (fun l => channelOf l.serial = channel) =
        lookup :: (s.lookups.drop (i + 1)).filter fun l => channelOf l.serial = channel := by
      conv_lhs => rw [hsplit]
      rw [List.filter_append, hnone, List.nil_append, List.filter_cons_of_pos (by simpa using hchannel)]
    have hafter : s'.lookups.filter (fun l => channelOf l.serial = channel) =
        (s.lookups.drop (i + 1)).filter fun l => channelOf l.serial = channel := by
      show (s.lookups.eraseIdx i).filter _ = _
      rw [hrest, List.filter_append, hnone, List.nil_append]
    rcases List.eq_nil_or_concat ((s.lookups.drop (i + 1)).filter
      fun l => channelOf l.serial = channel) with hnil | ⟨others, newest, hlast⟩
    · rw [hnil] at hbefore hafter
      rw [willOwn_of_none hafter, howned, if_pos hchannel.symm] at hwill
      exact (willOwn_of_getLast? (by rw [hbefore]; rfl)).2 hwill
    · rw [hlast] at hbefore hafter
      rw [willOwn_of_getLast? (by rw [hafter, List.concat_eq_append, List.getLast?_append]; rfl)]
        at hwill
      have hnewest : (s.lookups.filter fun l => channelOf l.serial = channel).getLast? =
          some newest := by
        rw [hbefore, List.concat_eq_append, ← List.cons_append, List.getLast?_append]
        rfl
      exact (willOwn_of_getLast? hnewest).2 hwill
  · -- the lookups of the other channels stay
    have hsame : s'.WillOwn channelOf channel ↔ s.WillOwn channelOf channel := by
      refine willOwn_congr rfl ?_ ?_
      · show (s.lookups.eraseIdx i).filter _ = _
        rw [hrest]
        conv_rhs => rw [hsplit]
        rw [List.filter_append, List.filter_append,
          List.filter_cons_of_neg (by simpa using hchannel)]
      · rw [howned, if_neg (Ne.symm hchannel)]
    exact hsame.1 hwill

theorem willBeEntitled_step {s s' : Socket} {event : Event} (h : s.WillBeEntitled channelOf)
    (hturn : s.InTurn channelOf event) (hstep : (system channelOf).step s event s') :
    s'.WillBeEntitled channelOf := by
  cases event with
  | join serial owner =>
    obtain rfl := Option.some.inj hstep
    exact willBeEntitled_join h serial owner
  | leave serial =>
    obtain rfl := Option.some.inj hstep
    exact willBeEntitled_leave h hturn
  | lookup i =>
    obtain ⟨lookup, hlookup, rfl⟩ := Option.map_eq_some_iff.1 hstep
    exact willBeEntitled_lookup h hlookup (hturn lookup hlookup)

variable (channelOf) in
/-- **A user only controls devices that the user holds**, in every run whose events meet the
condition, once all lookups have been completed. -/
theorem entitled_of_run {email : String} {es : List Event} {s : Socket}
    (hrun : ((system channelOf).restrict (InTurn channelOf)).Run (new email) es s)
    (hdone : s.lookups = []) : s.Entitled channelOf := by
  have hstart : (new email).WillBeEntitled channelOf := by
    intro channel hwill
    cases hwill
  have hwill : s.WillBeEntitled channelOf := hrun.invariant_of_restrict hstart
    fun _ _ _ h hturn hstep => willBeEntitled_step h hturn hstep
  intro channel howned
  exact hwill channel ((willOwn_of_none (by rw [hdone]; rfl)).2 howned)

/-- Another user joins the device, and then the user does. -/
def takeOver : List Event :=
  [.join "d" (some "v"), .join "d" (some "u"), .lookup 0, .lookup 0]

theorem entitled_of_run_takeOver : ∃ s, ((system id).restrict (InTurn id)).Run (new "u") takeOver s ∧
    s.deviceIsOwned "d" = true ∧ s.Entitled id := by
  obtain ⟨s, hrun, hs⟩ := Lts.exists_run_of_play (f := next id) (G := InTurn id) (new "u") takeOver
    (fun s => s.deviceIsOwned "d" = true ∧ s.lookups = []) (by decide +kernel)
  obtain ⟨howned, hdone⟩ := of_decide_eq_true hs
  exact ⟨s, hrun, howned, entitled_of_run id hrun hdone⟩

/-- The user joins the device and leaves it; the commands of the user are forwarded as before. -/
theorem not_entitled_of_leave : ∃ s, (system id).Run (new "u")
    [.join "d" (some "u"), .lookup 0, .leave "d"] s ∧ s.lookups = [] ∧ ¬ s.Entitled id := by
  obtain ⟨s, hrun, hs⟩ := Lts.exists_run_of_play (f := next id) (G := fun _ _ => True) (new "u")
    [.join "d" (some "u"), .lookup 0, .leave "d"]
    (fun s => s.lookups = [] ∧ s.deviceIsOwned "d" = true ∧ ¬ s.Holds "d") (by decide +kernel)
  obtain ⟨hdone, howned, hfree⟩ := of_decide_eq_true hs
  refine ⟨s, hrun.of_restrict, hdone, fun h => ?_⟩
  obtain ⟨_, rfl, hholds⟩ := h "d" howned
  exact hfree hholds

end Socket

end DeviceHub

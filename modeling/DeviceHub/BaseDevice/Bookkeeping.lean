import DeviceHub.BaseDevice.Group
import Mathlib.Data.List.Chain

/-!
# The bookkeeping of the group of a device

The current group, the subscription, the table of channels and the messages that tell others about
joining and leaving agree after every event.

## Main definitions

* `GroupManager.Broadcast`, `GroupManager.broadcasts` : the messages about joining and leaving.
* `GroupManager.Kept` : the bookkeeping as an invariant.

## Main results

* `GroupManager.kept_of_run` : it holds after every run.
* `GroupManager.bookkeeping_of_run` : the same, spelled out.
-/

namespace DeviceHub

namespace BaseDevice

namespace GroupManager

/-- A message that tells others that the device has joined or left a group. -/
inductive Broadcast where
  | join (group : GroupState)
  | leave (group : GroupState)
  deriving DecidableEq

namespace Broadcast

/-- The broadcast tells that a group was joined. -/
def isJoin : Broadcast → Bool
  | .join _ => true
  | .leave _ => false

/-- The broadcast in a message that is pushed. -/
def ofMessage : String × WireMessage → Option Broadcast
  | (channel, .joinGroup _ owner _ _) => if channel = global then some (.join owner) else none
  | (channel, .leaveGroup _ owner _) => if channel = global then some (.leave owner) else none
  | _ => none

end Broadcast

/-- The broadcasts of the device, in the order in which they were pushed. -/
def broadcasts (d : GroupManager) : List Broadcast := d.sent.filterMap Broadcast.ofMessage

/-- The broadcasts that lead from no group to the current group. -/
inductive History : List Broadcast → Option GroupState → Prop
  | nil : History [] none
  | join {bs : List Broadcast} {group : GroupState} : History bs none →
      History (bs ++ [.join group]) (some group)
  | leave {bs : List Broadcast} {group : GroupState} : History bs (some group) →
      History (bs ++ [.leave group]) none

theorem History.last {bs : List Broadcast} {current : Option GroupState} (h : History bs current)
    (group : GroupState) : current = some group ↔ bs.getLast? = some (.join group) := by
  cases h with
  | nil => simp
  | join => simp
  | leave => simp

theorem History.head {bs : List Broadcast} {current : Option GroupState}
    (h : History bs current) : bs.head?.all Broadcast.isJoin := by
  induction h with
  | nil => rfl
  | @join bs group h ih => cases bs <;> first | rfl | exact ih
  | @leave bs group h ih =>
    cases bs with
    | nil => cases (h.last group).1 rfl
    | cons b bs => exact ih

theorem History.alternate {bs : List Broadcast} {current : Option GroupState}
    (h : History bs current) : bs.IsChain fun b b' => b.isJoin ≠ b'.isJoin := by
  have hlast : ∀ {bs : List Broadcast} {current : Option GroupState}, History bs current →
      ∀ b ∈ bs.getLast?, b.isJoin = current.isSome := by
    intro bs current h b hb
    cases h with
    | nil => cases hb
    | join =>
      rw [List.getLast?_concat] at hb
      obtain rfl := Option.some.inj hb
      rfl
    | leave =>
      rw [List.getLast?_concat] at hb
      obtain rfl := Option.some.inj hb
      rfl
  induction h with
  | nil => exact .nil
  | join h ih =>
    refine List.isChain_append.2 ⟨ih, .singleton _, fun b hb b' hb' => ?_⟩
    obtain rfl := Option.some.inj hb'
    rw [hlast h b hb]
    simp [Broadcast.isJoin]
  | leave h ih =>
    refine List.isChain_append.2 ⟨ih, .singleton _, fun b hb b' hb' => ?_⟩
    obtain rfl := Option.some.inj hb'
    rw [hlast h b hb]
    simp [Broadcast.isJoin]

/-- The bookkeeping.  The channel of the current group may be gone when it has timed out; then its
listener is yet to go on. -/
structure Kept (o : DeviceOptions) (d : GroupManager) : Prop where
  valid : ∀ g ∈ d.currentGroup, g.group ≠ ""
  subscribed : d.subscribed = (d.currentGroup.map GroupState.group).toList
  history : History d.broadcasts d.currentGroup
  unregistered : d.currentGroup = none → d.channels.Empty
  registered : ∀ g ∈ d.currentGroup, d.channels.Holds g.group o.solo ∨
    d.channels.Empty ∧ (g.group, g) ∈ d.timeouts

theorem kept_new (o : DeviceOptions) : Kept o new where
  valid _ h := by cases h
  subscribed := rfl
  history := .nil
  unregistered _ := ⟨fun _ => rfl, rfl⟩
  registered _ h := by cases h

variable {o : DeviceOptions} {d : GroupManager}

theorem broadcasts_push {channel : String} {message : WireMessage} :
    (d.push channel message).broadcasts =
      d.broadcasts ++ (Broadcast.ofMessage (channel, message)).toList := by
  unfold broadcasts push
  rw [List.filterMap_append]
  cases h : Broadcast.ofMessage (channel, message) <;> simp [h]

theorem Kept.push (h : Kept o d) {channel : String} {message : WireMessage}
    (hother : Broadcast.ofMessage (channel, message) = none) : Kept o (d.push channel message) := by
  refine ⟨h.valid, h.subscribed, ?_, h.unregistered, h.registered⟩
  rw [broadcasts_push, hother, Option.toList_none, List.append_nil]
  exact h.history

theorem Kept.emit (h : Kept o d) (event : GroupEvent) : Kept o (d.emit event) :=
  ⟨h.valid, h.subscribed, h.history, h.unregistered, h.registered⟩

theorem Kept.reply (h : Kept o d) (channel : String) (reply : Reply) :
    Kept o (d.reply o channel reply) := by
  cases reply with
  | okay => exact h.push rfl
  | fail message => exact h.push rfl

theorem Kept.channels (h : Kept o d) {channels : ChannelManager}
    (hempty : d.channels.Empty → channels.Empty)
    (hholds : ∀ id, d.channels.Holds id o.solo → channels.Holds id o.solo) :
    Kept o { d with channels := channels } :=
  ⟨h.valid, h.subscribed, h.history, fun hnone => hempty (h.unregistered hnone), fun g hg =>
    (h.registered g hg).imp (hholds g.group) fun ⟨hgone, ht⟩ => ⟨hempty hgone, ht⟩⟩

theorem Kept.keepalive (h : Kept o d) (id : String) (now : Int) :
    Kept o { d with channels := d.channels.keepalive id now } :=
  h.channels (fun he => he.assign) fun _ hh => hh.assign (fun _ => rfl) fun _ => rfl

theorem Kept.leave (h : Kept o d) (reason : String) : Kept o (d.leave o reason).2 := by
  unfold GroupManager.leave
  cases hd : d.currentGroup with
  | none => exact h
  | some g =>
    refine Kept.emit ⟨fun _ hg => by (cases hg), ?_, ?_, fun _ => ?_, fun _ hg => by (cases hg)⟩ _
    · show d.subscribed.erase g.group = []
      rw [h.subscribed, hd]
      simp
    · show History (d.push global (.leaveGroup o.serial g reason)).broadcasts none
      rw [broadcasts_push]
      have hhistory := h.history
      rw [hd] at hhistory
      exact .leave hhistory
    · show (d.channels.unregister g.group).Empty
      rcases h.registered g hd with hholds | ⟨hempty, -⟩
      · exact hholds.unregister
      · rw [hempty.unregister]
        exact hempty

theorem currentGroup_leave (reason : String) : (d.leave o reason).2.currentGroup = none := by
  unfold GroupManager.leave
  cases hd : d.currentGroup with
  | none => exact hd
  | some g => rfl

theorem Kept.timeouts (h : Kept o d) (hnone : d.currentGroup = none)
    (timeouts : List (String × GroupState)) : Kept o { d with timeouts := timeouts } := by
  refine ⟨h.valid, h.subscribed, h.history, h.unregistered, fun g hg => ?_⟩
  rw [show d.currentGroup = some g from hg] at hnone
  cases hnone

theorem timedOut_of_some {g : GroupState} (hg : d.currentGroup = some g) (channel : String) :
    d.timedOut channel = { d with timeouts := d.timeouts ++ [(channel, g)] } := by
  unfold GroupManager.timedOut
  rw [hg]

theorem Kept.timedOut {channels : ChannelManager} {g : GroupState} (h : Kept o d)
    (hg : d.currentGroup = some g) (hempty : channels.Empty) :
    Kept o ({ d with channels := channels }.timedOut g.group) := by
  rw [timedOut_of_some (d := { d with channels := channels }) hg]
  refine ⟨h.valid, h.subscribed, h.history, fun _ => hempty, fun g' hg' => .inr ⟨hempty, ?_⟩⟩
  obtain rfl := Option.some.inj ((show d.currentGroup = some g' from hg').symm.trans hg)
  exact List.mem_append_right _ (List.mem_singleton_self _)

/-! ### Joining -/

theorem Kept.extend (h : Kept o d) (current : GroupState) : Kept o (d.extend o current).2 := by
  have hchannels : Kept o { d with
      channels := d.channels.updateTimeout current.group apiutil.QUARTER_MINUTES } := h.channels
    (fun he => he.assign) fun _ hh => hh.assign (fun _ => rfl) fun _ => rfl
  unfold GroupManager.extend
  dsimp only
  split
  · exact hchannels.push rfl
  · exact hchannels

theorem extend_same (current : GroupState) : (d.extend o current).2.currentGroup = d.currentGroup ∧
    (d.extend o current).2.timeouts = d.timeouts := by
  unfold GroupManager.extend
  dsimp only
  split <;> exact ⟨rfl, rfl⟩

/-- A device in no group enters one.  It may time out at once. -/
theorem Kept.enter (h : Kept o d) (hnone : d.currentGroup = none) {newGroup : GroupState}
    (hvalid : newGroup.group ≠ "") (timeout : Option Nat) (usage : Option String)
    (keys : List String) (now later : Int) :
    Kept o (d.enter o newGroup timeout usage keys now later).2 ∧
      (d.enter o newGroup timeout usage keys now later).2.currentGroup = some newGroup ∧
      (d.enter o newGroup timeout usage keys now later).2.timeouts = d.timeouts ++
        if rentTime o timeout ≤ later - now then [(newGroup.group, newGroup)] else [] := by
  obtain ⟨channels, timedOut, hregister, htimedOut, hcases⟩ :=
    (h.unregistered hnone).register newGroup.group ⟨rentTime o timeout, some o.solo⟩ now later rfl
      o.solo_ne
  have hhistory : History (d.broadcasts ++ [.join newGroup]) (some newGroup) := by
    have hbefore := h.history
    rw [hnone] at hbefore
    exact .join hbefore
  have hsubscribed : d.subscribed = [] := by
    rw [h.subscribed, hnone]
    rfl
  have hgroup : ∀ g, some newGroup = some g → g = newGroup := fun g hg => (Option.some.inj hg).symm
  unfold GroupManager.enter
  dsimp only
  rw [hregister]
  dsimp only
  -- the rent may be over by the time the channel is checked
  rcases hcases with ⟨rfl, hempty⟩ | ⟨rfl, hholds⟩
  · rw [if_pos rfl, if_pos (htimedOut.1 rfl),
      timedOut_of_some (d := { d with currentGroup := some newGroup, channels := channels }) rfl]
    refine ⟨⟨fun g hg => ?_, ?_, ?_, fun _ => hempty, fun g hg => .inr ⟨hempty, ?_⟩⟩, rfl, rfl⟩
    · rw [hgroup g hg]
      exact hvalid
    · show d.subscribed ++ [newGroup.group] = _
      rw [hsubscribed]
      rfl
    · rw [broadcasts_push]
      exact hhistory
    · rw [hgroup g hg]
      exact List.mem_append_right _ (List.mem_singleton_self _)
  · have hstays : ¬ rentTime o timeout ≤ later - now :=
      fun hle => absurd (htimedOut.2 hle) (by decide)
    rw [if_neg (by decide), if_neg hstays, List.append_nil]
    refine ⟨⟨fun g hg => ?_, ?_, ?_, fun hd => ?_, fun g hg => .inl ?_⟩, rfl, rfl⟩
    · rw [hgroup g hg]
      exact hvalid
    · show d.subscribed ++ [newGroup.group] = _
      rw [hsubscribed]
      rfl
    · rw [broadcasts_push]
      exact hhistory
    · cases hd
    · rw [hgroup g hg]
      exact hholds

theorem truthy_of_ne {g : GroupState} (h : g.group ≠ "") : truthy (some g) = some g :=
  Option.filter_eq_some_iff.2 ⟨rfl, decide_eq_true h⟩

/-- What `join` can find, and the device after it. -/
inductive Joins (o : DeviceOptions) (newGroup : Option GroupState) (timeout : Option Nat)
    (now later : Int) (d d' : GroupManager) : Prop
  /-- No valid group is asked for. -/
  | invalid : truthy newGroup = none → d' = d → Joins o newGroup timeout now later d d'
  /-- The device is in another group. -/
  | other {g current : GroupState} : truthy newGroup = some g → d.currentGroup = some current →
      current.group ≠ g.group → d' = d → Joins o newGroup timeout now later d d'
  /-- The device is in the group already. -/
  | same {g current : GroupState} : truthy newGroup = some g → d.currentGroup = some current →
      current.group = g.group → d'.currentGroup = some current → d'.timeouts = d.timeouts →
        Joins o newGroup timeout now later d d'
  /-- The device enters the group. -/
  | entered {g : GroupState} : truthy newGroup = some g → d.currentGroup = none →
      d'.currentGroup = some g → d'.timeouts = d.timeouts ++
        (if rentTime o timeout ≤ later - now then [(g.group, g)] else []) →
          Joins o newGroup timeout now later d d'

theorem Kept.join (h : Kept o d) (newGroup : Option GroupState) (timeout : Option Nat)
    (usage : Option String) (keys : List String) (now later : Int) :
    Kept o (d.join o newGroup timeout usage keys now later).2 ∧
      Joins o newGroup timeout now later d (d.join o newGroup timeout usage keys now later).2 := by
  show Kept o (d.tryJoin o newGroup timeout usage keys now later).2 ∧
    Joins o newGroup timeout now later d (d.tryJoin o newGroup timeout usage keys now later).2
  unfold GroupManager.tryJoin
  cases hnew : truthy newGroup with
  | none => exact ⟨h, .invalid hnew rfl⟩
  | some g =>
    have hvalid : g.group ≠ "" := by
      obtain ⟨-, hg⟩ := Option.filter_eq_some_iff.1 hnew
      exact of_decide_eq_true hg
    cases hd : d.currentGroup with
    | none =>
      obtain ⟨hkept, hgroup, htimeouts⟩ := h.enter hd hvalid timeout usage keys now later
      exact ⟨hkept, .entered hnew hd hgroup htimeouts⟩
    | some current =>
      rw [truthy_of_ne (h.valid current hd)]
      dsimp only
      split
      · rename_i hne
        exact ⟨h, .other hnew hd hne rfl⟩
      · rename_i heq
        obtain ⟨hgroup, htimeouts⟩ := extend_same (o := o) (d := d) current
        exact ⟨h.extend current, .same hnew hd (not_not.1 heq) (hgroup.trans hd) htimeouts⟩

/-! ### The handlers -/

theorem leave_setTimeouts (reason : String) (timeouts : List (String × GroupState)) :
    (GroupManager.leave o reason { d with timeouts := timeouts }).2 =
      { (d.leave o reason).2 with timeouts := timeouts } := by
  obtain ⟨current, channels, subscribed, sent, emitted, before⟩ := d
  cases current <;> rfl

theorem Kept.leave_timeouts (h : Kept o d) (reason : String)
    (timeouts : List (String × GroupState)) :
    Kept o (GroupManager.leave o reason { d with timeouts := timeouts }).2 := by
  rw [leave_setTimeouts]
  exact (h.leave reason).timeouts (currentGroup_leave reason) timeouts

theorem Kept.onTimeout {timeout : String × GroupState} {timeouts : List (String × GroupState)}
    (h : Kept o d) (hd : d.timeouts = timeout :: timeouts) :
    Kept o (onTimeout o timeout { d with timeouts := timeouts }) := by
  unfold GroupManager.onTimeout
  split
  · exact h.leave_timeouts _ _
  · rename_i hother
    refine ⟨h.valid, h.subscribed, h.history, h.unregistered, fun g hg => ?_⟩
    rcases h.registered g hg with hholds | ⟨hempty, ht⟩
    · exact .inl hholds
    · refine .inr ⟨hempty, ?_⟩
      rw [hd] at ht
      rcases List.mem_cons.1 ht with rfl | ht
      · exact absurd rfl hother
      · exact ht

/-- After `join` is awaited a device that has timed out at once is in no group. -/
theorem Kept.awaitJoin (h : Kept o d) (newGroup : Option GroupState) (timeout : Option Nat)
    (usage : Option String) (keys : List String) (now later : Int) :
    Kept o (d.awaitJoin o newGroup timeout usage keys now later).2 ∧
      ∃ d', Joins o newGroup timeout now later d d' ∧
        (d.awaitJoin o newGroup timeout usage keys now later).2.currentGroup =
          if d'.timeouts = d.timeouts then d'.currentGroup else none := by
  obtain ⟨hkept, hjoins⟩ := h.join newGroup timeout usage keys now later
  set d' := (d.join o newGroup timeout usage keys now later).2 with hd'
  have hawait : (d.awaitJoin o newGroup timeout usage keys now later).2 =
      (d'.timeouts.drop d.timeouts.length).foldl
        (fun d timeout => GroupManager.onTimeout o timeout d)
        { d' with timeouts := d'.timeouts.take d.timeouts.length } := rfl
  -- without a new timeout there is nothing to handle at the await
  have hquiet : d'.timeouts = d.timeouts →
      (d.awaitJoin o newGroup timeout usage keys now later).2 = d' := by
    intro hsame
    rw [hawait, ← hsame, List.drop_length, List.take_length]
    rfl
  have hsame : d'.timeouts = d.timeouts →
      Kept o (d.awaitJoin o newGroup timeout usage keys now later).2 ∧
        ∃ d', Joins o newGroup timeout now later d d' ∧
          (d.awaitJoin o newGroup timeout usage keys now later).2.currentGroup =
            if d'.timeouts = d.timeouts then d'.currentGroup else none := by
    intro hsame
    rw [hquiet hsame]
    exact ⟨hkept, d', hjoins, (if_pos hsame).symm⟩
  cases hjoins with
  | invalid hnew heq => exact hsame (by rw [heq])
  | other hnew hcurrent hne heq => exact hsame (by rw [heq])
  | same hnew hcurrent heq hgroup htimeouts => exact hsame htimeouts
  | @entered g hnew hnone hgroup htimeouts =>
    by_cases hover : rentTime o timeout ≤ later - now
    · rw [if_pos hover] at htimeouts
      -- the timeout of the new group is handled before `join` goes on
      have hdrained : (d.awaitJoin o newGroup timeout usage keys now later).2 =
          (GroupManager.leave o "automatic_timeout" { d' with timeouts := d.timeouts }).2 := by
        rw [hawait, htimeouts, List.drop_left, List.take_left]
        exact if_pos rfl
      have hmore : d'.timeouts ≠ d.timeouts := by
        rw [htimeouts]
        simp
      rw [hdrained, leave_setTimeouts]
      refine ⟨(hkept.leave _).timeouts (currentGroup_leave _) _, d',
        .entered hnew hnone hgroup (by rw [if_pos hover, htimeouts]), ?_⟩
      rw [if_neg hmore]
      exact currentGroup_leave _
    · rw [if_neg hover, List.append_nil] at htimeouts
      exact hsame htimeouts

theorem Kept.onTimer (h : Kept o d) (id : String) (now : Int) : Kept o (d.onTimer id now) := by
  unfold GroupManager.onTimer
  dsimp only
  rcases Option.eq_none_or_eq_some d.currentGroup with hd | ⟨g, hd⟩
  · rw [(h.unregistered hd).fire, if_neg Bool.false_ne_true]
    exact h
  rcases h.registered g hd with hholds | ⟨hempty, -⟩
  · rcases hholds.fire id now with ⟨hout, rfl, hempty⟩ | ⟨hin, hholds'⟩
    · rw [if_pos hout]
      exact h.timedOut hd hempty
    · rw [if_neg (by rw [hin]; decide)]
      refine ⟨h.valid, h.subscribed, h.history, fun hnone => ?_, fun g' hg' => .inl ?_⟩
      · rw [show d.currentGroup = none from hnone] at hd
        cases hd
      · obtain rfl := Option.some.inj ((show d.currentGroup = some g' from hg').symm.trans hd)
        exact hholds'
  · rw [hempty.fire, if_neg Bool.false_ne_true]
    exact h

/-- One event. -/
theorem Kept.handle (h : Kept o d) (event : Event) : Kept o (d.handle o event) := by
  cases event with
  | groupMessage channel message check now later =>
    show Kept o (d.onGroupMessage o channel message check now later).2
    unfold GroupManager.onGroupMessage
    cases check with
    | denied => exact h
    | failed text => exact h.reply channel (.fail text)
    | allowed => exact (h.awaitJoin _ _ _ _ _ _).1.reply channel .okay
  | autoGroupMessage message now later => exact (h.awaitJoin _ _ _ _ _ _).1.emit _
  | ungroupMessage channel check =>
    show Kept o (d.onUngroupMessage o channel check).2
    unfold GroupManager.onUngroupMessage
    cases check with
    | denied => exact h
    | failed text => exact h.reply channel (.fail text)
    | allowed =>
      have hleave := h.leave "ungroup_request"
      dsimp only
      split
      · rename_i heq
        rw [heq] at hleave
        exact hleave.reply channel .okay
      · rename_i heq
        rw [heq] at hleave
        exact hleave.reply channel (.fail _)
      · rename_i heq
        rw [heq] at hleave
        exact hleave
  | keepalive now =>
    show Kept o (d.keepalive now)
    unfold GroupManager.keepalive
    split
    · exact h.keepalive _ now
    · exact h
  | routed channel now => exact h.keepalive channel now
  | timer id now => exact h.onTimer id now
  | timeout =>
    unfold GroupManager.handle
    cases hd : d.timeouts with
    | nil => exact h
    | cons timeout timeouts => exact h.onTimeout hd
  | absent => exact h.leave _

theorem kept_of_run {events : List Event} (hrun : (system o).Run new events d) : Kept o d :=
  hrun.invariant (kept_new o) fun d event d' h hstep => by
    obtain rfl : d.handle o event = d' := hstep
    exact h.handle event

/-- **The bookkeeping of a device**: it is in a group exactly when it is subscribed to its channel,
and exactly when the last broadcast says so; joining and leaving alternate; the channel of the group
and the solo channel are registered unless the channel has timed out and its listener is yet to go
on. -/
theorem bookkeeping_of_run {events : List Event} (hrun : (system o).Run new events d) :
    (∀ channel, channel ∈ d.subscribed ↔ ∃ g ∈ d.currentGroup, g.group = channel) ∧
      (∀ g, d.currentGroup = some g ↔ d.broadcasts.getLast? = some (.join g)) ∧
      (d.broadcasts.head?.all Broadcast.isJoin ∧
        d.broadcasts.IsChain fun b b' => b.isJoin ≠ b'.isJoin) ∧
      ∀ g ∈ d.currentGroup,
        (∃ channel, d.channels.channels g.group = some channel ∧
          d.channels.channels o.solo = some channel) ∨ (g.group, g) ∈ d.timeouts := by
  have h := kept_of_run hrun
  refine ⟨fun channel => ?_, h.history.last, ⟨h.history.head, h.history.alternate⟩,
    fun g hg => ?_⟩
  · rw [h.subscribed]
    cases d.currentGroup <;> simp [eq_comm]
  · rcases h.registered g hg with hholds | ⟨-, ht⟩
    · obtain ⟨channel, hid, hname, -⟩ := hholds.registered
      exact .inl ⟨channel, hid, hname⟩
    · exact .inr ht

/-- The options of a device, and two users. -/
def sampleOptions : DeviceOptions := ⟨"serial", 900000, "solo", by decide⟩

/-- A user. -/
def ownerA : GroupState := ⟨"a@example", "A", "group of A"⟩

/-- Another one. -/
def ownerB : GroupState := ⟨"b@example", "B", "group of B"⟩

/-- The first user asks for the device, and may have it. -/
def joinA : Event := .groupMessage "reply" ⟨some ownerA, none, none, []⟩ .allowed 0 0

/-- A rental that ends: the timer fires, and later the listener goes on. -/
theorem bookkeeping_of_timeout : ∃ d, (system sampleOptions).Run new
    [joinA, .timer "group of A" 900000] d ∧ d.timeouts = [("group of A", ownerA)] ∧
      ∀ g ∈ d.currentGroup, (∃ channel, d.channels.channels g.group = some channel ∧
        d.channels.channels "solo" = some channel) ∨ (g.group, g) ∈ d.timeouts := by
  have hrun : (system sampleOptions).Run new [joinA, .timer "group of A" 900000]
      ((new.handle sampleOptions joinA).handle sampleOptions (.timer "group of A" 900000)) :=
    .more rfl (.more rfl (.done _))
  exact ⟨_, hrun, rfl, (bookkeeping_of_run hrun).2.2.2⟩

end GroupManager

end BaseDevice

end DeviceHub

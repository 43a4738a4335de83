import DeviceHub.Wire.ChannelManager
import DeviceHub.Util.ApiUtil
import DeviceHub.Async.Lts

/-!
# `base-device/plugins/group.ts`

The group that a device is in, as its unit keeps it, and the handlers of the messages that change
it.  The handlers are asynchronous, but `join` and `leave` have no `await` in them; the listener of
the timeouts of channels looks up the group when a channel times out and leaves a moment later.

## Main definitions

* `GroupState`, `WireMessage`, `GroupEvent` : the data.
* `GroupManager` : the state of the plugin, with what it has sent and emitted.
* `GroupManager.join`, `GroupManager.leave` : the methods.
* `GroupManager.onGroupMessage`, `onAutoGroupMessage`, `onUngroupMessage`, `onTimeout` : the
  handlers.
* `GroupManager.handle`, `GroupManager.system` : the events, handled one at a time in any order.
-/

namespace DeviceHub

namespace BaseDevice

/-- The group that has the device, with its owner. -/
structure GroupState where
  email : String
  name : String
  group : String
  deriving DecidableEq

/-- What can be thrown; the errors of `util/grouputil.ts` among them. -/
inductive GroupError where
  | invalidGroup
  | alreadyGrouped
  | noGroup
  | channelExists (e : ChannelExists)
  /-- A field of type `uint32` cannot be packed. -/
  | notUint32 (value : Int)
  deriving DecidableEq

namespace GroupError

/-- The messages that are sent in replies. -/
def message : GroupError → Option String
  | .alreadyGrouped => some "Already a member of another group"
  | .noGroup => some "Not a member of any group"
  | _ => none

end GroupError

/-- The messages that the plugin sends, and the one of the `connect` plugin that tells its URL. -/
inductive WireMessage where
  | joinGroup (serial : String) (owner : GroupState) (usage : Option String) (timeout : Option Nat)
  | leaveGroup (serial : String) (owner : GroupState) (reason : String)
  | deviceStatusChange (serial : String) (timeout : Int)
  | transactionDone (source : String) (success : Bool) (data : String)
  | connectStarted (serial : String) (url : String)
  deriving DecidableEq

/-- What the plugin emits. -/
inductive GroupEvent where
  | join (group : GroupState) (keys : List String)
  | leave
  | autojoin (identifier : String) (joined : Bool)
  deriving DecidableEq

/-- The options of the unit, and the name of the solo channel, a digest of the serial. -/
structure DeviceOptions where
  serial : String
  groupTimeout : Int
  solo : String
  solo_ne : solo ≠ ""

/-- A request to join the group of the owner. -/
structure GroupMessage where
  owner : Option GroupState
  timeout : Option Nat
  usage : Option String
  keys : List String

/-- A request to join that an identifier asked for: a key or an answer to a challenge. -/
structure AutoGroupMessage where
  owner : Option GroupState
  identifier : String

/-- The outcome of the check before a message is processed, which another plugin can set. -/
inductive Check where
  | allowed
  | denied
  | failed (message : String)
  deriving DecidableEq

/-- The reply to a transaction. -/
inductive Reply where
  | okay
  | fail (message : String)
  deriving DecidableEq

/-- The group plugin, with what it has sent and emitted. -/
structure GroupManager where
  currentGroup : Option GroupState
  channels : ChannelManager
  /-- The subscriptions of the plugin; those made elsewhere are permanent. -/
  subscribed : List String
  /-- The messages that are pushed, each with its channel. -/
  sent : List (String × WireMessage)
  emitted : List GroupEvent
  /-- The channels that have timed out, each with the group that the listener has looked up. -/
  timeouts : List (String × GroupState)

namespace GroupManager

/-- `wireutil.global`. -/
def global : String := "*ALL"

/-- The plugin of a device that has just started. -/
def new : GroupManager := ⟨none, .new, [], [], [], []⟩

/-- A message is sent to a channel. -/
def push (d : GroupManager) (channel : String) (message : WireMessage) : GroupManager :=
  { d with sent := d.sent ++ [(channel, message)] }

/-- The plugin emits an event. -/
def emit (d : GroupManager) (event : GroupEvent) : GroupManager :=
  { d with emitted := d.emitted ++ [event] }

/-- The reply to a request is sent. -/
def reply (d : GroupManager) (o : DeviceOptions) (channel : String) : Reply → GroupManager
  | .okay => d.push channel (.transactionDone o.serial true "success")
  | .fail message => d.push channel (.transactionDone o.serial false message)

/-- A channel has timed out: the listener looks the group up.  Without a group it throws. -/
def timedOut (d : GroupManager) (channel : String) : GroupManager :=
  match d.currentGroup with
  | some group => { d with timeouts := d.timeouts ++ [(channel, group)] }
  | none => d

/-- `if (group?.group)`. -/
def truthy (group : Option GroupState) : Option GroupState := group.filter (·.group ≠ "")

/-- The part of `join` for a device that is in the group: its rental is extended. -/
def extend (o : DeviceOptions) (current : GroupState) (d : GroupManager) :
    Except GroupError Unit × GroupManager :=
  let channels := d.channels.updateTimeout current.group apiutil.QUARTER_MINUTES
  let d := { d with channels := channels }
  let newTimeout := (channels.getTimeout current.group).getD 0
  if 0 ≤ newTimeout ∧ newTimeout < 2 ^ 32 then
    (.ok (), d.push global (.deviceStatusChange o.serial newTimeout))
  else (.error (.notUint32 newTimeout), d)

/-- `timeout || options.groupTimeout`. -/
def rentTime (o : DeviceOptions) (timeout : Option Nat) : Int :=
  match timeout.filter (· ≠ 0) with
  | some timeout => timeout
  | none => o.groupTimeout

/-- The part of `join` for a device that is in no group. -/
def enter (o : DeviceOptions) (newGroup : GroupState) (timeout : Option Nat)
    (usage : Option String) (keys : List String) (now later : Int) (d : GroupManager) :
    Except GroupError Unit × GroupManager :=
  let d := { d with currentGroup := some newGroup }
  match d.channels.register newGroup.group ⟨rentTime o timeout, some o.solo⟩ now later with
  | .error e => (.error (.channelExists e), d)
  | .ok (channels, timedOut) =>
    let d := { d with channels := channels }
    let d := if timedOut then d.timedOut newGroup.group else d
    let d := { d with subscribed := d.subscribed ++ [newGroup.group] }
    let d := d.emit (.join newGroup keys)
    (.ok (), d.push global (.joinGroup o.serial newGroup usage timeout))

/-- The body of the `try` of `join`. -/
def tryJoin (o : DeviceOptions) (newGroup : Option GroupState) (timeout : Option Nat)
    (usage : Option String) (keys : List String) (now later : Int) (d : GroupManager) :
    Except GroupError Unit × GroupManager :=
  match truthy newGroup with
  | none => (.error .invalidGroup, d)
  | some newGroup =>
    match truthy d.currentGroup with
    | some current =>
      if current.group ≠ newGroup.group then (.error .alreadyGrouped, d) else extend o current d
    | none => enter o newGroup timeout usage keys now later d

/-- `join` logs its errors, and returns the current group in any case. -/
def join (o : DeviceOptions) (newGroup : Option GroupState) (timeout : Option Nat)
    (usage : Option String) (keys : List String) (now later : Int) (d : GroupManager) :
    Except GroupError (Option GroupState) × GroupManager :=
  let d := (tryJoin o newGroup timeout usage keys now later d).2
  (.ok d.currentGroup, d)

/-- The device leaves its group, for some reason. -/
def leave (o : DeviceOptions) (reason : String) (d : GroupManager) :
    Except GroupError Unit × GroupManager :=
  match d.currentGroup with
  | none => (.error .noGroup, d)
  | some group =>
    let d := d.push global (.leaveGroup o.serial group reason)
    let d := { d with
      channels := d.channels.unregister group.group
      subscribed := d.subscribed.erase group.group
      currentGroup := none }
    (.ok (), d.emit .leave)

/-! ### The handlers -/

/-- The rest of the listener of the timeouts, after it has looked the group up. -/
def onTimeout (o : DeviceOptions) (timeout : String × GroupState) (d : GroupManager) :
    GroupManager :=
  if timeout.1 = timeout.2.group then (d.leave o "automatic_timeout").2 else d

/-- `join` is awaited: the listeners of channels that have timed out meanwhile come first. -/
def awaitJoin (o : DeviceOptions) (newGroup : Option GroupState) (timeout : Option Nat)
    (usage : Option String) (keys : List String) (now later : Int) (d : GroupManager) :
    Except GroupError (Option GroupState) × GroupManager :=
  let (result, d') := join o newGroup timeout usage keys now later d
  let before := d.timeouts.length
  (result, (d'.timeouts.drop before).foldl (fun d timeout => onTimeout o timeout d)
    { d' with timeouts := d'.timeouts.take before })

/-- The reply, and the device after it. -/
def onGroupMessage (o : DeviceOptions) (channel : String) (message : GroupMessage) (check : Check)
    (now later : Int) (d : GroupManager) : Option Reply × GroupManager :=
  match check with
  | .denied => (none, d)
  | .failed text => (some (.fail text), d.reply o channel (.fail text))
  | .allowed =>
    match awaitJoin o message.owner message.timeout message.usage message.keys now later d with
    | (.ok _, d) => (some .okay, d.reply o channel .okay)
    | (.error .alreadyGrouped, d) =>
      let text := "Already a member of another group"
      (some (.fail text), d.reply o channel (.fail text))
    | (.error _, d) => (none, d)

/-- The flag that is emitted, and the device after it. -/
def onAutoGroupMessage (o : DeviceOptions) (message : AutoGroupMessage) (now later : Int)
    (d : GroupManager) : Option Bool × GroupManager :=
  match awaitJoin o message.owner (some 0) (some message.identifier) [] now later d with
  | (.ok _, d) => (some true, d.emit (.autojoin message.identifier true))
  | (.error .alreadyGrouped, d) => (some false, d.emit (.autojoin message.identifier false))
  | (.error _, d) => (none, d)

/-- The handler of a request to leave the group. -/
def onUngroupMessage (o : DeviceOptions) (channel : String) (check : Check) (d : GroupManager) :
    Option Reply × GroupManager :=
  match check with
  | .denied => (none, d)
  | .failed text => (some (.fail text), d.reply o channel (.fail text))
  | .allowed =>
    match d.leave o "ungroup_request" with
    | (.ok _, d) => (some .okay, d.reply o channel .okay)
    | (.error .noGroup, d) =>
      let text := "Not a member of any group"
      (some (.fail text), d.reply o channel (.fail text))
    | (.error _, d) => (none, d)

/-- The timer of a channel fires. -/
def onTimer (id : String) (now : Int) (d : GroupManager) : GroupManager :=
  let (channels, timedOut) := d.channels.fire id now
  let d := { d with channels := channels }
  if timedOut then d.timedOut id else d

/-- `keepalive` of the plugin. -/
def keepalive (now : Int) (d : GroupManager) : GroupManager :=
  match d.currentGroup with
  | some group => { d with channels := d.channels.keepalive group.group now }
  | none => d

/-- What can happen to the plugin. -/
inductive Event where
  | groupMessage (channel : String) (message : GroupMessage) (check : Check) (now later : Int)
  | autoGroupMessage (message : AutoGroupMessage) (now later : Int)
  | ungroupMessage (channel : String) (check : Check)
  | keepalive (now : Int)
  /-- The router keeps the channel of a message alive. -/
  | routed (channel : String) (now : Int)
  | timer (id : String) (now : Int)
  /-- The listener of the oldest timeout goes on. -/
  | timeout
  /-- The process exits. -/
  | absent

/-- What an event does. -/
def handle (o : DeviceOptions) (d : GroupManager) : Event → GroupManager
  | .groupMessage channel message check now later =>
    (onGroupMessage o channel message check now later d).2
  | .autoGroupMessage message now later => (onAutoGroupMessage o message now later d).2
  | .ungroupMessage channel check => (onUngroupMessage o channel check d).2
  | .keepalive now => d.keepalive now
  | .routed channel now => { d with channels := d.channels.keepalive channel now }
  | .timer id now => d.onTimer id now
  | .timeout =>
    match d.timeouts with
    | timeout :: timeouts => onTimeout o timeout { d with timeouts := timeouts }
    | [] => d
  | .absent => (d.leave o "device_absent").2

/-- The events, in any order. -/
def system (o : DeviceOptions) : Lts GroupManager Event where
  step d event d' := d.handle o event = d'

end GroupManager

end BaseDevice

end DeviceHub

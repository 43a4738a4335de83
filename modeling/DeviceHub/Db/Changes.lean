import DeviceHub.Util.ApiUtil
import DeviceHub.Util.Lodash

/-!
# The updates of the documents

The update expressions that the group functions hand to the database, as data: an update names
what it sets, and `apply` says what the database makes of it.
-/

namespace DeviceHub

open apiutil lodash

/-! ### Users -/

/-- The updates of a user. -/
inductive UserChange where
  /-- `$min: [consumed.number + 1, allocated.number]` -/
  | reserveNumber
  /-- `$max: [consumed.number - 1, 0]` -/
  | releaseNumber
  /-- The consumed duration goes to `consumed + newDuration - oldDuration` if that is allocated,
  and stays where it is otherwise. -/
  | chargeDuration (oldDuration newDuration : Int)
  /-- `$set` of the allocated quotas and the repetitions. -/
  | setQuotas (duration number repetitions : Int)
  /-- `$set` of `groups.lock`. -/
  | setLock (state : Bool)
  /-- `$addToSet: {'groups.subscribed': id}` -/
  | subscribe (id : String)
  /-- `$pull: {'groups.subscribed': id}` -/
  | unsubscribe (id : String)
  /-- `$set` of `groups.subscribed`. -/
  | setSubscribed (ids : List String)
  deriving DecidableEq, Repr

/-- `$addToSet` -/
def addToSet (l : List String) (x : String) : List String := if x ∈ l then l else l ++ [x]

@[simp] theorem mem_addToSet {l : List String} {x y : String} :
    y ∈ addToSet l x ↔ y ∈ l ∨ y = x := by
  unfold addToSet
  split
  · rename_i hx
    refine ⟨.inl, fun h => h.elim (fun h => h) fun h => ?_⟩
    rw [h]
    exact hx
  · simp

/-- The quotas after a reservation of one group. -/
def Quotas.reserve (q : Quotas) : Quotas :=
  { q with consumed.number := min (q.consumed.number + 1) q.allocated.number }

/-- The quotas after the release of one group. -/
def Quotas.release (q : Quotas) : Quotas :=
  { q with consumed.number := max (q.consumed.number - 1) 0 }

/-- The quotas after a change of a group's duration was charged. -/
def Quotas.charge (q : Quotas) (oldDuration newDuration : Int) : Quotas :=
  { q with
    consumed.duration :=
      if q.consumed.duration + newDuration - oldDuration ≤ q.allocated.duration then
        q.consumed.duration + newDuration - oldDuration
      else q.consumed.duration }

/-- What a change makes of a user. -/
def UserChange.apply : UserChange → User → User
  | .reserveNumber, u => { u with quotas := u.quotas.reserve }
  | .releaseNumber, u => { u with quotas := u.quotas.release }
  | .chargeDuration oldDuration newDuration, u =>
    { u with quotas := u.quotas.charge oldDuration newDuration }
  | .setQuotas duration number repetitions, u =>
    { u with
      quotas := { u.quotas with
        allocated := ⟨number, duration⟩, repetitions := repetitions } }
  | .setLock state, u => { u with lock := state }
  | .subscribe id, u => { u with subscribed := addToSet u.subscribed id }
  | .unsubscribe id, u => { u with subscribed := u.subscribed.filter (· ≠ id) }
  | .setSubscribed ids, u => { u with subscribed := ids }

@[simp] theorem UserChange.email_apply (f : UserChange) (u : User) :
    (f.apply u).email = u.email := by
  cases f <;> rfl

instance : Updates UserChange User where
  effect f := ⟨f.apply, fun u => f.email_apply u⟩

@[simp] theorem UserChange.effect_apply (f : UserChange) : (effect f).apply = f.apply := rfl

/-! ### Groups -/

/-- The data that `updateGroup` hands to `updateUserGroup`. -/
structure GroupUpdate where
  name : String
  state : GroupState
  class_ : GroupClass
  isActive : Bool
  repetitions : Int
  dates : List Window
  duration : Int
  deriving DecidableEq, Repr

/-- The updates of a group. -/
inductive GroupChange where
  /-- `$addToSet: {users: email}` -/
  | pushUser (email : String)
  /-- `$pull: {users: email, moderators: email}` -/
  | pullUser (email : String)
  /-- `$addToSet: {moderators: email}` -/
  | pushModerator (email : String)
  /-- `$pull: {moderators: email}` -/
  | pullModerator (email : String)
  /-- `$set: {duration, devices}` -/
  | setDevices (duration : Int) (devices : List String)
  /-- `$set: {name}` -/
  | setName (name : String)
  /-- `$set: data` -/
  | setData (data : GroupUpdate)
  /-- `$set: {isActive: true}` -/
  | activate
  /-- `$set: {dates, repetitions, duration, isActive, state: READY}` -/
  | setDates (dates : List Window) (repetitions duration : Int) (isActive : Bool)
  /-- `$set: {dates: [window]}` -/
  | setLifetime (window : Window)
  /-- `$addToSet: {devices: serial}` -/
  | pushDevice (serial : String)
  /-- `$set: {devices: {$setDifference: ['$devices', [serial]]}}` -/
  | pullDevice (serial : String)
  /-- `$set: {users}` -/
  | setUsers (users : List String)
  deriving DecidableEq, Repr

/-- What a change makes of a group. -/
def GroupChange.apply : GroupChange → Group → Group
  | .pushUser email, g => { g with users := addToSet g.users email }
  | .pullUser email, g =>
    { g with users := g.users.filter (· ≠ email), moderators := g.moderators.filter (· ≠ email) }
  | .pushModerator email, g => { g with moderators := addToSet g.moderators email }
  | .pullModerator email, g => { g with moderators := g.moderators.filter (· ≠ email) }
  | .setDevices duration devices, g => { g with duration := duration, devices := devices }
  | .setName name, g => { g with name := name }
  | .setData data, g =>
    { g with
      name := data.name, state := data.state, class_ := data.class_,
      isActive := data.isActive, repetitions := data.repetitions, dates := data.dates,
      duration := data.duration }
  | .activate, g => { g with isActive := true }
  | .setDates dates repetitions duration isActive, g =>
    { g with
      dates := dates, repetitions := repetitions, duration := duration, isActive := isActive,
      state := .ready }
  | .setLifetime window, g => { g with dates := [window] }
  | .pushDevice serial, g => { g with devices := addToSet g.devices serial }
  | .pullDevice serial, g => { g with devices := uniq (without g.devices serial) }
  | .setUsers users, g => { g with users := users }

@[simp] theorem GroupChange.id_apply (f : GroupChange) (g : Group) : (f.apply g).id = g.id := by
  cases f <;> rfl

@[simp] theorem GroupChange.owner_apply (f : GroupChange) (g : Group) :
    (f.apply g).owner = g.owner := by
  cases f <;> rfl

@[simp] theorem GroupChange.privilege_apply (f : GroupChange) (g : Group) :
    (f.apply g).privilege = g.privilege := by
  cases f <;> rfl

instance : Updates GroupChange Group where
  effect f := ⟨f.apply, fun g => f.id_apply g⟩

@[simp] theorem GroupChange.effect_apply (f : GroupChange) : (effect f).apply = f.apply := rfl

/-! ### Devices -/

/-- The updates of a device. -/
inductive DeviceChange where
  /-- The copy of the data of its current group in a device. -/
  | setCurrentGroup (group : Group)
  /-- `$set` of `group.origin` and `group.originName`. -/
  | setOriginGroup (group : Group)
  /-- Both, as `returnDevicesToRoot` sets them. -/
  | setRootGroup (root : Group)
  /-- The pipeline of `updateDeviceGroupName`. -/
  | setGroupName (group : Group)
  /-- `$set` of `group.lock`. -/
  | setDeviceLock (lock : Bool)
  /-- The pipeline of `lockDeviceByOrigin`. -/
  | lockByOrigin (groups : List String)
  deriving DecidableEq, Repr

/-- The data of its current group in a device. -/
def DeviceGroup.setCurrent (d : DeviceGroup) (group : Group) : DeviceGroup :=
  { d with
    id := group.id, name := some group.name, owner := group.owner,
    lifeTime := group.dates.head?, class_ := group.class_, repetitions := group.repetitions }

/-- The group becomes the origin group. -/
def DeviceGroup.setOrigin (d : DeviceGroup) (group : Group) : DeviceGroup :=
  { d with origin := group.id, originName := some group.name }

/-- A path such as `$group?.name` denotes a field named `group?`, which no document has: it
evaluates to missing, and setting a field to missing removes it.  A new name that begins with `$`
would be such a path too; the schema of the requests lets a name have letters, digits and a few
other signs only, `$` not among them. -/
def DeviceGroup.setNames (d : DeviceGroup) (group : Group) : DeviceGroup :=
  { d with
    name :=
      if isOriginGroup group.class_ = false then
        if group.isActive = true then some group.name else none
      else some group.name
    originName := if isOriginGroup group.class_ = true then some group.name else none }

/-- Here the paths `$group?.lock` and `$group?.origin` are missing, whatever the document. -/
def DeviceGroup.lockByOrigin (d : DeviceGroup) (groups : List String) : DeviceGroup :=
  let lock : Option Bool := none
  let origin : Option String := none
  { d with
    lock :=
      if lock = some false ∧ intersection groups origin.toList ≠ [] then some true else lock }

/-- The device apart from its lock. -/
def Device.unlocked (d : Device) : Device := { d with group := { d.group with lock := none } }

/-- What a change makes of a device. -/
def DeviceChange.apply : DeviceChange → Device → Device
  | .setCurrentGroup group, d => { d with group := d.group.setCurrent group }
  | .setOriginGroup group, d => { d with group := d.group.setOrigin group }
  | .setRootGroup root, d => { d with group := (d.group.setCurrent root).setOrigin root }
  | .setGroupName group, d => { d with group := d.group.setNames group }
  | .setDeviceLock lock, d => { d with group := { d.group with lock := some lock } }
  | .lockByOrigin groups, d => { d with group := d.group.lockByOrigin groups }

@[simp] theorem DeviceChange.serial_apply (f : DeviceChange) (d : Device) :
    (f.apply d).serial = d.serial := by
  cases f <;> rfl

instance : Updates DeviceChange Device where
  effect f := ⟨f.apply, fun d => f.serial_apply d⟩

@[simp] theorem DeviceChange.effect_apply (f : DeviceChange) : (effect f).apply = f.apply := rfl

end DeviceHub

import DeviceHub.Db.UserModel

/-!
# The reads of `db/models/group/model.js` and the device updates of `db/models/all/model.js`

`lockDeviceByOrigin` and `unlockDevice` are the lock on a device that the controllers take.
-/

namespace DeviceHub

open apiutil

namespace GroupModel

/-- The group with this number, if it is stored. -/
def getGroup (id : String) : DbM (Option Group) := Db.findGroup id

/-- The groups that pass the filter. -/
def getGroups (filter : Group → Bool) : DbM (List Group) := Db.findGroups filter

/-- The root group, which the program takes to be there. -/
def getRootGroup : DbM Group := do
  let groups ← Db.findGroups fun g => g.privilege = .root
  match groups with
  | [] => throw .rootGroupNotFound
  | group :: _ => return group

/-- The group, if the user is a member, a moderator or the owner of it. -/
def getUserGroup (email id : String) : DbM (Option Group) := do
  let groups ← Db.findGroups fun g =>
    (email ∈ g.users || email ∈ g.moderators || g.owner.email = email) && g.id = id
  return groups.head?

/-- All bookings. -/
def getTransientGroups : DbM (List Group) := Db.findGroups fun g => g.Transient

/-- The bookings that list the device. -/
def getDeviceTransientGroups (serial : String) : DbM (List Group) :=
  Db.findGroups fun g => serial ∈ g.devices && g.Transient

/-- `state: {$ne: PENDING}`; the order of the answer plays no part in the model. -/
def getReadyGroupsOrderByIndex : DbM (List Group) := Db.findGroups fun g => g.state ≠ .pending

end GroupModel

/-- The result of a promise that nobody waits for is dropped, its exceptions included. -/
def detach {α : Type} (p : DbM α) : DbM Unit :=
  (p.bind fun _ => .ret ()).tryCatch fun _ => .ret ()

namespace AllModel

open GroupModel

/-! ### The current and the origin group of devices -/

/-- The labels of a device are changed to the group's name. -/
def updateDeviceGroupName (serial : String) (group : Group) :
    DbM (Option (Device × Device)) := Db.updateDevice serial (.setGroupName group)

/-- The group becomes the current group of the device. -/
def updateDeviceCurrentGroup (serial : String) (group : Group) :
    DbM (Option (Device × Device)) := Db.updateDevice serial (.setCurrentGroup group)

/-- `await getGroup(origin) || await getRootGroup()`; no group has the id `undefined` that a
missing device leads to. -/
def originOrRoot : Option Device → DbM Group
  | none => getRootGroup
  | some device => do
    match ← getGroup device.group.origin with
    | some group => return group
    | none => getRootGroup

/-- The part of `updateDevicesCurrentGroupFromOrigin` for one serial. -/
def updateDeviceCurrentGroupFromOrigin (serial : String) : DbM (Option (Device × Device)) := do
  let device ← Db.findDevice serial
  let group ← originOrRoot device
  updateDeviceCurrentGroup serial group

/-- Each device goes back to its origin group. -/
def updateDevicesCurrentGroupFromOrigin (serials : List String) :
    DbM (List (Option (Device × Device))) :=
  .all (serials.map updateDeviceCurrentGroupFromOrigin)

/-- The group becomes the current group of the devices. -/
def updateDevicesCurrentGroup (serials : List String) (group : Group) : DbM Nat :=
  Db.updateDevices serials (.setCurrentGroup group)

/-- The group becomes the origin group of the devices; true if there are any. -/
def updateDevicesOriginGroup (serials : List String) (group : Group) : DbM Bool := do
  let matchedCount ← Db.updateDevices serials (.setOriginGroup group)
  return matchedCount ≠ 0

/-- The root group becomes the current group and the origin group of the devices. -/
def returnDevicesToRoot (serials : List String) : DbM Nat := do
  let root ← getRootGroup
  Db.updateDevices serials (.setRootGroup root)

/-! ### The lock on a device -/

/-- The device, if its origin group is one of the groups. -/
def loadDeviceByOrigin (groups : List String) (serial : String) : DbM (List Device) :=
  Db.findDevices fun d => d.serial = serial && d.group.origin ∈ groups

/-- The statistics of the update, and the document read after it. -/
structure DeviceLockStats where
  modifiedCount : Nat
  matchedCount : Nat
  newVal : Option Device
  deriving DecidableEq, Repr

/-- The statistics of `updateOne`, from the document before and after it. -/
def DeviceLockStats.ofUpdate (update : Option (Device × Device)) (newVal : Option Device) :
    DeviceLockStats where
  modifiedCount := if update.any fun s => s.1 ≠ s.2 then 1 else 0
  matchedCount := if update.isSome then 1 else 0
  newVal := newVal

/-- `wrappedlockDeviceByOrigin`, with the `status` that `lockDeviceResult` gives it. -/
def wrappedlockDeviceByOrigin (groups : List String) (serial : String) :
    DbM (DeviceLockStats × Bool) := do
  let _ ← Db.findDevice serial
  let update ← Db.updateDevice serial (.lockByOrigin groups)
  let newDoc ← Db.findDevice serial
  let stats := DeviceLockStats.ofUpdate update newDoc
  if 0 < stats.modifiedCount ∨ 0 < stats.matchedCount then return (stats, true)
  else
    let devices ← loadDeviceByOrigin groups serial
    return (stats, devices.isEmpty)

/-- `apiutil.setIntervalWrapper(fn, numTimes, delay)` for the lock on a device. -/
def deviceIntervalWrapper (fn : DbM (DeviceLockStats × Bool)) : Nat → DbM DeviceLockStats
  | 0 => throw .notLocked
  | numTimes + 1 => do
    let (data, status) ← fn
    if status then return data
    else deviceIntervalWrapper fn numTimes

/-- The device is locked, if its origin group is one of the groups; ten attempts are made. -/
def lockDeviceByOrigin (groups : List String) (serial : String) : DbM DeviceLockStats :=
  deviceIntervalWrapper (wrappedlockDeviceByOrigin groups serial) 10

/-- Both branches of `device?.group?.lock !== state ? state : device?.group?.lock` are `state`. -/
def setLockOnDevice (serial : String) (state : Bool) : DbM (Option (Device × Device)) := do
  let _ ← Db.findDevice serial
  Db.updateDevice serial (.setDeviceLock state)

/-- The lock of the device is taken off. -/
def unlockDevice (serial : String) : DbM (Option (Device × Device)) := setLockOnDevice serial false

end AllModel

end DeviceHub

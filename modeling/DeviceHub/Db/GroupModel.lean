import DeviceHub.Db.AllModel

/-!
# `db/models/group/model.js`

The functions that change groups.  The notifications they send (`GroupChangeHandler`) appear
where they matter to the database: `sendGroupChange` reads `group.dates` and throws when there
is no group, and the handlers of changed groups update devices without being waited for.
-/

namespace DeviceHub

open apiutil lodash

namespace GroupModel

open UserModel AllModel

/-! ### Users and moderators -/

/-- The handler's first statement reads `group.dates`. -/
def sendGroupChange : Option Group → DbM Group
  | none => throw .typeError
  | some group => return group

/-- Only the answers of the two updates are awaited together; the exceptions of the driver
that the function catches do not occur in the model. -/
def addGroupUser (id email : String) : DbM String := do
  let (group, user) ← .par (Db.updateGroup id (.pushUser email))
    (Db.updateUser email (.subscribe id))
  match user with
  | none => return if group.isSome then "unchanged " ++ email else "added " ++ email
  | some (oldUser, _) =>
    let newUser ← loadUser email
    let userModifided := updateUserHandler (some oldUser) newUser
    return if group.isSome && !userModifided then "unchanged " ++ email else "added " ++ email

/-- A user is taken out of a group, unless they own it or have booked its devices. -/
def removeGroupUser (id email : String) : DbM String := do
  match ← Db.findGroup id with
  | none => return "Group with id " ++ id ++ " doesn't exist"
  | some groupBeforeUpdate =>
    if groupBeforeUpdate.owner.email = email then return "Can't remove owner of group."
    else
      let (group, user) ← .par (Db.updateGroup id (.pullUser email))
        (Db.updateUser email (.unsubscribe id))
      let _ ← sendGroupChange (group.map (·.2))
      match user with
      | none => return "deleted"
      | some _ =>
        let _ ← loadUser email
        return "deleted"

/-- A user becomes a member of a group and a moderator. -/
def addGroupModerator (id email : String) : DbM (Option (Group × Group)) := do
  let _ ← addGroupUser id email
  Db.updateGroup id (.pushModerator email)

/-- A moderator becomes a plain member. -/
def removeGroupModerator (id email : String) : DbM (Option (Group × Group)) :=
  Db.updateGroup id (.pullModerator email)

/-- The user has booked no device of a bookable group. -/
def isRemoveGroupUserAllowed (email : String) (targetGroup : Group) : DbM Bool :=
  if targetGroup.class_ ≠ .bookable then return true
  else do
    let groups ← Db.findGroups fun g => g.owner.email = email && g.Transient &&
      (intersection g.devices targetGroup.devices).length > 0
    return groups.isEmpty

/-! ### Devices -/

/-- Two windows overlap. -/
def overlaps (t c : Window) : Bool := t.start < c.stop && c.start < t.stop

/-- The first group one of whose windows overlaps one of `targetDates`. -/
def checkDatesOverlaps (targetDates : List Window) (groups : List Group) : Option Group :=
  groups.find? fun g => targetDates.any fun t => g.dates.any fun c => overlaps t c

/-- `treatGroupDevicesChange` on an active origin group. -/
def treatGroupDevicesChange (group : Group) (devices : List String) (isAddedDevice : Bool) :
    DbM Unit :=
  if group.isActive = false ∨ isOriginGroup group.class_ = false then return ()
  else if isAddedDevice then detach (updateDevicesCurrentGroup devices group)
  else detach (updateDevicesCurrentGroupFromOrigin devices)

/-- The query of `addGroupDevices`. -/
def bookingsOf (serials : List String) (g : Group) : Bool :=
  g.Transient && g.devices.any (· ∈ serials)

/-- Devices are added to a booking, and its owner is charged for them. -/
def addGroupDevices (group : Group) (serials : List String) : DbM Group :=
  if serials = [] then return group
  else match computeDuration group serials.length with
  | .error e => throw e
  | .ok duration => do
    let stats ← updateUserGroupDuration group.owner.email group.duration duration
    if stats.modifiedCount = 0 then throw .quotaIsReached
    else
      let groups ← Db.findGroups (bookingsOf serials)
      if (checkDatesOverlaps group.dates groups).isSome then throw .datesOverlap
      else
        let newGroup ← Db.updateGroup group.id
          (.setDevices duration (union group.devices serials))
        let newGroup ← sendGroupChange (newGroup.map (·.2))
        treatGroupDevicesChange newGroup serials true
        return newGroup

/-- Devices are taken out of a booking, and its owner is charged for less. -/
def removeGroupDevices (group : Group) (serials : List String) : DbM Group :=
  match computeDuration group (-serials.length) with
  | .error e => throw e
  | .ok duration => do
    let _ ← updateUserGroupDuration group.owner.email group.duration duration
    let newGroup ← Db.updateGroup group.id
      (.setDevices duration (difference group.devices serials))
    let newGroup ← sendGroupChange (newGroup.map (·.2))
    treatGroupDevicesChange newGroup serials false
    return newGroup

/-! ### Origin groups -/

/-- A device is added to an origin group. -/
def addOriginGroupDevice (group : Group) (serial : String) : DbM Group := do
  let newGroup ← Db.updateGroup group.id (.pushDevice serial)
  let newGroup ← sendGroupChange (newGroup.map (·.2))
  treatGroupDevicesChange newGroup [serial] true
  return newGroup

/-- A device is taken out of an origin group. -/
def removeOriginGroupDevice (group : Group) (serial : String) : DbM Group := do
  let newGroup ← Db.updateGroup group.id (.pullDevice serial)
  let newGroup ← sendGroupChange (newGroup.map (·.2))
  treatGroupDevicesChange newGroup [serial] false
  return newGroup

/-- A booked device may change its origin group only where those who have booked it stay entitled to
it. -/
def isUpdateDeviceOriginGroupAllowed (serial : String) (targetGroup : Group) : DbM Bool := do
  let groups ← getDeviceTransientGroups serial
  if groups = [] then return true
  else if targetGroup.class_ = .standard then return false
  else return !groups.any fun group => group.owner.email ∈ targetGroup.users

/-! ### Creation -/

/-- The data of a new group. -/
structure GroupData where
  name : String
  owner : Owner
  privilege : Privilege
  class_ : GroupClass
  repetitions : Int
  isActive : Bool
  dates : List Window
  duration : Int
  state : GroupState
  deriving DecidableEq, Repr

/-- The document that `createGroup` inserts; `id` is the generated identifier. -/
def GroupData.toGroup (data : GroupData) (id : String) (users : List String) : Group where
  id := id
  name := data.name
  owner := data.owner
  privilege := data.privilege
  class_ := data.class_
  repetitions := data.repetitions
  isActive := data.isActive
  dates := data.dates
  duration := data.duration
  state := data.state
  devices := []
  users := union users [data.owner.email]
  moderators := []

/-- A group is inserted, with its users. -/
def createGroup (id : String) (data : GroupData) (users : List String) : DbM Group := do
  let inserted ← Db.insertGroup (data.toGroup id users)
  if !inserted then throw .duplicateKey
  else
    let newGroup ← getGroup id
    sendGroupChange newGroup

/-- `none` stands for the answer `false`, and for the `null` of the last lookup. -/
def createUserGroup (id : String) (data : GroupData) : DbM (Option Group) := do
  let stats ← reserveUserGroupInstance data.owner.email
  if stats.modifiedCount = 0 then return none
  else
    let rootGroup ← getRootGroup
    let group ← createGroup id data [rootGroup.owner.email]
    let _ ← .par (addGroupUser group.id group.owner.email)
      (addGroupUser group.id rootGroup.owner.email)
    getGroup group.id

/-! ### Update -/

/-- A group is renamed, and the labels of its devices are changed. -/
def updateGroupName (id name : String) : DbM Group := do
  let newGroup ← Db.updateGroup id (.setName name)
  let newGroup ← sendGroupChange (newGroup.map (·.2))
  detach (.all (newGroup.devices.map fun serial => updateDeviceGroupName serial newGroup))
  return newGroup

/-- `isChangedDates` of `updateUserGroup`; with equal lengths it reads the first windows. -/
def isChangedDates (group newGroup : Group) : Except JsError Bool :=
  if group.dates.length ≠ newGroup.dates.length then .ok true
  else match group.dates, newGroup.dates with
  | w :: _, w' :: _ => .ok (w.start ≠ w'.start || w.stop ≠ w'.stop)
  | _, _ => .error .typeError

/-- The part of `doUpdateDevicesCurrentGroupDates` for one serial. -/
def updateDeviceCurrentGroupDates (group : Group) (serial : String) : DbM Unit :=
  if isOriginGroup group.class_ then do
    match ← Db.findDevice serial with
    | none => throw .typeError
    | some device =>
      if device.group.id = group.id then
        let _ ← updateDevicesCurrentGroup [serial] group
        return ()
      else return ()
  else do
    let _ ← updateDevicesCurrentGroup [serial] group
    return ()

/-- The handlers that `updateUserGroup` starts and does not wait for. -/
def updateHandlers (group newGroup : Group) (changedDates : Bool) : List (DbM Unit) :=
  [if !group.isActive && newGroup.isActive && newGroup.devices ≠ [] then
      detach (updateDevicesCurrentGroup newGroup.devices newGroup) else return (),
    if group.isActive && !newGroup.isActive && newGroup.devices ≠ [] then
      detach (updateDevicesCurrentGroupFromOrigin newGroup.devices) else return (),
    if changedDates && newGroup.isActive then
      detach (.all (newGroup.devices.map (updateDeviceCurrentGroupDates newGroup)))
      else return (),
    if group.name ≠ newGroup.name then
      detach (.all (newGroup.devices.map fun serial => updateDeviceGroupName serial newGroup))
      else return ()]

/-- `none` is the answer `false`. -/
def updateUserGroup (group : Group) (data : GroupUpdate) : DbM (Option Group) := do
  let stats ← updateUserGroupDuration group.owner.email group.duration data.duration
  if stats.modifiedCount = 0 ∧ stats.matchedCount = 0 ∨ group.duration ≠ data.duration then
    return none
  else
    match (← Db.updateGroup group.id (.setData data)).map (·.2) with
    | none => throw .typeError
    | some newGroup =>
      match isChangedDates group newGroup with
      | .error e => throw e
      | .ok changedDates =>
        let _ ← Prog.all (updateHandlers group newGroup changedDates)
        return some newGroup

/-! ### Deletion -/

/-- The answers `'deleted'` and `'forbidden'` of `deleteUserGroup`. -/
inductive Deletion where
  | deleted | forbidden
  deriving DecidableEq, Repr

/-- What `deleteUserGroup` does after the document was deleted: the subscriptions, the quotas
and the devices. -/
def releaseGroup (group : Group) : DbM Unit := do
  let _ ← Prog.all (group.users.map fun email => Db.updateUser email (.unsubscribe group.id))
  let _ ← releaseUserGroupInstance group.owner.email
  let _ ← updateUserGroupDuration group.owner.email group.duration 0
  if isOriginGroup group.class_ then
    let _ ← returnDevicesToRoot group.devices
    detach (updateDevicesCurrentGroupFromOrigin group.devices)
  else
    let _ ← updateDevicesCurrentGroupFromOrigin group.devices
    return ()

/-- Without a group, `Promise.all(group?.users.map(..))` is given `undefined` and throws. -/
def deleteUserGroup (id : String) : DbM Deletion := do
  let group ← getGroup id
  if group.any fun g => g.privilege = .root then return .forbidden
  else
    let _ ← Db.deleteGroup id
    match group with
    | none => throw .typeError
    | some group =>
      releaseGroup group
      return .deleted

end GroupModel

end DeviceHub

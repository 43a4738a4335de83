import DeviceHub.Db.GroupModel
import Mathlib.Data.List.Infix

/-!
# `units/api/controllers/groups.js`

The controllers that change groups.  A controller returns the first response it sends
(`apiutil.respond` drops the later ones), without the data attached to it, or `none` when it
sends nothing.  What a request carries is an argument: the user `req.user`, the path and the body
parameters, an absent one being `none`.
-/

namespace DeviceHub

open apiutil lodash

/-- The status code and the description of a response. -/
structure Response where
  code : Nat
  description : String
  deriving DecidableEq, Repr

/-- `apiutil.internalError` -/
def internalError : Response := ⟨500, "Internal Server Error"⟩

namespace groups

open UserModel AllModel

/-- The last `.catch` of a controller. -/
def orInternalError (p : DbM (Option Response)) : DbM (Option Response) :=
  p.tryCatch fun _ => return some internalError

/-! ### `checkConflicts` and `checkSchedule` -/

/-- One entry of the list that `checkConflicts` returns. -/
structure Conflict where
  devices : List String
  date : Window
  group : String
  owner : Owner
  deriving DecidableEq, Repr

/-- `computeConflicts` for one pair of windows. -/
def windowConflict (devices : List String) (otherGroup : Group) (liteGroupDate : LifeTime)
    (otherGroupDate : Window) : Option Conflict :=
  match liteGroupDate.start, liteGroupDate.stop with
  | some start, some stop =>
    if start < otherGroupDate.stop ∧ stop > otherGroupDate.start then
      some { devices := devices
             date := ⟨max start otherGroupDate.start, min stop otherGroupDate.stop⟩
             group := otherGroup.name
             owner := otherGroup.owner }
    else none
  | _, _ => none

/-- The conflicts of the dates with those of another group, for the devices that both list. -/
def computeConflicts (id : String) (devices : List String) (dates : List LifeTime)
    (otherGroup : Group) : List Conflict :=
  if otherGroup.id = id then []
  else
    let devices := intersection devices otherGroup.devices
    if devices = [] then []
    else dates.flatMap fun t => otherGroup.dates.filterMap (windowConflict devices otherGroup t)

/-- The conflicts with every transient group that is stored. -/
def checkConflicts (id : String) (devices : List String) (dates : List LifeTime) :
    DbM (List Conflict) := do
  let groups ← GroupModel.getTransientGroups
  return groups.flatMap (computeConflicts id devices dates)

/-- The checks of `checkSchedule` that need no database; `none` when they pass. -/
def checkScheduleSync (oldGroup : Option Group) (class_ : GroupClass) (repetitions : Int)
    (privilege : Privilege) (start stop : JsDate) : Option Response :=
  if oldGroup.any fun g => g.devices ≠ [] && isOriginGroup class_ ≠ isOriginGroup g.class_ then
    some ⟨403, "Forbidden (unauthorized class while device list is not empty)"⟩
  else if isAdminGroup class_ && privilege = .user then
    some ⟨403, "Forbidden (unauthorized class)"⟩
  else match start, stop with
  | none, _ => some ⟨400, "Bad Request (Invalid startTime format)"⟩
  | some _, none => some ⟨400, "Bad Request (Invalid stopTime format)"⟩
  | some start, some stop =>
    if start ≥ stop then
      some ⟨400, "Bad Request (Invalid life time: startTime >= stopTime)"⟩
    else if (CLASS_DURATION class_).any fun d => stop - start > d then
      some ⟨400,
        "Bad Request (Invalid Life time & class combination: life time > class duration)"⟩
    else match class_ with
    | .bookable | .standard | .once =>
      if repetitions ≠ 0 then
        some ⟨400, "Bad Request (Invalid class & repetitions combination)"⟩
      else none
    | _ =>
      if repetitions = 0 then
        some ⟨400, "Bad Request (Invalid class & repetitions combination)"⟩
      else none

/-- `none` is the answer `true`. -/
def checkSchedule (oldGroup : Option Group) (class_ : GroupClass) (email : String)
    (repetitions : Int) (privilege : Privilege) (start stop : JsDate) :
    DbM (Option Response) :=
  match checkScheduleSync oldGroup class_ repetitions privilege start stop with
  | some response => return some response
  | none => do
    let owner ← loadUser email
    if owner.any fun owner => repetitions > owner.quotas.repetitions then
      return some ⟨400, "Bad Request (Invalid repetitions value)"⟩
    else return none

/-! ### `deleteGroups` -/

/-- What `removeGroup` reports for one group. -/
inductive Removal where
  | notFound | forbidden | deleted
  deriving DecidableEq, Repr

/-- The outcome of a removal whose deletion ended this way. -/
def Removal.ofDeletion : GroupModel.Deletion → Removal
  | .deleted => .deleted
  | .forbidden => .forbidden

/-- Some transient group lists the device. -/
def isDeviceBooked (serial : String) : DbM Bool := do
  let groups ← GroupModel.getDeviceTransientGroups serial
  return !groups.isEmpty

/-- The devices of a bookable group, one after the other, until one is booked. -/
def rejectBooked : List String → DbM Unit
  | [] => return ()
  | serial :: serials => do
    if ← isDeviceBooked serial then throw .booked
    else rejectBooked serials

/-- `removeGroup(id)`; `unsetDevices` only sends messages to the devices. -/
def removeGroup (user : User) (id : String) : DbM Removal := do
  match ← GroupModel.getUserGroup user.email id with
  | none => return .notFound
  | some group =>
    if !hasGroupEditPermission group user false then return .forbidden
    else if group.privilege = .root then return .forbidden
    else if group.class_ = .bookable then
      Prog.tryCatch (do
        rejectBooked group.devices
        return Removal.ofDeletion (← GroupModel.deleteUserGroup id))
        fun err => if err ≠ .booked then throw err else return .forbidden
    else return Removal.ofDeletion (← GroupModel.deleteUserGroup id)

/-- The response to the results of `removeGroups`. -/
def removeGroupsResponse (target : String) (results : List Removal) : Response :=
  if results = [] then ⟨304, "Unchanged (" ++ target ++ ")"⟩
  else if .notFound ∈ results then ⟨404, "Not Found (" ++ target ++ ")"⟩
  else if .forbidden ∈ results then ⟨403, "Forbidden (" ++ target ++ ")"⟩
  else ⟨200, "Deleted (" ++ target ++ ")"⟩

/-- The groups are removed one after the other. -/
def removeGroups (user : User) (target : String) (ids : List String) :
    DbM (Option Response) :=
  Prog.tryCatch (do
    let results ← Prog.each (removeGroup user) ids
    return some (removeGroupsResponse target results))
    fun err => if err ≠ .busy then throw err else return none

/-- `getGroupsByIndex(email, 'owner')` compares the field `owner`, an object, with a string: it
finds nothing. -/
def getOwnerGroups (email : String) : DbM (List Group) := do
  let group ← GroupModel.getRootGroup
  if email = group.owner.email then GroupModel.getGroups fun _ => true
  else Db.findGroups fun _ => false

/-- The handler that deletes the named groups, or all groups of the user. -/
def deleteGroups (user : User) (ids : Option String) (redirected : Bool) :
    DbM (Option Response) :=
  let target := if redirected then "groups" else "group"
  orInternalError <|
    match ids.filter (· ≠ "") with
    | some ids => removeGroups user target (without (splitComma ids) "")
    | none => do
      let groups ← getOwnerGroups user.email
      removeGroups user target ((groups.filter (·.privilege ≠ .root)).map (·.id))

/-! ### `addGroupDevices` -/

/-- The body parameters of `addGroupDevices`.  `filters` is the condition that the filters on
the fields of a device amount to, `sample` the choice of the database under `$sample`. -/
structure DeviceSelection where
  serials : Option String
  amount : Option Int
  needAmount : Bool
  isInternal : Bool
  redirected : Bool
  filters : Device → Bool
  sample : List Device → List Device

/-- The selection among the subscribed groups when neither serials nor an amount are given:
`exclude` collects the devices of the overlapping transient groups met so far. -/
def selectDevices (group : Group) : List String → List Group → Except JsError (List String)
  | _, [] => .ok []
  | exclude, g :: groups =>
    if g.devices = [] then selectDevices group exclude groups
    else
      let kept := g.devices.filter fun serial => serial ∉ group.devices && serial ∉ exclude
      if isOriginGroup g.class_ then do
        let rest ← selectDevices group exclude groups
        return kept ++ rest
      else match g.dates, group.dates with
      | w :: _, t :: _ =>
        if (w.start < t.start ∧ w.stop > t.start) ∨ (w.start > t.start ∧ w.start < t.stop) then
          selectDevices group (union exclude g.devices) groups
        else do
          let rest ← selectDevices group exclude groups
          return kept ++ rest
      | _, _ => .error .typeError

/-- The query of `loadBookableDevicesWithFiltersLock`. -/
def bookable (groups : List String) (filters : Device → Bool) (d : Device) : Bool :=
  d.group.origin ∈ groups && d.group.class_ = .bookable && d.present && d.ready &&
    d.status = 3 && d.owner.isNone && d.group.lock = some false && filters d

/-- The exceptions of `devicesFunc` reach nobody, the lock is released in any case. -/
def loadBookableDevicesWithFiltersLock (groups : List String) (filters : Device → Bool)
    (sample : List Device → List Device)
    (devicesFunc : List Device → DbM (Option Response)) : DbM (Option Response) := do
  let devices ← Db.findDevices (bookable groups filters)
  let devices := sample devices
  let serials := devices.map (·.serial)
  let _ ← Db.updateDevices serials (.setDeviceLock true)
  let response ← (devicesFunc devices).tryCatch fun _ => return none
  if serials ≠ [] then
    let _ ← Db.updateDevices serials (.setDeviceLock false)
    return response
  else return response

/-- `_addGroupDevices(group, serials)`; the clock reads `now` when the devices were added. -/
def addDevicesToGroup (user : User) (now : Int) (target : String) (isInternal : Bool)
    (group : Group) (serials : List String) : DbM (Option Response) :=
  Prog.tryCatch (do
    let autotestsGroup ← GroupModel.addGroupDevices group serials
    if (GroupModel.checkDatesOverlaps [⟨now, now⟩] [autotestsGroup]).isSome then
      let _ ← updateDevicesCurrentGroup autotestsGroup.devices autotestsGroup
      if isInternal then
        let _ ← Db.findDevices fun d => d.serial ∈ autotestsGroup.devices
        return some ⟨200, "Added (group " ++ target ++ ")"⟩
      else return some ⟨200, "Added (group " ++ target ++ ")"⟩
    else if isInternal then
      let _ ← Db.findDevices fun d => d.serial ∈ autotestsGroup.devices
      return some ⟨200, "Added (group " ++ target ++ ")"⟩
    else return some ⟨200, "Added (group " ++ target ++ ")"⟩)
    fun err => match err with
    | .quotaIsReached => do
      let _ ← deleteGroups user (some group.id) true
      return some ⟨403, "Forbidden (groups duration quota is reached)"⟩
    | .datesOverlap =>
      return some ⟨403, "Forbidden (device(s) are busy in the required schedule period)"⟩
    | _ => return some internalError

/-- What `addGroupDevices` does once the requester may edit the group. -/
def addSelectedDevices (user : User) (now : Int) (sel : DeviceSelection) (group : Group) :
    DbM (Option Response) :=
  let target := if sel.redirected then "device" else "devices"
  match sel.serials, sel.amount with
  | none, none => do
    let groups ← GroupModel.getGroups fun g => g.id ∈ user.subscribed
    match selectDevices group [] groups with
    | .error e => throw e
    | .ok serials => addDevicesToGroup user now target sel.isInternal group serials
  | serials, amount =>
    match serials.filter (· ≠ ""), amount.filter (· ≠ 0) with
    | some serials, _ =>
      addDevicesToGroup user now target sel.isInternal group
        (difference (without (splitComma serials) "") group.devices)
    | none, some amount =>
      loadBookableDevicesWithFiltersLock user.subscribed sel.filters sel.sample fun devices =>
        let serials := devices.map (·.serial)
        if serials ≠ [] ∧ sel.needAmount = false ∨
            sel.needAmount = true ∧ (serials.length : Int) = amount then
          addDevicesToGroup user now target sel.isInternal group serials
        else do
          let _ ← deleteGroups user (some group.id) true
          return some ⟨409, "Cant create group. Not enough free devices"⟩
    | none, none => return none

/-- `addGroupDevices(req, res)`.  A member who may not edit the group has the request run
again as the group's owner; `reruns` bounds how often. -/
def addGroupDevices (now : Int) (sel : DeviceSelection) (id : String) :
    Nat → User → DbM (Option Response)
  | reruns, user => do
    match ← GroupModel.getUserGroup user.email id with
    | none => return some ⟨404, "Not Found (group)"⟩
    | some group =>
      if !hasGroupEditPermission group user then
        match reruns with
        | 0 => return none
        | reruns + 1 =>
          match ← loadUser group.owner.email with
          | none => return some ⟨404, "Not Found (user)"⟩
          | some owner => addGroupDevices now sel id reruns owner
      else if isOriginGroup group.class_ then
        return some ⟨400, "Bad Request (use admin API for bookable/standard groups)"⟩
      else orInternalError (addSelectedDevices user now sel group)

/-! ### `removeGroupDevices` -/

/-- The handler that takes devices out of a group. -/
def removeGroupDevices (user : User) (id : String) (serials : Option String)
    (redirected isInternal : Bool) : DbM (Option Response) :=
  let target := if redirected then "device" else "devices"
  orInternalError do
    match ← GroupModel.getUserGroup user.email id with
    | none => return some ⟨404, "Not Found (group)"⟩
    | some group =>
      if isOriginGroup group.class_ then
        return some ⟨400, "Bad Request (use admin API for bookable/standard groups)"⟩
      else if !hasGroupEditPermission group user then
        return some ⟨403, "Forbidden (unauthorized)"⟩
      else
        let serialsToRemove :=
          serials.elim group.devices fun serials => without (splitComma serials) ""
        if serialsToRemove = [] then
          return some ⟨200, "Unchanged (group " ++ target ++ ")"⟩
        else
          let serialsToRemove := intersection serialsToRemove group.devices
          if serialsToRemove = [] then return some ⟨404, "Not Found (group " ++ target ++ ")"⟩
          else
            let group ← GroupModel.removeGroupDevices group serialsToRemove
            if group.class_ = .once then
              detach (updateDevicesCurrentGroupFromOrigin serialsToRemove)
              if isInternal then return none
              else return some ⟨200, "Removed (group " ++ target ++ ")"⟩
            else return some ⟨200, "Removed (group " ++ target ++ ")"⟩

/-! ### `addGroupUsers` and `removeGroupUsers` -/

/-- `lockutil.unlockUser(lock)`, for which nobody waits. -/
def unlockUser (lock : Option User) : DbM Unit :=
  match lock with
  | none => return ()
  | some user => detach (AllModel.unlockUser user.email)

/-- `lockUser(email)`, then `fn` while the lock is held, then `unlockUser`.  Without a changed
document `lightComputeStats` answers `'not found'`. -/
def withUserLock (email : String) (fn : DbM String) : DbM String := do
  let stats ← AllModel.lockUser email
  if stats.modifiedCount = 0 then return "not found"
  else
    let result ← fn.tryCatch fun e => do
      unlockUser stats.newVal
      throw e
    unlockUser stats.newVal
    return result

/-- The inner `removeGroupUser(email, group, rootGroup)`. -/
def removeOneUser (id email : String) (group rootGroup : Group) : DbM String :=
  if email ∉ group.users then return "not found"
  else if email = rootGroup.owner.email ∨ email = group.owner.email then return "forbidden"
  else withUserLock email do
    if ← GroupModel.isRemoveGroupUserAllowed email group then GroupModel.removeGroupUser id email
    else return "forbidden"

/-- The group that a response publishes must exist. -/
def publishGroup (id : String) (response : Response) : DbM (Option Response) := do
  match ← GroupModel.getGroup id with
  | none => throw .typeError
  | some _ => return some response

/-- The handler that takes users out of a group. -/
def removeGroupUsers (user : User) (id : String) (emails : Option String) (redirected : Bool) :
    DbM (Option Response) :=
  let target := if redirected then "user" else "users"
  orInternalError do
    match ← GroupModel.getUserGroup user.email id with
    | none => return none
    | some group =>
      let rootGroup ← GroupModel.getRootGroup
      let emailsToRemove :=
        match emails.filter (· ≠ "") with
        | none => group.users
        | some emails => without (splitComma emails) ""
      Prog.tryCatch (do
        let results ←
          Prog.all (emailsToRemove.map fun email => removeOneUser id email group rootGroup)
        if results = [] then return some ⟨200, "Unchanged (group " ++ target ++ ")"⟩
        else
          let results := without results "not found"
          if results = [] then return some ⟨404, "Not Found (group " ++ target ++ ")"⟩
          else if without results "forbidden" = [] then
            return some ⟨403, "Forbidden (group " ++ target ++ ")"⟩
          else publishGroup id ⟨200, "Removed (group " ++ target ++ ")"⟩)
        fun err => if err ≠ .busy then throw err else return none

/-- The inner `addGroupUser(email)`. -/
def addOneUser (id email : String) : DbM String :=
  (withUserLock email (GroupModel.addGroupUser id email)).tryCatch fun e =>
    if e = .typeError then return "User with email " ++ email ++ " doesn't exist"
    else throw .notFound

/-- `str.includes("doesn't exist")` -/
def unknownUser (result : String) : Bool :=
  "doesn't exist".toList <:+: result.toList

/-- `_addGroupUsers(emails)` -/
def addListedUsers (id target : String) (emails : List String) : DbM (Option Response) := do
  let results ← Prog.each (addOneUser id) emails
  if without results "unchanged" = [] then
    return some ⟨200, "Unchanged (group " ++ target ++ ")"⟩
  else if without results "not found" = [] then
    return some ⟨404, "Not Found (group " ++ target ++ ")"⟩
  else if results.any unknownUser then
    publishGroup id ⟨207, "Not all of users added (group " ++ target ++ ")"⟩
  else publishGroup id ⟨200, "Added (group " ++ target ++ ")"⟩

/-- The handler that adds users to a group. -/
def addGroupUsers (user : User) (id : String) (emails : Option String) (redirected : Bool) :
    DbM (Option Response) :=
  let target := if redirected then "user" else "users"
  orInternalError do
    match ← GroupModel.getUserGroup user.email id with
    | none => return none
    | some group =>
      if !hasGroupEditPermission group user then return some ⟨403, "Forbidden (unauthorized)"⟩
      else match emails with
      | none => do
        let users ← getUsers
        addListedUsers id target ((users.filter fun u => u.email ∉ group.users).map (·.email))
      | some emails =>
        addListedUsers id target (difference (without (splitComma emails) "") group.users)

/-! ### `addGroupModerator` and `removeGroupModerator` -/

/-- The common part of the two controllers of moderators: `fn` is the change, `did` the word
for it in the response. -/
def changeModerator (user : User) (id did : String) (fn : DbM (Option (Group × Group))) :
    DbM (Option Response) :=
  orInternalError do
    match ← GroupModel.getUserGroup user.email id with
    | none => return some ⟨404, "Not Found (group)"⟩
    | some group =>
      if !hasGroupEditPermission group user then
        return some ⟨403, "Forbidden (unauthorized admin/owner/moderator)"⟩
      else
        let stats ← fn
        if stats.any fun s => s.1 ≠ s.2 then publishGroup id ⟨200, did ++ " (moderator)"⟩
        else return some ⟨200, "Unchanged (moderator)"⟩

/-- The handler that makes a user a moderator of a group. -/
def addGroupModerator (user : User) (id email : String) : DbM (Option Response) :=
  changeModerator user id "Added" (GroupModel.addGroupModerator id email)

/-- The handler that makes a moderator a plain member again. -/
def removeGroupModerator (user : User) (id email : String) : DbM (Option Response) :=
  changeModerator user id "Removed" (GroupModel.removeGroupModerator id email)

/-! ### `createGroup` and `updateGroup` -/

/-- The body of `createGroup` and `updateGroup`.  A time is the date that `new Date` makes of
the given string. -/
structure GroupBody where
  name : Option String
  startTime : Option JsDate
  stopTime : Option JsDate
  class_ : Option GroupClass
  repetitions : Option Int
  state : Option GroupState
  deriving DecidableEq, Repr

/-- `createGroupFunc`: the schedule is checked, and the group created in any case.  The
response of a failed check is the first one. -/
def createGroupFunc (id : String) (data : GroupModel.GroupData) (start stop : JsDate) :
    DbM (Option Response × Option Group) :=
  .par (checkSchedule none data.class_ data.owner.email data.repetitions data.privilege start stop)
    (GroupModel.createUserGroup id data)

/-- The data and the life time that `createGroup` computes from its body; `name` is the
generated name. -/
def createData (user : User) (now : Int) (name : String) (body : GroupBody) :
    GroupModel.GroupData × LifeTime :=
  let class_ := body.class_.getD .once
  let repetitions := if isOriginGroup class_ then 0 else body.repetitions.getD 0
  let start := if isOriginGroup class_ then some now else body.startTime.getD (some now)
  let stop :=
    if isOriginGroup class_ then some (now + ONE_YEAR)
    else body.stopTime.getD (some (now + ONE_HOUR))
  let state := if isOriginGroup class_ then .ready else body.state.getD .ready
  ({ name := body.name.getD name
     owner := ⟨user.email, user.name⟩
     privilege := user.privilege
     class_ := class_
     repetitions := repetitions
     isActive := decide (state = .ready) && isOriginGroup class_
     dates := (computeGroupDates ⟨start, stop⟩ class_ repetitions).map LifeTime.stored
     duration := 0
     state := state }, ⟨start, stop⟩)

/-- The handler that creates a group from the body of a request. -/
def createGroup (user : User) (now : Int) (id name : String) (body : GroupBody) :
    DbM (Option Response) :=
  orInternalError do
    let (data, lifeTime) := createData user now name body
    let (rejected, group) ← createGroupFunc id data lifeTime.start lifeTime.stop
    match rejected with
    | some response => return some response
    | none =>
      if group.isSome then return some ⟨201, "Created"⟩
      else return some ⟨403, "Forbidden (groups number quota is reached)"⟩

/-- The inner `updateUserGroup(group, data)`. -/
def updateGroupData (isInternal : Bool) (group : Group) (data : GroupUpdate) :
    DbM (Option Response) := do
  match ← GroupModel.updateUserGroup group data with
  | none => return some ⟨403, "Forbidden (groups duration quota is reached)"⟩
  | some group =>
    if isInternal then
      let _ ← Db.findDevices fun d => d.serial ∈ group.devices
      return some ⟨200, "Updated (group)"⟩
    else return some ⟨200, "Updated (group)"⟩

/-- The values that `updateGroup` reads from its body, the group's own ones being the
default. -/
structure Schedule where
  class_ : GroupClass
  name : String
  repetitions : Int
  start : JsDate
  stop : JsDate
  deriving DecidableEq, Repr

/-- The schedule that an update asks for: what the body leaves out stays as it is. -/
def requestedSchedule (group : Group) (w : Window) (body : GroupBody) : Schedule where
  class_ := body.class_.getD group.class_
  name := body.name.getD group.name
  repetitions := body.repetitions.getD group.repetitions
  start := body.startTime.getD (some w.start)
  stop := body.stopTime.getD (some w.stop)

/-- A group that is not pending: only its name can be updated.  `toISOString` throws on an
invalid date. -/
def updateName (group : Group) (w : Window) (body : GroupBody) (sched : Schedule) :
    DbM (Option Response) :=
  match sched.start, sched.stop with
  | some start, some stop => do
    if start ≠ w.start ∨ stop ≠ w.stop ∨ body.state.getD group.state ≠ group.state ∨
        sched.class_ ≠ group.class_ ∨ sched.repetitions ≠ group.repetitions then
      return some ⟨403, "Forbidden (only name can be updated)"⟩
    else if sched.name = group.name then return some ⟨200, "Unchanged (group)"⟩
    else
      let _ ← GroupModel.updateGroupName group.id sched.name
      return some ⟨200, "Updated (group)"⟩
  | _, _ => throw .typeError

/-- The data that `updateGroup` stores for an accepted schedule. -/
def updateData (group : Group) (body : GroupBody) (sched : Schedule) (start stop : Int) :
    GroupUpdate where
  name := sched.name
  state := if isOriginGroup sched.class_ then .ready else body.state.getD .pending
  class_ := sched.class_
  isActive := isOriginGroup sched.class_
  repetitions := sched.repetitions
  dates := (computeGroupDates ⟨some start, some stop⟩ sched.class_ sched.repetitions).map
    LifeTime.stored
  duration :=
    if isOriginGroup sched.class_ then 0
    else group.devices.length * (stop - start) * (sched.repetitions + 1)

/-- The schedule goes beyond the stored one, so that conflicts have to be looked for. -/
def extendsSchedule (group : Group) (w : Window) (sched : Schedule) (start stop : Int) : Prop :=
  start < w.start ∨ stop > w.stop ∨ sched.repetitions > group.repetitions ∨
    sched.class_ ≠ group.class_

instance (group : Group) (w : Window) (sched : Schedule) (start stop : Int) :
    Decidable (extendsSchedule group w sched start stop) :=
  inferInstanceAs (Decidable (_ ∨ _ ∨ _ ∨ _))

/-- A pending group: its schedule can be updated. -/
def updateSchedule (id : String) (isInternal : Bool) (group : Group) (w : Window)
    (body : GroupBody) (sched : Schedule) : DbM (Option Response) := do
  match ← checkSchedule (some group) sched.class_ group.owner.email sched.repetitions
      group.privilege sched.start sched.stop with
  | some response => return some response
  | none =>
    match sched.start, sched.stop with
    | some start, some stop =>
      let data := updateData group body sched start stop
      if isInternal ∧ sched.name = group.name ∧ start = w.start ∧ stop = w.stop ∧
          data.state = group.state ∧ sched.class_ = group.class_ ∧
          sched.repetitions = group.repetitions then
        let _ ← Db.findDevices fun d => d.serial ∈ group.devices
        return some ⟨200, "Unchanged (group)"⟩
      else if extendsSchedule group w sched start stop then
        let conflicts ← checkConflicts id group.devices
          (computeGroupDates ⟨some start, some stop⟩ sched.class_ sched.repetitions)
        if conflicts = [] then updateGroupData isInternal group data
        else return some ⟨409, "Conflicts Information"⟩
      else updateGroupData isInternal group data
    | _, _ => throw .typeError

/-- The handler that updates a group from the body of a request. -/
def updateGroup (user : User) (id : String) (isInternal : Bool) (body : GroupBody) :
    DbM (Option Response) :=
  orInternalError do
    match ← GroupModel.getUserGroup user.email id with
    | none => return some ⟨404, "Not Found (group)"⟩
    | some group =>
      if !hasGroupEditPermission group user then
        return some ⟨403, "Forbidden (unauthorized admin/owner/moderator)"⟩
      else match group.dates with
      | [] => throw .typeError
      | w :: _ =>
        let sched := requestedSchedule group w body
        if group.state ≠ .pending then updateName group w body sched
        else updateSchedule id isInternal group w body sched

end groups

end DeviceHub

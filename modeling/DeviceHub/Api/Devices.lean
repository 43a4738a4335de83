import DeviceHub.Api.Groups

/-!
# `units/api/controllers/devices.js`

The controllers that move devices between origin groups.  A device is locked while it is moved; what
follows in its groups is the work of the watcher.
-/

namespace DeviceHub

open apiutil lodash

namespace devices

open AllModel GroupModel

/-- What `updateDeviceOriginGroup` reports for one device. -/
inductive OriginUpdate where
  | notFound | updated
  deriving DecidableEq, Repr

/-- `lockutil.unlockDevice(lock)`; nobody waits for it. -/
def unlock : Option Device → DbM Unit
  | none => return ()
  | some device => detach (unlockDevice device.serial)

/-- The device is asked to move to another origin group, and whether it did. -/
def askUpdateDeviceOriginGroup (group : Group) (serial : String) : DbM OriginUpdate := do
  let result ← updateDevicesOriginGroup [serial] group
  if result then
    let _ ← Db.findDevice serial
    return .updated
  else return .updated

/-- What `updateDeviceOriginGroup` does with the lock. -/
def moveDevice (group : Group) (serial : String) : DbM OriginUpdate := do
  if ← isUpdateDeviceOriginGroupAllowed serial group then askUpdateDeviceOriginGroup group serial
  else throw .booked

/-- `lightComputeStats` reports `not found`: the statistics are never marked as locked here. -/
def updateDeviceOriginGroup (user : User) (group : Group) (serial : String) :
    DbM OriginUpdate := do
  let stats ← lockDeviceByOrigin user.subscribed serial
  if stats.modifiedCount = 0 then return .notFound
  else
    let result ← (moveDevice group serial).tryCatch fun err => do
      unlock stats.newVal
      throw err
    unlock stats.newVal
    return result

/-- The response to the results of `updateDevicesOriginGroup`. -/
def originResponse (target : String) (results : List OriginUpdate) : Response :=
  if results = [] then ⟨200, "Unchanged (" ++ target ++ ")"⟩
  else if ∀ result ∈ results, result = .notFound then ⟨404, "Not Found (" ++ target ++ ")"⟩
  else ⟨200, "Updated (" ++ target ++ ")"⟩

/-- The response 403 was sent before the exception `booked`. -/
def updateDevicesOriginGroup (user : User) (target : String) (group : Group)
    (serials : List String) : DbM (Option Response) :=
  Prog.tryCatch (do
    let results ← Prog.each (updateDeviceOriginGroup user group) serials
    return some (originResponse target results))
    fun err =>
      if err ≠ .booked then throw err
      else return some ⟨403, "Forbidden (device is currently booked)"⟩

/-- The serials of the request, or else of the devices that can have the group as their origin. -/
def originSerials (user : User) (group : Group) : Option String → DbM (List String)
  | some serials => return (without (splitComma serials) "").filter (· ∉ group.devices)
  | none => do
    let devices ← Db.findDevices fun d => d.group.origin ∈ user.subscribed
    let devices ← (if group.class_ = .bookable then return devices else do
      let groups ← getTransientGroups
      return devices.filter fun d => groups.all fun g => d.serial ∉ g.devices : DbM (List Device))
    return (devices.map (·.serial)).filter (· ∉ group.devices)

/-- The handler that moves the listed devices of a user to an origin group. -/
def addOriginGroupDevices (user : User) (id : String) (serials : Option String)
    (redirected : Bool) : DbM (Option Response) :=
  let target := if redirected then "device" else "devices"
  groups.orInternalError do
    match ← getUserGroup user.email id with
    | none => return none
    | some group =>
      if !isOriginGroup group.class_ then
        return some ⟨400, "Bad Request (this group cannot act as an origin one)"⟩
      else
        let serials ← originSerials user group serials
        updateDevicesOriginGroup user target group serials

/-- The devices of the group go to the root group. -/
def removeOriginGroupDevices (user : User) (id : String) (serials : Option String)
    (redirected : Bool) : DbM (Option Response) := do
  match ← getUserGroup user.email id with
  | none => return none
  | some group =>
    let serials := serials.getD (",".intercalate group.devices)
    let root ← getRootGroup
    addOriginGroupDevices user root.id (some serials) redirected

end devices

end DeviceHub

import DeviceHub.Db.GroupModel

/-!
# The jobs of `db/handlers/group/scheduler.js`

What the groups scheduler does when a task is due: the methods of `GroupsScheduler` that act on
the database.  Their calls of `scheduleAllGroupsTasks` only start a debounced timer, which is part
of the scheduler's own state.
-/

namespace DeviceHub

open apiutil

namespace GroupsScheduler

open GroupModel UserModel AllModel

/-- `doBecomeActiveGroup(group)` -/
def doBecomeActiveGroup (group : Group) : DbM Unit := do
  let _ ← .par (Db.updateGroup group.id .activate) (updateDevicesCurrentGroup group.devices group)
  return ()

/-- The duration that `updateGroupDates` computes for the windows from the first one, `w`, on. -/
def remainingDuration (group : Group) (windowIndex : Nat) (w : Window) : Int :=
  group.devices.length * (w.stop - w.start) * (group.repetitions - windowIndex + 1)

/-- `updateGroupDates(group, windowIndex, isActive)`; it throws when no window is left. -/
def updateGroupDates (group : Group) (windowIndex : Nat) (isActive : Bool) : DbM Unit :=
  let repetitions := group.repetitions - windowIndex
  match group.dates.drop windowIndex with
  | [] => throw .typeError
  | w :: dates => do
    let duration := remainingDuration group windowIndex w
    let _ ← Db.updateGroup group.id (.setDates (w :: dates) repetitions duration isActive)
    if !isActive && group.devices ≠ [] then
      let _ ← updateDevicesCurrentGroupFromOrigin group.devices
      let _ ← updateUserGroupDuration group.owner.email group.duration duration
      return ()
    else
      let _ ← updateUserGroupDuration group.owner.email group.duration duration
      return ()

/-- `doBecomeUnactiveGroup(group)` -/
def doBecomeUnactiveGroup (group : Group) (windowIndex : Nat := 0) : DbM Unit :=
  updateGroupDates group windowIndex true

/-- `updateOriginGroupLifetime(group)`, the clock reading `now`. -/
def updateOriginGroupLifetime (now : Int) (group : Group) : DbM Unit :=
  match group.dates with
  | [] => throw .typeError
  | w :: _ => do
    let _ ← Db.updateGroup group.id
      (.setLifetime ⟨now, max (now + (w.stop - w.start)) ONE_HOUR⟩)
    return ()

/-- `deleteUserGroup(group)` -/
def deleteUserGroup (group : Group) : DbM Unit := do
  let _ ← GroupModel.deleteUserGroup group.id
  return ()

end GroupsScheduler

end DeviceHub

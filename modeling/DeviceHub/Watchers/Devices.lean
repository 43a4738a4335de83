import DeviceHub.Db.GroupModel

/-!
# `units/groups-engine/watchers/devices.js`

The handler of the changes of devices.  It sends messages, and it keeps the device lists of the
origin groups.  A message to the owner of a device that has to leave first is sent by a timer.
-/

namespace DeviceHub

namespace watchers

open GroupModel

/-- An event of the change stream of the collection `devices`, with the documents before and after
the change. -/
inductive DeviceEvent where
  | insert (newDoc : Device)
  | update (oldDoc newDoc : Device)
  | delete (oldDoc : Device)
  deriving DecidableEq, Repr

/-- It reads `group.dates[0].start`. -/
def sendDeviceGroupChange (group : Group) : DbM Unit :=
  if group.dates = [] then throw .typeError else return ()

/-- The device leaves the list of its old origin group. -/
def leaveOriginGroup (origin serial : String) : DbM Unit := do
  match ← getGroup origin with
  | none => return ()
  | some oldOriginGroup =>
    let _ ← removeOriginGroupDevice oldOriginGroup serial
    return ()

/-- The device enters the list of its new origin group. -/
def enterOriginGroup (origin serial : String) : DbM Unit := do
  match ← getGroup origin with
  | none => return ()
  | some newOriginGroup =>
    let _ ← addOriginGroupDevice newOriginGroup serial
    return ()

/-- The handler of an update, once the current group of the device is found. -/
def updateGroups (group : Group) (oldDoc newDoc : Device) : DbM Unit := do
  let isChangeCurrentGroup := newDoc.group.id ≠ oldDoc.group.id
  let isChangeOriginGroup := newDoc.group.origin ≠ oldDoc.group.origin
  let isChangeLifeTime :=
    newDoc.group.lifeTime.map (·.start) ≠ oldDoc.group.lifeTime.map (·.start)
  if isChangeLifeTime ∧ ¬ isChangeCurrentGroup ∧ ¬ isChangeOriginGroup then
    sendDeviceGroupChange group
  else
    let _ ← (if isChangeCurrentGroup ∧ ¬ newDoc.owner.any fun owner => owner.email ∉ group.users then
      sendDeviceGroupChange group else return ())
    if isChangeOriginGroup then
      leaveOriginGroup oldDoc.group.origin newDoc.serial
      enterOriginGroup newDoc.group.origin newDoc.serial
      if isChangeCurrentGroup then return () else sendDeviceGroupChange group
    else return ()

/-- The handler of the event `change`; errors are logged. -/
def onDeviceChange : DeviceEvent → DbM Unit
  | .insert _ => return ()
  | .update oldDoc newDoc =>
    Prog.tryCatch (do
      match ← getGroup newDoc.group.id with
      | none => return ()
      | some group => updateGroups group oldDoc newDoc)
      fun _ => return ()
  | .delete oldDoc =>
    Prog.tryCatch (do
      match ← getGroup oldDoc.group.id with
      | none => return ()
      | some group => if oldDoc.owner.isSome then return () else sendDeviceGroupChange group)
      fun _ => return ()

end watchers

/-! ### The changes of devices -/

/-- The changes of devices from `db` to `db'`, with the documents before and after.  An operation
changes the origin of a device once at most. -/
def changes (db db' : Db) : List (Device × Device) :=
  db'.devices.docs.filterMap fun newDoc =>
    ((db.devices.findOne newDoc.serial).filter (· ≠ newDoc)).map fun oldDoc => (oldDoc, newDoc)

theorem mem_changes {db db' : Db} {c : Device × Device} : c ∈ changes db db' ↔
    db'.devices.findOne c.2.serial = some c.2 ∧ db.devices.findOne c.2.serial = some c.1 ∧
      c.1 ≠ c.2 := by
  unfold changes
  rw [List.mem_filterMap]
  constructor
  · rintro ⟨newDoc, hnew, hc⟩
    obtain ⟨oldDoc, hold, rfl⟩ := Option.map_eq_some_iff.1 hc
    obtain ⟨hfound, hne⟩ := Option.filter_eq_some_iff.1 hold
    exact ⟨Collection.findOne_of_mem hnew, hfound, by simpa using hne⟩
  · obtain ⟨oldDoc, newDoc⟩ := c
    rintro ⟨hnew, hold, hne⟩
    refine ⟨newDoc, Collection.mem_of_findOne hnew, ?_⟩
    rw [hold, Option.filter_some_pos (by simpa using hne)]
    rfl

theorem pairwise_changes (db db' : Db) :
    (changes db db').Pairwise fun c c' => c.2.serial ≠ c'.2.serial := by
  unfold changes
  rw [List.pairwise_filterMap]
  refine List.Pairwise.imp ?_ (List.pairwise_map.1 db'.devices.nodup)
  intro d d' hne c hc c' hc'
  obtain ⟨oldDoc, -, rfl⟩ := Option.map_eq_some_iff.1 hc
  obtain ⟨oldDoc', -, rfl⟩ := Option.map_eq_some_iff.1 hc'
  exact hne

end DeviceHub

import DeviceHub.Api.MoveDevices
import Mathlib.Data.List.TakeWhile

/-!
# `removeDevice` of `units/api/controllers/devices.js`

A device is removed in two phases: it is taken out of its bookings, and then deleted, provided that
it is found in its origin group.  Nothing undoes the first phase when the second one gives up.

## Main definitions

* `devices.removeDevice` : the request.
* `Withdrawn` : the groups that gave up a device between two databases.
* `devices.AllOrNothing` : the request ends with the device in no group, or with every group as it
  was.
* `devices.RemovableOrKept` : the condition under which it does.

## Main results

* `devices.runs_withdrawals`, `devices.deleteOutcome_of_runs` : what the two phases do.
* `devices.allOrNothing_iff` : the request is all or nothing under that condition only.
-/

namespace DeviceHub

open Prog apiutil lodash

namespace devices

open AllModel GroupModel

/-! ### The request -/

/-- The filters of the query; `none` stands for `undefined`. -/
structure RemoveQuery where
  present : Option Bool
  booked : Option Bool
  annotated : Option Bool
  controlled : Option Bool
  deriving DecidableEq, Repr

/-- What `removeDevice` resolves to. -/
inductive Removal where
  | notFound | unchanged | deleted
  deriving DecidableEq, Repr

/-- `none` is the answer `'not found'`. -/
def deleteGroupDevice (serial email id : String) : DbM (Option Group) := do
  match ← getUserGroup email id with
  | none => return none
  | some group =>
    if serial ∈ group.devices then
      if isOriginGroup group.class_ then
        let newGroup ← removeOriginGroupDevice group serial
        return some newGroup
      else
        let newGroup ← removeGroupDevices group [serial]
        return some newGroup
    else return some group

/-- The `status` of the result; its `data` is `'deleted'` or `'not deleted'` accordingly. -/
def wrappedDeleteDeviceInDatabase (serial : String) : DbM Bool := do
  match ← Db.findDevice serial with
  | none => return false
  | some device =>
    if device.group.id = device.group.origin then
      match ← deleteGroupDevice serial device.group.owner.email device.group.id with
      | none => return false
      | some _ =>
        let _ ← Db.deleteDevice serial
        return true
    else return false

/-- `apiutil.setIntervalWrapper(fn, numTimes, delay)` for the deletion, which it rejects with
`'not deleted'`. -/
def deleteIntervalWrapper (fn : DbM Bool) : Nat → DbM Removal
  | 0 => throw .notLocked
  | numTimes + 1 => do
    if ← fn then return .deleted
    else deleteIntervalWrapper fn numTimes

/-- The device is deleted, or the wait for it is given up. -/
def deleteDeviceInDatabase (serial : String) : DbM Removal :=
  deleteIntervalWrapper (wrappedDeleteDeviceInDatabase serial) 10

/-- The query does not ask for the device; `notes` is the field of that name of its document. -/
def RemoveQuery.excludes (query : RemoveQuery) (notes : Option String) (device : Device) : Bool :=
  query.present.any (device.present != ·) || query.controlled.any (device.owner.isNone == ·) ||
    query.annotated.any (notes.any (· ≠ "") != ·) ||
      query.booked.any fun booked => device.group.id ≠ device.group.origin && !booked ||
        device.group.class_ = .standard && booked

/-- What `removeDevice` does with the lock. -/
def removeLockedDevice (query : RemoveQuery) (notes : Option String) (serial : String) :
    Option Device → DbM Removal
  | none => throw .typeError
  | some device =>
    if query.excludes notes device then return .unchanged
    else if device.group.class_ = .standard then deleteDeviceInDatabase serial
    else do
      let groups ← getDeviceTransientGroups serial
      if groups ≠ [] ∧ query.booked = some false then return .unchanged
      else
        let _ ← Prog.each
          (fun group => deleteGroupDevice serial group.owner.email group.id) groups
        if groups = [] ∧ query.booked = some true then return .unchanged
        else deleteDeviceInDatabase serial

/-- `lightComputeStats` answers `'not found'`: the statistics are never marked as locked here. -/
def removeDevice (user : User) (query : RemoveQuery) (notes : Option String) (serial : String) :
    DbM Removal := do
  let stats ← lockDeviceByOrigin user.subscribed serial
  if stats.modifiedCount = 0 then return .notFound
  else
    let result ← (removeLockedDevice query notes serial stats.newVal).tryCatch fun err => do
      unlock stats.newVal
      throw err
    unlock stats.newVal
    return result

end devices

/-! ### Groups that give up a device -/

/-- From `db` to `db'` the groups `gone` gave up the device; the others are as they were. -/
structure Withdrawn (serial : String) (gone : List String) (db db' : Db) : Prop where
  kept : ∀ id ∉ gone, db'.groups.findOne id = db.groups.findOne id
  withdrawn : ∀ id ∈ gone, ∃ duration devices, serial ∉ devices ∧
    db'.groups.findOne id =
      (db.groups.findOne id).map (GroupChange.setDevices duration devices).apply

namespace Withdrawn

variable {serial : String} {gone gone' : List String} {db db₁ db' : Db}

theorem of_groups (h : db'.groups = db.groups) : Withdrawn serial [] db db' where
  kept id _ := by rw [h]
  withdrawn id hid := absurd hid List.not_mem_nil

theorem trans (h : Withdrawn serial gone db db₁) (h' : Withdrawn serial gone' db₁ db') :
    Withdrawn serial (gone ++ gone') db db' where
  kept id hid := by
    obtain ⟨hgone, hgone'⟩ := not_or.1 (mt List.mem_append.2 hid)
    rw [h'.kept id hgone', h.kept id hgone]
  withdrawn id hid := by
    by_cases hgone' : id ∈ gone'
    · -- the later change overwrites the earlier one
      obtain ⟨duration', devices', hserial', hfind'⟩ := h'.withdrawn id hgone'
      refine ⟨duration', devices', hserial', ?_⟩
      by_cases hgone : id ∈ gone
      · obtain ⟨duration, devices, -, hfind⟩ := h.withdrawn id hgone
        rw [hfind', hfind, Option.map_map]
        rfl
      · rw [hfind', h.kept id hgone]
    · have hgone : id ∈ gone := (List.mem_append.1 hid).resolve_right hgone'
      obtain ⟨duration, devices, hserial, hfind⟩ := h.withdrawn id hgone
      exact ⟨duration, devices, hserial, (h'.kept id hgone').trans hfind⟩

theorem of_update {g : Group} {duration : Int} {devices : List String}
    (hg : db.groups.findOne g.id = some g) (hserial : serial ∉ devices)
    (hfind : db'.groups.findOne g.id = some ((GroupChange.setDevices duration devices).apply g))
    (hne : ∀ id, id ≠ g.id → db'.groups.findOne id = db.groups.findOne id) :
    Withdrawn serial [g.id] db db' where
  kept id hid := hne id fun he => hid (List.mem_singleton.2 he)
  withdrawn id hid := by
    obtain rfl := List.mem_singleton.1 hid
    exact ⟨duration, devices, hserial, by rw [hfind, hg, Option.map_some]⟩

theorem findOne (h : Withdrawn serial gone db db') {g : Group}
    (hg : db.groups.findOne g.id = some g) : ∃ g', db'.groups.findOne g.id = some g' ∧
      (g.id ∈ gone → serial ∉ g'.devices) ∧ (g.id ∉ gone → g' = g) := by
  by_cases hgone : g.id ∈ gone
  · obtain ⟨duration, devices, hserial, hfind⟩ := h.withdrawn g.id hgone
    rw [hg, Option.map_some] at hfind
    exact ⟨_, hfind, fun _ => hserial, fun hne => absurd hgone hne⟩
  · exact ⟨g, (h.kept g.id hgone).trans hg, fun hmem => absurd hmem hgone, fun _ => rfl⟩

theorem findOne_symm (h : Withdrawn serial gone db db') {g' : Group}
    (hg' : db'.groups.findOne g'.id = some g') : (∃ g, db.groups.findOne g'.id = some g) ∧
      (g'.id ∈ gone → serial ∉ g'.devices) ∧
        (g'.id ∉ gone → db.groups.findOne g'.id = some g') := by
  by_cases hgone : g'.id ∈ gone
  · obtain ⟨duration, devices, hserial, hfind⟩ := h.withdrawn g'.id hgone
    obtain ⟨g, hg, happly⟩ := Option.map_eq_some_iff.1 (hfind.symm.trans hg')
    have hdevices : g'.devices = devices := by rw [← happly]; rfl
    exact ⟨⟨g, hg⟩, fun _ => hdevices ▸ hserial, fun hne => absurd hgone hne⟩
  · have hfind := (h.kept g'.id hgone).symm.trans hg'
    exact ⟨⟨g', hfind⟩, fun hmem => absurd hmem hgone, fun _ => hfind⟩

theorem nowhere_iff (h : Withdrawn serial gone db db') :
    (∀ g ∈ db'.groups.docs, serial ∉ g.devices) ↔
      ∀ g ∈ db.groups.docs, serial ∈ g.devices → g.id ∈ gone := by
  constructor
  · intro hnone g hg hserial
    by_contra hgone
    obtain ⟨g', hg', -, hkept⟩ := h.findOne (Collection.findOne_of_mem hg)
    obtain rfl := hkept hgone
    exact hnone g' (Collection.mem_of_findOne hg') hserial
  · intro hall g' hg' hserial
    obtain ⟨-, hgone, hkept⟩ := h.findOne_symm (Collection.findOne_of_mem hg')
    by_cases hmem : g'.id ∈ gone
    · exact hgone hmem hserial
    · exact hmem (hall g' (Collection.mem_of_findOne (hkept hmem)) hserial)

end Withdrawn

/-! ### What the groups are charged for -/

/-- The devices and the duration of a group, and the consumed duration of its owner. -/
structure GroupAccount where
  id : String
  devices : List String
  duration : Int
  consumed : Option Int
  deriving DecidableEq, Repr

/-- What the charge of a group is computed from. -/
def Group.account (db : Db) (g : Group) : GroupAccount where
  id := g.id
  devices := g.devices
  duration := g.duration
  consumed := (db.users.findOne g.owner.email).map (·.quotas.consumed.duration)

/-- The accounts of all groups. -/
def Db.accounts (db : Db) : List GroupAccount := db.groups.docs.map (Group.account db)

theorem Db.accounts_congr {db db' : Db} (husers : db'.users = db.users)
    (hgroups : db'.groups = db.groups) : db'.accounts = db.accounts := by
  have haccount : Group.account db' = Group.account db := by
    funext g
    simp only [Group.account, husers]
  rw [accounts, accounts, haccount, hgroups]

theorem Withdrawn.accounts_ne {serial : String} {gone : List String} {db db' : Db}
    (h : Withdrawn serial gone db db') {g : Group} (hg : g ∈ db.groups.docs)
    (hserial : serial ∈ g.devices) (hgone : g.id ∈ gone) : db'.accounts ≠ db.accounts := by
  intro haccounts
  have hmem : g.account db ∈ db'.accounts := haccounts ▸ List.mem_map_of_mem hg
  obtain ⟨g', hg', haccount⟩ := List.mem_map.1 hmem
  have hid : g'.id = g.id := congrArg GroupAccount.id haccount
  have hdevices : g'.devices = g.devices := congrArg GroupAccount.devices haccount
  obtain ⟨-, hout, -⟩ := h.findOne_symm (Collection.findOne_of_mem hg')
  exact hout (hid ▸ hgone) (hdevices ▸ hserial)

namespace devices

open AllModel GroupModel

variable {serial : String} {db db' : Db}

/-! ### A group gives up the device -/

/-- The ways in which `deleteGroupDevice` ends for the group `g` that it finds. -/
inductive GiveUpOutcome (serial : String) (g : Group) (db : Db) :
    Except JsError (Option Group) → Db → Prop
  /-- A booking without dates has no duration. -/
  | undated (ht : g.Transient) (hserial : serial ∈ g.devices) (hdates : g.dates = []) :
    GiveUpOutcome serial g db (.error .typeError) db
  /-- The group does not list the device any more, if it did. -/
  | givenUp {db' : Db} (newGroup : Group)
      (hdated : g.Transient → serial ∈ g.devices → g.dates ≠ [])
      (hwithdrawn : Withdrawn serial [g.id] db db')
      (hdevices : g.Transient → db'.devices = db.devices) :
    GiveUpOutcome serial g db (.ok (some newGroup)) db'

theorem runs_removeOriginGroupDevice {g : Group} {r : Except JsError Group}
    (hg : db.groups.findOne g.id = some g)
    (hrun : (removeOriginGroupDevice g serial).Runs DbOp.exec db r db') :
    (∃ newGroup, r = .ok newGroup) ∧ Withdrawn serial [g.id] db db' := by
  unfold removeOriginGroupDevice at hrun
  rw [bind_eq, Db.runs_updateGroup, hg] at hrun
  set t := (DbOp.exec (.groups (.update g.id (.pullDevice serial))) db).2 with ht
  have hrun : ((treatGroupDevicesChange ((GroupChange.pullDevice serial).apply g) [serial]
      false).bind fun _ => .ret ((GroupChange.pullDevice serial).apply g)).Runs DbOp.exec t r
        db' := hrun
  -- the home move of the device does not touch the groups
  have hrest : (∃ newGroup, r = .ok newGroup) ∧ db'.groups = t.groups := by
    rcases runs_bind.1 hrun with ⟨u, t', htreat, hret⟩ | ⟨e, htreat, -⟩
    · obtain ⟨rfl, rfl⟩ := hret
      exact ⟨⟨_, rfl⟩, ((places_treatGroupDevicesChange _ _ _).deviceOnly.runs_deviceOnly htreat).2⟩
    · cases ok_of_treatGroupDevicesChange htreat
  have hserial : serial ∉ uniq (without g.devices serial) := by simp
  have hfind : db'.groups.findOne g.id =
      some ((GroupChange.setDevices g.duration (uniq (without g.devices serial))).apply g) := by
    rw [hrest.2]
    exact Collection.findOne_update_self _ hg
  refine ⟨hrest.1, .of_update hg hserial hfind fun id hid => ?_⟩
  rw [hrest.2]
  exact Collection.findOne_update_ne _ hid

theorem giveUpOutcome_of_runs {email id : String} {g : Group} {r : Except JsError (Option Group)}
    (hg : (db.groups.findOne id).filter (Group.isMember email) = some g)
    (hrun : (deleteGroupDevice serial email id).Runs DbOp.exec db r db') :
    GiveUpOutcome serial g db r db' := by
  obtain ⟨hfind, -⟩ := Option.filter_eq_some_iff.1 hg
  obtain rfl : g.id = id := Collection.key_of_findOne hfind
  unfold deleteGroupDevice at hrun
  rw [bind_eq, Db.runs_getUserGroup, hg] at hrun
  dsimp only at hrun
  split at hrun
  swap
  · -- the group does not list the device
    rename_i hserial
    obtain ⟨rfl, rfl⟩ := hrun
    exact .givenUp g (fun _ h => absurd h hserial)
      (.of_update hfind hserial hfind fun _ _ => rfl) fun _ => rfl
  rename_i hserial
  split at hrun
  · rename_i horigin
    have hnot : ¬ g.Transient := fun ht => Bool.false_ne_true (ht.symm.trans horigin)
    rcases runs_bind.1 hrun with ⟨newGroup, t, hremove, hret⟩ | ⟨e, hremove, -⟩
    · obtain ⟨rfl, rfl⟩ := hret
      obtain ⟨-, hwithdrawn⟩ := runs_removeOriginGroupDevice hfind hremove
      exact .givenUp newGroup (fun ht => absurd ht hnot) hwithdrawn fun ht => absurd ht hnot
    · obtain ⟨⟨newGroup, hr⟩, -⟩ := runs_removeOriginGroupDevice hfind hremove
      cases hr
  · rename_i hbooking
    have ht : g.Transient := Bool.eq_false_iff.2 hbooking
    rcases runs_bind.1 hrun with ⟨newGroup, t, hremove, hret⟩ | ⟨e, hremove, hr⟩
    · obtain ⟨rfl, rfl⟩ := hret
      have houtcome := removeOutcome_of_runs hfind ht hremove
      cases houtcome with
      | removed duration hduration =>
        have hdates : g.dates ≠ [] := dates_ne_of_computeDuration hduration
        exact .givenUp _ (fun _ _ => hdates) (.of_update hfind (by simp)
          (Collection.findOne_update_self _ hfind) fun id hid =>
            Collection.findOne_update_ne _ hid) fun _ => rfl
    · have houtcome := removeOutcome_of_runs hfind ht hremove
      subst hr
      cases houtcome with
      | undated hdates => exact .undated ht hserial hdates

/-! ### The bookings give up the device -/

/-- The answer of `getDeviceTransientGroups`. -/
def bookings (db : Db) (serial : String) : List Group :=
  db.groups.docs.filter fun g => serial ∈ g.devices && g.Transient

/-- The first phase stops at the first booking without dates; those before it gave up the
device. -/
theorem runs_withdrawals {groups : List Group} {r : Except JsError (List (Option Group))}
    (hstored : ∀ g ∈ groups, db.groups.findOne g.id = some g)
    (hbooked : ∀ g ∈ groups, serial ∈ g.devices ∧ g.Transient)
    (hnodup : (groups.map (·.id)).Nodup)
    (hrun : (Prog.each (fun group => deleteGroupDevice serial group.owner.email group.id)
      groups).Runs DbOp.exec db r db') :
    Withdrawn serial ((groups.takeWhile (·.dates ≠ [])).map (·.id)) db db' ∧
      db'.devices = db.devices ∧ (groups.takeWhile (·.dates ≠ []) = [] → db' = db) ∧
        if ∀ g ∈ groups, g.dates ≠ [] then ∃ as, r = .ok as else r = .error .typeError := by
  induction groups generalizing db r with
  | nil =>
    obtain ⟨rfl, rfl⟩ := hrun
    exact ⟨.of_groups rfl, rfl, fun _ => rfl, by simp⟩
  | cons g groups ih =>
    obtain ⟨hserial, ht⟩ := hbooked g List.mem_cons_self
    obtain ⟨hnew, hnodup⟩ := List.nodup_cons.1 hnodup
    have hfound : (db.groups.findOne g.id).filter (Group.isMember g.owner.email) = some g :=
      Option.filter_eq_some_iff.2 ⟨hstored g List.mem_cons_self, by simp [Group.isMember]⟩
    rcases runs_bind.1 hrun with ⟨a, t, hgive, hrest⟩ | ⟨e, hgive, hr⟩
    · -- the first booking gave up the device, and the others are as they were
      have houtcome := giveUpOutcome_of_runs hfound hgive
      cases houtcome with
      | givenUp newGroup hdated hwithdrawn hdevices =>
        have hdates : g.dates ≠ [] := hdated ht hserial
        have hstored' : ∀ h ∈ groups, t.groups.findOne h.id = some h := by
          intro h hh
          have hid : h.id ∉ [g.id] := by
            intro hmem
            exact hnew (List.mem_map.2 ⟨h, hh, List.mem_singleton.1 hmem⟩)
          rw [hwithdrawn.kept h.id hid]
          exact hstored h (List.mem_cons_of_mem _ hh)
        have hbooked' : ∀ h ∈ groups, serial ∈ h.devices ∧ h.Transient :=
          fun h hh => hbooked h (List.mem_cons_of_mem _ hh)
        have htake : (g :: groups).takeWhile (·.dates ≠ []) = g :: groups.takeWhile (·.dates ≠ []) :=
          List.takeWhile_cons_of_pos (by simpa using hdates)
        rw [htake]
        rcases runs_bind.1 hrest with ⟨as, t', heach, hret⟩ | ⟨e, heach, hr⟩
        · obtain ⟨rfl, rfl⟩ := hret
          obtain ⟨hw, hd, -, hr⟩ := ih hstored' hbooked' hnodup heach
          refine ⟨hwithdrawn.trans hw, hd.trans (hdevices ht), fun h => absurd h (by simp), ?_⟩
          by_cases hall : ∀ h ∈ groups, h.dates ≠ []
          · rw [if_pos (by simpa using ⟨hdates, hall⟩)]
            exact ⟨_, rfl⟩
          · rw [if_neg hall] at hr
            cases hr
        · obtain ⟨hw, hd, -, hr'⟩ := ih hstored' hbooked' hnodup heach
          refine ⟨hwithdrawn.trans hw, hd.trans (hdevices ht), fun h => absurd h (by simp), ?_⟩
          by_cases hall : ∀ h ∈ groups, h.dates ≠ []
          · rw [if_pos hall] at hr'
            obtain ⟨as, has⟩ := hr'
            cases has
          · rw [if_neg hall] at hr'
            rw [if_neg fun h => hall fun h' hh => h h' (List.mem_cons_of_mem _ hh), hr]
            exact congrArg Except.error (Except.error.inj hr')
    · have houtcome := giveUpOutcome_of_runs hfound hgive
      subst hr
      cases houtcome with
      | undated ht hserial hdates =>
        have htake : (g :: groups).takeWhile (·.dates ≠ []) = [] :=
          List.takeWhile_cons_of_neg (by simpa using hdates)
        rw [htake]
        refine ⟨.of_groups rfl, rfl, fun _ => rfl, ?_⟩
        rw [if_neg fun h => h g List.mem_cons_self hdates]

/-! ### The deletion -/

/-- The group that has to give up the device before it is deleted: its origin group, if the device
is there and names an owner who is a member. -/
def homeGroup (db : Db) (d : Device) : Option Group :=
  if d.group.id = d.group.origin then
    (db.groups.findOne d.group.id).filter (Group.isMember d.group.owner.email)
  else none

/-- The ways in which an attempt to delete the device ends. -/
inductive DeleteOutcome (serial : String) (db : Db) : Except JsError Bool → Db → Prop
  /-- There is no group to take the device from. -/
  | kept (hhome : ∀ d ∈ db.devices.findOne serial, homeGroup db d = none) :
    DeleteOutcome serial db (.ok false) db
  /-- The device is in a booking without dates. -/
  | undated {d : Device} {g : Group} (hd : db.devices.findOne serial = some d)
      (hhome : homeGroup db d = some g) (ht : g.Transient) (hserial : serial ∈ g.devices)
      (hdates : g.dates = []) :
    DeleteOutcome serial db (.error .typeError) db
  | deleted {d : Device} {g : Group} {db' : Db} (hd : db.devices.findOne serial = some d)
      (hhome : homeGroup db d = some g)
      (hdated : g.Transient → serial ∈ g.devices → g.dates ≠ [])
      (hwithdrawn : Withdrawn serial [g.id] db db')
      (hgone : db'.devices.findOne serial = none) :
    DeleteOutcome serial db (.ok true) db'

theorem deleteOutcome_of_runs {r : Except JsError Bool}
    (hrun : (wrappedDeleteDeviceInDatabase serial).Runs DbOp.exec db r db') :
    DeleteOutcome serial db r db' := by
  unfold wrappedDeleteDeviceInDatabase at hrun
  rw [bind_eq, Db.runs_findDevice] at hrun
  cases hd : db.devices.findOne serial with
  | none =>
    rw [hd] at hrun
    obtain ⟨rfl, rfl⟩ := hrun
    exact .kept fun d h => by simp [hd] at h
  | some d =>
    rw [hd] at hrun
    dsimp only at hrun
    split at hrun
    swap
    · rename_i haway
      obtain ⟨rfl, rfl⟩ := hrun
      refine .kept fun d' h => ?_
      obtain rfl := Option.some.inj (hd.symm.trans h)
      exact if_neg haway
    rename_i hthere
    cases hfound : (db.groups.findOne d.group.id).filter (Group.isMember d.group.owner.email) with
    | none =>
      -- a group that is not found is not touched
      unfold deleteGroupDevice at hrun
      rw [bind_eq, bind_eq, Prog.bind_assoc, Db.runs_getUserGroup, hfound] at hrun
      obtain ⟨rfl, rfl⟩ := hrun
      refine .kept fun d' h => ?_
      obtain rfl := Option.some.inj (hd.symm.trans h)
      exact (if_pos hthere).trans hfound
    | some g =>
      have hhome : homeGroup db d = some g := (if_pos hthere).trans hfound
      rcases runs_bind.1 hrun with ⟨a, t, hgive, hrest⟩ | ⟨e, hgive, hr⟩
      · have houtcome := giveUpOutcome_of_runs hfound hgive
        cases houtcome with
        | givenUp newGroup hdated hwithdrawn hdevices =>
          dsimp only at hrest
          rw [bind_eq, Db.runs_deleteDevice] at hrest
          obtain ⟨rfl, rfl⟩ := hrest
          exact .deleted hd hhome hdated ⟨hwithdrawn.kept, hwithdrawn.withdrawn⟩
            (Collection.findOne_delete_self _ _)
      · have houtcome := giveUpOutcome_of_runs hfound hgive
        subst hr
        cases houtcome with
        | undated ht hserial hdates => exact .undated hd hhome ht hserial hdates

/-- What the attempts come to: a failed one changes nothing, and the next one fails as well. -/
def settled : Except JsError Bool → Except JsError Removal
  | .ok true => .ok .deleted
  | .ok false => .error .notLocked
  | .error e => .error e

theorem runs_deleteIntervalWrapper {n : Nat} {r : Except JsError Removal}
    (hrun : (deleteIntervalWrapper (wrappedDeleteDeviceInDatabase serial) (n + 1)).Runs DbOp.exec
      db r db') : ∃ r₁, DeleteOutcome serial db r₁ db' ∧ r = settled r₁ := by
  induction n with
  | zero =>
    rcases runs_bind.1 hrun with ⟨status, t, hattempt, hrest⟩ | ⟨e, hattempt, rfl⟩
    · cases status with
      | false =>
        obtain ⟨rfl, rfl⟩ := hrest
        exact ⟨_, deleteOutcome_of_runs hattempt, rfl⟩
      | true =>
        obtain ⟨rfl, rfl⟩ := hrest
        exact ⟨_, deleteOutcome_of_runs hattempt, rfl⟩
    · exact ⟨_, deleteOutcome_of_runs hattempt, rfl⟩
  | succ n ih =>
    rcases runs_bind.1 hrun with ⟨status, t, hattempt, hrest⟩ | ⟨e, hattempt, rfl⟩
    · cases status with
      | false =>
        have houtcome := deleteOutcome_of_runs hattempt
        cases houtcome with
        | kept hhome => exact ih hrest
      | true =>
        obtain ⟨rfl, rfl⟩ := hrest
        exact ⟨_, deleteOutcome_of_runs hattempt, rfl⟩
    · exact ⟨_, deleteOutcome_of_runs hattempt, rfl⟩

/-! ### All or nothing -/

/-- The request ended with the device deleted and in no group, or with another result and every
group as it was. -/
def Whole (serial : String) (db : Db) (r : Except JsError Removal) (db' : Db) : Prop :=
  r = .ok .deleted ∧ db'.devices.findOne serial = none ∧
      (∀ g ∈ db'.groups.docs, serial ∉ g.devices) ∨
    r ≠ .ok .deleted ∧ db'.accounts = db.accounts

/-- The request is all or nothing when it runs alone. -/
def AllOrNothing (user : User) (query : RemoveQuery) (notes : Option String) (serial : String)
    (db : Db) : Prop :=
  ∀ r db', (removeDevice user query notes serial).Runs DbOp.exec db r db' → Whole serial db r db'

/-- A device of a standard group, whose bookings are not looked at: it is not deleted, or the group
that gives it up is the only one that lists it. -/
def StandardFits (db : Db) (serial : String) (d : Device) : Prop :=
  ∀ g ∈ homeGroup db d, g.Transient ∧ serial ∈ g.devices ∧ g.dates = [] ∨
    ∀ h ∈ db.groups.docs, serial ∈ h.devices → h.id = g.id

instance (db : Db) (serial : String) (d : Device) : Decidable (StandardFits db serial d) :=
  inferInstanceAs (Decidable (∀ g ∈ homeGroup db d, _ ∨ ∀ h ∈ db.groups.docs, _))

/-- Any other device: no booking is touched, or all of them can be and nothing else keeps the
device from being deleted. -/
def BookableFits (db : Db) (query : RemoveQuery) (serial : String) (d : Device) : Prop :=
  bookings db serial = [] ∧ (query.booked = some true ∨ homeGroup db d = none) ∨
    (bookings db serial ≠ [] ∧ query.booked = some false) ∨
      (∃ g ∈ (bookings db serial).head?, g.dates = []) ∨
        (∀ g ∈ bookings db serial, g.dates ≠ []) ∧ ∃ g ∈ homeGroup db d,
          ∀ h ∈ db.groups.docs, serial ∈ h.devices → h.Transient ∨ h.id = g.id

instance (db : Db) (query : RemoveQuery) (serial : String) (d : Device) :
    Decidable (BookableFits db query serial d) :=
  inferInstanceAs (Decidable (_ ∨ _ ∨ (∃ g ∈ (bookings db serial).head?, _) ∨
    (∀ g ∈ bookings db serial, _) ∧ ∃ g ∈ homeGroup db d, ∀ h ∈ db.groups.docs, _))

/-- The query does not ask for the device, or its groups fit the way in which it is removed. -/
def Fits (query : RemoveQuery) (notes : Option String) (serial : String) (db : Db) (d : Device) :
    Prop :=
  query.excludes notes d = true ∨ if d.group.class_ = .standard then StandardFits db serial d
    else BookableFits db query serial d

instance (query : RemoveQuery) (notes : Option String) (serial : String) (db : Db) (d : Device) :
    Decidable (Fits query notes serial db d) :=
  inferInstanceAs (Decidable (_ ∨ if d.group.class_ = .standard then _ else _))

/-- The condition under which the request is all or nothing. -/
def RemovableOrKept (query : RemoveQuery) (notes : Option String) (serial : String) (db : Db) :
    Prop :=
  ∀ d ∈ db.devices.findOne serial, d.group.lock.isSome = true → Fits query notes serial db d

instance (query : RemoveQuery) (notes : Option String) (serial : String) (db : Db) :
    Decidable (RemovableOrKept query notes serial db) :=
  inferInstanceAs (Decidable (∀ d ∈ db.devices.findOne serial, _))

theorem whole_deleted_iff {gone : List String} (hw : Withdrawn serial gone db db')
    (hgone : db'.devices.findOne serial = none) : Whole serial db (.ok .deleted) db' ↔
      ∀ g ∈ db.groups.docs, serial ∈ g.devices → g.id ∈ gone := by
  simp [Whole, hgone, hw.nowhere_iff]

theorem whole_kept_iff {r : Except JsError Removal} (hr : r ≠ .ok .deleted) :
    Whole serial db r db' ↔ db'.accounts = db.accounts := by
  simp [Whole, hr]

theorem homeGroup_mem {d : Device} {g : Group} (h : homeGroup db d = some g) :
    db.groups.findOne g.id = some g := by
  unfold homeGroup at h
  split at h
  · obtain ⟨hfind, -⟩ := Option.filter_eq_some_iff.1 h
    have hid : g.id = d.group.id := Collection.key_of_findOne hfind
    exact hid ▸ hfind
  · cases h

/-- The first phase does not change what the second one finds. -/
theorem homeGroup_withdrawn {gone : List String} {d : Device} (hw : Withdrawn serial gone db db') :
    (homeGroup db' d).map (·.id) = (homeGroup db d).map (·.id) := by
  unfold homeGroup
  split
  swap
  · rfl
  by_cases hgone : d.group.id ∈ gone
  · obtain ⟨duration, devices, -, hfind⟩ := hw.withdrawn _ hgone
    rw [hfind]
    cases db.groups.findOne d.group.id with
    | none => rfl
    | some g =>
      have hmember : Group.isMember d.group.owner.email
          ((GroupChange.setDevices duration devices).apply g) =
            Group.isMember d.group.owner.email g := rfl
      simp only [Option.map_some, Option.filter_some, hmember]
      split <;> rfl
  · rw [hw.kept _ hgone]

theorem whole_standard_iff {d : Device} {r : Except JsError Removal}
    (hd : db.devices.findOne serial = some d)
    (hrun : (deleteDeviceInDatabase serial).Runs DbOp.exec db r db') :
    Whole serial db r db' ↔ StandardFits db serial d := by
  obtain ⟨r₁, houtcome, rfl⟩ := runs_deleteIntervalWrapper hrun
  cases houtcome with
  | kept hhome =>
    refine (whole_kept_iff (by nofun)).trans (iff_of_true rfl fun g hg => ?_)
    simp [hhome d hd] at hg
  | undated hd' hhome ht hserial hdates =>
    obtain rfl := Option.some.inj (hd'.symm.trans hd)
    refine (whole_kept_iff (by nofun)).trans (iff_of_true rfl fun g hg => .inl ?_)
    obtain rfl := Option.some.inj (hhome.symm.trans hg)
    exact ⟨ht, hserial, hdates⟩
  | @deleted _ g _ hd' hhome hdated hwithdrawn hgone =>
    obtain rfl := Option.some.inj (hd'.symm.trans hd)
    have hundated : ¬ (g.Transient ∧ serial ∈ g.devices ∧ g.dates = []) :=
      fun ⟨ht, hserial, hdates⟩ => hdated ht hserial hdates
    refine (whole_deleted_iff hwithdrawn hgone).trans ?_
    simp [StandardFits, hhome, hundated]

theorem mem_bookings {g : Group} :
    g ∈ bookings db serial ↔ g ∈ db.groups.docs ∧ serial ∈ g.devices ∧ g.Transient := by
  simp [bookings, List.mem_filter]

theorem nodup_bookings : ((bookings db serial).map (·.id)).Nodup :=
  db.groups.nodup.sublist (List.filter_sublist.map _)

/-- A booking without dates ends the first phase. -/
theorem whole_undated_iff {query : RemoveQuery} {d : Device} {r : Except JsError Removal}
    (hr : r ≠ .ok .deleted) (hskip : ¬ (bookings db serial ≠ [] ∧ query.booked = some false))
    (hundated : ¬ ∀ g ∈ bookings db serial, g.dates ≠ [])
    (hw : Withdrawn serial (((bookings db serial).takeWhile (·.dates ≠ [])).map (·.id)) db db')
    (hsame : (bookings db serial).takeWhile (·.dates ≠ []) = [] → db' = db) :
    Whole serial db r db' ↔ BookableFits db query serial d := by
  refine (whole_kept_iff hr).trans ?_
  cases hlist : bookings db serial with
  | nil => exact absurd (by simp [hlist]) hundated
  | cons g rest =>
    obtain ⟨hg, hserial, -⟩ : g ∈ db.groups.docs ∧ serial ∈ g.devices ∧ g.Transient :=
      mem_bookings.1 (hlist ▸ List.mem_cons_self)
    rw [hlist] at hw hsame
    by_cases hdates : g.dates = []
    · -- it is the first one
      have htake : (g :: rest).takeWhile (·.dates ≠ []) = [] :=
        List.takeWhile_cons_of_neg (by simpa using hdates)
      rw [hsame htake]
      exact iff_of_true rfl (.inr (.inr (.inl ⟨g, by rw [hlist]; rfl, hdates⟩)))
    · have htake : (g :: rest).takeWhile (·.dates ≠ []) = g :: rest.takeWhile (·.dates ≠ []) :=
        List.takeWhile_cons_of_pos (by simpa using hdates)
      have hgone : g.id ∈ ((g :: rest).takeWhile (·.dates ≠ [])).map (·.id) := by
        rw [htake]
        exact List.mem_cons_self
      refine iff_of_false (hw.accounts_ne hg hserial hgone) ?_
      rintro (⟨hnil, -⟩ | hfalse | ⟨h, hh, hnodates⟩ | ⟨hall, -⟩)
      · rw [hlist] at hnil
        cases hnil
      · exact hskip hfalse
      · rw [hlist] at hh
        obtain rfl := Option.some.inj hh
        exact hdates hnodates
      · exact hundated hall

/-- The deletion, after every booking gave up the device. -/
theorem whole_withdrawn_iff {query : RemoveQuery} {d : Device} {t : Db}
    {r : Except JsError Removal} (hd : db.devices.findOne serial = some d)
    (hskip : ¬ (bookings db serial ≠ [] ∧ query.booked = some false))
    (hkeep : ¬ (bookings db serial = [] ∧ query.booked = some true))
    (hdated : ∀ g ∈ bookings db serial, g.dates ≠ [])
    (hw : Withdrawn serial ((bookings db serial).map (·.id)) db t)
    (hdevices : t.devices = db.devices) (hsame : bookings db serial = [] → t = db)
    (hrun : (deleteDeviceInDatabase serial).Runs DbOp.exec t r db') :
    Whole serial db r db' ↔ BookableFits db query serial d := by
  have hhead : ¬ ∃ g ∈ (bookings db serial).head?, g.dates = [] :=
    fun ⟨g, hg, hdates⟩ => hdated g (List.mem_of_mem_head? hg) hdates
  have hfound : t.devices.findOne serial = some d := hdevices ▸ hd
  obtain ⟨r₁, houtcome, rfl⟩ := runs_deleteIntervalWrapper hrun
  have hhomes := homeGroup_withdrawn (d := d) hw
  cases houtcome with
  | kept hnone =>
    rw [hnone d hfound] at hhomes
    have hhome : homeGroup db d = none := Option.map_eq_none_iff.1 hhomes.symm
    refine (whole_kept_iff (by nofun)).trans ⟨fun haccounts => .inl ⟨?_, .inr hhome⟩, ?_⟩
    · -- no booking is given back
      by_contra hne
      obtain ⟨g, hg⟩ := List.exists_mem_of_ne_nil _ hne
      obtain ⟨hstored, hserial, -⟩ := mem_bookings.1 hg
      exact hw.accounts_ne hstored hserial (List.mem_map_of_mem hg) haccounts
    · rintro (⟨hnil, -⟩ | hfalse | hundated | ⟨-, g, hg, -⟩)
      · rw [hsame hnil]
      · exact absurd hfalse hskip
      · exact absurd hundated hhead
      · rw [hhome] at hg
        cases hg
  | @undated _ g _ hhome ht hserial hdates =>
    -- a booking that lists the device has given it up
    exfalso
    obtain ⟨-, hout, hkept⟩ := hw.findOne_symm (homeGroup_mem hhome)
    by_cases hgone : g.id ∈ (bookings db serial).map (·.id)
    · exact hout hgone hserial
    · have hstored := Collection.mem_of_findOne (hkept hgone)
      exact hgone (List.mem_map_of_mem (mem_bookings.2 ⟨hstored, hserial, ht⟩))
  | @deleted d' g _ hd' hhome _ hwithdrawn hgone =>
    obtain rfl := Option.some.inj (hd'.symm.trans hfound)
    rw [hhome] at hhomes
    obtain ⟨home, hhome', hid⟩ := Option.map_eq_some_iff.1 hhomes.symm
    refine (whole_deleted_iff (hw.trans hwithdrawn) hgone).trans ⟨fun hall => ?_, ?_⟩
    · refine .inr (.inr (.inr ⟨hdated, home, hhome', fun h hh hserial => ?_⟩))
      rcases List.mem_append.1 (hall h hh hserial) with hmem | hmem
      · obtain ⟨b, hb, hkey⟩ := List.mem_map.1 hmem
        obtain ⟨hstored, -, ht⟩ := mem_bookings.1 hb
        obtain rfl : b = h := Collection.eq_of_key_eq hstored hh hkey
        exact .inl ht
      · exact .inr ((List.mem_singleton.1 hmem).trans hid.symm)
    · rintro (⟨hnil, hbooked | hnone⟩ | hfalse | hundated | ⟨-, home', hmem, honly⟩)
      · exact absurd ⟨hnil, hbooked⟩ hkeep
      · rw [hhome'] at hnone
        cases hnone
      · exact absurd hfalse hskip
      · exact absurd hundated hhead
      · obtain rfl := Option.some.inj (hhome'.symm.trans hmem)
        intro h hh hserial
        rcases honly h hh hserial with ht | hkey
        · exact List.mem_append_left _ (List.mem_map_of_mem (mem_bookings.2 ⟨hh, hserial, ht⟩))
        · exact List.mem_append_right _ (List.mem_singleton.2 (hkey.trans hid))

/-- The removal of a device that is not of a standard group. -/
theorem whole_bookable_iff {query : RemoveQuery} {d : Device} {r : Except JsError Removal}
    (hd : db.devices.findOne serial = some d)
    (hskip : ¬ (bookings db serial ≠ [] ∧ query.booked = some false))
    (hrun : ((Prog.each (fun group => deleteGroupDevice serial group.owner.email group.id)
      (bookings db serial)).bind fun _ =>
        if bookings db serial = [] ∧ query.booked = some true then .ret .unchanged
        else deleteDeviceInDatabase serial).Runs DbOp.exec db r db') :
    Whole serial db r db' ↔ BookableFits db query serial d := by
  have hstored : ∀ g ∈ bookings db serial, db.groups.findOne g.id = some g :=
    fun g hg => Collection.findOne_of_mem (mem_bookings.1 hg).1
  have hbooked : ∀ g ∈ bookings db serial, serial ∈ g.devices ∧ g.Transient :=
    fun g hg => (mem_bookings.1 hg).2
  rcases runs_bind.1 hrun with ⟨as, t, heach, hrest⟩ | ⟨e, heach, rfl⟩
  · obtain ⟨hw, hdevices, hsame, hend⟩ := runs_withdrawals hstored hbooked nodup_bookings heach
    by_cases hdated : ∀ g ∈ bookings db serial, g.dates ≠ []
    swap
    · rw [if_neg hdated] at hend
      cases hend
    have htake : (bookings db serial).takeWhile (·.dates ≠ []) = bookings db serial :=
      List.takeWhile_eq_self_iff.2 fun g hg => decide_eq_true (hdated g hg)
    rw [htake] at hw hsame
    split at hrest
    · rename_i hkeep
      obtain ⟨rfl, rfl⟩ := hrest
      refine (whole_kept_iff (by nofun)).trans (iff_of_true ?_ (.inl ⟨hkeep.1, .inl hkeep.2⟩))
      rw [hsame hkeep.1]
    · rename_i hkeep
      exact whole_withdrawn_iff hd hskip hkeep hdated hw hdevices hsame hrest
  · obtain ⟨hw, -, hsame, hend⟩ := runs_withdrawals hstored hbooked nodup_bookings heach
    refine whole_undated_iff (by nofun) hskip (fun hdated => ?_) hw hsame
    rw [if_pos hdated] at hend
    obtain ⟨as, has⟩ := hend
    cases has

theorem whole_locked_iff {query : RemoveQuery} {notes : Option String} {d : Device}
    {r : Except JsError Removal} (hd : db.devices.findOne serial = some d)
    (hrun : (removeLockedDevice query notes serial (some d)).Runs DbOp.exec db r db') :
    Whole serial db r db' ↔ Fits query notes serial db d := by
  unfold removeLockedDevice at hrun
  dsimp only at hrun
  split at hrun
  · rename_i hexcludes
    obtain ⟨rfl, rfl⟩ := hrun
    exact (whole_kept_iff (by nofun)).trans (iff_of_true rfl (.inl hexcludes))
  rename_i hasks
  unfold Fits
  rw [or_iff_right hasks]
  split at hrun
  · rename_i hstandard
    rw [if_pos hstandard]
    exact whole_standard_iff hd hrun
  · rename_i hstandard
    rw [if_neg hstandard]
    unfold getDeviceTransientGroups at hrun
    rw [bind_eq, Db.runs_findGroups] at hrun
    have hrun : (if bookings db serial ≠ [] ∧ query.booked = some false then .ret .unchanged
      else (Prog.each (fun group => deleteGroupDevice serial group.owner.email group.id)
        (bookings db serial)).bind fun _ =>
          if bookings db serial = [] ∧ query.booked = some true then .ret .unchanged
          else deleteDeviceInDatabase serial : DbM Removal).Runs DbOp.exec db r db' := hrun
    split at hrun
    · rename_i hskip
      obtain ⟨rfl, rfl⟩ := hrun
      exact (whole_kept_iff (by nofun)).trans (iff_of_true rfl (.inr (.inl hskip)))
    · rename_i hskip
      exact whole_bookable_iff hd hskip hrun

/-- A device that could be locked is worked on, and then unlocked. -/
theorem runs_removeDevice {user : User} {query : RemoveQuery} {notes : Option String}
    {r : Except JsError Removal}
    (hrun : (removeDevice user query notes serial).Runs DbOp.exec db r db') :
    (∀ d ∈ db.devices.findOne serial, d.group.lock = none) ∧ r = .ok .notFound ∧
        db'.accounts = db.accounts ∨
      ∃ d t, db.devices.findOne serial = some d ∧ d.group.lock.isSome = true ∧
        (removeLockedDevice query notes serial (some d.unlocked)).Runs DbOp.exec
          (DbOp.exec (.devices (.update serial (.lockByOrigin user.subscribed))) db).2 r t ∧
        db' = (DbOp.exec (.devices (.update serial (.setDeviceLock false))) t).2 := by
  obtain ⟨stats, hmodified, hnew, hrest⟩ := runs_lockDeviceByOrigin hrun
  set db₁ := (DbOp.exec (.devices (.update serial (.lockByOrigin user.subscribed))) db).2
  split at hrest
  · rename_i hnone
    obtain ⟨rfl, rfl⟩ := hrest
    exact .inl ⟨hmodified.1 hnone, rfl, Db.accounts_congr rfl rfl⟩
  · rename_i hlocked
    obtain ⟨d, hd, hlock⟩ : ∃ d, db.devices.findOne serial = some d ∧ d.group.lock ≠ none := by
      by_contra hnone
      exact hlocked (hmodified.2 fun d hd => by_contra fun hlock => hnone ⟨d, hd, hlock⟩)
    have hval : stats.newVal = some d.unlocked := hnew.trans (Collection.findOne_update_self _ hd)
    rw [hval] at hrest
    obtain ⟨t, hwork, hunlock⟩ := runs_finally_unlock hrest
    have hkey : d.unlocked.serial = serial := Collection.key_of_findOne hd
    have hdb' := (runs_unlock hunlock).2
    rw [hkey] at hdb'
    exact .inr ⟨d, t, hd, Option.isSome_iff_ne_none.2 hlock, hwork, hdb'⟩

/-- Whether a run is all or nothing is decided by what it starts from. -/
theorem whole_iff {user : User} {query : RemoveQuery} {notes : Option String}
    {r : Except JsError Removal}
    (hrun : (removeDevice user query notes serial).Runs DbOp.exec db r db') :
    Whole serial db r db' ↔ RemovableOrKept query notes serial db := by
  rcases runs_removeDevice hrun with ⟨hnone, rfl, haccounts⟩ | ⟨d, t, hd, hlock, hwork, rfl⟩
  · refine (whole_kept_iff (by nofun)).trans (iff_of_true haccounts fun d hd hlock => ?_)
    rw [hnone d hd] at hlock
    cases hlock
  · -- neither the lock nor its release shows in the accounts
    set db₁ := (DbOp.exec (.devices (.update serial (.lockByOrigin user.subscribed))) db).2
    have hd₁ : db₁.devices.findOne serial = some d.unlocked := Collection.findOne_update_self _ hd
    have hbefore : db₁.accounts = db.accounts := Db.accounts_congr rfl rfl
    set db₂ := (DbOp.exec (.devices (.update serial (.setDeviceLock false))) t).2 with hdb₂
    have hafter : db₂.accounts = t.accounts := Db.accounts_congr rfl rfl
    have hgone : db₂.devices.findOne serial = none ↔ t.devices.findOne serial = none := by
      simp only [hdb₂, DbOp.exec, CollOp.exec, Collection.findOne_update, if_true,
        Option.map_eq_none_iff]
    have hwhole : Whole serial db r db₂ ↔ Whole serial db₁ r t := by
      unfold Whole
      rw [hgone, hafter, hbefore]
      exact Iff.rfl
    rw [hwhole, whole_locked_iff hd₁ hwork]
    constructor
    · intro hfits d' hd' _
      obtain rfl := Option.some.inj (hd.symm.trans hd')
      exact hfits
    · intro hfits
      exact hfits d hd hlock

/-- **A device is removed from all its groups or from none under one condition.** -/
theorem allOrNothing_iff (user : User) (query : RemoveQuery) (notes : Option String)
    (serial : String) (db : Db) :
    AllOrNothing user query notes serial db ↔ RemovableOrKept query notes serial db := by
  constructor
  · intro h
    obtain ⟨r, db', hrun⟩ := exists_runs DbOp.exec (removeDevice user query notes serial) db
    exact (whole_iff hrun).1 (h r db' hrun)
  · intro h r db' hrun
    exact (whole_iff hrun).2 h

/-- The device `d` of the root group is in the booking `g`, which is active. -/
def bookedDb : Db where
  users := ⟨[Sample.user "u" ⟨5, 3600000⟩ ⟨1, 3600000⟩], by simp⟩
  groups := ⟨[{ Sample.root with devices := ["d"] },
    { Sample.booking "g" "u" .once 0 [⟨0, 3600000⟩] 3600000 ["d"] with isActive := true }],
    by simp [Sample.root, Sample.booking]⟩
  devices := ⟨[{ Sample.device "d" with
    group := { (Sample.device "d").group with id := "g", class_ := .once, lock := some false } }],
    by simp⟩

/-- **The active booking loses the device**, which is not deleted. -/
theorem not_allOrNothing_of_active :
    ¬ AllOrNothing (Sample.user "u" ⟨5, 3600000⟩ ⟨1, 3600000⟩) ⟨none, none, none, none⟩ none "d"
      bookedDb := by
  intro h
  have hwhole := h _ _ (runs_eval _ _ _)
  have hr : ((removeDevice (Sample.user "u" ⟨5, 3600000⟩ ⟨1, 3600000⟩) ⟨none, none, none, none⟩ none
      "d").eval DbOp.exec bookedDb).1 = .error .notLocked := by decide
  rw [hr, whole_kept_iff (by nofun)] at hwhole
  exact absurd hwhole (by decide)

end devices

end DeviceHub

import DeviceHub.Quotas.Conservation
import DeviceHub.Db.Devices

/-!
# Charges made too early

`addGroupDevices` and `updateUserGroup` charge the owner of a group before they know whether they
will change the group, and neither takes the charge back.

## Main definitions

* `UpdatesOrLeaves` : an update of a group is made and charged, or nothing changes.
* `AtomicOnError` : `addGroupDevices` changes nothing when it throws one of its two errors.

## Main results

* `updatesOrLeaves_iff` : an update does what it should exactly when the quota allows it and the
  duration stays the same, or neither.
* `atomicOnError_iff` : the errors are atomic unless a charge that changes something is made for
  devices that are busy.
-/

namespace DeviceHub

open Prog apiutil lodash GroupModel UserModel

/-! ### The charge -/

/-- The database after the charge. -/
def charged (db : Db) (email : String) (oldDuration newDuration : Int) : Db :=
  (DbOp.exec (.users (.update email (.chargeDuration oldDuration newDuration))) db).2

section Charged

variable {db : Db} {email : String} {oldDuration newDuration : Int}

theorem findOne_charged {u : User} (hu : db.users.findOne email = some u) :
    (charged db email oldDuration newDuration).users.findOne email =
      some ((UserChange.chargeDuration oldDuration newDuration).apply u) :=
  Collection.findOne_update_self _ hu

theorem charged_ne (hcharge : ¬ ChargeIdle db email oldDuration newDuration) :
    (charged db email oldDuration newDuration).users.findOne email ≠ db.users.findOne email := by
  intro hsame
  refine hcharge (chargeIdle_of_stats ?_)
  cases hu : db.users.findOne email with
  | none => rfl
  | some u =>
    rw [findOne_charged hu, hu] at hsame
    simp [chargeStats, Option.some.inj hsame, updateUserHandler]

theorem charged_idle (hidle : ChargeIdle db email oldDuration newDuration) :
    (charged db email oldDuration newDuration).users.findOne email = db.users.findOne email := by
  cases hu : db.users.findOne email with
  | none =>
    have hnew := Collection.findOne_update db.users email email
      (effect (UserChange.chargeDuration oldDuration newDuration))
    rw [if_pos rfl, hu] at hnew
    exact hnew
  | some u => rw [findOne_charged hu, chargeDuration_idle (hidle.imp id fun h => h u hu)]

end Charged

/-! ### `updateUserGroup` -/

/-- The quota of the user allows the new duration of the group. -/
def Within (u : User) (group : Group) (data : GroupUpdate) : Prop :=
  u.quotas.consumed.duration + data.duration - group.duration ≤ u.quotas.allocated.duration

instance (u : User) (group : Group) (data : GroupUpdate) : Decidable (Within u group data) :=
  inferInstanceAs (Decidable (_ ≤ _))

/-- The consumed duration of a user. -/
def consumedDuration (db : Db) (email : String) : Option Int :=
  (db.users.findOne email).map fun u => u.quotas.consumed.duration

/-- **The data are stored and charged** if the quota of the owner allows it, and otherwise the answer
is `false`; after this answer the consumed duration and the group are what they were. -/
def UpdatesOrLeaves (db : Db) (group : Group) (data : GroupUpdate) : Prop :=
  ∀ u ∈ db.users.findOne group.owner.email, ∀ r db',
    (updateUserGroup group data).Runs DbOp.exec db r db' →
      (Within u group data → r ≠ .ok none ∧
        db'.groups.findOne group.id = some ((GroupChange.setData data).apply group) ∧
        consumedDuration db' group.owner.email =
          some (u.quotas.consumed.duration + (data.duration - group.duration))) ∧
      (¬ Within u group data → r = .ok none) ∧
      (r = .ok none → consumedDuration db' group.owner.email = some u.quotas.consumed.duration ∧
        db'.groups.findOne group.id = db.groups.findOne group.id)

theorem updateUserGroup_of_ne {db db' : Db} {group : Group} {data : GroupUpdate}
    {r : Except JsError (Option Group)} (hne : group.duration ≠ data.duration) :
    (updateUserGroup group data).Runs DbOp.exec db r db' ↔ r = .ok none ∧
      db' = charged db group.owner.email group.duration data.duration := by
  unfold updateUserGroup
  rw [bind_eq, runs_updateUserGroupDuration, if_pos (.inr hne)]
  exact Iff.rfl

/-- Any other update of a group whose owner exists is made, and nothing is charged. -/
theorem updateUserGroup_of_eq {db db' : Db} {group : Group} {data : GroupUpdate} {u : User}
    {r : Except JsError (Option Group)} (hg : db.groups.findOne group.id = some group)
    (hu : db.users.findOne group.owner.email = some u) (heq : group.duration = data.duration)
    (hrun : (updateUserGroup group data).Runs DbOp.exec db r db') :
    r ≠ .ok none ∧ db'.groups.findOne group.id = some ((GroupChange.setData data).apply group) ∧
      db'.users.findOne group.owner.email = some u := by
  have hstats : ¬ ((chargeStats (db.users.findOne group.owner.email) group.duration
      data.duration).modifiedCount = 0 ∧ (chargeStats (db.users.findOne group.owner.email)
        group.duration data.duration).matchedCount = 0 ∨ group.duration ≠ data.duration) := by
    rintro (⟨-, hmatched⟩ | hne)
    · simp [chargeStats, hu] at hmatched
    · exact hne heq
  unfold updateUserGroup at hrun
  rw [bind_eq, runs_updateUserGroupDuration, if_neg hstats, bind_eq, Db.runs_updateGroup] at hrun
  set db₁ := (DbOp.exec (.users (.update group.owner.email
    (.chargeDuration group.duration data.duration))) db).2 with hdb₁
  set db₂ := (DbOp.exec (.groups (.update group.id (.setData data))) db₁).2 with hdb₂
  have hg₁ : db₁.groups.findOne group.id = some group := hg
  have hg₂ : db₂.groups.findOne group.id = some ((GroupChange.setData data).apply group) :=
    Collection.findOne_update_self _ hg₁
  have hu₂ : db₂.users.findOne group.owner.email = some u := by
    show (charged db group.owner.email group.duration data.duration).users.findOne _ = _
    rw [findOne_charged hu, chargeDuration_idle (.inl heq.symm)]
  rw [hg₁] at hrun
  dsimp only [Option.map_some] at hrun
  split at hrun
  · obtain ⟨rfl, rfl⟩ := hrun
    exact ⟨(fun h => by cases h), hg₂, hu₂⟩
  · obtain ⟨husers, hgroups⟩ := Prog.Ops.runs_deviceOnly
      (Ops.bind (places_updateHandlers _ _ _).deviceOnly fun _ => ops_ret) hrun
    refine ⟨?_, by rw [hgroups]; exact hg₂, by rw [husers]; exact hu₂⟩
    -- the handlers fail, or the answer is the group
    rintro rfl
    rcases runs_bind.1 hrun with ⟨a, t, -, hret⟩ | ⟨e, -, he⟩
    · cases hret.1
    · cases he

/-- **An update of a group** does what it should exactly when the quota allows it and the duration
stays the same, or it does not and the duration changes. -/
theorem updatesOrLeaves_iff {db : Db} {group : Group} {data : GroupUpdate} {u : User}
    (hg : db.groups.findOne group.id = some group)
    (hu : db.users.findOne group.owner.email = some u) :
    UpdatesOrLeaves db group data ↔ (Within u group data ↔ group.duration = data.duration) := by
  obtain ⟨r, db', hrun⟩ := exists_runs DbOp.exec (updateUserGroup group data) db
  constructor
  · intro h
    obtain ⟨hmade, hrefused, -⟩ := h u hu r db' hrun
    constructor
    · intro hwithin
      by_contra hne
      exact (hmade hwithin).1 ((updateUserGroup_of_ne hne).1 hrun).1
    · intro heq
      by_contra hover
      exact (updateUserGroup_of_eq hg hu heq hrun).1 (hrefused hover)
  · intro hiff u' hu' r db' hrun
    obtain rfl := Option.some.inj (hu.symm.trans hu')
    by_cases heq : group.duration = data.duration
    · obtain ⟨hr, hgroup, huser⟩ := updateUserGroup_of_eq hg hu heq hrun
      refine ⟨fun _ => ⟨hr, hgroup, ?_⟩, fun hover => absurd (hiff.2 heq) hover,
        fun hnone => absurd hnone hr⟩
      rw [consumedDuration, huser, heq, sub_self, add_zero]
      rfl
    · have hover : ¬ Within u group data := fun hwithin => heq (hiff.1 hwithin)
      obtain ⟨rfl, rfl⟩ := (updateUserGroup_of_ne heq).1 hrun
      refine ⟨fun hwithin => absurd hwithin hover, fun _ => rfl, fun _ => ⟨?_, rfl⟩⟩
      -- the charge is refused as well
      rw [consumedDuration, findOne_charged hu, chargeDuration_idle (.inr (Int.not_le.1 hover))]
      rfl

/-- The user of `secondBooking` gives the booking `h` another name. -/
def renamed (duration : Int) : GroupUpdate where
  name := "trip"
  state := .ready
  class_ := .once
  isActive := false
  repetitions := 0
  dates := [⟨3600000, 7200000⟩]
  duration := duration

/-- The booking `h` of `secondBooking 0`. -/
def bookingH : Group := Sample.booking "h" "u" .once 0 [⟨3600000, 7200000⟩] 3600000 ["d"]

theorem updatesOrLeaves_renamed : UpdatesOrLeaves (secondBooking 0) bookingH (renamed 3600000) :=
  (updatesOrLeaves_iff (u := Sample.user "u" ⟨5, 36000000⟩ ⟨2, 3600000⟩) (by decide)
    (by decide)).2 (by decide)

/-- **An update that makes a booking longer** is refused although the quota allows it, and the owner
pays for it. -/
theorem not_updatesOrLeaves_of_longer :
    ¬ UpdatesOrLeaves (secondBooking 0) bookingH (renamed 7200000) ∧
      (∀ r db', (updateUserGroup bookingH (renamed 7200000)).Runs DbOp.exec (secondBooking 0) r db' →
        r = .ok none ∧ consumedDuration db' "u" = some 7200000) := by
  have hruns : ∀ r db', (updateUserGroup bookingH (renamed 7200000)).Runs DbOp.exec
      (secondBooking 0) r db' → r = .ok none ∧ consumedDuration db' "u" = some 7200000 := by
    intro r db' hrun
    obtain ⟨rfl, rfl⟩ := (updateUserGroup_of_ne (by decide)).1 hrun
    exact ⟨rfl, by decide⟩
  refine ⟨fun h => ?_, hruns⟩
  obtain ⟨r, db', hrun⟩ := exists_runs DbOp.exec (updateUserGroup bookingH (renamed 7200000))
    (secondBooking 0)
  have hleft := (h _ (by decide : _ = some (Sample.user "u" ⟨5, 36000000⟩ ⟨2, 3600000⟩)) r db'
    hrun).2.2 (hruns r db' hrun).1
  rw [show bookingH.owner.email = "u" from rfl, (hruns r db' hrun).2] at hleft
  exact absurd hleft.1 (by decide)

/-! ### `addGroupDevices` -/

/-- **When `addGroupDevices` throws one of its two errors**, the owner and the group are what they
were. -/
def AtomicOnError (db : Db) (group : Group) (serials : List String) : Prop :=
  ∀ r db', (GroupModel.addGroupDevices group serials).Runs DbOp.exec db r db' →
    r = .error .quotaIsReached ∨ r = .error .datesOverlap →
    db'.users.findOne group.owner.email = db.users.findOne group.owner.email ∧
      db'.groups.findOne group.id = db.groups.findOne group.id

/-- No charge is made in vain: there is nothing to charge, the charge changes nothing, or the devices
are free. -/
def ChargesForFree (db : Db) (group : Group) (serials : List String) : Prop :=
  serials = [] ∨ ∀ w ∈ group.dates.head?,
    let duration := (group.devices.length + serials.length) * (w.stop - w.start) *
      (group.repetitions + 1)
    ChargeIdle db group.owner.email group.duration duration ∨
      checkDatesOverlaps group.dates (db.groups.docs.filter (bookingsOf serials)) = none

section AddGroupDevices

variable {db db' : Db} {group : Group} {serials : List String} {duration : Int}
  {r : Except JsError Group}

/-- What `addGroupDevices` does with devices that are free. -/
def addFreeDevices (group : Group) (serials : List String) (duration : Int) : DbM Group := do
  let newGroup ← Db.updateGroup group.id (.setDevices duration (union group.devices serials))
  let newGroup ← sendGroupChange (newGroup.map (·.2))
  treatGroupDevicesChange newGroup serials true
  return newGroup

theorem runs_addGroupDevices_idle (hserials : serials ≠ [])
    (hduration : computeDuration group serials.length = .ok duration)
    (hidle : ChargeIdle db group.owner.email group.duration duration) :
    (GroupModel.addGroupDevices group serials).Runs DbOp.exec db r db' ↔
      r = .error .quotaIsReached ∧ db' = charged db group.owner.email group.duration duration := by
  unfold GroupModel.addGroupDevices
  rw [if_neg hserials, hduration]
  dsimp only
  rw [bind_eq, runs_updateUserGroupDuration, if_pos (chargeStats_idle hidle)]
  exact Iff.rfl

theorem runs_addGroupDevices_charged (hserials : serials ≠ [])
    (hduration : computeDuration group serials.length = .ok duration)
    (hcharge : ¬ ChargeIdle db group.owner.email group.duration duration) :
    (GroupModel.addGroupDevices group serials).Runs DbOp.exec db r db' ↔
      (if (checkDatesOverlaps group.dates (db.groups.docs.filter (bookingsOf serials))).isSome
        then throw .datesOverlap else addFreeDevices group serials duration).Runs DbOp.exec
        (charged db group.owner.email group.duration duration) r db' := by
  have hstats := mt chargeIdle_of_stats hcharge
  unfold GroupModel.addGroupDevices
  rw [if_neg hserials, hduration]
  dsimp only
  rw [bind_eq, runs_updateUserGroupDuration, if_neg hstats, bind_eq, Db.runs_findGroups]
  exact Iff.rfl

/-- Devices that are free are added without one of the two errors. -/
theorem ne_of_addFreeDevices (hrun : (addFreeDevices group serials duration).Runs DbOp.exec db r
    db') : r ≠ .error .quotaIsReached ∧ r ≠ .error .datesOverlap := by
  unfold addFreeDevices at hrun
  rw [bind_eq, Db.runs_updateGroup] at hrun
  cases hg : db.groups.findOne group.id with
  | none =>
    rw [hg] at hrun
    rw [hrun.1]
    exact ⟨nofun, nofun⟩
  | some g =>
    rw [hg] at hrun
    dsimp only [Option.map_some, sendGroupChange] at hrun
    rw [pure_eq, bind_eq, ret_bind, bind_eq] at hrun
    rcases runs_bind.1 hrun with ⟨-, t, -, hret⟩ | ⟨e, htreat, -⟩
    · rw [hret.1]
      exact ⟨nofun, nofun⟩
    · cases ok_of_treatGroupDevicesChange htreat

theorem not_atomicOnError (hserials : serials ≠ [])
    (hduration : computeDuration group serials.length = .ok duration)
    (hcharge : ¬ ChargeIdle db group.owner.email group.duration duration)
    (hbusy : (checkDatesOverlaps group.dates
      (db.groups.docs.filter (bookingsOf serials))).isSome = true) :
    ¬ AtomicOnError db group serials := by
  intro h
  have hrun : (GroupModel.addGroupDevices group serials).Runs DbOp.exec db (.error .datesOverlap)
      (charged db group.owner.email group.duration duration) := by
    rw [runs_addGroupDevices_charged hserials hduration hcharge, if_pos hbusy]
    exact ⟨rfl, rfl⟩
  exact charged_ne hcharge (h _ _ hrun (.inr rfl)).1

end AddGroupDevices

/-- **The errors of `addGroupDevices` are atomic** exactly when no charge that changes the owner is
made for devices that are busy. -/
theorem atomicOnError_iff (db : Db) (group : Group) (serials : List String) :
    AtomicOnError db group serials ↔ ChargesForFree db group serials := by
  by_cases hserials : serials = []
  · refine ⟨fun _ => .inl hserials, fun _ r db' hrun _ => ?_⟩
    unfold GroupModel.addGroupDevices at hrun
    rw [if_pos hserials] at hrun
    rw [hrun.2]
    exact ⟨rfl, rfl⟩
  cases hdates : group.dates with
  | nil =>
    have hduration : computeDuration group serials.length = .error .typeError :=
      computeDuration_eq_error.2 ⟨hdates, rfl⟩
    refine ⟨fun _ => .inr (by simp [hdates]), fun _ r db' hrun _ => ?_⟩
    unfold GroupModel.addGroupDevices at hrun
    rw [if_neg hserials, hduration] at hrun
    rw [hrun.2]
    exact ⟨rfl, rfl⟩
  | cons w ws =>
    set duration := (group.devices.length + (serials.length : Int)) * (w.stop - w.start) *
      (group.repetitions + 1) with hd
    have hduration : computeDuration group serials.length = .ok duration := by
      unfold computeDuration
      rw [hdates]
    have hfree_iff : ChargesForFree db group serials ↔
        ChargeIdle db group.owner.email group.duration duration ∨ checkDatesOverlaps group.dates
          (db.groups.docs.filter (bookingsOf serials)) = none := by
      simp [ChargesForFree, hserials, hdates, hd]
    rw [hfree_iff]
    by_cases hidle : ChargeIdle db group.owner.email group.duration duration
    · refine ⟨fun _ => .inl hidle, fun _ r db' hrun _ => ?_⟩
      rw [((runs_addGroupDevices_idle hserials hduration hidle).1 hrun).2]
      exact ⟨charged_idle hidle, rfl⟩
    cases hover : checkDatesOverlaps group.dates (db.groups.docs.filter (bookingsOf serials)) with
    | none =>
      refine ⟨fun _ => .inr rfl, fun _ r db' hrun hr => ?_⟩
      rw [runs_addGroupDevices_charged hserials hduration hidle, hover, if_neg (by simp)] at hrun
      obtain ⟨hquota, hdates⟩ := ne_of_addFreeDevices hrun
      exact absurd hr (not_or.2 ⟨hquota, hdates⟩)
    | some g =>
      have hbusy : (checkDatesOverlaps group.dates
          (db.groups.docs.filter (bookingsOf serials))).isSome = true := by rw [hover]; rfl
      exact iff_of_false (not_atomicOnError hserials hduration hidle hbusy) (by simp [hidle])

/-- **The booking `g` cannot have the device of `h`**: the owner pays for it. -/
theorem not_atomicOnError_of_busy : ¬ AtomicOnError (secondBooking 1)
    (Sample.booking "g" "u" .once 0 [⟨0, 3600000⟩] 0 []) ["d"] :=
  not_atomicOnError (by decide) (show computeDuration _ _ = .ok 3600000 from rfl) (by decide)
    (by decide)

end DeviceHub

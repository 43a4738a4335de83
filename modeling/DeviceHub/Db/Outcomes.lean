import DeviceHub.Db.Ops
import Mathlib.Tactic.Set

/-!
# Functions running alone

When nothing else runs in between, what a function reports is determined by the documents it
found.  `reserveStats` and `chargeStats` say so of the functions that load a user, update it and
report whether the two documents differ; `AddOutcome` and `RemoveOutcome` say it of the functions
that add devices to a group and remove them.

## Main definitions

* `ChargeIdle`, `ChargePasses` : the charge of a duration changes nothing; it is allocated.
* `AddOutcome`, `RemoveOutcome` : the ways in which `addGroupDevices` and `removeGroupDevices` end.
-/

namespace DeviceHub

open Prog apiutil lodash GroupModel UserModel

/-! ### The charge of a duration -/

/-- The charge changes nothing: it is zero, or refused to every user it could be for. -/
def ChargeIdle (db : Db) (email : String) (oldDuration newDuration : Int) : Prop :=
  newDuration = oldDuration ∨ ∀ u ∈ db.users.findOne email,
    u.quotas.allocated.duration < u.quotas.consumed.duration + newDuration - oldDuration

/-- The charge is zero, or allocated. -/
def ChargePasses (db : Db) (email : String) (oldDuration newDuration : Int) : Prop :=
  newDuration = oldDuration ∨ ∀ u ∈ db.users.findOne email,
    u.quotas.consumed.duration + newDuration - oldDuration ≤ u.quotas.allocated.duration

instance (db : Db) (email : String) (oldDuration newDuration : Int) :
    Decidable (ChargeIdle db email oldDuration newDuration) :=
  inferInstanceAs (Decidable (_ ∨ ∀ u ∈ db.users.findOne email, _))

instance (db : Db) (email : String) (oldDuration newDuration : Int) :
    Decidable (ChargePasses db email oldDuration newDuration) :=
  inferInstanceAs (Decidable (_ ∨ ∀ u ∈ db.users.findOne email, _))

/-- What `updateUserGroupDuration` reports when the user is not changed behind its back. -/
def chargeStats (u : Option User) (oldDuration newDuration : Int) : Stats :=
  let newUser := u.map fun u => (u, (UserChange.chargeDuration oldDuration newDuration).apply u)
  { modifiedCount := if newUser.isSome && updateUserHandler u (newUser.map (·.2)) then 1 else 0
    matchedCount := if u.isSome then 1 else 0 }

/-- `updateUserGroupDuration` running alone. -/
theorem runs_updateUserGroupDuration {α : Type} {email : String} {oldDuration newDuration : Int}
    {k : Stats → DbM α} {db db' : Db} {r : Except JsError α} :
    ((updateUserGroupDuration email oldDuration newDuration).bind k).Runs DbOp.exec db r db' ↔
      (k (chargeStats (db.users.findOne email) oldDuration newDuration)).Runs DbOp.exec
        (DbOp.exec (.users (.update email (.chargeDuration oldDuration newDuration))) db).2 r db' :=
  Iff.rfl

theorem chargeDuration_idle {u : User} {oldDuration newDuration : Int}
    (h : newDuration = oldDuration ∨
      u.quotas.allocated.duration < u.quotas.consumed.duration + newDuration - oldDuration) :
    (UserChange.chargeDuration oldDuration newDuration).apply u = u := by
  have hd : (if u.quotas.consumed.duration + newDuration - oldDuration ≤
        u.quotas.allocated.duration then
      u.quotas.consumed.duration + newDuration - oldDuration else u.quotas.consumed.duration) =
        u.quotas.consumed.duration := by
    split <;> omega
  simp only [UserChange.apply, Quotas.charge, hd]

theorem chargeDuration_passes {u : User} {oldDuration newDuration : Int}
    (h : newDuration = oldDuration ∨
      u.quotas.consumed.duration + newDuration - oldDuration ≤ u.quotas.allocated.duration) :
    ((UserChange.chargeDuration oldDuration newDuration).apply u).quotas.consumed.duration =
      u.quotas.consumed.duration + (newDuration - oldDuration) := by
  simp only [UserChange.apply, Quotas.charge]
  split <;> omega

theorem chargeStats_idle {db : Db} {email : String} {oldDuration newDuration : Int}
    (h : ChargeIdle db email oldDuration newDuration) :
    (chargeStats (db.users.findOne email) oldDuration newDuration).modifiedCount = 0 := by
  cases hu : db.users.findOne email with
  | none => rfl
  | some u =>
    have hsame := chargeDuration_idle (u := u) (h.imp id fun h => h u hu)
    simp [chargeStats, hsame, updateUserHandler]

theorem chargeIdle_of_stats {db : Db} {email : String} {oldDuration newDuration : Int}
    (h : (chargeStats (db.users.findOne email) oldDuration newDuration).modifiedCount = 0) :
    ChargeIdle db email oldDuration newDuration := by
  by_cases hd : newDuration = oldDuration
  · exact .inl hd
  refine .inr fun u hu => ?_
  by_contra hle
  have hnew := chargeDuration_passes (u := u) (.inr (Int.not_lt.1 hle))
  have hne : (UserChange.chargeDuration oldDuration newDuration).apply u ≠ u := by
    intro he
    rw [he] at hnew
    omega
  rw [Option.mem_def.1 hu] at h
  simp [chargeStats, updateUserHandler, hne] at h

theorem chargePasses_of_not_idle {db : Db} {email : String} {oldDuration newDuration : Int}
    (h : ¬ ChargeIdle db email oldDuration newDuration) :
    ChargePasses db email oldDuration newDuration := by
  refine .inr fun u hu => ?_
  by_contra hlt
  refine h (.inr fun u' hu' => ?_)
  obtain rfl := Option.some.inj ((Option.mem_def.1 hu).symm.trans hu')
  omega

theorem ChargePasses.congr {db db' : Db} {email : String} {oldDuration newDuration : Int}
    (h : ChargePasses db email oldDuration newDuration)
    (hq : ∀ u' ∈ db'.users.findOne email, ∃ u ∈ db.users.findOne email,
      u'.quotas.consumed.duration = u.quotas.consumed.duration ∧
        u'.quotas.allocated = u.quotas.allocated) :
    ChargePasses db' email oldDuration newDuration := by
  refine h.imp id fun h u' hu' => ?_
  obtain ⟨u, hu, hc, ha⟩ := hq u' hu'
  rw [hc, ha]
  exact h u hu

/-! ### Instances -/

/-- What `reserveUserGroupInstance` reports when the user is not changed behind its back. -/
def reserveStats (u : Option User) : Stats :=
  let newUser := u.map fun u => (u, UserChange.reserveNumber.apply u)
  { modifiedCount := if updateUserHandler u (newUser.map (·.2)) then 1 else 0, matchedCount := 0 }

theorem runs_reserveUserGroupInstance {α : Type} {email : String} {k : Stats → DbM α}
    {db db' : Db} {r : Except JsError α} :
    ((reserveUserGroupInstance email).bind k).Runs DbOp.exec db r db' ↔
      (k (reserveStats (db.users.findOne email))).Runs DbOp.exec
        (DbOp.exec (.users (.update email .reserveNumber)) db).2 r db' := Iff.rfl

theorem runs_releaseUserGroupInstance {α : Type} {email : String} {p : DbM α} {db db' : Db}
    {r : Except JsError α} :
    ((releaseUserGroupInstance email).bind fun _ => p).Runs DbOp.exec db r db' ↔
      p.Runs DbOp.exec (DbOp.exec (.users (.update email .releaseNumber)) db).2 r db' := Iff.rfl

/-! ### The lock on a user -/

/-- What `setLockOnUser` reports about the user it locks. -/
def lockStats (u : User) : LockStats where
  modifiedCount := if u.lock then 0 else 1
  matchedCount := 1
  newVal := some ((UserChange.setLock true).apply u)

theorem setLock_eq_iff (u : User) : u = (UserChange.setLock true).apply u ↔ u.lock = true := by
  constructor
  · intro h
    rw [h]
    rfl
  · intro h
    simp [UserChange.apply, ← h]

theorem runs_setLockOnUser {α : Type} {u : User} {email : String} {k : LockStats → DbM α}
    {db db' : Db} {r : Except JsError α} (hu : db.users.findOne email = some u) :
    ((setLockOnUser email true).bind k).Runs DbOp.exec db r db' ↔
      (k (lockStats u)).Runs DbOp.exec (DbOp.exec (.users (.update email (.setLock true))) db).2 r
        db' := by
  have hnew : (db.users.update email (effect (UserChange.setLock true))).findOne email =
      some ((UserChange.setLock true).apply u) := Collection.findOne_update_self _ hu
  have hmodified : (if (some (u, (UserChange.setLock true).apply u)).any
      (fun s => decide (s.1 ≠ s.2)) = true then 1 else 0) = if u.lock then 0 else 1 := by
    by_cases hlock : u.lock = true
    · simp [hlock, ← (setLock_eq_iff u).2 hlock]
    · simp [hlock, mt (setLock_eq_iff u).1 hlock]
  unfold setLockOnUser lockStats
  rw [bind_eq, Prog.bind_assoc, Db.runs_findUser, hu]
  dsimp only
  rw [bind_eq, Prog.bind_assoc, Db.runs_updateUser, hu, Option.map_some, bind_eq, Prog.bind_assoc,
    Db.runs_findUser]
  simp only [DbOp.exec, CollOp.exec, UserChange.effect_apply, hnew, hmodified]
  exact Iff.rfl

/-- `lockUser` running alone: the lock is set in one step, whether it was set before or not. -/
theorem runs_lockUser {α : Type} {u : User} {email : String} {k : LockStats → DbM α}
    {db db' : Db} {r : Except JsError α} (hu : db.users.findOne email = some u) :
    ((AllModel.lockUser email).bind k).Runs DbOp.exec db r db' ↔
      (k (lockStats u)).Runs DbOp.exec (DbOp.exec (.users (.update email (.setLock true))) db).2 r
        db' := by
  show (((setLockOnUser email true).bind fun stats => if lockResult stats then .ret stats
    else setIntervalWrapper (setLockOnUser email true) 9).bind k).Runs DbOp.exec db r db' ↔ _
  rw [Prog.bind_assoc, runs_setLockOnUser hu, if_pos (by simp [lockResult, lockStats])]
  exact Iff.rfl

/-! ### Operations on a stored group -/

/-- An operation on a group loads the group first. -/
def withGroup {α : Type} (id : String) (f : Group → DbM α) : DbM Unit := do
  match ← getGroup id with
  | none => return ()
  | some group =>
    let _ ← f group
    return ()

theorem runs_withGroup {α : Type} {id : String} {f : Group → DbM α} {db db' : Db}
    {r : Except JsError Unit} (h : (withGroup id f).Runs DbOp.exec db r db') :
    db.groups.findOne id = none ∧ db' = db ∨ ∃ group, db.groups.findOne id = some group ∧
      db.groups.findOne group.id = some group ∧ ∃ r', (f group).Runs DbOp.exec db r' db' := by
  unfold withGroup getGroup at h
  rw [bind_eq, Db.runs_findGroup] at h
  cases hg : db.groups.findOne id with
  | none =>
    rw [hg] at h
    exact .inl ⟨rfl, h.2⟩
  | some group =>
    rw [hg] at h
    have hkey : group.id = id := Collection.key_of_findOne hg
    exact .inr ⟨group, rfl, hkey.symm ▸ hg, Prog.runs_discard h⟩

/-! ### Devices of a transient group -/

/-- The ways in which `addGroupDevices` ends for the transient group `g`. -/
inductive AddOutcome (db : Db) (g : Group) (serials : List String) : Except JsError Group → Db → Prop
  /-- No devices to add. -/
  | nothing (hserials : serials = []) : AddOutcome db g serials (.ok g) db
  /-- A group without dates has no duration. -/
  | undated (hserials : serials ≠ []) (hdates : g.dates = []) :
    AddOutcome db g serials (.error .typeError) db
  /-- The charge changes nothing, and is taken for a refusal. -/
  | refused (duration : Int) (hserials : serials ≠ [])
      (hduration : computeDuration g serials.length = .ok duration)
      (hidle : ChargeIdle db g.owner.email g.duration duration) :
    AddOutcome db g serials (.error .quotaIsReached)
      (DbOp.exec (.users (.update g.owner.email (.chargeDuration g.duration duration))) db).2
  /-- The charge is made, but the devices are busy. -/
  | busy (duration : Int) (hserials : serials ≠ [])
      (hduration : computeDuration g serials.length = .ok duration)
      (hcharge : ¬ ChargeIdle db g.owner.email g.duration duration)
      (hbusy : checkDatesOverlaps g.dates (db.groups.docs.filter (bookingsOf serials)) ≠ none) :
    AddOutcome db g serials (.error .datesOverlap)
      (DbOp.exec (.users (.update g.owner.email (.chargeDuration g.duration duration))) db).2
  /-- The charge is made and the devices are added. -/
  | added (duration : Int) (hserials : serials ≠ [])
      (hduration : computeDuration g serials.length = .ok duration)
      (hcharge : ¬ ChargeIdle db g.owner.email g.duration duration)
      (hfree : checkDatesOverlaps g.dates (db.groups.docs.filter (bookingsOf serials)) = none) :
    AddOutcome db g serials
      (.ok ((GroupChange.setDevices duration (union g.devices serials)).apply g))
      (DbOp.exec (.groups (.update g.id (.setDevices duration (union g.devices serials))))
        (DbOp.exec (.users (.update g.owner.email (.chargeDuration g.duration duration))) db).2).2

/-- `treatGroupDevicesChange` does not throw: the errors of the device updates are caught. -/
theorem ok_of_treatGroupDevicesChange {g : Group} {devices : List String} {isAddedDevice : Bool}
    {db db' : Db} {r : Except JsError Unit}
    (hrun : (treatGroupDevicesChange g devices isAddedDevice).Runs DbOp.exec db r db') :
    r = .ok () := by
  unfold treatGroupDevicesChange at hrun
  split at hrun
  · exact hrun.1
  split at hrun
  · rcases runs_tryCatch.1 hrun with ⟨a, -, hr⟩ | ⟨e, t, -, hr⟩
    · exact hr
    · exact hr.1
  · rcases runs_tryCatch.1 hrun with ⟨a, -, hr⟩ | ⟨e, t, -, hr⟩
    · exact hr
    · exact hr.1

theorem runs_treatGroupDevicesChange {α : Type} {g : Group} {devices : List String}
    {isAddedDevice : Bool} {p : DbM α} {db db' : Db} {r : Except JsError α} (hg : g.Transient)
    (hrun : ((treatGroupDevicesChange g devices isAddedDevice).bind fun _ => p).Runs DbOp.exec db r
      db') : p.Runs DbOp.exec db r db' := by
  unfold treatGroupDevicesChange at hrun
  have hstop : g.isActive = false ∨ isOriginGroup g.class_ = false := .inr hg
  rw [if_pos hstop] at hrun
  exact hrun

theorem addOutcome_of_runs {db db' : Db} {g : Group} {serials : List String}
    {r : Except JsError Group} (hg : db.groups.findOne g.id = some g) (ht : g.Transient)
    (hrun : (GroupModel.addGroupDevices g serials).Runs DbOp.exec db r db') :
    AddOutcome db g serials r db' := by
  unfold GroupModel.addGroupDevices at hrun
  split at hrun
  · rename_i hserials
    obtain ⟨rfl, rfl⟩ := hrun
    exact .nothing hserials
  rename_i hserials
  split at hrun
  · rename_i e hduration
    obtain ⟨rfl, rfl⟩ := hrun
    obtain ⟨hdates, rfl⟩ := computeDuration_eq_error.1 hduration
    exact .undated hserials hdates
  rename_i duration hduration
  rw [bind_eq, runs_updateUserGroupDuration] at hrun
  by_cases hidle : ChargeIdle db g.owner.email g.duration duration
  · rw [if_pos (chargeStats_idle hidle)] at hrun
    obtain ⟨rfl, rfl⟩ := hrun
    exact .refused duration hserials hduration hidle
  have hstats : ¬ (chargeStats (db.users.findOne g.owner.email) g.duration
      duration).modifiedCount = 0 := fun h0 => hidle (chargeIdle_of_stats h0)
  rw [if_neg hstats, bind_eq, Db.runs_findGroups] at hrun
  set db₁ := (DbOp.exec (.users (.update g.owner.email (.chargeDuration g.duration duration)))
    db).2 with hdb₁
  have hgroups : db₁.groups = db.groups := rfl
  rw [hgroups] at hrun
  split at hrun
  · rename_i hbusy
    obtain ⟨rfl, rfl⟩ := hrun
    refine .busy duration hserials hduration hidle fun hnone => ?_
    rw [hnone] at hbusy
    cases hbusy
  · rename_i hfree
    rw [bind_eq, Db.runs_updateGroup, hgroups, hg] at hrun
    have hnew : ((GroupChange.setDevices duration (union g.devices serials)).apply g).Transient := ht
    obtain ⟨rfl, rfl⟩ := runs_treatGroupDevicesChange hnew hrun
    exact .added duration hserials hduration hidle (Option.not_isSome_iff_eq_none.1 hfree)

/-- The ways in which `removeGroupDevices` ends for the transient group `g`. -/
inductive RemoveOutcome (db : Db) (g : Group) (serials : List String) :
    Except JsError Group → Db → Prop
  /-- A group without dates has no duration. -/
  | undated (hdates : g.dates = []) : RemoveOutcome db g serials (.error .typeError) db
  /-- The difference is charged, as far as it is allocated, and the devices are removed. -/
  | removed (duration : Int) (hduration : computeDuration g (-serials.length) = .ok duration) :
    RemoveOutcome db g serials
      (.ok ((GroupChange.setDevices duration (difference g.devices serials)).apply g))
      (DbOp.exec (.groups (.update g.id (.setDevices duration (difference g.devices serials))))
        (DbOp.exec (.users (.update g.owner.email (.chargeDuration g.duration duration))) db).2).2

theorem removeOutcome_of_runs {db db' : Db} {g : Group} {serials : List String}
    {r : Except JsError Group} (hg : db.groups.findOne g.id = some g) (ht : g.Transient)
    (hrun : (GroupModel.removeGroupDevices g serials).Runs DbOp.exec db r db') :
    RemoveOutcome db g serials r db' := by
  unfold GroupModel.removeGroupDevices at hrun
  split at hrun
  · rename_i e hduration
    obtain ⟨rfl, rfl⟩ := hrun
    obtain ⟨hdates, rfl⟩ := computeDuration_eq_error.1 hduration
    exact .undated hdates
  rename_i duration hduration
  rw [bind_eq, runs_updateUserGroupDuration] at hrun
  set db₁ := (DbOp.exec (.users (.update g.owner.email (.chargeDuration g.duration duration)))
    db).2 with hdb₁
  have hgroups : db₁.groups = db.groups := rfl
  rw [bind_eq, Db.runs_updateGroup, hgroups, hg] at hrun
  have hnew : ((GroupChange.setDevices duration (difference g.devices serials)).apply g).Transient :=
    ht
  obtain ⟨rfl, rfl⟩ := runs_treatGroupDevicesChange hnew hrun
  exact .removed duration hduration

end DeviceHub

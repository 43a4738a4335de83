import DeviceHub.Db.Outcomes
import DeviceHub.Async.Rely
import Mathlib.Tactic.Set

/-!
# Where devices return to

`updateDevicesCurrentGroupFromOrigin` loads every device, then its origin group, and writes the
device, for all serials concurrently.  Running alone it sends every listed device home, whatever
the order of the calls and however often a serial is listed.

## Main definitions

* `homeOf` : the group that a device returns to, its origin or else the root group.
* `Homing` : what the concurrent updates may do to the database.

## Main results

* `runs_updateDevicesCurrentGroupFromOrigin` : the listed devices are home, the others unchanged.
* `runs_deleteUserGroup` : what becomes of the groups and the devices when a group is deleted.
-/

namespace DeviceHub

open Prog apiutil AllModel GroupModel

/-- The root group that `getRootGroup` finds. -/
def rootOf (db : Db) : Option Group :=
  (db.groups.docs.filter fun g => decide (g.privilege = .root)).head?

theorem runs_getRootGroup {α : Type} {k : Group → DbM α} {db db' : Db} {r : Except JsError α} :
    (GroupModel.getRootGroup.bind k).Runs DbOp.exec db r db' ↔
      match rootOf db with
      | none => r = .error .rootGroupNotFound ∧ db' = db
      | some root => (k root).Runs DbOp.exec db r db' := by
  unfold GroupModel.getRootGroup rootOf
  rw [bind_eq, bind_assoc, Db.runs_findGroups]
  cases db.groups.docs.filter fun g => decide (g.privilege = .root) with
  | nil => exact Iff.rfl
  | cons root rest => exact Iff.rfl

theorem HasRoot.rootOf_isSome {db : Db} (h : HasRoot db) : (rootOf db).isSome := by
  obtain ⟨g, hg, hroot⟩ := h
  have hmem : g ∈ db.groups.docs.filter fun g => decide (g.privilege = .root) :=
    List.mem_filter.2 ⟨hg, decide_eq_true hroot⟩
  unfold rootOf
  cases hfilter : db.groups.docs.filter fun g => decide (g.privilege = .root) with
  | nil =>
    rw [hfilter] at hmem
    cases hmem
  | cons root rest => rfl

theorem mem_of_rootOf {db : Db} {root : Group} (h : rootOf db = some root) :
    root ∈ db.groups.docs :=
  (List.mem_filter.1 (List.mem_of_mem_head? (Option.mem_def.2 h))).1

/-! ### Home -/

/-- The group that a device with the origin `origin` returns to. -/
def homeOf (db : Db) (origin : String) : Option Group :=
  (db.groups.findOne origin).or (rootOf db)

/-- The device when it has returned home; it stays where it is when there is no such group. -/
def Device.sentHome (db : Db) (d : Device) : Device :=
  match homeOf db d.group.origin with
  | none => d
  | some group => (DeviceChange.setCurrentGroup group).apply d

theorem homeOf_congr {db db' : Db} (h : db'.groups = db.groups) : homeOf db' = homeOf db := by
  funext origin
  simp only [homeOf, rootOf, h]

theorem Device.sentHome_congr {db db' : Db} (h : db'.groups = db.groups) (d : Device) :
    d.sentHome db' = d.sentHome db := by
  simp only [Device.sentHome, homeOf_congr h]

@[simp] theorem Device.origin_sentHome (db : Db) (d : Device) :
    (d.sentHome db).group.origin = d.group.origin := by
  unfold Device.sentHome
  split <;> rfl

@[simp] theorem Device.serial_sentHome (db : Db) (d : Device) :
    (d.sentHome db).serial = d.serial := by
  unfold Device.sentHome
  split <;> rfl

theorem Device.sentHome_eq {db : Db} {d : Device} {group : Group}
    (h : homeOf db d.group.origin = some group) :
    d.sentHome db = (DeviceChange.setCurrentGroup group).apply d := by
  simp only [Device.sentHome, h]

theorem Device.sentHome_eq_self {db : Db} {d : Device} (h : homeOf db d.group.origin = none) :
    d.sentHome db = d := by
  simp only [Device.sentHome, h]

@[simp] theorem Device.sentHome_sentHome (db : Db) (d : Device) :
    (d.sentHome db).sentHome db = d.sentHome db := by
  cases hhome : homeOf db d.group.origin with
  | none => rw [Device.sentHome_eq_self hhome, Device.sentHome_eq_self hhome]
  | some group =>
    have hhome' : homeOf db (d.sentHome db).group.origin = some group := by
      rw [d.origin_sentHome, hhome]
    rw [Device.sentHome_eq hhome', Device.sentHome_eq hhome]
    rfl

theorem Device.id_sentHome {db : Db} {d : Device}
    (h : (db.groups.findOne d.group.origin).isSome) :
    (d.sentHome db).group.id = d.group.origin := by
  obtain ⟨group, hgroup⟩ := Option.isSome_iff_exists.1 h
  have hhome : homeOf db d.group.origin = some group := by
    rw [homeOf, hgroup, Option.some_or]
  have hkey : group.id = d.group.origin := Collection.key_of_findOne hgroup
  rw [Device.sentHome_eq hhome]
  exact hkey

theorem Device.id_sentHome_ne {db : Db} (hroot : HasRoot db) {d : Device}
    (h : db.groups.findOne d.group.origin = none) :
    (d.sentHome db).group.id ≠ d.group.origin := by
  obtain ⟨root, hroot⟩ := Option.isSome_iff_exists.1 hroot.rootOf_isSome
  have hhome : homeOf db d.group.origin = some root := by
    rw [homeOf, h, Option.none_or, hroot]
  have hne : root.id ≠ d.group.origin :=
    Collection.findOne_eq_none.1 h root (mem_of_rootOf hroot)
  rw [Device.sentHome_eq hhome]
  exact hne

/-! ### Sending devices home -/

/-- The database may go from `db` to `db'` by sending some of the devices `serials` home. -/
structure Homing (serials : List String) (db db' : Db) : Prop where
  users : db'.users = db.users
  groups : db'.groups = db.groups
  devices : ∀ serial, db'.devices.findOne serial = db.devices.findOne serial ∨
    serial ∈ serials ∧
      db'.devices.findOne serial = (db.devices.findOne serial).map (Device.sentHome db)

/-- `Homing` as a rely. -/
def homing (serials : List String) : Rely Db where
  may := Homing serials
  refl _ := ⟨rfl, rfl, fun _ => .inl rfl⟩
  trans db db₁ db' h h' := by
    refine ⟨h'.users.trans h.users, h'.groups.trans h.groups, fun serial => ?_⟩
    have hcongr : Device.sentHome db₁ = Device.sentHome db :=
      funext fun d => d.sentHome_congr h.groups
    rcases h.devices serial with hsame | ⟨hmem, hmoved⟩ <;>
      rcases h'.devices serial with hsame' | ⟨hmem', hmoved'⟩
    · exact .inl (hsame'.trans hsame)
    · exact .inr ⟨hmem', by rw [hmoved', hsame, hcongr]⟩
    · exact .inr ⟨hmem, by rw [hsame', hmoved]⟩
    · refine .inr ⟨hmem, ?_⟩
      rw [hmoved', hmoved, hcongr, Option.map_map]
      congr 1
      funext d
      exact d.sentHome_sentHome db

/-- The device `serial` is at home. -/
def AtHome (serial : String) (db : Db) : Prop :=
  (db.devices.findOne serial).map (Device.sentHome db) = db.devices.findOne serial

theorem AtHome.stable {serials : List String} {serial : String} {db db' : Db}
    (h : Homing serials db db') (hhome : AtHome serial db) : AtHome serial db' := by
  have hcongr : Device.sentHome db' = Device.sentHome db :=
    funext fun d => d.sentHome_congr h.groups
  unfold AtHome at hhome ⊢
  rw [hcongr]
  rcases h.devices serial with hsame | ⟨-, hmoved⟩
  · rw [hsame, hhome]
  · rw [hmoved, hhome, hhome]

theorem Homing.origin {serials : List String} {db db' : Db} (h : Homing serials db db')
    {serial : String} {d : Device} (hd : d ∈ db'.devices.findOne serial) :
    ∃ d₀ ∈ db.devices.findOne serial, d.group.origin = d₀.group.origin := by
  rcases h.devices serial with hsame | ⟨-, hmoved⟩
  · exact ⟨d, hsame ▸ hd, rfl⟩
  · rw [hmoved] at hd
    obtain ⟨d₀, hd₀, rfl⟩ := Option.map_eq_some_iff.1 hd
    exact ⟨d₀, hd₀, d₀.origin_sentHome db⟩

/-- A write that sends the device home. -/
theorem homing_update {serials : List String} {serial : String} (hserial : serial ∈ serials)
    {db : Db} {group : Group}
    (h : ∀ d ∈ db.devices.findOne serial, homeOf db d.group.origin = some group) :
    Homing serials db (DbOp.exec (.devices (.update serial (.setCurrentGroup group))) db).2 ∧
      AtHome serial (DbOp.exec (.devices (.update serial (.setCurrentGroup group))) db).2 := by
  set db' := (DbOp.exec (.devices (.update serial (.setCurrentGroup group))) db).2 with hdb'
  have hself : db'.devices.findOne serial =
      (db.devices.findOne serial).map (Device.sentHome db) := by
    cases hd : db.devices.findOne serial with
    | none =>
      simp only [hdb', DbOp.exec, CollOp.exec, Collection.update_of_findOne_none _ hd, hd,
        Option.map_none]
    | some d =>
      simp only [hdb', DbOp.exec, CollOp.exec, Collection.findOne_update_self _ hd,
        Option.map_some, Device.sentHome_eq (h d hd)]
      rfl
  refine ⟨⟨rfl, rfl, fun k => ?_⟩, ?_⟩
  · by_cases hk : k = serial
    · subst hk
      exact .inr ⟨hserial, hself⟩
    · exact .inl (Collection.findOne_update_ne _ hk)
  · have hcongr : Device.sentHome db' = Device.sentHome db :=
      funext fun d => d.sentHome_congr rfl
    unfold AtHome
    rw [hcongr, hself, Option.map_map]
    congr 1
    funext d
    exact d.sentHome_sentHome db

theorem rootOf_congr {db db' : Db} (h : db'.groups = db.groups) : rootOf db' = rootOf db := by
  simp only [rootOf, h]

/-- `getRootGroup`, as long as the groups stay the same. -/
theorem under_getRootGroup {serials : List String} {s : Db}
    {Q : Except JsError Group → Db → Prop}
    (hok : ∀ root t, rootOf s = some root → Homing serials s t → Q (.ok root) t)
    (hfail : ∀ e t, rootOf s = none → Homing serials s t → Q (.error e) t) :
    getRootGroup.Under DbOp.exec (homing serials) Q s := by
  unfold getRootGroup Db.findGroups
  simp only [bind_eq, perform_bind]
  intro t hst
  refine ⟨(homing serials).refl t, ?_⟩
  have hroot : rootOf t = rootOf s := rootOf_congr hst.groups
  simp only [DbOp.exec, CollOp.exec]
  unfold rootOf at hroot
  cases hfound : t.groups.docs.filter fun g => decide (g.privilege = .root) with
  | nil =>
    rw [hfound] at hroot
    exact hfail _ t hroot.symm hst
  | cons root rest =>
    rw [hfound] at hroot
    exact hok root t hroot.symm hst

/-- `originOrRoot`, as long as the groups stay the same: it finds the home of the device. -/
theorem under_originOrRoot {serials : List String} {device : Option Device} {s : Db}
    {Q : Except JsError Group → Db → Prop}
    (hok : ∀ group t, (∀ d ∈ device, homeOf s d.group.origin = some group) →
      Homing serials s t → Q (.ok group) t)
    (hfail : ∀ e t, (∀ d ∈ device, homeOf s d.group.origin = none) → Homing serials s t →
      Q (.error e) t) :
    (originOrRoot device).Under DbOp.exec (homing serials) Q s := by
  cases device with
  | none =>
    exact under_getRootGroup (fun root t _ hst => hok root t (fun d hd => by cases hd) hst)
      fun e t _ hst => hfail e t (fun d hd => by cases hd) hst
  | some d =>
    unfold originOrRoot getGroup Db.findGroup
    simp only [bind_eq, perform_bind]
    intro t hst
    refine ⟨(homing serials).refl t, ?_⟩
    have hfound : t.groups.findOne d.group.origin = s.groups.findOne d.group.origin := by
      rw [hst.groups]
    simp only [DbOp.exec, CollOp.exec]
    cases hgroup : t.groups.findOne d.group.origin with
    | some group =>
      refine hok group t (fun d' hd' => ?_) hst
      obtain rfl := Option.some.inj hd'
      rw [homeOf, ← hfound, hgroup, Option.some_or]
    | none =>
      have hhome : ∀ d' ∈ some d, homeOf s d'.group.origin = rootOf s := by
        intro d' hd'
        obtain rfl := Option.some.inj hd'
        rw [homeOf, ← hfound, hgroup, Option.none_or]
      have hroot : rootOf t = rootOf s := rootOf_congr hst.groups
      refine under_getRootGroup (fun root u hr htu => ?_) fun e u hr htu => ?_
      · exact hok root u (fun d' hd' => by rw [hhome d' hd', ← hroot, hr])
          ((homing serials).trans _ _ _ hst htu)
      · exact hfail e u (fun d' hd' => by rw [hhome d' hd', ← hroot, hr])
          ((homing serials).trans _ _ _ hst htu)

/-- What the lookup of the group to which a device returns has found. -/
def FoundHome (serial : String) : Except JsError Group → Db → Prop
  | .ok group, s => ∀ d ∈ s.devices.findOne serial, homeOf s d.group.origin = some group
  | .error _, s => ∀ d ∈ s.devices.findOne serial, homeOf s d.group.origin = none

/-- One serial of `updateDevicesCurrentGroupFromOrigin`. -/
theorem under_updateDeviceCurrentGroupFromOrigin {serials : List String} {serial : String}
    (hserial : serial ∈ serials) (s : Db) :
    (updateDeviceCurrentGroupFromOrigin serial).Under DbOp.exec (homing serials)
      (fun _ => AtHome serial) s := by
  unfold updateDeviceCurrentGroupFromOrigin Db.findDevice updateDeviceCurrentGroup Db.updateDevice
  simp only [bind_eq, perform_bind]
  intro t hst
  refine ⟨(homing serials).refl t, ?_⟩
  simp only [DbOp.exec, CollOp.exec]
  -- since it was loaded the device may only have been sent home, so that its origin is the same
  refine Under.bind (Q := FoundHome serial) (under_originOrRoot ?_ ?_) ?_ ?_
  · intro group u hhome htu d hd
    obtain ⟨d₀, hd₀, horigin⟩ := htu.origin hd
    rw [homeOf_congr htu.groups, horigin]
    exact hhome d₀ hd₀
  · intro e u hhome htu d hd
    obtain ⟨d₀, hd₀, horigin⟩ := htu.origin hd
    rw [homeOf_congr htu.groups, horigin]
    exact hhome d₀ hd₀
  · intro group u _ hhome v huv
    refine homing_update hserial fun d hd => ?_
    obtain ⟨d₀, hd₀, horigin⟩ := huv.origin hd
    rw [homeOf_congr huv.groups, horigin]
    exact hhome d₀ hd₀
  · intro e u _ hhome
    show AtHome serial u
    unfold AtHome
    cases hd : u.devices.findOne serial with
    | none => rfl
    | some d => rw [Option.map_some, Device.sentHome_eq_self (hhome d hd)]

/-- **`updateDevicesCurrentGroupFromOrigin` running alone sends the listed devices home.** -/
theorem runs_updateDevicesCurrentGroupFromOrigin {serials : List String} {db db' : Db}
    {r : Except JsError (List (Option (Device × Device)))}
    (hrun : (updateDevicesCurrentGroupFromOrigin serials).Runs DbOp.exec db r db') :
    db'.users = db.users ∧ db'.groups = db.groups ∧ ∀ serial, db'.devices.findOne serial =
      (db.devices.findOne serial).map fun d => if serial ∈ serials then d.sentHome db else d := by
  have hstable : ∀ (serial : String) (s t : Db), (homing serials).may s t → AtHome serial s →
      AtHome serial t := fun serial s t hst hs => hs.stable hst
  obtain ⟨hmay, hhome⟩ := Under.runs (Under.all hstable fun serial hserial =>
    under_updateDeviceCurrentGroupFromOrigin hserial db) hrun
  refine ⟨hmay.users, hmay.groups, fun serial => ?_⟩
  by_cases hserial : serial ∈ serials
  · simp only [hserial, if_true]
    have hcongr : Device.sentHome db' = Device.sentHome db :=
      funext fun d => d.sentHome_congr hmay.groups
    rcases hmay.devices serial with hsame | ⟨-, hmoved⟩
    · have hdone := hhome serial hserial
      unfold AtHome at hdone
      rw [hcongr, hsame] at hdone
      rw [hsame]
      exact hdone.symm
    · exact hmoved
  · simp only [hserial, if_false, Option.map_id']
    exact (hmay.devices serial).resolve_right fun h => hserial h.1

/-! ### Deleting a group -/

/-- The device when `returnDevicesToRoot` has moved it; it stays where it is without a root
group. -/
def Device.sentToRoot (db : Db) (d : Device) : Device :=
  match rootOf db with
  | none => d
  | some root => (DeviceChange.setRootGroup root).apply d

theorem Device.sentToRoot_eq {db : Db} {d : Device} {root : Group} (h : rootOf db = some root) :
    d.sentToRoot db = (DeviceChange.setRootGroup root).apply d := by
  simp only [Device.sentToRoot, h]

theorem Device.sentHome_sentToRoot {db : Db} {d : Device} {root : Group}
    (h : rootOf db = some root) : (d.sentToRoot db).sentHome db = d.sentToRoot db := by
  have hroot : db.groups.findOne root.id = some root := Collection.findOne_of_mem (mem_of_rootOf h)
  have hhome : homeOf db (d.sentToRoot db).group.origin = some root := by
    rw [Device.sentToRoot_eq h]
    show homeOf db root.id = some root
    rw [homeOf, hroot, Option.some_or]
  rw [Device.sentHome_eq hhome, Device.sentToRoot_eq h]
  rfl

/-- What happens to the devices of a group that is deleted, `db` being the database without it. -/
def Device.released (db : Db) (g : Group) (d : Device) : Device :=
  if d.serial ∈ g.devices then
    if isOriginGroup g.class_ then d.sentToRoot db else d.sentHome db
  else d

/-- The call changes nothing but users. -/
def DbOp.UserOnly (o : DbOp) : Prop := o.KeepsGroups ∧ o.KeepsDevices

theorem Prog.Ops.runs_userOnly {α : Type} {p : DbM α} (hp : p.Ops DbOp.UserOnly) {db db' : Db}
    {r : Except JsError α} (h : p.Runs DbOp.exec db r db') :
    db'.groups = db.groups ∧ db'.devices = db.devices := by
  have hop : ∀ o db, DbOp.UserOnly o →
      ((DbOp.exec o db).2.groups, (DbOp.exec o db).2.devices) = (db.groups, db.devices) :=
    fun o db ho => by rw [ho.1.exec, ho.2.exec]
  have hframe : (db'.groups, db'.devices) = (db.groups, db.devices) :=
    Runs.frame (φ := fun db : Db => (db.groups, db.devices)) hop hp h
  exact ⟨congrArg Prod.fst hframe, congrArg Prod.snd hframe⟩

theorem runs_detach {α : Type} {p : DbM α} {db db' : Db} {r : Except JsError Unit}
    (hrun : (detach p).Runs DbOp.exec db r db') : ∃ r', p.Runs DbOp.exec db r' db' := by
  obtain ⟨r', hrun⟩ := runs_rescue hrun
  exact runs_discard hrun

theorem runs_returnDevicesToRoot {serials : List String} {db db' : Db} {r : Except JsError Nat}
    (hrun : (returnDevicesToRoot serials).Runs DbOp.exec db r db') :
    db'.users = db.users ∧ db'.groups = db.groups ∧ (rootOf db = none → r = .error .rootGroupNotFound) ∧
      ∀ serial, db'.devices.findOne serial = (db.devices.findOne serial).map fun d =>
        if serial ∈ serials then d.sentToRoot db else d := by
  unfold returnDevicesToRoot at hrun
  rw [bind_eq, runs_getRootGroup] at hrun
  cases hroot : rootOf db with
  | none =>
    rw [hroot] at hrun
    obtain ⟨rfl, rfl⟩ := hrun
    refine ⟨rfl, rfl, fun _ => rfl, fun serial => ?_⟩
    have hstay : ∀ d : Device, d.sentToRoot db' = d := fun d => by
      simp only [Device.sentToRoot, hroot]
    simp only [hstay, ite_self, Option.map_id']
  | some root =>
    rw [hroot] at hrun
    obtain ⟨-, rfl⟩ := hrun
    refine ⟨rfl, rfl, (fun h => by cases h), fun serial => ?_⟩
    simp only [DbOp.exec, CollOp.exec, Collection.findOne_updateBy]
    refine Collection.map_findOne_congr fun d hserial => ?_
    simp only [show d.serial = serial from hserial, decide_eq_true_eq, Device.sentToRoot_eq hroot]
    rfl

/-- The devices that went to the root group are at home there. -/
theorem runs_returnDevices {serials : List String} {db db' : Db} {r : Except JsError Unit}
    (hrun : ((returnDevicesToRoot serials).bind fun _ =>
      detach (updateDevicesCurrentGroupFromOrigin serials)).Runs DbOp.exec db r db') :
    db'.groups = db.groups ∧ ∀ serial, db'.devices.findOne serial =
      (db.devices.findOne serial).map fun d => if serial ∈ serials then d.sentToRoot db else d := by
  rcases runs_bind.1 hrun with ⟨n, db₁, hreturn, hrun⟩ | ⟨e, hreturn, -⟩
  · obtain ⟨r', hhome⟩ := runs_detach hrun
    obtain ⟨-, hgroups₁, hfail, hdevices₁⟩ := runs_returnDevicesToRoot hreturn
    obtain ⟨-, hgroups', hdevices'⟩ := runs_updateDevicesCurrentGroupFromOrigin hhome
    obtain ⟨root, hroot⟩ : ∃ root, rootOf db = some root := by
      cases hroot : rootOf db with
      | none => cases hfail hroot
      | some root => exact ⟨root, rfl⟩
    refine ⟨hgroups'.trans hgroups₁, fun serial => ?_⟩
    rw [hdevices', hdevices₁, Option.map_map]
    refine Option.map_congr fun d _ => ?_
    by_cases hmem : serial ∈ serials
    · simp only [Function.comp_apply, if_pos hmem]
      rw [Device.sentHome_congr hgroups₁, Device.sentHome_sentToRoot hroot]
    · simp only [Function.comp_apply, if_neg hmem]
  · obtain ⟨-, hgroups, -, hdevices⟩ := runs_returnDevicesToRoot hreturn
    exact ⟨hgroups, hdevices⟩

theorem runs_unsubscribeAll {g : Group} {db db' : Db}
    {r : Except JsError (List (Option (User × User)))}
    (hrun : (Prog.all (g.users.map fun email =>
      Db.updateUser email (.unsubscribe g.id))).Runs DbOp.exec db r db') :
    (∃ a, r = .ok a) ∧ db'.groups = db.groups ∧ db'.devices = db.devices := by
  have husers : (Prog.all (g.users.map fun email =>
      Db.updateUser email (.unsubscribe g.id))).Ops DbOp.UserOnly :=
    ops_unsubscribeAll fun _ => ⟨trivial, trivial⟩
  exact ⟨(total_unsubscribeAll g).runs trivial hrun, husers.runs_userOnly hrun⟩

/-- What `releaseGroup` does to the devices. -/
theorem runs_releaseGroup {g : Group} {db db' : Db} {r : Except JsError Unit}
    (hrun : (releaseGroup g).Runs DbOp.exec db r db') :
    db'.groups = db.groups ∧ ∀ serial, db'.devices.findOne serial =
      (db.devices.findOne serial).map (Device.released db g) := by
  unfold releaseGroup at hrun
  rw [bind_eq] at hrun
  rcases runs_bind.1 hrun with ⟨a, db₁, hall, hrun⟩ | ⟨e, hall, -⟩
  swap
  · obtain ⟨⟨a, ha⟩, -⟩ := runs_unsubscribeAll hall
    cases ha
  obtain ⟨-, hgroups₁, hdevices₁⟩ := runs_unsubscribeAll hall
  rw [bind_eq, runs_releaseUserGroupInstance, bind_eq, runs_updateUserGroupDuration] at hrun
  set db₂ := (DbOp.exec (.users (.update g.owner.email (.chargeDuration g.duration 0)))
    (DbOp.exec (.users (.update g.owner.email .releaseNumber)) db₁).2).2 with hdb₂
  have hgroups₂ : db₂.groups = db.groups := hgroups₁
  have hdevices₂ : db₂.devices = db.devices := hdevices₁
  split at hrun
  · -- an origin group: its devices go to the root group
    rename_i horigin
    obtain ⟨hgroups₃, hdevices₃⟩ := runs_returnDevices hrun
    refine ⟨hgroups₃.trans hgroups₂, fun serial => ?_⟩
    rw [hdevices₃, hdevices₂]
    refine Collection.map_findOne_congr fun d hserial => ?_
    have hroot₂ : d.sentToRoot db₂ = d.sentToRoot db := by
      simp only [Device.sentToRoot, rootOf_congr hgroups₂]
    rw [Device.released, show d.serial = serial from hserial, if_pos horigin, hroot₂]
  · -- a booking: its devices go home
    rename_i htransient
    have hhome : ∃ r', (updateDevicesCurrentGroupFromOrigin g.devices).Runs DbOp.exec db₂ r' db' :=
      runs_discard hrun
    obtain ⟨r', hhome⟩ := hhome
    obtain ⟨-, hgroups₃, hdevices₃⟩ := runs_updateDevicesCurrentGroupFromOrigin hhome
    refine ⟨hgroups₃.trans hgroups₂, fun serial => ?_⟩
    rw [hdevices₃, hdevices₂]
    refine Collection.map_findOne_congr fun d hserial => ?_
    rw [Device.released, show d.serial = serial from hserial, if_neg htransient,
      d.sentHome_congr hgroups₂]

/-- **`deleteUserGroup` deletes the group and sends its devices home**, or to the root group. -/
theorem runs_deleteUserGroup {id : String} {g : Group} {db db' : Db} {r : Except JsError Deletion}
    (hg : db.groups.findOne id = some g) (hroot : g.privilege ≠ .root)
    (hrun : (deleteUserGroup id).Runs DbOp.exec db r db') :
    db'.groups = db.groups.delete id ∧ ∀ serial, db'.devices.findOne serial =
      (db.devices.findOne serial).map
        (Device.released (DbOp.exec (.groups (.delete id)) db).2 g) := by
  unfold deleteUserGroup getGroup at hrun
  rw [bind_eq, Db.runs_findGroup, hg, Option.any_some, if_neg (by simpa using hroot), bind_eq,
    Db.runs_deleteGroup] at hrun
  obtain ⟨r', hrun⟩ : ∃ r', (releaseGroup g).Runs DbOp.exec
      (DbOp.exec (.groups (.delete id)) db).2 r' db' := runs_discard hrun
  exact runs_releaseGroup hrun

end DeviceHub

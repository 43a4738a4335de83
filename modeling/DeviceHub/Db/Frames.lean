import DeviceHub.Db.GroupModel

/-!
# What the functions leave alone

Most calls of the group functions concern devices or are reads.  The predicates on calls
`DbOp.DeviceOnly`, `DbOp.KeepsLocks` and `DbOp.KeepsQuotas` name what a call cannot change, and
the lemmas `ops_*` say of each function all of whose calls are of such a kind that they are.
-/

namespace DeviceHub

open Prog

/-! ### Kinds of calls -/

/-- The update of a user leaves the quotas alone. -/
def UserChange.KeepsQuotas : UserChange → Prop
  | .setLock _ | .subscribe _ | .unsubscribe _ | .setSubscribed _ => True
  | _ => False

theorem UserChange.KeepsQuotas.quotas_apply {f : UserChange} (h : f.KeepsQuotas) (u : User) :
    (f.apply u).quotas = u.quotas := by
  cases f <;> first | rfl | exact h.elim

/-- What a group books: the devices and the dates, with the data that its cost depends on. -/
structure Group.Booking where
  id : String
  owner : Owner
  class_ : GroupClass
  devices : List String
  dates : List Window
  repetitions : Int
  duration : Int
  deriving DecidableEq

/-- What an operation on bookings looks at. -/
def Group.booking (g : Group) : Group.Booking where
  id := g.id
  owner := g.owner
  class_ := g.class_
  devices := g.devices
  dates := g.dates
  repetitions := g.repetitions
  duration := g.duration

/-- The update of a group leaves alone what the group books. -/
def GroupChange.KeepsBooking : GroupChange → Prop
  | .setDevices _ _ | .setData _ | .setDates _ _ _ _ | .setLifetime _ | .pushDevice _
  | .pullDevice _ => False
  | _ => True

theorem GroupChange.KeepsBooking.booking_apply {f : GroupChange} (h : f.KeepsBooking)
    (g : Group) : (f.apply g).booking = g.booking := by
  cases f <;> first | rfl | exact h.elim

/-- The update of a device leaves its lock alone. -/
def DeviceChange.KeepsLock : DeviceChange → Prop
  | .setDeviceLock _ | .lockByOrigin _ => False
  | _ => True

theorem DeviceChange.KeepsLock.lock_apply {f : DeviceChange} (h : f.KeepsLock) (d : Device) :
    (f.apply d).group.lock = d.group.lock := by
  cases f <;> first | rfl | exact h.elim

namespace DbOp

/-- The call changes nothing but devices. -/
def DeviceOnly (o : DbOp) : Prop := o.KeepsGroups ∧ o.KeepsUsers

/-- The call leaves the locks of devices alone, and creates no device. -/
def KeepsLocks : DbOp → Prop
  | .devices (.update _ f) => f.KeepsLock
  | .devices (.updateMany _ f) => f.KeepsLock
  | .devices (.insert _) => False
  | _ => True

/-- The call changes nothing but devices, and leaves their locks alone. -/
def Places (o : DbOp) : Prop := o.DeviceOnly ∧ o.KeepsLocks

/-- The call leaves the groups and the quotas of all users alone. -/
def KeepsQuotas : DbOp → Prop
  | .users (.update _ f) => f.KeepsQuotas
  | .users o => o.IsRead
  | .groups o => o.IsRead
  | .devices _ => True

theorem IsRead.deviceOnly {o : DbOp} (h : o.IsRead) : o.DeviceOnly := by
  cases o with
  | users o => exact ⟨trivial, h⟩
  | groups o => exact ⟨h, trivial⟩
  | devices o => exact ⟨trivial, trivial⟩

theorem IsRead.keepsLocks {o : DbOp} (h : o.IsRead) : o.KeepsLocks := by
  cases o with
  | users o => trivial
  | groups o => trivial
  | devices o => cases o <;> trivial

theorem IsRead.places {o : DbOp} (h : o.IsRead) : o.Places := ⟨h.deviceOnly, h.keepsLocks⟩

theorem DeviceOnly.keepsQuotas {o : DbOp} (h : o.DeviceOnly) : o.KeepsQuotas := by
  obtain ⟨hg, hu⟩ := h
  cases o with
  | users o => cases o <;> trivial
  | groups o => exact hg
  | devices o => trivial

theorem KeepsQuotas.keepsGroups {o : DbOp} (h : o.KeepsQuotas) : o.KeepsGroups := by
  cases o with
  | users o => trivial
  | groups o => exact h
  | devices o => trivial

/-- After a call that keeps the quotas, every user is stored with the quotas it had. -/
theorem KeepsQuotas.findOne {o : DbOp} (h : o.KeepsQuotas) (db : Db) (email : String) :
    ((o.exec db).2.users.findOne email).map User.quotas =
      (db.users.findOne email).map User.quotas := by
  cases o with
  | groups o => rfl
  | devices o => rfl
  | users o =>
    cases o with
    | update k f =>
      have hq : ∀ u, (f.apply u).quotas = u.quotas := UserChange.KeepsQuotas.quotas_apply h
      simp only [exec_users, CollOp.exec]
      by_cases he : email = k
      · subst he
        cases hu : db.users.findOne email with
        | none => simp [Collection.update_of_findOne_none _ hu, hu]
        | some u => simp [Collection.findOne_update_self _ hu, hq]
      · rw [Collection.findOne_update_ne _ he]
    | findOne k => rfl
    | find q => rfl
    | updateMany q f => exact h.elim
    | insert d => exact h.elim
    | delete k => exact h.elim

end DbOp

/-! ### Reads and device updates -/

section DeviceOnly

open AllModel GroupModel

theorem isRead_findGroup (id : String) : (Db.findGroup id).Ops DbOp.IsRead := by
  simp [Db.findGroup, DbOp.IsRead, CollOp.IsRead]

theorem isRead_findGroups (q : Group → Bool) : (Db.findGroups q).Ops DbOp.IsRead := by
  simp [Db.findGroups, DbOp.IsRead, CollOp.IsRead]

theorem isRead_findUser (email : String) : (Db.findUser email).Ops DbOp.IsRead := by
  simp [Db.findUser, DbOp.IsRead, CollOp.IsRead]

theorem isRead_getRootGroup : getRootGroup.Ops DbOp.IsRead := by
  refine (isRead_findGroups _).bind fun groups => ?_
  cases groups <;> trivial

theorem isRead_sendGroupChange (group : Option Group) :
    (sendGroupChange group).Ops DbOp.IsRead := by
  cases group <;> trivial

theorem deviceOnly_of_isRead {α : Type} {p : DbM α} (hp : p.Ops DbOp.IsRead) :
    p.Ops DbOp.DeviceOnly :=
  Ops.mono (fun _ ho => ho.deviceOnly) hp

theorem deviceOnly_findGroup (id : String) : (Db.findGroup id).Ops DbOp.DeviceOnly :=
  deviceOnly_of_isRead (isRead_findGroup id)

theorem deviceOnly_findGroups (q : Group → Bool) : (Db.findGroups q).Ops DbOp.DeviceOnly :=
  deviceOnly_of_isRead (isRead_findGroups q)

theorem deviceOnly_findUser (email : String) : (Db.findUser email).Ops DbOp.DeviceOnly :=
  deviceOnly_of_isRead (isRead_findUser email)

theorem deviceOnly_getRootGroup : getRootGroup.Ops DbOp.DeviceOnly :=
  deviceOnly_of_isRead isRead_getRootGroup

theorem deviceOnly_sendGroupChange (group : Option Group) :
    (sendGroupChange group).Ops DbOp.DeviceOnly :=
  deviceOnly_of_isRead (isRead_sendGroupChange group)

theorem deviceOnly_findDevices (q : Device → Bool) :
    (Db.findDevices q).Ops DbOp.DeviceOnly := by
  simp [Db.findDevices, DbOp.DeviceOnly, DbOp.KeepsGroups, DbOp.KeepsUsers]

theorem deviceOnly_updateDevices (serials : List String) (f : DeviceChange) :
    (Db.updateDevices serials f).Ops DbOp.DeviceOnly := by
  simp [Db.updateDevices, DbOp.DeviceOnly, DbOp.KeepsGroups, DbOp.KeepsUsers]

end DeviceOnly

/-! ### The places of devices -/

section Places

open AllModel GroupModel

theorem isRead_findDevice (serial : String) : (Db.findDevice serial).Ops DbOp.IsRead := by
  simp [Db.findDevice, DbOp.IsRead, CollOp.IsRead]

theorem isRead_originOrRoot (device : Option Device) : (originOrRoot device).Ops DbOp.IsRead := by
  cases device with
  | none => exact isRead_getRootGroup
  | some device =>
    refine (isRead_findGroup _).bind fun group => ?_
    cases group with
    | none => exact isRead_getRootGroup
    | some group => trivial

theorem places_of_isRead {α : Type} {p : DbM α} (hp : p.Ops DbOp.IsRead) : p.Ops DbOp.Places :=
  Ops.mono (fun _ ho => ho.places) hp

theorem Prog.Ops.deviceOnly {α : Type} {p : DbM α} (hp : p.Ops DbOp.Places) :
    p.Ops DbOp.DeviceOnly :=
  Ops.mono (fun _ ho => ho.1) hp

theorem places_updateDevice (serial : String) {f : DeviceChange} (hf : f.KeepsLock) :
    (Db.updateDevice serial f).Ops DbOp.Places :=
  ops_perform.2 ⟨⟨trivial, trivial⟩, hf⟩

theorem places_updateDevices (serials : List String) {f : DeviceChange} (hf : f.KeepsLock) :
    (Db.updateDevices serials f).Ops DbOp.Places :=
  ops_perform.2 ⟨⟨trivial, trivial⟩, hf⟩

theorem places_updateDevicesCurrentGroupFromOrigin (serials : List String) :
    (updateDevicesCurrentGroupFromOrigin serials).Ops DbOp.Places := by
  unfold updateDevicesCurrentGroupFromOrigin
  refine Ops.all fun p hp => ?_
  obtain ⟨serial, -, rfl⟩ := List.mem_map.1 hp
  exact (places_of_isRead (isRead_findDevice serial)).bind fun device =>
    (places_of_isRead (isRead_originOrRoot device)).bind fun group =>
      places_updateDevice serial trivial

theorem places_updateDevicesCurrentGroup (serials : List String) (group : Group) :
    (updateDevicesCurrentGroup serials group).Ops DbOp.Places :=
  places_updateDevices serials trivial

theorem places_returnDevicesToRoot (serials : List String) :
    (returnDevicesToRoot serials).Ops DbOp.Places :=
  (places_of_isRead isRead_getRootGroup).bind fun _ => places_updateDevices serials trivial

theorem Prog.Ops.detach {P : DbOp → Prop} {α : Type} {p : DbM α} (h : p.Ops P) :
    (detach p).Ops P :=
  Ops.tryCatch (Ops.bind h fun _ => ops_ret) fun _ => ops_ret

theorem places_treatGroupDevicesChange (group : Group) (devices : List String)
    (isAddedDevice : Bool) :
    (treatGroupDevicesChange group devices isAddedDevice).Ops DbOp.Places := by
  unfold treatGroupDevicesChange
  split
  · trivial
  · split
    · exact (places_updateDevicesCurrentGroup _ _).detach
    · exact (places_updateDevicesCurrentGroupFromOrigin _).detach

theorem places_updateDeviceCurrentGroupDates (group : Group) (serial : String) :
    (updateDeviceCurrentGroupDates group serial).Ops DbOp.Places := by
  unfold updateDeviceCurrentGroupDates
  split
  · refine (places_of_isRead (isRead_findDevice _)).bind fun device => ?_
    cases device with
    | none => trivial
    | some device =>
      dsimp only
      split
      · exact (places_updateDevicesCurrentGroup _ _).bind fun _ => trivial
      · trivial
  · exact (places_updateDevicesCurrentGroup _ _).bind fun _ => trivial

theorem places_updateGroupNames (group : Group) :
    (Prog.all (group.devices.map fun serial => updateDeviceGroupName serial group)).Ops
      DbOp.Places := by
  refine Ops.all fun p hp => ?_
  obtain ⟨serial, -, rfl⟩ := List.mem_map.1 hp
  exact places_updateDevice serial trivial

theorem places_updateHandlers (group newGroup : Group) (changedDates : Bool) :
    (Prog.all (updateHandlers group newGroup changedDates)).Ops DbOp.Places := by
  refine Ops.all fun p hp => ?_
  simp only [updateHandlers, List.mem_cons, List.not_mem_nil, or_false] at hp
  rcases hp with rfl | rfl | rfl | rfl <;> split
  · exact (places_updateDevicesCurrentGroup _ _).detach
  · trivial
  · exact (places_updateDevicesCurrentGroupFromOrigin _).detach
  · trivial
  · refine Ops.detach (Ops.all fun q hq => ?_)
    obtain ⟨serial, -, rfl⟩ := List.mem_map.1 hq
    exact places_updateDeviceCurrentGroupDates _ _
  · trivial
  · exact (places_updateGroupNames _).detach
  · trivial

end Places

/-! ### Runs of such programs -/

theorem Prog.Ops.runs_deviceOnly {α : Type} {p : DbM α} (hp : p.Ops DbOp.DeviceOnly) {db db' : Db}
    {r : Except JsError α} (h : p.Runs DbOp.exec db r db') :
    db'.users = db.users ∧ db'.groups = db.groups := by
  have hop : ∀ o db, DbOp.DeviceOnly o →
      ((DbOp.exec o db).2.users, (DbOp.exec o db).2.groups) = (db.users, db.groups) :=
    fun o db ho => by rw [ho.2.exec, ho.1.exec]
  have hframe : (db'.users, db'.groups) = (db.users, db.groups) :=
    Runs.frame (φ := fun db : Db => (db.users, db.groups)) hop hp h
  exact ⟨congrArg Prod.fst hframe, congrArg Prod.snd hframe⟩

theorem Prog.Ops.runs_keepsGroups {α : Type} {p : DbM α} (hp : p.Ops DbOp.KeepsGroups) {db db' : Db}
    {r : Except JsError α} (h : p.Runs DbOp.exec db r db') : db'.groups = db.groups := by
  have hop : ∀ o db, DbOp.KeepsGroups o → (DbOp.exec o db).2.groups = db.groups :=
    fun o db ho => ho.exec db
  exact Runs.frame (φ := fun db : Db => db.groups) hop hp h

/-! ### The group of a request -/

/-- The user is a user, a moderator or the owner of the group. -/
def Group.isMember (email : String) (g : Group) : Bool :=
  email ∈ g.users || email ∈ g.moderators || g.owner.email = email

/-- `getUserGroup` finds the stored group if the user is a member of it. -/
theorem Db.runs_getUserGroup {α : Type} {email id : String} {k : Option Group → DbM α} {db db' : Db}
    {r : Except JsError α} :
    ((GroupModel.getUserGroup email id).bind k).Runs DbOp.exec db r db' ↔
      (k ((db.groups.findOne id).filter (Group.isMember email))).Runs DbOp.exec db r db' := by
  have hfound : (db.groups.docs.filter fun g =>
      (email ∈ g.users || email ∈ g.moderators || g.owner.email = email) && g.id = id).head? =
        (db.groups.findOne id).filter (Group.isMember email) := by
    rw [List.head?_filter]
    exact db.groups.find?_and_key (Group.isMember email) id
  rw [← hfound]
  exact Iff.rfl

theorem Db.runs_getUserGroup_cases {α : Type} {email id : String} {k : Option Group → DbM α}
    {db db' : Db} {r : Except JsError α}
    (hrun : ((GroupModel.getUserGroup email id).bind k).Runs DbOp.exec db r db') :
    (k none).Runs DbOp.exec db r db' ∨ ∃ g, db.groups.findOne id = some g ∧
      g.isMember email = true ∧ (k (some g)).Runs DbOp.exec db r db' := by
  rw [Db.runs_getUserGroup] at hrun
  cases hfilter : (db.groups.findOne id).filter (Group.isMember email) with
  | none =>
    rw [hfilter] at hrun
    exact .inl hrun
  | some g =>
    obtain ⟨hg, hmember⟩ := Option.filter_eq_some_iff.1 hfilter
    rw [hfilter] at hrun
    exact .inr ⟨g, hg, hmember, hrun⟩

/-! ### The users of a group that is deleted -/

theorem ops_unsubscribeAll {P : DbOp → Prop} {group : Group}
    (hs : ∀ email, P (.users (.update email (.unsubscribe group.id)))) :
    (Prog.all (group.users.map fun email => Db.updateUser email (.unsubscribe group.id))).Ops P := by
  refine Ops.all fun p hp => ?_
  obtain ⟨email, -, rfl⟩ := List.mem_map.1 hp
  exact ops_perform.2 (hs email)

theorem total_unsubscribeAll (group : Group) :
    (Prog.all (group.users.map fun email =>
      Db.updateUser email (.unsubscribe group.id))).Total DbOp.exec fun _ => True := by
  refine Total.all fun p hp => ?_
  obtain ⟨email, -, rfl⟩ := List.mem_map.1 hp
  exact total_perform fun _ _ => trivial

/-! ### The root group -/

section HasRoot

open AllModel GroupModel

/-- There is a root group. -/
def HasRoot (db : Db) : Prop := ∃ g ∈ db.groups.docs, g.privilege = .root

theorem HasRoot.update {db : Db} (h : HasRoot db) (k : String) (f : GroupChange) :
    HasRoot { db with groups := db.groups.update k (effect f) } := by
  obtain ⟨g, hg, hroot⟩ := h
  by_cases hk : g.id = k
  · have hfound : db.groups.findOne k = some g := hk ▸ Collection.findOne_of_mem hg
    exact ⟨f.apply g, Collection.mem_update.2 (.inr ⟨g, hfound, rfl⟩), by simpa using hroot⟩
  · exact ⟨g, Collection.mem_update.2 (.inl ⟨hg, hk⟩), hroot⟩

theorem total_getRootGroup : getRootGroup.Total DbOp.exec HasRoot := by
  intro db hdb
  refine ⟨hdb, ?_⟩
  obtain ⟨g, hg, hroot⟩ := hdb
  have hmem : g ∈ db.groups.docs.filter fun g => decide (g.privilege = .root) :=
    List.mem_filter.2 ⟨hg, decide_eq_true hroot⟩
  simp only [DbOp.exec, CollOp.exec, ret_bind]
  split
  · rename_i hnil
    rw [hnil] at hmem
    cases hmem
  · trivial

theorem total_originOrRoot (device : Option Device) :
    (originOrRoot device).Total DbOp.exec HasRoot := by
  cases device with
  | none => exact total_getRootGroup
  | some device =>
    refine Total.bind (total_perform fun _ h => h) fun group => ?_
    cases group with
    | none => exact total_getRootGroup
    | some group => trivial

theorem total_updateDevicesCurrentGroupFromOrigin (serials : List String) :
    (updateDevicesCurrentGroupFromOrigin serials).Total DbOp.exec HasRoot := by
  unfold updateDevicesCurrentGroupFromOrigin
  refine Total.all fun p hp => ?_
  obtain ⟨serial, -, rfl⟩ := List.mem_map.1 hp
  refine Total.bind (total_perform fun _ h => h) fun device => ?_
  exact Total.bind (total_originOrRoot device) fun group => total_perform fun _ h => h

end HasRoot

end DeviceHub

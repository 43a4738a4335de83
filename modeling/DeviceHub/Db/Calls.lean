import DeviceHub.Db.Changes
import DeviceHub.Async.Pool

/-!
# The calls of the database

The atomic database calls (`DbOp`) with their answers and effects.  A function of the source
that awaits such calls is a program in `DbM`.
-/

namespace DeviceHub

/-- The atomic database calls. -/
inductive DbOp where
  | users (o : CollOp User UserChange String)
  | groups (o : CollOp Group GroupChange String)
  | devices (o : CollOp Device DeviceChange String)

namespace DbOp

/-- The answers of the calls. -/
@[reducible] def Res : DbOp → Type
  | .users o => o.Res
  | .groups o => o.Res
  | .devices o => o.Res

/-- The effect of a call. -/
def exec : (o : DbOp) → Db → o.Res × Db
  | .users o, db => ((o.exec db.users).1, { db with users := (o.exec db.users).2 })
  | .groups o, db => ((o.exec db.groups).1, { db with groups := (o.exec db.groups).2 })
  | .devices o, db => ((o.exec db.devices).1, { db with devices := (o.exec db.devices).2 })

@[simp] theorem exec_users (o : CollOp User UserChange String) (db : Db) :
    exec (.users o) db = ((o.exec db.users).1, { db with users := (o.exec db.users).2 }) := rfl

@[simp] theorem exec_groups (o : CollOp Group GroupChange String) (db : Db) :
    exec (.groups o) db =
      ((o.exec db.groups).1, { db with groups := (o.exec db.groups).2 }) := rfl

@[simp] theorem exec_devices (o : CollOp Device DeviceChange String) (db : Db) :
    exec (.devices o) db =
      ((o.exec db.devices).1, { db with devices := (o.exec db.devices).2 }) := rfl

/-- The call does not touch the groups. -/
def KeepsGroups : DbOp → Prop
  | .groups o => o.IsRead
  | _ => True

/-- The call does not touch the users. -/
def KeepsUsers : DbOp → Prop
  | .users o => o.IsRead
  | _ => True

/-- The call does not touch the devices. -/
def KeepsDevices : DbOp → Prop
  | .devices o => o.IsRead
  | _ => True

/-- The call changes nothing. -/
def IsRead : DbOp → Prop
  | .users o => o.IsRead
  | .groups o => o.IsRead
  | .devices o => o.IsRead

theorem IsRead.exec {o : DbOp} (h : o.IsRead) (db : Db) : (o.exec db).2 = db := by
  cases o with
  | users o => exact congrArg (fun users => { db with users }) (CollOp.IsRead.exec_snd h db.users)
  | groups o =>
    exact congrArg (fun groups => { db with groups }) (CollOp.IsRead.exec_snd h db.groups)
  | devices o =>
    exact congrArg (fun devices => { db with devices }) (CollOp.IsRead.exec_snd h db.devices)

theorem KeepsGroups.exec {o : DbOp} (h : o.KeepsGroups) (db : Db) :
    (o.exec db).2.groups = db.groups := by
  cases o with
  | groups o => exact CollOp.IsRead.exec_snd h db.groups
  | _ => rfl

theorem KeepsUsers.exec {o : DbOp} (h : o.KeepsUsers) (db : Db) :
    (o.exec db).2.users = db.users := by
  cases o with
  | users o => exact CollOp.IsRead.exec_snd h db.users
  | _ => rfl

theorem KeepsDevices.exec {o : DbOp} (h : o.KeepsDevices) (db : Db) :
    (o.exec db).2.devices = db.devices := by
  cases o with
  | devices o => exact CollOp.IsRead.exec_snd h db.devices
  | _ => rfl

end DbOp

/-- Asynchronous functions over the database. -/
abbrev DbM (α : Type) : Type := Prog DbOp DbOp.Res JsError α

namespace Db

/-- `db.users.findOne({email})` -/
def findUser (email : String) : DbM (Option User) := .perform (DbOp.users (CollOp.findOne email))

/-- `db.users.find(q)` -/
def findUsers (q : User → Bool) : DbM (List User) := .perform (DbOp.users (CollOp.find q))

/-- `db.users.findOneAndUpdate({email}, f)`: the document before and after. -/
def updateUser (email : String) (f : UserChange) : DbM (Option (User × User)) :=
  .perform (DbOp.users (CollOp.update email f))

/-- `db.users.insertOne(user)` -/
def insertUser (user : User) : DbM Bool := .perform (DbOp.users (CollOp.insert user))

/-- `db.users.findOneAndDelete({email})` -/
def deleteUser (email : String) : DbM (Option User) := .perform (DbOp.users (CollOp.delete email))

/-- `db.groups.findOne({id})` -/
def findGroup (id : String) : DbM (Option Group) := .perform (DbOp.groups (CollOp.findOne id))

/-- `db.groups.find(q)` -/
def findGroups (q : Group → Bool) : DbM (List Group) := .perform (DbOp.groups (CollOp.find q))

/-- `db.groups.findOneAndUpdate({id}, f)`: the document before and after. -/
def updateGroup (id : String) (f : GroupChange) : DbM (Option (Group × Group)) :=
  .perform (DbOp.groups (CollOp.update id f))

/-- `db.groups.insertOne(group)` -/
def insertGroup (group : Group) : DbM Bool := .perform (DbOp.groups (CollOp.insert group))

/-- `db.groups.deleteOne({id})` -/
def deleteGroup (id : String) : DbM (Option Group) := .perform (DbOp.groups (CollOp.delete id))

/-- `db.devices.findOne({serial})` -/
def findDevice (serial : String) : DbM (Option Device) :=
  .perform (DbOp.devices (CollOp.findOne serial))

/-- `db.devices.find(q)` -/
def findDevices (q : Device → Bool) : DbM (List Device) :=
  .perform (DbOp.devices (CollOp.find q))

/-- `db.devices.updateOne({serial}, f)` -/
def updateDevice (serial : String) (f : DeviceChange) : DbM (Option (Device × Device)) :=
  .perform (DbOp.devices (CollOp.update serial f))

/-- `db.devices.updateMany({serial: {$in: serials}}, f)` -/
def updateDevices (serials : List String) (f : DeviceChange) : DbM Nat :=
  .perform (DbOp.devices (CollOp.updateMany (fun d => d.serial ∈ serials) f))

/-- `db.devices.deleteOne({serial})` -/
def deleteDevice (serial : String) : DbM (Option Device) :=
  .perform (DbOp.devices (CollOp.delete serial))

/-! ### The calls of a program that runs alone -/

section Runs

open Prog

variable {α : Type} {db db' : Db} {r : Except JsError α}

theorem runs_findUser {email : String} {k : Option User → DbM α} :
    ((findUser email).bind k).Runs DbOp.exec db r db' ↔
      (k (db.users.findOne email)).Runs DbOp.exec db r db' := Iff.rfl

theorem runs_updateUser {email : String} {f : UserChange} {k : Option (User × User) → DbM α} :
    ((updateUser email f).bind k).Runs DbOp.exec db r db' ↔
      (k ((db.users.findOne email).map fun u => (u, f.apply u))).Runs DbOp.exec
        (DbOp.exec (.users (.update email f)) db).2 r db' := Iff.rfl

theorem runs_findUsers {q : User → Bool} {k : List User → DbM α} :
    ((findUsers q).bind k).Runs DbOp.exec db r db' ↔
      (k (db.users.docs.filter q)).Runs DbOp.exec db r db' := Iff.rfl

theorem runs_insertUser {user : User} {k : Bool → DbM α} :
    ((insertUser user).bind k).Runs DbOp.exec db r db' ↔
      (k (decide (key user ∉ db.users.docs.map key))).Runs DbOp.exec
        (DbOp.exec (.users (.insert user)) db).2 r db' := Iff.rfl

theorem runs_deleteUser {email : String} {k : Option User → DbM α} :
    ((deleteUser email).bind k).Runs DbOp.exec db r db' ↔
      (k (db.users.findOne email)).Runs DbOp.exec
        (DbOp.exec (.users (.delete email)) db).2 r db' := Iff.rfl

theorem runs_findGroup {id : String} {k : Option Group → DbM α} :
    ((findGroup id).bind k).Runs DbOp.exec db r db' ↔
      (k (db.groups.findOne id)).Runs DbOp.exec db r db' := Iff.rfl

theorem runs_findGroups {q : Group → Bool} {k : List Group → DbM α} :
    ((findGroups q).bind k).Runs DbOp.exec db r db' ↔
      (k (db.groups.docs.filter q)).Runs DbOp.exec db r db' := Iff.rfl

theorem runs_updateGroup {id : String} {f : GroupChange} {k : Option (Group × Group) → DbM α} :
    ((updateGroup id f).bind k).Runs DbOp.exec db r db' ↔
      (k ((db.groups.findOne id).map fun g => (g, f.apply g))).Runs DbOp.exec
        (DbOp.exec (.groups (.update id f)) db).2 r db' := Iff.rfl

theorem runs_insertGroup {group : Group} {k : Bool → DbM α} :
    ((insertGroup group).bind k).Runs DbOp.exec db r db' ↔
      (k (decide (key group ∉ db.groups.docs.map key))).Runs DbOp.exec
        (DbOp.exec (.groups (.insert group)) db).2 r db' := Iff.rfl

theorem runs_deleteGroup {id : String} {k : Option Group → DbM α} :
    ((deleteGroup id).bind k).Runs DbOp.exec db r db' ↔
      (k (db.groups.findOne id)).Runs DbOp.exec
        (DbOp.exec (.groups (.delete id)) db).2 r db' := Iff.rfl

theorem runs_findDevice {serial : String} {k : Option Device → DbM α} :
    ((findDevice serial).bind k).Runs DbOp.exec db r db' ↔
      (k (db.devices.findOne serial)).Runs DbOp.exec db r db' := Iff.rfl

theorem runs_findDevices {q : Device → Bool} {k : List Device → DbM α} :
    ((findDevices q).bind k).Runs DbOp.exec db r db' ↔
      (k (db.devices.docs.filter q)).Runs DbOp.exec db r db' := Iff.rfl

theorem runs_updateDevices {serials : List String} {f : DeviceChange} {p : DbM α} :
    ((updateDevices serials f).bind fun _ => p).Runs DbOp.exec db r db' ↔
      p.Runs DbOp.exec (DbOp.exec (.devices (.updateMany (fun d => d.serial ∈ serials) f)) db).2 r
        db' := Iff.rfl

theorem runs_updateDevices_count {serials : List String} {f : DeviceChange} {k : Nat → DbM α} :
    ((updateDevices serials f).bind k).Runs DbOp.exec db r db' ↔
      (k (db.devices.docs.filter fun d => d.serial ∈ serials).length).Runs DbOp.exec
        (DbOp.exec (.devices (.updateMany (fun d => d.serial ∈ serials) f)) db).2 r db' := Iff.rfl

theorem runs_deleteDevice {serial : String} {k : Option Device → DbM α} :
    ((deleteDevice serial).bind k).Runs DbOp.exec db r db' ↔
      (k (db.devices.findOne serial)).Runs DbOp.exec
        (DbOp.exec (.devices (.delete serial)) db).2 r db' := Iff.rfl

end Runs

end Db

end DeviceHub

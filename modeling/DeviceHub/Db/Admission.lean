import DeviceHub.Db.GroupModel

/-!
# Users who come and go

The functions of `db/models/user/model.js` that create and delete users, and the function of
`db/models/group/model.js` that makes every administrator a user of a group.
-/

namespace DeviceHub

namespace GroupModel

open UserModel lodash

/-- The groups of which the user is a member. -/
def getGroupsByUser (email : String) : DbM (List Group) := Db.findGroups fun g => email ∈ g.users

/-- The callback for one administrator. -/
def subscribeAdmin (id email : String) : DbM Unit := do
  let oldUser ← loadUser email
  let subscribed := (oldUser.map User.subscribed).getD []
  let _ ← Db.updateUser email (.setSubscribed (subscribed ++ [id]))
  return ()

/-- The administrators who are no users of the group; all of them without a group. -/
def newAdmins (admins : List User) (group : Option Group) : List String :=
  uniq ((admins.map User.email).filter fun email => !group.any (email ∈ ·.users))

/-- The callbacks are started, and nobody waits for them. -/
def addAdminsToGroup (id : String) : DbM (Option (Group × Group)) := do
  let admins ← getAdmins
  let group ← Db.findGroup id
  let adminsEmails := newAdmins admins group
  let newUsers := (group.map Group.users).getD [] ++ adminsEmails
  let (_, stats) ← .par (.all (adminsEmails.map (subscribeAdmin id))) do
    let stats ← Db.updateGroup id (.setUsers newUsers)
    let _ ← sendGroupChange group
    return stats
  return stats

end GroupModel

namespace UserModel

open GroupModel

/-- The fields of the root group that only `createUser` reads. -/
structure EnvQuotas where
  envUserGroupsNumber : Int
  envUserGroupsDuration : Int
  envUserGroupsRepetitions : Int

/-- The document that `createUser` inserts. -/
def newUserDoc (env : EnvQuotas) (adminUser : Option User) (email name : String)
    (privilege : Option Privilege) : User where
  email := email
  name := name
  privilege := privilege.getD (if adminUser.isSome then .user else .admin)
  subscribed := []
  lock := false
  quotas :=
    match adminUser with
    | some admin =>
      { allocated := ⟨admin.quotas.defaultGroupsNumber, admin.quotas.defaultGroupsDuration⟩
        consumed := ⟨0, 0⟩
        defaultGroupsNumber := 0
        defaultGroupsDuration := 0
        defaultGroupsRepetitions := 0
        repetitions := admin.quotas.defaultGroupsRepetitions }
    | none =>
      { allocated := ⟨env.envUserGroupsNumber, env.envUserGroupsDuration⟩
        consumed := ⟨0, 0⟩
        defaultGroupsNumber := env.envUserGroupsNumber
        defaultGroupsDuration := env.envUserGroupsDuration
        defaultGroupsRepetitions := env.envUserGroupsRepetitions
        repetitions := env.envUserGroupsRepetitions }

/-- A new user is inserted, with the quotas of the environment and the privilege asked for. -/
def createUser (env : EnvQuotas) (email name : String) (privilege : Option Privilege) :
    DbM (Option User) := do
  let rootGroup ← getRootGroup
  let adminUser ← loadUser rootGroup.owner.email
  let inserted ← Db.insertUser (newUserDoc env adminUser email name privilege)
  if !inserted then throw .duplicateKey
  else
    let _ ← addGroupUser rootGroup.id email
    loadUser email

/-- The handler's first statements change the document: without one they throw. -/
def deleteUser (email : String) : DbM Nat := do
  match ← Db.deleteUser email with
  | none => throw .typeError
  | some _ => return 1

end UserModel

end DeviceHub

import DeviceHub.Db.GroupModel

/-!
# `db/models/team/model.js`

A team makes each of its users a member of each of its groups.  The teams are a collection of their
own; its calls (`TeamOp`) stand beside those of the other collections.
-/

namespace DeviceHub

/-- A document of `teams`. -/
structure Team where
  id : String
  name : String
  groups : List String
  users : List String
  deriving DecidableEq, Repr

instance : Keyed Team String := ⟨Team.id⟩

@[simp] theorem Team.key_eq (t : Team) : key t = t.id := rfl

/-- The updates of a team. -/
inductive TeamChange where
  /-- `$addToSet: {groups: group}` -/
  | pushGroup (group : String)
  /-- `$pull: {groups: group}` and `$pullAll: {groups: groups}` -/
  | pullGroups (groups : List String)
  /-- `$addToSet: {users: user}` -/
  | pushUser (user : String)
  /-- `$pull: {users: user}` and `$pullAll: {users: users}` -/
  | pullUsers (users : List String)
  deriving DecidableEq, Repr

/-- What a change makes of a team. -/
def TeamChange.apply : TeamChange → Team → Team
  | .pushGroup group, t => { t with groups := addToSet t.groups group }
  | .pullGroups groups, t => { t with groups := t.groups.filter (· ∉ groups) }
  | .pushUser user, t => { t with users := addToSet t.users user }
  | .pullUsers users, t => { t with users := t.users.filter (· ∉ users) }

@[simp] theorem TeamChange.id_apply (f : TeamChange) (t : Team) : (f.apply t).id = t.id := by
  cases f <;> rfl

instance : Updates TeamChange Team where
  effect f := ⟨f.apply, fun t => f.id_apply t⟩

@[simp] theorem TeamChange.effect_apply (f : TeamChange) : (effect f).apply = f.apply := rfl

/-- The database with the teams. -/
structure TeamDb where
  teams : Collection Team
  db : Db

/-- The atomic calls. -/
inductive TeamOp where
  | teams (o : CollOp Team TeamChange String)
  | db (o : DbOp)

namespace TeamOp

/-- What an operation returns. -/
@[reducible] def Res : TeamOp → Type
  | .teams o => o.Res
  | .db o => o.Res

/-- What an operation returns, and the database after it. -/
def exec : (o : TeamOp) → TeamDb → o.Res × TeamDb
  | .teams o, s => ((o.exec s.teams).1, { s with teams := (o.exec s.teams).2 })
  | .db o, s => ((o.exec s.db).1, { s with db := (o.exec s.db).2 })

end TeamOp

/-- Asynchronous functions over the database with the teams. -/
abbrev TeamM (α : Type) : Type := Prog TeamOp TeamOp.Res JsError α

/-- A function that does not know of the teams. -/
def TeamM.lift {α : Type} : DbM α → TeamM α
  | .ret a => .ret a
  | .fail e => .fail e
  | .act o k => .act (.db o) fun r => lift (k r)
  | .alt p q => .alt (lift p) (lift q)

namespace TeamModel

/-- A user is added to a group. -/
def addGroupUser (id email : String) : TeamM String := .lift (GroupModel.addGroupUser id email)

/-- A user is taken out of a group. -/
def removeGroupUser (id email : String) : TeamM String :=
  .lift (GroupModel.removeGroupUser id email)

/-- The team with this number, if it is stored. -/
def getTeamById (id : String) : TeamM (Option Team) :=
  .perform (TeamOp.teams (CollOp.findOne id))

/-- `db.teams.findOneAndUpdate({id: teamId}, f)` and `db.teams.updateMany({id: teamId}, f)`: a team
has an id of its own. -/
def updateTeam (teamId : String) (f : TeamChange) : TeamM (Option (Team × Team)) :=
  .perform (TeamOp.teams (CollOp.update teamId f))

/-- Without a team the loops run over `undefined`. -/
def updateGroupsAndUsers (teamId : String) : TeamM Unit := do
  match ← getTeamById teamId with
  | none => throw .typeError
  | some team =>
    let _ ← Prog.each (fun group => Prog.each (addGroupUser group) team.users) team.groups
    return ()

/-- All users of the team are taken out of all its groups. -/
def removeGroupsAndUsers (teamId : String) : TeamM Unit := do
  match ← getTeamById teamId with
  | none => throw .typeError
  | some team =>
    let _ ← Prog.each (fun groupId => Prog.each (removeGroupUser groupId) team.users) team.groups
    return ()

/-- A user is taken out of all groups of the team. -/
def removeUserFromTeamGroups (teamId user : String) : TeamM Unit := do
  match ← getTeamById teamId with
  | none => throw .typeError
  | some team =>
    let _ ← Prog.each (fun group => removeGroupUser group user) team.groups
    return ()

/-- All users of the team are taken out of a group. -/
def removeGroupFromTeamUsers (teamId group : String) : TeamM Unit := do
  match ← getTeamById teamId with
  | none => throw .typeError
  | some team =>
    let _ ← Prog.each (fun user => removeGroupUser group user) team.users
    return ()

/-- `teamId` is the generated identifier. -/
def createTeam (teamId name : String) (groups users : List String) : TeamM (Option Team) := do
  let _ ← Prog.perform (TeamOp.teams (CollOp.insert ⟨teamId, name, groups, users⟩))
  updateGroupsAndUsers teamId
  getTeamById teamId

/-- A group is added to the team, and its users to the group. -/
def addGroupToTeam (teamId group : String) : TeamM (Option Team) := do
  let result ← updateTeam teamId (.pushGroup group)
  updateGroupsAndUsers teamId
  return result.map (·.1)

/-- A group is taken out of the team, and its users out of the group. -/
def removeGroupFromTeam (teamId group : String) : TeamM (Option Team) := do
  let result ← updateTeam teamId (.pullGroups [group])
  removeGroupFromTeamUsers teamId group
  return result.map (·.1)

/-- The answer is the number of documents matched. -/
def removeGroupsFromTeam (teamId : String) (groups : List String) : TeamM Nat := do
  let result ← updateTeam teamId (.pullGroups groups)
  let _ ← Prog.each (removeGroupFromTeamUsers teamId) groups
  return result.toList.length

/-- A user is added to the team, and to its groups. -/
def addUserToTeam (teamId user : String) : TeamM (Option Team) := do
  let result ← updateTeam teamId (.pushUser user)
  updateGroupsAndUsers teamId
  return result.map (·.1)

/-- A user is taken out of the team, and out of its groups. -/
def removeUserFromTeam (teamId user : String) : TeamM (Option Team) := do
  let result ← updateTeam teamId (.pullUsers [user])
  removeUserFromTeamGroups teamId user
  return result.map (·.1)

/-- Users are taken out of the team, and out of its groups. -/
def removeUsersFromTeam (teamId : String) (users : List String) : TeamM Nat := do
  let result ← updateTeam teamId (.pullUsers users)
  let _ ← Prog.each (removeUserFromTeamGroups teamId) users
  return result.toList.length

/-- The users of the team are taken out of its groups, and the team is deleted. -/
def deleteTeam (id : String) : TeamM (Option Team) := do
  removeGroupsAndUsers id
  Prog.perform (TeamOp.teams (CollOp.delete id))

end TeamModel

end DeviceHub

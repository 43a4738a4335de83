import DeviceHub.Db.Admission

/-!
# `units/api/controllers/users.js`

The removal of a user: first its groups are deleted, and it is removed from the groups of others.
-/

namespace DeviceHub

namespace users

open AllModel UserModel

/-- What `removeUser` answers. -/
inductive Removal where
  | notFound | forbidden | unchanged | deleted
  deriving DecidableEq, Repr

/-- The inner `removeGroupUser(owner, id)`. -/
def removeGroupUser (email owner id : String) : DbM String := do
  match ← GroupModel.getUserGroup owner id with
  | none => return "not found"
  | some _ =>
    if owner = email then
      match ← GroupModel.deleteUserGroup id with
      | .deleted => return "deleted"
      | .forbidden => return "forbidden"
    else GroupModel.removeGroupUser id email

/-- The inner `computeUserGroupOwnership(groups)`; `groupOwnerState` is the query parameter. -/
def computeUserGroupOwnership (groupOwnerState : Option Bool) (email : String)
    (groups : List Group) : Bool :=
  match groupOwnerState with
  | none => true
  | some state =>
    if groups.any fun group => !state && group.owner.email = email then false
    else groups.any fun group => !state || group.owner.email = email

/-- The inner `deleteUserInDatabase(channel)`, without the access tokens. -/
def deleteUserInDatabase (email : String) : DbM Removal := do
  let _ ← UserModel.deleteUser email
  return .deleted

/-- The user is locked and stays so. -/
def removeUser (requester : String) (groupOwnerState : Option Bool) (email : String) :
    DbM Removal := do
  match ← loadUser email with
  | none => return .notFound
  | some _ =>
    if requester = email then return .forbidden
    else
      let stats ← lockUser email
      if stats.modifiedCount = 0 then return .notFound
      else match stats.newVal with
      | none => throw .typeError
      | some user =>
        let groups ← GroupModel.getGroupsByUser user.email
        if computeUserGroupOwnership groupOwnerState email groups then
          let _ ← Prog.each (fun group => removeGroupUser email group.owner.email group.id) groups
          deleteUserInDatabase email
        else return .unchanged

end users

end DeviceHub

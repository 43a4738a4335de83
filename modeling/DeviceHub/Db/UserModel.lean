import DeviceHub.Db.Calls

/-!
# `db/models/user/model.js`

The functions of the user model that the group functions call: the quota accounting and the
lock on a user.
-/

namespace DeviceHub

open apiutil

/-- The statistics of an update, as the model functions report them. -/
structure Stats where
  modifiedCount : Nat
  matchedCount : Nat
  deriving DecidableEq, Repr

namespace UserModel

/-- The user with this email, if they are stored. -/
def loadUser (email : String) : DbM (Option User) := Db.findUser email

/-- All users. -/
def getUsers : DbM (List User) := Db.findUsers fun _ => true

/-- The users that are admins. -/
def getAdmins : DbM (List User) := Db.findUsers fun u => u.privilege = .admin

/-- `UserChangeHandler.updateUserHandler(oldUser, newUser)`: whether the two documents
differ. -/
def updateUserHandler (oldUser newUser : Option User) : Bool := newUser ≠ oldUser

/-! ### Quotas -/

/-- The number of groups of the user grows by one, if the quota allows it. -/
def reserveUserGroupInstance (email : String) : DbM Stats := do
  let oldUser ← loadUser email
  let newUser ← Db.updateUser email .reserveNumber
  let userModifided := updateUserHandler oldUser (newUser.map (·.2))
  return { modifiedCount := if userModifided then 1 else 0, matchedCount := 0 }

/-- The number of groups of the user goes down by one. -/
def releaseUserGroupInstance (email : String) : DbM Stats := do
  let oldUser ← loadUser email
  let newUser ← Db.updateUser email .releaseNumber
  let userModifided := updateUserHandler oldUser (newUser.map (·.2))
  return { modifiedCount := if userModifided then 1 else 0, matchedCount := 0 }

/-- The user is charged for another duration, if the quota allows it. -/
def updateUserGroupDuration (email : String) (oldDuration newDuration : Int) : DbM Stats := do
  let oldUser ← loadUser email
  let newUser ← Db.updateUser email (.chargeDuration oldDuration newDuration)
  let userModifided := newUser.isSome && updateUserHandler oldUser (newUser.map (·.2))
  let userMatching := oldUser.isSome
  return { modifiedCount := if userModifided then 1 else 0,
           matchedCount := if userMatching then 1 else 0 }

/-- A query parameter as a condition sees it: `undefined`, `null` and `0` are falsy. -/
def truthy (x : Option Int) : Option Int := x.filter (· ≠ 0)

/-- The value stored in `groups.quotas.allocated.duration` by `updateUserGroupsQuotas`. -/
def allocatedDuration (oldUser : User) (duration number : Option Int) : Int :=
  match truthy duration with
  | some d =>
    if oldUser.quotas.consumed.duration ≤ d ∧
        ∀ n ∈ truthy number, oldUser.quotas.consumed.number ≤ n then d
    else oldUser.quotas.allocated.duration
  | none => oldUser.quotas.allocated.duration

/-- The value stored in `groups.quotas.allocated.number` by `updateUserGroupsQuotas`. -/
def allocatedNumber (oldUser : User) (duration number : Option Int) : Int :=
  match truthy number with
  | some n =>
    if oldUser.quotas.consumed.number ≤ n ∧
        ∀ d ∈ truthy duration, oldUser.quotas.consumed.duration ≤ d then n
    else oldUser.quotas.allocated.number
  | none => oldUser.quotas.allocated.number

/-- A user that is not found has no document to update either, unless it is created between
the two calls; its quotas then are set to nothing, which the model leaves out. -/
def updateUserGroupsQuotas (email : String) (duration number repetitions : Option Int) :
    DbM Stats := do
  match ← Db.findUser email with
  | none => return { modifiedCount := 0, matchedCount := 0 }
  | some oldUser =>
    let newUser ← Db.updateUser email
      (.setQuotas (allocatedDuration oldUser duration number)
        (allocatedNumber oldUser duration number)
        ((truthy repetitions).getD oldUser.quotas.repetitions))
    let userModifided := newUser.isSome && updateUserHandler oldUser (newUser.map (·.2))
    return { modifiedCount := if userModifided then 1 else 0, matchedCount := 0 }

/-! ### The lock on a user -/

/-- What `setLockOnUser` reports: the statistics of the update and the document read after
it. -/
structure LockStats where
  modifiedCount : Nat
  matchedCount : Nat
  newVal : Option User
  deriving DecidableEq, Repr

/-- The lock of the user is set to the state. -/
def setLockOnUser (email : String) (state : Bool) : DbM LockStats := do
  match ← Db.findUser email with
  | none => throw .notFound
  | some _ =>
    let stats ← Db.updateUser email (.setLock state)
    let newDoc ← Db.findUser email
    return { modifiedCount := if stats.any fun s => s.1 ≠ s.2 then 1 else 0,
             matchedCount := if stats.isSome then 1 else 0, newVal := newDoc }

end UserModel

/-- `apiutil.lockResult(stats).status` -/
def apiutil.lockResult (stats : UserModel.LockStats) : Bool :=
  0 < stats.modifiedCount || 0 < stats.matchedCount

/-- `apiutil.setIntervalWrapper(fn, numTimes, delay)` for the lock on a user. -/
def apiutil.setIntervalWrapper (fn : DbM UserModel.LockStats) : Nat → DbM UserModel.LockStats
  | 0 => throw .notLocked
  | numTimes + 1 => do
    let stats ← fn
    if lockResult stats then return stats
    else setIntervalWrapper fn numTimes

namespace AllModel

/-- The user is locked; ten attempts are made. -/
def lockUser (email : String) : DbM UserModel.LockStats :=
  setIntervalWrapper (UserModel.setLockOnUser email true) 10

/-- The lock of the user is taken off. -/
def unlockUser (email : String) : DbM UserModel.LockStats := UserModel.setLockOnUser email false

end AllModel

end DeviceHub

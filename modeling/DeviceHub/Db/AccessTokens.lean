import DeviceHub.Async.Lift
import DeviceHub.Db.Admission
import DeviceHub.Db.TeamModel

/-!
# The access tokens, and who logs in

The collection `accessTokens` stands beside the teams and the other collections.  Its calls are
those of `db/models/all/model.js`; `saveUserAfterLogin` of `db/models/user/model.js` updates a user
who logs in, or creates the user.

## Main definitions

* `AccountDb`, `AccountOp`, `AccountM` : the database with the access tokens, its calls and the
  functions over it; `AccountDb.main` is the part that the other models work on.
-/

namespace DeviceHub

open Prog

/-- A document of `accessTokens`. -/
structure AccessToken where
  id : String
  email : String
  title : String
  jwt : String
  deriving DecidableEq, Repr

instance : Keyed AccessToken String := ⟨AccessToken.id⟩

@[simp] theorem AccessToken.key_eq (t : AccessToken) : key t = t.id := rfl

/-- The database with the access tokens. -/
@[ext] structure AccountDb extends TeamDb where
  accessTokens : Collection AccessToken

/-- The tokens that are not of the user. -/
def Collection.withoutEmail (c : Collection AccessToken) (email : String) :
    Collection AccessToken :=
  ⟨c.docs.filter fun t => t.email ≠ email, c.nodup.sublist (List.filter_sublist.map key)⟩

/-- `$set: {name, ip, lastLoggedInAt, privilege}` of a user, the privilege if there is one. -/
def loginUpdate (name : String) (privilege : Option Privilege) : Update User where
  apply u := { u with name := name, privilege := privilege.getD u.privilege }
  key_apply _ := rfl

/-- The atomic calls. -/
inductive AccountOp where
  /-- `db.accessTokens.findOne({id})` -/
  | findToken (id : String)
  /-- `db.accessTokens.deleteMany({email})` -/
  | deleteTokens (email : String)
  /-- `db.users.updateOne({email}, {$set})` for a user who logs in: whether a user was modified. -/
  | login (email name : String) (privilege : Option Privilege)
  | team (o : TeamOp)

namespace AccountOp

/-- What an operation returns. -/
@[reducible] def Res : AccountOp → Type
  | .findToken _ => Option AccessToken
  | .deleteTokens _ => Unit
  | .login _ _ _ => Bool
  | .team o => o.Res

/-- What an operation returns, and the database after it. -/
def exec : (o : AccountOp) → AccountDb → o.Res × AccountDb
  | .findToken id, s => (s.accessTokens.findOne id, s)
  | .deleteTokens email, s => ((), { s with accessTokens := s.accessTokens.withoutEmail email })
  -- the time of the login is set as well, so that a user who is found is modified
  | .login email name privilege, s =>
    ((s.db.users.findOne email).isSome,
      { s with db.users := s.db.users.update email (loginUpdate name privilege) })
  | .team o, s => ((o.exec s.toTeamDb).1, { s with toTeamDb := (o.exec s.toTeamDb).2 })

end AccountOp

/-- Asynchronous functions over the database with the access tokens. -/
abbrev AccountM (ε α : Type) : Type := Prog AccountOp AccountOp.Res ε α

/-- The collections that the other models work on. -/
def AccountDb.main : Part DbOp.exec AccountOp.exec where
  op o := .team (.db o)
  answer _ r := r
  get s := s.db
  set db s := { s with db := db }
  get_set _ _ := rfl
  set_get _ := rfl
  set_set _ _ _ := rfl
  exec_op _ _ := rfl
  answer_op _ _ := rfl

@[simp] theorem AccountDb.main_get (s : AccountDb) : AccountDb.main.get s = s.db := rfl

@[simp] theorem AccountDb.main_set (db : Db) (s : AccountDb) :
    AccountDb.main.set db s = { s with db := db } := rfl

namespace AccountModel

variable {ε : Type}

/-- The token with this number, if it is stored. -/
def loadAccessTokenById (id : String) : AccountM ε (Option AccessToken) :=
  .perform (AccountOp.findToken id)

/-- All tokens of a user are deleted. -/
def removeUserAccessTokens (email : String) : AccountM ε Unit :=
  .perform (AccountOp.deleteTokens email)

/-- A function of the other models; `error` says which exception of this one is one of theirs. -/
def lift {α : Type} (error : JsError → ε) (p : DbM α) : AccountM ε α := AccountDb.main.lift error p

/-- The answer, the statistics of an update or of an insertion, is not used. -/
def saveUserAfterLogin (error : JsError → ε) (env : UserModel.EnvQuotas) (email name : String)
    (privilege : Option Privilege) : AccountM ε Unit := do
  let modified ← Prog.perform (AccountOp.login email name privilege)
  if modified then return ()
  else
    let _ ← lift error (UserModel.createUser env email name privilege)
    return ()

section Runs

variable {α β : Type} {s s' : AccountDb} {r : Except ε α} {error : JsError → ε}

theorem runs_loadAccessTokenById {id : String} {k : Option AccessToken → AccountM ε α} :
    ((loadAccessTokenById id).bind k).Runs AccountOp.exec s r s' ↔
      (k (s.accessTokens.findOne id)).Runs AccountOp.exec s r s' := Iff.rfl

theorem runs_removeUserAccessTokens {email : String} {k : Unit → AccountM ε α} :
    ((removeUserAccessTokens email).bind k).Runs AccountOp.exec s r s' ↔
      (k ()).Runs AccountOp.exec { s with accessTokens := s.accessTokens.withoutEmail email } r
        s' := Iff.rfl

theorem runs_lift {p : DbM α} : (lift error p).Runs AccountOp.exec s r s' ↔
    ∃ r' db', p.Runs DbOp.exec s.db r' db' ∧ r = r'.mapError error ∧ s' = { s with db := db' } :=
  AccountDb.main.runs_lift

theorem runs_lift_bind {p : DbM β} {k : β → AccountM ε α} :
    ((lift error p).bind k).Runs AccountOp.exec s r s' ↔
      (∃ a db', p.Runs DbOp.exec s.db (.ok a) db' ∧
        (k a).Runs AccountOp.exec { s with db := db' } r s') ∨
        ∃ e db', p.Runs DbOp.exec s.db (.error e) db' ∧ r = .error (error e) ∧
          s' = { s with db := db' } :=
  AccountDb.main.runs_lift_bind

theorem lift_each {p : β → DbM α} {l : List β} :
    Prog.each (fun b => lift error (p b)) l = lift error (Prog.each p l) :=
  (AccountDb.main.lift_each error p l).symm

theorem runs_loadUser {email : String} {k : Option User → AccountM ε α} :
    ((lift error (UserModel.loadUser email)).bind k).Runs AccountOp.exec s r s' ↔
      (k (s.db.users.findOne email)).Runs AccountOp.exec s r s' := Iff.rfl

end Runs

end AccountModel

end DeviceHub

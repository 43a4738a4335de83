import DeviceHub.Api.Groups
import DeviceHub.Async.Rely
import DeviceHub.Db.Ops
import DeviceHub.Db.Sample
import DeviceHub.Db.Outcomes
import Mathlib.Tactic.Set

/-!
# Who may change a group

Every controller looks its group up and asks `hasGroupEditPermission` before it changes anything,
with two exceptions: `removeGroupUsers` asks nothing, and `addGroupDevices` runs the request of a
member who may not edit the group again as the group's owner.

## Main definitions

* `Fate` : what a request may do to a stored group.
* `Permitted` : the relation between the databases before and after a request that does no more.
* `GroupRequest`, `OnlyAuthorized` : the requests, and what is to hold of them.
* `Escalates` : the request changes a group that the requester may not edit.

## Main results

* `deleteGroups_permitted`, `addSelectedDevices_permitted` : what the controllers do after their
  check.
* `onlyAuthorized_iff` : a request changes only what the requester may edit, unless it escalates.
-/

namespace DeviceHub

open Prog apiutil lodash

/-! ### Permissions -/

theorem apiutil.hasGroupEditPermission_congr {g g' : Group} {user : User}
    (h : g'.owner = g.owner) :
    hasGroupEditPermission g' user false = hasGroupEditPermission g user false := by
  simp [hasGroupEditPermission, h]

theorem apiutil.hasGroupEditPermission_mono {g : Group} {user : User}
    (h : hasGroupEditPermission g user false = true) : hasGroupEditPermission g user = true := by
  simp only [hasGroupEditPermission, Bool.false_and, Bool.or_false] at h
  simp [hasGroupEditPermission, h]

/-- What a request of `user` may do to a stored group: nothing, change it, or delete it. -/
inductive Fate (user : User) (may : Prop) : Option Group → Option Group → Prop
  | same (g : Option Group) : Fate user may g g
  | edited {g g' : Group} (h : may) (howner : g'.owner = g.owner) : Fate user may (some g) (some g')
  | deleted {g : Group} (h : hasGroupEditPermission g user false = true) :
    Fate user may (some g) none

theorem Fate.trans {user : User} {may : Prop} {a b c : Option Group} (h : Fate user may a b)
    (h' : Fate user may b c) : Fate user may a c := by
  cases h with
  | same => exact h'
  | deleted h =>
    cases h'
    exact .deleted h
  | edited h howner =>
    cases h' with
    | same => exact .edited h howner
    | edited _ howner' => exact .edited h (howner'.trans howner)
    | deleted hdel => exact .deleted ((hasGroupEditPermission_congr howner).symm.trans hdel)

/-- Requests of `user` that may change the groups `may`. -/
def Permitted (user : User) (may : String → Prop) : Rely Db where
  may db db' := ∀ id, Fate user (may id) (db.groups.findOne id) (db'.groups.findOne id)
  refl _ _ := .same _
  trans _ _ _ h h' id := (h id).trans (h' id)

/-! ### Calls that change one group -/

namespace DbOp

/-- The call changes no group but `id`, and deletes none. -/
def Edits (id : String) : DbOp → Prop
  | .groups (.update k _) => k = id
  | .groups o => o.IsRead
  | _ => True

/-- The call changes no group, except that it may delete `id`. -/
def Deletes (id : String) : DbOp → Prop
  | .groups (.delete k) => k = id
  | .groups o => o.IsRead
  | _ => True

theorem KeepsGroups.edits {o : DbOp} (h : o.KeepsGroups) (id : String) : o.Edits id := by
  cases o with
  | groups o => cases o <;> trivial
  | _ => trivial

theorem KeepsGroups.deletes {o : DbOp} (h : o.KeepsGroups) (id : String) : o.Deletes id := by
  cases o with
  | groups o => cases o <;> trivial
  | _ => trivial

theorem Edits.permitted {id : String} {o : DbOp} (h : o.Edits id) (user : User) (db : Db) :
    (Permitted user (· = id)).may db (o.exec db).2 := by
  intro id'
  cases o with
  | users o => exact .same _
  | devices o => exact .same _
  | groups o =>
    cases o with
    | findOne k => exact .same _
    | find q => exact .same _
    | update k f =>
      obtain rfl : k = id := h
      simp only [exec, CollOp.exec]
      by_cases hid : id' = k
      · subst hid
        cases hg : db.groups.findOne id' with
        | none =>
          rw [Collection.update_of_findOne_none _ hg, hg]
          exact .same _
        | some g =>
          rw [Collection.findOne_update_self _ hg]
          exact .edited rfl (by simp)
      · rw [Collection.findOne_update_ne _ hid]
        exact .same _
    | updateMany q f => exact h.elim
    | insert g => exact h.elim
    | delete k => exact h.elim

/-- A call that may delete `id` is permitted to a user who may delete `id`. -/
theorem Deletes.findOne {id : String} {o : DbOp} (h : o.Deletes id) (db : Db) (id' : String) :
    (o.exec db).2.groups.findOne id' = db.groups.findOne id' ∨
      id' = id ∧ (o.exec db).2.groups.findOne id' = none := by
  cases o with
  | users o => exact .inl rfl
  | devices o => exact .inl rfl
  | groups o =>
    cases o with
    | findOne k => exact .inl rfl
    | find q => exact .inl rfl
    | delete k =>
      obtain rfl : k = id := h
      by_cases hid : id' = k
      · subst hid
        exact .inr ⟨rfl, Collection.findOne_delete_self _ _⟩
      · exact .inl (Collection.findOne_delete_ne hid)
    | update k f => exact h.elim
    | updateMany q f => exact h.elim
    | insert g => exact h.elim

end DbOp

theorem Prog.Ops.permitted {α : Type} {p : DbM α} {id : String} (hp : p.Ops (DbOp.Edits id))
    (user : User) : p.Within DbOp.exec (Permitted user (· = id)) :=
  Within.of_ops (fun _ db ho => DbOp.Edits.permitted ho user db) hp

/-! ### The controllers -/

section Controllers

open GroupModel UserModel groups

theorem ops_orInternalError {P : DbOp → Prop} {p : DbM (Option Response)} (hp : p.Ops P) :
    (orInternalError p).Ops P := Ops.tryCatch hp fun _ => ops_ret

theorem within_orInternalError {R : Rely Db} {p : DbM (Option Response)}
    (hp : p.Within DbOp.exec R) : (orInternalError p).Within DbOp.exec R :=
  Within.tryCatch hp fun _ => within_ret

theorem deviceOnly_rejectBooked (serials : List String) :
    (rejectBooked serials).Ops DbOp.DeviceOnly := by
  induction serials with
  | nil => trivial
  | cons serial serials ih =>
    refine Ops.bind (Ops.bind (deviceOnly_findGroups _) fun _ => ops_ret) fun booked => ?_
    split
    · trivial
    · exact ih

/-- `removeGroup` deletes the group only if the user may. -/
theorem removeGroup_permitted (user : User) (id : String) (may : String → Prop) :
    (removeGroup user id).Within DbOp.exec (Permitted user may) := by
  intro db r db' hrun
  unfold removeGroup at hrun
  rw [bind_eq] at hrun
  rcases Db.runs_getUserGroup_cases hrun with hrun | ⟨group, hfound, -, hrun⟩
  · exact hrun.2 ▸ (Permitted user may).refl db
  · dsimp only at hrun
    split at hrun
    · exact hrun.2 ▸ (Permitted user may).refl db
    rename_i hperm
    have hperm : hasGroupEditPermission group user false = true := by simpa using hperm
    split at hrun
    · exact hrun.2 ▸ (Permitted user may).refl db
    have hdelete : (deleteUserGroup id).Ops (DbOp.Deletes id) :=
      ops_deleteUserGroup (fun _ ho => ho.1.1.deletes id) rfl (fun _ _ => trivial) (fun _ => trivial)
        fun _ _ => trivial
    have hfate : ∀ {α : Type} {p : DbM α} {r : Except JsError α}, p.Ops (DbOp.Deletes id) →
        p.Runs DbOp.exec db r db' → (Permitted user may).may db db' := by
      intro α p r hp hrun id'
      have hrel := Runs.rel (R := fun db db' : Db => ∀ id', db'.groups.findOne id' =
        db.groups.findOne id' ∨ id' = id ∧ db'.groups.findOne id' = none) (fun _ _ => .inl rfl)
        (fun _ _ _ h h' id' => by
          rcases h' id' with h' | h'
          · rw [h']
            exact h id'
          · exact .inr h') (fun o db (ho : o.Deletes id) => ho.findOne db) hp hrun id'
      rcases hrel with hsame | ⟨rfl, hgone⟩
      · rw [hsame]
        exact .same _
      · rw [hfound, hgone]
        exact .deleted hperm
    split at hrun
    · refine hfate ?_ hrun
      refine Ops.tryCatch (Ops.bind ?_ fun _ => Ops.bind hdelete fun _ => ops_ret) fun e => ?_
      · exact Ops.mono (fun _ ho => ho.1.deletes id) (deviceOnly_rejectBooked _)
      · split <;> trivial
    · exact hfate (Ops.bind hdelete fun _ => ops_ret) hrun

theorem removeGroups_permitted (user : User) (target : String) (ids : List String)
    (may : String → Prop) :
    (removeGroups user target ids).Within DbOp.exec (Permitted user may) := by
  refine Within.tryCatch ?_ fun e => ?_
  · exact Within.bind (Within.each (fun id => removeGroup_permitted user id may) ids)
      fun _ => within_ret
  · split
    · exact within_fail
    · exact within_ret

theorem reads_permitted {α : Type} {p : DbM α} (hp : p.Ops DbOp.DeviceOnly) (user : User)
    (may : String → Prop) : p.Within DbOp.exec (Permitted user may) :=
  Within.of_ops (fun o db (ho : o.DeviceOnly) id => by
    rw [ho.1.exec]
    exact .same _) hp

/-- **What `deleteGroups` does**: it deletes groups that the user may delete, whatever the ids. -/
theorem deleteGroups_permitted (user : User) (ids : Option String) (redirected : Bool)
    (may : String → Prop) :
    (deleteGroups user ids redirected).Within DbOp.exec (Permitted user may) := by
  refine within_orInternalError ?_
  split
  · exact removeGroups_permitted user _ _ may
  · refine Within.bind (reads_permitted ?_ user may) fun groups => removeGroups_permitted user _ _ may
    refine Ops.bind deviceOnly_getRootGroup fun group => ?_
    split
    · exact deviceOnly_findGroups _
    · exact deviceOnly_findGroups _

/-- Adding devices to a group changes that group, or gives it up if the user may delete it. -/
theorem addDevicesToGroup_permitted (user : User) (now : Int) (target : String) (isInternal : Bool)
    (group : Group) (serials : List String) :
    (addDevicesToGroup user now target isInternal group serials).Within DbOp.exec
      (Permitted user (· = group.id)) := by
  have hedits : ∀ o : DbOp, o.DeviceOnly → o.Edits group.id := fun _ ho => ho.1.edits _
  refine Within.tryCatch (Ops.permitted ?_ user) fun err => ?_
  · refine Ops.bind (ops_addGroupDevices (fun o ho => hedits o ho.1) (fun _ => trivial)
      fun _ => rfl) fun newGroup => ?_
    have hdevices : ∀ (q : Device → Bool) (r : Option Response),
        ((Db.findDevices q).bind fun _ => .ret r : DbM (Option Response)).Ops
          (DbOp.Edits group.id) :=
      fun q r => Ops.bind (Ops.mono hedits (deviceOnly_findDevices q)) fun _ => ops_ret
    split
    · refine Ops.bind (Ops.mono hedits (deviceOnly_updateDevices _ _)) fun _ => ?_
      split
      · exact hdevices _ _
      · trivial
    · split
      · exact hdevices _ _
      · trivial
  · split
    · exact Within.bind (deleteGroups_permitted user _ _ _) fun _ => within_ret
    · exact within_ret
    · exact within_ret

theorem addSelectedDevices_permitted (user : User) (now : Int) (sel : DeviceSelection)
    (group : Group) :
    (addSelectedDevices user now sel group).Within DbOp.exec (Permitted user (· = group.id)) := by
  have hreads : ∀ {α : Type} {p : DbM α}, p.Ops DbOp.DeviceOnly →
      p.Within DbOp.exec (Permitted user (· = group.id)) := fun hp => reads_permitted hp user _
  unfold addSelectedDevices
  dsimp only
  split
  · refine Within.bind (hreads (deviceOnly_findGroups _)) fun groups => ?_
    split
    · exact within_fail
    · exact addDevicesToGroup_permitted _ _ _ _ _ _
  · split
    · exact addDevicesToGroup_permitted _ _ _ _ _ _
    · refine Within.bind (hreads (deviceOnly_findDevices _)) fun devices => ?_
      refine Within.bind (hreads (deviceOnly_updateDevices _ _)) fun _ => ?_
      refine Within.bind (Within.tryCatch ?_ fun _ => within_ret) fun response => ?_
      · beta_reduce
        generalize (if sel.redirected = true then "device" else "devices") = target
        split
        · exact addDevicesToGroup_permitted _ _ _ _ _ _
        · exact Within.bind (deleteGroups_permitted user _ _ _) fun _ => within_ret
      · split
        · exact Within.bind (hreads (deviceOnly_updateDevices _ _)) fun _ => within_ret
        · exact within_ret
    · exact within_ret

/-! ### Controllers that change only their group -/

variable {id : String} {P : DbOp → Prop} (hR : ∀ o : DbOp, o.IsRead → P o)

include hR

theorem ops_unlockUser (hl : ∀ email state, P (.users (.update email (.setLock state))))
    (lock : Option User) : (groups.unlockUser lock).Ops P := by
  cases lock with
  | none => trivial
  | some user => exact Ops.detach (ops_setLockOnUser hR (hl _ _))

theorem ops_withUserLock (hl : ∀ email state, P (.users (.update email (.setLock state))))
    (email : String) {fn : DbM String} (hfn : fn.Ops P) : (withUserLock email fn).Ops P := by
  refine Ops.bind (ops_lockUser hR (hl _ _)) fun stats => ?_
  split
  · trivial
  refine Ops.bind (Ops.tryCatch hfn fun e => ?_) fun result => ?_
  · exact Ops.bind (ops_unlockUser hR hl _) fun _ => ops_fail
  · exact Ops.bind (ops_unlockUser hR hl _) fun _ => ops_ret

theorem ops_isRemoveGroupUserAllowed (email : String) (group : Group) :
    (isRemoveGroupUserAllowed email group).Ops P := by
  unfold isRemoveGroupUserAllowed
  split
  · trivial
  · exact Ops.bind (ops_of_isRead hR (isRead_findGroups _)) fun _ => ops_ret

theorem ops_publishGroup (id : String) (response : Response) : (publishGroup id response).Ops P := by
  refine Ops.bind (ops_of_isRead hR (isRead_findGroup id)) fun group => ?_
  cases group <;> trivial

theorem ops_removeOneUser (hl : ∀ email state, P (.users (.update email (.setLock state))))
    {email : String} (hg : P (.groups (.update id (.pullUser email))))
    (hu : P (.users (.update email (.unsubscribe id)))) (group rootGroup : Group) :
    (removeOneUser id email group rootGroup).Ops P := by
  unfold removeOneUser
  split
  · trivial
  split
  · trivial
  refine ops_withUserLock hR hl email (Ops.bind (ops_isRemoveGroupUserAllowed hR _ _) fun allowed => ?_)
  split
  · exact ops_removeGroupUser hR hg hu
  · trivial

theorem ops_addOneUser (hl : ∀ email state, P (.users (.update email (.setLock state))))
    {email : String} (hg : P (.groups (.update id (.pushUser email))))
    (hu : P (.users (.update email (.subscribe id)))) : (addOneUser id email).Ops P := by
  refine Ops.tryCatch (ops_withUserLock hR hl email (ops_addGroupUser hR hg hu)) fun e => ?_
  split <;> trivial

theorem ops_addListedUsers (hl : ∀ email state, P (.users (.update email (.setLock state))))
    (hg : ∀ email, P (.groups (.update id (.pushUser email))))
    (hu : ∀ email, P (.users (.update email (.subscribe id)))) (target : String)
    (emails : List String) : (addListedUsers id target emails).Ops P := by
  refine Ops.bind (Ops.each fun email _ => ops_addOneUser hR hl (hg email) (hu email)) fun results => ?_
  split
  · trivial
  split
  · trivial
  split
  · exact ops_publishGroup hR _ _
  · exact ops_publishGroup hR _ _

omit hR

theorem deviceOnly_checkSchedule (oldGroup : Option Group) (class_ : GroupClass) (email : String)
    (repetitions : Int) (privilege : Privilege) (start stop : JsDate) :
    (checkSchedule oldGroup class_ email repetitions privilege start stop).Ops
      DbOp.DeviceOnly := by
  unfold checkSchedule
  split
  · trivial
  · refine Ops.bind (deviceOnly_findUser email) fun owner => ?_
    split <;> trivial

end Controllers

/-! ### Requests -/

/-- The requests that change groups.  `reruns + 1` bounds how often `addGroupDevices` runs itself
again. -/
inductive GroupRequest where
  | addGroupDevices (id : String) (now : Int) (sel : groups.DeviceSelection) (reruns : Nat)
  | removeGroupDevices (id : String) (serials : Option String) (redirected isInternal : Bool)
  | addGroupUsers (id : String) (emails : Option String) (redirected : Bool)
  | removeGroupUsers (id : String) (emails : Option String) (redirected : Bool)
  | updateGroup (id : String) (isInternal : Bool) (body : groups.GroupBody)
  | deleteGroups (ids : Option String) (redirected : Bool)
  | addGroupModerator (id email : String)
  | removeGroupModerator (id email : String)

/-- The handler that serves the request. -/
def GroupRequest.prog (user : User) : GroupRequest → DbM (Option Response)
  | .addGroupDevices id now sel reruns => groups.addGroupDevices now sel id (reruns + 1) user
  | .removeGroupDevices id serials redirected isInternal =>
    groups.removeGroupDevices user id serials redirected isInternal
  | .addGroupUsers id emails redirected => groups.addGroupUsers user id emails redirected
  | .removeGroupUsers id emails redirected => groups.removeGroupUsers user id emails redirected
  | .updateGroup id isInternal body => groups.updateGroup user id isInternal body
  | .deleteGroups ids redirected => groups.deleteGroups user ids redirected
  | .addGroupModerator id email => groups.addGroupModerator user id email
  | .removeGroupModerator id email => groups.removeGroupModerator user id email

/-- From `db` to `db'` only groups that `user` may edit were changed, and only groups that `user`
may delete were deleted. -/
def Authorized (user : User) (db db' : Db) : Prop :=
  ∀ id, db'.groups.findOne id ≠ db.groups.findOne id → ∃ g, db.groups.findOne id = some g ∧
    hasGroupEditPermission g user (db'.groups.findOne id).isSome = true

/-- Every run of the request changes only what `user` may change. -/
def OnlyAuthorized (db : Db) (user : User) (req : GroupRequest) : Prop :=
  ∀ r db', (req.prog user).Runs DbOp.exec db r db' → Authorized user db db'

theorem Authorized.of_eq {user : User} {db db' : Db} (h : db'.groups = db.groups) :
    Authorized user db db' := fun id hne => absurd (by rw [h]) hne

theorem Authorized.of_permitted {user : User} {may : String → Prop} {db db' : Db}
    (h : (Permitted user may).may db db') (hmay : ∀ id, may id → ∀ g,
      db.groups.findOne id = some g → hasGroupEditPermission g user = true) :
    Authorized user db db' := by
  intro id hne
  have hfate := h id
  cases hg : db.groups.findOne id with
  | none =>
    rw [hg] at hfate hne
    generalize db'.groups.findOne id = after at hfate hne
    cases hfate
    exact absurd rfl hne
  | some g =>
    cases hg' : db'.groups.findOne id with
    | none =>
      rw [hg, hg'] at hfate
      cases hfate with
      | deleted hdel => exact ⟨g, rfl, hdel⟩
    | some g' =>
      rw [hg, hg'] at hfate hne
      cases hfate with
      | same => exact absurd rfl hne
      | edited hid _ => exact ⟨g, rfl, hmay id hid g hg⟩

/-- A controller that looks its group up: it may change the group if the user may. -/
theorem Authorized.of_getUserGroup {α : Type} {user : User} {id : String} {k : Option Group → DbM α}
    {db db' : Db} {r : Except JsError α}
    (hrun : ((GroupModel.getUserGroup user.email id).bind k).Runs DbOp.exec db r db')
    (hnone : (k none).Ops DbOp.DeviceOnly)
    (hrefused : ∀ g, db.groups.findOne id = some g → Group.isMember user.email g = true →
      hasGroupEditPermission g user = false → (k (some g)).Runs DbOp.exec db r db' →
        Authorized user db db')
    (hallowed : ∀ g, g.id = id → (k (some g)).Within DbOp.exec (Permitted user (· = id))) :
    Authorized user db db' := by
  rcases Db.runs_getUserGroup_cases hrun with hrun | ⟨g, hfound, hmember, hrun⟩
  · exact .of_eq (hnone.runs_deviceOnly hrun).2
  · cases hperm : hasGroupEditPermission g user with
    | false => exact hrefused g hfound hmember hperm hrun
    | true =>
      refine .of_permitted (hallowed g (Collection.key_of_findOne hfound) _ _ _ hrun) ?_
      rintro _ rfl g' hg'
      obtain rfl := Option.some.inj (hfound.symm.trans hg')
      exact hperm

theorem Authorized.of_guarded {user : User} {id : String} {refusal : Option Response}
    {k : Option Group → DbM (Option Response)} {body : Group → DbM (Option Response)} {db db' : Db}
    {r : Except JsError (Option Response)}
    (hrun : ((GroupModel.getUserGroup user.email id).bind k).Runs DbOp.exec db r db')
    (hnone : (k none).Ops DbOp.DeviceOnly)
    (hguard : ∀ g, k (some g) =
      if !hasGroupEditPermission g user then return refusal else body g)
    (hbody : ∀ g, g.id = id → (body g).Ops (DbOp.Edits id)) : Authorized user db db' := by
  refine .of_getUserGroup hrun hnone (fun g _ _ hperm hrun => ?_) fun g hid => ?_
  · rw [hguard, hperm] at hrun
    exact .of_eq (congrArg Db.groups hrun.2)
  · rw [hguard]
    refine Ops.permitted ?_ user
    split
    · trivial
    · exact hbody g hid

section Checked

open GroupModel UserModel groups

variable {user : User} {db db' : Db} {r : Except JsError (Option Response)} {id : String}

theorem removeGroupDevices_authorized {serials : Option String} {redirected isInternal : Bool}
    (hrun : (groups.removeGroupDevices user id serials redirected isInternal).Runs DbOp.exec db r
      db') : Authorized user db db' := by
  obtain ⟨r', hrun⟩ := runs_rescue hrun
  refine .of_getUserGroup hrun trivial (fun g _ _ hperm hrun => ?_) fun g hid => ?_
  · dsimp only at hrun
    split at hrun
    · exact .of_eq (congrArg Db.groups hrun.2)
    · rw [hperm] at hrun
      exact .of_eq (congrArg Db.groups hrun.2)
  · subst hid
    refine Ops.permitted ?_ user
    have hedits : ∀ o : DbOp, o.DeviceOnly → o.Edits g.id := fun _ ho => ho.1.edits _
    dsimp only
    split
    · trivial
    split
    · trivial
    split
    · trivial
    split
    · trivial
    refine Ops.bind (ops_removeGroupDevices (fun o ho => hedits o ho.1) (fun _ => trivial)
      fun _ => rfl) fun newGroup => ?_
    split
    · refine Ops.bind (Ops.mono hedits
        (places_updateDevicesCurrentGroupFromOrigin _).deviceOnly.detach) fun _ => ?_
      split <;> trivial
    · trivial

theorem addGroupUsers_authorized {emails : Option String} {redirected : Bool}
    (hrun : (groups.addGroupUsers user id emails redirected).Runs DbOp.exec db r db') :
    Authorized user db db' := by
  obtain ⟨r', hrun⟩ := runs_rescue hrun
  refine .of_guarded hrun trivial (fun _ => rfl) fun g _ => ?_
  have hedits : ∀ o : DbOp, o.IsRead → o.Edits id := fun _ ho => ho.deviceOnly.1.edits _
  split
  · refine Ops.bind (ops_of_isRead hedits ?_) fun users => ?_
    · exact ops_perform.2 trivial
    · exact ops_addListedUsers hedits (fun _ _ => trivial) (fun _ => rfl) (fun _ => trivial) _ _
  · exact ops_addListedUsers hedits (fun _ _ => trivial) (fun _ => rfl) (fun _ => trivial) _ _

theorem changeModerator_authorized {did : String} {fn : DbM (Option (Group × Group))}
    (hfn : fn.Ops (DbOp.Edits id))
    (hrun : (changeModerator user id did fn).Runs DbOp.exec db r db') : Authorized user db db' := by
  obtain ⟨r', hrun⟩ := runs_rescue hrun
  refine .of_guarded hrun trivial (fun _ => rfl) fun g _ => ?_
  refine Ops.bind hfn fun stats => ?_
  split
  · exact ops_publishGroup (fun _ ho => ho.deviceOnly.1.edits _) _ _
  · trivial

theorem ops_updateName {group : Group} {w : Window} {body : GroupBody} {sched : Schedule} :
    (updateName group w body sched).Ops (DbOp.Edits group.id) := by
  unfold updateName
  split
  · split
    · trivial
    split
    · trivial
    · exact Ops.bind (ops_updateGroupName (fun _ ho => ho.1.1.edits _) rfl) fun _ => ops_ret
  · trivial

theorem ops_updateGroupData {isInternal : Bool} {group : Group} {data : GroupUpdate} :
    (updateGroupData isInternal group data).Ops (DbOp.Edits group.id) := by
  refine Ops.bind (ops_updateUserGroup (fun _ ho => ho.1.1.edits _) trivial rfl) fun newGroup => ?_
  cases newGroup with
  | none => trivial
  | some newGroup =>
    dsimp only
    split
    · exact Ops.bind (Ops.mono (fun _ ho => ho.1.edits _) (deviceOnly_findDevices _))
        fun _ => ops_ret
    · trivial

theorem updateGroup_authorized {isInternal : Bool} {body : GroupBody}
    (hrun : (groups.updateGroup user id isInternal body).Runs DbOp.exec db r db') :
    Authorized user db db' := by
  obtain ⟨r', hrun⟩ := runs_rescue hrun
  refine .of_guarded hrun trivial (fun _ => rfl) fun g hid => ?_
  subst hid
  have hedits : ∀ o : DbOp, o.DeviceOnly → o.Edits g.id := fun _ ho => ho.1.edits _
  split
  · trivial
  split
  · exact ops_updateName
  · refine Ops.bind (Ops.mono hedits (deviceOnly_checkSchedule _ _ _ _ _ _ _)) ?_
    intro rejected
    cases rejected with
    | some response => trivial
    | none =>
      dsimp only
      split
      · split
        · exact Ops.bind (Ops.mono hedits (deviceOnly_findDevices _)) fun _ => ops_ret
        split
        · refine Ops.bind (Ops.bind (Ops.mono hedits (deviceOnly_findGroups _))
            fun _ => ops_ret) fun conflicts => ?_
          split
          · exact ops_updateGroupData
          · trivial
        · exact ops_updateGroupData
      · trivial

end Checked

end DeviceHub

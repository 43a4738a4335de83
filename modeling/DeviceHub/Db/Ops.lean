import DeviceHub.Db.Frames

/-!
# The calls that the group functions perform

One lemma for each function of the group model: every call it performs satisfies `P` when the calls
that change nothing but devices do, and the few other calls of the function do.
-/

namespace DeviceHub

open Prog apiutil lodash GroupModel UserModel AllModel

section Reads

variable {P : DbOp → Prop} (hR : ∀ o : DbOp, o.IsRead → P o)

include hR

theorem ops_of_isRead {α : Type} {p : DbM α} (hp : p.Ops DbOp.IsRead) : p.Ops P := Ops.mono hR hp

/-! ### The lock on a user -/

theorem ops_setLockOnUser {email : String} {state : Bool}
    (hu : P (.users (.update email (.setLock state)))) : (setLockOnUser email state).Ops P := by
  refine Ops.bind (ops_of_isRead hR (isRead_findUser email)) fun user => ?_
  cases user with
  | none => trivial
  | some user =>
    exact Ops.bind (ops_perform.2 hu) fun _ =>
      Ops.bind (ops_of_isRead hR (isRead_findUser email)) fun _ => ops_ret

theorem ops_lockUser {email : String} (hu : P (.users (.update email (.setLock true)))) :
    (lockUser email).Ops P := by
  have hloop : ∀ n, (setIntervalWrapper (setLockOnUser email true) n).Ops P := by
    intro n
    induction n with
    | zero => trivial
    | succ n ih =>
      refine Ops.bind (ops_setLockOnUser hR hu) fun stats => ?_
      split
      · trivial
      · exact ih
  exact hloop 10

/-! ### Users and moderators -/

theorem ops_addGroupUser {id email : String} (hg : P (.groups (.update id (.pushUser email))))
    (hu : P (.users (.update email (.subscribe id)))) : (addGroupUser id email).Ops P := by
  refine Ops.bind (Ops.par (p := Db.updateGroup id (.pushUser email))
    (q := Db.updateUser email (.subscribe id)) (ops_perform.2 hg) (ops_perform.2 hu)) fun r => ?_
  obtain ⟨group, user⟩ := r
  cases user with
  | none => dsimp only; split <;> trivial
  | some user =>
    refine Ops.bind (ops_of_isRead hR (isRead_findUser email)) fun newUser => ?_
    dsimp only
    split <;> trivial

theorem ops_removeGroupUser {id email : String} (hg : P (.groups (.update id (.pullUser email))))
    (hu : P (.users (.update email (.unsubscribe id)))) : (removeGroupUser id email).Ops P := by
  refine Ops.bind (ops_of_isRead hR (isRead_findGroup id)) fun group => ?_
  cases group with
  | none => trivial
  | some group =>
    dsimp only
    split
    · trivial
    refine Ops.bind (Ops.par (p := Db.updateGroup id (.pullUser email))
      (q := Db.updateUser email (.unsubscribe id)) (ops_perform.2 hg) (ops_perform.2 hu)) fun r => ?_
    refine Ops.bind (ops_of_isRead hR (isRead_sendGroupChange _)) fun _ => ?_
    obtain ⟨-, user⟩ := r
    cases user with
    | none => trivial
    | some user =>
      exact Ops.bind (ops_of_isRead hR (isRead_findUser email)) fun _ => ops_ret

theorem ops_addGroupModerator {id email : String} (hg : P (.groups (.update id (.pushUser email))))
    (hu : P (.users (.update email (.subscribe id))))
    (hm : P (.groups (.update id (.pushModerator email)))) : (addGroupModerator id email).Ops P :=
  Ops.bind (ops_addGroupUser hR hg hu) fun _ => ops_perform.2 hm

end Reads

variable {P : DbOp → Prop} (hP : ∀ o : DbOp, o.Places → P o)

include hP

theorem ops_of_places {α : Type} {p : DbM α} (hp : p.Ops DbOp.Places) : p.Ops P := Ops.mono hP hp

theorem ops_of_read {α : Type} {p : DbM α} (hp : p.Ops DbOp.IsRead) : p.Ops P :=
  ops_of_places hP (places_of_isRead hp)

/-! ### The quotas -/

theorem ops_reserveUserGroupInstance {email : String}
    (hu : P (.users (.update email .reserveNumber))) : (reserveUserGroupInstance email).Ops P :=
  Ops.bind (ops_of_read hP (isRead_findUser email)) fun _ =>
    Ops.bind (ops_perform.2 hu) fun _ => ops_ret

theorem ops_releaseUserGroupInstance {email : String}
    (hu : P (.users (.update email .releaseNumber))) : (releaseUserGroupInstance email).Ops P :=
  Ops.bind (ops_of_read hP (isRead_findUser email)) fun _ =>
    Ops.bind (ops_perform.2 hu) fun _ => ops_ret

theorem ops_updateUserGroupDuration {email : String} {oldDuration newDuration : Int}
    (hu : P (.users (.update email (.chargeDuration oldDuration newDuration)))) :
    (updateUserGroupDuration email oldDuration newDuration).Ops P :=
  Ops.bind (ops_of_read hP (isRead_findUser email)) fun _ =>
    Ops.bind (ops_perform.2 hu) fun _ => ops_ret

/-! ### Devices -/

theorem ops_addGroupDevices {group : Group} {serials : List String}
    (hu : ∀ d, P (.users (.update group.owner.email (.chargeDuration group.duration d))))
    (hg : ∀ d, P (.groups (.update group.id (.setDevices d (union group.devices serials))))) :
    (GroupModel.addGroupDevices group serials).Ops P := by
  unfold GroupModel.addGroupDevices
  split
  · trivial
  split
  · trivial
  refine Ops.bind (ops_updateUserGroupDuration hP (hu _)) fun stats => ?_
  split
  · trivial
  refine Ops.bind (ops_of_read hP (isRead_findGroups _)) fun groups => ?_
  split
  · trivial
  refine Ops.bind (ops_perform.2 (hg _)) fun stats => ?_
  refine Ops.bind (ops_of_read hP (isRead_sendGroupChange _)) fun newGroup => ?_
  exact Ops.bind (ops_of_places hP (places_treatGroupDevicesChange _ _ _)) fun _ => ops_ret

theorem ops_removeGroupDevices {group : Group} {serials : List String}
    (hu : ∀ d, P (.users (.update group.owner.email (.chargeDuration group.duration d))))
    (hg : ∀ d, P (.groups (.update group.id (.setDevices d (difference group.devices serials))))) :
    (GroupModel.removeGroupDevices group serials).Ops P := by
  unfold GroupModel.removeGroupDevices
  split
  · trivial
  refine Ops.bind (ops_updateUserGroupDuration hP (hu _)) fun stats => ?_
  refine Ops.bind (ops_perform.2 (hg _)) fun stats => ?_
  refine Ops.bind (ops_of_read hP (isRead_sendGroupChange _)) fun newGroup => ?_
  exact Ops.bind (ops_of_places hP (places_treatGroupDevicesChange _ _ _)) fun _ => ops_ret

/-! ### Creation and update -/

theorem ops_createGroup {id : String} {data : GroupData} {users : List String}
    (hg : P (.groups (.insert (data.toGroup id users)))) : (createGroup id data users).Ops P := by
  refine Ops.bind (ops_perform.2 hg) fun inserted => ?_
  split
  · trivial
  · exact Ops.bind (ops_of_read hP (isRead_findGroup id)) fun _ =>
      ops_of_read hP (isRead_sendGroupChange _)

theorem ops_createUserGroup {id : String} {data : GroupData}
    (hr : P (.users (.update data.owner.email .reserveNumber)))
    (hi : ∀ users, P (.groups (.insert (data.toGroup id users))))
    (hg : ∀ id email, P (.groups (.update id (.pushUser email))))
    (hu : ∀ id email, P (.users (.update email (.subscribe id)))) :
    (createUserGroup id data).Ops P := by
  refine Ops.bind (ops_reserveUserGroupInstance hP hr) fun stats => ?_
  split
  · trivial
  refine Ops.bind (ops_of_read hP isRead_getRootGroup) fun rootGroup => ?_
  refine Ops.bind (ops_createGroup hP (hi _)) fun group => ?_
  have hR : ∀ o : DbOp, o.IsRead → P o := fun o ho => hP o ho.places
  exact Ops.bind ((ops_addGroupUser hR (hg _ _) (hu _ _)).par
    (ops_addGroupUser hR (hg _ _) (hu _ _))) fun _ =>
      ops_of_read hP (isRead_findGroup _)

theorem ops_updateGroupName {id name : String} (hg : P (.groups (.update id (.setName name)))) :
    (updateGroupName id name).Ops P := by
  refine Ops.bind (ops_perform.2 hg) fun stats => ?_
  refine Ops.bind (ops_of_read hP (isRead_sendGroupChange _)) fun newGroup => ?_
  exact Ops.bind (ops_of_places hP (places_updateGroupNames newGroup).detach)
    fun _ => ops_ret

theorem ops_updateUserGroup {group : Group} {data : GroupUpdate}
    (hu : P (.users (.update group.owner.email (.chargeDuration group.duration data.duration))))
    (hg : P (.groups (.update group.id (.setData data)))) : (updateUserGroup group data).Ops P := by
  refine Ops.bind (ops_updateUserGroupDuration hP hu) fun stats => ?_
  split
  · trivial
  refine Ops.bind (ops_perform.2 hg) fun stats => ?_
  cases stats with
  | none => trivial
  | some stats =>
    dsimp only [Option.map_some]
    split
    · trivial
    · exact Ops.bind (ops_of_places hP (places_updateHandlers _ _ _)) fun _ => ops_ret

/-! ### Deletion -/

theorem ops_releaseGroup {group : Group}
    (hs : ∀ email, P (.users (.update email (.unsubscribe group.id))))
    (hr : P (.users (.update group.owner.email .releaseNumber)))
    (hu : P (.users (.update group.owner.email (.chargeDuration group.duration 0)))) :
    (releaseGroup group).Ops P := by
  refine Ops.bind (ops_unsubscribeAll hs) fun _ => ?_
  refine Ops.bind (ops_releaseUserGroupInstance hP hr) fun _ => ?_
  refine Ops.bind (ops_updateUserGroupDuration hP hu) fun _ => ?_
  split
  · exact Ops.bind (ops_of_places hP (places_returnDevicesToRoot _)) fun _ =>
      ops_of_places hP (places_updateDevicesCurrentGroupFromOrigin _).detach
  · exact Ops.bind (ops_of_places hP (places_updateDevicesCurrentGroupFromOrigin _))
      fun _ => ops_ret

theorem ops_deleteUserGroup {id : String}
    (hd : P (.groups (.delete id)))
    (hs : ∀ id email, P (.users (.update email (.unsubscribe id))))
    (hr : ∀ email, P (.users (.update email .releaseNumber)))
    (hu : ∀ email d, P (.users (.update email (.chargeDuration d 0)))) :
    (deleteUserGroup id).Ops P := by
  refine Ops.bind (ops_of_read hP (isRead_findGroup id)) fun group => ?_
  split
  · trivial
  refine Ops.bind (ops_perform.2 hd) fun _ => ?_
  cases group with
  | none => trivial
  | some group =>
    exact Ops.bind (ops_releaseGroup hP (hs _) (hr _) (hu _ _)) fun _ => ops_ret

end DeviceHub

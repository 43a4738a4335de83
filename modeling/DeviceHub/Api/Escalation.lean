import DeviceHub.Api.AddDevices
import DeviceHub.Api.RemoveUsers
import DeviceHub.Db.Sample

/-!
# Requests that change groups of others

A request changes only what the requester may change, unless it is one of the two that are not
checked, made by a member who may not edit the group, and takes effect.

## Main definitions

* `GroupRequest.Escalates` : the request changes a group that the requester may not edit.

## Main results

* `onlyAuthorized_iff` : a request changes only what the requester may change, unless it escalates.
* `not_onlyAuthorized` : a member adds devices to a group of another user, and removes users.
-/

namespace DeviceHub

open Prog apiutil

/-- A member who may not edit the group has users removed from it. -/
def RemoveEscalates (db : Db) (user : User) (id : String) (emails : Option String) : Prop :=
  ∃ g, db.groups.findOne id = some g ∧ Group.isMember user.email g = true ∧
    hasGroupEditPermission g user = false ∧ RemoveTakes db g emails

/-- The request changes a group that the requester may not edit. -/
def GroupRequest.Escalates (db : Db) (user : User) : GroupRequest → Prop
  | .addGroupDevices id _ sel _ => AddEscalates db user id sel
  | .removeGroupUsers id emails _ => RemoveEscalates db user id emails
  | _ => False

/-- A member who may edit the group may have its users removed. -/
theorem removeGroupUsers_permitted {user : User} {id : String} {emails : Option String}
    {redirected : Bool} {db db' : Db} {r : Except JsError (Option Response)}
    (hrun : (groups.removeGroupUsers user id emails redirected).Runs DbOp.exec db r db') :
    (Permitted user (· = id)).may db db' := by
  have hedits : ∀ o : DbOp, o.DeviceOnly → o.Edits id := fun _ ho => ho.1.edits id
  refine Prog.Ops.permitted (ops_orInternalError ?_) user _ _ _ hrun
  refine Ops.bind (Ops.bind (Ops.mono hedits (deviceOnly_findGroups _)) fun _ => ops_ret)
    fun group => ?_
  cases group with
  | none => trivial
  | some group =>
    refine Ops.bind (Ops.mono hedits deviceOnly_getRootGroup) fun rootGroup => ?_
    refine Ops.tryCatch (Ops.bind (Ops.all fun p hp => ?_) fun results => ?_) fun e => ?_
    · obtain ⟨email, -, rfl⟩ := List.mem_map.1 hp
      exact ops_removeOneUser (fun o ho => hedits o ho.deviceOnly) (fun _ _ => trivial) rfl trivial
        group rootGroup
    · exact Ops.mono hedits (deviceOnly_of_isRead (isRead_removeGroupUsers_end id _ results))
    · split <;> trivial

theorem removeGroupUsers_onlyAuthorized_iff {db : Db} {user : User} {id : String}
    {emails : Option String} (redirected : Bool) :
    OnlyAuthorized db user (.removeGroupUsers id emails redirected) ↔
      ¬ RemoveEscalates db user id emails := by
  constructor
  · rintro honly ⟨g, hg, hmember, hperm, htakes⟩
    obtain rfl : g.id = id := Collection.key_of_findOne hg
    obtain ⟨r, db', hrun, hne⟩ := removeGroupUsers_removes redirected hg hmember htakes
    exact not_authorized hg hperm hne (honly r db' hrun)
  · intro hnot r db' hrun
    cases hg : db.groups.findOne id with
    | none =>
      have hsame : (Permitted user (· = id)).may db db' := removeGroupUsers_permitted hrun
      refine .of_permitted hsame ?_
      rintro _ rfl g hg'
      rw [hg] at hg'
      cases hg'
    | some g =>
      cases hperm : hasGroupEditPermission g user with
      | true =>
        refine .of_permitted (removeGroupUsers_permitted hrun) ?_
        rintro _ rfl g' hg'
        obtain rfl := Option.some.inj (hg.symm.trans hg')
        exact hperm
      | false =>
        by_cases hmember : Group.isMember user.email g = true
        · exact .of_eq (removeGroupUsers_keeps hg
            (fun htakes => hnot ⟨g, hg, hmember, hperm, htakes⟩) hrun)
        · obtain ⟨r', hrun⟩ := runs_rescue hrun
          rw [bind_eq, Db.runs_getUserGroup, hg,
            Option.filter_some_neg (by simpa using hmember)] at hrun
          exact .of_eq (congrArg Db.groups hrun.2)

/-- **A request changes only what the requester may change, unless it escalates.** -/
theorem onlyAuthorized_iff {db : Db} (hid : ∀ g ∈ db.groups.docs, PlainId g.id) (user : User)
    (req : GroupRequest) : OnlyAuthorized db user req ↔ ¬ req.Escalates db user := by
  cases req with
  | addGroupDevices id now sel reruns =>
    constructor
    · intro honly
      have hrun := runs_eval DbOp.exec ((GroupRequest.addGroupDevices id now sel reruns).prog user) db
      exact (addGroupDevices_authorized_iff hid hrun).1 (honly _ _ hrun)
    · intro hnot r db' hrun
      exact (addGroupDevices_authorized_iff hid hrun).2 hnot
  | removeGroupUsers id emails redirected => exact removeGroupUsers_onlyAuthorized_iff redirected
  | removeGroupDevices id serials redirected isInternal =>
    exact iff_of_true (fun _ _ hrun => removeGroupDevices_authorized hrun) fun h => h
  | addGroupUsers id emails redirected =>
    exact iff_of_true (fun _ _ hrun => addGroupUsers_authorized hrun) fun h => h
  | updateGroup id isInternal body =>
    exact iff_of_true (fun _ _ hrun => updateGroup_authorized hrun) fun h => h
  | deleteGroups ids redirected =>
    refine iff_of_true (fun r db' hrun => ?_) fun h => h
    exact .of_permitted (deleteGroups_permitted user ids redirected (fun _ => False) _ _ _ hrun)
      fun _ hmay => hmay.elim
  | addGroupModerator id email =>
    refine iff_of_true (fun _ _ hrun => changeModerator_authorized ?_ hrun) fun h => h
    exact ops_addGroupModerator (fun _ ho => ho.deviceOnly.1.edits _) rfl trivial rfl
  | removeGroupModerator id email =>
    refine iff_of_true (fun _ _ hrun => changeModerator_authorized ?_ hrun) fun h => h
    exact ops_perform.2 rfl

/-! ### A member of a group -/

/-- A booking of `u` for an hour, with the members `m` and `n`. -/
def sharedGroup : Group :=
  { Sample.booking "g" "u" .once 0 [⟨0, 3600000⟩] 0 [] with users := ["u", "m", "n"] }

/-- The users of that booking. -/
def sharedBooking : Db where
  users := ⟨[Sample.user "u" ⟨5, 36000000⟩ ⟨1, 0⟩, Sample.user "m" ⟨5, 36000000⟩ ⟨0, 0⟩,
    Sample.user "n" ⟨5, 36000000⟩ ⟨0, 0⟩], (by decide : ["u", "m", "n"].Nodup)⟩
  groups := ⟨[Sample.root, sharedGroup], (by decide : ["root", "g"].Nodup)⟩
  devices := ⟨[Sample.device "d"], by decide⟩

/-- The request to add the device `d`. -/
def addDevice : GroupRequest :=
  .addGroupDevices "g" 0
    { serials := some "d", amount := none, needAmount := false, isInternal := false,
      redirected := false, filters := fun _ => true, sample := fun devices => devices } 0

/-- A member of a booking adds a device to it, and removes a user from it. -/
theorem not_onlyAuthorized :
    ¬ OnlyAuthorized sharedBooking (Sample.user "m" ⟨5, 36000000⟩ ⟨0, 0⟩) addDevice ∧
      ¬ OnlyAuthorized sharedBooking (Sample.user "m" ⟨5, 36000000⟩ ⟨0, 0⟩)
        (.removeGroupUsers "g" (some "n") false) := by
  have hnot : ∀ req : GroupRequest, (((req.prog (Sample.user "m" ⟨5, 36000000⟩ ⟨0, 0⟩)).eval
      DbOp.exec sharedBooking).2.groups.findOne "g" ≠ sharedBooking.groups.findOne "g") →
        ¬ OnlyAuthorized sharedBooking (Sample.user "m" ⟨5, 36000000⟩ ⟨0, 0⟩) req := by
    intro req hne honly
    have hg : sharedBooking.groups.findOne sharedGroup.id = some sharedGroup := by decide +kernel
    refine not_authorized hg (by decide) ?_ (honly _ _ (runs_eval _ _ _))
    rwa [← hg]
  exact ⟨hnot _ (by decide +kernel), hnot _ (by decide +kernel)⟩

/-- The owner of the booking may add the device. -/
theorem onlyAuthorized_owner :
    OnlyAuthorized sharedBooking (Sample.user "u" ⟨5, 36000000⟩ ⟨1, 0⟩) addDevice := by
  have hid : ∀ g ∈ sharedBooking.groups.docs, PlainId g.id := by
    intro g hg
    simp only [sharedBooking, List.mem_cons, List.not_mem_nil, or_false] at hg
    rcases hg with rfl | rfl <;> exact ⟨by decide, by decide⟩
  refine (onlyAuthorized_iff hid _ _).2 ?_
  rintro ⟨g, hg, -, hperm, -⟩
  have hg' : sharedBooking.groups.findOne "g" = some sharedGroup := by decide +kernel
  obtain rfl := Option.some.inj (hg'.symm.trans hg)
  revert hperm
  decide

end DeviceHub

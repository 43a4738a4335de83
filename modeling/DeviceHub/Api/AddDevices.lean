import DeviceHub.Api.Authorization
import DeviceHub.Db.Devices

/-!
# `addGroupDevices` for a member who may not edit the group

The controller runs the request again as the owner of the group, so the check that follows succeeds
for the owner.

## Main definitions

* `AddTakes`, `SelectionTakes` : adding devices as the owner changes the group.
* `AddEscalates` : the request of a member who may not edit the group changes it.

## Main results

* `addSelectedDevices_changed` : what the request does when it runs for the owner.
* `addGroupDevices_authorized_iff` : the request changes only what the requester may change, unless
  it escalates.
-/

namespace DeviceHub

open Prog apiutil lodash

/-! ### Giving a group up -/

/-- An identifier without commas: `deleteGroups` finds it in the list that it is given. -/
def PlainId (id : String) : Prop := id ≠ "" ∧ ',' ∉ id.toList

instance (id : String) : Decidable (PlainId id) := inferInstanceAs (Decidable (_ ∧ _))

theorem PlainId.splitComma {id : String} (h : PlainId id) :
    without (splitComma id) "" = [id] := by
  have hsplit : id.toList.splitOn ',' = [id.toList] := by
    refine List.splitOnP_eq_singleton fun c hc => ?_
    have hne : c ≠ ',' := fun he => h.2 (he ▸ hc)
    simpa using hne
  simp [DeviceHub.splitComma, hsplit, without, h.1]

/-- The groups that a request to delete groups is about. -/
def groups.targets (db : Db) (user : User) (ids : Option String) : List String :=
  match ids.filter (· ≠ "") with
  | some ids => without (splitComma ids) ""
  | none =>
    (rootOf db).elim [] fun root =>
      if user.email = root.owner.email then
        (db.groups.docs.filter fun g => decide (g.privilege ≠ .root)).map (·.id)
      else []

section GiveUp

open GroupModel groups

variable {db db' : Db} {g : Group} {owner : User}

/-- A request to delete groups removes them one after the other. -/
theorem runs_deleteGroups {user : User} {ids : Option String} {redirected : Bool}
    {r : Except JsError (Option Response)}
    (hrun : (deleteGroups user ids redirected).Runs DbOp.exec db r db') :
    ∃ r', (Prog.each (removeGroup user) (targets db user ids)).Runs DbOp.exec db r' db' := by
  obtain ⟨r₁, hrun⟩ := runs_rescue hrun
  have hremove : ∀ {target list r₂}, (removeGroups user target list).Runs DbOp.exec db r₂ db' →
      ∃ r', (Prog.each (removeGroup user) list).Runs DbOp.exec db r' db' := by
    intro target list r₂ h
    rcases runs_tryCatch.1 h with ⟨a, h, -⟩ | ⟨e, t, h, hhandled⟩
    · exact runs_discard h
    · split at hhandled
      · exact hhandled.2 ▸ runs_discard h
      · exact hhandled.2 ▸ runs_discard h
  unfold targets
  cases hids : ids.filter (· ≠ "") with
  | some ids =>
    rw [hids] at hrun
    exact hremove hrun
  | none =>
    rw [hids] at hrun
    dsimp only at hrun ⊢
    unfold getOwnerGroups at hrun
    rw [bind_eq, bind_eq, Prog.bind_assoc, runs_getRootGroup] at hrun
    cases hroot : rootOf db with
    | none =>
      rw [hroot] at hrun
      exact ⟨_, rfl, hrun.2⟩
    | some root =>
      rw [hroot] at hrun
      dsimp only [Option.elim_some] at hrun ⊢
      split at hrun
      · rename_i howner
        rw [if_pos howner]
        unfold getGroups at hrun
        rw [Db.runs_findGroups, List.filter_true] at hrun
        exact hremove hrun
      · rename_i howner
        rw [if_neg howner]
        rw [Db.runs_findGroups, List.filter_false] at hrun
        exact hremove hrun

theorem PlainId.targets {id : String} (hid : PlainId id) (db : Db) (user : User) :
    groups.targets db user (some id) = [id] := by
  unfold groups.targets
  rw [Option.filter_some_pos (by simpa using hid.1)]
  exact hid.splitComma

/-- A device is booked. -/
def Booked (db : Db) (serial : String) : Prop := ∃ h ∈ db.groups.docs, h.Transient ∧ serial ∈ h.devices

instance (db : Db) (serial : String) : Decidable (Booked db serial) :=
  inferInstanceAs (Decidable (∃ h ∈ db.groups.docs, _))

theorem runs_rejectBooked {serials : List String} {r : Except JsError Unit}
    (hrun : (rejectBooked serials).Runs DbOp.exec db r db') :
    db' = db ∧ (r = .ok () → ∀ serial ∈ serials, ¬ Booked db serial) := by
  induction serials with
  | nil => exact ⟨hrun.2, fun _ serial hserial => by cases hserial⟩
  | cons serial serials ih =>
    unfold rejectBooked isDeviceBooked getDeviceTransientGroups at hrun
    rw [bind_eq, bind_eq, Prog.bind_assoc, Db.runs_findGroups] at hrun
    have hrun' : ((if (!(db.groups.docs.filter fun g =>
        decide (serial ∈ g.devices) && decide g.Transient).isEmpty) = true then throw JsError.booked
        else rejectBooked serials : DbM Unit)).Runs DbOp.exec db r db' := hrun
    split at hrun'
    · exact ⟨hrun'.2, fun h => by rw [hrun'.1] at h; cases h⟩
    · rename_i hfree
      obtain ⟨hsame, hrest⟩ := ih hrun'
      refine ⟨hsame, fun hok s hs => ?_⟩
      rcases List.mem_cons.1 hs with rfl | hs
      · rintro ⟨h, hmem, ht, hlist⟩
        simp only [Bool.not_eq_true', Bool.not_eq_false, List.isEmpty_iff, List.filter_eq_nil_iff,
          Bool.and_eq_true, decide_eq_true_eq] at hfree
        exact hfree h hmem ⟨hlist, ht⟩
      · exact hrest hok s hs

/-- The request deletes the stored group `g`: the user may do that, and none of the devices of a
bookable group is booked. -/
structure Removes (db : Db) (user : User) (g : Group) : Prop where
  member : Group.isMember user.email g = true
  permission : hasGroupEditPermission g user false = true
  notRoot : g.privilege ≠ .root
  notBooked : g.class_ = .bookable → ∀ serial ∈ g.devices, ¬ Booked db serial

instance (db : Db) (user : User) (g : Group) : Decidable (Removes db user g) :=
  decidable_of_iff (Group.isMember user.email g = true ∧ hasGroupEditPermission g user false = true ∧
      g.privilege ≠ .root ∧ (g.class_ = .bookable → ∀ serial ∈ g.devices, ¬ Booked db serial))
    ⟨fun ⟨h₁, h₂, h₃, h₄⟩ => ⟨h₁, h₂, h₃, h₄⟩, fun ⟨h₁, h₂, h₃, h₄⟩ => ⟨h₁, h₂, h₃, h₄⟩⟩

/-- The removal of one group deletes it, or does nothing. -/
theorem runs_removeGroup {user : User} {id : String} {r : Except JsError Removal}
    (hrun : (removeGroup user id).Runs DbOp.exec db r db') :
    db' = db ∨ ∃ g, db.groups.findOne id = some g ∧ Removes db user g ∧
      ∃ r', (deleteUserGroup id).Runs DbOp.exec db r' db' := by
  unfold removeGroup at hrun
  rw [bind_eq] at hrun
  rcases Db.runs_getUserGroup_cases hrun with hrun | ⟨g, hg, hmember, hrun⟩
  · exact .inl hrun.2
  · dsimp only at hrun
    split at hrun
    · exact .inl hrun.2
    rename_i hperm
    split at hrun
    · exact .inl hrun.2
    rename_i hroot
    have hperm : hasGroupEditPermission g user false = true := by simpa using hperm
    split at hrun
    swap
    · rename_i hclass
      exact .inr ⟨g, hg, ⟨hmember, hperm, hroot, fun h => absurd h hclass⟩, runs_discard hrun⟩
    -- a bookable group
    have hinner : ∀ {r' t}, ((rejectBooked g.devices).bind fun _ =>
        (deleteUserGroup id).bind fun a => Prog.ret (Removal.ofDeletion a)).Runs DbOp.exec db r' t →
          t = db ∨ ∃ g, db.groups.findOne id = some g ∧ Removes db user g ∧
            ∃ r', (deleteUserGroup id).Runs DbOp.exec db r' t := by
      intro r' t hall
      rcases runs_bind.1 hall with ⟨u, t₁, hbooked, hdelete⟩ | ⟨e, hbooked, -⟩
      · obtain ⟨rfl, hfree⟩ := runs_rejectBooked hbooked
        exact .inr ⟨g, hg, ⟨hmember, hperm, hroot, fun _ => hfree rfl⟩, runs_discard hdelete⟩
      · exact .inl (runs_rejectBooked hbooked).1
    rcases runs_tryCatch.1 hrun with ⟨a, h, -⟩ | ⟨e, t, h, hhandled⟩
    · exact hinner h
    · split at hhandled
      · exact hhandled.2 ▸ hinner h
      · exact hhandled.2 ▸ hinner h

theorem deleteUserGroup_deletes {id : String} {r : Except JsError Deletion}
    (hg : db.groups.findOne id = some g) (hroot : g.privilege ≠ .root)
    (hrun : (deleteUserGroup id).Runs DbOp.exec db r db') : db'.groups.findOne id = none := by
  rw [(runs_deleteUserGroup hg hroot hrun).1]
  exact Collection.findOne_delete_self _ _

/-- What the owner's request to delete a transient group does to it. -/
theorem deleteGroups_own {redirected : Bool} {r : Except JsError (Option Response)}
    (hg : db.groups.findOne g.id = some g) (hid : PlainId g.id)
    (howner : g.owner.email = owner.email) (ht : g.Transient)
    (hrun : (deleteGroups owner (some g.id) redirected).Runs DbOp.exec db r db') :
    g.privilege = .root ∧ db'.groups = db.groups ∨
      g.privilege ≠ .root ∧ db'.groups.findOne g.id = none := by
  obtain ⟨r₁, hrun⟩ := runs_deleteGroups hrun
  rw [hid.targets] at hrun
  have hone : ∃ r₂, (removeGroup owner g.id).Runs DbOp.exec db r₂ db' :=
    runs_discard (f := fun a => [a]) hrun
  obtain ⟨r₂, hrun⟩ := hone
  unfold removeGroup at hrun
  have hmember : Group.isMember owner.email g = true := by simp [Group.isMember, howner]
  have hperm : hasGroupEditPermission g owner false = true := by
    simp [hasGroupEditPermission, howner]
  rw [bind_eq, Db.runs_getUserGroup, hg, Option.filter_some_pos hmember] at hrun
  dsimp only at hrun
  rw [if_neg (by simp [hperm])] at hrun
  by_cases hroot : g.privilege = .root
  · rw [if_pos hroot] at hrun
    exact .inl ⟨hroot, congrArg Db.groups hrun.2⟩
  · rw [if_neg hroot] at hrun
    have hclass : g.class_ ≠ .bookable := fun hb => by
      have hb' : isOriginGroup g.class_ = true := by rw [hb]; rfl
      exact absurd (hb'.symm.trans ht) (by decide)
    rw [if_neg hclass] at hrun
    obtain ⟨r₃, hrun⟩ := runs_discard hrun
    exact .inr ⟨hroot, deleteUserGroup_deletes hg hroot hrun⟩

end GiveUp

/-! ### Adding devices as the owner -/

section Add

open GroupModel groups

variable {db db' : Db} {g : Group} {owner : User}

/-- Adding `serials` to the group changes it: they are added, or the group is given up because the
charge for them changes nothing. -/
def AddTakes (db : Db) (g : Group) (serials : List String) : Prop :=
  serials ≠ [] ∧ ∃ duration, computeDuration g serials.length = .ok duration ∧
    (ChargeIdle db g.owner.email g.duration duration ∧ g.privilege ≠ .root ∨
      ¬ ChargeIdle db g.owner.email g.duration duration ∧
        checkDatesOverlaps g.dates (db.groups.docs.filter (bookingsOf serials)) = none)

/-- The group `g` is changed if and only if `c` holds, and nothing is changed otherwise. -/
def ChangedIff (g : Group) (c : Prop) (db db' : Db) : Prop :=
  c ∧ db'.groups.findOne g.id ≠ some g ∨ ¬ c ∧ db'.groups = db.groups

theorem ChangedIff.congr {c : Prop} {db₁ : Db} (h : ChangedIff g c db db₁)
    (hgroups : db'.groups = db₁.groups) : ChangedIff g c db db' := by
  unfold ChangedIff
  rw [hgroups]
  exact h

/-- The time `now` is inside one of the group's windows. -/
def InWindow (now : Int) (g : Group) : Prop := (checkDatesOverlaps [⟨now, now⟩] [g]).isSome = true

instance (now : Int) (g : Group) : Decidable (InWindow now g) := inferInstanceAs (Decidable (_ = _))

/-- The devices of a group to which some were added go to it if it is its time. -/
def placeDevices (now : Int) (g : Group) (db : Db) : Db :=
  if InWindow now g then
    (DbOp.exec (.devices (.updateMany (fun d => d.serial ∈ g.devices) (.setCurrentGroup g))) db).2
  else db

/-- What `addDevicesToGroup` does once it has tried to add the devices. -/
inductive AddEnds (user : User) (now : Int) (g : Group) (db' : Db) : Except JsError Group → Db → Prop
  | added (newGroup : Group) (db : Db) (hplaced : db' = placeDevices now newGroup db) :
    AddEnds user now g db' (.ok newGroup) db
  | giveUp (db : Db) (r : Except JsError (Option Response))
      (hdelete : (deleteGroups user (some g.id) true).Runs DbOp.exec db r db') :
    AddEnds user now g db' (.error .quotaIsReached) db
  | failed (e : JsError) (db : Db) (he : e ≠ .quotaIsReached) (hsame : db' = db) :
    AddEnds user now g db' (.error e) db

theorem runs_addDevicesToGroup {now : Int} {user : User} {target : String} {isInternal : Bool}
    {serials : List String} {r : Except JsError (Option Response)}
    (hg : db.groups.findOne g.id = some g) (ht : g.Transient)
    (hrun : (addDevicesToGroup user now target isInternal g serials).Runs DbOp.exec db r db') :
    ∃ r' t, AddOutcome db g serials r' t ∧ AddEnds user now g db' r' t := by
  unfold addDevicesToGroup at hrun
  -- what follows a successful addition does not fail
  have hplace : ∀ {newGroup t t' r'}, (if (checkDatesOverlaps [⟨now, now⟩] [newGroup]).isSome then do
      let _ ← AllModel.updateDevicesCurrentGroup newGroup.devices newGroup
      if isInternal then
        let _ ← Db.findDevices fun d => d.serial ∈ newGroup.devices
        return some ⟨200, "Added (group " ++ target ++ ")"⟩
      else return some ⟨200, "Added (group " ++ target ++ ")"⟩
    else if isInternal then do
      let _ ← Db.findDevices fun d => d.serial ∈ newGroup.devices
      return some ⟨200, "Added (group " ++ target ++ ")"⟩
    else return some ⟨200, "Added (group " ++ target ++ ")"⟩ : DbM (Option Response)).Runs DbOp.exec
      t r' t' → (∃ a, r' = .ok a) ∧ t' = placeDevices now newGroup t := by
    intro newGroup t t' r' h
    unfold placeDevices
    split at h
    · rename_i hwindow
      rw [if_pos (show InWindow now newGroup from hwindow)]
      split at h
      · exact ⟨⟨_, h.1⟩, h.2⟩
      · exact ⟨⟨_, h.1⟩, h.2⟩
    · rename_i hwindow
      rw [if_neg (show ¬ InWindow now newGroup from hwindow)]
      split at h
      · exact ⟨⟨_, h.1⟩, h.2⟩
      · exact ⟨⟨_, h.1⟩, h.2⟩
  rcases runs_tryCatch.1 hrun with ⟨a, hbody, -⟩ | ⟨e, t, hbody, hhandled⟩
  · rcases runs_bind.1 hbody with ⟨newGroup, t, hadd, hrest⟩ | ⟨e, -, he⟩
    · exact ⟨_, t, addOutcome_of_runs hg ht hadd, .added newGroup t (hplace hrest).2⟩
    · cases he
  · rcases runs_bind.1 hbody with ⟨newGroup, t', hadd, hrest⟩ | ⟨e', hadd, he⟩
    · obtain ⟨a, ha⟩ := (hplace hrest).1
      cases ha
    · obtain rfl := Except.error.inj he
      refine ⟨_, t, addOutcome_of_runs hg ht hadd, ?_⟩
      cases e with
      | quotaIsReached =>
        obtain ⟨r', hdelete⟩ := runs_discard hhandled
        exact .giveUp t r' hdelete
      | _ => exact .failed _ t (fun h => by cases h) hhandled.2

/-- What `addDevicesToGroup` does when it runs for the owner. -/
theorem addDevicesToGroup_changed {now : Int} {target : String} {isInternal : Bool}
    {serials : List String} {r : Except JsError (Option Response)}
    (hg : db.groups.findOne g.id = some g) (hid : PlainId g.id)
    (howner : g.owner.email = owner.email) (ht : g.Transient)
    (hrun : (addDevicesToGroup owner now target isInternal g serials).Runs DbOp.exec db r db') :
    ChangedIff g (AddTakes db g serials) db db' := by
  obtain ⟨r', t, hadd, hends⟩ := runs_addDevicesToGroup hg ht hrun
  cases hends with
  | added newGroup t hplaced =>
    have hgroups : db'.groups = t.groups := by
      rw [hplaced]
      unfold placeDevices
      split <;> rfl
    refine ChangedIff.congr ?_ hgroups
    cases hadd with
    | nothing hserials => exact .inr ⟨fun h => h.1 hserials, rfl⟩
    | added duration hserials hduration hcharge hfree =>
      refine .inl ⟨⟨hserials, duration, hduration, .inr ⟨hcharge, hfree⟩⟩, fun hsame => ?_⟩
      have hnew : (DbOp.exec (.groups (.update g.id
          (.setDevices duration (union g.devices serials)))) (DbOp.exec (.users (.update
            g.owner.email (.chargeDuration g.duration duration))) db).2).2.groups.findOne g.id =
              some ((GroupChange.setDevices duration (union g.devices serials)).apply g) :=
        Collection.findOne_update_self _ hg
      -- were the document the same, so would be its duration
      have hduration' : g.duration = duration :=
        congrArg Group.duration (Option.some.inj (hsame.symm.trans hnew))
      exact hcharge (.inl hduration'.symm)
  | giveUp t r' hdelete =>
    cases hadd with
    | refused duration hserials hduration hidle =>
      have hg₁ : (DbOp.exec (.users (.update g.owner.email
          (.chargeDuration g.duration duration))) db).2.groups.findOne g.id = some g := hg
      -- the quota refuses the devices, and the source deletes the group
      rcases deleteGroups_own hg₁ hid howner ht hdelete with ⟨hroot, hsame⟩ | ⟨hroot, hgone⟩
      · refine .inr ⟨?_, hsame⟩
        rintro ⟨-, duration', hduration', hcase⟩
        obtain rfl := Except.ok.inj (hduration.symm.trans hduration')
        rcases hcase with ⟨-, hnot⟩ | ⟨hnot, -⟩
        · exact hnot hroot
        · exact hnot hidle
      · refine .inl ⟨⟨hserials, duration, hduration, .inl ⟨hidle, hroot⟩⟩, ?_⟩
        rw [hgone]
        exact fun h => by cases h
  | failed e t he hsame =>
    subst hsame
    cases hadd with
    | undated hserials hdates =>
      refine .inr ⟨?_, rfl⟩
      rintro ⟨-, duration, hduration, -⟩
      exact dates_ne_of_computeDuration hduration hdates
    | refused duration hserials hduration hidle => exact absurd rfl he
    | busy duration hserials hduration hcharge hbusy =>
      refine .inr ⟨?_, rfl⟩
      rintro ⟨-, duration', hduration', hcase⟩
      obtain rfl := Except.ok.inj (hduration.symm.trans hduration')
      rcases hcase with ⟨hidle, -⟩ | ⟨-, hfree⟩
      · exact hcharge hidle
      · exact hbusy hfree

/-- What a request selects for its group. -/
inductive Selection where
  /-- Nothing is done. -/
  | nothing
  /-- The group is deleted, for want of devices. -/
  | giveUp
  /-- The devices to add. -/
  | add (serials : List String)

/-- The selection by serials or by an amount. -/
def listedSelection (db : Db) (user : User) (sel : DeviceSelection) (group : Group) :
    Option String → Option Int → Selection
  | some serials, _ => .add (difference (without (splitComma serials) "") group.devices)
  | none, some amount =>
    let serials := (sel.sample (db.devices.docs.filter
      (bookable user.subscribed sel.filters))).map (·.serial)
    if serials ≠ [] ∧ sel.needAmount = false ∨
        sel.needAmount = true ∧ (serials.length : Int) = amount then .add serials
    else .giveUp
  | none, none => .nothing

/-- The selection that `addSelectedDevices` makes in the database `db`. -/
def selection (db : Db) (user : User) (sel : DeviceSelection) (group : Group) : Selection :=
  match sel.serials, sel.amount with
  | none, none =>
    match selectDevices group [] (db.groups.docs.filter fun g => g.id ∈ user.subscribed) with
    | .error _ => .nothing
    | .ok serials => .add serials
  | serials, amount =>
    listedSelection db user sel group (serials.filter (· ≠ "")) (amount.filter (· ≠ 0))

/-- The request changes the group when it runs for the owner. -/
def SelectionTakes (db : Db) (g : Group) : Selection → Prop
  | .nothing => False
  | .giveUp => g.privilege ≠ .root
  | .add serials => AddTakes db g serials

theorem ChangedIff.of_groups_users {serials : List String} {db₁ : Db}
    (hgroups : db₁.groups = db.groups) (husers : db₁.users = db.users)
    (h : ChangedIff g (AddTakes db₁ g serials) db₁ db') :
    ChangedIff g (AddTakes db g serials) db db' := by
  unfold ChangedIff AddTakes ChargeIdle at *
  rw [hgroups, husers] at h
  exact h

variable {now : Int} {sel : DeviceSelection} {r : Except JsError (Option Response)}

/-- From `db` to `db'` nothing but locks of devices has changed. -/
structure LocksOnly (db db' : Db) : Prop where
  users : db'.users = db.users
  groups : db'.groups = db.groups
  devices : ∀ serial, (db'.devices.findOne serial).map Device.unlocked =
    (db.devices.findOne serial).map Device.unlocked

theorem LocksOnly.refl (db : Db) : LocksOnly db db := ⟨rfl, rfl, fun _ => rfl⟩

theorem locksOnly_update (db : Db) (q : Device → Bool) {f : DeviceChange}
    (hf : ∀ d, (f.apply d).unlocked = d.unlocked) :
    LocksOnly db (DbOp.exec (.devices (.updateMany q f)) db).2 := by
  refine ⟨rfl, rfl, fun serial => ?_⟩
  simp only [DbOp.exec, CollOp.exec, Collection.findOne_updateBy, Option.map_map]
  congr 1
  funext d
  simp only [Function.comp_apply]
  split
  · exact hf d
  · rfl

/-- What the request does with what it selects. -/
def Selection.prog (user : User) (now : Int) (target : String) (isInternal : Bool) (group : Group) :
    Selection → DbM (Option Response)
  | .nothing => return none
  | .giveUp => deleteGroups user (some group.id) true
  | .add serials => addDevicesToGroup user now target isInternal group serials

/-- The request does `sel`, apart from locks. -/
def Selects (user : User) (now : Int) (group : Group) (sel : Selection) (db db' : Db) : Prop :=
  ∃ db₁ db₂ r target isInternal, LocksOnly db db₁ ∧ LocksOnly db₂ db' ∧
    (sel.prog user now target isInternal group).Runs DbOp.exec db₁ r db₂

theorem runs_loadBookable {amount : Int} {target : String} {user : User}
    (hrun : (loadBookableDevicesWithFiltersLock user.subscribed sel.filters sel.sample
      fun devices =>
        let serials := devices.map (·.serial)
        if serials ≠ [] ∧ sel.needAmount = false ∨
            sel.needAmount = true ∧ (serials.length : Int) = amount then
          addDevicesToGroup user now target sel.isInternal g serials
        else do
          let _ ← deleteGroups user (some g.id) true
          return some ⟨409, "Cant create group. Not enough free devices"⟩).Runs DbOp.exec db r db') :
    Selects user now g (listedSelection db user sel g none (some amount)) db db' := by
  unfold loadBookableDevicesWithFiltersLock at hrun
  rw [bind_eq, Db.runs_findDevices] at hrun
  unfold listedSelection
  set serials := (sel.sample (db.devices.docs.filter
    (bookable user.subscribed sel.filters))).map (·.serial) with hserials
  rw [bind_eq, Db.runs_updateDevices] at hrun
  set db₁ := (DbOp.exec (.devices (.updateMany (fun d => d.serial ∈ serials)
    (.setDeviceLock true))) db).2 with hdb₁
  have hlock : LocksOnly db db₁ := locksOnly_update db _ fun d => rfl
  -- the devices are unlocked in the end, whatever happened
  have hrest : ∃ r' db₂, (if serials ≠ [] ∧ sel.needAmount = false ∨
      sel.needAmount = true ∧ (serials.length : Int) = amount then
        addDevicesToGroup user now target sel.isInternal g serials
      else do
        let _ ← deleteGroups user (some g.id) true
        return some ⟨409, "Cant create group. Not enough free devices"⟩ :
          DbM (Option Response)).Runs DbOp.exec db₁ r' db₂ ∧ LocksOnly db₂ db' := by
    rw [bind_eq, runs_bind] at hrun
    rcases hrun with ⟨a, db₂, hfunc, hunlock⟩ | ⟨e, hfunc, -⟩
    · obtain ⟨r', hfunc⟩ := runs_rescue hfunc
      refine ⟨r', db₂, hfunc, ?_⟩
      split at hunlock
      · rw [bind_eq, Db.runs_updateDevices] at hunlock
        obtain ⟨-, rfl⟩ := hunlock
        exact locksOnly_update db₂ _ fun d => rfl
      · obtain ⟨-, rfl⟩ := hunlock
        exact .refl _
    · obtain ⟨r', hfunc⟩ := runs_rescue hfunc
      exact ⟨r', db', hfunc, .refl _⟩
  obtain ⟨r', db₂, hfunc, hunlock⟩ := hrest
  dsimp only
  split
  · rename_i henough
    rw [if_pos henough] at hfunc
    exact ⟨db₁, db₂, r', target, sel.isInternal, hlock, hunlock, hfunc⟩
  · rename_i henough
    rw [if_neg henough] at hfunc
    obtain ⟨r'', hdelete⟩ := runs_discard hfunc
    exact ⟨db₁, db₂, r'', target, sel.isInternal, hlock, hunlock, hdelete⟩

/-- **`addSelectedDevices` does what it selects.** -/
theorem runs_addSelectedDevices {user : User}
    (hrun : (addSelectedDevices user now sel g).Runs DbOp.exec db r db') :
    Selects user now g (selection db user sel g) db db' := by
  unfold addSelectedDevices at hrun
  generalize (if sel.redirected then "device" else "devices") = target at hrun
  have hnothing : ∀ {r' : Except JsError (Option Response)} {db'' : Db},
      r' = .ok none ∧ db'' = db → Selects user now g .nothing db db'' := by
    rintro _ _ ⟨-, rfl⟩
    exact ⟨_, _, .ok none, target, true, .refl _, .refl _, rfl, rfl⟩
  have hadd : ∀ serials {db'' : Db},
      (addDevicesToGroup user now target sel.isInternal g serials).Runs DbOp.exec db r db'' →
        Selects user now g (.add serials) db db'' := fun serials _ h =>
    ⟨_, _, r, target, sel.isInternal, .refl _, .refl _, h⟩
  have hlisted : ∀ (serials : Option String) (amount : Option Int),
      (match serials, amount with
        | some serials, _ => addDevicesToGroup user now target sel.isInternal g
            (difference (without (splitComma serials) "") g.devices)
        | none, some amount => loadBookableDevicesWithFiltersLock user.subscribed sel.filters
            sel.sample fun devices =>
              let serials := devices.map (·.serial)
              if serials ≠ [] ∧ sel.needAmount = false ∨
                  sel.needAmount = true ∧ (serials.length : Int) = amount then
                addDevicesToGroup user now target sel.isInternal g serials
              else do
                let _ ← deleteGroups user (some g.id) true
                return some ⟨409, "Cant create group. Not enough free devices"⟩
        | none, none => return none : DbM (Option Response)).Runs DbOp.exec db r db' →
      Selects user now g (listedSelection db user sel g serials amount) db db' := by
    intro serials amount hrun
    cases serials with
    | some serials => exact hadd _ hrun
    | none =>
      cases amount with
      | some amount => exact runs_loadBookable hrun
      | none => exact hnothing hrun
  unfold selection
  cases hserials : sel.serials with
  | some serials =>
    rw [hserials] at hrun
    exact hlisted _ _ hrun
  | none =>
    cases hamount : sel.amount with
    | some amount =>
      rw [hserials, hamount] at hrun
      exact hlisted _ _ hrun
    | none =>
      -- neither serials nor an amount: the devices of the subscribed groups
      rw [hserials, hamount] at hrun
      have hrun' : (match selectDevices g [] (db.groups.docs.filter fun g =>
          g.id ∈ user.subscribed) with
        | .error e => throw e
        | .ok serials => addDevicesToGroup user now target sel.isInternal g serials :
          DbM (Option Response)).Runs DbOp.exec db r db' := hrun
      dsimp only
      cases hselect : selectDevices g [] (db.groups.docs.filter fun g => g.id ∈ user.subscribed) with
      | error e =>
        rw [hselect] at hrun'
        obtain ⟨-, rfl⟩ := hrun'
        exact hnothing ⟨rfl, rfl⟩
      | ok serials =>
        rw [hselect] at hrun'
        exact hadd _ hrun'

/-- What `addSelectedDevices` does when it runs for the owner. -/
theorem addSelectedDevices_changed (hg : db.groups.findOne g.id = some g) (hid : PlainId g.id)
    (howner : g.owner.email = owner.email) (ht : g.Transient)
    (hrun : (addSelectedDevices owner now sel g).Runs DbOp.exec db r db') :
    ChangedIff g (SelectionTakes db g (selection db owner sel g)) db db' := by
  obtain ⟨db₁, db₂, r', target, isInternal, hlock, hunlock, hrun⟩ := runs_addSelectedDevices hrun
  have hg₁ : db₁.groups.findOne g.id = some g := by rw [hlock.groups, hg]
  refine ChangedIff.congr ?_ hunlock.groups
  cases hselection : selection db owner sel g with
  | nothing =>
    rw [hselection] at hrun
    exact .inr ⟨id, (congrArg Db.groups hrun.2).trans hlock.groups⟩
  | giveUp =>
    rw [hselection] at hrun
    rcases deleteGroups_own hg₁ hid howner ht hrun with ⟨hroot, hsame⟩ | ⟨hroot, hgone⟩
    · exact .inr ⟨fun h => h hroot, hsame.trans hlock.groups⟩
    · refine .inl ⟨hroot, ?_⟩
      rw [hgone]
      exact fun h => by cases h
  | add serials =>
    rw [hselection] at hrun
    exact ChangedIff.of_groups_users hlock.groups hlock.users
      (addDevicesToGroup_changed hg₁ hid howner ht hrun)

end Add

/-! ### `addGroupDevices` -/

theorem not_authorized {user : User} {db db' : Db} {g : Group}
    (hg : db.groups.findOne g.id = some g) (hperm : hasGroupEditPermission g user = false)
    (hne : db'.groups.findOne g.id ≠ some g) : ¬ Authorized user db db' := by
  intro h
  obtain ⟨g', hg', hallowed⟩ := h g.id (by rwa [hg])
  obtain rfl := Option.some.inj (hg.symm.trans hg')
  cases hsome : (db'.groups.findOne g.id).isSome with
  | true =>
    rw [hsome, hperm] at hallowed
    cases hallowed
  | false =>
    rw [hsome] at hallowed
    rw [hasGroupEditPermission_mono hallowed] at hperm
    cases hperm

/-- A member who may not edit the transient group has its owner's request for devices change it. -/
def AddEscalates (db : Db) (user : User) (id : String) (sel : groups.DeviceSelection) : Prop :=
  ∃ g, db.groups.findOne id = some g ∧ Group.isMember user.email g = true ∧
    hasGroupEditPermission g user = false ∧ g.Transient ∧
    ∃ owner, db.users.findOne g.owner.email = some owner ∧
      SelectionTakes db g (selection db owner sel g)

section Add

open GroupModel UserModel groups

variable {db db' : Db} {user : User} {now : Int} {sel : DeviceSelection} {id : String}
  {reruns : Nat} {r : Except JsError (Option Response)}

/-- `addGroupDevices` for a user who may edit the group. -/
theorem runs_addGroupDevices_editor {g : Group} (hg : db.groups.findOne id = some g)
    (hmember : Group.isMember user.email g = true)
    (hperm : hasGroupEditPermission g user = true)
    (hrun : (groups.addGroupDevices now sel id reruns user).Runs DbOp.exec db r db') :
    db' = db ∧ ¬ g.Transient ∨
      g.Transient ∧ ∃ r', (addSelectedDevices user now sel g).Runs DbOp.exec db r' db' := by
  unfold groups.addGroupDevices at hrun
  rw [bind_eq, Db.runs_getUserGroup, hg, Option.filter_some_pos hmember] at hrun
  dsimp only at hrun
  rw [if_neg (by simp [hperm])] at hrun
  split at hrun
  · rename_i horigin
    exact .inl ⟨hrun.2, fun ht => absurd (horigin.symm.trans ht) (by decide)⟩
  · rename_i htransient
    exact .inr ⟨Bool.eq_false_iff.2 htransient, runs_rescue hrun⟩

/-- `addGroupDevices` for a member who may not edit the group: the request runs again as the stored
owner of it. -/
theorem runs_addGroupDevices_member {g : Group} (hg : db.groups.findOne id = some g)
    (hmember : Group.isMember user.email g = true)
    (hperm : hasGroupEditPermission g user = false)
    (hrun : (groups.addGroupDevices now sel id (reruns + 1) user).Runs DbOp.exec db r db') :
    db.users.findOne g.owner.email = none ∧ db' = db ∨
      ∃ owner, db.users.findOne g.owner.email = some owner ∧ g.owner.email = owner.email ∧
        hasGroupEditPermission g owner = true ∧
        (db' = db ∧ ¬ g.Transient ∨
          g.Transient ∧ ∃ r', (addSelectedDevices owner now sel g).Runs DbOp.exec db r' db') := by
  unfold groups.addGroupDevices at hrun
  rw [bind_eq, Db.runs_getUserGroup, hg, Option.filter_some_pos hmember] at hrun
  dsimp only at hrun
  rw [if_pos (by simp [hperm])] at hrun
  unfold loadUser at hrun
  rw [bind_eq, Db.runs_findUser] at hrun
  cases howner : db.users.findOne g.owner.email with
  | none =>
    rw [howner] at hrun
    exact .inl ⟨rfl, hrun.2⟩
  | some owner =>
    rw [howner] at hrun
    have hemail : g.owner.email = owner.email := (Collection.key_of_findOne howner).symm
    have hown : hasGroupEditPermission g owner = true := by
      simp [hasGroupEditPermission, hemail]
    exact .inr ⟨owner, rfl, hemail, hown,
      runs_addGroupDevices_editor hg (by simp [Group.isMember, hemail]) hown hrun⟩

/-- The user that a request for devices of the group runs as: who may not edit it has its owner do
it. -/
def effectiveUser (db : Db) (user : User) (g : Group) : Option User :=
  if hasGroupEditPermission g user then some user else db.users.findOne g.owner.email

/-- `addGroupDevices` selects devices as the effective user. -/
theorem runs_addGroupDevices
    (hrun : (groups.addGroupDevices now sel id (reruns + 1) user).Runs DbOp.exec db r db') :
    db' = db ∨ ∃ g u, db.groups.findOne id = some g ∧ Group.isMember user.email g = true ∧
      g.Transient ∧ effectiveUser db user g = some u ∧ (u = user ∨ g.owner.email = u.email) ∧
      hasGroupEditPermission g u = true ∧
      ∃ r', (addSelectedDevices u now sel g).Runs DbOp.exec db r' db' := by
  cases hfilter : (db.groups.findOne id).filter (Group.isMember user.email) with
  | none =>
    unfold groups.addGroupDevices at hrun
    rw [bind_eq, Db.runs_getUserGroup, hfilter] at hrun
    exact .inl hrun.2
  | some g =>
    obtain ⟨hg, hmember⟩ := Option.filter_eq_some_iff.1 hfilter
    cases hperm : hasGroupEditPermission g user with
    | true =>
      rcases runs_addGroupDevices_editor hg hmember hperm hrun with ⟨rfl, -⟩ | ⟨ht, hselect⟩
      · exact .inl rfl
      · exact .inr ⟨g, user, hg, hmember, ht, by simp only [effectiveUser, hperm, if_true], .inl rfl,
          hperm, hselect⟩
    | false =>
      rcases runs_addGroupDevices_member hg hmember hperm hrun with
        ⟨-, rfl⟩ | ⟨owner, howner, hemail, hown, ⟨rfl, -⟩ | ⟨ht, hselect⟩⟩
      · exact .inl rfl
      · exact .inl rfl
      · refine .inr ⟨g, owner, hg, hmember, ht, ?_, .inr hemail, hown, hselect⟩
        simp only [effectiveUser, hperm, Bool.false_eq_true, if_false, howner]

theorem addGroupDevices_authorized_iff (hid : ∀ g ∈ db.groups.docs, PlainId g.id)
    (hrun : (groups.addGroupDevices now sel id (reruns + 1) user).Runs DbOp.exec db r db') :
    Authorized user db db' ↔ ¬ AddEscalates db user id sel := by
  cases hfilter : (db.groups.findOne id).filter (Group.isMember user.email) with
  | none =>
    have hnot : ¬ AddEscalates db user id sel := by
      rintro ⟨g, hg, hmember, -⟩
      rw [hg, Option.filter_some_pos hmember] at hfilter
      cases hfilter
    unfold groups.addGroupDevices at hrun
    rw [bind_eq, Db.runs_getUserGroup, hfilter] at hrun
    exact iff_of_true (.of_eq (congrArg Db.groups hrun.2)) hnot
  | some g =>
    obtain ⟨hg, hmember⟩ := Option.filter_eq_some_iff.1 hfilter
    obtain rfl : g.id = id := Collection.key_of_findOne hg
    have honly : ∀ {g'}, db.groups.findOne g.id = some g' → g' = g := fun hg' =>
      Option.some.inj (hg'.symm.trans hg)
    cases hperm : hasGroupEditPermission g user with
    | true =>
      have hnot : ¬ AddEscalates db user g.id sel := by
        rintro ⟨g', hg', -, hperm', -⟩
        rw [honly hg', hperm] at hperm'
        cases hperm'
      refine iff_of_true ?_ hnot
      rcases runs_addGroupDevices_editor hg hmember hperm hrun with ⟨rfl, -⟩ | ⟨-, r', hrun⟩
      · exact .of_eq rfl
      · refine .of_permitted (addSelectedDevices_permitted user now sel g _ _ _ hrun) ?_
        rintro _ rfl g' hg'
        rw [honly hg']
        exact hperm
    | false =>
      rcases runs_addGroupDevices_member hg hmember hperm hrun with
        ⟨howner, rfl⟩ | ⟨owner, howner, hemail, -, ⟨rfl, hnot⟩ | ⟨ht, r', hrun⟩⟩
      · refine iff_of_true (.of_eq rfl) ?_
        rintro ⟨g', hg', -, -, -, owner, howner', -⟩
        rw [honly hg', howner] at howner'
        cases howner'
      · refine iff_of_true (.of_eq rfl) ?_
        rintro ⟨g', hg', -, -, ht, -⟩
        rw [honly hg'] at ht
        exact hnot ht
      · -- the request ran again as the owner
        have hplain := hid g (Collection.mem_of_findOne hg)
        rcases addSelectedDevices_changed hg hplain hemail ht hrun with ⟨htakes, hne⟩ | ⟨hnot, hsame⟩
        · exact iff_of_false (not_authorized hg hperm hne)
            fun h => h ⟨g, hg, hmember, hperm, ht, owner, howner, htakes⟩
        · refine iff_of_true (.of_eq hsame) ?_
          rintro ⟨g', hg', -, -, -, owner', howner', htakes⟩
          obtain rfl := honly hg'
          obtain rfl := Option.some.inj (howner.symm.trans howner')
          exact hnot htakes

end Add

end DeviceHub

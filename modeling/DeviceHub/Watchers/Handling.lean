import DeviceHub.Watchers.Devices
import DeviceHub.Db.Devices

/-!
# The watcher of devices running alone

What the handler of one change of a device does when nothing else runs in between: the device leaves
the list of its old origin group and enters that of its new one, and each of the two groups that is
active moves the device.

## Main definitions

* `ActiveOrigin` : a stored group is an active origin group.
* `Handled` : what the handler of a change of the origin does.

## Main results

* `runs_leaveOriginGroup`, `runs_enterOriginGroup` : the two halves of the handler.
* `runs_onDeviceChange_stay` : a change that keeps the origin group has no effect.
* `runs_onDeviceChange_move` : a change of the origin group is handled, or not at all.
-/

namespace DeviceHub

open Prog apiutil lodash GroupModel AllModel

/-- The device when it has moved to the stored group `id`. -/
def Device.sentTo (db : Db) (id : String) (d : Device) : Device :=
  (db.groups.findOne id).elim d fun group => (DeviceChange.setCurrentGroup group).apply d

@[simp] theorem Device.origin_sentTo (db : Db) (id : String) (d : Device) :
    (d.sentTo db id).group.origin = d.group.origin := by
  unfold Device.sentTo
  cases db.groups.findOne id <;> rfl

theorem Device.id_sentTo {db : Db} {id : String} (h : (db.groups.findOne id).isSome) (d : Device) :
    (d.sentTo db id).group.id = id := by
  obtain ⟨group, hgroup⟩ := Option.isSome_iff_exists.1 h
  have hkey : group.id = id := Collection.key_of_findOne hgroup
  unfold Device.sentTo
  rw [hgroup]
  exact hkey

theorem Collection.isSome_findOne_update {α κ : Type} [Keyed α κ] [DecidableEq κ] (c : Collection α)
    (k k' : κ) (f : Update α) : ((c.update k f).findOne k').isSome = (c.findOne k').isSome := by
  rw [Collection.update, Collection.findOne_updateBy, Option.isSome_map]

namespace watchers

/-- The stored group is an active origin group. -/
def ActiveOrigin (db : Db) (id : String) : Prop :=
  ∃ g ∈ db.groups.findOne id, g.isActive = true ∧ isOriginGroup g.class_ = true

instance (db : Db) (id : String) : Decidable (ActiveOrigin db id) :=
  match hg : db.groups.findOne id with
  | none => .isFalse (by rintro ⟨g, hg', -⟩; simp [hg] at hg')
  | some g =>
    decidable_of_iff (g.isActive = true ∧ isOriginGroup g.class_ = true)
      ⟨fun h => ⟨g, hg, h⟩, fun ⟨_, hg', h⟩ => Option.some.inj (hg.symm.trans hg') ▸ h⟩

theorem activeOrigin_iff {db : Db} {id : String} {g : Group} (hg : db.groups.findOne id = some g) :
    ActiveOrigin db id ↔ g.isActive = true ∧ isOriginGroup g.class_ = true := by
  constructor
  · rintro ⟨g', hg', h⟩
    obtain rfl := Option.some.inj (hg.symm.trans hg')
    exact h
  · intro h
    exact ⟨g, hg, h⟩

/-- What `treatGroupDevicesChange` does with a group that is stored. -/
theorem runs_treatGroupDevicesChange_origin {g : Group} {serial : String} {isAddedDevice : Bool}
    {db db' : Db} {r : Except JsError Unit} (hg : db.groups.findOne g.id = some g)
    (hrun : (treatGroupDevicesChange g [serial] isAddedDevice).Runs DbOp.exec db r db') :
    r = .ok () ∧ db'.users = db.users ∧ db'.groups = db.groups ∧ ∀ s, db'.devices.findOne s =
      (db.devices.findOne s).map fun d =>
        if d.serial = serial ∧ ActiveOrigin db g.id then
          if isAddedDevice then d.sentTo db g.id else d.sentHome db
        else d := by
  have hok : r = .ok () := ok_of_treatGroupDevicesChange hrun
  unfold treatGroupDevicesChange at hrun
  split at hrun
  · rename_i hstop
    obtain ⟨rfl, rfl⟩ := hrun
    have hnot : ¬ ActiveOrigin db' g.id := by
      rw [activeOrigin_iff hg]
      rintro ⟨hactive, horigin⟩
      rcases hstop with h | h
      · exact absurd (hactive.symm.trans h) (by decide)
      · exact absurd (horigin.symm.trans h) (by decide)
    refine ⟨rfl, rfl, rfl, fun s => ?_⟩
    simp only [hnot, and_false, if_false, Option.map_id']
  · rename_i hgo
    have hactive : ActiveOrigin db g.id := by
      rw [activeOrigin_iff hg]
      simpa using hgo
    simp only [hactive, and_true]
    split at hrun
    · rename_i hadded
      obtain ⟨r', hrun⟩ := runs_detach hrun
      obtain ⟨-, rfl⟩ := hrun
      refine ⟨hok, rfl, rfl, fun s => ?_⟩
      simp only [DbOp.exec, CollOp.exec, Collection.findOne_updateBy, decide_eq_true_eq,
        List.mem_singleton, hadded, if_true]
      congr 1
      funext d
      simp only [Device.sentTo, hg, Option.elim_some]
      rfl
    · rename_i hadded
      obtain ⟨r', hrun⟩ := runs_detach hrun
      obtain ⟨husers, hgroups, hdevices⟩ := runs_updateDevicesCurrentGroupFromOrigin hrun
      refine ⟨hok, husers, hgroups, fun s => ?_⟩
      rw [hdevices]
      refine Collection.map_findOne_congr fun d hserial => ?_
      simp only [List.mem_singleton, show d.serial = s from hserial, if_neg hadded]

theorem activeOrigin_update {db : Db} {id k : String} {f : GroupChange}
    (hf : ∀ g, (f.apply g).isActive = g.isActive ∧ (f.apply g).class_ = g.class_) :
    ActiveOrigin (DbOp.exec (.groups (.update k f)) db).2 id ↔ ActiveOrigin db id := by
  simp only [ActiveOrigin, DbOp.exec, CollOp.exec, Collection.update, Collection.findOne_updateBy]
  cases hg : db.groups.findOne id with
  | none => simp
  | some g =>
    simp only [Option.map_some, Option.mem_def, Option.some.injEq, exists_eq_left']
    split
    · rw [GroupChange.effect_apply, (hf g).1, (hf g).2]
    · rfl

/-- Both halves of the handler change the list of the group, and move the device when the group is
an active origin group. -/
theorem runs_changeOriginGroup (f : GroupChange) (isAddedDevice : Bool) {origin serial : String}
    {db db' : Db} {r : Except JsError Unit}
    (hf : ∀ g, (f.apply g).isActive = g.isActive ∧ (f.apply g).class_ = g.class_)
    (hid : ∀ g, (f.apply g).id = g.id)
    (hrun : (do
      match ← getGroup origin with
      | none => return ()
      | some g =>
        let _ ← (do
          let newGroup ← Db.updateGroup g.id f
          let newGroup ← sendGroupChange (newGroup.map (·.2))
          treatGroupDevicesChange newGroup [serial] isAddedDevice
          return newGroup : DbM Group)
        return () : DbM Unit).Runs DbOp.exec db r db') :
    r = .ok () ∧ db'.users = db.users ∧ db'.groups = db.groups.update origin (effect f) ∧
      ∀ s, db'.devices.findOne s = (db.devices.findOne s).map fun d =>
        if d.serial = serial ∧ ActiveOrigin db origin then
          if isAddedDevice then d.sentTo db' origin else d.sentHome db'
        else d := by
  unfold getGroup at hrun
  rw [bind_eq, Db.runs_findGroup] at hrun
  cases hg : db.groups.findOne origin with
  | none =>
    -- nothing changes, and no group is active
    rw [hg] at hrun
    obtain ⟨rfl, rfl⟩ := hrun
    have hnot : ¬ ActiveOrigin db' origin := by
      rintro ⟨g, hg', -⟩
      simp [hg] at hg'
    refine ⟨rfl, rfl, (Collection.update_of_findOne_none _ hg).symm, fun s => ?_⟩
    simp only [hnot, and_false, if_false, Option.map_id']
  | some g =>
    obtain rfl : g.id = origin := Collection.key_of_findOne hg
    rw [hg] at hrun
    dsimp only at hrun
    rw [bind_eq, bind_eq, Prog.bind_assoc, Db.runs_updateGroup, hg] at hrun
    set db₁ := (DbOp.exec (.groups (.update g.id f)) db).2 with hdb₁
    have hstored : db₁.groups.findOne (f.apply g).id = some (f.apply g) := by
      rw [hid]
      exact Collection.findOne_update_self _ hg
    have hactive : ActiveOrigin db₁ g.id ↔ ActiveOrigin db g.id := activeOrigin_update hf
    have hrest : (((treatGroupDevicesChange (f.apply g) [serial] isAddedDevice).bind fun _ =>
        Prog.ret (f.apply g)).bind fun _ => (Prog.ret () : DbM Unit)).Runs DbOp.exec db₁ r db' := hrun
    rw [Prog.bind_assoc] at hrest
    rcases runs_bind.1 hrest with ⟨a, t, htreat, hdone⟩ | ⟨e, htreat, rfl⟩
    · obtain ⟨rfl, rfl⟩ := hdone
      obtain ⟨-, husers, hgroups, hdevices⟩ := runs_treatGroupDevicesChange_origin hstored htreat
      -- the moves read the groups that the list was written to
      have hto : Device.sentTo db' g.id = Device.sentTo db₁ g.id := by
        funext d
        simp only [Device.sentTo, hgroups]
      have hhome : Device.sentHome db' = Device.sentHome db₁ :=
        funext fun d => d.sentHome_congr hgroups
      refine ⟨rfl, husers, hgroups, fun s => ?_⟩
      rw [hdevices]
      simp only [hid, hactive, hto, hhome]
      rfl
    · cases (runs_treatGroupDevicesChange_origin hstored htreat).1

theorem runs_leaveOriginGroup {origin serial : String} {db db' : Db} {r : Except JsError Unit}
    (hrun : (leaveOriginGroup origin serial).Runs DbOp.exec db r db') :
    r = .ok () ∧ db'.users = db.users ∧
      db'.groups = db.groups.update origin (effect (GroupChange.pullDevice serial)) ∧
      ∀ s, db'.devices.findOne s = (db.devices.findOne s).map fun d =>
        if d.serial = serial ∧ ActiveOrigin db origin then d.sentHome db' else d := by
  have hchange := runs_changeOriginGroup (.pullDevice serial) false
    (fun _ => ⟨rfl, rfl⟩) (fun _ => rfl) hrun
  simpa only [Bool.false_eq_true, if_false] using hchange

theorem runs_enterOriginGroup {origin serial : String} {db db' : Db} {r : Except JsError Unit}
    (hrun : (enterOriginGroup origin serial).Runs DbOp.exec db r db') :
    r = .ok () ∧ db'.users = db.users ∧
      db'.groups = db.groups.update origin (effect (GroupChange.pushDevice serial)) ∧
      ∀ s, db'.devices.findOne s = (db.devices.findOne s).map fun d =>
        if d.serial = serial ∧ ActiveOrigin db origin then d.sentTo db' origin else d := by
  have hchange := runs_changeOriginGroup (.pushDevice serial) true
    (fun _ => ⟨rfl, rfl⟩) (fun _ => rfl) hrun
  simpa only [if_true] using hchange

theorem runs_sendDeviceGroupChange {group : Group} {db db' : Db} {r : Except JsError Unit}
    (hrun : (sendDeviceGroupChange group).Runs DbOp.exec db r db') : db' = db := by
  unfold sendDeviceGroupChange at hrun
  split at hrun
  · exact hrun.2
  · exact hrun.2

theorem runs_onDeviceChange {oldDoc newDoc : Device} {db db' : Db} {r : Except JsError Unit}
    (hrun : (onDeviceChange (.update oldDoc newDoc)).Runs DbOp.exec db r db') :
    db.groups.findOne newDoc.group.id = none ∧ db' = db ∨
      ∃ group r', db.groups.findOne newDoc.group.id = some group ∧
        (updateGroups group oldDoc newDoc).Runs DbOp.exec db r' db' := by
  obtain ⟨r', hrun⟩ := runs_rescue hrun
  unfold getGroup at hrun
  rw [bind_eq, Db.runs_findGroup] at hrun
  cases hgroup : db.groups.findOne newDoc.group.id with
  | none =>
    rw [hgroup] at hrun
    exact .inl ⟨rfl, hrun.2⟩
  | some group =>
    rw [hgroup] at hrun
    exact .inr ⟨group, r', rfl, hrun⟩

/-- A change that keeps the origin group has no effect on the database. -/
theorem runs_onDeviceChange_stay {oldDoc newDoc : Device} {db db' : Db} {r : Except JsError Unit}
    (horigin : newDoc.group.origin = oldDoc.group.origin)
    (hrun : (onDeviceChange (.update oldDoc newDoc)).Runs DbOp.exec db r db') : db' = db := by
  obtain ⟨-, hsame⟩ | ⟨group, r', -, hrun⟩ := runs_onDeviceChange hrun
  · exact hsame
  unfold updateGroups at hrun
  dsimp only at hrun
  split at hrun
  · exact runs_sendDeviceGroupChange hrun
  · rw [bind_eq] at hrun
    rcases runs_bind.1 hrun with ⟨a, t, hsend, hrun⟩ | ⟨e, hsend, -⟩
    · rw [if_neg (not_not.2 horigin)] at hrun
      obtain ⟨-, rfl⟩ := hrun
      split at hsend
      · exact runs_sendDeviceGroupChange hsend
      · exact hsend.2
    · split at hsend
      · exact runs_sendDeviceGroupChange hsend
      · exact hsend.2

/-- What the handler does when the device `serial` has moved from the group `old` to `origin`: the
lists are updated, and each of the groups that is active moves the device, `t` being the database
in between. -/
structure Handled (old origin serial : String) (db db' : Db) : Prop where
  users : db'.users = db.users
  groups : db'.groups = (db.groups.update old (effect (GroupChange.pullDevice serial))).update origin
    (effect (GroupChange.pushDevice serial))
  devices : ∃ t : Db,
    t.groups = db.groups.update old (effect (GroupChange.pullDevice serial)) ∧
    ∀ s, db'.devices.findOne s = (db.devices.findOne s).map fun d =>
      let d₁ := if d.serial = serial ∧ ActiveOrigin db old then d.sentHome t else d
      if d.serial = serial ∧ ActiveOrigin db origin then d₁.sentTo db' origin else d₁

/-- **A change of the origin group is handled, or not at all**: the latter happens when the current
group of the device is gone, or has no dates. -/
theorem runs_onDeviceChange_move {oldDoc newDoc : Device} {db db' : Db} {r : Except JsError Unit}
    (horigin : newDoc.group.origin ≠ oldDoc.group.origin)
    (hrun : (onDeviceChange (.update oldDoc newDoc)).Runs DbOp.exec db r db') :
    Handled oldDoc.group.origin newDoc.group.origin newDoc.serial db db' ∨ db' = db ∧
      ((db.groups.findOne newDoc.group.id).isSome → newDoc.group.id ≠ oldDoc.group.id) := by
  obtain ⟨hgone, hsame⟩ | ⟨group, r', -, hrun⟩ := runs_onDeviceChange hrun
  · exact .inr ⟨hsame, fun h => by rw [hgone] at h; cases h⟩
  unfold updateGroups at hrun
  dsimp only at hrun
  rw [if_neg fun h => h.2.2 horigin, bind_eq] at hrun
  -- the message about the current group changes nothing, but its group may be missing
  have hsent : ∀ {t : Db} {r''}, (if newDoc.group.id ≠ oldDoc.group.id ∧
      ¬ newDoc.owner.any (fun owner => decide (owner.email ∉ group.users)) = true then
        sendDeviceGroupChange group else return () : DbM Unit).Runs DbOp.exec db r'' t →
      t = db ∧ (∀ e, r'' = .error e → newDoc.group.id ≠ oldDoc.group.id) := by
    intro t r'' h
    split at h
    · rename_i hchange
      exact ⟨runs_sendDeviceGroupChange h, fun _ _ => hchange.1⟩
    · obtain ⟨rfl, rfl⟩ := h
      exact ⟨rfl, fun e he => by cases he⟩
  rcases runs_bind.1 hrun with ⟨a, t, hsend, hmove⟩ | ⟨e, hsend, -⟩
  swap
  · obtain ⟨rfl, hchange⟩ := hsent hsend
    exact .inr ⟨rfl, fun _ => hchange e rfl⟩
  obtain ⟨rfl, -⟩ := hsent hsend
  rw [if_pos horigin, bind_eq] at hmove
  rcases runs_bind.1 hmove with ⟨u, t₁, hleave, hadd⟩ | ⟨e, hleave, -⟩
  swap
  · cases (runs_leaveOriginGroup hleave).1
  obtain ⟨-, husers₁, hgroups₁, hdevices₁⟩ := runs_leaveOriginGroup hleave
  rw [bind_eq] at hadd
  rcases runs_bind.1 hadd with ⟨u, t₂, henter, hlast⟩ | ⟨e, henter, -⟩
  swap
  · cases (runs_enterOriginGroup henter).1
  obtain ⟨-, husers₂, hgroups₂, hdevices₂⟩ := runs_enterOriginGroup henter
  -- the message at the end changes nothing
  obtain rfl : db' = t₂ := by
    split at hlast
    · exact hlast.2
    · exact runs_sendDeviceGroupChange hlast
  -- leaving one group does not change whether the other is active
  have hactive : ActiveOrigin t₁ newDoc.group.origin ↔ ActiveOrigin t newDoc.group.origin := by
    have hupdate : ActiveOrigin (DbOp.exec (.groups (.update oldDoc.group.origin
        (.pullDevice newDoc.serial))) t).2 newDoc.group.origin ↔
          ActiveOrigin t newDoc.group.origin := activeOrigin_update fun _ => ⟨rfl, rfl⟩
    rw [← hupdate]
    unfold ActiveOrigin
    rw [hgroups₁]
    exact Iff.rfl
  refine .inl ⟨husers₂.trans husers₁, hgroups₂.trans (by rw [hgroups₁]), t₁, hgroups₁, fun s => ?_⟩
  rw [hdevices₂, hdevices₁, Option.map_map]
  congr 1
  funext d
  have hserial : (if d.serial = newDoc.serial ∧ ActiveOrigin t oldDoc.group.origin then
      d.sentHome t₁ else d).serial = d.serial := by
    split
    · exact d.serial_sentHome t₁
    · rfl
  simp only [Function.comp_apply, hserial, hactive]

end watchers

end DeviceHub

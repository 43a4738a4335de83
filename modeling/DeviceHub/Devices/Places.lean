import DeviceHub.Db.Devices
import DeviceHub.Scheduler.Recurring
import DeviceHub.Api.AddDevices

/-!
# Where devices are

The field `group` of a device is a copy of its current group.  It is right when the device is in the
active booking that holds it, and in its origin group when none does.  Every operation acts on one
group, and moves the devices of that group without a look at the other groups that list them.

## Main definitions

* `Group.Holds` : an active transient group holds the devices that it lists.
* `Placed` : every device is in the group that holds it, or else in its origin group.
* `Move` : what an operation on a group does to the place of one device.

## Main results

* `Move.right` : a device that is moved so is in its right place again.
* `settled_activate`, `settled_updateGroupDates`, `returned_deleteUserGroup` : the operations under
  the conditions `ActivateKeeps`, `DatesKeep` and `DeleteKeeps`.
-/

namespace DeviceHub

open Prog apiutil lodash GroupModel AllModel

/-- An active transient group holds the devices that it lists. -/
def Group.Holds (g : Group) (serial : String) : Prop :=
  g.Transient ∧ g.isActive = true ∧ serial ∈ g.devices

instance (g : Group) (serial : String) : Decidable (g.Holds serial) :=
  inferInstanceAs (Decidable (_ ∧ _))

/-- Every device is in the group that holds it, or else in its origin group. -/
def Placed (db : Db) : Prop :=
  ∀ d ∈ db.devices.docs,
    (∀ g ∈ db.groups.docs, g.Holds d.serial → d.group.id = g.id) ∧
      ((∀ g ∈ db.groups.docs, ¬ g.Holds d.serial) → d.group.id = d.group.origin)

instance (db : Db) : Decidable (Placed db) :=
  inferInstanceAs (Decidable (∀ d ∈ db.devices.docs, _))

/-- No group but `id` holds the device. -/
def Free (db : Db) (serial id : String) : Prop :=
  ∀ g ∈ db.groups.docs, g.Holds serial → g.id = id

instance (db : Db) (serial id : String) : Decidable (Free db serial id) :=
  inferInstanceAs (Decidable (∀ g ∈ db.groups.docs, _))

/-! ### Right places -/

/-- The stored group `id` holds the device. -/
def HeldBy (db : Db) (serial id : String) : Prop := ∃ g ∈ db.groups.findOne id, g.Holds serial

/-- The place is right for a device that the groups `held` hold. -/
structure Right (held : String → Prop) (place : DeviceGroup) : Prop where
  inGroup : ∀ id, held id → place.id = id
  atHome : (∀ id, ¬ held id) → place.id = place.origin

theorem heldBy_of_mem {db : Db} {g : Group} {serial : String} (hg : g ∈ db.groups.docs)
    (h : g.Holds serial) : HeldBy db serial g.id := ⟨g, Collection.findOne_of_mem hg, h⟩

theorem HeldBy.exists_mem {db : Db} {serial id : String} (h : HeldBy db serial id) :
    ∃ g ∈ db.groups.docs, g.id = id ∧ g.Holds serial := by
  obtain ⟨g, hg, hholds⟩ := h
  exact ⟨g, Collection.mem_of_findOne hg, Collection.key_of_findOne hg, hholds⟩

theorem Free.eq {db : Db} {serial id k : String} (h : Free db serial id) (hk : HeldBy db serial k) :
    k = id := by
  obtain ⟨g, hg, rfl, hholds⟩ := hk.exists_mem
  exact h g hg hholds

/-- The group holds the device if it is stored as `g` and `g` does. -/
theorem heldBy_iff {db : Db} {g : Group} {serial : String}
    (hg : db.groups.findOne g.id = some g) : HeldBy db serial g.id ↔ g.Holds serial := by
  constructor
  · rintro ⟨g', hg', h⟩
    obtain rfl := Option.some.inj (hg.symm.trans hg')
    exact h
  · intro h
    exact ⟨g, hg, h⟩

theorem placed_iff {db : Db} : Placed db ↔
    ∀ serial, ∀ d ∈ db.devices.findOne serial, Right (HeldBy db serial) d.group := by
  constructor
  · intro h serial d hd
    obtain rfl : d.serial = serial := Collection.key_of_findOne hd
    obtain ⟨hheld, hhome⟩ := h d (Collection.mem_of_findOne hd)
    refine ⟨fun id hid => ?_, fun hnone => hhome fun g hg hholds => ?_⟩
    · obtain ⟨g, hg, rfl, hholds⟩ := hid.exists_mem
      exact hheld g hg hholds
    · exact hnone g.id (heldBy_of_mem hg hholds)
  · intro h d hd
    have hright := h d.serial d (Collection.findOne_of_mem hd)
    refine ⟨fun g hg hholds => hright.inGroup g.id (heldBy_of_mem hg hholds), fun hnone => ?_⟩
    refine hright.atHome fun id hid => ?_
    obtain ⟨g, hg, -, hholds⟩ := hid.exists_mem
    exact hnone g hg hholds

/-! ### Operations on one group -/

/-- The device goes from `place` to `place'` while the group `g` becomes one that holds it if and
only if `after`. -/
inductive Move (db : Db) (g : Group) (serial : String) (after : Prop) (place place' : DeviceGroup) :
    Prop where
  /-- It stays, and the group holds it as before. -/
  | stay (hid : place'.id = place.id) (horigin : place'.origin = place.origin)
      (hafter : after ↔ g.Holds serial)
  /-- It goes to the group, which holds it. -/
  | taken (hid : place'.id = g.id) (hafter : after) (hfree : Free db serial g.id)
  /-- It goes home, and the group does not hold it. -/
  | home (hid : place'.id = place'.origin) (hafter : ¬ after) (hfree : Free db serial g.id)

/-- A device that is moved so is in its right place again. -/
theorem Move.right {db : Db} {g : Group} {serial : String} {after : Prop}
    {place place' : DeviceGroup} (hg : db.groups.findOne g.id = some g)
    (h : Right (HeldBy db serial) place) (hmove : Move db g serial after place place') :
    Right (fun id => if id = g.id then after else HeldBy db serial id) place' := by
  cases hmove with
  | stay hid horigin hafter =>
    have hsame : (fun id => if id = g.id then after else HeldBy db serial id) =
        HeldBy db serial := by
      funext id
      split
      · rename_i hself
        rw [hself, heldBy_iff hg]
        exact propext hafter
      · rfl
    rw [hsame]
    exact ⟨fun id hheld => hid.trans (h.inGroup id hheld),
      fun hnone => hid.trans ((h.atHome hnone).trans horigin.symm)⟩
  | taken hid hafter hfree =>
    refine ⟨fun id hheld => ?_, fun hnone => ?_⟩
    · split at hheld
      · rename_i hself
        rw [hid, hself]
      · rename_i hne
        exact absurd (hfree.eq hheld) hne
    · exact absurd (by rw [if_pos rfl]; exact hafter) (hnone g.id)
  | home hid hafter hfree =>
    refine ⟨fun id hheld => ?_, fun _ => hid⟩
    split at hheld
    · exact absurd hheld hafter
    · rename_i hne
      exact absurd (hfree.eq hheld) hne

theorem heldBy_update {db db' : Db} {g : Group} {f : GroupChange}
    (hg : db.groups.findOne g.id = some g) (hgroups : db'.groups = db.groups.update g.id (effect f))
    (serial : String) : HeldBy db' serial =
      fun id => if id = g.id then (f.apply g).Holds serial else HeldBy db serial id := by
  funext id
  unfold HeldBy
  rw [hgroups]
  split
  · rename_i hself
    have hnew : (db.groups.update g.id (effect f)).findOne g.id = some (f.apply g) :=
      Collection.findOne_update_self _ hg
    rw [hself, hnew]
    simp
  · rename_i hne
    rw [Collection.findOne_update_ne _ hne]

theorem heldBy_delete {db db' : Db} {id : String} (hgroups : db'.groups = db.groups.delete id)
    (serial : String) : HeldBy db' serial =
      fun k => if k = id then False else HeldBy db serial k := by
  funext k
  unfold HeldBy
  rw [hgroups]
  split
  · rename_i hself
    rw [hself, Collection.findOne_delete_self]
    simp
  · rename_i hne
    rw [Collection.findOne_delete_ne hne]

theorem placed_of_moves {db db' : Db} {g : Group} {after : String → Prop} {h : Device → Device}
    (hplaced : Placed db) (hg : db.groups.findOne g.id = some g)
    (hheld : ∀ serial, HeldBy db' serial =
      fun id => if id = g.id then after serial else HeldBy db serial id)
    (hdevices : ∀ serial, db'.devices.findOne serial = (db.devices.findOne serial).map h)
    (hmove : ∀ serial, ∀ d ∈ db.devices.findOne serial,
      Move db g serial (after serial) d.group (h d).group) : Placed db' := by
  refine placed_iff.2 fun serial d' hd' => ?_
  rw [hdevices] at hd'
  obtain ⟨d, hd, rfl⟩ := Option.map_eq_some_iff.1 hd'
  rw [hheld]
  exact (hmove serial d hd).right hg (placed_iff.1 hplaced serial d hd)

/-- The origins are what they were, and every device is in its right place. -/
structure Settled (db db' : Db) : Prop where
  origins : ∀ serial, ∀ d' ∈ db'.devices.findOne serial,
    ∃ d ∈ db.devices.findOne serial, d'.group.origin = d.group.origin
  placed : Placed db'

theorem settled_of_moves {db db' : Db} {g : Group} {after : String → Prop} {h : Device → Device}
    (hplaced : Placed db) (hg : db.groups.findOne g.id = some g)
    (hheld : ∀ serial, HeldBy db' serial =
      fun id => if id = g.id then after serial else HeldBy db serial id)
    (hdevices : ∀ serial, db'.devices.findOne serial = (db.devices.findOne serial).map h)
    (hmove : ∀ serial, ∀ d ∈ db.devices.findOne serial,
      (h d).group.origin = d.group.origin ∧ Move db g serial (after serial) d.group (h d).group) :
    Settled db db' := by
  refine ⟨fun serial d' hd' => ?_,
    placed_of_moves hplaced hg hheld hdevices fun serial d hd => (hmove serial d hd).2⟩
  rw [hdevices] at hd'
  obtain ⟨d, hd, rfl⟩ := Option.map_eq_some_iff.1 hd'
  exact ⟨d, hd, (hmove serial d hd).1⟩

theorem settled_of_same {db db' : Db} (hplaced : Placed db)
    (hheld : ∀ serial, HeldBy db' serial = HeldBy db serial)
    (hdevices : ∀ serial, ∀ d' ∈ db'.devices.findOne serial, ∃ d ∈ db.devices.findOne serial,
      d'.group.id = d.group.id ∧ d'.group.origin = d.group.origin) : Settled db db' := by
  refine ⟨fun serial d' hd' => ?_, placed_iff.2 fun serial d' hd' => ?_⟩
  · obtain ⟨d, hd, -, horigin⟩ := hdevices serial d' hd'
    exact ⟨d, hd, horigin⟩
  · obtain ⟨d, hd, hid, horigin⟩ := hdevices serial d' hd'
    have hright := placed_iff.1 hplaced serial d hd
    rw [hheld]
    exact ⟨fun id hheld => hid.trans (hright.inGroup id hheld),
      fun hnone => hid.trans ((hright.atHome hnone).trans horigin.symm)⟩

theorem Settled.refl {db : Db} (hplaced : Placed db) : Settled db db :=
  ⟨fun _ d hd => ⟨d, hd, rfl⟩, hplaced⟩

theorem heldBy_congr {db db' : Db} (h : db'.groups = db.groups) (serial : String) :
    HeldBy db' serial = HeldBy db serial := by
  funext id
  unfold HeldBy
  rw [h]

theorem settled_of_locksOnly {db db' : Db} (hplaced : Placed db) (h : LocksOnly db db') :
    Settled db db' := by
  refine settled_of_same hplaced (heldBy_congr h.groups) fun serial d' hd' => ?_
  have hsame := h.devices serial
  rw [Option.mem_def.1 hd', Option.map_some] at hsame
  obtain ⟨d, hd, hunlocked⟩ := Option.map_eq_some_iff.1 hsame.symm
  exact ⟨d, hd, congrArg (fun d => d.group.id) hunlocked.symm,
    congrArg (fun d => d.group.origin) hunlocked.symm⟩

/-! ### The scheduler -/

namespace GroupsScheduler

theorem runs_doBecomeActiveGroup {g : Group} {db db' : Db} {r : Except JsError Unit}
    (hrun : (doBecomeActiveGroup g).Runs DbOp.exec db r db') :
    db'.groups = db.groups.update g.id (effect GroupChange.activate) ∧
      ∀ serial, db'.devices.findOne serial = (db.devices.findOne serial).map fun d =>
        if d.serial ∈ g.devices then (DeviceChange.setCurrentGroup g).apply d else d := by
  have hdevices : ∀ serial, (db.devices.updateBy (fun d => decide (d.serial ∈ g.devices))
      (effect (DeviceChange.setCurrentGroup g))).findOne serial =
        (db.devices.findOne serial).map fun d =>
          if d.serial ∈ g.devices then (DeviceChange.setCurrentGroup g).apply d else d := by
    intro serial
    simp only [Collection.findOne_updateBy, decide_eq_true_eq, DeviceChange.effect_apply]
  -- the two updates are of different collections, in either order
  rcases hrun with ⟨-, rfl⟩ | ⟨-, rfl⟩
  · exact ⟨rfl, hdevices⟩
  · exact ⟨rfl, hdevices⟩

end GroupsScheduler

/-- The condition for activating the group `g`: no other group holds its devices, and an origin
group is that of its devices. -/
def ActivateKeeps (db : Db) (g : Group) : Prop :=
  ∀ serial ∈ g.devices, ∀ d ∈ db.devices.findOne serial,
    Free db serial g.id ∧ (g.Transient ∨ d.group.origin = g.id)

instance (db : Db) (g : Group) : Decidable (ActivateKeeps db g) :=
  inferInstanceAs (Decidable (∀ serial ∈ g.devices, ∀ d ∈ db.devices.findOne serial, _))

theorem settled_activate {g : Group} {db db' : Db} {r : Except JsError Unit} (hplaced : Placed db)
    (hg : db.groups.findOne g.id = some g) (hkeeps : ActivateKeeps db g)
    (hrun : (GroupsScheduler.doBecomeActiveGroup g).Runs DbOp.exec db r db') : Settled db db' := by
  obtain ⟨hgroups, hdevices⟩ := GroupsScheduler.runs_doBecomeActiveGroup hrun
  refine settled_of_moves hplaced hg (heldBy_update hg hgroups) hdevices fun serial d hd => ?_
  have hserial : d.serial = serial := Collection.key_of_findOne hd
  rw [hserial]
  split
  · rename_i hmem
    obtain ⟨hfree, horigin⟩ := hkeeps serial hmem d hd
    refine ⟨rfl, ?_⟩
    by_cases ht : g.Transient
    · exact .taken rfl ⟨ht, rfl, hmem⟩ hfree
    · have hhome : g.id = d.group.origin := (horigin.resolve_left ht).symm
      exact .home hhome (fun h => ht h.1) hfree
  · rename_i hmem
    exact ⟨rfl, .stay rfl rfl (iff_of_false (fun h => hmem h.2.2) fun h => hmem h.2.2)⟩

/-- The condition for dropping windows: a group that is left active was active before, and the
devices of one that is not are held by no other group, and have an origin to return to. -/
def DatesKeep (db : Db) (g : Group) (windowIndex : Nat) (isActive : Bool) : Prop :=
  g.dates.drop windowIndex = [] ∨ ∀ serial ∈ g.devices, ∀ d ∈ db.devices.findOne serial,
    if isActive then g.isActive = true ∨ ¬ g.Transient
    else Free db serial g.id ∧ (db.groups.findOne d.group.origin).isSome

instance (db : Db) (g : Group) (windowIndex : Nat) (isActive : Bool) :
    Decidable (DatesKeep db g windowIndex isActive) :=
  inferInstanceAs (Decidable (_ ∨ ∀ serial ∈ g.devices, ∀ d ∈ db.devices.findOne serial, _))

theorem settled_updateGroupDates {g : Group} {windowIndex : Nat} {isActive : Bool} {db db' : Db}
    {r : Except JsError Unit} (hplaced : Placed db) (hg : db.groups.findOne g.id = some g)
    (hkeeps : DatesKeep db g windowIndex isActive)
    (hrun : (GroupsScheduler.updateGroupDates g windowIndex isActive).Runs DbOp.exec db r db') :
    Settled db db' := by
  cases hsplit : g.dates.drop windowIndex with
  | nil =>
    unfold GroupsScheduler.updateGroupDates at hrun
    rw [hsplit] at hrun
    obtain ⟨-, rfl⟩ := hrun
    exact .refl hplaced
  | cons w dates =>
  have hkeeps := hkeeps.resolve_left (by simp [hsplit])
  obtain ⟨hgroups, hdevices⟩ := GroupsScheduler.moved_updateGroupDates hsplit hrun
  set db₁ := (DbOp.exec (.groups (.update g.id
    (GroupsScheduler.datesChange g windowIndex w dates isActive))) db).2 with hdb₁
  refine settled_of_moves hplaced hg (heldBy_update hg hgroups)
    (h := fun d => if isActive = false ∧ d.serial ∈ g.devices then d.sentHome db₁ else d)
    (fun serial => ?_) fun serial d hd => ?_
  · rw [hdevices]
    refine Collection.map_findOne_congr fun d hserial => ?_
    rw [show d.serial = serial from hserial]
  have hserial : d.serial = serial := Collection.key_of_findOne hd
  rw [hserial]
  by_cases hmem : serial ∈ g.devices
  · have hcond := hkeeps serial hmem d hd
    cases hactive : isActive with
    | true =>
      -- the group becomes active: its devices stay
      rw [hactive, if_pos rfl] at hcond
      rw [if_neg (by simp)]
      refine ⟨rfl, .stay rfl rfl ?_⟩
      constructor
      · rintro ⟨ht, -, hm⟩
        exact ⟨ht, hcond.resolve_right fun hnot => hnot ht, hm⟩
      · rintro ⟨ht, -, hm⟩
        exact ⟨ht, rfl, hm⟩
    | false =>
      rw [hactive] at hcond
      -- the group ends: its devices go home
      obtain ⟨hfree, horigin⟩ := hcond
      rw [if_pos ⟨rfl, hmem⟩]
      refine ⟨d.origin_sentHome db₁, .home ?_ (fun h => by cases h.2.1) hfree⟩
      rw [d.origin_sentHome db₁]
      refine Device.id_sentHome ?_
      simp only [hdb₁, DbOp.exec, CollOp.exec, Collection.update, Collection.findOne_updateBy,
        Option.isSome_map]
      exact horigin
  · rw [if_neg fun h => hmem h.2]
    exact ⟨rfl, .stay rfl rfl (iff_of_false (fun h => hmem h.2.2) fun h => hmem h.2.2)⟩

/-! ### Deletions -/

/-- The condition for deleting the group `g`: no other group holds its devices, and those of a
booking have another origin to return to. -/
def DeleteKeeps (db : Db) (g : Group) : Prop :=
  ∀ serial ∈ g.devices, ∀ d ∈ db.devices.findOne serial, Free db serial g.id ∧
    (g.Transient → (db.groups.findOne d.group.origin).isSome ∧ d.group.origin ≠ g.id)

instance (db : Db) (g : Group) : Decidable (DeleteKeeps db g) :=
  inferInstanceAs (Decidable (∀ serial ∈ g.devices, ∀ d ∈ db.devices.findOne serial, _))

theorem DeleteKeeps.congr {db db' : Db} {g : Group} (h : DeleteKeeps db g)
    (hgroups : db'.groups = db.groups) (hdevices : ∀ serial, ∀ d' ∈ db'.devices.findOne serial,
      ∃ d ∈ db.devices.findOne serial, d'.group.origin = d.group.origin) : DeleteKeeps db' g := by
  intro serial hserial d' hd'
  obtain ⟨d, hd, horigin⟩ := hdevices serial d' hd'
  have hkeeps := h serial hserial d hd
  unfold Free at hkeeps ⊢
  rw [hgroups, horigin]
  exact hkeeps

/-- Every device is in its right place; the devices whose origin has changed are idle, and have the
root group as their origin. -/
structure Returned (db db' : Db) : Prop where
  placed : Placed db'
  origins : ∀ serial, ∀ d' ∈ db'.devices.findOne serial, ∃ d ∈ db.devices.findOne serial,
    d'.group.origin = d.group.origin ∨ (∀ id, ¬ HeldBy db' serial id) ∧
      ∃ root ∈ db'.groups.findOne d'.group.origin, root.privilege = .root

theorem Settled.returned {db db' : Db} (h : Settled db db') : Returned db db' := by
  refine ⟨h.placed, fun serial d' hd' => ?_⟩
  obtain ⟨d, hd, horigin⟩ := h.origins serial d' hd'
  exact ⟨d, hd, .inl horigin⟩

theorem privilege_of_rootOf {db : Db} {root : Group} (h : rootOf db = some root) :
    root.privilege = .root :=
  of_decide_eq_true (List.mem_filter.1 (List.mem_of_mem_head? (Option.mem_def.2 h))).2

/-- What becomes of the place of a device when the group `g` is deleted. -/
theorem move_released {db : Db} {g : Group} {serial : String} {d : Device}
    (hd : db.devices.findOne serial = some d) (hkeeps : DeleteKeeps db g) :
    Move db g serial False d.group
      (d.released (DbOp.exec (.groups (.delete g.id)) db).2 g).group := by
  set db₁ := (DbOp.exec (.groups (.delete g.id)) db).2 with hdb₁
  have hserial : d.serial = serial := Collection.key_of_findOne hd
  unfold Device.released
  rw [hserial]
  split
  · rename_i hmem
    obtain ⟨hfree, hhome⟩ := hkeeps serial hmem d hd
    split
    · rename_i horigin
      have hnot : ¬ g.Transient := fun ht => absurd (horigin.symm.trans ht) (by decide)
      cases hroot : rootOf db₁ with
      | none =>
        have hstay : d.sentToRoot db₁ = d := by simp only [Device.sentToRoot, hroot]
        rw [hstay]
        exact .stay rfl rfl (iff_of_false id fun h => hnot h.1)
      | some root =>
        rw [Device.sentToRoot_eq hroot]
        exact .home rfl id hfree
    · rename_i htransient
      obtain ⟨hstored, hne⟩ := hhome (Bool.eq_false_iff.2 htransient)
      refine .home ?_ id hfree
      rw [d.origin_sentHome db₁]
      refine Device.id_sentHome ?_
      simp only [hdb₁, DbOp.exec, CollOp.exec]
      rwa [Collection.findOne_delete_ne hne]
  · rename_i hmem
    exact .stay rfl rfl (iff_of_false id fun h => hmem h.2.2)

/-- A deletion under the condition leaves the devices in their right places. -/
theorem returned_deleteUserGroup {g : Group} {db₀ db db' : Db} {r : Except JsError Deletion}
    (h : Returned db₀ db) (hg : db.groups.findOne g.id = some g)
    (hkeeps : g.privilege ≠ .root → DeleteKeeps db g)
    (hrun : (deleteUserGroup g.id).Runs DbOp.exec db r db') : Returned db₀ db' := by
  by_cases hroot : g.privilege = .root
  · -- forbidden
    unfold deleteUserGroup getGroup at hrun
    rw [bind_eq, Db.runs_findGroup, hg, Option.any_some, if_pos (by simpa using hroot)] at hrun
    obtain ⟨-, rfl⟩ := hrun
    exact h
  have hkeeps := hkeeps hroot
  obtain ⟨hgroups, hdevices⟩ := runs_deleteUserGroup hg hroot hrun
  have hheld := heldBy_delete hgroups
  refine ⟨placed_of_moves h.placed hg hheld hdevices fun serial d hd => move_released hd hkeeps,
    fun serial d' hd' => ?_⟩
  rw [hdevices] at hd'
  obtain ⟨d, hd, rfl⟩ := Option.map_eq_some_iff.1 hd'
  have hserial : d.serial = serial := Collection.key_of_findOne hd
  obtain ⟨d₀, hd₀, horigin⟩ := h.origins serial d hd
  refine ⟨d₀, hd₀, ?_⟩
  -- a device that the deletion does not return to the root group has the origin that it had
  have hkept : (d.released (DbOp.exec (.groups (.delete g.id)) db).2 g).group.origin =
      d.group.origin →
      (d.released (DbOp.exec (.groups (.delete g.id)) db).2 g).group.origin = d₀.group.origin ∨
        (∀ id, ¬ HeldBy db' serial id) ∧ ∃ root ∈ db'.groups.findOne
          (d.released (DbOp.exec (.groups (.delete g.id)) db).2 g).group.origin,
            root.privilege = .root := by
    intro hsame
    rw [hsame]
    refine horigin.imp id fun ⟨hidle, root, hstored, hpriv⟩ => ⟨fun id hid => ?_, root, ?_, hpriv⟩
    · rw [hheld] at hid
      split at hid
      · exact hid
      · exact hidle id hid
    · have hne : d.group.origin ≠ g.id := by
        intro he
        rw [he] at hstored
        obtain rfl := Option.some.inj (hg.symm.trans hstored)
        exact hroot hpriv
      rw [hgroups, Collection.findOne_delete_ne hne]
      exact hstored
  by_cases hmem : serial ∈ g.devices
  · by_cases hclass : isOriginGroup g.class_ = true
    · have hreleased : ∀ t : Db, d.released t g = d.sentToRoot t := fun t => by
        rw [Device.released, hserial, if_pos hmem, if_pos hclass]
      cases hfound : rootOf (DbOp.exec (.groups (.delete g.id)) db).2 with
      | none =>
        refine hkept ?_
        rw [hreleased]
        simp only [Device.sentToRoot, hfound]
      | some root =>
        rw [hreleased, Device.sentToRoot_eq hfound]
        refine .inr ⟨fun id hid => ?_, root, ?_, privilege_of_rootOf hfound⟩
        · rw [hheld] at hid
          split at hid
          · exact hid
          · rename_i hne
            exact hne ((hkeeps serial hmem d hd).1.eq hid)
        · rw [hgroups]
          exact Collection.findOne_of_mem (mem_of_rootOf hfound)
    · refine hkept ?_
      rw [Device.released, hserial, if_pos hmem, if_neg hclass]
      exact d.origin_sentHome _
  · refine hkept ?_
    rw [Device.released, hserial, if_neg hmem]

end DeviceHub

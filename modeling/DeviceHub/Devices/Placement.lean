import DeviceHub.Devices.Places
import DeviceHub.Api.MoveDevices
import DeviceHub.Watchers.Handling
import DeviceHub.Bookings.Exclusivity

/-!
# The current group of a device

The jobs of the scheduler, the requests that change bookings or delete groups, and the moves between
origin groups all write the current group of devices.  They keep it right under a condition on the
state in which they start: every one of them looks at one group only.

## Main definitions

* `RemoveKeeps`, `PlaceKeeps`, `AddKeeps`, `MoveKeeps` : the conditions of the requests.
* `Event`, `system` : an operation, with what the watcher of devices does about it.
* `Event.Keeps` : the condition under which an operation keeps the current groups right.

## Main results

* `placed_of_run` : in a run whose steps meet their conditions every device is in its right place.
-/

namespace DeviceHub

open Prog apiutil lodash GroupModel AllModel watchers

/-! ### Requests that remove devices -/

/-- The condition for taking the devices `removed` out of the booking `g`: those of a single booking
are held by no other group and have an origin to return to; another one is not active. -/
def RemoveKeeps (db : Db) (g : Group) (removed : List String) : Prop :=
  ∀ serial ∈ removed, ∀ d ∈ db.devices.findOne serial,
    if g.class_ = .once then Free db serial g.id ∧ (db.groups.findOne d.group.origin).isSome
    else g.isActive = false

instance (db : Db) (g : Group) (removed : List String) : Decidable (RemoveKeeps db g removed) :=
  inferInstanceAs (Decidable (∀ serial ∈ removed, ∀ d ∈ db.devices.findOne serial, _))

theorem settled_removeGroupDevices {user : User} {id : String} {serials : Option String}
    {redirected isInternal : Bool} {db db' : Db} {r : Except JsError (Option Response)}
    (hplaced : Placed db)
    (hkeeps : ∀ g ∈ db.groups.findOne id, g.Transient → g.dates ≠ [] →
      Group.isMember user.email g = true → hasGroupEditPermission g user = true →
        RemoveKeeps db g (groups.removedSerials g serials))
    (hrun : (groups.removeGroupDevices user id serials redirected isInternal).Runs DbOp.exec db r
      db') : Settled db db' := by
  rcases runs_removeGroupDevices hrun with
    rfl | ⟨g, hg, ht, hmember, hperm, newGroup, t, houtcome, hrest⟩
  · exact .refl hplaced
  obtain rfl : g.id = id := Collection.key_of_findOne hg
  set removed := groups.removedSerials g serials with hremoved
  generalize hr : (Except.ok newGroup : Except JsError Group) = re at houtcome
  cases houtcome with
  | undated hdates => cases hr
  | removed duration hduration =>
  have hdates : g.dates ≠ [] := dates_ne_of_computeDuration hduration
  have hkeeps := hkeeps g hg ht hdates hmember hperm
  set f := GroupChange.setDevices duration (difference g.devices removed) with hf
  set t := (DbOp.exec (.groups (.update g.id f)) (DbOp.exec (.users (.update g.owner.email
    (.chargeDuration g.duration duration))) db).2).2 with ht₁
  have hgroups : t.groups = db.groups.update g.id (effect f) := rfl
  have hholds : ∀ s, (f.apply g).Holds s ↔ g.Holds s ∧ s ∉ removed := by
    intro s
    show g.Transient ∧ g.isActive = true ∧ s ∈ difference g.devices removed ↔ _
    rw [mem_difference]
    unfold Group.Holds
    tauto
  split at hrest
  · rename_i honce
    obtain ⟨r', hhome⟩ := hrest
    -- the devices that a booking once has lost go home
    obtain ⟨-, hgroups', hdevices⟩ := runs_updateDevicesCurrentGroupFromOrigin hhome
    refine settled_of_moves hplaced hg (heldBy_update hg (hgroups'.trans hgroups))
      (h := fun d => if d.serial ∈ removed then d.sentHome t else d) (fun serial => ?_)
      fun serial d hd => ?_
    · rw [hdevices]
      refine Collection.map_findOne_congr fun d hserial => ?_
      rw [show d.serial = serial from hserial]
    · have hserial : d.serial = serial := Collection.key_of_findOne hd
      rw [hserial]
      split
      · rename_i hmem
        have hcond := hkeeps serial hmem d hd
        rw [if_pos honce] at hcond
        refine ⟨d.origin_sentHome t, .home ?_ (fun h => ((hholds serial).1 h).2 hmem) hcond.1⟩
        rw [d.origin_sentHome t]
        refine Device.id_sentHome ?_
        rw [hgroups, Collection.isSome_findOne_update]
        exact hcond.2
      · rename_i hmem
        exact ⟨rfl, .stay rfl rfl ((hholds serial).trans (and_iff_left hmem))⟩
  · rename_i honce
    -- the devices of a recurring booking stay where they are
    subst hrest
    refine settled_of_moves hplaced hg (heldBy_update hg hgroups) (h := id) (fun serial => ?_)
      fun serial d hd => ⟨rfl, .stay rfl rfl ?_⟩
    · rw [Option.map_id]
      rfl
    · rw [hholds]
      refine and_iff_left_of_imp fun h hmem => ?_
      have hcond := hkeeps serial hmem d hd
      rw [if_neg honce] at hcond
      exact absurd (h.2.1.symm.trans hcond) (by decide)

/-! ### Requests that add devices -/

section Add

open groups

/-- The condition for adding devices to the booking `g`.  Inside its window its devices go to it, so
that it has to be active and no other group to hold one of them; otherwise they stay where they are,
so that it must not be. -/
def PlaceKeeps (db : Db) (now : Int) (g : Group) (serials : List String) : Prop :=
  if InWindow now g then
    ∀ serial ∈ union g.devices serials, ∀ d ∈ db.devices.findOne serial,
      g.isActive = true ∧ Free db serial g.id
  else ∀ serial ∈ serials, serial ∉ g.devices → ∀ d ∈ db.devices.findOne serial, g.isActive = false

instance (db : Db) (now : Int) (g : Group) (serials : List String) :
    Decidable (PlaceKeeps db now g serials) := by
  unfold PlaceKeeps
  infer_instance

theorem inWindow_congr {now : Int} {g g' : Group} (h : g'.dates = g.dates) :
    InWindow now g' ↔ InWindow now g := by
  unfold InWindow checkDatesOverlaps
  simp only [List.find?_cons, List.find?_nil, h]
  split <;> simp

/-- The devices of the group, to which `serials` were added, are placed. -/
theorem settled_placeDevices {db t : Db} {now : Int} {g newGroup : Group} {serials : List String}
    (hplaced : Placed db) (hg : db.groups.findOne g.id = some g) (ht : g.Transient)
    (hid : newGroup.id = g.id) (hclass : newGroup.class_ = g.class_)
    (hactive : newGroup.isActive = g.isActive) (hdates : newGroup.dates = g.dates)
    (hlist : ∀ s, s ∈ newGroup.devices ↔ s ∈ g.devices ∨ s ∈ serials)
    (hheld : ∀ serial, HeldBy t serial =
      fun id => if id = g.id then newGroup.Holds serial else HeldBy db serial id)
    (hdevices : t.devices = db.devices) (hkeeps : PlaceKeeps db now g serials) :
    Settled db (placeDevices now newGroup t) := by
  have hholds : ∀ s, newGroup.Holds s ↔ g.isActive = true ∧ (s ∈ g.devices ∨ s ∈ serials) := by
    intro s
    have htransient : newGroup.Transient := by
      unfold Group.Transient
      rwa [hclass]
    unfold Group.Holds
    rw [hactive, hlist]
    exact and_iff_right htransient
  unfold PlaceKeeps at hkeeps
  unfold placeDevices
  by_cases hwindow : InWindow now g
  · -- in its window the group takes the devices
    rw [if_pos hwindow] at hkeeps
    rw [if_pos ((inWindow_congr hdates).2 hwindow)]
    refine settled_of_moves hplaced hg hheld
      (h := fun d => if d.serial ∈ newGroup.devices then
        (DeviceChange.setCurrentGroup newGroup).apply d else d) (fun serial => ?_)
      fun serial d hd => ?_
    · simp only [DbOp.exec, CollOp.exec, Collection.findOne_updateBy, hdevices, decide_eq_true_eq,
        DeviceChange.effect_apply]
    · have hserial : d.serial = serial := Collection.key_of_findOne hd
      rw [hserial]
      split
      · rename_i hmem
        obtain ⟨hon, hfree⟩ := hkeeps serial (mem_union.2 ((hlist serial).1 hmem)) d hd
        exact ⟨rfl, .taken hid ((hholds serial).2 ⟨hon, (hlist serial).1 hmem⟩) hfree⟩
      · rename_i hmem
        have hout : serial ∉ g.devices := fun h => hmem ((hlist serial).2 (.inl h))
        exact ⟨rfl, .stay rfl rfl (iff_of_false
          (fun h => hmem ((hlist serial).2 ((hholds serial).1 h).2)) fun h => hout h.2.2)⟩
  · -- outside its window nothing moves
    rw [if_neg hwindow] at hkeeps
    rw [if_neg fun h => hwindow ((inWindow_congr hdates).1 h)]
    refine settled_of_moves hplaced hg hheld (h := id) (fun serial => ?_)
      fun serial d hd => ⟨rfl, .stay rfl rfl ?_⟩
    · rw [hdevices, Option.map_id]
      rfl
    · rw [hholds]
      constructor
      · rintro ⟨hon, hmem⟩
        refine ⟨ht, hon, ?_⟩
        by_contra hout
        have hoff := hkeeps serial (hmem.resolve_left hout) hout d hd
        exact absurd (hon.symm.trans hoff) (by decide)
      · rintro ⟨-, hon, hmem⟩
        exact ⟨hon, .inl hmem⟩

/-- The condition for a removal of the group `g` by the user, if it takes place. -/
def RemovalKeeps (db : Db) (user : User) (g : Group) : Prop :=
  Removes db user g → g.class_ ≠ .bookable → DeleteKeeps db g

instance (db : Db) (user : User) (g : Group) : Decidable (RemovalKeeps db user g) :=
  inferInstanceAs (Decidable (_ → _))

theorem RemovalKeeps.congr {db db' : Db} {user : User} {g : Group} (h : RemovalKeeps db user g)
    (hgroups : db'.groups = db.groups) (hdevices : ∀ serial, ∀ d' ∈ db'.devices.findOne serial,
      ∃ d ∈ db.devices.findOne serial, d'.group.origin = d.group.origin) :
    RemovalKeeps db' user g := by
  intro hremoves hclass
  refine DeleteKeeps.congr (h ⟨hremoves.member, hremoves.permission, hremoves.notRoot, ?_⟩ hclass)
    hgroups hdevices
  intro hbookable
  exact absurd hbookable hclass

theorem returned_removeGroup {user : User} {id : String} {db₀ db db' : Db}
    {r : Except JsError Removal} (h : Returned db₀ db)
    (hkeeps : ∀ g ∈ db.groups.findOne id, RemovalKeeps db user g)
    (hrun : (removeGroup user id).Runs DbOp.exec db r db') : Returned db₀ db' := by
  rcases runs_removeGroup hrun with rfl | ⟨g, hg, hremoves, r', hdelete⟩
  · exact h
  obtain rfl : g.id = id := Collection.key_of_findOne hg
  refine returned_deleteUserGroup h hg (fun _ => ?_) hdelete
  by_cases hclass : g.class_ = .bookable
  · -- none of the devices of a bookable group that is deleted is booked
    intro serial hserial d hd
    refine ⟨fun g' hg' hholds => ?_, fun ht => ?_⟩
    · exact absurd ⟨g', hg', hholds.1, hholds.2.2⟩ (hremoves.notBooked hclass serial hserial)
    · have horigin : isOriginGroup g.class_ = true := by
        rw [hclass]
        rfl
      exact absurd (horigin.symm.trans ht) (by decide)
  · exact hkeeps g hg hremoves hclass

theorem returned_giveUp {user : User} {g : Group} {redirected : Bool} {db₀ db db' : Db}
    {r : Except JsError (Option Response)} (h : Returned db₀ db) (hid : PlainId g.id)
    (hg : db.groups.findOne g.id = some g) (hkeeps : RemovalKeeps db user g)
    (hrun : (deleteGroups user (some g.id) redirected).Runs DbOp.exec db r db') :
    Returned db₀ db' := by
  obtain ⟨r₁, hrun⟩ := runs_deleteGroups hrun
  rw [hid.targets] at hrun
  obtain ⟨r₂, hrun⟩ : ∃ r₂, (removeGroup user g.id).Runs DbOp.exec db r₂ db' :=
    runs_discard (f := fun a => [a]) hrun
  refine returned_removeGroup h (fun g' hg' => ?_) hrun
  obtain rfl := Option.some.inj (hg.symm.trans hg')
  exact hkeeps

/-- The condition for a request to add `serials` to the booking `g`, which gives the group up when
the charge for them changes nothing. -/
def AddKeeps (db : Db) (now : Int) (user : User) (g : Group) (serials : List String) : Prop :=
  (serials = [] → PlaceKeeps db now g []) ∧
    (serials ≠ [] → ∀ duration, computeDuration g serials.length = .ok duration →
      (ChargeIdle db g.owner.email g.duration duration → PlainId g.id ∧ RemovalKeeps db user g) ∧
      (¬ ChargeIdle db g.owner.email g.duration duration →
        checkDatesOverlaps g.dates (db.groups.docs.filter (bookingsOf serials)) = none →
          PlaceKeeps db now g serials))

theorem returned_addDevicesToGroup {user : User} {now : Int} {target : String} {isInternal : Bool}
    {g : Group} {serials : List String} {db db' : Db} {r : Except JsError (Option Response)}
    (hplaced : Placed db) (hg : db.groups.findOne g.id = some g) (ht : g.Transient)
    (hkeeps : AddKeeps db now user g serials)
    (hrun : (addDevicesToGroup user now target isInternal g serials).Runs DbOp.exec db r db') :
    Returned db db' := by
  obtain ⟨r', t, hadd, hends⟩ := runs_addDevicesToGroup hg ht hrun
  cases hadd with
  | nothing hserials =>
    cases hends with
    | added newGroup t hplace =>
      rw [hplace]
      refine Settled.returned (settled_placeDevices hplaced hg ht rfl rfl rfl rfl
        (fun s => by simp) (fun serial => ?_) rfl (hkeeps.1 hserials))
      funext id
      split
      · rename_i hself
        rw [hself, heldBy_iff hg]
      · rfl
  | undated hserials hdates =>
    cases hends with
    | failed e t he hsame => exact hsame ▸ (Settled.refl hplaced).returned
  | refused duration hserials hduration hidle =>
    obtain ⟨hid, hremoval⟩ := (hkeeps.2 hserials duration hduration).1 hidle
    have hsettled : Settled db (DbOp.exec (.users (.update g.owner.email
        (.chargeDuration g.duration duration))) db).2 :=
      settled_of_same hplaced (heldBy_congr rfl) fun _ d hd => ⟨d, hd, rfl, rfl⟩
    -- the quota refuses the devices, and the group is deleted
    have hremoval : RemovalKeeps (DbOp.exec (.users (.update g.owner.email
        (.chargeDuration g.duration duration))) db).2 user g :=
      hremoval.congr rfl fun _ d hd => ⟨d, hd, rfl⟩
    cases hends with
    | giveUp t r₂ hdelete => exact returned_giveUp hsettled.returned hid hg hremoval hdelete
    | failed e t he hsame => exact hsame ▸ hsettled.returned
  | busy duration hserials hduration hcharge hbusy =>
    cases hends with
    | failed e t he hsame =>
      rw [hsame]
      exact Settled.returned (settled_of_same hplaced (heldBy_congr rfl)
        fun _ d hd => ⟨d, hd, rfl, rfl⟩)
  | added duration hserials hduration hcharge hfree =>
    cases hends with
    | added newGroup t hplace =>
      rw [hplace]
      exact Settled.returned (settled_placeDevices hplaced hg ht rfl rfl rfl rfl
        (fun s => mem_union) (heldBy_update hg rfl) rfl
        ((hkeeps.2 hserials duration hduration).2 hcharge hfree))

/-- The condition for what a request selects. -/
def SelectionKeeps (db : Db) (now : Int) (user : User) (g : Group) : Selection → Prop
  | .nothing => True
  | .giveUp => PlainId g.id ∧ RemovalKeeps db user g
  | .add serials => AddKeeps db now user g serials

theorem LocksOnly.exists_device {db db' : Db} (h : LocksOnly db db') {serial : String} {d' : Device}
    (hd' : d' ∈ db'.devices.findOne serial) :
    ∃ d ∈ db.devices.findOne serial, d'.group.origin = d.group.origin := by
  have hsame := h.devices serial
  rw [Option.mem_def.1 hd', Option.map_some] at hsame
  obtain ⟨d, hd, hunlocked⟩ := Option.map_eq_some_iff.1 hsame.symm
  exact ⟨d, hd, congrArg (fun d => d.group.origin) hunlocked.symm⟩

theorem PlaceKeeps.locks {db db' : Db} {now : Int} {g : Group} {serials : List String}
    (h : PlaceKeeps db now g serials) (hlocks : LocksOnly db db') :
    PlaceKeeps db' now g serials := by
  unfold PlaceKeeps at h ⊢
  split
  · rename_i hwindow
    rw [if_pos hwindow] at h
    intro serial hserial d' hd'
    obtain ⟨d, hd, -⟩ := hlocks.exists_device hd'
    unfold Free
    rw [hlocks.groups]
    exact h serial hserial d hd
  · rename_i hwindow
    rw [if_neg hwindow] at h
    intro serial hserial hout d' hd'
    obtain ⟨d, hd, -⟩ := hlocks.exists_device hd'
    exact h serial hserial hout d hd

theorem SelectionKeeps.locks {db db' : Db} {now : Int} {user : User} {g : Group} {sel : Selection}
    (h : SelectionKeeps db now user g sel) (hlocks : LocksOnly db db') :
    SelectionKeeps db' now user g sel := by
  have hremoval : RemovalKeeps db user g → RemovalKeeps db' user g := fun h =>
    h.congr hlocks.groups fun _ _ hd' => hlocks.exists_device hd'
  cases sel with
  | nothing => trivial
  | giveUp => exact ⟨h.1, hremoval h.2⟩
  | add serials =>
    refine ⟨fun hnil => (h.1 hnil).locks hlocks, fun hserials duration hduration => ?_⟩
    obtain ⟨hidle, hcharge⟩ := h.2 hserials duration hduration
    unfold ChargeIdle at hidle hcharge ⊢
    rw [hlocks.users, hlocks.groups]
    exact ⟨fun hi => ⟨(hidle hi).1, hremoval (hidle hi).2⟩,
      fun hc hfree => (hcharge hc hfree).locks hlocks⟩

theorem Returned.locks {db₀ db db' : Db} (h : Returned db₀ db) (hlocks : LocksOnly db db') :
    Returned db₀ db' := by
  refine ⟨(settled_of_locksOnly h.placed hlocks).placed, fun serial d' hd' => ?_⟩
  obtain ⟨d, hd, horigin⟩ := hlocks.exists_device hd'
  obtain ⟨d₀, hd₀, hcase⟩ := h.origins serial d hd
  refine ⟨d₀, hd₀, ?_⟩
  rw [heldBy_congr hlocks.groups, hlocks.groups, horigin]
  exact hcase

theorem Returned.of_settled {db₀ db db' : Db} (h : Settled db₀ db) (h' : Returned db db') :
    Returned db₀ db' := by
  refine ⟨h'.placed, fun serial d' hd' => ?_⟩
  obtain ⟨d, hd, hcase⟩ := h'.origins serial d' hd'
  obtain ⟨d₀, hd₀, horigin⟩ := h.origins serial d hd
  exact ⟨d₀, hd₀, hcase.imp (fun hsame => hsame.trans horigin) id⟩

/-- The condition for a request of the user to add devices to the group `id`. -/
def AddRequestKeeps (db : Db) (now : Int) (sel : DeviceSelection) (id : String) (user : User) :
    Prop :=
  ∀ g ∈ db.groups.findOne id, Group.isMember user.email g = true → g.Transient →
    ∀ u ∈ effectiveUser db user g, SelectionKeeps db now u g (selection db u sel g)

theorem returned_addGroupDevices {now : Int} {sel : DeviceSelection} {id : String} {reruns : Nat}
    {user : User} {db db' : Db} {r : Except JsError (Option Response)} (hplaced : Placed db)
    (hkeeps : AddRequestKeeps db now sel id user)
    (hrun : (groups.addGroupDevices now sel id (reruns + 1) user).Runs DbOp.exec db r db') :
    Returned db db' := by
  rcases runs_addGroupDevices hrun with rfl | ⟨g, u, hg, hmember, ht, hu, -, -, r₁, hselect⟩
  · exact (Settled.refl hplaced).returned
  obtain rfl : g.id = id := Collection.key_of_findOne hg
  obtain ⟨db₁, db₂, r₂, target, isInternal, hlock, hunlock, hprog⟩ := runs_addSelectedDevices hselect
  have hkeeps := (hkeeps g hg hmember ht u hu).locks hlock
  have hsettled := settled_of_locksOnly hplaced hlock
  have hg₁ : db₁.groups.findOne g.id = some g := by rw [hlock.groups, hg]
  refine Returned.locks (Returned.of_settled hsettled ?_) hunlock
  cases hselection : selection db u sel g with
  | nothing =>
    rw [hselection] at hprog
    obtain ⟨-, rfl⟩ := hprog
    exact (Settled.refl hsettled.placed).returned
  | giveUp =>
    rw [hselection] at hprog hkeeps
    exact returned_giveUp (Settled.refl hsettled.placed).returned hkeeps.1 hg₁ hkeeps.2 hprog
  | add serials =>
    rw [hselection] at hprog hkeeps
    exact returned_addDevicesToGroup hsettled.placed hg₁ ht hkeeps hprog

/-! ### Requests that delete groups -/

/-- The condition for removing the groups `ids` one after the other: each removal keeps the devices
in their places, in the state in which it starts. -/
def DeletionsKeep (user : User) : List String → Db → Prop
  | [], _ => True
  | id :: ids, db => (∀ g ∈ db.groups.findOne id, RemovalKeeps db user g) ∧
      ∀ r db', (removeGroup user id).Runs DbOp.exec db r db' → DeletionsKeep user ids db'

theorem returned_removals {user : User} {ids : List String} {db₀ db db' : Db}
    {r : Except JsError (List Removal)} (h : Returned db₀ db) (hkeeps : DeletionsKeep user ids db)
    (hrun : (Prog.each (removeGroup user) ids).Runs DbOp.exec db r db') : Returned db₀ db' := by
  induction ids generalizing db r with
  | nil =>
    obtain ⟨-, rfl⟩ := hrun
    exact h
  | cons id ids ih =>
    obtain ⟨hone, hrest⟩ := hkeeps
    rcases runs_bind.1 hrun with ⟨a, t, hremove, hrun'⟩ | ⟨e, hremove, -⟩
    · obtain ⟨r', hrun'⟩ := runs_discard hrun'
      exact ih (returned_removeGroup h hone hremove) (hrest _ _ hremove) hrun'
    · exact returned_removeGroup h hone hremove

end Add

/-! ### Moves between origin groups -/

/-- The condition for moving devices to the origin group `g`: those that get there come from another
stored origin group, no booking holds them, and one of the two groups is active. -/
def MoveKeeps (db : Db) (g : Group) (serials : List String) : Prop :=
  ∀ serial ∈ devices.movedSerials db g serials, ∀ d ∈ db.devices.findOne serial,
    d.group.lock.isSome → d.group.origin ≠ g.id →
      (∀ h ∈ db.groups.docs, ¬ h.Holds serial) ∧ (db.groups.findOne d.group.origin).isSome ∧
        (ActiveOrigin db d.group.origin ∨ ActiveOrigin db g.id)

instance (db : Db) (g : Group) (serials : List String) : Decidable (MoveKeeps db g serials) :=
  inferInstanceAs (Decidable (∀ serial ∈ _, ∀ d ∈ db.devices.findOne serial, _ → _ → _))

/-- The handler of the change from `oldDoc` to `newDoc` is yet to run.  The device is idle, and is
in its new origin group already or gets there when the handler runs. -/
structure Underway (db : Db) (oldDoc newDoc : Device) : Prop where
  stored : (db.groups.findOne newDoc.group.origin).isSome
  idle : ∀ id, ¬ HeldBy db newDoc.serial id
  arrives : newDoc.group.id = newDoc.group.origin ∨ newDoc.group.id = oldDoc.group.id ∧
    (db.groups.findOne newDoc.group.id).isSome ∧
      (ActiveOrigin db oldDoc.group.origin ∨ ActiveOrigin db newDoc.group.origin)

theorem heldBy_update_of_holds {db db' : Db} {k serial : String} {f : GroupChange}
    (hgroups : db'.groups = db.groups.update k (effect f))
    (hf : ∀ g : Group, (f.apply g).Holds serial ↔ g.Holds serial) :
    HeldBy db' serial = HeldBy db serial := by
  funext id
  unfold HeldBy
  rw [hgroups, Collection.update, Collection.findOne_updateBy]
  cases db.groups.findOne id with
  | none => rfl
  | some g =>
    simp only [Option.map_some, Option.mem_def, Option.some.injEq, exists_eq_left',
      GroupChange.effect_apply]
    split
    · exact propext (hf g)
    · rfl

theorem holds_pullDevice {g : Group} {serial s : String} :
    ((GroupChange.pullDevice serial).apply g).Holds s ↔ g.Holds s ∧ s ≠ serial := by
  show g.Transient ∧ g.isActive = true ∧ s ∈ uniq (without g.devices serial) ↔ _
  rw [mem_uniq, mem_without]
  unfold Group.Holds
  tauto

theorem holds_pushDevice {g : Group} {serial s : String} :
    ((GroupChange.pushDevice serial).apply g).Holds s ↔
      g.Transient ∧ g.isActive = true ∧ (s ∈ g.devices ∨ s = serial) := by
  show g.Transient ∧ g.isActive = true ∧ s ∈ addToSet g.devices serial ↔ _
  rw [mem_addToSet]

namespace watchers

variable {old origin serial : String} {db db' : Db}

theorem Handled.heldBy_ne (h : Handled old origin serial db db') {s : String} (hs : s ≠ serial) :
    HeldBy db' s = HeldBy db s := by
  set t : Db := { db with groups := db.groups.update old (effect (GroupChange.pullDevice serial)) }
    with ht
  have hpull : HeldBy t s = HeldBy db s := heldBy_update_of_holds rfl fun g => by
    rw [holds_pullDevice]
    exact and_iff_left hs
  rw [← hpull]
  refine heldBy_update_of_holds (f := .pushDevice serial) h.groups fun g => ?_
  rw [holds_pushDevice]
  unfold Group.Holds
  simp only [hs, or_false]

theorem Handled.heldBy_self (h : Handled old origin serial db db')
    (hidle : ∀ id, ¬ HeldBy db serial id) {id : String} (hid : HeldBy db' serial id) :
    id = origin := by
  by_contra hne
  obtain ⟨g', hg', hholds⟩ := hid
  rw [h.groups, Collection.findOne_update_ne _ hne, Collection.update, Collection.findOne_updateBy]
    at hg'
  obtain ⟨g, hg, rfl⟩ := Option.map_eq_some_iff.1 hg'
  refine hidle id ⟨g, hg, ?_⟩
  split at hholds
  · exact (holds_pullDevice.1 hholds).1
  · exact hholds

theorem Handled.isSome_findOne (h : Handled old origin serial db db') (id : String) :
    (db'.groups.findOne id).isSome = (db.groups.findOne id).isSome := by
  rw [h.groups, Collection.isSome_findOne_update, Collection.isSome_findOne_update]

theorem Handled.activeOrigin (h : Handled old origin serial db db') (id : String) :
    ActiveOrigin db' id ↔ ActiveOrigin db id := by
  set t : Db := { db with groups := db.groups.update old (effect (GroupChange.pullDevice serial)) }
    with ht
  have hpull : ActiveOrigin t id ↔ ActiveOrigin db id :=
    activeOrigin_update (f := .pullDevice serial) fun _ => ⟨rfl, rfl⟩
  have hpush : ActiveOrigin { t with groups := db'.groups } id ↔ ActiveOrigin t id := by
    rw [h.groups]
    exact activeOrigin_update (f := .pushDevice serial) fun _ => ⟨rfl, rfl⟩
  exact hpush.trans hpull

theorem Handled.devices_ne (h : Handled old origin serial db db') {s : String} (hs : s ≠ serial) :
    db'.devices.findOne s = db.devices.findOne s := by
  obtain ⟨t, -, hdevices⟩ := h.devices
  rw [hdevices]
  cases hd : db.devices.findOne s with
  | none => rfl
  | some d =>
    have hserial : d.serial ≠ serial := by
      rw [show d.serial = s from Collection.key_of_findOne hd]
      exact hs
    simp only [Option.map_some, hserial, false_and, if_false]

/-- The device stays in its new origin group, or goes there if one of the two groups is active. -/
theorem Handled.arrives (h : Handled old origin serial db db') {d : Device}
    (hd : db.devices.findOne serial = some d) (horigin : d.group.origin = origin)
    (hstored : (db.groups.findOne origin).isSome)
    (harrives : d.group.id = origin ∨ ActiveOrigin db old ∨ ActiveOrigin db origin) :
    ∃ d', db'.devices.findOne serial = some d' ∧ d'.group.origin = origin ∧
      d'.group.id = origin := by
  have hstored' : (db'.groups.findOne origin).isSome := by rw [h.isSome_findOne, hstored]
  obtain ⟨t, hgroups, hdevices⟩ := h.devices
  have hself := hdevices serial
  have hserial : d.serial = serial := Collection.key_of_findOne hd
  rw [hd, Option.map_some] at hself
  refine ⟨_, hself, ?_⟩
  have hhome : (d.sentHome t).group.id = origin := by
    rw [← horigin]
    refine Device.id_sentHome ?_
    rw [horigin, hgroups, Collection.isSome_findOne_update, hstored]
  simp only [hserial, true_and]
  constructor
  · split <;> split <;> simp [horigin]
  · by_cases hnew : ActiveOrigin db origin
    · rw [if_pos hnew]
      exact Device.id_sentTo hstored' _
    · rw [if_neg hnew]
      by_cases hold : ActiveOrigin db old
      · rw [if_pos hold, hhome]
      · rw [if_neg hold]
        exact harrives.resolve_right (not_or.2 ⟨hold, hnew⟩)

theorem Handled.underway (h : Handled old origin serial db db') {oldDoc newDoc : Device}
    (hne : newDoc.serial ≠ serial) (hunder : Underway db oldDoc newDoc) :
    Underway db' oldDoc newDoc := by
  refine ⟨?_, ?_, ?_⟩
  · rw [h.isSome_findOne]
    exact hunder.stored
  · rw [h.heldBy_ne hne]
    exact hunder.idle
  · rw [h.isSome_findOne, h.activeOrigin, h.activeOrigin]
    exact hunder.arrives

end watchers

/-! ### What the watcher does -/

/-- The watcher handles the changes, one after the other. -/
def handleChanges (cs : List (Device × Device)) : DbM (List Unit) :=
  Prog.each (fun c => onDeviceChange (.update c.1 c.2)) cs

/-- The handlers put the devices that are under way in their right places, and leave the others
there. -/
theorem placed_of_handled {cs : List (Device × Device)} {db db' : Db}
    {r : Except JsError (List Unit)}
    (hdistinct : cs.Pairwise fun c c' => c.2.serial ≠ c'.2.serial)
    (hunder : ∀ c ∈ cs, c.2.group.origin ≠ c.1.group.origin →
      db.devices.findOne c.2.serial = some c.2 ∧ Underway db c.1 c.2)
    (hright : ∀ serial, ∀ d ∈ db.devices.findOne serial,
      (∀ c ∈ cs, c.2.serial = serial → c.2.group.origin = c.1.group.origin) →
        Right (HeldBy db serial) d.group)
    (hrun : (handleChanges cs).Runs DbOp.exec db r db') : Placed db' := by
  induction cs generalizing db r with
  | nil =>
    obtain ⟨-, rfl⟩ := hrun
    exact placed_iff.2 fun serial d hd => hright serial d hd fun c hc => by cases hc
  | cons c cs ih =>
    obtain ⟨hfirst, hdistinct⟩ := List.pairwise_cons.1 hdistinct
    rcases runs_bind.1 hrun with ⟨u, t, hone, hrest⟩ | ⟨e, hone, -⟩
    swap
    · -- the handler catches its errors
      rcases runs_tryCatch.1 hone with ⟨a, -, hr⟩ | ⟨e, t, -, hr⟩
      · cases hr
      · cases hr.1
    obtain ⟨r', hrest⟩ := runs_discard hrest
    by_cases horigin : c.2.group.origin = c.1.group.origin
    · -- the device stays in its origin group
      obtain rfl := runs_onDeviceChange_stay horigin hone
      refine ih hdistinct (fun c' hc' => hunder c' (List.mem_cons_of_mem _ hc'))
        (fun serial d hd hsame => hright serial d hd fun c' hc' hserial => ?_) hrest
      rcases List.mem_cons.1 hc' with rfl | hc'
      · exact horigin
      · exact hsame c' hc' hserial
    obtain ⟨hstored, hway⟩ := hunder c List.mem_cons_self horigin
    have hother : ∀ c' ∈ cs, c'.2.group.origin ≠ c'.1.group.origin →
        c'.2.serial ≠ c.2.serial := fun c' hc' _ he => hfirst c' hc' he.symm
    rcases runs_onDeviceChange_move horigin hone with hhandled | ⟨rfl, hgone⟩
    · refine ih hdistinct (fun c' hc' horigin' => ?_) (fun serial d hd hsame => ?_) hrest
      · obtain ⟨hstored', hway'⟩ := hunder c' (List.mem_cons_of_mem _ hc') horigin'
        have hne := hother c' hc' horigin'
        exact ⟨(hhandled.devices_ne hne).trans hstored', hhandled.underway hne hway'⟩
      · by_cases hself : serial = c.2.serial
        · subst hself
          obtain ⟨d', hd', hnew, hid⟩ := hhandled.arrives hstored rfl hway.stored
            (hway.arrives.imp id fun h => h.2.2)
          obtain rfl := Option.some.inj ((Option.mem_def.1 hd).symm.trans hd')
          refine ⟨fun id hheld => ?_, fun _ => hid.trans hnew.symm⟩
          rw [hid, hhandled.heldBy_self hway.idle hheld]
        · rw [Option.mem_def, hhandled.devices_ne hself] at hd
          rw [hhandled.heldBy_ne hself]
          refine hright serial d hd fun c' hc' hserial => ?_
          rcases List.mem_cons.1 hc' with rfl | hc'
          · exact absurd hserial.symm hself
          · exact hsame c' hc' hserial
    · -- the current group is gone: the device is in its new origin group already
      refine ih hdistinct (fun c' hc' => hunder c' (List.mem_cons_of_mem _ hc'))
        (fun serial d hd hsame => ?_) hrest
      by_cases hself : serial = c.2.serial
      · subst hself
        obtain rfl := Option.some.inj ((Option.mem_def.1 hd).symm.trans hstored)
        have hid : c.2.group.id = c.2.group.origin :=
          hway.arrives.resolve_right fun h => hgone h.2.1 h.1
        exact ⟨fun id hheld => absurd hheld (hway.idle id), fun _ => hid⟩
      · refine hright serial d hd fun c' hc' hserial => ?_
        rcases List.mem_cons.1 hc' with rfl | hc'
        · exact absurd hserial.symm hself
        · exact hsame c' hc' hserial

theorem Returned.placed_of_handled {db db₁ db' : Db} {r : Except JsError (List Unit)}
    (h : Returned db db₁) (hrun : (handleChanges (changes db db₁)).Runs DbOp.exec db₁ r db') :
    Placed db' := by
  refine DeviceHub.placed_of_handled (pairwise_changes db db₁) (fun c hc horigin => ?_)
    (fun serial d hd _ => placed_iff.1 h.placed serial d hd) hrun
  obtain ⟨hnew, hold, -⟩ := mem_changes.1 hc
  refine ⟨hnew, ?_⟩
  obtain ⟨d, hd, hcase⟩ := h.origins c.2.serial c.2 hnew
  obtain rfl := Option.some.inj ((Option.mem_def.1 hd).symm.trans hold)
  obtain ⟨hidle, root, hroot, -⟩ := hcase.resolve_left horigin
  exact ⟨Option.isSome_iff_exists.2 ⟨root, hroot⟩, hidle,
    .inl ((placed_iff.1 h.placed c.2.serial c.2 hnew).atHome hidle)⟩

/-- Every device is where it was; its origin has changed if it was moved. -/
theorem devices.Moves.exists_before {g : Group} {moved : List String} {db db₁ : Db}
    (h : devices.Moves g moved db db₁) {serial : String} {d₁ : Device}
    (hd₁ : db₁.devices.findOne serial = some d₁) :
    ∃ d ∈ db.devices.findOne serial, d₁.group.id = d.group.id ∧ d₁.group.origin =
      if serial ∈ moved ∧ d.group.lock.isSome then g.id else d.group.origin := by
  have hsame := h.origins serial
  rw [hd₁, Option.map_some] at hsame
  obtain ⟨d, hd, hunlocked⟩ := Option.map_eq_some_iff.1 hsame.symm
  have hid := congrArg (fun d => d.group.id) hunlocked
  have horigin := congrArg (fun d => d.group.origin) hunlocked
  refine ⟨d, hd, ?_, ?_⟩
  · split at hid
    · exact hid.symm
    · exact hid.symm
  · split
    · rename_i hmoved
      rw [if_pos hmoved] at horigin
      exact horigin.symm
    · rename_i hmoved
      rw [if_neg hmoved] at horigin
      exact horigin.symm

/-- The devices that a request moves to another origin group arrive there. -/
theorem devices.Moves.placed_of_handled {g : Group} {serials : List String} {db db₁ db' : Db}
    {r : Except JsError (List Unit)} (hplaced : Placed db) (hg : db.groups.findOne g.id = some g)
    (hkeeps : MoveKeeps db g serials)
    (h : devices.Moves g (devices.movedSerials db g serials) db db₁)
    (hrun : (handleChanges (changes db db₁)).Runs DbOp.exec db₁ r db') : Placed db' := by
  have hheld : ∀ serial, HeldBy db₁ serial = HeldBy db serial := heldBy_congr h.groups
  refine DeviceHub.placed_of_handled (pairwise_changes db db₁) (fun c hc hchanged => ?_)
    (fun serial d₁ hd₁ hsame => ?_) hrun
  · obtain ⟨hnew, hold, -⟩ := mem_changes.1 hc
    refine ⟨hnew, ?_⟩
    obtain ⟨d, hd, hid, horigin⟩ := h.exists_before hnew
    obtain rfl := Option.some.inj ((Option.mem_def.1 hd).symm.trans hold)
    split at horigin
    swap
    · exact absurd horigin hchanged
    rename_i hmoved
    have hne : c.1.group.origin ≠ g.id := fun he => hchanged (horigin.trans he.symm)
    obtain ⟨hfree, hsome, hactive⟩ := hkeeps c.2.serial hmoved.1 c.1 hold hmoved.2 hne
    have hidle : ∀ id, ¬ HeldBy db c.2.serial id := by
      intro id hheld'
      obtain ⟨g', hg', -, hholds⟩ := hheld'.exists_mem
      exact hfree g' hg' hholds
    have hcurrent : c.1.group.id = c.1.group.origin :=
      (placed_iff.1 hplaced c.2.serial c.1 hold).atHome hidle
    have hactive₁ : ∀ id, ActiveOrigin db₁ id ↔ ActiveOrigin db id := by
      intro id
      unfold ActiveOrigin
      rw [h.groups]
    refine ⟨?_, ?_, .inr ⟨hid, ?_, ?_⟩⟩
    · rw [h.groups, horigin, hg]
      rfl
    · rw [hheld]
      exact hidle
    · rw [h.groups, hid, hcurrent]
      exact hsome
    · rw [hactive₁, hactive₁, horigin]
      exact hactive
  · obtain ⟨d, hd, hid, horigin⟩ := h.exists_before hd₁
    have hkept : d₁.group.origin = d.group.origin := by
      by_cases hdiff : d = d₁
      · rw [hdiff]
      · have hserial : d₁.serial = serial := Collection.key_of_findOne hd₁
        have hmem : (d, d₁) ∈ changes db db₁ :=
          mem_changes.2 ⟨by rw [hserial]; exact hd₁, by rw [hserial]; exact hd, hdiff⟩
        exact hsame (d, d₁) hmem hserial
    have hright := placed_iff.1 hplaced serial d hd
    rw [hheld]
    exact ⟨fun id hheld' => hid.trans (hright.inGroup id hheld'),
      fun hnone => hid.trans ((hright.atHome hnone).trans hkept.symm)⟩

/-! ### Operations -/

/-- The condition for a job on the stored group `g`. -/
def JobKeeps (db : Db) (g : Group) : GroupsScheduler.Job → Prop
  | .afterLastWindow isOrigin => isOrigin = false → g.privilege ≠ .root → DeleteKeeps db g
  | .dropWindows windowIndex => DatesKeep db g windowIndex g.isActive
  | .becomeActive => ActivateKeeps db g
  | .afterFirstWindow isLastRepetition =>
    if g.class_ = .once ∨ isLastRepetition = true then g.privilege ≠ .root → DeleteKeeps db g
    else DatesKeep db g 0 true

instance (db : Db) (g : Group) (job : GroupsScheduler.Job) : Decidable (JobKeeps db g job) := by
  cases job <;> unfold JobKeeps <;> infer_instance

theorem returned_job {now : Int} {g : Group} {job : GroupsScheduler.Job} {db db' : Db}
    {r : Except JsError Unit} (hplaced : Placed db) (hg : db.groups.findOne g.id = some g)
    (hkeeps : JobKeeps db g job) (hrun : (job.run now g).Runs DbOp.exec db r db') :
    Returned db db' := by
  have hdelete : (g.privilege ≠ .root → DeleteKeeps db g) →
      (GroupsScheduler.deleteUserGroup g).Runs DbOp.exec db r db' → Returned db db' := by
    intro hcond h
    obtain ⟨r', h⟩ := runs_discard h
    exact returned_deleteUserGroup (Settled.refl hplaced).returned hg hcond h
  cases job with
  | afterLastWindow isOrigin =>
    cases isOrigin with
    | true =>
      -- the life time of an origin group is renewed
      have hlifetime : (GroupsScheduler.updateOriginGroupLifetime now g).Runs DbOp.exec db r db' :=
        hrun
      unfold GroupsScheduler.updateOriginGroupLifetime at hlifetime
      split at hlifetime
      · obtain ⟨-, rfl⟩ := hlifetime
        exact (Settled.refl hplaced).returned
      · rw [bind_eq, Db.runs_updateGroup] at hlifetime
        obtain ⟨-, rfl⟩ := hlifetime
        refine Settled.returned (settled_of_same hplaced (fun serial => ?_)
          fun _ d hd => ⟨d, hd, rfl, rfl⟩)
        exact heldBy_update_of_holds (f := .setLifetime _) rfl fun _ => Iff.rfl
    | false => exact hdelete (hkeeps rfl) hrun
  | dropWindows windowIndex => exact (settled_updateGroupDates hplaced hg hkeeps hrun).returned
  | becomeActive => exact (settled_activate hplaced hg hkeeps hrun).returned
  | afterFirstWindow isLastRepetition =>
    unfold JobKeeps at hkeeps
    unfold GroupsScheduler.Job.run at hrun
    dsimp only at hkeeps hrun
    split at hrun
    · rename_i hlast
      rw [if_pos hlast] at hkeeps
      exact hdelete hkeeps hrun
    · rename_i hlast
      rw [if_neg hlast] at hkeeps
      exact (settled_updateGroupDates hplaced hg hkeeps hrun).returned

/-- The operations that write the current group of devices. -/
inductive Event where
  /-- A task of the scheduler. -/
  | task (now : Int) (task : GroupsScheduler.Task)
  | addGroupDevices (now : Int) (sel : groups.DeviceSelection) (id : String) (reruns : Nat)
      (user : User)
  | removeGroupDevices (user : User) (id : String) (serials : Option String)
      (redirected isInternal : Bool)
  | deleteGroups (user : User) (ids : Option String) (redirected : Bool)
  /-- A move between origin groups. -/
  | addOriginGroupDevices (user : User) (id : String) (serials : Option String)
      (redirected : Bool)

namespace Event

/-- The operation itself; the responses play no part. -/
def prog : Event → DbM Unit
  | .task now due => GroupsScheduler.processTask now due
  | .addGroupDevices now sel id reruns user => do
    let _ ← groups.addGroupDevices now sel id (reruns + 1) user
    return ()
  | .removeGroupDevices user id serials redirected isInternal => do
    let _ ← groups.removeGroupDevices user id serials redirected isInternal
    return ()
  | .deleteGroups user ids redirected => do
    let _ ← groups.deleteGroups user ids redirected
    return ()
  | .addOriginGroupDevices user id serials redirected => do
    let _ ← devices.addOriginGroupDevices user id serials redirected
    return ()

/-- The operation keeps the devices in their right places. -/
def Keeps (db : Db) : Event → Prop
  | .task _ due => ∀ g ∈ db.groups.findOne due.groupId, JobKeeps db g due.job
  | .addGroupDevices now sel id _ user => AddRequestKeeps db now sel id user
  | .removeGroupDevices user id serials _ _ =>
    ∀ g ∈ db.groups.findOne id, g.Transient → g.dates ≠ [] → Group.isMember user.email g = true →
      hasGroupEditPermission g user = true →
        RemoveKeeps db g (groups.removedSerials g serials)
  | .deleteGroups user ids _ => DeletionsKeep user (groups.targets db user ids) db
  | .addOriginGroupDevices user id serials _ =>
    ∀ g ∈ db.groups.findOne id, Group.isMember user.email g = true →
      isOriginGroup g.class_ = true → MoveKeeps db g (devices.originList db user g serials)

end Event

/-- The operations in any order, each with the handlers of the changes of devices it has made. -/
def system : Lts Db Event where
  step db event db' := ∃ r db₁ r', event.prog.Runs DbOp.exec db r db₁ ∧
    (handleChanges (changes db db₁)).Runs DbOp.exec db₁ r' db'

/-- One operation under its condition. -/
theorem placed_of_step {db db' : Db} {event : Event} (hplaced : Placed db)
    (hkeeps : event.Keeps db) (hstep : system.step db event db') : Placed db' := by
  obtain ⟨r, db₁, r', hrun, hhandle⟩ := hstep
  cases event with
  | task now task =>
    refine Returned.placed_of_handled ?_ hhandle
    obtain ⟨r₁, hrun⟩ := runs_rescue hrun
    unfold getGroup at hrun
    rw [bind_eq, Db.runs_findGroup] at hrun
    cases hg : db.groups.findOne task.groupId with
    | none =>
      rw [hg] at hrun
      obtain ⟨-, rfl⟩ := hrun
      exact (Settled.refl hplaced).returned
    | some g =>
      rw [hg] at hrun
      have hid : g.id = task.groupId := Collection.key_of_findOne hg
      exact returned_job hplaced (hid.symm ▸ hg) (hkeeps g hg) hrun
  | addGroupDevices now sel id reruns user =>
    obtain ⟨r₁, hrun⟩ := runs_discard hrun
    exact (returned_addGroupDevices hplaced hkeeps hrun).placed_of_handled hhandle
  | removeGroupDevices user id serials redirected isInternal =>
    obtain ⟨r₁, hrun⟩ := runs_discard hrun
    exact (settled_removeGroupDevices hplaced hkeeps hrun).returned.placed_of_handled hhandle
  | deleteGroups user ids redirected =>
    obtain ⟨r₁, hrun⟩ := runs_discard hrun
    obtain ⟨r₂, hrun⟩ := runs_deleteGroups hrun
    exact (returned_removals (Settled.refl hplaced).returned hkeeps hrun).placed_of_handled hhandle
  | addOriginGroupDevices user id serials redirected =>
    obtain ⟨r₁, hrun⟩ := runs_discard hrun
    rcases devices.runs_addOriginGroupDevices hrun with rfl | ⟨g, hg, hmember, horigin, hmoves⟩
    · exact (Settled.refl hplaced).returned.placed_of_handled hhandle
    · obtain rfl : g.id = id := Collection.key_of_findOne hg
      exact hmoves.placed_of_handled hplaced hg (hkeeps g hg hmember horigin) hhandle

/-- The state after an operation. -/
def after (db : Db) (event : Event) : Db :=
  let db₁ := (event.prog.eval DbOp.exec db).2
  ((handleChanges (changes db db₁)).eval DbOp.exec db₁).2

theorem step_after (db : Db) (event : Event) : system.step db event (after db event) :=
  ⟨_, _, _, runs_eval _ _ _, runs_eval _ _ _⟩

/-- The device `d`, in the group `current` with the origin `root`, and its bookings: one at hand,
which is active or not, and a later one. -/
def twiceBooked (current : Group) (isActive : Bool) : Db where
  users := ⟨[Sample.user "u" ⟨5, 36000000⟩ ⟨2, 7200000⟩], List.nodup_singleton _⟩
  groups := ⟨[Sample.root, { Sample.booking "now" "u" .once 0 [⟨0, 3600000⟩] 3600000 ["d"] with
      isActive := isActive }, Sample.booking "later" "u" .once 0 [⟨7200000, 10800000⟩] 3600000 ["d"],
      { Sample.root with id := "other", privilege := .user }],
    (by decide : ["root", "now", "later", "other"].Nodup)⟩
  devices := ⟨[{ Sample.device "d" with
    group := { ((Sample.device "d").group.setCurrent current) with lock := some false } }],
    List.nodup_singleton _⟩

/-- The booking at hand begins and ends, the later one is deleted, and the device moves to another
origin group. -/
def endsAndMove : List Event :=
  [.task 0 ⟨"now", .activateGroup, 0, .becomeActive⟩,
    .task 3600000 ⟨"now", .handleExpiredGroupWindow, 3600000, .afterFirstWindow true⟩,
    .task 10800000 ⟨"later", .handleExpiredGroupWindow, 10800000, .afterLastWindow false⟩,
    .addOriginGroupDevices { Sample.user "admin@devicehub" ⟨5, 36000000⟩ ⟨0, 0⟩ with
      subscribed := ["root", "other"] } "other" (some "d") false]

end DeviceHub

import DeviceHub.Api.AddDevices
import DeviceHub.Api.Devices

/-!
# Requests that move devices

What the requests that take devices out of a booking, and those that move them to another origin
group, do when nothing else runs in between.

## Main definitions

* `UpdateAllowed` : what `isUpdateDeviceOriginGroupAllowed` finds out.
* `movedSerials` : the devices that a request moves to another origin group.

## Main results

* `runs_removeGroupDevices` : what the request to remove devices from a group does.
* `runs_addOriginGroupDevices` : the request moves exactly `movedSerials`, apart from locks.
-/

namespace DeviceHub

open Prog apiutil lodash

/-! ### `removeGroupDevices` -/

/-- The devices that a request removes from the group `g`. -/
def groups.removedSerials (g : Group) (serials : Option String) : List String :=
  intersection (serials.elim g.devices fun serials => without (splitComma serials) "") g.devices

theorem runs_removeGroupDevices {user : User} {id : String} {serials : Option String}
    {redirected isInternal : Bool} {db db' : Db} {r : Except JsError (Option Response)}
    (hrun : (groups.removeGroupDevices user id serials redirected isInternal).Runs DbOp.exec db r
      db') :
    db' = db ∨ ∃ g, db.groups.findOne id = some g ∧ g.Transient ∧
      Group.isMember user.email g = true ∧ hasGroupEditPermission g user = true ∧ ∃ newGroup t,
        RemoveOutcome db g (groups.removedSerials g serials) (.ok newGroup) t ∧
          if g.class_ = .once then ∃ r', (AllModel.updateDevicesCurrentGroupFromOrigin
            (groups.removedSerials g serials)).Runs DbOp.exec t r' db'
          else db' = t := by
  obtain ⟨r₁, hrun⟩ := runs_rescue hrun
  rw [bind_eq] at hrun
  rcases Db.runs_getUserGroup_cases hrun with hrun | ⟨g, hg, hmember, hrest⟩
  · exact .inl hrun.2
  · obtain rfl : g.id = id := Collection.key_of_findOne hg
    dsimp only at hrest
    split at hrest
    · exact .inl hrest.2
    -- only a booking gets past the first answers, for an owner or administrator
    rename_i htransient
    split at hrest
    · exact .inl hrest.2
    rename_i hperm
    split at hrest
    · exact .inl hrest.2
    split at hrest
    · exact .inl hrest.2
    have ht : g.Transient := Bool.eq_false_iff.2 htransient
    rcases runs_bind.1 hrest with ⟨newGroup, t, hremove, hrest⟩ | ⟨e, hremove, -⟩
    swap
    · have houtcome := removeOutcome_of_runs hg ht hremove
      generalize hr : (Except.error e : Except JsError Group) = re at houtcome
      cases houtcome with
      | undated hdates => exact .inl rfl
      | removed duration hduration => cases hr
    have houtcome := removeOutcome_of_runs hg ht hremove
    refine .inr ⟨g, hg, ht, hmember, by simpa using hperm, newGroup, t, houtcome, ?_⟩
    -- the handler tests the class of the written document
    have hclass : newGroup.class_ = g.class_ := by
      generalize hr : (Except.ok newGroup : Except JsError Group) = re at houtcome
      cases houtcome with
      | undated hdates => cases hr
      | removed duration hduration =>
        obtain rfl := Except.ok.inj hr
        rfl
    rw [hclass] at hrest
    split
    · -- the devices of a booking that is not recurring go home at once
      rename_i honce
      rw [if_pos honce] at hrest
      rcases runs_bind.1 hrest with ⟨u, t', hhome, hresp⟩ | ⟨e, hhome, -⟩
      · obtain rfl : db' = t' := by
          split at hresp
          · exact hresp.2
          · exact hresp.2
        exact runs_detach hhome
      · exact runs_detach hhome
    · rename_i honce
      rw [if_neg honce] at hrest
      exact hrest.2

/-! ### `addOriginGroupDevices` -/

namespace devices

open AllModel GroupModel

/-- No booking lists the device, or the group is bookable and has no owner of one among its
users. -/
def UpdateAllowed (db : Db) (serial : String) (targetGroup : Group) : Prop :=
  (∀ h ∈ db.groups.docs, h.Transient → serial ∉ h.devices) ∨ targetGroup.class_ ≠ .standard ∧
    ∀ h ∈ db.groups.docs, h.Transient → serial ∈ h.devices → h.owner.email ∉ targetGroup.users

instance (db : Db) (serial : String) (targetGroup : Group) :
    Decidable (UpdateAllowed db serial targetGroup) :=
  inferInstanceAs (Decidable (_ ∨ _ ∧ _))

theorem runs_isUpdateDeviceOriginGroupAllowed {α : Type} {serial : String} {targetGroup : Group}
    {k : Bool → DbM α} {db db' : Db} {r : Except JsError α} :
    ((isUpdateDeviceOriginGroupAllowed serial targetGroup).bind k).Runs DbOp.exec db r db' ↔
      (k (decide (UpdateAllowed db serial targetGroup))).Runs DbOp.exec db r db' := by
  unfold isUpdateDeviceOriginGroupAllowed getDeviceTransientGroups
  rw [bind_eq, Prog.bind_assoc, Db.runs_findGroups]
  set found := db.groups.docs.filter fun g => decide (serial ∈ g.devices) && decide g.Transient
    with hfound
  have hmem : ∀ h, h ∈ found ↔ h ∈ db.groups.docs ∧ serial ∈ h.devices ∧ h.Transient := by
    intro h
    simp [hfound, List.mem_filter]
  have hnone : found = [] ↔ ∀ h ∈ db.groups.docs, h.Transient → serial ∉ h.devices := by
    rw [List.eq_nil_iff_forall_not_mem]
    exact forall_congr' fun h => by rw [hmem]; tauto
  have howners : (!found.any fun group => decide (group.owner.email ∈ targetGroup.users)) = true ↔
      ∀ h ∈ db.groups.docs, h.Transient → serial ∈ h.devices →
        h.owner.email ∉ targetGroup.users := by
    simp only [Bool.not_eq_true', List.any_eq_false, decide_eq_true_eq, hmem]
    exact forall_congr' fun h => by tauto
  -- the three answers of the source are one condition
  have hvalue : (if found = [] then Prog.ret true else
      if targetGroup.class_ = .standard then Prog.ret false else
        Prog.ret (!found.any fun group => decide (group.owner.email ∈ targetGroup.users)) : DbM Bool) =
      Prog.ret (decide (UpdateAllowed db serial targetGroup)) := by
    by_cases hnil : found = []
    · have hallowed : UpdateAllowed db serial targetGroup := .inl (hnone.1 hnil)
      rw [if_pos hnil, decide_eq_true hallowed]
    · rw [if_neg hnil]
      by_cases hclass : targetGroup.class_ = .standard
      · have hnot : ¬ UpdateAllowed db serial targetGroup := by
          rintro (h | ⟨hne, -⟩)
          · exact hnil (hnone.2 h)
          · exact hne hclass
        rw [if_pos hclass, decide_eq_false hnot]
      · have hiff : UpdateAllowed db serial targetGroup ↔
            (!found.any fun group => decide (group.owner.email ∈ targetGroup.users)) = true := by
          rw [howners]
          exact ⟨fun h => (h.resolve_left fun h => hnil (hnone.2 h)).2, fun h => .inr ⟨hclass, h⟩⟩
        rw [if_neg hclass]
        refine congrArg Prog.ret (Bool.eq_iff_iff.2 ?_)
        rw [decide_eq_true_iff]
        exact hiff.symm
  have hrun : ∀ p : DbM Bool, p = (if found = [] then Prog.ret true else
      if targetGroup.class_ = .standard then Prog.ret false else
        Prog.ret (!found.any fun group => decide (group.owner.email ∈ targetGroup.users))) →
      ((p.bind k).Runs DbOp.exec db r db' ↔
        (k (decide (UpdateAllowed db serial targetGroup))).Runs DbOp.exec db r db') := by
    rintro p rfl
    rw [hvalue]
    exact Iff.rfl
  exact hrun _ rfl

/-- `lockDeviceByOrigin` running alone succeeds at once: it removes the lock. -/
theorem runs_lockDeviceByOrigin {α : Type} {groups : List String} {serial : String}
    {k : DeviceLockStats → DbM α} {db db' : Db} {r : Except JsError α}
    (hrun : ((lockDeviceByOrigin groups serial).bind k).Runs DbOp.exec db r db') :
    ∃ stats : DeviceLockStats,
      (stats.modifiedCount = 0 ↔ ∀ d ∈ db.devices.findOne serial, d.group.lock = none) ∧
      stats.newVal = (DbOp.exec (.devices (.update serial (.lockByOrigin groups)))
        db).2.devices.findOne serial ∧
      (k stats).Runs DbOp.exec
        (DbOp.exec (.devices (.update serial (.lockByOrigin groups))) db).2 r db' := by
  set db₁ := (DbOp.exec (.devices (.update serial (.lockByOrigin groups))) db).2 with hdb₁
  set stats := DeviceLockStats.ofUpdate ((db.devices.findOne serial).map fun d =>
    (d, (DeviceChange.lockByOrigin groups).apply d)) (db₁.devices.findOne serial) with hstats
  -- the database counts a write that changes nothing as matched only
  have hmodified : stats.modifiedCount = 0 ↔
      ∀ d ∈ db.devices.findOne serial, d.group.lock = none := by
    rw [hstats]
    cases hd : db.devices.findOne serial with
    | none => simp [DeviceLockStats.ofUpdate]
    | some d =>
      have hlock : (DeviceChange.lockByOrigin groups).apply d = d.unlocked := rfl
      have hsame : d = d.unlocked ↔ d.group.lock = none := by
        constructor
        · intro h
          rw [h]
          rfl
        · intro h
          obtain ⟨serial, group, present, ready, status, owner⟩ := d
          obtain ⟨id, name, gowner, lifeTime, class_, repetitions, origin, originName, lock⟩ := group
          simp only at h
          simp [Device.unlocked, h]
      simp [DeviceLockStats.ofUpdate, hlock, hsame]
  refine ⟨stats, hmodified, rfl, ?_⟩
  have hmatched : 0 < stats.modifiedCount ∨ 0 < stats.matchedCount ↔
      (db.devices.findOne serial).isSome := by
    rw [hstats]
    cases hd : db.devices.findOne serial with
    | none => simp [DeviceLockStats.ofUpdate]
    | some d => simp [DeviceLockStats.ofUpdate]
  have hbody : (((if 0 < stats.modifiedCount ∨ 0 < stats.matchedCount then return (stats, true)
      else do
        let devices ← loadDeviceByOrigin groups serial
        return (stats, devices.isEmpty) : DbM (DeviceLockStats × Bool)).bind fun r =>
          if r.2 = true then Prog.ret r.1
          else deviceIntervalWrapper (wrappedlockDeviceByOrigin groups serial) 9).bind k).Runs
            DbOp.exec db₁ r db' := hrun
  by_cases hsome : (db.devices.findOne serial).isSome
  · rw [if_pos (hmatched.2 hsome)] at hbody
    exact hbody
  · rw [if_neg fun h => hsome (hmatched.1 h)] at hbody
    unfold loadDeviceByOrigin at hbody
    rw [bind_eq, Prog.bind_assoc, Prog.bind_assoc, Db.runs_findDevices] at hbody
    -- without the device there is nothing to match, before or after
    have hnone : db₁.devices.findOne serial = none := by
      simp only [hdb₁, DbOp.exec, CollOp.exec, Collection.update, Collection.findOne_updateBy]
      rw [Option.not_isSome_iff_eq_none.1 hsome, Option.map_none]
    have hempty : db₁.devices.docs.filter (fun d =>
        decide (d.serial = serial) && decide (d.group.origin ∈ groups)) = [] := by
      refine List.filter_eq_nil_iff.2 fun d hd => ?_
      have hne := Collection.findOne_eq_none.1 hnone d hd
      simp only [Device.key_eq] at hne
      simp [hne]
    rw [hempty] at hbody
    exact hbody

/-- Apart from locks, from `db` to `db'` the group `g` has become the origin of the devices `moved`
that have a lock. -/
structure Moves (g : Group) (moved : List String) (db db' : Db) : Prop where
  users : db'.users = db.users
  groups : db'.groups = db.groups
  origins : ∀ serial, (db'.devices.findOne serial).map Device.unlocked =
    (db.devices.findOne serial).map fun d =>
      (if serial ∈ moved ∧ d.group.lock.isSome then (DeviceChange.setOriginGroup g).apply d
        else d).unlocked
  locks : ∀ serial, (db'.devices.findOne serial).map (fun d => d.group.lock.isSome) =
    (db.devices.findOne serial).map fun d => d.group.lock.isSome

theorem Moves.refl (g : Group) (db : Db) : Moves g [] db db := by
  refine ⟨rfl, rfl, fun serial => ?_, fun _ => rfl⟩
  simp

theorem unlocked_setOriginGroup (g : Group) {d d' : Device} (h : d'.unlocked = d.unlocked) :
    ((DeviceChange.setOriginGroup g).apply d').unlocked =
      ((DeviceChange.setOriginGroup g).apply d).unlocked := by
  have hpush : ∀ d : Device, ((DeviceChange.setOriginGroup g).apply d).unlocked =
      (DeviceChange.setOriginGroup g).apply d.unlocked := fun d => rfl
  rw [hpush, hpush, h]

theorem Moves.trans {g : Group} {moved moved' : List String} {db db₁ db' : Db}
    (h : Moves g moved db db₁) (h' : Moves g moved' db₁ db') : Moves g (moved ++ moved') db db' := by
  refine ⟨h'.users.trans h.users, h'.groups.trans h.groups, fun serial => ?_,
    fun serial => (h'.locks serial).trans (h.locks serial)⟩
  rw [h'.origins]
  have hdevices := h.origins serial
  have hlocks := h.locks serial
  cases hd : db.devices.findOne serial with
  | none =>
    rw [hd] at hdevices
    rw [Option.map_eq_none_iff.1 hdevices]
    rfl
  | some d =>
    rw [hd] at hdevices hlocks
    obtain ⟨d₁, hd₁, hunlocked⟩ := Option.map_eq_some_iff.1 hdevices
    rw [hd₁] at hlocks ⊢
    have hlock : d₁.group.lock.isSome = d.group.lock.isSome := Option.some.inj hlocks
    simp only [Option.map_some, hlock, List.mem_append]
    by_cases hsome : d.group.lock.isSome = true
    · simp only [hsome, and_true] at hunlocked ⊢
      by_cases hmem : serial ∈ moved
      · rw [if_pos hmem] at hunlocked
        rw [if_pos (.inl hmem : serial ∈ moved ∨ serial ∈ moved')]
        split
        · exact congrArg some ((unlocked_setOriginGroup g hunlocked).trans rfl)
        · exact congrArg some hunlocked
      · rw [if_neg hmem] at hunlocked
        by_cases hmem' : serial ∈ moved'
        · rw [if_pos hmem', if_pos (.inr hmem' : serial ∈ moved ∨ serial ∈ moved')]
          exact congrArg some (unlocked_setOriginGroup g hunlocked)
        · rw [if_neg hmem', if_neg (not_or.2 ⟨hmem, hmem'⟩)]
          exact congrArg some hunlocked
    · simp only [hsome, Bool.false_eq_true, and_false, if_false] at hunlocked ⊢
      exact congrArg some hunlocked

/-- What a request does to one device. -/
theorem Moves.of_self {g : Group} {moved : List String} {serial : String} {d d' : Device}
    {db db' : Db} (husers : db'.users = db.users) (hgroups : db'.groups = db.groups)
    (hne : ∀ s, s ≠ serial → db'.devices.findOne s = db.devices.findOne s)
    (hd : db.devices.findOne serial = some d) (hd' : db'.devices.findOne serial = some d')
    (hmoved : ∀ s ∈ moved, s = serial)
    (hunlocked : d'.unlocked = (if serial ∈ moved ∧ d.group.lock.isSome then
      (DeviceChange.setOriginGroup g).apply d else d).unlocked)
    (hlock : d'.group.lock.isSome = d.group.lock.isSome) : Moves g moved db db' := by
  refine ⟨husers, hgroups, fun s => ?_, fun s => ?_⟩
  · by_cases hs : s = serial
    · subst hs
      rw [hd, hd']
      exact congrArg some hunlocked
    · have hout : s ∉ moved := fun hmem => hs (hmoved s hmem)
      rw [hne s hs]
      simp only [hout, false_and, if_false]
  · by_cases hs : s = serial
    · subst hs
      rw [hd, hd']
      exact congrArg some hlock
    · rw [hne s hs]

/-- The request stops at a device that is booked. -/
def Refused (db : Db) (g : Group) (serial : String) : Prop :=
  (∃ d ∈ db.devices.docs, d.serial = serial ∧ d.group.lock.isSome = true) ∧
    ¬ UpdateAllowed db serial g

instance (db : Db) (g : Group) (serial : String) : Decidable (Refused db g serial) :=
  inferInstanceAs (Decidable ((∃ d ∈ db.devices.docs, _) ∧ _))

theorem refused_iff {db : Db} {g : Group} {serial : String} : Refused db g serial ↔
    (∃ d ∈ db.devices.findOne serial, d.group.lock.isSome = true) ∧ ¬ UpdateAllowed db serial g := by
  refine and_congr_left fun _ => ⟨?_, ?_⟩
  · rintro ⟨d, hd, rfl, hlock⟩
    exact ⟨d, Collection.findOne_of_mem hd, hlock⟩
  · rintro ⟨d, hd, hlock⟩
    exact ⟨d, Collection.mem_of_findOne hd, Collection.key_of_findOne hd, hlock⟩

theorem runs_unlock {d : Device} {db db' : Db} {r : Except JsError Unit}
    (hrun : (unlock (some d)).Runs DbOp.exec db r db') : r = .ok () ∧
      db' = (DbOp.exec (.devices (.update d.serial (.setDeviceLock false))) db).2 := hrun

/-- What happens to one device between its lock and its release. -/
theorem runs_moveDevice {g : Group} {serial : String} {db db' : Db} {r : Except JsError OriginUpdate}
    (hrun : (moveDevice g serial).Runs DbOp.exec db r db') :
    UpdateAllowed db serial g ∧ r = .ok .updated ∧
        db' = (DbOp.exec (.devices (.updateMany (fun d => d.serial ∈ [serial])
          (.setOriginGroup g))) db).2 ∨
      ¬ UpdateAllowed db serial g ∧ r = .error .booked ∧ db' = db := by
  unfold moveDevice at hrun
  rw [bind_eq, runs_isUpdateDeviceOriginGroupAllowed] at hrun
  split at hrun
  · rename_i hallowed
    refine .inl ⟨of_decide_eq_true hallowed, ?_⟩
    unfold askUpdateDeviceOriginGroup AllModel.updateDevicesOriginGroup at hrun
    rw [bind_eq, bind_eq, Prog.bind_assoc, Db.runs_updateDevices_count, pure_eq,
      ret_bind] at hrun
    split at hrun
    · exact hrun
    · exact hrun
  · rename_i hbooked
    exact .inr ⟨fun h => hbooked (decide_eq_true h), hrun⟩

/-- The lock is released after the work on the device, and also when that fails. -/
theorem runs_finally_unlock {α : Type} {p : DbM α} {d : Device} {db db' : Db}
    {r : Except JsError α}
    (hrun : ((p.tryCatch fun err => do
        unlock (some d)
        throw err).bind fun result => (unlock (some d)).bind fun _ => .ret result).Runs DbOp.exec
          db r db') :
    ∃ t, p.Runs DbOp.exec db r t ∧ (unlock (some d)).Runs DbOp.exec t (.ok ()) db' := by
  rcases runs_bind.1 hrun with ⟨a, t, htry, hrest⟩ | ⟨e, htry, rfl⟩
  · rcases runs_tryCatch.1 htry with ⟨a', hp, ha⟩ | ⟨e, t', -, hfail⟩
    · obtain rfl := Except.ok.inj ha
      rcases runs_bind.1 hrest with ⟨u, t', hunlock, hret⟩ | ⟨e, hunlock, -⟩
      · obtain ⟨rfl, rfl⟩ := hret
        exact ⟨t, hp, hunlock⟩
      · cases (runs_unlock hunlock).1
    · -- the exception is thrown again
      rcases runs_bind.1 hfail with ⟨u, t'', -, hthrow⟩ | ⟨e', -, hr'⟩
      · cases hthrow.1
      · cases hr'
  · rcases runs_tryCatch.1 htry with ⟨a', -, hr'⟩ | ⟨e', t, hp, hfail⟩
    · cases hr'
    · rcases runs_bind.1 hfail with ⟨u, t'', hunlock, hthrow⟩ | ⟨e'', hunlock, -⟩
      · obtain ⟨hr₁, rfl⟩ := hthrow
        obtain rfl := Except.error.inj hr₁
        exact ⟨t, hp, hunlock⟩
      · cases (runs_unlock hunlock).1

theorem runs_moveDevice_unlock {g : Group} {serial : String} {d : Device} {db db' : Db}
    {r : Except JsError OriginUpdate}
    (hrun : (((moveDevice g serial).tryCatch fun err => do
        unlock (some d)
        throw err).bind fun result => (unlock (some d)).bind fun _ => .ret result).Runs DbOp.exec
          db r db') :
    UpdateAllowed db serial g ∧ (∃ a, r = .ok a) ∧ (unlock (some d)).Runs DbOp.exec
        (DbOp.exec (.devices (.updateMany (fun d => d.serial ∈ [serial])
          (.setOriginGroup g))) db).2 (.ok ()) db' ∨
      ¬ UpdateAllowed db serial g ∧ r = .error .booked ∧
        (unlock (some d)).Runs DbOp.exec db (.ok ()) db' := by
  obtain ⟨t, hmove, hunlock⟩ := runs_finally_unlock hrun
  rcases runs_moveDevice hmove with ⟨hyes, rfl, rfl⟩ | ⟨hno, rfl, rfl⟩
  · exact .inl ⟨hyes, ⟨_, rfl⟩, hunlock⟩
  · exact .inr ⟨hno, rfl, hunlock⟩

/-- A device without a lock is not locked, and does not move. -/
theorem moves_lockByOrigin (g : Group) {groups : List String} {serial : String} {db : Db}
    (hnone : ∀ d ∈ db.devices.findOne serial, d.group.lock = none) :
    Moves g [serial] db (DbOp.exec (.devices (.update serial (.lockByOrigin groups))) db).2 := by
  cases hd : db.devices.findOne serial with
  | none =>
    have hsame : (DbOp.exec (.devices (.update serial (.lockByOrigin groups))) db).2 = db :=
      Db.ext rfl rfl (Collection.update_of_findOne_none _ hd)
    rw [hsame]
    refine ⟨rfl, rfl, fun s => ?_, fun _ => rfl⟩
    cases hs : db.devices.findOne s with
    | none => rfl
    | some d =>
      have hout : ¬ (s ∈ [serial] ∧ d.group.lock.isSome = true) := by
        rintro ⟨hmem, -⟩
        rw [List.mem_singleton.1 hmem, hd] at hs
        cases hs
      simp only [Option.map_some, if_neg hout]
  | some d =>
    have hlock := hnone d hd
    refine Moves.of_self rfl rfl (fun s hs => Collection.findOne_update_ne _ hs) hd
      (Collection.findOne_update_self _ hd) (fun s hs => List.mem_singleton.1 hs) ?_ ?_
    · simp only [hlock, Option.isSome_none, Bool.false_eq_true, and_false, if_false]
      rfl
    · rw [hlock]
      rfl

theorem findOne_setOriginGroup (g : Group) (serial s : String) (db : Db) :
    (DbOp.exec (.devices (.updateMany (fun d => d.serial ∈ [serial])
      (.setOriginGroup g))) db).2.devices.findOne s = (db.devices.findOne s).map fun d =>
        if s = serial then (DeviceChange.setOriginGroup g).apply d else d := by
  simp only [DbOp.exec, CollOp.exec, Collection.findOne_updateBy]
  refine Collection.map_findOne_congr fun d hserial => ?_
  simp only [show d.serial = s from hserial, List.mem_singleton, decide_eq_true_eq]
  rfl

/-- The lock of a device is released, after it was moved or not. -/
theorem moves_of_unlock {g : Group} {moved : List String} {serial : String} {d d₁ d₂ : Device}
    {db t t' : Db} {r : Except JsError Unit} (husers : t.users = db.users)
    (hgroups : t.groups = db.groups)
    (hne : ∀ s, s ≠ serial → t.devices.findOne s = db.devices.findOne s)
    (hd : db.devices.findOne serial = some d) (hlock : d.group.lock.isSome = true)
    (hserial : d₁.serial = serial) (hd₂ : t.devices.findOne serial = some d₂)
    (hmoved : ∀ s ∈ moved, s = serial)
    (hunlocked : d₂.unlocked = (if serial ∈ moved then
      (DeviceChange.setOriginGroup g).apply d else d).unlocked)
    (hrun : (unlock (some d₁)).Runs DbOp.exec t r t') : Moves g moved db t' := by
  obtain ⟨-, rfl⟩ := runs_unlock hrun
  rw [hserial]
  refine Moves.of_self husers hgroups (fun s hs => ?_) hd (Collection.findOne_update_self _ hd₂)
    hmoved ?_ ?_
  · exact (Collection.findOne_update_ne _ hs).trans (hne s hs)
  · simp only [hlock, and_true]
    exact hunlocked
  · rw [hlock]
    rfl

/-- One device: it is moved, if it has a lock, or the request stops. -/
theorem moves_updateDeviceOriginGroup {user : User} {g : Group} {serial : String} {db db' : Db}
    {r : Except JsError OriginUpdate}
    (hrun : (updateDeviceOriginGroup user g serial).Runs DbOp.exec db r db') :
    Refused db g serial ∧ r = .error .booked ∧ Moves g [] db db' ∨
      ¬ Refused db g serial ∧ (∃ a, r = .ok a) ∧ Moves g [serial] db db' := by
  unfold updateDeviceOriginGroup at hrun
  obtain ⟨stats, hmodified, hnew, hrun⟩ := runs_lockDeviceByOrigin hrun
  split at hrun
  · -- there is no device, or it has no lock
    rename_i hzero
    have hnone := hmodified.1 hzero
    obtain ⟨rfl, rfl⟩ := hrun
    refine .inr ⟨fun hrefused => ?_, ⟨_, rfl⟩, moves_lockByOrigin g hnone⟩
    obtain ⟨⟨d, hd, hlock⟩, -⟩ := refused_iff.1 hrefused
    rw [hnone d hd] at hlock
    cases hlock
  · -- the device is locked
    rename_i hsome
    obtain ⟨d, hd, hlock⟩ : ∃ d, db.devices.findOne serial = some d ∧
        d.group.lock.isSome = true := by
      by_contra hnot
      refine hsome (hmodified.2 fun d hd => ?_)
      by_contra hlock
      exact hnot ⟨d, hd, Option.isSome_iff_ne_none.2 hlock⟩
    set db₁ := (DbOp.exec (.devices (.update serial (.lockByOrigin user.subscribed))) db).2
    have hne₁ : ∀ s, s ≠ serial → db₁.devices.findOne s = db.devices.findOne s := fun s hs =>
      Collection.findOne_update_ne _ hs
    have hd₁ : db₁.devices.findOne serial =
        some ((DeviceChange.lockByOrigin user.subscribed).apply d) :=
      Collection.findOne_update_self _ hd
    have hserial := Collection.key_of_findOne hd₁
    rw [hnew, hd₁] at hrun
    have hallowed : UpdateAllowed db₁ serial g ↔ UpdateAllowed db serial g := Iff.rfl
    rcases runs_moveDevice_unlock hrun with ⟨hyes, hok, hunlock⟩ | ⟨hno, hbooked, hunlock⟩
    · set db₂ := (DbOp.exec (.devices (.updateMany (fun d => d.serial ∈ [serial])
        (.setOriginGroup g))) db₁).2 with hdb₂
      have hne₂ : ∀ s, s ≠ serial → db₂.devices.findOne s = db.devices.findOne s := by
        intro s hs
        rw [hdb₂, findOne_setOriginGroup, hne₁ s hs]
        simp only [hs, if_false, Option.map_id']
      have hd₂ := findOne_setOriginGroup g serial serial db₁
      rw [hd₁, Option.map_some, if_pos rfl] at hd₂
      refine .inr ⟨fun h => h.2 (hallowed.1 hyes), hok, moves_of_unlock (t := db₂) rfl rfl hne₂ hd
        hlock hserial hd₂ (fun s hs => List.mem_singleton.1 hs) ?_ hunlock⟩
      rw [if_pos (List.mem_singleton.2 rfl)]
      rfl
    · exact .inl ⟨refused_iff.2 ⟨⟨d, hd, hlock⟩, fun h => hno (hallowed.2 h)⟩, hbooked,
        moves_of_unlock (t := db₁) rfl rfl hne₁ hd hlock hserial hd₁
          (fun s hs => absurd hs List.not_mem_nil) rfl hunlock⟩

/-- The devices that a request for `serials` gets to. -/
def movedSerials (db : Db) (g : Group) (serials : List String) : List String :=
  serials.takeWhile fun serial => ¬ Refused db g serial

theorem Moves.refused {g : Group} {moved : List String} {db db' : Db} (h : Moves g moved db db')
    (serial : String) : Refused db' g serial ↔ Refused db g serial := by
  have hallowed : UpdateAllowed db' serial g ↔ UpdateAllowed db serial g := by
    unfold UpdateAllowed
    rw [h.groups]
  have hlocked : ∀ db : Db, (∃ d ∈ db.devices.findOne serial, d.group.lock.isSome = true) ↔
      (db.devices.findOne serial).map (fun d => d.group.lock.isSome) = some true := by
    intro db
    rw [Option.map_eq_some_iff]
    exact Iff.rfl
  rw [refused_iff, refused_iff, hallowed, hlocked, hlocked, h.locks]

theorem moves_each {user : User} {g : Group} {serials : List String} {db db' : Db}
    {r : Except JsError (List OriginUpdate)}
    (hrun : (Prog.each (updateDeviceOriginGroup user g) serials).Runs DbOp.exec db r db') :
    Moves g (movedSerials db g serials) db db' := by
  induction serials generalizing db r with
  | nil =>
    obtain ⟨-, rfl⟩ := hrun
    exact .refl g _
  | cons serial serials ih =>
    unfold movedSerials
    rcases runs_bind.1 hrun with ⟨a, t, hone, hrest⟩ | ⟨e, hone, -⟩
    · rcases moves_updateDeviceOriginGroup hone with ⟨-, hr, -⟩ | ⟨hfree, -, hmoves⟩
      · cases hr
      obtain ⟨r', hrest⟩ := runs_discard hrest
      have hsame : movedSerials t g serials = movedSerials db g serials := by
        unfold movedSerials
        congr 1
        funext s
        exact decide_eq_decide.2 (not_congr (hmoves.refused s))
      have htail := ih hrest
      rw [hsame] at htail
      rw [List.takeWhile_cons_of_pos (by simpa using hfree)]
      exact hmoves.trans htail
    · rcases moves_updateDeviceOriginGroup hone with ⟨hstop, -, hmoves⟩ | ⟨-, ⟨a, hr⟩, -⟩
      · rw [List.takeWhile_cons_of_neg (by simpa using hstop)]
        exact hmoves
      · cases hr

/-- The devices that a request asks to move to the group `g`. -/
def originList (db : Db) (user : User) (g : Group) : Option String → List String
  | some serials => (without (splitComma serials) "").filter (· ∉ g.devices)
  | none =>
    let devices := db.devices.docs.filter fun d => d.group.origin ∈ user.subscribed
    let devices := if g.class_ = .bookable then devices else
      devices.filter fun d => (db.groups.docs.filter fun h => decide h.Transient).all fun h =>
        d.serial ∉ h.devices
    (devices.map (·.serial)).filter (· ∉ g.devices)

theorem runs_originSerials {α : Type} {user : User} {g : Group} {serials : Option String}
    {k : List String → DbM α} {db db' : Db} {r : Except JsError α} :
    ((originSerials user g serials).bind k).Runs DbOp.exec db r db' ↔
      (k (originList db user g serials)).Runs DbOp.exec db r db' := by
  cases serials with
  | some serials => exact Iff.rfl
  | none =>
    unfold originSerials originList
    rw [bind_eq, Prog.bind_assoc, Db.runs_findDevices]
    dsimp only
    split
    · exact Iff.rfl
    · exact Iff.rfl

/-- **`addOriginGroupDevices` moves the devices up to the first one that is booked**, apart from
locks. -/
theorem runs_addOriginGroupDevices {user : User} {id : String} {serials : Option String}
    {redirected : Bool} {db db' : Db} {r : Except JsError (Option Response)}
    (hrun : (addOriginGroupDevices user id serials redirected).Runs DbOp.exec db r db') :
    db' = db ∨ ∃ g, db.groups.findOne id = some g ∧ Group.isMember user.email g = true ∧
      isOriginGroup g.class_ = true ∧
      Moves g (movedSerials db g (originList db user g serials)) db db' := by
  obtain ⟨r₁, hrun⟩ := runs_rescue hrun
  rw [bind_eq] at hrun
  rcases Db.runs_getUserGroup_cases hrun with hrun | ⟨g, hg, hmember, hrun⟩
  · exact .inl hrun.2
  · dsimp only at hrun
    split at hrun
    · exact .inl hrun.2
    rename_i horigin
    rw [bind_eq, runs_originSerials] at hrun
    refine .inr ⟨g, hg, hmember, by simpa using horigin, ?_⟩
    rcases runs_tryCatch.1 hrun with ⟨a, hall, -⟩ | ⟨e, t, hall, hhandled⟩
    · obtain ⟨r₂, hall⟩ := runs_discard hall
      exact moves_each hall
    · obtain ⟨r₂, hall⟩ := runs_discard hall
      split at hhandled
      · exact hhandled.2 ▸ moves_each hall
      · exact hhandled.2 ▸ moves_each hall

end devices

end DeviceHub

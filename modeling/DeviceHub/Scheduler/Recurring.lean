import DeviceHub.Scheduler.Tasks
import DeviceHub.Db.Devices
import DeviceHub.Db.Outcomes
import DeviceHub.Db.Sample

/-!
# Recurring bookings

When a window of a recurring booking has expired, a job is to drop the windows that are past.
`processGroup` builds two kinds of jobs for a window that is not the last one: the usual one
drops no window at all, and leaves the group active.

## Main definitions

* `Advanced` : the booking has gone on to its next window.
* `Advances` : the condition under which a job does that.

## Main results

* `moved_updateGroupDates`, `charged_updateGroupDates` : what `updateGroupDates` writes.
* `advanced_iff` : the job for a window that is not the last one makes the booking go on exactly
  when the condition holds.
-/

namespace DeviceHub

open Prog apiutil lodash GroupModel UserModel AllModel

namespace GroupsScheduler

/-- From `db` to `db'` the group `g` has become `g'`, which has gone on to its next window at the
time `now`. -/
structure AdvancedTo (now : Int) (db db' : Db) (g g' : Group) : Prop where
  dates : g'.dates = g.dates.filter fun w => now < w.stop
  repetitions : g'.repetitions = g.repetitions - (g.dates.length - g'.dates.length)
  begun : g'.isActive = true → ∀ w ∈ g'.dates.head?, w.start ≤ now
  returned : g'.isActive = false → ∀ serial ∈ g'.devices, ∀ d ∈ db'.devices.findOne serial,
    d.group.id = d.group.origin
  refunded : ∀ u ∈ db.users.findOne g.owner.email, ∀ u' ∈ db'.users.findOne g.owner.email,
    u.quotas.consumed.duration - u'.quotas.consumed.duration = g.duration - g'.duration

/-- The group `g` of `db` has gone on to its next window. -/
def Advanced (now : Int) (db db' : Db) (g : Group) : Prop :=
  ∃ g', db'.groups.findOne g.id = some g' ∧ AdvancedTo now db db' g g'

/-- The window a job was built for. -/
def Job.window : Job → Option Nat
  | .dropWindows windowIndex => some (windowIndex - 1)
  | .afterFirstWindow _ => some 0
  | _ => none

/-- How many windows the job drops. -/
def Job.dropped : Job → Nat
  | .dropWindows windowIndex => windowIndex
  | _ => 0

/-- Whether the group is active after the job. -/
def Job.leavesActive (group : Group) : Job → Bool
  | .dropWindows _ => group.isActive
  | _ => true

/-- The condition for dropping the first `k` windows and leaving the group `active`: these are the
windows that are past, the next one has begun if the group is active, its devices have an origin to
return to if it is not, and the refund passes. -/
structure Advances (now : Int) (db : Db) (g : Group) (k : Nat) (active : Bool) : Prop where
  past : ∀ w ∈ g.dates.take k, w.stop ≤ now
  coming : ∀ w ∈ g.dates.drop k, now < w.stop
  begun : active = true → ∀ w ∈ (g.dates.drop k).head?, w.start ≤ now
  origins : active = false → ∀ serial ∈ g.devices, ∀ d ∈ db.devices.findOne serial,
    (db.groups.findOne d.group.origin).isSome
  refund : ∀ w ∈ (g.dates.drop k).head?,
    ChargePasses db g.owner.email g.duration (remainingDuration g k w)

/-! ### The tasks -/

/-- The jobs that are built for a window which is not the last one. -/
theorem job_of_processGroup {now : Int} {g : Group} {task : Task} (htask : task ∈ processGroup now g)
    (hmany : 2 ≤ g.dates.length) (hwindow : task.job.window.isSome) :
    task.groupId = g.id ∧ (task.job = .afterFirstWindow false ∨
      ∃ k, 0 < k ∧ task.job = .dropWindows k) := by
  unfold processGroup at htask
  dsimp only at htask
  split at htask
  swap
  · cases htask
  rename_i window rest lastWindow hdates hlast
  split at htask
  · obtain rfl := List.mem_singleton.1 htask
    cases hwindow
  split at htask
  · cases htask
  simp only [List.mem_append] at htask
  rcases htask with (htask | htask) | htask
  · -- the task that drops windows
    split at htask
    · cases htask
    obtain ⟨k, hk, hdrop⟩ := Option.bind_eq_some_iff.1 (Option.mem_toList.1 htask)
    obtain ⟨w, -, rfl⟩ := Option.map_eq_some_iff.1 hdrop
    have hpos := (Option.filter_eq_some_iff.1 hk).2
    exact ⟨rfl, .inr ⟨k, by simpa using hpos, rfl⟩⟩
  · -- the activation
    split at htask
    · obtain rfl := List.mem_singleton.1 htask
      cases hwindow
    · cases htask
  · obtain rfl := List.mem_singleton.1 htask
    have hnot : decide (g.dates.length = 1) = false := decide_eq_false (by omega)
    exact ⟨rfl, .inl (by rw [hnot])⟩

/-! ### What a job writes -/

/-- The write of `updateGroupDates`. -/
def datesChange (g : Group) (windowIndex : Nat) (w : Window) (dates : List Window)
    (isActive : Bool) : GroupChange :=
  .setDates (w :: dates) (g.repetitions - windowIndex) (remainingDuration g windowIndex w) isActive

/-- What `updateGroupDates` does to the groups and the devices, also when it fails. -/
theorem moved_updateGroupDates {g : Group} {windowIndex : Nat} {isActive : Bool} {w : Window}
    {dates : List Window} {db db' : Db} {r : Except JsError Unit}
    (hsplit : g.dates.drop windowIndex = w :: dates)
    (hrun : (updateGroupDates g windowIndex isActive).Runs DbOp.exec db r db') :
    db'.groups = (DbOp.exec (.groups (.update g.id (datesChange g windowIndex w dates isActive)))
      db).2.groups ∧
    ∀ serial, db'.devices.findOne serial = (db.devices.findOne serial).map fun d =>
      if isActive = false ∧ serial ∈ g.devices then
        d.sentHome (DbOp.exec (.groups (.update g.id (datesChange g windowIndex w dates isActive)))
          db).2
      else d := by
  unfold updateGroupDates at hrun
  rw [hsplit] at hrun
  dsimp only at hrun
  rw [bind_eq, Db.runs_updateGroup] at hrun
  set db₁ := (DbOp.exec (.groups (.update g.id (datesChange g windowIndex w dates isActive)))
    db).2 with hdb₁
  by_cases hstop : (!isActive && decide (g.devices ≠ [])) = true
  · rw [if_pos hstop, bind_eq] at hrun
    obtain ⟨hactive, -⟩ : isActive = false ∧ g.devices ≠ [] := by simpa using hstop
    have hhome : ∃ r' db₂, (updateDevicesCurrentGroupFromOrigin g.devices).Runs DbOp.exec db₁ r'
        db₂ ∧ db'.groups = db₂.groups ∧ db'.devices = db₂.devices := by
      rcases runs_bind.1 hrun with ⟨a, db₂, hhome, hrun⟩ | ⟨e, hhome, -⟩
      · rw [bind_eq, runs_updateUserGroupDuration] at hrun
        obtain ⟨-, rfl⟩ := hrun
        exact ⟨_, db₂, hhome, rfl, rfl⟩
      · exact ⟨_, db', hhome, rfl, rfl⟩
    obtain ⟨r', db₂, hhome, hgroups, hdevices⟩ := hhome
    obtain ⟨-, hgroups₂, hmoved⟩ := runs_updateDevicesCurrentGroupFromOrigin hhome
    refine ⟨hgroups.trans hgroups₂, fun serial => ?_⟩
    simp only [hactive, true_and, hdevices]
    exact hmoved serial
  · rw [if_neg hstop, bind_eq, runs_updateUserGroupDuration] at hrun
    obtain ⟨-, rfl⟩ := hrun
    refine ⟨rfl, fun serial => ?_⟩
    have hstay : ¬ (isActive = false ∧ serial ∈ g.devices) := by
      rintro ⟨rfl, hmem⟩
      exact hstop (by simpa using List.ne_nil_of_mem hmem)
    simp only [hstay, if_false, Option.map_id']
    rfl

/-- With a root group it does not fail, so that the new duration is charged. -/
theorem charged_updateGroupDates {g : Group} {windowIndex : Nat} {isActive : Bool} {w : Window}
    {dates : List Window} {db db' : Db} {r : Except JsError Unit}
    (hsplit : g.dates.drop windowIndex = w :: dates) (hroot : HasRoot db)
    (hrun : (updateGroupDates g windowIndex isActive).Runs DbOp.exec db r db') :
    db'.users = (DbOp.exec (.users (.update g.owner.email
      (.chargeDuration g.duration (remainingDuration g windowIndex w)))) db).2.users := by
  unfold updateGroupDates at hrun
  rw [hsplit] at hrun
  dsimp only at hrun
  rw [bind_eq, Db.runs_updateGroup] at hrun
  set db₁ := (DbOp.exec (.groups (.update g.id (datesChange g windowIndex w dates isActive)))
    db).2 with hdb₁
  have hroot₁ : HasRoot db₁ := hroot.update g.id _
  split at hrun
  · rw [bind_eq] at hrun
    rcases runs_bind.1 hrun with ⟨a, db₂, hhome, hrun⟩ | ⟨e, hhome, -⟩
    · obtain ⟨husers, -, -⟩ := runs_updateDevicesCurrentGroupFromOrigin hhome
      rw [bind_eq, runs_updateUserGroupDuration] at hrun
      obtain ⟨-, rfl⟩ := hrun
      simp only [DbOp.exec, CollOp.exec, husers]
    · obtain ⟨a, ha⟩ := (total_updateDevicesCurrentGroupFromOrigin g.devices).runs hroot₁ hhome
      cases ha
  · rw [bind_eq, runs_updateUserGroupDuration] at hrun
    obtain ⟨-, rfl⟩ := hrun
    rfl

/-- The first `k` elements are those that a filter drops. -/
theorem drop_eq_filter_iff {α : Type} {l : List α} {k : Nat} {p : α → Bool} :
    l.drop k = l.filter p ↔ (∀ x ∈ l.take k, ¬ p x = true) ∧ ∀ x ∈ l.drop k, p x = true := by
  have hsplit : l.filter p = (l.take k).filter p ++ (l.drop k).filter p := by
    rw [← List.filter_append, List.take_append_drop]
  constructor
  · intro h
    have hdrop : ∀ x ∈ l.drop k, p x = true := fun x hx =>
      (List.mem_filter.1 (h ▸ hx)).2
    refine ⟨?_, hdrop⟩
    rw [List.filter_eq_self.2 hdrop] at hsplit
    have hnil : (l.take k).filter p = [] := List.append_left_eq_self.1 (hsplit.symm.trans h.symm)
    exact List.filter_eq_nil_iff.1 hnil
  · rintro ⟨htake, hdrop⟩
    rw [hsplit, List.filter_eq_nil_iff.2 htake, List.filter_eq_self.2 hdrop, List.nil_append]

/-- The devices are in their origin groups after they were sent home exactly if these exist. -/
theorem returned_iff {db db' : Db} (hroot : HasRoot db) {serials : List String}
    (hmoved : ∀ serial ∈ serials, db'.devices.findOne serial =
      (db.devices.findOne serial).map (Device.sentHome db)) :
    (∀ serial ∈ serials, ∀ d ∈ db'.devices.findOne serial, d.group.id = d.group.origin) ↔
      ∀ serial ∈ serials, ∀ d ∈ db.devices.findOne serial,
        (db.groups.findOne d.group.origin).isSome := by
  refine forall₂_congr fun serial hserial => ?_
  rw [hmoved serial hserial]
  constructor
  · intro h d hd
    by_contra hnone
    have hne := Device.id_sentHome_ne hroot (Option.not_isSome_iff_eq_none.1 hnone)
    refine hne ?_
    have hid := h (d.sentHome db) (Option.mem_map_of_mem _ hd)
    rwa [Device.origin_sentHome] at hid
  · intro h d' hd'
    obtain ⟨d, hd, rfl⟩ := Option.map_eq_some_iff.1 hd'
    rw [Device.origin_sentHome]
    exact Device.id_sentHome (h d hd)

/-- The consumed duration follows the group's exactly if the charge passes. -/
theorem refunded_iff {db db' : Db} {email : String} {oldDuration newDuration : Int}
    (husers : db'.users = (DbOp.exec (.users (.update email
      (.chargeDuration oldDuration newDuration))) db).2.users) :
    (∀ u ∈ db.users.findOne email, ∀ u' ∈ db'.users.findOne email,
      u.quotas.consumed.duration - u'.quotas.consumed.duration = oldDuration - newDuration) ↔
      ChargePasses db email oldDuration newDuration := by
  have hself : ∀ u ∈ db.users.findOne email, db'.users.findOne email =
      some ((UserChange.chargeDuration oldDuration newDuration).apply u) := by
    intro u hu
    rw [husers]
    exact Collection.findOne_update_self _ hu
  constructor
  · intro h
    by_contra hfail
    simp only [ChargePasses, not_or, not_forall] at hfail
    obtain ⟨hne, u, hu, hover⟩ := hfail
    have hspent := h u hu _ (hself u hu)
    simp only [UserChange.apply, Quotas.charge, if_neg hover] at hspent
    omega
  · intro hpass u hu u' hu'
    rw [hself u hu] at hu'
    obtain rfl := Option.some.inj hu'
    have hcharged := chargeDuration_passes (u := u) (hpass.imp id fun h => h u hu)
    omega

/-- Dropping windows makes the group go on exactly under the condition. -/
theorem advanced_updateGroupDates_iff {now : Int} {g : Group} {k : Nat} {active : Bool}
    {db db' : Db} {r : Except JsError Unit} (hg : db.groups.findOne g.id = some g)
    (hk : k < g.dates.length) (hroot : HasRoot db)
    (hrun : (updateGroupDates g k active).Runs DbOp.exec db r db') :
    Advanced now db db' g ↔ Advances now db g k active := by
  obtain ⟨w, dates, hsplit⟩ : ∃ w dates, g.dates.drop k = w :: dates :=
    List.exists_cons_of_ne_nil (List.ne_nil_of_length_pos (by rw [List.length_drop]; omega))
  obtain ⟨hgroups, hdevices⟩ := moved_updateGroupDates hsplit hrun
  have husers := charged_updateGroupDates hsplit hroot hrun
  set f := datesChange g k w dates active with hf
  set db₁ := (DbOp.exec (.groups (.update g.id f)) db).2 with hdb₁
  have hnew : db'.groups.findOne g.id = some (f.apply g) := by
    rw [hgroups]
    exact Collection.findOne_update_self _ hg
  have hlength : (w :: dates).length = g.dates.length - k := by
    rw [← hsplit, List.length_drop]
  -- the windows that are left are those that are not over
  have hdates : w :: dates = g.dates.filter (fun w => decide (now < w.stop)) ↔
      (∀ w ∈ g.dates.take k, w.stop ≤ now) ∧ ∀ w ∈ g.dates.drop k, now < w.stop := by
    rw [← hsplit, drop_eq_filter_iff]
    simp only [decide_eq_true_eq, Int.not_lt]
  have hcharge := refunded_iff husers
  -- a device is home unless its origin group is missing
  have hreturned : active = false →
      ((∀ serial ∈ g.devices, ∀ d ∈ db'.devices.findOne serial, d.group.id = d.group.origin) ↔
        ∀ serial ∈ g.devices, ∀ d ∈ db.devices.findOne serial,
          (db.groups.findOne d.group.origin).isSome) := by
    intro hactive
    have hmoved : ∀ serial ∈ g.devices, db'.devices.findOne serial =
        (db₁.devices.findOne serial).map (Device.sentHome db₁) := by
      intro serial hserial
      have hdevice := hdevices serial
      simp only [hactive, hserial, true_and, if_true] at hdevice
      exact hdevice
    rw [returned_iff (hroot.update g.id f) hmoved]
    have hstored : ∀ id, (db₁.groups.findOne id).isSome = (db.groups.findOne id).isSome := by
      intro id
      simp [hdb₁, DbOp.exec, CollOp.exec, Collection.update]
    constructor
    · intro h serial hserial d hd
      rw [← hstored]
      exact h serial hserial d hd
    · intro h serial hserial d hd
      exact (hstored _).trans (h serial hserial d hd)
  constructor
  · rintro ⟨g', hg', hto⟩
    obtain rfl := Option.some.inj (hnew.symm.trans hg')
    obtain ⟨hpast, hcoming⟩ := hdates.1 hto.dates
    refine ⟨hpast, hcoming, fun hactive => ?_, fun hactive => (hreturned hactive).1
      (hto.returned hactive), fun w' hw' => ?_⟩
    · rw [hsplit]
      exact hto.begun hactive
    · rw [hsplit] at hw'
      obtain rfl := Option.some.inj hw'
      exact hcharge.1 hto.refunded
  · intro h
    refine ⟨_, hnew, hdates.2 ⟨h.past, h.coming⟩, ?_, fun hactive => ?_,
      fun hactive => (hreturned hactive).2 (h.origins hactive), ?_⟩
    · show g.repetitions - (k : Int) = g.repetitions - (g.dates.length - ((w :: dates).length : Nat))
      rw [hlength]
      omega
    · have hbegun := h.begun hactive
      rwa [hsplit] at hbegun
    · refine hcharge.2 (h.refund w ?_)
      rw [hsplit]
      rfl

/-- **A recurring booking goes on exactly under the condition**, when its job for a window that is
not the last one has completed at the time `now`.  The job was built from the group `g₀` that a pass
had loaded, and acts on the group `g` that it finds. -/
theorem advanced_iff {scheduledAt startedAt now : Int} {g₀ g : Group} {task : Task} {db db' : Db}
    {r : Except JsError Unit} (hrecurring : ¬ g.class_.Single)
    (htask : task ∈ processGroup scheduledAt g₀) (hmany : 2 ≤ g₀.dates.length)
    (hwindow : ∃ i ∈ task.job.window, i + 1 < g.dates.length) (hid : g₀.id = g.id)
    (hg : db.groups.findOne g.id = some g) (hroot : HasRoot db)
    (hrun : (processTask startedAt task).Runs DbOp.exec db r db') :
    Advanced now db db' g ↔
      Advances now db g task.job.dropped (task.job.leavesActive g) := by
  obtain ⟨i, hi, hlast⟩ := hwindow
  have hsome : task.job.window.isSome := Option.isSome_iff_exists.2 ⟨i, hi⟩
  obtain ⟨hgroupId, hjob⟩ := job_of_processGroup htask hmany hsome
  obtain ⟨r', hrun⟩ := runs_rescue hrun
  unfold getGroup at hrun
  rw [bind_eq, Db.runs_findGroup, hgroupId, hid, hg] at hrun
  dsimp only at hrun
  rcases hjob with hjob | ⟨k, hpos, hjob⟩
  · -- the usual job: no window is dropped, and the group stays active
    rw [hjob] at hi hrun ⊢
    obtain rfl := Option.some.inj hi
    have hnot : ¬ (g.class_ = .once ∨ (false : Bool) = true) := by
      rintro (honce | hfalse)
      · exact hrecurring (.inr (.inr honce))
      · cases hfalse
    unfold Job.run at hrun
    dsimp only at hrun
    rw [if_neg hnot] at hrun
    have hk : 0 < g.dates.length := by omega
    exact advanced_updateGroupDates_iff hg hk hroot hrun
  · rw [hjob] at hi hrun ⊢
    obtain rfl := Option.some.inj hi
    have hk : k < g.dates.length := by omega
    exact advanced_updateGroupDates_iff hg hk hroot hrun

/-- The job for the first window of a group that is as the pass has loaded it never makes it go on:
the window is past, and it is not dropped. -/
theorem not_advances_of_first {now : Int} {db : Db} {g : Group} {w : Window}
    (hw : g.dates.head? = some w) (hpast : w.stop ≤ now) : ¬ Advances now db g 0 true := by
  intro h
  have hcoming := h.coming w (by rw [List.drop_zero]; exact List.mem_of_mem_head? hw)
  omega

/-- An hour of the device `d` on each of three days, of which `repetitions` are said to be left. -/
def dailyBooking (repetitions : Int) (isActive : Bool) : Group :=
  { Sample.booking "g" "u" .daily repetitions [⟨0, ONE_HOUR⟩, ⟨ONE_DAY, ONE_DAY + ONE_HOUR⟩,
      ⟨2 * ONE_DAY, 2 * ONE_DAY + ONE_HOUR⟩] (ONE_HOUR * (repetitions + 1)) ["d"] with
    isActive := isActive }

/-- Its owner has been charged its duration. -/
def dailyDb (repetitions : Int) (isActive : Bool) : Db where
  users := .ofDocs [Sample.user "u" ⟨5, 36000000⟩ ⟨1, ONE_HOUR * (repetitions + 1)⟩]
  groups := .ofDocs [Sample.root, dailyBooking repetitions isActive]
  devices := .ofDocs [Sample.device "d"]

/-- The first window of an active booking has expired: it is not dropped. -/
theorem not_advanced_first : ∃ task ∈ processGroup 0 (dailyBooking 3 true),
    task.job.window = some 0 ∧ task.time ≤ ONE_HOUR ∧ ∃ r db',
      (processTask ONE_HOUR task).Runs DbOp.exec (dailyDb 3 true) r db' ∧
        ¬ Advanced ONE_HOUR (dailyDb 3 true) db' (dailyBooking 3 true) := by
  refine ⟨⟨"g", .handleExpiredGroupWindow, ONE_HOUR, .afterFirstWindow false⟩, by decide, rfl,
    Int.le_refl _, _, _, runs_eval _ _ _, ?_⟩
  rintro ⟨g', hg', hto⟩
  have hdates := congrArg (Option.map Group.dates) hg'
  rw [Option.map_some, hto.dates] at hdates
  revert hdates
  decide +kernel

/-- A booking that is said to have one repetition left, but has three windows: the first of them is
dropped when it has expired, and the device returns home. -/
theorem advanced_iff_drop : ∃ task ∈ processGroup (2 * ONE_HOUR) (dailyBooking 1 false), ∃ r db',
    (processTask (2 * ONE_HOUR) task).Runs DbOp.exec (dailyDb 1 false) r db' ∧
      Advanced (2 * ONE_HOUR) (dailyDb 1 false) db' (dailyBooking 1 false) := by
  have hrun := runs_eval DbOp.exec (processTask (2 * ONE_HOUR)
    ⟨"g", .handleExpiredGroupWindow, ONE_HOUR, .dropWindows 1⟩) (dailyDb 1 false)
  have htask : (⟨"g", .handleExpiredGroupWindow, ONE_HOUR, .dropWindows 1⟩ : Task) ∈
      processGroup (2 * ONE_HOUR) (dailyBooking 1 false) := by decide
  have hroot : HasRoot (dailyDb 1 false) := ⟨Sample.root, List.mem_cons_self, rfl⟩
  refine ⟨_, htask, _, _, hrun, (advanced_iff (by decide) htask (by decide)
    ⟨0, rfl, by decide⟩ rfl (by decide +kernel) hroot hrun).2 ?_⟩
  exact ⟨by decide, by decide, by decide, by decide +kernel, by decide +kernel⟩

end GroupsScheduler

end DeviceHub

import DeviceHub.Quotas.Accounts
import DeviceHub.Db.Outcomes
import DeviceHub.Scheduler.Jobs
import DeviceHub.Api.Groups
import DeviceHub.Db.Sample
import Mathlib.Tactic.Set

/-!
# Conservation of the quotas

Every operation on groups writes the user and the group separately, with exits in between.
`Balanced owner n d` is what holds between the two writes: the consumed quotas of every user
account for what the user owns, except that those of `owner` are `n` instances and `d`
milliseconds ahead.

## Main definitions

* `Conserved` : the quotas account for the groups, and the duration of every transient group is
  that of its devices and dates.
* `Operation` : the operations, each run to completion.
* `Operation.Fits` : the condition under which an operation makes both writes or none.

## Main results

* `Operation.consistent` : an operation that fits conserves the quotas.
* `conserved_of_run` : so does every sequence of operations that fit.
-/

namespace DeviceHub

open Prog apiutil lodash GroupModel UserModel

/-- The duration of a group, if it is transient, is the length of its first window for each of
its devices and repetitions. -/
def Group.Priced (g : Group) : Prop :=
  g.Transient → ∀ w ∈ g.dates.head?,
    g.duration = g.devices.length * (w.stop - w.start) * (g.repetitions + 1)

/-- The consumed quotas of every user are what the user owns. -/
structure Conserved (db : Db) : Prop where
  number : ∀ u ∈ db.users.docs, u.quotas.consumed.number = ownedNumber u.email db.groups
  duration : ∀ u ∈ db.users.docs, u.quotas.consumed.duration = ownedDuration u.email db.groups
  priced : ∀ g ∈ db.groups.docs, g.Priced

/-- A state in which the quotas are conserved and there is a root group, as in every database that
was set up. -/
structure Consistent (db : Db) : Prop extends Conserved db where
  hasRoot : HasRoot db

/-- The consumed quotas of every user are what the user owns, those of `owner` being `n` instances
and `d` milliseconds ahead. -/
structure Balanced (owner : String) (n d : Int) (db : Db) : Prop where
  number : ∀ email, ∀ u ∈ db.users.findOne email,
    u.quotas.consumed.number = ownedNumber email db.groups + share email owner n
  duration : ∀ email, ∀ u ∈ db.users.findOne email,
    u.quotas.consumed.duration = ownedDuration email db.groups + share email owner d
  priced : ∀ g ∈ db.groups.docs, g.Priced
  hasRoot : HasRoot db

theorem share_zero (email owner : String) : share email owner (0 : Int) = 0 := by
  unfold share
  split <;> rfl

theorem Consistent.balanced {db : Db} (h : Consistent db) (owner : String) :
    Balanced owner 0 0 db where
  number email u hu := by
    have hkey := Collection.key_of_findOne hu
    rw [share_zero, add_zero, h.number u (Collection.mem_of_findOne hu), ← hkey]
    rfl
  duration email u hu := by
    have hkey := Collection.key_of_findOne hu
    rw [share_zero, add_zero, h.duration u (Collection.mem_of_findOne hu), ← hkey]
    rfl
  priced := h.priced
  hasRoot := h.hasRoot

namespace Balanced

variable {owner : String} {n d a b : Int} {db : Db}

theorem consistent (h : Balanced owner 0 0 db) : Consistent db where
  number u hu := by
    have := h.number u.email u (Collection.findOne_of_mem hu)
    rwa [share_zero, add_zero] at this
  duration u hu := by
    have := h.duration u.email u (Collection.findOne_of_mem hu)
    rwa [share_zero, add_zero] at this
  priced := h.priced
  hasRoot := h.hasRoot

theorem keepsAccounts (h : Balanced owner n d db) {o : DbOp} (ho : o.KeepsAccounts) :
    Balanced owner n d (o.exec db).2 where
  number email u' hu' := by
    have hq := ho.quotas db email
    rw [Option.mem_def.1 hu'] at hq
    obtain ⟨u, hu, huq⟩ := Option.map_eq_some_iff.1 hq.symm
    rw [ho.ownedNumber, ← huq]
    exact h.number email u hu
  duration email u' hu' := by
    have hq := ho.quotas db email
    rw [Option.mem_def.1 hu'] at hq
    obtain ⟨u, hu, huq⟩ := Option.map_eq_some_iff.1 hq.symm
    rw [ho.ownedDuration, ← huq]
    exact h.duration email u hu
  priced g hg := by
    obtain ⟨g', hg', hbook⟩ := ho.exists_of_mem db hg
    obtain ⟨hid, howner, hclass, hdev, hdates, hrep, hdur⟩ := Group.Booking.mk.inj hbook
    have hp := h.priced g' hg'
    unfold Group.Priced Group.Transient at hp ⊢
    rw [hclass, hdates, hdur, hdev, hrep]
    exact hp
  hasRoot := by
    unfold HasRoot
    rcases ho.groups db with he | ⟨k, f, -, he⟩
    · rw [he]
      exact h.hasRoot
    · rw [he]
      exact h.hasRoot.update k f

theorem runs {α : Type} {p : DbM α} (hp : p.Ops DbOp.KeepsAccounts) {db' : Db}
    {r : Except JsError α} (hrun : p.Runs DbOp.exec db r db') (h : Balanced owner n d db) :
    Balanced owner n d db' := by
  have hop : ∀ o db, DbOp.KeepsAccounts o → Balanced owner n d db →
      Balanced owner n d (DbOp.exec o db).2 := fun _ _ ho h => h.keepsAccounts ho
  exact Runs.rel (R := fun s t => Balanced owner n d s → Balanced owner n d t) (fun _ h => h)
    (fun _ _ _ h₁ h₂ h => h₂ (h₁ h)) hop hp hrun h

/-- An update of the owner that changes what it has consumed. -/
theorem updateUser (h : Balanced owner n d db) {f : UserChange}
    (hf : ∀ u ∈ db.users.findOne owner,
      (f.apply u).quotas.consumed.number = u.quotas.consumed.number + (a - n) ∧
        (f.apply u).quotas.consumed.duration = u.quotas.consumed.duration + (b - d)) :
    Balanced owner a b (DbOp.exec (.users (.update owner f)) db).2 := by
  have hstored : ∀ email, ∀ u' ∈ (DbOp.exec (.users (.update owner f)) db).2.users.findOne email,
      ∃ u ∈ db.users.findOne email, u'.quotas.consumed.number =
          u.quotas.consumed.number + share email owner (a - n) ∧
        u'.quotas.consumed.duration =
          u.quotas.consumed.duration + share email owner (b - d) := by
    intro email u' hu'
    by_cases he : email = owner
    · subst he
      cases hu : db.users.findOne email with
      | none =>
        rw [Option.mem_def] at hu'
        simp only [DbOp.exec, CollOp.exec, Collection.update_of_findOne_none _ hu, hu] at hu'
        cases hu'
      | some u =>
        rw [Option.mem_def] at hu'
        simp only [DbOp.exec, CollOp.exec, Collection.findOne_update_self _ hu] at hu'
        obtain rfl := Option.some.inj hu'
        obtain ⟨hn, hd⟩ := hf u hu
        exact ⟨u, rfl, by rw [share_self]; exact hn, by rw [share_self]; exact hd⟩
    · have hsame : (DbOp.exec (.users (.update owner f)) db).2.users.findOne email =
          db.users.findOne email := Collection.findOne_update_ne _ he
      exact ⟨u', hsame ▸ hu', by rw [share_of_ne (Ne.symm he), add_zero],
        by rw [share_of_ne (Ne.symm he), add_zero]⟩
  refine ⟨fun email u' hu' => ?_, fun email u' hu' => ?_, h.priced, h.hasRoot⟩
  · obtain ⟨u, hu, hn, -⟩ := hstored email u' hu'
    rw [hn, h.number email u hu]
    simp only [share, DbOp.exec]
    split <;> omega
  · obtain ⟨u, hu, -, hd⟩ := hstored email u' hu'
    rw [hd, h.duration email u hu]
    simp only [share, DbOp.exec]
    split <;> omega

/-- An update of a group of the owner. -/
theorem updateGroup (h : Balanced owner n d db) {id : String} {g : Group} {f : GroupChange}
    (hg : db.groups.findOne id = some g) (howner : g.owner.email = owner)
    (hpriced : (f.apply g).Priced) (hd : b = d + g.duration - (f.apply g).duration) :
    Balanced owner n b (DbOp.exec (.groups (.update id f)) db).2 where
  number email u hu := by
    simp only [DbOp.exec, CollOp.exec, ownedNumber_update]
    exact h.number email u hu
  duration email u hu := by
    have hu' := h.duration email u hu
    simp only [DbOp.exec, CollOp.exec, ownedDuration_update _ f hg, howner, hu', hd]
    simp only [share]
    split <;> omega
  priced g' hg' := by
    rcases Collection.mem_update.1 hg' with ⟨hg', -⟩ | ⟨g₀, hg₀, rfl⟩
    · exact h.priced g' hg'
    · obtain rfl := Option.some.inj (hg.symm.trans hg₀)
      exact hpriced
  hasRoot := h.hasRoot.update id f

/-- A new group of the owner. -/
theorem insertGroup (h : Balanced owner n d db) {g : Group} (hg : db.groups.findOne g.id = none)
    (howner : g.owner.email = owner) (hpriced : g.Priced) (hn : a = n - 1)
    (hd : b = d - g.duration) :
    Balanced owner a b (DbOp.exec (.groups (.insert g)) db).2 where
  number email u hu := by
    have hu' := h.number email u hu
    simp only [DbOp.exec, CollOp.exec, ownedNumber_insert hg, howner, hu', hn]
    simp only [share]
    split <;> omega
  duration email u hu := by
    have hu' := h.duration email u hu
    simp only [DbOp.exec, CollOp.exec, ownedDuration_insert hg, howner, hu', hd]
    simp only [share]
    split <;> omega
  priced g' hg' := by
    simp only [DbOp.exec, CollOp.exec,
      Collection.docs_insert (Collection.findOne_eq_none_iff_notMem.1 hg), List.mem_append,
      List.mem_singleton] at hg'
    rcases hg' with hg' | rfl
    · exact h.priced g' hg'
    · exact hpriced
  hasRoot := by
    obtain ⟨root, hroot, hp⟩ := h.hasRoot
    refine ⟨root, ?_, hp⟩
    simp only [DbOp.exec, CollOp.exec,
      Collection.docs_insert (Collection.findOne_eq_none_iff_notMem.1 hg)]
    exact List.mem_append_left _ hroot

/-- The deletion of a group of the owner. -/
theorem deleteGroup (h : Balanced owner n d db) {id : String} {g : Group}
    (hg : db.groups.findOne id = some g) (hp : g.privilege ≠ .root)
    (howner : g.owner.email = owner) (hn : a = n + 1) (hd : b = d + g.duration) :
    Balanced owner a b (DbOp.exec (.groups (.delete id)) db).2 where
  number email u hu := by
    have hu' := h.number email u hu
    simp only [DbOp.exec, CollOp.exec, ownedNumber_delete hg, howner, hu', hn]
    simp only [share]
    split <;> omega
  duration email u hu := by
    have hu' := h.duration email u hu
    simp only [DbOp.exec, CollOp.exec, ownedDuration_delete hg, howner, hu', hd]
    simp only [share]
    split <;> omega
  priced g' hg' := h.priced g' (Collection.mem_delete.1 hg').1
  hasRoot := by
    obtain ⟨root, hroot, hpr⟩ := h.hasRoot
    refine ⟨root, Collection.mem_delete.2 ⟨hroot, fun hk => hp ?_⟩, hpr⟩
    have hfound := Collection.findOne_of_mem hroot
    rw [hk, hg] at hfound
    rw [Option.some.inj hfound]
    exact hpr

end Balanced

/-! ### The charge of a duration -/

namespace Balanced

variable {owner : String} {n d : Int} {db : Db} {oldDuration newDuration : Int}

theorem charge_idle (h : Balanced owner n d db) (hc : ChargeIdle db owner oldDuration newDuration) :
    Balanced owner n d
      (DbOp.exec (.users (.update owner (.chargeDuration oldDuration newDuration))) db).2 := by
  refine h.updateUser fun u hu => ?_
  rw [chargeDuration_idle (hc.imp id fun hc => hc u hu)]
  omega

theorem charge_passes (h : Balanced owner n d db)
    (hc : ChargePasses db owner oldDuration newDuration) :
    Balanced owner n (d + newDuration - oldDuration)
      (DbOp.exec (.users (.update owner (.chargeDuration oldDuration newDuration))) db).2 := by
  refine h.updateUser fun u hu => ⟨by simp [UserChange.apply, Quotas.charge], ?_⟩
  rw [chargeDuration_passes (hc.imp id fun hc => hc u hu)]
  omega

end Balanced

/-! ### The operations -/

/-- The duration that `computeDuration` gives for the group with other devices. -/
def durationFor (group : Group) (devices : List String) : Except JsError Int :=
  computeDuration { group with devices := devices } 0

theorem priced_of_durationFor {group : Group} {devices : List String} {duration : Int}
    (h : durationFor group devices = .ok duration) :
    ((GroupChange.setDevices duration devices).apply group).Priced := by
  intro _ w hw
  simp only [GroupChange.apply, Option.mem_def] at hw ⊢
  unfold durationFor computeDuration at h
  cases hdates : group.dates with
  | nil => rw [hdates] at hw; cases hw
  | cons w' ws =>
    simp only [hdates, List.head?_cons, Option.some.injEq] at hw h
    subst hw
    simpa using (Except.ok.inj h).symm

/-- `addGroupDevices` makes both writes or none: the charge changes nothing, or the devices are
free and as many more as were charged. -/
def AddFits (db : Db) (group : Group) (serials : List String) : Prop :=
  ∀ duration, computeDuration group serials.length = .ok duration →
    ChargeIdle db group.owner.email group.duration duration ∨
      checkDatesOverlaps group.dates (db.groups.docs.filter (bookingsOf serials)) = none ∧
        (group.Transient → durationFor group (union group.devices serials) = .ok duration)

theorem addGroupDevices_consistent {db db' : Db} {group : Group} {serials : List String}
    {r : Except JsError Group} (h : Consistent db) (hg : db.groups.findOne group.id = some group)
    (hfit : AddFits db group serials)
    (hrun : (GroupModel.addGroupDevices group serials).Runs DbOp.exec db r db') :
    Consistent db' := by
  unfold GroupModel.addGroupDevices at hrun
  split at hrun
  · exact hrun.2 ▸ h
  split at hrun
  · exact hrun.2 ▸ h
  rename_i duration hduration
  rw [bind_eq, runs_updateUserGroupDuration] at hrun
  have hbal := h.balanced group.owner.email
  by_cases hidle : ChargeIdle db group.owner.email group.duration duration
  · rw [if_pos (chargeStats_idle hidle)] at hrun
    exact hrun.2 ▸ (hbal.charge_idle hidle).consistent
  have hstats : ¬ (chargeStats (db.users.findOne group.owner.email) group.duration
      duration).modifiedCount = 0 := fun h0 => hidle (chargeIdle_of_stats h0)
  obtain ⟨hfree, hprice⟩ := (hfit duration hduration).resolve_left hidle
  -- the charge is made, and then the devices are written
  have hcharged := hbal.charge_passes (chargePasses_of_not_idle hidle)
  set db₁ := (DbOp.exec (.users (.update group.owner.email
    (.chargeDuration group.duration duration))) db).2 with hdb₁
  have hg₁ : db₁.groups.findOne group.id = some group := hg
  have hfree₁ : checkDatesOverlaps group.dates (db₁.groups.docs.filter (bookingsOf serials)) =
      none := hfree
  have hwritten := hcharged.updateGroup (f := .setDevices duration (union group.devices serials))
    (b := 0) hg₁ rfl (fun ht => priced_of_durationFor (hprice ht) ht)
    (by simp only [GroupChange.apply]; omega)
  rw [if_neg hstats, bind_eq, Db.runs_findGroups, hfree₁, if_neg (by simp), bind_eq,
    Db.runs_updateGroup, hg₁] at hrun
  exact Balanced.consistent (hwritten.runs (Ops.bind (Ops.mono (fun _ ho => ho.keepsAccounts)
    (places_treatGroupDevicesChange _ _ _).deviceOnly) fun _ => ops_ret) hrun)

/-- `removeGroupDevices` makes both writes: the charge passes, and as many devices are removed as
were charged. -/
def RemoveFits (db : Db) (group : Group) (serials : List String) : Prop :=
  ∀ duration, computeDuration group (-serials.length) = .ok duration →
    ChargePasses db group.owner.email group.duration duration ∧
      (group.Transient → durationFor group (difference group.devices serials) = .ok duration)

theorem removeGroupDevices_consistent {db db' : Db} {group : Group} {serials : List String}
    {r : Except JsError Group} (h : Consistent db) (hg : db.groups.findOne group.id = some group)
    (hfit : RemoveFits db group serials)
    (hrun : (GroupModel.removeGroupDevices group serials).Runs DbOp.exec db r db') :
    Consistent db' := by
  unfold GroupModel.removeGroupDevices at hrun
  split at hrun
  · exact hrun.2 ▸ h
  rename_i duration hduration
  obtain ⟨hpass, hprice⟩ := hfit duration hduration
  have hcharged := (h.balanced group.owner.email).charge_passes hpass
  set db₁ := (DbOp.exec (.users (.update group.owner.email
    (.chargeDuration group.duration duration))) db).2 with hdb₁
  have hg₁ : db₁.groups.findOne group.id = some group := hg
  have hwritten := hcharged.updateGroup
    (f := .setDevices duration (difference group.devices serials)) (b := 0) hg₁ rfl
    (fun ht => priced_of_durationFor (hprice ht) ht) (by simp only [GroupChange.apply]; omega)
  rw [bind_eq, runs_updateUserGroupDuration, bind_eq, Db.runs_updateGroup, ← hdb₁, hg₁] at hrun
  exact Balanced.consistent (hwritten.runs (Ops.bind (Ops.mono (fun _ ho => ho.keepsAccounts)
    (places_treatGroupDevicesChange _ _ _).deviceOnly) fun _ => ops_ret) hrun)

/-- `updateGroupDates` makes both writes: the charge for the windows that remain passes. -/
def DatesFit (db : Db) (group : Group) (windowIndex : Nat) : Prop :=
  ∀ w ∈ (group.dates.drop windowIndex).head?,
    ChargePasses db group.owner.email group.duration
      (GroupsScheduler.remainingDuration group windowIndex w)

theorem updateGroupDates_consistent {db db' : Db} {group : Group} {windowIndex : Nat}
    {isActive : Bool} {r : Except JsError Unit} (h : Consistent db)
    (hg : db.groups.findOne group.id = some group) (hfit : DatesFit db group windowIndex)
    (hrun : (GroupsScheduler.updateGroupDates group windowIndex isActive).Runs DbOp.exec db r db') :
    Consistent db' := by
  unfold GroupsScheduler.updateGroupDates at hrun
  split at hrun
  · exact hrun.2 ▸ h
  rename_i w dates hdates
  rw [bind_eq, Db.runs_updateGroup] at hrun
  have hpass := hfit w (by rw [hdates]; rfl)
  set duration := GroupsScheduler.remainingDuration group windowIndex w with hduration
  have hwritten := (h.balanced group.owner.email).updateGroup
    (f := .setDates (w :: dates) (group.repetitions - windowIndex) duration isActive)
    (b := group.duration - duration) hg rfl
    (fun _ w' hw' => by
      obtain rfl := Option.some.inj hw'
      rfl)
    (by simp only [GroupChange.apply]; omega)
  set db₁ := (DbOp.exec (.groups (.update group.id
    (.setDates (w :: dates) (group.repetitions - windowIndex) duration isActive))) db).2 with hdb₁
  -- the devices move before the charge is made
  have hcharge : ∀ {db₂ : Db}, Balanced group.owner.email 0 (group.duration - duration) db₂ →
      db₂.users = db.users → Consistent (DbOp.exec (.users (.update group.owner.email
        (.chargeDuration group.duration duration))) db₂).2 := by
    intro db₂ hbal husers
    have hpass₂ : ChargePasses db₂ group.owner.email group.duration duration := by
      unfold ChargePasses
      rw [husers]
      exact hpass
    have hdone := hbal.charge_passes hpass₂
    rw [show group.duration - duration + duration - group.duration = 0 by omega] at hdone
    exact hdone.consistent
  split at hrun
  · rw [bind_eq, runs_bind] at hrun
    rcases hrun with ⟨a, db₂, hdev, hrun⟩ | ⟨e, hdev, -⟩
    · have hops := (places_updateDevicesCurrentGroupFromOrigin group.devices).deviceOnly
      have hbal := hwritten.runs (Ops.mono (fun _ ho => ho.keepsAccounts) hops) hdev
      rw [bind_eq, runs_updateUserGroupDuration] at hrun
      exact hrun.2 ▸ hcharge hbal (hops.runs_deviceOnly hdev).1
    · obtain ⟨a, ha⟩ := (total_updateDevicesCurrentGroupFromOrigin group.devices).runs
        hwritten.hasRoot hdev
      cases ha
  · rw [bind_eq, runs_updateUserGroupDuration] at hrun
    exact hrun.2 ▸ hcharge hwritten rfl

/-- `updateUserGroup` makes both writes or none: the duration stays what it is, or the charge of
the new one changes nothing. -/
def UpdateFits (db : Db) (group : Group) (data : GroupUpdate) : Prop :=
  data.duration = group.duration ∨
    ChargeIdle db group.owner.email group.duration data.duration

theorem updateUserGroup_consistent {db db' : Db} {group : Group} {data : GroupUpdate}
    {r : Except JsError (Option Group)} (h : Consistent db)
    (hg : db.groups.findOne group.id = some group) (hfit : UpdateFits db group data)
    (hprice : ((GroupChange.setData data).apply group).Priced)
    (hrun : (GroupModel.updateUserGroup group data).Runs DbOp.exec db r db') :
    Consistent db' := by
  have hidle : ChargeIdle db group.owner.email group.duration data.duration := by
    rcases hfit with heq | hidle
    · exact .inl heq
    · exact hidle
  have hbal := (h.balanced group.owner.email).charge_idle hidle
  unfold GroupModel.updateUserGroup at hrun
  rw [bind_eq, runs_updateUserGroupDuration] at hrun
  set db₁ := (DbOp.exec (.users (.update group.owner.email
    (.chargeDuration group.duration data.duration))) db).2 with hdb₁
  by_cases hstop : (chargeStats (db.users.findOne group.owner.email) group.duration
      data.duration).modifiedCount = 0 ∧ (chargeStats (db.users.findOne group.owner.email)
        group.duration data.duration).matchedCount = 0 ∨ group.duration ≠ data.duration
  · rw [if_pos hstop] at hrun
    exact hrun.2 ▸ hbal.consistent
  rw [if_neg hstop, bind_eq, Db.runs_updateGroup] at hrun
  have hg₁ : db₁.groups.findOne group.id = some group := hg
  have hsame : group.duration = data.duration := by
    by_contra hne
    exact hstop (.inr hne)
  have hwritten := hbal.updateGroup (f := .setData data) (b := 0) hg₁ rfl hprice
    (by simp only [GroupChange.apply]; omega)
  rw [hg₁] at hrun
  dsimp only [Option.map_some] at hrun
  split at hrun
  · exact hrun.2 ▸ hwritten.consistent
  · exact Balanced.consistent (hwritten.runs (Ops.bind (Ops.mono (fun _ ho => ho.keepsAccounts)
      (places_updateHandlers _ _ _).deviceOnly) fun _ => ops_ret) hrun)

theorem releaseGroup_consistent {db db' : Db} {group : Group} {r : Except JsError Unit}
    (h : Balanced group.owner.email 1 group.duration db)
    (hpass : ChargePasses db group.owner.email group.duration 0)
    (hrun : (releaseGroup group).Runs DbOp.exec db r db') : Consistent db' := by
  unfold releaseGroup at hrun
  rw [bind_eq, runs_bind] at hrun
  have hops : (Prog.all (group.users.map fun email =>
      Db.updateUser email (.unsubscribe group.id))).Ops DbOp.KeepsQuotas :=
    ops_unsubscribeAll fun _ => trivial
  rcases hrun with ⟨a, db₁, hunsub, hrun⟩ | ⟨e, hunsub, -⟩
  swap
  · obtain ⟨a, ha⟩ := (total_unsubscribeAll group).runs trivial hunsub
    cases ha
  have hbal := h.runs (Ops.mono (fun _ ho => ho.keepsAccounts) hops) hunsub
  have hquotas : (db₁.users.findOne group.owner.email).map User.quotas =
      (db.users.findOne group.owner.email).map User.quotas := by
    have hop : ∀ o db, DbOp.KeepsQuotas o →
        ((DbOp.exec o db).2.users.findOne group.owner.email).map User.quotas =
          (db.users.findOne group.owner.email).map User.quotas := fun _ db ho => ho.findOne db _
    exact Runs.frame (φ := fun db : Db => (db.users.findOne group.owner.email).map User.quotas) hop
      hops hunsub
  rw [bind_eq, runs_releaseUserGroupInstance, bind_eq, runs_updateUserGroupDuration] at hrun
  -- the owner still owns the group that is being released, so the consumed number is positive
  have hreleased := hbal.updateUser (f := .releaseNumber) (a := 0) (b := group.duration)
    fun u hu => by
      have hnum := hbal.number _ u hu
      have hown : 0 ≤ ownedNumber group.owner.email db₁.groups := Int.natCast_nonneg _
      rw [share_self] at hnum
      have hmax : max (u.quotas.consumed.number - 1) 0 = u.quotas.consumed.number - 1 := by omega
      simp only [UserChange.apply, Quotas.release, hmax]
      omega
  set db₂ := (DbOp.exec (.users (.update group.owner.email .releaseNumber)) db₁).2 with hdb₂
  have hpass₂ : ChargePasses db₂ group.owner.email group.duration 0 := by
    refine hpass.congr fun u' hu' => ?_
    cases hu₁ : db₁.users.findOne group.owner.email with
    | none =>
      rw [Option.mem_def] at hu'
      simp only [hdb₂, DbOp.exec, CollOp.exec, Collection.update_of_findOne_none _ hu₁, hu₁] at hu'
      cases hu'
    | some u₁ =>
      rw [Option.mem_def] at hu'
      simp only [hdb₂, DbOp.exec, CollOp.exec, Collection.findOne_update_self _ hu₁] at hu'
      obtain rfl := Option.some.inj hu'
      rw [hu₁] at hquotas
      obtain ⟨u, hu, hq⟩ := Option.map_eq_some_iff.1 hquotas.symm
      exact ⟨u, hu, by rw [hq]; rfl, by rw [hq]; rfl⟩
  have hdone := hreleased.charge_passes hpass₂
  rw [show group.duration + 0 - group.duration = 0 by omega] at hdone
  refine Balanced.consistent (hdone.runs (Ops.mono (fun _ ho => DbOp.DeviceOnly.keepsAccounts ho)
    ?_) hrun)
  split
  · exact (places_returnDevicesToRoot _).deviceOnly.bind fun _ =>
      (places_updateDevicesCurrentGroupFromOrigin _).deviceOnly.detach
  · exact (places_updateDevicesCurrentGroupFromOrigin _).deviceOnly.bind fun _ => ops_ret

/-- `deleteUserGroup` gives the duration back: the refund passes. -/
def DeleteFits (db : Db) (group : Group) : Prop :=
  group.privilege = .root ∨ ChargePasses db group.owner.email group.duration 0

theorem deleteUserGroup_consistent {db db' : Db} {id : String} {r : Except JsError Deletion}
    (h : Consistent db) (hfit : ∀ group ∈ db.groups.findOne id, DeleteFits db group)
    (hrun : (deleteUserGroup id).Runs DbOp.exec db r db') : Consistent db' := by
  unfold deleteUserGroup getGroup at hrun
  rw [bind_eq, Db.runs_findGroup] at hrun
  cases hg : db.groups.findOne id with
  | none =>
    rw [hg, Option.any_none, if_neg (by decide), bind_eq, Db.runs_deleteGroup] at hrun
    have hsame : (DbOp.exec (.groups (.delete id)) db).2 = db := by
      simp only [DbOp.exec, CollOp.exec, Collection.delete_of_findOne_none hg]
    rw [hsame] at hrun
    exact hrun.2 ▸ h
  | some group =>
    rw [hg, Option.any_some] at hrun
    by_cases hroot : group.privilege = .root
    · rw [if_pos (decide_eq_true hroot)] at hrun
      exact hrun.2 ▸ h
    rw [if_neg (by simpa using hroot), bind_eq, Db.runs_deleteGroup] at hrun
    have hbal := (h.balanced group.owner.email).deleteGroup (a := 1) (b := group.duration) hg
      hroot rfl (by omega) (by omega)
    have hpass := (hfit group hg).resolve_left hroot
    dsimp only at hrun
    rw [bind_eq, runs_bind] at hrun
    rcases hrun with ⟨_, db₁, hrel, hrun⟩ | ⟨e, hrel, -⟩
    · exact hrun.2 ▸ releaseGroup_consistent hbal hpass hrel
    · exact releaseGroup_consistent hbal hpass hrel

/-- `createUserGroup` reserves an instance and inserts a group, or does neither: the owner's
consumed number is within the allocated one, and the new identifier is free. -/
def CreateFits (db : Db) (id : String) (data : GroupData) : Prop :=
  ∀ u ∈ db.users.findOne data.owner.email,
    u.quotas.consumed.number = u.quotas.allocated.number ∨
      u.quotas.consumed.number < u.quotas.allocated.number ∧ db.groups.findOne id = none

/-- The owner has an instance to reserve and the identifier is free, or the reservation changes
nothing. -/
theorem CreateFits.idle_or_free {db : Db} {id : String} {data : GroupData}
    (hfit : CreateFits db id data) :
    (∀ u ∈ db.users.findOne data.owner.email, UserChange.reserveNumber.apply u = u) ∨
      ∃ u ∈ db.users.findOne data.owner.email, UserChange.reserveNumber.apply u ≠ u ∧
        u.quotas.consumed.number < u.quotas.allocated.number ∧ db.groups.findOne id = none := by
  by_cases hidle : ∀ u ∈ db.users.findOne data.owner.email, UserChange.reserveNumber.apply u = u
  · exact .inl hidle
  · push Not at hidle
    obtain ⟨u, hu, hchange⟩ := hidle
    refine .inr ⟨u, hu, hchange, ?_⟩
    rcases hfit u hu with heq | hlt
    · refine absurd ?_ hchange
      have hmin : min (u.quotas.consumed.number + 1) u.quotas.allocated.number =
          u.quotas.consumed.number := by omega
      simp only [UserChange.apply, Quotas.reserve, hmin]
    · exact hlt

/-- What `createGroup` does once the document is inserted, or is not. -/
theorem keepsAccounts_inserted (id : String) (inserted : Bool) :
    Prog.Ops DbOp.KeepsAccounts (if (!inserted) = true then throw JsError.duplicateKey
      else (do
        let newGroup ← getGroup id
        sendGroupChange newGroup : DbM Group)) := by
  split
  · exact ops_fail
  · exact Ops.bind (Ops.mono (fun _ ho => ho.keepsAccounts) (deviceOnly_findGroup id))
      fun newGroup => by cases newGroup <;> trivial

theorem Balanced.createGroup {db db' : Db} {id : String} {data : GroupData} {users : List String}
    {k : Group → DbM (Option Group)} {r : Except JsError (Option Group)}
    (h : Balanced data.owner.email 1 0 db) (hd : data.duration = 0)
    (hfree : db.groups.findOne id = none) (hk : ∀ group, (k group).Ops DbOp.KeepsAccounts)
    (hrun : ((GroupModel.createGroup id data users).bind k).Runs DbOp.exec db r db') :
    Consistent db' := by
  have hinserted := h.insertGroup (g := data.toGroup id users) (a := 0) (b := 0) hfree rfl
    (fun _ w _ => by simp [GroupData.toGroup, hd]) (by omega) (by simp [GroupData.toGroup, hd])
  unfold GroupModel.createGroup at hrun
  rw [bind_eq] at hrun
  rcases runs_bind.1 hrun with ⟨newGroup, db₁, hcreate, hrun⟩ | ⟨e, hcreate, -⟩
  · rw [Db.runs_insertGroup] at hcreate
    have hbal := hinserted.runs (keepsAccounts_inserted id _) hcreate
    exact Balanced.consistent (hbal.runs (hk newGroup) hrun)
  · rw [Db.runs_insertGroup] at hcreate
    exact Balanced.consistent (hinserted.runs (keepsAccounts_inserted id _) hcreate)

theorem createUserGroup_consistent {db db' : Db} {id : String} {data : GroupData}
    {r : Except JsError (Option Group)} (h : Consistent db) (hd : data.duration = 0)
    (hfit : CreateFits db id data)
    (hrun : (createUserGroup id data).Runs DbOp.exec db r db') : Consistent db' := by
  have hbal := h.balanced data.owner.email
  unfold createUserGroup at hrun
  rw [bind_eq, runs_reserveUserGroupInstance] at hrun
  rcases hfit.idle_or_free with hidle | ⟨u, hu, hchange, hlt, hfree⟩
  · have hstats : (reserveStats (db.users.findOne data.owner.email)).modifiedCount = 0 := by
      cases hu : db.users.findOne data.owner.email with
      | none => rfl
      | some u => simp [reserveStats, updateUserHandler, hidle u hu]
    rw [if_pos hstats] at hrun
    exact hrun.2 ▸ (hbal.updateUser (a := 0) (b := 0)
      fun u hu => by rw [hidle u hu]; omega).consistent
  · have hstats : ¬ (reserveStats (db.users.findOne data.owner.email)).modifiedCount = 0 := by
      rw [Option.mem_def.1 hu]
      simp [reserveStats, updateUserHandler, hchange]
    have hreserved := hbal.updateUser (f := .reserveNumber) (a := 1) (b := 0) fun u' hu' => by
      obtain rfl := Option.some.inj ((Option.mem_def.1 hu).symm.trans hu')
      have hmin : min (u.quotas.consumed.number + 1) u.quotas.allocated.number =
          u.quotas.consumed.number + 1 := by omega
      simp only [UserChange.apply, Quotas.reserve, hmin]
      omega
    rw [if_neg hstats, bind_eq, runs_bind] at hrun
    rcases hrun with ⟨rootGroup, db₂, hroot, hrun⟩ | ⟨e, hroot, -⟩
    · have hgroups := deviceOnly_getRootGroup.runs_deviceOnly hroot
      have hbal₂ := hreserved.runs (Ops.mono (fun _ ho => DbOp.DeviceOnly.keepsAccounts ho)
        deviceOnly_getRootGroup) hroot
      have hfree₂ : db₂.groups.findOne id = none := by
        rw [hgroups.2]
        exact hfree
      refine hbal₂.createGroup hd hfree₂ (fun group => ?_) hrun
      refine Ops.bind ((keepsAccounts_addGroupUser _ _).par (keepsAccounts_addGroupUser _ _))
        fun _ => ?_
      exact Ops.mono (fun _ ho => ho.keepsAccounts) (deviceOnly_findGroup _)
    · obtain ⟨a, ha⟩ := total_getRootGroup.runs hreserved.hasRoot hroot
      cases ha

/-! ### Sequences of operations -/

/-- The operations.  A new group comes with no duration; `updateUserGroup` is given the data that
`updateGroup` computes for a requested schedule. -/
inductive Operation where
  | createUserGroup (id : String) (data : GroupData) (hd : data.duration = 0)
  | addGroupDevices (id : String) (serials : List String)
  | removeGroupDevices (id : String) (serials : List String)
  | updateUserGroup (id : String) (body : groups.GroupBody) (sched : groups.Schedule)
      (start stop : Int)
  | updateGroupDates (id : String) (windowIndex : Nat) (isActive : Bool)
  | deleteUserGroup (id : String)

namespace Operation

/-- What an operation does to the database. -/
def prog : Operation → DbM Unit
  | .createUserGroup id data _ => do
    let _ ← GroupModel.createUserGroup id data
    return ()
  | .addGroupDevices id serials => withGroup id fun group =>
      GroupModel.addGroupDevices group serials
  | .removeGroupDevices id serials => withGroup id fun group =>
      GroupModel.removeGroupDevices group serials
  | .updateUserGroup id body sched start stop => withGroup id fun group =>
      GroupModel.updateUserGroup group (groups.updateData group body sched start stop)
  | .updateGroupDates id windowIndex isActive => withGroup id fun group =>
      GroupsScheduler.updateGroupDates group windowIndex isActive
  | .deleteUserGroup id => do
    let _ ← GroupModel.deleteUserGroup id
    return ()

/-- The condition under which an operation conserves the quotas. -/
def Fits (db : Db) : Operation → Prop
  | .createUserGroup id data _ => CreateFits db id data
  | .addGroupDevices id serials => ∀ group ∈ db.groups.findOne id, AddFits db group serials
  | .removeGroupDevices id serials =>
    ∀ group ∈ db.groups.findOne id, RemoveFits db group serials
  | .updateUserGroup id body sched start stop => ∀ group ∈ db.groups.findOne id,
      UpdateFits db group (groups.updateData group body sched start stop)
  | .updateGroupDates id windowIndex _ =>
    ∀ group ∈ db.groups.findOne id, DatesFit db group windowIndex
  | .deleteUserGroup id => ∀ group ∈ db.groups.findOne id, DeleteFits db group

/-- The data of `updateGroup` has the price of its schedule. -/
theorem priced_updateData (group : Group) (body : groups.GroupBody) (sched : groups.Schedule)
    (start stop : Int) :
    ((GroupChange.setData (groups.updateData group body sched start stop)).apply group).Priced := by
  intro ht w hw
  have horigin : isOriginGroup sched.class_ = false := ht
  obtain rfl : (⟨start, stop⟩ : Window) = w := Option.some.inj hw
  simp [GroupChange.apply, groups.updateData, horigin]

/-- **An operation that fits conserves the quotas**, whether it succeeds or fails. -/
theorem consistent {op : Operation} {db db' : Db} {r : Except JsError Unit} (h : Consistent db)
    (hfit : op.Fits db) (hrun : op.prog.Runs DbOp.exec db r db') : Consistent db' := by
  cases op with
  | createUserGroup id data hd =>
    obtain ⟨r', hrun⟩ := Prog.runs_discard hrun
    exact createUserGroup_consistent h hd hfit hrun
  | deleteUserGroup id =>
    obtain ⟨r', hrun⟩ := Prog.runs_discard hrun
    exact deleteUserGroup_consistent h hfit hrun
  | addGroupDevices id serials =>
    rcases runs_withGroup hrun with ⟨-, rfl⟩ | ⟨group, hg, hid, r', hrun⟩
    · exact h
    · exact addGroupDevices_consistent h hid (hfit group hg) hrun
  | removeGroupDevices id serials =>
    rcases runs_withGroup hrun with ⟨-, rfl⟩ | ⟨group, hg, hid, r', hrun⟩
    · exact h
    · exact removeGroupDevices_consistent h hid (hfit group hg) hrun
  | updateUserGroup id body sched start stop =>
    rcases runs_withGroup hrun with ⟨-, rfl⟩ | ⟨group, hg, hid, r', hrun⟩
    · exact h
    · exact updateUserGroup_consistent h hid (hfit group hg)
        (priced_updateData group body sched start stop) hrun
  | updateGroupDates id windowIndex isActive =>
    rcases runs_withGroup hrun with ⟨-, rfl⟩ | ⟨group, hg, hid, r', hrun⟩
    · exact h
    · exact updateGroupDates_consistent h hid (hfit group hg) hrun

end Operation

/-- Operations running one after the other. -/
def operations : Lts Db Operation where
  step db op db' := ∃ r, op.prog.Runs DbOp.exec db r db'

/-- **Every sequence of operations that fit conserves the quotas.** -/
theorem conserved_of_run {db db' : Db} {ops : List Operation} (h : Consistent db)
    (hrun : (operations.restrict fun db op => op.Fits db).Run db ops db') : Conserved db' := by
  have hconsistent : Consistent db' :=
    hrun.invariant_of_restrict h fun _ _ _ hdb hfit ⟨_, hstep⟩ => Operation.consistent hdb hfit hstep
  exact hconsistent.toConserved

/-- A user with a booking `g` of no device yet, and a booking `h` of the device `d`, both for an
hour and `overlap` milliseconds of it at the same time. -/
def secondBooking (overlap : Int) : Db where
  users := .ofDocs [Sample.user "u" ⟨5, 36000000⟩ ⟨2, 3600000⟩]
  groups := .ofDocs [Sample.root, Sample.booking "g" "u" .once 0 [⟨0, 3600000⟩] 0 [],
    Sample.booking "h" "u" .once 0 [⟨3600000 - overlap, 7200000 - overlap⟩] 3600000 ["d"]]
  devices := .ofDocs [Sample.device "d"]

theorem secondBooking_consistent (overlap : Int) : Consistent (secondBooking overlap) where
  number u hu := by
    obtain rfl := List.mem_singleton.1 hu
    rfl
  duration u hu := by
    obtain rfl := List.mem_singleton.1 hu
    rfl
  priced g hg := by
    simp only [secondBooking, Collection.ofDocs, List.mem_cons, List.not_mem_nil, or_false] at hg
    rcases hg with rfl | rfl | rfl
    · intro ht
      cases ht
    · intro _ w hw
      obtain rfl := Option.some.inj hw
      rfl
    · intro _ w hw
      obtain rfl := Option.some.inj hw
      show (3600000 : Int) = 1 * (7200000 - overlap - (3600000 - overlap)) * (0 + 1)
      omega
  hasRoot := ⟨Sample.root, List.mem_cons_self, rfl⟩

/-- The charge for a device that is busy is not taken back. -/
theorem not_conserved_of_overlap : Consistent (secondBooking 1) ∧
    ∃ db', operations.Run (secondBooking 1) [.addGroupDevices "g" ["d"]] db' ∧
      ¬ Conserved db' := by
  refine ⟨secondBooking_consistent 1, _, .more ⟨_, runs_eval _ _ _⟩ (.done _), fun h => ?_⟩
  have hdur := h.duration (Sample.user "u" ⟨5, 36000000⟩ ⟨2, 7200000⟩) (by decide +kernel)
  revert hdur
  decide +kernel

/-- A device that is free is added, and the group deleted again. -/
theorem conserved_of_run_free : ∃ db', (operations.restrict fun db op => op.Fits db).Run
    (secondBooking 0) [.addGroupDevices "g" ["d"], .deleteUserGroup "g"] db' ∧
      db'.groups.findOne "g" = none ∧ Conserved db' := by
  have hadd : (Operation.addGroupDevices "g" ["d"]).Fits (secondBooking 0) := by
    intro group hg duration hduration
    obtain rfl : Sample.booking "g" "u" .once 0 [⟨0, 3600000⟩] 0 [] = group :=
      Option.some.inj hg
    obtain rfl := Except.ok.inj hduration
    exact .inr ⟨by decide +kernel, fun _ => rfl⟩
  have hdelete : (Operation.deleteUserGroup "g").Fits
      ((Operation.addGroupDevices "g" ["d"]).prog.eval DbOp.exec (secondBooking 0)).2 := by
    have hpass : ∀ group ∈ ((Operation.addGroupDevices "g" ["d"]).prog.eval DbOp.exec
        (secondBooking 0)).2.groups.findOne "g", ChargePasses
          ((Operation.addGroupDevices "g" ["d"]).prog.eval DbOp.exec (secondBooking 0)).2
            group.owner.email group.duration 0 := by
      decide +kernel
    exact fun group hg => .inr (hpass group hg)
  have hrun := Lts.Run.more (A := operations.restrict fun db op => op.Fits db)
    ⟨⟨_, runs_eval _ _ _⟩, hadd⟩ (.more ⟨⟨_, runs_eval _ _ _⟩, hdelete⟩ (.done _))
  refine ⟨_, hrun, by decide +kernel, conserved_of_run (secondBooking_consistent 0) hrun⟩

end DeviceHub

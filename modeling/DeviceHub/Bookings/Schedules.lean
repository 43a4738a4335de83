import DeviceHub.Db.Ops
import DeviceHub.Db.Sample
import DeviceHub.Api.Groups
import DeviceHub.Db.Outcomes
import Mathlib.Tactic.Set

/-!
# Schedules that requests store

`checkSchedule` is the validator of schedules.  `updateGroup` waits for its answer and stores
nothing after a rejection; `createGroup` starts it and creates the group in any case.

## Main definitions

* `ScheduleOk` : what `checkSchedule` demands, as a property of a stored group.
* `Checked` : every group stored after a run has the schedule it had before, or a valid one.
* `ScheduleRequest` : the requests that store schedules.

## Main results

* `scheduleOk_of_checkScheduleSync` : an accepted schedule is valid.
* `checked_updateGroup`, `checked_createGroup` : what the two controllers store.
* `schedulesOk_of_run` : every group that a sequence of requests created or rescheduled is valid, if
  the schedules of new groups are accepted.
-/

namespace DeviceHub

open Prog apiutil

/-! ### Valid schedules -/

/-- What `checkSchedule` demands of a group, `limit` being the repetitions quota of its owner. -/
structure ScheduleOk (limit : Option Int) (g : Group) : Prop where
  lifeTime : ∃ w, g.dates.head? = some w ∧ w.start < w.stop ∧
    ∀ d ∈ CLASS_DURATION g.class_, w.stop - w.start ≤ d
  repetitions : g.repetitions = 0 ↔ g.class_.Single
  limited : ∀ n ∈ limit, g.repetitions ≤ n
  authorized : g.privilege = .user → isAdminGroup g.class_ = false

/-- The schedule of a group, with the owner and the privilege it depends on. -/
structure Group.Timetable where
  owner : Owner
  privilege : Privilege
  class_ : GroupClass
  dates : List Window
  repetitions : Int
  deriving DecidableEq

/-- What the checks of a schedule look at. -/
def Group.timetable (g : Group) : Group.Timetable where
  owner := g.owner
  privilege := g.privilege
  class_ := g.class_
  dates := g.dates
  repetitions := g.repetitions

theorem ScheduleOk.congr {limit : Option Int} {g g' : Group} (h : ScheduleOk limit g)
    (hg : g'.timetable = g.timetable) : ScheduleOk limit g' := by
  obtain ⟨-, hp, hc, hd, hr⟩ := Group.Timetable.mk.inj hg
  obtain ⟨h₁, h₂, h₃, h₄⟩ := h
  exact ⟨by rw [hd, hc]; exact h₁, by rw [hr, hc]; exact h₂, by rw [hr]; exact h₃,
    by rw [hp, hc]; exact h₄⟩

namespace groups

/-- An accepted schedule is valid, apart from the quota that the database decides. -/
theorem scheduleOk_of_checkScheduleSync {oldGroup : Option Group} {class_ : GroupClass}
    {repetitions : Int} {privilege : Privilege} {start stop : JsDate}
    (h : checkScheduleSync oldGroup class_ repetitions privilege start stop = none) :
    ∃ s t, start = some s ∧ stop = some t ∧ s < t ∧ (∀ d ∈ CLASS_DURATION class_, t - s ≤ d) ∧
      (repetitions = 0 ↔ class_.Single) ∧ (privilege = .user → isAdminGroup class_ = false) := by
  unfold checkScheduleSync at h
  split at h
  · cases h
  split at h
  · cases h
  rename_i hadmin
  split at h
  · cases h
  · cases h
  rename_i s t
  split at h
  · cases h
  rename_i hlt
  split at h
  · cases h
  rename_i hdur
  refine ⟨s, t, rfl, rfl, by omega, fun d hd => ?_, ?_, fun hp => ?_⟩
  · by_contra hle
    refine hdur ?_
    rw [Option.mem_def.1 hd]
    simpa using by omega
  · cases class_ <;> dsimp only at h <;> split at h <;> simp_all [GroupClass.Single]
  · simpa [hp] using hadmin

/-- `checkSchedule` running alone: it accepts a schedule that passes the checks without database
and does not go beyond the quota of the owner. -/
theorem runs_checkSchedule {oldGroup : Option Group} {class_ : GroupClass} {email : String}
    {repetitions : Int} {privilege : Privilege} {start stop : JsDate} {α : Type}
    {k : Option Response → DbM α} {db db' : Db} {r : Except JsError α}
    (h : ((checkSchedule oldGroup class_ email repetitions privilege start stop).bind k).Runs
      DbOp.exec db r db') :
    ∃ response, (k response).Runs DbOp.exec db r db' ∧ (response = none →
      checkScheduleSync oldGroup class_ repetitions privilege start stop = none ∧
        ∀ owner ∈ db.users.findOne email, repetitions ≤ owner.quotas.repetitions) := by
  unfold checkSchedule at h
  split at h
  · exact ⟨_, h, by simp⟩
  rename_i hsync
  have h' : ((if ((db.users.findOne email).any fun owner =>
      repetitions > owner.quotas.repetitions) = true then
        return some ⟨400, "Bad Request (Invalid repetitions value)"⟩ else return none : DbM _).bind
          k).Runs DbOp.exec db r db' := h
  split at h'
  · exact ⟨_, h', by simp⟩
  · rename_i hquota
    refine ⟨none, h', fun _ => ⟨hsync, fun owner howner => ?_⟩⟩
    rw [Option.mem_def.1 howner] at hquota
    simpa using hquota

/-- `checkConflicts` running alone reads. -/
theorem runs_checkConflicts {id : String} {devices : List String} {dates : List LifeTime} {α : Type}
    {k : List Conflict → DbM α} {db db' : Db} {r : Except JsError α}
    (h : ((checkConflicts id devices dates).bind k).Runs DbOp.exec db r db') :
    ∃ conflicts, (k conflicts).Runs DbOp.exec db r db' := ⟨_, h⟩

end groups

/-! ### What a run does to the schedules -/

/-- The repetitions quota of a user. -/
def limitOf (db : Db) (email : String) : Option Int :=
  (db.users.findOne email).map fun u => u.quotas.repetitions

/-- From `db` to `db'` no quota changes, and every group stored in the end has the schedule it had
before, or a valid one under the quotas `limit`. -/
structure Checked (limit : String → Option Int) (db db' : Db) : Prop where
  limitOf_eq : limitOf db' = limitOf db
  schedule : ∀ id, ∀ g' ∈ db'.groups.findOne id,
    (∃ g ∈ db.groups.findOne id, g'.timetable = g.timetable) ∨
      ScheduleOk (limit g'.owner.email) g'

namespace Checked

variable {limit : String → Option Int} {db db₁ db' : Db}

theorem refl (limit : String → Option Int) (db : Db) : Checked limit db db :=
  ⟨rfl, fun _ g hg => .inl ⟨g, hg, rfl⟩⟩

theorem trans (h : Checked limit db db₁) (h' : Checked limit db₁ db') : Checked limit db db' where
  limitOf_eq := h'.limitOf_eq.trans h.limitOf_eq
  schedule id g' hg' := by
    rcases h'.schedule id g' hg' with ⟨g₁, hg₁, he₁⟩ | hok
    · rcases h.schedule id g₁ hg₁ with ⟨g, hg, he⟩ | hok
      · exact .inl ⟨g, hg, he₁.trans he⟩
      · have howner : g'.owner = g₁.owner := congrArg Group.Timetable.owner he₁
        exact .inr (howner ▸ hok.congr he₁)
    · exact .inr hok

end Checked

/-- The update of a user leaves the quota of repetitions alone. -/
def UserChange.KeepsLimit : UserChange → Prop
  | .setQuotas _ _ _ => False
  | _ => True

/-- The update of a group leaves the schedule alone. -/
def GroupChange.KeepsTimetable : GroupChange → Prop
  | .setData _ | .setDates _ _ _ _ | .setLifetime _ => False
  | _ => True

theorem UserChange.KeepsLimit.repetitions_apply {f : UserChange} (h : f.KeepsLimit) (u : User) :
    (f.apply u).quotas.repetitions = u.quotas.repetitions := by
  cases f <;> first | rfl | exact h.elim

theorem GroupChange.KeepsTimetable.timetable_apply {f : GroupChange} (h : f.KeepsTimetable)
    (g : Group) : (f.apply g).timetable = g.timetable := by
  cases f <;> first | rfl | exact h.elim

/-- The call stores no schedule other than those of new groups `g` with `ok g`. -/
def DbOp.Stores (ok : Group → Prop) : DbOp → Prop
  | .users (.update _ f) => f.KeepsLimit
  | .users o => o.IsRead
  | .groups (.update _ f) => f.KeepsTimetable
  | .groups (.insert g) => ok g
  | .groups o => o.IsRead
  | .devices _ => True

theorem DbOp.IsRead.stores {ok : Group → Prop} {o : DbOp} (h : o.IsRead) : o.Stores ok := by
  cases o with
  | users o => cases o <;> trivial
  | groups o => cases o <;> trivial
  | devices o => trivial

theorem DbOp.DeviceOnly.stores {ok : Group → Prop} {o : DbOp} (h : o.DeviceOnly) :
    o.Stores ok := by
  obtain ⟨hg, hu⟩ := h
  cases o with
  | users o => cases o <;> trivial
  | groups o => cases o <;> trivial
  | devices o => trivial

theorem limitOf_update {db : Db} {k : String} {f : UserChange} (h : f.KeepsLimit) :
    limitOf (DbOp.exec (.users (.update k f)) db).2 = limitOf db := by
  funext email
  have hf : ∀ u : User, (f.apply u).quotas.repetitions = u.quotas.repetitions :=
    h.repetitions_apply
  simp only [limitOf, DbOp.exec, CollOp.exec]
  by_cases he : email = k
  · subst he
    cases hu : db.users.findOne email with
    | none => rw [Collection.update_of_findOne_none _ hu, hu]
    | some u =>
      rw [Collection.findOne_update_self _ hu]
      simp [hf]
  · rw [Collection.findOne_update_ne _ he]

/-- An update of a group, by what it makes of the schedule. -/
theorem checked_update {limit : String → Option Int} {db : Db} {k : String} {f : GroupChange}
    (h : ∀ g ∈ db.groups.findOne k, (f.apply g).timetable = g.timetable ∨
      ScheduleOk (limit g.owner.email) (f.apply g)) :
    Checked limit db (DbOp.exec (.groups (.update k f)) db).2 where
  limitOf_eq := rfl
  schedule id g' hg' := by
    rw [Option.mem_def] at hg'
    simp only [DbOp.exec, CollOp.exec] at hg'
    by_cases hid : id = k
    · subst hid
      cases hg : db.groups.findOne id with
      | none =>
        rw [Collection.update_of_findOne_none _ hg, hg] at hg'
        cases hg'
      | some g =>
        rw [Collection.findOne_update_self _ hg] at hg'
        obtain rfl := Option.some.inj hg'
        rcases h g hg with hsame | hok
        · exact .inl ⟨g, rfl, hsame⟩
        · exact .inr (by simpa using hok)
    · rw [Collection.findOne_update_ne _ hid] at hg'
      exact .inl ⟨g', hg', rfl⟩

theorem checked_exec {limit : String → Option Int} {o : DbOp}
    (h : o.Stores fun g => ScheduleOk (limit g.owner.email) g) (db : Db) :
    Checked limit db (o.exec db).2 := by
  cases o with
  | devices o => exact ⟨rfl, fun _ g hg => .inl ⟨g, hg, rfl⟩⟩
  | users o =>
    cases o with
    | findOne k => exact Checked.refl limit db
    | find q => exact Checked.refl limit db
    | update k f => exact ⟨limitOf_update h, fun _ g hg => .inl ⟨g, hg, rfl⟩⟩
    | updateMany q f => exact h.elim
    | insert d => exact h.elim
    | delete k => exact h.elim
  | groups o =>
    cases o with
    | findOne k => exact Checked.refl limit db
    | find q => exact Checked.refl limit db
    | update k f => exact checked_update fun g _ => .inl (h.timetable_apply g)
    | insert g =>
      refine ⟨rfl, fun id g' hg' => ?_⟩
      by_cases hfree : db.groups.findOne g.id = none
      · by_cases hid : id = g.id
        · subst hid
          have hnew : (db.groups.insert g).findOne g.id = some g :=
            Collection.findOne_insert_self hfree
          obtain rfl := Option.some.inj (hnew.symm.trans hg')
          exact .inr h
        · have hold : (db.groups.insert g).findOne id = db.groups.findOne id :=
            Collection.findOne_insert_ne hid
          exact .inl ⟨g', hold ▸ hg', rfl⟩
      · have hmem : key g ∈ db.groups.docs.map key := by
          by_contra hnot
          exact hfree (Collection.findOne_eq_none_iff_notMem.2 hnot)
        have hsame : db.groups.insert g = db.groups := Collection.insert_of_mem hmem
        exact .inl ⟨g', hsame ▸ hg', rfl⟩
    | updateMany q f => exact h.elim
    | delete k => exact h.elim

theorem checked_runs {limit : String → Option Int} {α : Type} {p : DbM α}
    (hp : p.Ops (DbOp.Stores fun g => ScheduleOk (limit g.owner.email) g)) {db db' : Db}
    {r : Except JsError α} (h : p.Runs DbOp.exec db r db') : Checked limit db db' := by
  have hop : ∀ o db, DbOp.Stores (fun g => ScheduleOk (limit g.owner.email) g) o →
      Checked limit db (DbOp.exec o db).2 := fun _ db ho => checked_exec ho db
  exact Runs.rel (R := Checked limit) (Checked.refl limit) (fun _ _ _ h₁ h₂ => h₁.trans h₂) hop hp h

/-! ### `createGroup` -/

section Create

open GroupModel UserModel

variable {ok : Group → Prop}

/-- The only schedule that `createUserGroup` stores is that of its data. -/
theorem stores_createUserGroup {id : String} {data : GroupData}
    (hok : ∀ users, ok (data.toGroup id users)) :
    (createUserGroup id data).Ops (DbOp.Stores ok) :=
  ops_createUserGroup (fun _ ho => ho.1.stores) trivial hok (fun _ _ => trivial) fun _ _ => trivial

theorem reads_checkSchedule (oldGroup : Option Group) (class_ : GroupClass) (email : String)
    (repetitions : Int) (privilege : Privilege) (start stop : JsDate) :
    (groups.checkSchedule oldGroup class_ email repetitions privilege start stop).Ops
      DbOp.IsRead := by
  unfold groups.checkSchedule
  split
  · trivial
  · refine Ops.bind (ops_perform.2 trivial) fun owner => ?_
    split <;> trivial

/-- The schedule of a new group passes `checkSchedule`. -/
def groups.CreateAccepted (limit : String → Option Int) (user : User) (now : Int)
    (body : GroupBody) : Prop :=
  let (data, lifeTime) := createData user now "" body
  checkScheduleSync none data.class_ data.repetitions data.privilege lifeTime.start
      lifeTime.stop = none ∧
    ∀ n ∈ limit user.email, data.repetitions ≤ n

instance (limit : String → Option Int) (user : User) (now : Int) (body : groups.GroupBody) :
    Decidable (groups.CreateAccepted limit user now body) :=
  inferInstanceAs (Decidable (_ ∧ _))

theorem scheduleOk_toGroup {limit : String → Option Int} {user : User} {now : Int}
    {name : String} {body : groups.GroupBody} (h : groups.CreateAccepted limit user now body)
    (id : String) (users : List String) :
    ScheduleOk (limit user.email) ((groups.createData user now name body).1.toGroup id users) := by
  obtain ⟨hsync, hlimit⟩ := h
  obtain ⟨s, t, hs, ht, hlt, hdur, hrep, hauth⟩ := groups.scheduleOk_of_checkScheduleSync hsync
  refine ⟨⟨⟨s, t⟩, ?_, hlt, hdur⟩, hrep, hlimit, hauth⟩
  have hlife : (groups.createData user now name body).2 = ⟨some s, some t⟩ :=
    congrArg₂ LifeTime.mk hs ht
  show some ((groups.createData user now name body).2.stored) = some ⟨s, t⟩
  rw [hlife]
  rfl

/-- What `createGroup` stores when the schedule is accepted. -/
theorem checked_createGroup {limit : String → Option Int} {user : User} {now : Int}
    {id name : String} {body : groups.GroupBody} {db db' : Db}
    {r : Except JsError (Option Response)} (h : groups.CreateAccepted limit user now body)
    (hrun : (groups.createGroup user now id name body).Runs DbOp.exec db r db') :
    Checked limit db db' := by
  obtain ⟨r', hrun⟩ := runs_rescue hrun
  refine checked_runs (Ops.bind (Ops.par
    (Ops.mono (fun _ ho => ho.stores) (reads_checkSchedule _ _ _ _ _ _ _))
    (stores_createUserGroup fun users => scheduleOk_toGroup h id users)) fun result => ?_) hrun
  obtain ⟨rejected, group⟩ := result
  cases rejected with
  | some response => trivial
  | none => dsimp only; split <;> trivial

/-- No group is created: the owner has no instance left, there is no root group, or the identifier
is taken. -/
def CreateRefused (db : Db) (email id : String) : Prop :=
  (∀ u ∈ db.users.findOne email, u.quotas.consumed.number = u.quotas.allocated.number) ∨
    ¬ HasRoot db ∨ db.groups.findOne id ≠ none

theorem hasRoot_of_runs {db db' : Db} {group : Group}
    (h : getRootGroup.Runs DbOp.exec db (.ok group) db') : HasRoot db := by
  unfold getRootGroup at h
  rw [bind_eq, Db.runs_findGroups] at h
  split at h
  · cases h.1
  · rename_i g rest hfound
    have hmem : g ∈ db.groups.docs.filter fun g => decide (g.privilege = .root) := by
      rw [hfound]
      exact List.mem_cons_self
    exact ⟨g, (List.mem_filter.1 hmem).1, of_decide_eq_true (List.mem_filter.1 hmem).2⟩

/-- A refused creation stores no schedule. -/
theorem checked_of_createRefused {limit : String → Option Int} {id : String} {data : GroupData}
    {db db' : Db} {r : Except JsError (Option Group)}
    (h : CreateRefused db data.owner.email id)
    (hrun : (createUserGroup id data).Runs DbOp.exec db r db') : Checked limit db db' := by
  unfold createUserGroup at hrun
  rw [bind_eq, runs_reserveUserGroupInstance] at hrun
  have hreserved : Checked limit db
      (DbOp.exec (.users (.update data.owner.email .reserveNumber)) db).2 :=
    checked_exec (o := .users (.update _ .reserveNumber)) trivial db
  refine hreserved.trans ?_
  set db₁ := (DbOp.exec (.users (.update data.owner.email .reserveNumber)) db).2 with hdb₁
  split at hrun
  · obtain ⟨-, rfl⟩ := hrun
    exact Checked.refl _ _
  rename_i hstats
  rw [bind_eq, runs_bind] at hrun
  have hreads : ∀ {r' db₂}, getRootGroup.Runs DbOp.exec db₁ r' db₂ → Checked limit db₁ db₂ :=
    fun hroot => checked_runs (Ops.mono (fun _ ho => DbOp.DeviceOnly.stores ho)
      deviceOnly_getRootGroup) hroot
  rcases hrun with ⟨rootGroup, db₂, hroot, hrun⟩ | ⟨e, hroot, -⟩
  swap
  · exact hreads hroot
  refine (hreads hroot).trans ?_
  have htaken : db₂.groups.findOne id ≠ none := by
    rw [(deviceOnly_getRootGroup.runs_deviceOnly hroot).2]
    rcases h with hfull | hno | htaken
    · -- a full quota leaves the reservation without effect
      refine absurd ?_ hstats
      have hidle : ∀ u ∈ db.users.findOne data.owner.email,
          UserChange.reserveNumber.apply u = u := fun u hu => by
        have hmin : min (u.quotas.consumed.number + 1) u.quotas.allocated.number =
            u.quotas.consumed.number := by have := hfull u hu; omega
        simp only [UserChange.apply, Quotas.reserve, hmin]
      cases hu : db.users.findOne data.owner.email with
      | none => rfl
      | some u => simp [reserveStats, updateUserHandler, hidle u hu]
    · exact absurd (hasRoot_of_runs hroot) hno
    · exact htaken
  have hmem : key (data.toGroup id [rootGroup.owner.email]) ∈ db₂.groups.docs.map key := by
    by_contra hnot
    exact htaken (Collection.findOne_eq_none_iff_notMem.2 hnot)
  have hsame : (DbOp.exec (.groups (.insert (data.toGroup id [rootGroup.owner.email]))) db₂).2 =
      db₂ := by
    simp only [DbOp.exec, CollOp.exec, Collection.insert_of_mem hmem]
  -- the identifier is taken, so the insertion fails
  have hrefused : ∀ {r' db₃}, (createGroup id data [rootGroup.owner.email]).Runs DbOp.exec db₂ r' db₃ →
      r' = .error .duplicateKey ∧ db₃ = db₂ := by
    intro r' db₃ hcreate
    unfold createGroup at hcreate
    rw [bind_eq, Db.runs_insertGroup, hsame, if_pos (by simpa using hmem)] at hcreate
    exact hcreate
  rw [bind_eq, runs_bind] at hrun
  rcases hrun with ⟨newGroup, db₃, hcreate, -⟩ | ⟨e, hcreate, -⟩
  · cases (hrefused hcreate).1
  · rw [(hrefused hcreate).2]
    exact Checked.refl _ _

/-- What `createGroup` stores when the creation is refused, whatever the schedule. -/
theorem checked_createGroup_refused {limit : String → Option Int} {user : User} {now : Int}
    {id name : String} {body : groups.GroupBody} {db db' : Db}
    {r : Except JsError (Option Response)} (h : CreateRefused db user.email id)
    (hrun : (groups.createGroup user now id name body).Runs DbOp.exec db r db') :
    Checked limit db db' := by
  obtain ⟨r', hrun⟩ := runs_rescue hrun
  have hcreate : ∀ {r' db₁}, (groups.createGroupFunc id (groups.createData user now name body).1
      (groups.createData user now name body).2.start
        (groups.createData user now name body).2.stop).Runs DbOp.exec db r' db₁ →
      Checked limit db db₁ := by
    intro r' db₁ hpar
    have hread : ∀ o (db : Db), DbOp.IsRead o → (DbOp.exec o db).2 = db := fun _ db ho => ho.exec db
    obtain ⟨r'', hrun⟩ := runs_par_of_silent hread (reads_checkSchedule _ _ _ _ _ _ _) hpar
    exact checked_of_createRefused h hrun
  rcases runs_bind.1 hrun with ⟨⟨rejected, group⟩, db₁, hpar, hrest⟩ | ⟨e, hpar, -⟩
  · refine (hcreate hpar).trans (checked_runs ?_ hrest)
    cases rejected with
    | some response => trivial
    | none => dsimp only; split <;> trivial
  · exact hcreate hpar

end Create

/-! ### `updateGroup` -/

section Update

open GroupModel

variable {db db' : Db}

/-- `updateUserGroup` stores the schedule of its data in the group it was given, or nothing. -/
theorem checked_updateUserGroup {limit : String → Option Int} {group : Group} {data : GroupUpdate}
    {r : Except JsError (Option Group)} (hg : db.groups.findOne group.id = some group)
    (hok : ScheduleOk (limit group.owner.email) ((GroupChange.setData data).apply group))
    (hrun : (updateUserGroup group data).Runs DbOp.exec db r db') : Checked limit db db' := by
  unfold updateUserGroup at hrun
  rw [bind_eq, runs_updateUserGroupDuration] at hrun
  have hcharged : Checked limit db (DbOp.exec (.users (.update group.owner.email
      (.chargeDuration group.duration data.duration))) db).2 :=
    checked_exec (o := .users (.update _ (.chargeDuration _ _))) trivial db
  set db₁ := (DbOp.exec (.users (.update group.owner.email
    (.chargeDuration group.duration data.duration))) db).2 with hdb₁
  split at hrun
  · exact hrun.2 ▸ hcharged
  rw [bind_eq, Db.runs_updateGroup] at hrun
  have hg₁ : db₁.groups.findOne group.id = some group := hg
  have hwritten : Checked limit db₁ (DbOp.exec (.groups (.update group.id (.setData data))) db₁).2 :=
    checked_update fun g' hg' => by
      obtain rfl := Option.some.inj (hg₁.symm.trans hg')
      exact .inr hok
  refine (hcharged.trans hwritten).trans ?_
  rw [hg₁] at hrun
  dsimp only [Option.map_some] at hrun
  split at hrun
  · exact hrun.2 ▸ Checked.refl limit _
  · exact checked_runs (Ops.bind (Ops.mono (fun _ ho => ho.stores)
      (places_updateHandlers _ _ _).deviceOnly) fun _ => ops_ret) hrun

theorem checked_updateGroupData {limit : String → Option Int} {isInternal : Bool} {group : Group}
    {data : GroupUpdate} {r : Except JsError (Option Response)}
    (hg : db.groups.findOne group.id = some group)
    (hok : ScheduleOk (limit group.owner.email) ((GroupChange.setData data).apply group))
    (hrun : (groups.updateGroupData isInternal group data).Runs DbOp.exec db r db') :
    Checked limit db db' := by
  unfold groups.updateGroupData at hrun
  rw [bind_eq, runs_bind] at hrun
  rcases hrun with ⟨newGroup, db₁, hupdate, hrest⟩ | ⟨e, hupdate, -⟩
  · refine (checked_updateUserGroup hg hok hupdate).trans (checked_runs ?_ hrest)
    cases newGroup with
    | none => trivial
    | some newGroup =>
      dsimp only
      split
      · exact Ops.bind (Ops.mono (fun _ ho => ho.stores) (deviceOnly_findDevices _)) fun _ => trivial
      · trivial
  · exact checked_updateUserGroup hg hok hupdate

theorem scheduleOk_updateData {limit : Option Int} {oldGroup : Option Group} {group : Group}
    (body : groups.GroupBody) {sched : groups.Schedule} {start stop : Int}
    (hstart : sched.start = some start) (hstop : sched.stop = some stop)
    (hsync : groups.checkScheduleSync oldGroup sched.class_ sched.repetitions group.privilege
      sched.start sched.stop = none)
    (hlimit : ∀ n ∈ limit, sched.repetitions ≤ n) :
    ScheduleOk limit
      ((GroupChange.setData (groups.updateData group body sched start stop)).apply group) := by
  obtain ⟨s, t, hs, ht, hlt, hdur, hrep, hauth⟩ := groups.scheduleOk_of_checkScheduleSync hsync
  obtain rfl := Option.some.inj (hstart.symm.trans hs)
  obtain rfl := Option.some.inj (hstop.symm.trans ht)
  exact ⟨⟨⟨start, stop⟩, rfl, hlt, hdur⟩, hrep, hlimit, hauth⟩

theorem checked_updateSchedule {id : String} {isInternal : Bool} {group : Group} {w : Window}
    {body : groups.GroupBody} {sched : groups.Schedule} {r : Except JsError (Option Response)}
    (hg : db.groups.findOne group.id = some group)
    (hrun : (groups.updateSchedule id isInternal group w body sched).Runs DbOp.exec db r db') :
    Checked (limitOf db) db db' := by
  unfold groups.updateSchedule at hrun
  obtain ⟨response, hrun, haccepted⟩ := groups.runs_checkSchedule hrun
  cases response with
  | some response =>
    obtain ⟨-, rfl⟩ := hrun
    exact Checked.refl _ _
  | none =>
    obtain ⟨hsync, hquota⟩ := haccepted rfl
    have hlimit : ∀ n ∈ limitOf db group.owner.email, sched.repetitions ≤ n := by
      intro n hn
      obtain ⟨u, hu, rfl⟩ := Option.map_eq_some_iff.1 hn
      exact hquota u hu
    dsimp only at hrun
    split at hrun
    · rename_i start stop hstart hstop
      have hok := scheduleOk_updateData body hstart hstop hsync hlimit
      split at hrun
      · exact checked_runs (Ops.bind (Ops.mono (fun _ ho => ho.stores) (deviceOnly_findDevices _))
          fun _ => ops_ret) hrun
      split at hrun
      · obtain ⟨conflicts, hrun⟩ := groups.runs_checkConflicts hrun
        split at hrun
        · exact checked_updateGroupData hg hok hrun
        · obtain ⟨-, rfl⟩ := hrun
          exact Checked.refl _ _
      · exact checked_updateGroupData hg hok hrun
    · obtain ⟨-, rfl⟩ := hrun
      exact Checked.refl _ _

/-- **What `updateGroup` stores.**  Every group whose schedule it changes has a valid one. -/
theorem checked_updateGroup {user : User} {id : String} {isInternal : Bool}
    {body : groups.GroupBody} {r : Except JsError (Option Response)}
    (hrun : (groups.updateGroup user id isInternal body).Runs DbOp.exec db r db') :
    Checked (limitOf db) db db' := by
  obtain ⟨r', hrun⟩ := runs_rescue hrun
  rw [bind_eq] at hrun
  rcases Db.runs_getUserGroup_cases hrun with hrun | ⟨group, hfound, -, hrun⟩
  · obtain ⟨-, rfl⟩ := hrun
    exact Checked.refl _ _
  · have hself : db.groups.findOne group.id = some group := by
      rw [show group.id = id from Collection.key_of_findOne hfound]
      exact hfound
    dsimp only at hrun
    split at hrun
    · obtain ⟨-, rfl⟩ := hrun
      exact Checked.refl _ _
    split at hrun
    · obtain ⟨-, rfl⟩ := hrun
      exact Checked.refl _ _
    split at hrun
    · -- a group that is not pending: only its name is stored
      refine checked_runs ?_ hrun
      unfold groups.updateName
      split
      · split
        · trivial
        split
        · trivial
        · exact Ops.bind (ops_updateGroupName (fun _ ho => ho.1.stores) trivial) fun _ => ops_ret
      · trivial
    · exact checked_updateSchedule hself hrun

end Update

/-! ### Sequences of requests -/

/-- The requests that store schedules. -/
inductive ScheduleRequest where
  | create (user : User) (now : Int) (id name : String) (body : groups.GroupBody)
  | update (user : User) (id : String) (isInternal : Bool) (body : groups.GroupBody)

namespace ScheduleRequest

/-- The handler that serves the request. -/
def prog : ScheduleRequest → DbM (Option Response)
  | .create user now id name body => groups.createGroup user now id name body
  | .update user id isInternal body => groups.updateGroup user id isInternal body

/-- The schedule of a new group is accepted, or the group is not created for another reason. -/
def Accepted (db : Db) : ScheduleRequest → Prop
  | .create user now id _ body =>
    groups.CreateAccepted (limitOf db) user now body ∨ CreateRefused db user.email id
  | .update _ _ _ _ => True

theorem checked {req : ScheduleRequest} {db db' : Db} {r : Except JsError (Option Response)}
    (h : req.Accepted db) (hrun : req.prog.Runs DbOp.exec db r db') :
    Checked (limitOf db) db db' := by
  cases req with
  | create user now id name body =>
    rcases h with haccepted | hrefused
    · exact checked_createGroup haccepted hrun
    · exact checked_createGroup_refused hrefused hrun
  | update user id isInternal body => exact checked_updateGroup hrun

end ScheduleRequest

/-- From `db` to `db'` the group `id` was created, or its schedule changed. -/
def Rescheduled (db db' : Db) (id : String) : Prop :=
  ∃ g' ∈ db'.groups.findOne id, ∀ g ∈ db.groups.findOne id, g'.timetable ≠ g.timetable

/-- Requests handled one after the other, with the groups that they created or rescheduled so
far. -/
def scheduleRequests : Lts (Db × (String → Prop)) ScheduleRequest where
  step s req s' := (∃ r, req.prog.Runs DbOp.exec s.1 r s'.1) ∧
    s'.2 = fun id => s.2 id ∨ Rescheduled s.1 s'.1 id

/-- One way of handling a request. -/
def ScheduleRequest.after (req : ScheduleRequest) (s : Db × (String → Prop)) :
    Db × (String → Prop) :=
  ((req.prog.eval DbOp.exec s.1).2, fun id => s.2 id ∨
    Rescheduled s.1 (req.prog.eval DbOp.exec s.1).2 id)

theorem scheduleRequests_after (req : ScheduleRequest) (s : Db × (String → Prop)) :
    scheduleRequests.step s req (req.after s) := ⟨⟨_, runs_eval _ _ _⟩, rfl⟩

/-- The groups created or rescheduled so far have valid schedules. -/
def SchedulesOk (s : Db × (String → Prop)) : Prop :=
  ∀ id, s.2 id → ∀ g ∈ s.1.groups.findOne id, ScheduleOk (limitOf s.1 g.owner.email) g

theorem SchedulesOk.step {s s' : Db × (String → Prop)} {req : ScheduleRequest}
    (h : SchedulesOk s) (hreq : req.Accepted s.1) (hstep : scheduleRequests.step s req s') :
    SchedulesOk s' := by
  obtain ⟨⟨r, hrun⟩, htouched⟩ := hstep
  have hchecked := ScheduleRequest.checked hreq hrun
  intro id hid g' hg'
  rw [hchecked.limitOf_eq]
  rcases hchecked.schedule id g' hg' with ⟨g, hg, hsame⟩ | hok
  · -- the schedule is the old one, so the group was touched before
    rw [htouched] at hid
    rcases hid with hold | ⟨g'', hg'', hnew⟩
    · have howner : g'.owner = g.owner := congrArg Group.Timetable.owner hsame
      rw [howner]
      exact (h id hold g hg).congr hsame
    · obtain rfl := Option.some.inj ((Option.mem_def.1 hg').symm.trans hg'')
      exact absurd hsame (hnew g hg)
  · exact hok

/-- **Every group that a sequence of requests created or rescheduled has a valid schedule**, if
each new group comes with an accepted one. -/
theorem schedulesOk_of_run {db : Db} {s : Db × (String → Prop)} {reqs : List ScheduleRequest}
    (h : (scheduleRequests.restrict fun s req => req.Accepted s.1).Run (db, fun _ => False) reqs s) :
    SchedulesOk s :=
  h.invariant_of_restrict (fun _ hid => hid.elim) fun _ _ _ hs hreq hstep => hs.step hreq hstep

/-- A user with no group yet. -/
def noBooking : Db where
  users := ⟨[Sample.user "u" ⟨5, 36000000⟩ ⟨0, 0⟩], by decide⟩
  groups := ⟨[Sample.root], (by decide : ["root"].Nodup)⟩
  devices := ⟨[], List.nodup_nil⟩

/-- The request of a booking from `start` on that ends at `stop`. -/
def bookOnce (start stop : Int) : groups.GroupBody where
  name := none
  startTime := some (some start)
  stopTime := some (some stop)
  class_ := none
  repetitions := none
  state := none

/-- A booking that ends before it begins is rejected, and stored. -/
theorem schedule_not_ok_of_rejected : ∃ s, scheduleRequests.Run (noBooking, fun _ => False)
    [.create (Sample.user "u" ⟨5, 36000000⟩ ⟨0, 0⟩) 0 "g" "New_g" (bookOnce 1000 0)] s ∧
      ¬ SchedulesOk s := by
  refine ⟨_, .more (scheduleRequests_after _ _) (.done _), fun h => ?_⟩
  have hstored : ∃ g ∈ ((ScheduleRequest.create (Sample.user "u" ⟨5, 36000000⟩ ⟨0, 0⟩) 0 "g" "New_g"
      (bookOnce 1000 0)).prog.eval DbOp.exec noBooking).2.groups.findOne "g",
        g.dates.head? = some ⟨1000, 0⟩ := by
    decide +kernel
  obtain ⟨g, hg, hdates⟩ := hstored
  have hnew : noBooking.groups.findOne "g" = none := by decide +kernel
  have hok := h "g" (.inr ⟨g, hg, fun g₀ hg₀ => by rw [hnew] at hg₀; cases hg₀⟩) g hg
  obtain ⟨w, hw, hlt, -⟩ := hok.lifeTime
  obtain rfl := Option.some.inj (hdates.symm.trans hw)
  exact absurd hlt (by decide)

/-- A valid booking is stored, and moved by an hour. -/
theorem schedulesOk_of_run_move : ∃ s, (scheduleRequests.restrict fun s req => req.Accepted s.1).Run
    (noBooking, fun _ => False)
    [.create (Sample.user "u" ⟨5, 36000000⟩ ⟨0, 0⟩) 0 "g" "New_g"
        { bookOnce 0 3600000 with state := some .pending },
      .update (Sample.user "u" ⟨5, 36000000⟩ ⟨1, 0⟩) "g" false (bookOnce 3600000 7200000)] s ∧
    (∃ g ∈ s.1.groups.findOne "g", g.dates = [⟨3600000, 7200000⟩]) ∧ SchedulesOk s := by
  have hcreate : (ScheduleRequest.create (Sample.user "u" ⟨5, 36000000⟩ ⟨0, 0⟩) 0 "g" "New_g"
      { bookOnce 0 3600000 with state := some .pending }).Accepted noBooking :=
    .inl (by decide +kernel)
  have hmove : ∀ db, (ScheduleRequest.update (Sample.user "u" ⟨5, 36000000⟩ ⟨1, 0⟩) "g" false
      (bookOnce 3600000 7200000)).Accepted db := fun _ => trivial
  have hrun := Lts.Run.more (A := scheduleRequests.restrict fun s req => req.Accepted s.1)
    ⟨scheduleRequests_after _ (noBooking, fun _ => False), hcreate⟩
    (.more ⟨scheduleRequests_after _ _, hmove _⟩ (.done _))
  exact ⟨_, hrun, by decide +kernel, schedulesOk_of_run hrun⟩

end DeviceHub

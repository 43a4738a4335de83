import DeviceHub.Api.Authorization
import DeviceHub.Db.Outcomes
import DeviceHub.Db.Devices

/-!
# `removeGroupUsers`

The controller asks for no permission: any member of the group has its users removed, as far as
they can be removed (`Removable`).  The users are removed concurrently, each under a lock.

## Main results

* `removeGroupUsers_keeps` : if no listed user can be removed, no group changes.
* `removeGroupUsers_removes` : if one can, there is a run that removes it.
-/

namespace DeviceHub

open Prog apiutil lodash

/-! ### Removing users -/

/-- The emails that a request to remove users lists: by default all users of the group. -/
def listedEmails (g : Group) (emails : Option String) : List String :=
  match emails.filter (· ≠ "") with
  | none => g.users
  | some emails => without (splitComma emails) ""

/-- The user exists and is not locked. -/
def Unlocked (db : Db) (email : String) : Prop :=
  ∃ u, db.users.findOne email = some u ∧ u.lock = false

/-- The transient groups of a user that hold devices of `g`. -/
def bookingsIn (g : Group) (email : String) (g' : Group) : Bool :=
  g'.owner.email = email && g'.Transient && (intersection g'.devices g.devices).length > 0

/-- The user `email` can be removed from the group `g`. -/
structure Removable (db : Db) (g rootGroup : Group) (email : String) : Prop where
  mem : email ∈ g.users
  notRootOwner : email ≠ rootGroup.owner.email
  notOwner : email ≠ g.owner.email
  unlocked : Unlocked db email
  allowed : g.class_ ≠ .bookable ∨ db.groups.docs.filter (bookingsIn g email) = []

/-- The request removes a user from the group. -/
def RemoveTakes (db : Db) (g : Group) (emails : Option String) : Prop :=
  ∃ rootGroup, rootOf db = some rootGroup ∧
    ∃ email ∈ listedEmails g emails, Removable db g rootGroup email

section Calm

open GroupModel UserModel groups

/-- The users `emails` are removed from the group `id`, one after the other. -/
def pullUsers (id : String) (emails : List String) (groups : Collection Group) : Collection Group :=
  emails.foldl (fun groups email => groups.update id (effect (GroupChange.pullUser email))) groups

/-- Compared with `db₀` only users with `S` were removed from the group `id`, no device changed, and
no user was unlocked or created. -/
structure Calm (id : String) (S : String → Prop) (db₀ db : Db) : Prop where
  groups : ∃ emails, (∀ email ∈ emails, S email) ∧ db.groups = pullUsers id emails db₀.groups
  devices : db.devices = db₀.devices
  unlocked : ∀ email, Unlocked db email → Unlocked db₀ email

/-- Requests that keep it so. -/
def calm (id : String) (S : String → Prop) (db₀ : Db) : Rely Db where
  may db db' := Calm id S db₀ db → Calm id S db₀ db'
  refl _ := fun hc => hc
  trans _ _ _ h h' hc := h' (h hc)

variable {k : String} {S : String → Prop} {db₀ db : Db} {email : String}

theorem Calm.refl (k : String) (S : String → Prop) (db : Db) : Calm k S db db :=
  ⟨⟨[], fun _ he => absurd he List.not_mem_nil, rfl⟩, rfl, fun _ hu => hu⟩

theorem unlocked_withUser {f : UserChange} (hf : ∀ u, (f.apply u).lock = u.lock) {email' : String}
    (h : Unlocked (DbOp.exec (.users (.update email f)) db).2 email') : Unlocked db email' := by
  obtain ⟨u', hu', hlock⟩ := h
  simp only [DbOp.exec, CollOp.exec, Collection.update, Collection.findOne_updateBy] at hu'
  obtain ⟨u, hu, rfl⟩ := Option.map_eq_some_iff.1 hu'
  refine ⟨u, hu, ?_⟩
  split at hlock
  · exact (hf u).symm.trans hlock
  · exact hlock

theorem unlocked_setLock {state : Bool} {email' : String}
    (h : Unlocked (DbOp.exec (.users (.update email (.setLock state))) db).2 email') :
    Unlocked db email' ∧ email' ≠ email ∨ email' = email ∧ state = false := by
  obtain ⟨u', hu', hlock⟩ := h
  simp only [DbOp.exec, CollOp.exec] at hu'
  by_cases he : email' = email
  · subst he
    cases hu : db.users.findOne email' with
    | none =>
      rw [Collection.update_of_findOne_none _ hu, hu] at hu'
      cases hu'
    | some u =>
      rw [Collection.findOne_update_self _ hu] at hu'
      obtain rfl := Option.some.inj hu'
      exact .inr ⟨rfl, hlock⟩
  · rw [Collection.findOne_update_ne _ he] at hu'
    exact .inl ⟨⟨u', hu', hlock⟩, he⟩

theorem Calm.lock (h : Calm k S db₀ db) (email : String) :
    Calm k S db₀ (DbOp.exec (.users (.update email (.setLock true))) db).2 where
  groups := h.groups
  devices := h.devices
  unlocked email' h' := by
    rcases unlocked_setLock h' with ⟨hu, -⟩ | ⟨-, hstate⟩
    · exact h.unlocked email' hu
    · cases hstate

theorem Calm.unlock (h : Calm k S db₀ db) (hu : Unlocked db₀ email) :
    Calm k S db₀ (DbOp.exec (.users (.update email (.setLock false))) db).2 where
  groups := h.groups
  devices := h.devices
  unlocked email' h' := by
    rcases unlocked_setLock h' with ⟨hu', -⟩ | ⟨rfl, -⟩
    · exact h.unlocked email' hu'
    · exact hu

theorem Calm.unsubscribe (h : Calm k S db₀ db) (email id' : String) :
    Calm k S db₀ (DbOp.exec (.users (.update email (.unsubscribe id'))) db).2 where
  groups := h.groups
  devices := h.devices
  unlocked email' h' := h.unlocked email' (unlocked_withUser (fun _ => rfl) h')

theorem Calm.pull (h : Calm k S db₀ db) (hS : S email) :
    Calm k S db₀ (DbOp.exec (.groups (.update k (.pullUser email))) db).2 where
  groups := by
    obtain ⟨emails, hemails, hgroups⟩ := h.groups
    refine ⟨emails ++ [email], fun e he => ?_, ?_⟩
    · rcases List.mem_append.1 he with he | he
      · exact hemails e he
      · exact List.mem_singleton.1 he ▸ hS
    · show db.groups.update k (effect (GroupChange.pullUser email)) = _
      unfold pullUsers
      rw [hgroups, List.foldl_concat]
      rfl
  devices := h.devices
  unlocked := h.unlocked

theorem Calm.read {o : DbOp} (ho : o.IsRead) (h : Calm k S db₀ db) :
    Calm k S db₀ (o.exec db).2 := by
  rw [ho.exec]
  exact h

/-- Who has bookings is no matter of users. -/
theorem filter_bookingsIn_pullUsers (g : Group) (email : String) (emails : List String)
    (groups : Collection Group) :
    (pullUsers k emails groups).docs.filter (bookingsIn g email) = [] ↔
      groups.docs.filter (bookingsIn g email) = [] := by
  induction emails generalizing groups with
  | nil => exact Iff.rfl
  | cons e emails ih =>
    refine (ih _).trans ?_
    have hdocs : (groups.update k (effect (GroupChange.pullUser e))).docs = groups.docs.map fun g' =>
        if Keyed.key g' = k then (GroupChange.pullUser e).apply g' else g' := by
      simp [Collection.update, Collection.updateBy]
    rw [hdocs, List.filter_map, List.map_eq_nil_iff]
    have hsame : (bookingsIn g email ∘ fun g' =>
        if Keyed.key g' = k then (GroupChange.pullUser e).apply g' else g') =
          bookingsIn g email := by
      funext g'
      simp only [Function.comp_apply]
      split
      · rfl
      · rfl
    rw [hsame]

/-- A lock that was obtained is the lock of a user who was not locked in the beginning. -/
def LockObtained (db₀ : Db) (email : String) (r : Except JsError LockStats) : Prop :=
  ∀ stats, r = .ok stats → stats.modifiedCount ≠ 0 →
    Unlocked db₀ email ∧ ∀ u ∈ stats.newVal, u.email = email

theorem under_setLockOnUser (h : Calm k S db₀ db) (email : String) :
    (setLockOnUser email true).Under DbOp.exec (calm k S db₀)
      (fun r _ => LockObtained db₀ email r) db := by
  intro t ht
  have hct := ht h
  refine ⟨(calm k S db₀).refl t, ?_⟩
  have hfound : (DbOp.exec (.users (.findOne email)) t).1 = t.users.findOne email := rfl
  rw [hfound]
  cases t.users.findOne email with
  | none =>
    intro stats hstats
    cases hstats
  | some u =>
    intro t₁ ht₁
    have hc₁ := ht₁ hct
    refine ⟨fun _ => hc₁.lock email, fun t₂ _ => ⟨(calm k S db₀).refl t₂, ?_⟩⟩
    intro stats hstats hmodified
    obtain rfl := Except.ok.inj hstats
    refine ⟨?_, fun u' hu' => Collection.key_of_findOne hu'⟩
    -- the document before the update was not locked
    cases hu₁ : t₁.users.findOne email with
    | none => simp [DbOp.exec, CollOp.exec, hu₁] at hmodified
    | some u₁ =>
      refine hc₁.unlocked email ⟨u₁, hu₁, ?_⟩
      by_contra hlock
      have hsame : (UserChange.setLock true).apply u₁ = u₁ := by
        simp only [UserChange.apply]
        rw [← (Bool.not_eq_false _).mp hlock]
      simp [DbOp.exec, CollOp.exec, hu₁, hsame] at hmodified

theorem under_lockUser (h : Calm k S db₀ db) (email : String) :
    (AllModel.lockUser email).Under DbOp.exec (calm k S db₀)
      (fun r _ => LockObtained db₀ email r) db := by
  have hloop : ∀ n db, Calm k S db₀ db → (setIntervalWrapper (setLockOnUser email true) n).Under
      DbOp.exec (calm k S db₀) (fun r _ => LockObtained db₀ email r) db := by
    intro n
    induction n with
    | zero =>
      intro db _ stats hstats
      cases hstats
    | succ n ih =>
      intro db hdb
      refine Under.bind (under_setLockOnUser hdb email) (fun stats t ht hQ => ?_) fun e t _ hQ => ?_
      · split
        · exact hQ
        · exact ih t (ht hdb)
      · intro stats hstats
        cases hstats
  exact hloop 10 db h

/-- A user is removed only if it can be removed. -/
theorem under_removeOneUser {g rootGroup : Group} (h : Calm g.id S db₀ db)
    (hS : Removable db₀ g rootGroup email → S email) :
    (removeOneUser g.id email g rootGroup).Under DbOp.exec (calm g.id S db₀) (fun _ _ => True)
      db := by
  unfold removeOneUser
  split
  · trivial
  rename_i hmem
  split
  · trivial
  rename_i howner
  push Not at howner hmem
  unfold withUserLock
  refine Under.bind (under_lockUser h email) (fun stats t ht hQ => ?_) fun _ _ _ _ => trivial
  split
  · trivial
  rename_i hmodified
  obtain ⟨hunlocked, hnew⟩ := hQ stats rfl hmodified
  have hunlock : (groups.unlockUser stats.newVal).Ops fun o =>
      ∀ db, Calm g.id S db₀ db → Calm g.id S db₀ (o.exec db).2 := by
    unfold groups.unlockUser
    cases hval : stats.newVal with
    | none => trivial
    | some user =>
      have hemail : user.email = email := hnew user hval
      refine Ops.detach (ops_setLockOnUser (fun _ ho _ hc => hc.read ho) fun db hc => ?_)
      rw [hemail]
      exact hc.unlock hunlocked
  have hunlocks : ∀ {α : Type} (p : DbM α), (∀ P : DbOp → Prop, p.Ops P) → ∀ t,
      ((groups.unlockUser stats.newVal).bind fun _ => p).Under DbOp.exec (calm g.id S db₀)
        (fun _ _ => True) t := fun p hp t =>
    Under.of_ops (fun o db (ho : ∀ db, Calm g.id S db₀ db → Calm g.id S db₀ (o.exec db).2) => ho db)
      (Ops.bind hunlock fun _ => hp _) t
  -- the lock is held, so what is left is whether the user has bookings of devices of the group
  have hremove : (g.class_ ≠ .bookable ∨ db₀.groups.docs.filter (bookingsIn g email) = []) → ∀ t,
      (GroupModel.removeGroupUser g.id email).Under DbOp.exec (calm g.id S db₀)
        (fun _ _ => True) t := by
    intro hallowed t
    have hyes : S email := hS ⟨hmem, howner.1, howner.2, hunlocked, hallowed⟩
    exact Under.of_ops (fun o db (ho : ∀ db, Calm g.id S db₀ db → Calm g.id S db₀ (o.exec db).2) =>
      ho db) (ops_removeGroupUser (fun _ ho _ hc => hc.read ho) (fun _ hc => hc.pull hyes)
        fun _ hc => hc.unsubscribe email g.id) t
  refine Under.bind (Q := fun _ _ => True) ?_ (fun _ t _ _ => hunlocks _ (fun _ => ops_ret) t)
    fun _ _ _ _ => trivial
  refine Under.tryCatch (Q := fun _ _ => True) ?_ (fun _ t _ _ => hunlocks _ (fun _ => ops_fail) t)
    fun _ _ _ _ => trivial
  unfold isRemoveGroupUserAllowed
  split
  · rename_i hclass
    exact hremove (.inl hclass) t
  intro t₁ ht₁
  refine ⟨(calm g.id S db₀).refl t₁, ?_⟩
  obtain ⟨emails, -, hgroups⟩ := (ht₁ (ht h)).groups
  show Under DbOp.exec (calm g.id S db₀) (fun _ _ => True)
    (if (t₁.groups.docs.filter (bookingsIn g email)).isEmpty = true then
      removeGroupUser g.id email else return "forbidden" : DbM String) t₁
  split
  · rename_i hempty
    refine hremove (.inr ?_) t₁
    rw [List.isEmpty_iff, hgroups, filter_bookingsIn_pullUsers] at hempty
    exact hempty
  · trivial

end Calm

/-! ### Requests that remove users -/

section Remove

open GroupModel UserModel groups

variable {db db' : Db} {g : Group} {emails : Option String}

/-- The end of `removeGroupUsers`, after the users were removed. -/
theorem isRead_removeGroupUsers_end (id target : String) (results : List String) :
    (if results = [] then return some ⟨200, "Unchanged (group " ++ target ++ ")"⟩
      else
        let results := without results "not found"
        if results = [] then return some ⟨404, "Not Found (group " ++ target ++ ")"⟩
        else if without results "forbidden" = [] then
          return some ⟨403, "Forbidden (group " ++ target ++ ")"⟩
        else publishGroup id ⟨200, "Removed (group " ++ target ++ ")"⟩ :
      DbM (Option Response)).Ops DbOp.IsRead := by
  split
  · trivial
  dsimp only
  split
  · trivial
  split
  · trivial
  · exact ops_publishGroup (fun _ ho => ho) _ _

/-- The listed users who can be removed from the group. -/
def RemovableListed (db : Db) (g : Group) (emails : Option String) (email : String) : Prop :=
  ∃ rootGroup, rootOf db = some rootGroup ∧ email ∈ listedEmails g emails ∧
    Removable db g rootGroup email

/-- **`removeGroupUsers` removes only listed users who can be removed.** -/
theorem runs_removeGroupUsers {user : User} {id : String} {redirected : Bool}
    {r : Except JsError (Option Response)}
    (hrun : (removeGroupUsers user id emails redirected).Runs DbOp.exec db r db') :
    db' = db ∨ ∃ g, db.groups.findOne id = some g ∧ Calm id (RemovableListed db g emails) db db' := by
  obtain ⟨r', hrun⟩ := runs_rescue hrun
  rw [bind_eq] at hrun
  rcases Db.runs_getUserGroup_cases hrun with hrun | ⟨g, hg, -, hrun⟩
  · exact .inl hrun.2
  obtain rfl : g.id = id := Collection.key_of_findOne hg
  dsimp only at hrun
  rw [bind_eq, runs_getRootGroup] at hrun
  rcases Option.eq_none_or_eq_some (rootOf db) with hroot | ⟨rootGroup, hroot⟩
  · rw [hroot] at hrun
    exact .inl hrun.2
  rw [hroot] at hrun
  refine .inr ⟨g, hg, ?_⟩
  have hremove : ∀ email ∈ listedEmails g emails,
      (removeOneUser g.id email g rootGroup).Under DbOp.exec
        (calm g.id (RemovableListed db g emails) db)
        (fun _ _ => True) db := fun email hemail =>
    under_removeOneUser (.refl _ _ _) fun hremovable => ⟨rootGroup, hroot, hemail, hremovable⟩
  have hall := Under.all (R := calm g.id (RemovableListed db g emails) db) (Q := fun _ _ => True)
    (fun _ _ _ _ htrue => htrue) hremove
  refine (Under.runs (R := calm g.id (RemovableListed db g emails) db) (Q := fun _ _ => True) ?_ hrun).1
    (.refl _ _ _)
  refine Under.tryCatch (Q := fun _ _ => True) ?_ (fun e t _ _ => ?_) fun _ _ _ _ => trivial
  · refine Under.bind hall (fun results t _ _ => ?_) fun _ _ _ _ => trivial
    exact Under.of_ops (fun o db ho => Calm.read ho) (isRead_removeGroupUsers_end g.id _ results) t
  · split <;> trivial

theorem removeGroupUsers_keeps {user : User} {id : String} {redirected : Bool}
    {r : Except JsError (Option Response)} (hg : db.groups.findOne id = some g)
    (hnot : ¬ RemoveTakes db g emails)
    (hrun : (removeGroupUsers user id emails redirected).Runs DbOp.exec db r db') :
    db'.groups = db.groups := by
  rcases runs_removeGroupUsers hrun with rfl | ⟨g', hg', hcalm⟩
  · rfl
  obtain rfl := Option.some.inj (hg.symm.trans hg')
  obtain ⟨removed, hremoved, hgroups⟩ := hcalm.groups
  rcases removed with _ | ⟨email, removed⟩
  · exact hgroups
  · obtain ⟨rootGroup, hroot, hemail, hremovable⟩ := hremoved email List.mem_cons_self
    exact absurd ⟨rootGroup, hroot, email, hemail, hremovable⟩ hnot

/-! ### A request that removes a user -/

/-- What removes users from the group `id`. -/
def DbOp.Pulls (id : String) : DbOp → Prop
  | .groups (.update k (.pullUser _)) => k = id
  | .groups o => o.IsRead
  | _ => True

theorem DbOp.DeviceOnly.pulls {o : DbOp} (h : o.DeviceOnly) (id : String) : o.Pulls id := by
  obtain ⟨hg, -⟩ := h
  cases o with
  | groups o => cases o <;> trivial
  | _ => trivial

/-- Requests that bring no user back into the group `id`. -/
def staysOut (id email : String) : Rely Db where
  may db db' := (∀ g ∈ db.groups.findOne id, email ∉ g.users) →
    ∀ g ∈ db'.groups.findOne id, email ∉ g.users
  refl _ := fun h => h
  trans _ _ _ h h' := fun hs => h' (h hs)

theorem DbOp.Pulls.staysOut {id : String} {o : DbOp} (h : o.Pulls id) (email : String) (db : Db) :
    (staysOut id email).may db (o.exec db).2 := by
  intro hout
  cases o with
  | users o => exact hout
  | devices o => exact hout
  | groups o =>
    cases o with
    | findOne k => exact hout
    | find q => exact hout
    | insert g => exact h.elim
    | delete k => exact h.elim
    | updateMany q f => exact h.elim
    | update k f =>
      cases f with
      | pullUser email' =>
        obtain rfl : k = id := h
        intro g hg
        rw [Option.mem_def] at hg
        simp only [exec, CollOp.exec] at hg
        cases hold : db.groups.findOne k with
        | none =>
          rw [Collection.update_of_findOne_none _ hold, hold] at hg
          cases hg
        | some g₀ =>
          rw [Collection.findOne_update_self _ hold] at hg
          obtain rfl := Option.some.inj hg
          exact fun hmem => hout g₀ hold (List.mem_of_mem_filter hmem)
      | _ => exact h.elim

theorem removeGroupUser_pulls {id email : String} {r : Except JsError String}
    (hg : db.groups.findOne id = some g) (howner : g.owner.email ≠ email)
    (hrun : (removeGroupUser id email).Runs DbOp.exec db r db') :
    db'.groups = db.groups.update id (effect (GroupChange.pullUser email)) := by
  unfold removeGroupUser at hrun
  rw [bind_eq, Db.runs_findGroup, hg] at hrun
  dsimp only at hrun
  rw [if_neg howner] at hrun
  obtain ⟨res, t, hpar, hrest⟩ | ⟨e, hpar, -⟩ := runs_bind.1 hrun
  · have hgroups : t.groups = db.groups.update id (effect (GroupChange.pullUser email)) := by
      -- the two updates come in either order
      rcases hpar with ⟨-, rfl⟩ | ⟨-, rfl⟩
      · rfl
      · rfl
    rw [← hgroups]
    refine (Prog.Ops.runs_deviceOnly ?_ hrest).2
    refine Ops.bind (deviceOnly_sendGroupChange _) fun _ => ?_
    split
    · trivial
    · exact Ops.bind (deviceOnly_findUser email) fun _ => ops_ret
  · rcases hpar with ⟨hr, -⟩ | ⟨hr, -⟩
    · cases hr
    · cases hr

/-- A user who can be removed is removed by a run that is not interrupted. -/
theorem removeOneUser_removes {rootGroup : Group} {email : String} {r : Except JsError String}
    (hg : db.groups.findOne g.id = some g) (h : Removable db g rootGroup email)
    (hrun : (removeOneUser g.id email g rootGroup).Runs DbOp.exec db r db') :
    db'.groups = db.groups.update g.id (effect (GroupChange.pullUser email)) := by
  unfold removeOneUser at hrun
  rw [if_neg (by simp [h.mem]), if_neg (by simp [h.notRootOwner, h.notOwner])] at hrun
  obtain ⟨u, hu, hlock⟩ := h.unlocked
  unfold withUserLock at hrun
  rw [bind_eq, runs_lockUser hu, if_neg (by simp [lockStats, hlock])] at hrun
  set db₁ := (DbOp.exec (.users (.update email (.setLock true))) db).2 with hdb₁
  have hunlock : ∀ {α : Type} {p : DbM α} {r t t'}, p.Ops DbOp.KeepsGroups →
      ((groups.unlockUser (lockStats u).newVal).bind fun _ => p).Runs DbOp.exec t r t' →
        t'.groups = t.groups := by
    intro α p r t t' hp h
    have hlock := ops_unlockUser (P := DbOp.KeepsGroups) (fun _ ho => ho.deviceOnly.1)
      (fun _ _ => trivial)
      (lockStats u).newVal
    exact (Ops.bind hlock fun _ => hp).runs_keepsGroups h
  -- the part under the lock, whatever its outcome
  have hinner : ∀ {r t}, Runs DbOp.exec (do
      if ← isRemoveGroupUserAllowed email g then removeGroupUser g.id email
      else return "forbidden" : DbM String) db₁ r t →
        t.groups = db.groups.update g.id (effect (GroupChange.pullUser email)) := by
    intro r t hin
    have hremove : (removeGroupUser g.id email).Runs DbOp.exec db₁ r t := by
      unfold isRemoveGroupUserAllowed at hin
      split at hin
      · exact hin
      · rename_i hbookable
        have hnone := h.allowed.resolve_left hbookable
        have hempty : (db₁.groups.docs.filter (bookingsIn g email)).isEmpty = true := by
          rw [show db₁.groups = db.groups from rfl, hnone]
          rfl
        have hin' : Runs DbOp.exec (if (db₁.groups.docs.filter (bookingsIn g email)).isEmpty = true
            then removeGroupUser g.id email else return "forbidden" : DbM String) db₁ r t := hin
        rwa [if_pos hempty] at hin'
    have hg₁ : db₁.groups.findOne g.id = some g := hg
    have hpulled := removeGroupUser_pulls hg₁ h.notOwner.symm hremove
    exact hpulled
  rcases runs_bind.1 hrun with ⟨result, t, hcatch, hrest⟩ | ⟨e, hcatch, -⟩
  · rw [hunlock ops_ret hrest]
    rcases runs_tryCatch.1 hcatch with ⟨a, hin, -⟩ | ⟨e, t', hin, hhandled⟩
    · exact hinner hin
    · rw [hunlock ops_fail hhandled]
      exact hinner hin
  · rcases runs_tryCatch.1 hcatch with ⟨a, hin, -⟩ | ⟨e, t', hin, hhandled⟩
    · exact hinner hin
    · rw [hunlock ops_fail hhandled]
      exact hinner hin

/-- A run of the request that removes a user. -/
theorem removeGroupUsers_removes {user : User} (redirected : Bool)
    (hg : db.groups.findOne g.id = some g) (hmember : Group.isMember user.email g = true)
    (htakes : RemoveTakes db g emails) :
    ∃ r db', (removeGroupUsers user g.id emails redirected).Runs DbOp.exec db r db' ∧
      db'.groups.findOne g.id ≠ some g := by
  obtain ⟨rootGroup, hroot, email, hemail, hremovable⟩ := htakes
  have hpulls : ∀ o (db : Db), DbOp.Pulls g.id o → (staysOut g.id email).may db (o.exec db).2 :=
    fun o db ho => ho.staysOut email db
  have hreads : ∀ {α : Type} {p : DbM α}, p.Ops DbOp.DeviceOnly →
      p.Within DbOp.exec (staysOut g.id email) := fun hp =>
    Within.of_ops hpulls (Ops.mono (fun _ ho => DbOp.DeviceOnly.pulls ho g.id) hp)
  -- the user is removed first
  have hone := runs_eval DbOp.exec (removeOneUser g.id email g rootGroup) db
  have hgone := removeOneUser_removes hg hremovable hone
  have hprogs : ∀ q ∈ (listedEmails g emails).map fun email =>
      removeOneUser g.id email g rootGroup, q.Ops (DbOp.Pulls g.id) := by
    intro q hq
    obtain ⟨email', -, rfl⟩ := List.mem_map.1 hq
    exact ops_removeOneUser (fun _ ho => ho.deviceOnly.pulls g.id) (fun _ _ => trivial) rfl trivial
      g rootGroup
  obtain ⟨r₁, t₁, hall, hmay₁⟩ := exists_runs_all (R := staysOut g.id email) hpulls hprogs
    (List.mem_map_of_mem hemail) hone
  -- the rest of the request brings nobody back
  obtain ⟨r₂, t₂, hbody, hmay₂⟩ := hall.exists_bind (R := staysOut g.id email) fun results =>
    hreads (deviceOnly_of_isRead
      (isRead_removeGroupUsers_end g.id (if redirected then "user" else "users") results))
  obtain ⟨r₃, t₃, hcatch, hmay₃⟩ := hbody.exists_tryCatch (R := staysOut g.id email)
    (g := fun err => (if err ≠ .busy then throw err else return none : DbM (Option Response)))
    fun e => by
      split
      · exact within_fail
      · exact within_ret
  have hwhole : ∃ r₄ t₄, (removeGroupUsers user g.id emails redirected).Runs DbOp.exec db r₄ t₄ ∧
      (staysOut g.id email).may t₃ t₄ := by
    unfold removeGroupUsers orInternalError
    refine Runs.exists_tryCatch (r := r₃) ?_ fun e => within_ret
    rw [bind_eq, Db.runs_getUserGroup, hg, Option.filter_some_pos hmember]
    dsimp only
    rw [bind_eq, runs_getRootGroup, hroot]
    exact hcatch
  obtain ⟨r₄, t₄, hrun, hmay₄⟩ := hwhole
  refine ⟨r₄, t₄, hrun, fun hsame => ?_⟩
  have hout : ∀ g' ∈ (eval DbOp.exec (removeOneUser g.id email g rootGroup) db).2.groups.findOne
      g.id, email ∉ g'.users := by
    intro g' hg'
    rw [hgone, Collection.findOne_update_self _ hg] at hg'
    obtain rfl := Option.some.inj hg'
    simp [GroupChange.apply]
  exact hmay₄ (hmay₃ (hmay₂ (hmay₁ hout))) g hsame hremovable.mem

end Remove

end DeviceHub

import DeviceHub.Db.Frames
import DeviceHub.Db.Sample

/-!
# Releasing a group

Several calls of `deleteUserGroup(id)` may run at once: an API request and the groups scheduler,
or the scheduler twice.  Every call that reads the group before it is gone releases it, whether
or not its own `deleteOne` removed anything.

## Main results

* `Quotas.iterate_release`, `Quotas.iterate_charge_of_lt` : the quotas after several releases.
* `GroupModel.deleteUserGroup_pool` : after any interleaving the owner's quotas are those of as
  many releases as there are calls that found the group.
* `GroupModel.deleteUserGroup_releases_once_iff` : when that is one release.
-/

namespace DeviceHub

open Prog Machine

/-! ### Repeated releases -/

namespace Quotas

theorem release_iterate_charge (q : Quotas) (old new : Int) (n : ℕ) :
    ((fun q => charge q old new)^[n] q).release = (fun q => charge q old new)^[n] q.release := by
  induction n generalizing q with
  | zero => rfl
  | succ n ih => exact ih (q.charge old new)

theorem iterate_release_consumed (q : Quotas) (n : ℕ) :
    (release^[n] q).consumed.duration = q.consumed.duration ∧
      (release^[n] q).allocated = q.allocated := by
  induction n generalizing q with
  | zero => exact ⟨rfl, rfl⟩
  | succ n ih => exact ih q.release

theorem iterate_charge_number (q : Quotas) (old new : Int) (n : ℕ) :
    ((fun q => charge q old new)^[n] q).consumed.number = q.consumed.number := by
  induction n generalizing q with
  | zero => rfl
  | succ n ih => exact ih (q.charge old new)

/-- The consumed number after `n + 1` releases. -/
theorem iterate_release (q : Quotas) (n : ℕ) :
    (release^[n + 1] q).consumed.number = max (q.consumed.number - (n + 1)) 0 := by
  induction n generalizing q with
  | zero => simp [release]
  | succ n ih =>
    rw [Function.iterate_succ_apply, ih]
    simp only [release]
    push_cast
    omega

theorem iterate_charge_of_lt {q : Quotas} {d : Int}
    (h : q.allocated.duration < q.consumed.duration - d) (n : ℕ) :
    (fun q => charge q d 0)^[n] q = q := by
  have hq : q.charge d 0 = q := by
    have h' : ¬ q.consumed.duration - d ≤ q.allocated.duration := by omega
    simp [charge, h']
  exact Function.iterate_fixed hq n

end Quotas

/-- The condition under which releasing a group of duration `d` from the quotas `q` `n` times
amounts to one release: one call did it all, or a second one changes nothing. -/
def ReleasedOnce (q : Quotas) (d : Int) (n : ℕ) : Prop :=
  (q.consumed.number = 1 ∨ 1 ≤ q.consumed.number ∧ n = 1) ∧
    (d = 0 ∨ q.consumed.duration - d ≤ q.allocated.duration ∧
      (n = 1 ∨ q.allocated.duration < q.consumed.duration - d - d))

instance (q : Quotas) (d : Int) (n : ℕ) : Decidable (ReleasedOnce q d n) :=
  inferInstanceAs (Decidable (_ ∧ _))

/-- The quotas after a group of duration `d` was released `n` times. -/
def Quotas.releaseTimes (q : Quotas) (d : Int) (n : ℕ) : Quotas :=
  (fun q => charge q d 0)^[n] (release^[n] q)

namespace Quotas

theorem charge_zero (q : Quotas) (n : ℕ) : (fun q => charge q 0 0)^[n] q = q := by
  have hq : q.charge 0 0 = q := by
    unfold charge
    split <;> simp
  exact Function.iterate_fixed hq n

theorem releaseTimes_number (q : Quotas) (d : Int) (n : ℕ) :
    (q.releaseTimes d (n + 1)).consumed.number = max (q.consumed.number - (n + 1)) 0 := by
  rw [releaseTimes, iterate_charge_number, iterate_release]

/-- The consumed duration moves away from its value after one release, or stays there because
the cap refuses the second one. -/
theorem iterate_charge_eq_once {q : Quotas} {d : Int} (hd : d ≠ 0)
    (h : q.consumed.duration - d ≤ q.allocated.duration) (n : ℕ) :
    ((fun q => charge q d 0)^[n + 1] q).consumed.duration = q.consumed.duration - d ↔
      n = 0 ∨ q.allocated.duration < q.consumed.duration - d - d := by
  have hq : (q.charge d 0).consumed.duration = q.consumed.duration - d := by simp [charge, h]
  rw [Function.iterate_succ_apply]
  by_cases hcap : q.allocated.duration < q.consumed.duration - d - d
  · have hfix : q.allocated.duration < (q.charge d 0).consumed.duration - d := by rw [hq]; exact hcap
    rw [iterate_charge_of_lt hfix, hq]
    simp [hcap]
  · -- the distance from the start is at least `d` after each further release that passes
    have hfar : ∀ (n : ℕ) (r : Quotas), r.allocated = q.allocated → (0 < d →
        r.consumed.duration ≤ q.consumed.duration - d - d) → (d < 0 →
        q.consumed.duration - d - d ≤ r.consumed.duration) →
        ((fun q => charge q d 0)^[n] r).consumed.duration ≠ q.consumed.duration - d := by
      intro n
      induction n with
      | zero => intro r _ hpos hneg; simp only [Function.iterate_zero, id]; omega
      | succ n ih =>
        intro r hr hpos hneg
        refine ih (r.charge d 0) hr (fun h0 => ?_) fun h0 => ?_ <;>
          simp only [charge] <;> split <;> omega
    cases n with
    | zero => simp [hq]
    | succ n =>
      rw [Function.iterate_succ_apply]
      have hq2 : ((q.charge d 0).charge d 0).consumed.duration = q.consumed.duration - d - d := by
        have h2 : q.consumed.duration - d - d ≤ q.allocated.duration := by omega
        simp [charge, h, h2]
      have := hfar n ((q.charge d 0).charge d 0) rfl (fun _ => Int.le_of_eq hq2)
        fun _ => Int.le_of_eq hq2.symm
      simp [this, hcap]

/-- Releasing a group several times is the same as releasing it once exactly under the
condition `ReleasedOnce`. -/
theorem releaseTimes_eq_once_iff (q : Quotas) (d : Int) (n : ℕ) :
    ((q.releaseTimes d (n + 1)).consumed.number = q.consumed.number - 1 ∧
        (q.releaseTimes d (n + 1)).consumed.duration = q.consumed.duration - d) ↔
      ReleasedOnce q d (n + 1) := by
  have hnum : max (q.consumed.number - (n + 1)) 0 = q.consumed.number - 1 ↔
      (q.consumed.number = 1 ∨ 1 ≤ q.consumed.number ∧ n + 1 = 1) := by
    omega
  have hdur : (q.releaseTimes d (n + 1)).consumed.duration = q.consumed.duration - d ↔
      (d = 0 ∨ q.consumed.duration - d ≤ q.allocated.duration ∧
        (n + 1 = 1 ∨ q.allocated.duration < q.consumed.duration - d - d)) := by
    obtain ⟨hc, ha⟩ := iterate_release_consumed q (n + 1)
    rw [releaseTimes]
    by_cases hd : d = 0
    · subst hd
      rw [charge_zero, hc]
      simp
    by_cases h : q.consumed.duration - d ≤ q.allocated.duration
    · have h' : (release^[n + 1] q).consumed.duration - d ≤
          (release^[n + 1] q).allocated.duration := by rw [hc, ha]; exact h
      have key := iterate_charge_eq_once hd h' n
      rw [hc, ha] at key
      rw [key]
      simp [hd, h]
    · have h' : (release^[n + 1] q).allocated.duration <
          (release^[n + 1] q).consumed.duration - d := by rw [hc, ha]; omega
      rw [iterate_charge_of_lt h', hc]
      simp only [hd, h, false_and, or_self, iff_false]
      omega
  rw [releaseTimes_number, hnum, hdur]
  rfl

end Quotas

namespace GroupModel

open UserModel AllModel

/-! ### The calls as a pool -/

/-- The pool of calls of `deleteUserGroup(id)`; a call remembers whether it found the group. -/
def releaseMachine (id : String) : Machine DbOp DbOp.Res Db Bool where
  exec := DbOp.exec
  log found o r :=
    match o, r with
    | .groups (.findOne k), r => found || k = id && Option.isSome r
    | _, _ => found

/-- What a call has done so far. -/
inductive Deed where
  /-- It found the group. -/
  | found
  /-- It knows that the group is gone. -/
  | gone
  /-- It released the instance. -/
  | released
  /-- It gave the duration back. -/
  | charged
  deriving DecidableEq

/-- How often each deed was done. -/
def tally (l : List Deed) : Deed → ℕ := fun d => l.count d

/-- The deeds of an ended call. -/
def deeds (found : Bool) : Deed → ℕ :=
  tally (if found then [.found, .gone, .released, .charged] else [.gone])

/-- The group `g`, as it was stored with the owner's quotas `q` in the beginning, and what the
calls have done, `m` counting their deeds. -/
structure Accounted (g : Group) (q : Quotas) (m : Deed → ℕ) (db : Db) : Prop where
  stored : db.groups.findOne g.id = some g ∧ m .gone = 0 ∨
    db.groups.findOne g.id = none ∧ 0 < m .found
  quotas : (db.users.findOne g.owner.email).map User.quotas =
    some ((fun q => q.charge g.duration 0)^[m .charged] (Quotas.release^[m .released] q))

variable {g : Group} {q : Quotas}

theorem Accounted.keepsQuotas {m : Deed → ℕ} {db : Db} (h : Accounted g q m db) {o : DbOp}
    (ho : o.KeepsQuotas) : Accounted g q m (o.exec db).2 where
  stored := by
    rw [ho.keepsGroups.exec]
    exact h.stored
  quotas := by
    rw [ho.findOne]
    exact h.quotas

theorem Accounted.read {m m' : Deed → ℕ} {db : Db} (h : Accounted g q m db)
    (hfound : m .found ≤ m' .found)
    (hgone : db.groups.findOne g.id = some g → m' .gone = m .gone)
    (hreleased : m' .released = m .released) (hcharged : m' .charged = m .charged) :
    Accounted g q m' db where
  stored := by
    rcases h.stored with ⟨hg, h0⟩ | ⟨hg, h0⟩
    · exact .inl ⟨hg, by rw [hgone hg, h0]⟩
    · exact .inr ⟨hg, by omega⟩
  quotas := by
    rw [hreleased, hcharged]
    exact h.quotas

theorem Accounted.delete {m m' : Deed → ℕ} {db : Db} (h : Accounted g q m db)
    (hfound : 0 < m' .found) (hreleased : m' .released = m .released)
    (hcharged : m' .charged = m .charged) :
    Accounted g q m' (DbOp.exec (.groups (.delete g.id)) db).2 where
  stored := .inr ⟨Collection.findOne_delete_self _ _, hfound⟩
  quotas := by
    rw [hreleased, hcharged]
    exact h.quotas

theorem Accounted.delete_gone {m : Deed → ℕ} {db : Db} (h : Accounted g q m db)
    (hgone : 0 < m .gone) : Accounted g q m (DbOp.exec (.groups (.delete g.id)) db).2 where
  stored := by
    rcases h.stored with ⟨_, h0⟩ | ⟨hg, h0⟩
    · omega
    · exact .inr ⟨Collection.findOne_delete_self _ _, h0⟩
  quotas := h.quotas

theorem Accounted.updateUser {m m' : Deed → ℕ} {db : Db} (h : Accounted g q m db)
    {f : UserChange} (hfound : m' .found = m .found) (hgone : m' .gone = m .gone)
    (hf : ∀ u : User, u.quotas =
        (fun q => q.charge g.duration 0)^[m .charged] (Quotas.release^[m .released] q) →
      (f.apply u).quotas =
        (fun q => q.charge g.duration 0)^[m' .charged] (Quotas.release^[m' .released] q)) :
    Accounted g q m' (DbOp.exec (.users (.update g.owner.email f)) db).2 where
  stored := by
    rw [hgone, hfound]
    exact h.stored
  quotas := by
    obtain ⟨u, hu, hq⟩ := Option.map_eq_some_iff.1 h.quotas
    have hu' := Collection.findOne_update_self (effect f) hu
    simp only [DbOp.exec, CollOp.exec, hu', Option.map_some]
    exact congrArg some (hf u hq)

@[simp] theorem releaseMachine_exec (id : String) : (releaseMachine id).exec = DbOp.exec := rfl

theorem releaseMachine_log_read (id : String) (r : Option Group) :
    (releaseMachine id).log false (.groups (.findOne id)) r = r.isSome := by
  simp [releaseMachine]

theorem releaseMachine_log_found (id : String) (o : DbOp) (v : Bool) (r : o.Res) (hv : v = true) :
    (releaseMachine id).log v o r = true := by
  unfold releaseMachine
  dsimp only
  split <;> simp [hv]

/-- What a call does after its `deleteOne`. -/
theorem safe_releaseGroup :
    (releaseMachine g.id).Safe (Accounted g q) (fun _ _ _ => True) true (tally [.found, .gone])
      (releaseGroup g) fun v m _ => m = deeds v := by
  unfold releaseGroup
  simp only [bind_eq]
  refine Safe.bind (Safe.of_ops_total (P := DbOp.KeepsQuotas)
    (fun o ho _ _ _ hs _ => hs.keepsQuotas ho)
    (fun o _ => releaseMachine_log_found g.id o) rfl ?_ ?_ ?_)
  · exact ops_unsubscribeAll fun _ => trivial
  · exact total_unsubscribeAll g
  rintro _ - rfl
  unfold releaseUserGroupInstance updateUserGroupDuration loadUser Db.findUser Db.updateUser
  simp only [bind_eq, perform_bind, act_bind, pure_eq, ret_bind]
  intro f₁ db₁ h₁ _
  refine ⟨_, h₁, ?_⟩
  intro f₂ db₂ h₂ _
  refine ⟨tally [.found, .gone, .released], h₂.updateUser rfl rfl fun u hu => ?_, ?_⟩
  · simp only [UserChange.apply, hu, Pi.add_apply, Quotas.release_iterate_charge]
    rw [show tally [.found, .gone, .released] .released + f₂ .released =
        tally [.found, .gone] .released + f₂ .released + 1 from by simp [tally]; omega,
      Function.iterate_succ_apply']
    rfl
  intro f₃ db₃ h₃ _
  refine ⟨_, h₃, ?_⟩
  intro f₄ db₄ h₄ _
  refine ⟨tally [.found, .gone, .released, .charged], h₄.updateUser rfl rfl fun u hu => ?_, ?_⟩
  · simp only [UserChange.apply, hu, Pi.add_apply]
    rw [show tally [.found, .gone, .released, .charged] .charged + f₄ .charged =
        tally [.found, .gone, .released] .charged + f₄ .charged + 1 from by simp [tally]; omega,
      Function.iterate_succ_apply']
    rfl
  refine Safe.of_ops (P := DbOp.DeviceOnly) (J := (· = true))
    (fun o ho _ _ _ hs _ => hs.keepsQuotas ho.keepsQuotas)
    (fun o _ => releaseMachine_log_found g.id o) ?_ ?_ (fun _ _ h => by rw [h]; rfl)
  · simp only [releaseMachine_log_found]
  · split
    · exact (places_returnDevicesToRoot _).deviceOnly.bind fun _ =>
        (places_updateDevicesCurrentGroupFromOrigin _).deviceOnly.detach
    · exact (places_updateDevicesCurrentGroupFromOrigin _).deviceOnly.bind fun _ => trivial

/-- One call of `deleteUserGroup`: it releases the group if it finds it. -/
theorem safe_deleteUserGroup (hp : g.privilege ≠ .root) :
    (releaseMachine g.id).Safe (Accounted g q) (fun _ _ _ => True) false 0
      (deleteUserGroup g.id) fun v m _ => m = deeds v := by
  unfold deleteUserGroup getGroup Db.findGroup Db.deleteGroup
  simp only [bind_eq, perform_bind]
  intro f₁ db₁ h₁ _
  cases hfind : db₁.groups.findOne g.id with
  | none =>
    -- nothing to release: the call throws after a `deleteOne` that removes nothing
    have hnone : db₁.groups.findOne g.id ≠ some g := by simp [hfind]
    refine ⟨tally [.gone], h₁.read (Nat.le_refl _) (fun h => absurd h hnone) rfl rfl, ?_⟩
    simp only [releaseMachine_exec, DbOp.exec, CollOp.exec, hfind, releaseMachine_log_read]
    intro f₂ db₂ h₂ _
    exact ⟨tally [.gone], h₂.delete_gone (Nat.lt_add_right _ Nat.one_pos), rfl⟩
  | some g' =>
    obtain rfl : g' = g := by
      rcases h₁.stored with ⟨hg, _⟩ | ⟨hg, _⟩
      · exact Option.some.inj (hfind.symm.trans hg)
      · rw [hfind] at hg; cases hg
    refine ⟨tally [.found], h₁.read (by simp [tally]) (fun _ => rfl) rfl rfl, ?_⟩
    simp only [releaseMachine_exec, DbOp.exec, CollOp.exec, hfind, releaseMachine_log_read,
      Option.any_some, hp, decide_false, Bool.false_eq_true, if_false]
    intro f₂ db₂ h₂ _
    refine ⟨tally [.found, .gone], h₂.delete (Nat.lt_add_right _ Nat.one_pos) rfl rfl, ?_⟩
    exact Safe.bind (safe_releaseGroup.mono fun v m r h => by cases r <;> exact h)

/-- Of how many calls of a pool the group was found. -/
def foundBy (pool : List (Bool × DbM Deletion)) : ℕ := pool.countP fun c => c.1

theorem sum_deeds (pool : List (Bool × DbM Deletion)) (d : Deed) :
    (pool.map fun c => deeds c.1).sum d =
      if d = .gone then pool.length else foundBy pool := by
  induction pool with
  | nil => cases d <;> rfl
  | cons c pool ih =>
    obtain ⟨v, p⟩ := c
    simp only [List.map_cons, List.sum_cons, Pi.add_apply, ih, foundBy, List.countP_cons,
      List.length_cons]
    cases v <;> cases d <;> simp [deeds, tally] <;> omega

/-- The pool of `n` calls of `deleteUserGroup(id)`. -/
def releasePool (id : String) (n : ℕ) : List (Bool × DbM Deletion) :=
  List.replicate n (false, deleteUserGroup id)

/-- **Every call that finds the group releases it.**  After any interleaving of at least one call
the owner's quotas are those of as many releases as there are calls that found the group. -/
theorem deleteUserGroup_pool {db : Db} {u : User} {n : ℕ} (hn : 0 < n)
    (hg : db.groups.findOne g.id = some g) (hp : g.privilege ≠ .root)
    (hu : db.users.findOne g.owner.email = some u) {c : List (Bool × DbM Deletion) × Db}
    {mvs : List (Move DbOp Db Bool)}
    (hrun : ((releaseMachine g.id).pool JsError Deletion).Run (releasePool g.id n, db) mvs c)
    (hend : ∀ p ∈ c.1, p.2.outcome.isSome) :
    0 < foundBy c.1 ∧ (c.2.users.findOne g.owner.email).map User.quotas =
      some (u.quotas.releaseTimes g.duration (foundBy c.1)) := by
  have hguard : ((releaseMachine g.id).guarded (fun _ _ _ => True) JsError Deletion).Run
      (releasePool g.id n, db) mvs c := hrun.restrict fun _ _ => trivial
  have hstart : Accounted g u.quotas 0 db := ⟨.inl ⟨hg, rfl⟩, by rw [hu]; rfl⟩
  have hsafe : (releaseMachine g.id).PoolSafe (Accounted g u.quotas) (fun _ _ _ => True)
      (fun v m _ => m = deeds v) 0 (releasePool g.id n) := by
    refine poolSafe_zero fun c hc => ?_
    obtain rfl := List.eq_of_mem_replicate hc
    exact safe_deleteUserGroup hp
  obtain ⟨m, hm, h⟩ := hsafe.invariant hguard hstart
  have hsum : m = (c.1.map fun c => deeds c.1).sum := hm.eq_sum (fun _ _ _ h => h) hend
  have hlen : c.1.length = n := (length_of_run hrun).trans List.length_replicate
  have hm : ∀ d, m d = if d = .gone then n else foundBy c.1 := fun d => by
    rw [hsum, sum_deeds, hlen]
  refine ⟨?_, ?_⟩
  · rcases h.stored with ⟨_, h0⟩ | ⟨_, h0⟩
    · rw [hm] at h0
      exact absurd h0 hn.ne'
    · rwa [hm] at h0
  · rw [h.quotas, hm, hm]
    rfl

/-- The root group is not deleted: its owner's quotas stay what they are. -/
theorem deleteUserGroup_pool_root {db : Db} {u : User} {n : ℕ}
    (hg : db.groups.findOne g.id = some g) (hp : g.privilege = .root)
    (hu : db.users.findOne g.owner.email = some u) {c : List (Bool × DbM Deletion) × Db}
    {mvs : List (Move DbOp Db Bool)}
    (hrun : ((releaseMachine g.id).pool JsError Deletion).Run (releasePool g.id n, db) mvs c) :
    c.2.users.findOne g.owner.email = some u := by
  have hsafe : (releaseMachine g.id).PoolSafe
      (fun _ db => db.groups.findOne g.id = some g ∧ db.users.findOne g.owner.email = some u)
      (fun _ _ _ => True) (fun _ _ _ => True) (0 : ℕ) (releasePool g.id n) := by
    refine poolSafe_zero fun c hc => ?_
    obtain rfl := List.eq_of_mem_replicate hc
    unfold deleteUserGroup getGroup Db.findGroup
    simp only [bind_eq, perform_bind]
    intro f db h _
    refine ⟨0, h, ?_⟩
    simp only [releaseMachine_exec, DbOp.exec, CollOp.exec, h.1, Option.any_some, hp,
      decide_true, if_true]
    trivial
  have hguard : ((releaseMachine g.id).guarded (fun _ _ _ => True) JsError Deletion).Run
      (releasePool g.id n, db) mvs c := hrun.restrict fun _ _ => trivial
  obtain ⟨_, _, h⟩ := hsafe.invariant hguard ⟨hg, hu⟩
  exact h.2

/-- **A group is released exactly once** if and only if exactly one of the calls finds it, or a
second release changes nothing any more. -/
theorem deleteUserGroup_releases_once_iff {db : Db} {u : User} {n : ℕ} (hn : 0 < n)
    (hg : db.groups.findOne g.id = some g) (hu : db.users.findOne g.owner.email = some u)
    {c : List (Bool × DbM Deletion) × Db} {mvs : List (Move DbOp Db Bool)}
    (hrun : ((releaseMachine g.id).pool JsError Deletion).Run (releasePool g.id n, db) mvs c)
    (hend : ∀ p ∈ c.1, p.2.outcome.isSome) :
    (∃ u', c.2.users.findOne g.owner.email = some u' ∧
        u'.quotas.consumed.number = u.quotas.consumed.number - 1 ∧
        u'.quotas.consumed.duration = u.quotas.consumed.duration - g.duration) ↔
      g.privilege ≠ .root ∧ ReleasedOnce u.quotas g.duration (foundBy c.1) := by
  by_cases hp : g.privilege = .root
  · have hsame := deleteUserGroup_pool_root hg hp hu hrun
    simp only [hsame, hp, ne_eq, not_true_eq_false, false_and, iff_false]
    rintro ⟨u', hu', hnum, -⟩
    obtain rfl := Option.some.inj hu'
    omega
  obtain ⟨hpos, hq⟩ := deleteUserGroup_pool hn hg hp hu hrun hend
  obtain ⟨u', hu', hq'⟩ := Option.map_eq_some_iff.1 hq
  obtain ⟨k, hk⟩ : ∃ k, foundBy c.1 = k + 1 := ⟨_, (Nat.sub_add_cancel hpos).symm⟩
  have hiff := Quotas.releaseTimes_eq_once_iff u.quotas g.duration k
  rw [← hk, ← hq'] at hiff
  rw [← hiff, hu']
  simp [hp]

/-- A user with two bookings of an hour, `g` being one of them. -/
def twoBookings : Db where
  users := .ofDocs [Sample.user "u" ⟨5, 36000000⟩ ⟨2, 7200000⟩]
  groups := .ofDocs [Sample.root, Sample.booking "g" "u" .once 0 [⟨0, 3600000⟩] 3600000 ["d"],
    Sample.booking "h" "u" .once 0 [⟨7200000, 10800000⟩] 3600000 ["d"]]
  devices := .ofDocs [Sample.device "d"]

/-- Both calls read the group before one of them deletes it: the owner is left with nothing
consumed although one booking remains. -/
theorem deleteUserGroup_releases_twice :
    ∃ mvs c, ((releaseMachine "g").pool JsError Deletion).Run (releasePool "g" 2, twoBookings)
        mvs c ∧ (∀ p ∈ c.1, p.2.outcome.isSome) ∧
      ¬ ∃ u', c.2.users.findOne "u" = some u' ∧ u'.quotas.consumed.number = 2 - 1 ∧
        u'.quotas.consumed.duration = 7200000 - 3600000 := by
  obtain ⟨mvs, c, hrun, hc⟩ := exists_run_of_play (A := releaseMachine "g")
    (G := fun _ _ _ => True) ([0, 1] ++ List.replicate 9 0 ++ List.replicate 9 1)
    (releasePool "g" 2, twoBookings)
    (fun c => (c.1.all fun p => p.2.outcome.isSome) &&
      (c.2.users.findOne "u").map (fun u => u.quotas.consumed) = some ⟨0, 0⟩) (by decide +kernel)
  simp only [Bool.and_eq_true, List.all_eq_true, decide_eq_true_eq] at hc
  refine ⟨mvs, c, hrun.of_restrict, hc.1, ?_⟩
  rintro ⟨u', hu', hnum, -⟩
  rw [hu'] at hc
  have hzero : u'.quotas.consumed = ⟨0, 0⟩ := Option.some.inj hc.2
  rw [hzero] at hnum
  cases hnum

/-- One call after the other: the second one finds nothing. -/
theorem deleteUserGroup_releases_once_sequential :
    ∃ mvs c, ((releaseMachine "g").pool JsError Deletion).Run (releasePool "g" 2, twoBookings)
        mvs c ∧ ∃ u', c.2.users.findOne "u" = some u' ∧ u'.quotas.consumed.number = 2 - 1 ∧
      u'.quotas.consumed.duration = 7200000 - 3600000 := by
  obtain ⟨mvs, c, hrun, hc⟩ := exists_run_of_play (A := releaseMachine "g")
    (G := fun _ _ _ => True) (List.replicate 10 0 ++ [1, 1]) (releasePool "g" 2, twoBookings)
    (fun c => (c.1.all fun p => p.2.outcome.isSome) && foundBy c.1 = 1) (by decide +kernel)
  simp only [Bool.and_eq_true, List.all_eq_true, decide_eq_true_eq] at hc
  have honce : ReleasedOnce (Sample.user "u" ⟨5, 36000000⟩ ⟨2, 7200000⟩).quotas 3600000
      (foundBy c.1) := by
    rw [hc.2]
    decide
  exact ⟨mvs, c, hrun.of_restrict, (deleteUserGroup_releases_once_iff
    (g := Sample.booking "g" "u" .once 0 [⟨0, 3600000⟩] 3600000 ["d"])
    (u := Sample.user "u" ⟨5, 36000000⟩ ⟨2, 7200000⟩) (by decide) (by decide +kernel)
    (by decide +kernel) hrun.of_restrict hc.1).2 ⟨by decide, honce⟩⟩

end GroupModel

end DeviceHub

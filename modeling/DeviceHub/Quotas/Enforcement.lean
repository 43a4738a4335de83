import DeviceHub.Quotas.Accounts
import DeviceHub.Db.Sample
import Mathlib.Algebra.Group.Prod
import Mathlib.Algebra.Order.Ring.Int
import Mathlib.Tactic.Set

/-!
# Enforcing the quotas under concurrency

Requests reserve an instance or charge a duration with one capped update, but they infer its
success by comparing the user document they loaded before with the one after it, and quotas are
set from a document read earlier.  `Undisturbed` says when these inferences are right: nothing
that the request relies on has changed since it read it, or the change does no harm.

## Main results

* `Covered` : what a user has consumed covers what the user owns and what running requests have
  reserved, and is allocated.
* `quotas_enforced` : in every run whose steps are undisturbed no user owns more than allocated.
-/

namespace DeviceHub

open Prog Machine

/-- What a request remembers: the user it loaded last, the group it loaded first, and whether it
has deleted a group. -/
structure Loaded where
  user : Option User
  group : Option Group
  released : Bool

/-- A request that has not loaded anything. -/
def Loaded.start : Loaded := ⟨none, none, false⟩

/-- The pool of requests on quotas. -/
def quotaMachine : Machine DbOp DbOp.Res Db Loaded where
  exec := DbOp.exec
  log v o r :=
    match o, r with
    | .users (.findOne _), r => { v with user := r }
    | .groups (.findOne _), r => { v with group := Option.or v.group r }
    | .groups (.find _), r => { v with group := Option.or v.group (List.head? r) }
    | .groups (.delete _), _ => { v with released := true }
    | _, _ => v

@[simp] theorem quotaMachine_exec : quotaMachine.exec = DbOp.exec := rfl

theorem quotaMachine_log_find (v : Loaded) (q : Group → Bool) (r : List Group) :
    quotaMachine.log v (.groups (.find q)) r = { v with group := v.group.or r.head? } := rfl

theorem quotaMachine_log_findOne (v : Loaded) (id : String) (r : Option Group) :
    quotaMachine.log v (.groups (.findOne id)) r = { v with group := v.group.or r } := rfl

/-- The update of the user `u` does what the request takes it to do: a reservation or a charge
that the cap refuses is noticed, because the user is stored as the request loaded it, and quotas
are not set below what is consumed. -/
def UserUndisturbed (v : Loaded) : UserChange → User → Prop
  | .reserveNumber, u =>
    v.user = some u ∨ u.quotas.consumed.number + 1 ≤ u.quotas.allocated.number
  | .chargeDuration oldDuration newDuration, u =>
    v.released = true ∨ oldDuration ≤ newDuration ∧ (v.user = some u ∨
      u.quotas.consumed.duration + newDuration - oldDuration ≤ u.quotas.allocated.duration)
  | .setQuotas duration number _, u =>
    u.quotas.consumed.number ≤ number ∧ u.quotas.consumed.duration ≤ duration
  | _, _ => True

/-- The group is still as long as the request read it. -/
def GroupUndisturbed (v : Loaded) (g : Group) : Prop :=
  ∀ r ∈ v.group, g.owner = r.owner ∧ r.duration ≤ g.duration

/-- The condition on a call of a request. -/
def Undisturbed (v : Loaded) : DbOp → Db → Prop
  | .users (.update k f), db => ∀ u ∈ db.users.findOne k, UserUndisturbed v f u
  | .groups (.update k (.setDevices _ _)), db => ∀ g ∈ db.groups.findOne k, GroupUndisturbed v g
  | .groups (.delete k), db =>
    v.group.isSome → ∃ g ∈ db.groups.findOne k, GroupUndisturbed v g
  | _, _ => True

instance (v : Loaded) (f : UserChange) (u : User) : Decidable (UserUndisturbed v f u) := by
  unfold UserUndisturbed
  split <;> infer_instance

instance (v : Loaded) (g : Group) : Decidable (GroupUndisturbed v g) :=
  inferInstanceAs (Decidable (∀ r ∈ v.group, _))

instance (v : Loaded) (o : DbOp) (db : Db) : Decidable (Undisturbed v o db) := by
  unfold Undisturbed
  split <;> infer_instance

/-! ### The invariant -/

/-- The quotas `q` cover `number` groups of total duration `duration` and the reservations `m`,
and are within what is allocated. -/
structure Bounds (number duration : Int) (m : ℕ × ℕ) (q : Quotas) : Prop where
  number_le : number + m.1 ≤ q.consumed.number
  number_allocated : q.consumed.number ≤ q.allocated.number
  duration_le : duration + m.2 ≤ q.consumed.duration
  duration_allocated : q.consumed.duration ≤ q.allocated.duration

/-- What the user has consumed covers what it owns and what running requests have reserved. -/
structure Covered (email : String) (m : ℕ × ℕ) (db : Db) : Prop where
  bounds : ∀ u ∈ db.users.findOne email,
    Bounds (ownedNumber email db.groups) (ownedDuration email db.groups) m u.quotas
  nonneg : ∀ g ∈ db.groups.docs, g.owner.email = email → 0 ≤ g.duration

namespace Covered

variable {email : String} {m m' : ℕ × ℕ} {db : Db}

theorem keepsAccounts (h : Covered email m db) {o : DbOp} (ho : o.KeepsAccounts) :
    Covered email m (o.exec db).2 where
  bounds u' hu' := by
    have hq := ho.quotas db email
    rw [Option.mem_def.1 hu'] at hq
    obtain ⟨u, hu, huq⟩ := Option.map_eq_some_iff.1 hq.symm
    rw [ho.ownedNumber, ho.ownedDuration, ← huq]
    exact h.bounds u hu
  nonneg g hg he := by
    obtain ⟨g', hg', hbook⟩ := ho.exists_of_mem db hg
    have howner : g.owner = g'.owner := congrArg Group.Booking.owner hbook
    have hdur : g.duration = g'.duration := congrArg Group.Booking.duration hbook
    rw [hdur]
    exact h.nonneg g' hg' (howner ▸ he)

/-- An update of a user's quotas that turns the reservations `m` into `m'`. -/
theorem updateUser (h : Covered email m db) {k : String} {f : UserChange}
    (hne : k ≠ email → m' = m)
    (hself : ∀ u number duration, k = email → u ∈ db.users.findOne k → 0 ≤ number →
      Bounds number duration m u.quotas → Bounds number duration m' (f.apply u).quotas) :
    Covered email m' (DbOp.exec (.users (.update k f)) db).2 where
  bounds u' hu' := by
    by_cases hk : k = email
    · subst hk
      cases hu : db.users.findOne k with
      | none =>
        simp only [DbOp.exec, CollOp.exec, Collection.update_of_findOne_none _ hu, hu,
          Option.mem_def] at hu'
        cases hu'
      | some u =>
        simp only [DbOp.exec, CollOp.exec, Collection.findOne_update_self _ hu,
          Option.mem_def] at hu'
        obtain rfl := Option.some.inj hu'
        exact hself u _ _ rfl hu (Int.natCast_nonneg _) (h.bounds u hu)
    · have hsame : (DbOp.exec (.users (.update k f)) db).2.users.findOne email =
          db.users.findOne email := Collection.findOne_update_ne _ (Ne.symm hk)
      rw [hne hk]
      exact h.bounds u' (hsame ▸ hu')
  nonneg := h.nonneg

theorem mono (h : Covered email m db) (h₁ : m'.1 ≤ m.1) (h₂ : m'.2 ≤ m.2) :
    Covered email m' db where
  bounds u hu := by
    obtain ⟨hn, hna, hd, hda⟩ := h.bounds u hu
    exact ⟨by omega, hna, by omega, hda⟩
  nonneg := h.nonneg

/-- A new group of no duration uses up the reserved instance. -/
theorem insert (h : Covered email m db) {g : Group} (hd : g.duration = 0)
    (h₁ : m'.1 + share email g.owner.email 1 ≤ m.1) (h₂ : m'.2 ≤ m.2) :
    Covered email m' (DbOp.exec (.groups (.insert g)) db).2 := by
  by_cases hg : g.id ∈ db.groups.docs.map key
  · simp only [DbOp.exec, CollOp.exec, Collection.insert_of_mem hg]
    exact h.mono (by omega) h₂
  · have hg' := Collection.findOne_eq_none_iff_notMem.2 hg
    refine ⟨fun u hu => ?_, fun g' hg₁ he => ?_⟩
    · obtain ⟨hn, hna, hd', hda⟩ := h.bounds u hu
      simp only [DbOp.exec, CollOp.exec, ownedNumber_insert hg', ownedDuration_insert hg', hd]
      simp only [share] at h₁ ⊢
      by_cases he : g.owner.email = email <;> simp only [he, if_true, if_false] at h₁ ⊢ <;>
        exact ⟨by omega, hna, by omega, hda⟩
    · simp only [DbOp.exec, CollOp.exec, Collection.docs_insert hg, List.mem_append,
        List.mem_singleton] at hg₁
      rcases hg₁ with hg₁ | rfl
      · exact h.nonneg g' hg₁ he
      · exact Int.le_of_eq hd.symm

/-- The new duration of a group has been charged before it is written. -/
theorem setDevices (h : Covered email m db) {id : String} {r : Group} {duration : Int}
    {devices : List String}
    (hr : ∀ g ∈ db.groups.findOne id, g.owner = r.owner ∧ r.duration ≤ g.duration)
    (hle : r.duration ≤ duration) (hpos : r.owner.email = email → 0 ≤ r.duration)
    (h₁ : m'.1 ≤ m.1)
    (h₂ : m'.2 + share email r.owner.email (duration - r.duration).toNat ≤ m.2) :
    Covered email m' (DbOp.exec (.groups (.update id (.setDevices duration devices))) db).2 := by
  cases hg : db.groups.findOne id with
  | none =>
    simp only [DbOp.exec, CollOp.exec, Collection.update_of_findOne_none _ hg]
    exact h.mono h₁ (by omega)
  | some g =>
    obtain ⟨howner, hdur⟩ := hr g hg
    refine ⟨fun u hu => ?_, fun g' hg' he => ?_⟩
    · obtain ⟨hn, hna, hd, hda⟩ := h.bounds u hu
      have hsum := ownedDuration_update email (.setDevices duration devices) hg
      simp only [DbOp.exec, CollOp.exec, ownedNumber_update, hsum, GroupChange.apply, howner]
      by_cases he : r.owner.email = email
      · simp only [share, he, if_true] at h₂ ⊢
        exact ⟨by omega, hna, by omega, hda⟩
      · simp only [share_of_ne he] at h₂ ⊢
        exact ⟨by omega, hna, by omega, hda⟩
    · simp only [DbOp.exec, CollOp.exec] at hg'
      rcases Collection.mem_update.1 hg' with ⟨hg', -⟩ | ⟨g₀, hg₀, rfl⟩
      · exact h.nonneg g' hg' he
      · obtain rfl := Option.some.inj (hg.symm.trans hg₀)
        have h0 := hpos (howner ▸ he)
        show 0 ≤ duration
        omega

theorem delete (h : Covered email m db) {id : String} {g r : Group}
    (hg : db.groups.findOne id = some g) (howner : g.owner = r.owner)
    (hdur : r.duration ≤ g.duration) (hpos : r.owner.email = email → 0 ≤ r.duration)
    (h₁ : m'.1 = m.1 + share email r.owner.email 1)
    (h₂ : m'.2 = m.2 + share email r.owner.email r.duration.toNat) :
    Covered email m' (DbOp.exec (.groups (.delete id)) db).2 where
  bounds u hu := by
    obtain ⟨hn, hna, hd, hda⟩ := h.bounds u hu
    simp only [DbOp.exec, CollOp.exec, ownedNumber_delete hg, ownedDuration_delete hg, howner]
    by_cases he : r.owner.email = email
    · have h0 := hpos he
      simp only [share, he, if_true] at h₁ h₂ ⊢
      exact ⟨by omega, hna, by omega, hda⟩
    · simp only [share_of_ne he] at h₁ h₂ ⊢
      exact ⟨by omega, hna, by omega, hda⟩
  nonneg g' hg' he := h.nonneg g' (Collection.mem_delete.1 hg').1 he

theorem delete_unread (h : Covered email m db) (id : String) :
    Covered email m (DbOp.exec (.groups (.delete id)) db).2 := by
  cases hg : db.groups.findOne id with
  | none =>
    simp only [DbOp.exec, CollOp.exec, Collection.delete_of_findOne_none hg]
    exact h
  | some g =>
    refine ⟨fun u hu => ?_, fun g' hg' he => h.nonneg g' (Collection.mem_delete.1 hg').1 he⟩
    obtain ⟨hn, hna, hd, hda⟩ := h.bounds u hu
    simp only [DbOp.exec, CollOp.exec, ownedNumber_delete hg, ownedDuration_delete hg]
    by_cases he : g.owner.email = email
    · have h0 := h.nonneg g (Collection.mem_of_findOne hg) he
      simp only [share, he, if_true]
      exact ⟨by omega, hna, by omega, hda⟩
    · simp only [share_of_ne he]
      exact ⟨by simpa using hn, hna, by simpa using hd, hda⟩

end Covered

/-! ### The requests -/

section

open GroupModel UserModel

variable {email : String}

/-- Safety of a program for the quotas of `email`. -/
abbrev QuotaSafe (email : String) {α : Type} (v : Loaded) (m : ℕ × ℕ) (p : DbM α)
    (Q : Loaded → ℕ × ℕ → Except JsError α → Prop) : Prop :=
  quotaMachine.Safe (Covered email) Undisturbed v m p Q

theorem QuotaSafe.of_keepsAccounts {α : Type} {v : Loaded} {m : ℕ × ℕ} {p : DbM α}
    (hp : p.Ops DbOp.KeepsAccounts) {Q : Loaded → ℕ × ℕ → Except JsError α → Prop}
    (hQ : ∀ v r, Q v m r) : QuotaSafe email v m p Q :=
  Safe.of_ops (J := fun _ => True) (fun _ ho _ _ _ hs _ => hs.keepsAccounts ho)
    (fun _ _ _ _ _ => trivial) trivial hp fun v r _ => hQ v r

/-- The rule for loading a user and then updating it, which turns the reservation `m` into `m'`.
The user may have changed in between: `old` was loaded and `cur` is what is updated. -/
theorem QuotaSafe.load_update {α : Type} {owner : String} {f : UserChange} {v : Loaded}
    {m : ℕ × ℕ} {k : Option User → Option (User × User) → DbM α}
    {Q : Loaded → ℕ × ℕ → Except JsError α → Prop}
    (h : ∀ old cur : Option User, (∀ u ∈ cur, UserUndisturbed { v with user := old } f u) →
      ∃ m', (owner ≠ email → m' = m) ∧
        (owner = email → ∀ u ∈ cur, ∀ number duration fr, 0 ≤ number →
          Bounds number duration (m + fr) u.quotas →
            Bounds number duration (m' + fr) (f.apply u).quotas) ∧
        QuotaSafe email { v with user := old } m' (k old (cur.map fun u => (u, f.apply u))) Q) :
    QuotaSafe email v m
      (.act (.users (.findOne owner)) fun old => .act (.users (.update owner f)) (k old)) Q := by
  intro fr db hcov _
  refine ⟨m, hcov, ?_⟩
  intro fr' db' hcov' hG
  obtain ⟨m', hne, hself, hk⟩ := h _ (db'.users.findOne owner) hG
  refine ⟨m', hcov'.updateUser (fun ho => by rw [hne ho]) fun u n d ho hu h0 hb => ?_, hk⟩
  exact hself ho u hu n d fr' h0 hb

theorem updateUserHandler_self (u : Option User) : updateUserHandler u u = false := by
  simp [updateUserHandler]

/-- A reservation that is reported as made has been made. -/
theorem safe_reserveUserGroupInstance {owner : String} {v : Loaded}
    {Q : Loaded → ℕ × ℕ → Except JsError Stats → Prop}
    (hQ : ∀ v stats, Q v (if stats.modifiedCount = 0 then 0 else (share email owner 1, 0))
      (.ok stats)) :
    QuotaSafe email v 0 (reserveUserGroupInstance owner) Q := by
  unfold reserveUserGroupInstance loadUser Db.findUser Db.updateUser
  simp only [bind_eq, perform_bind, pure_eq]
  refine QuotaSafe.load_update fun old cur hG => ⟨_, fun hne => ?_,
    fun he u hu n d fr h0 hb => ?_,
    hQ _ _⟩
  · simp [share_of_ne hne]
  obtain ⟨hn, hna, hd, hda⟩ := hb
  subst he hu
  simp only [share_self, Option.map_some]
  by_cases hcap : u.quotas.consumed.number + 1 ≤ u.quotas.allocated.number
  · have hmin : min (u.quotas.consumed.number + 1) u.quotas.allocated.number =
        u.quotas.consumed.number + 1 := by omega
    simp only [UserChange.apply, Quotas.reserve, hmin]
    split <;> exact ⟨by simp at hn ⊢; omega, hcap, by simpa using hd, hda⟩
  · -- the cap refuses: the user is stored as it was loaded, so that this is noticed
    have hread : old = some u := by
      rcases hG u rfl with hread | hcap'
      · exact hread
      · exact absurd hcap' hcap
    have hsame : UserChange.reserveNumber.apply u = u := by
      have hmin : min (u.quotas.consumed.number + 1) u.quotas.allocated.number =
          u.quotas.consumed.number := by omega
      simp [UserChange.apply, Quotas.reserve, hmin]
    simp only [hread, hsame, updateUserHandler_self]
    exact ⟨by simpa using hn, hna, by simpa using hd, hda⟩

/-- A charge that is reported as made has been made, and it is not negative. -/
theorem safe_updateUserGroupDuration {owner : String} {oldDuration newDuration : Int} {v : Loaded}
    (hv : v.released = false) {Q : Loaded → ℕ × ℕ → Except JsError Stats → Prop}
    (hQ : ∀ user stats, (stats.modifiedCount ≠ 0 → oldDuration ≤ newDuration) →
      Q { v with user := user } (if stats.modifiedCount = 0 then 0
        else (0, share email owner (newDuration - oldDuration).toNat)) (.ok stats)) :
    QuotaSafe email v 0 (updateUserGroupDuration owner oldDuration newDuration) Q := by
  unfold updateUserGroupDuration loadUser Db.findUser Db.updateUser
  simp only [bind_eq, perform_bind, pure_eq]
  refine QuotaSafe.load_update fun old cur hG => ⟨_, fun hne => ?_,
    fun he u hu n d fr h0 hb => ?_,
    hQ _ _ fun hmod => ?_⟩
  · simp [share_of_ne hne]
  · obtain ⟨hn, hna, hd, hda⟩ := hb
    subst he hu
    obtain ⟨hle, hG⟩ : oldDuration ≤ newDuration ∧ (old = some u ∨
        u.quotas.consumed.duration + newDuration - oldDuration ≤ u.quotas.allocated.duration) := by
      rcases hG u rfl with hr | hG
      · exact absurd (hv.symm.trans hr) (by decide)
      · exact hG
    simp only [share_self, Option.map_some, Option.isSome_some, Bool.true_and]
    by_cases hcap :
        u.quotas.consumed.duration + newDuration - oldDuration ≤ u.quotas.allocated.duration
    · simp only [UserChange.apply, Quotas.charge, hcap, if_true]
      have hcast : ((newDuration - oldDuration).toNat : Int) = newDuration - oldDuration := by omega
      split <;> exact ⟨by simpa using hn, hna, by simp at hd ⊢; omega, hcap⟩
    · have hread : old = some u := by
        rcases hG with hread | hcap'
        · exact hread
        · exact absurd hcap' hcap
      have hsame : (UserChange.chargeDuration oldDuration newDuration).apply u = u := by
        simp [UserChange.apply, Quotas.charge, hcap]
      simp only [hread, hsame, updateUserHandler_self]
      exact ⟨by simpa using hn, hna, by simpa using hd, hda⟩
  · cases cur with
    | none => simp at hmod
    | some u =>
      rcases hG u rfl with hr | hG
      · exact absurd (hv.symm.trans hr) (by decide)
      · exact hG.1

/-- `createUserGroup` for a group without devices. -/
theorem safe_createUserGroup (id : String) {data : GroupData} (hd : data.duration = 0)
    (v : Loaded) : QuotaSafe email v 0 (createUserGroup id data) fun _ _ _ => True := by
  unfold createUserGroup
  simp only [bind_eq]
  refine Safe.bind (safe_reserveUserGroupInstance fun v stats => ?_)
  dsimp only
  by_cases hstats : stats.modifiedCount = 0
  · simp only [hstats, if_true]
    trivial
  simp only [hstats, if_false]
  refine Safe.bind (QuotaSafe.of_keepsAccounts
    (Ops.mono (fun _ ho => ho.keepsAccounts) deviceOnly_getRootGroup) fun v r => ?_)
  cases r with
  | error e => trivial
  | ok rootGroup =>
  refine Safe.bind ?_
  unfold createGroup Db.insertGroup
  simp only [bind_eq, perform_bind]
  intro fr db h _
  refine ⟨0, h.insert hd (by simp [GroupData.toGroup, Nat.add_comm]) (by simp), ?_⟩
  refine QuotaSafe.of_keepsAccounts ?_ fun v r => ?_
  · dsimp only
    split
    · trivial
    · exact Ops.bind (Ops.mono (fun _ ho => ho.keepsAccounts) (deviceOnly_findGroup id))
        fun newGroup => by cases newGroup <;> trivial
  cases r with
  | error e => trivial
  | ok group =>
    refine QuotaSafe.of_keepsAccounts ?_ fun _ _ => trivial
    exact Ops.bind ((keepsAccounts_addGroupUser _ _).par (keepsAccounts_addGroupUser _ _))
      fun _ => Ops.mono (fun _ ho => ho.keepsAccounts) (deviceOnly_findGroup _)

/-- `addGroupDevices` for a group that the request has just read. -/
theorem safe_addGroupDevices {group : Group} {v : Loaded} (hgroup : v.group = some group)
    (hv : v.released = false) (hpos : group.owner.email = email → 0 ≤ group.duration)
    (serials : List String) :
    QuotaSafe email v 0 (addGroupDevices group serials) fun _ _ _ => True := by
  unfold addGroupDevices
  split
  · trivial
  split
  · trivial
  rename_i duration hduration
  simp only [bind_eq]
  refine Safe.bind (safe_updateUserGroupDuration hv fun user stats hle => ?_)
  dsimp only
  by_cases hstats : stats.modifiedCount = 0
  · simp only [hstats, if_true]
    trivial
  simp only [hstats, if_false]
  unfold Db.findGroups Db.updateGroup
  simp only [perform_bind]
  intro fr db h _
  refine ⟨_, h, ?_⟩
  rw [quotaMachine_log_find, hgroup, Option.some_or]
  dsimp only
  split
  · trivial
  intro fr' db' h' hG
  refine ⟨0, ?_, ?_⟩
  · exact h'.setDevices (r := group) (fun g hg => hG g hg group rfl) (hle hstats) hpos (by simp)
      (by simp [Nat.add_comm])
  refine QuotaSafe.of_keepsAccounts ?_ fun _ _ => trivial
  refine Ops.bind ?_ fun newGroup => ?_
  · cases Option.map (fun x : Group × Group => x.2) _ <;> trivial
  · exact Ops.bind (Ops.mono (fun _ ho => ho.keepsAccounts)
      (places_treatGroupDevicesChange _ _ _).deviceOnly) fun _ => trivial

/-- What a request does with the quotas after it has deleted a group: it gives back the
instance and the duration. -/
theorem safe_releaseGroup_quotas {group : Group} {v : Loaded} (hv : v.released = true)
    (hpos : group.owner.email = email → 0 ≤ group.duration) :
    QuotaSafe email v
      (share email group.owner.email 1, share email group.owner.email group.duration.toNat)
      (releaseGroup group) fun _ _ _ => True := by
  unfold releaseGroup
  simp only [bind_eq]
  refine Safe.bind (Safe.of_ops_total (P := fun o => ∃ k id, o = .users (.update k (.unsubscribe id)))
    (J := fun v => v.released = true) ?_ ?_ hv ?_ ?_ fun v _ hv => ?_)
  · rintro _ ⟨k, id, rfl⟩ v m db h _
    exact h.keepsAccounts trivial
  · rintro _ ⟨k, id, rfl⟩ v r hv
    exact hv
  · exact ops_unsubscribeAll fun k => ⟨k, _, rfl⟩
  · exact total_unsubscribeAll group
  unfold releaseUserGroupInstance updateUserGroupDuration loadUser Db.findUser Db.updateUser
  simp only [bind_eq, perform_bind, act_bind, pure_eq, ret_bind]
  -- the reserved instance and the charged duration are still covered
  refine QuotaSafe.load_update fun old cur _ =>
    ⟨(0, share email group.owner.email group.duration.toNat), fun hne => ?_,
      fun he u hu n d fr h0 hb => ?_, ?_⟩
  · simp [share_of_ne hne]
  · obtain ⟨hn, hna, hd, hda⟩ := hb
    subst he
    simp only [share_self, Prod.fst_add, Prod.snd_add] at hn hd ⊢
    push_cast at hn
    have hmax : max (u.quotas.consumed.number - 1) 0 = u.quotas.consumed.number - 1 := by omega
    have hna' : u.quotas.consumed.number - 1 ≤ u.quotas.allocated.number := by omega
    simp only [UserChange.apply, Quotas.release, hmax]
    exact ⟨by simp only [Prod.fst_add]; omega, hna', hd, hda⟩
  refine QuotaSafe.load_update fun old cur _ => ⟨0, fun hne => ?_,
    fun he u hu n d fr h0 hb => ?_, ?_⟩
  · rw [share_of_ne hne]
    rfl
  · obtain ⟨hn, hna, hd, hda⟩ := hb
    subst he
    have hdur := hpos rfl
    simp only [share_self, Prod.fst_add, Prod.snd_add] at hn hd ⊢
    push_cast at hd
    have hcap : u.quotas.consumed.duration + 0 - group.duration ≤ u.quotas.allocated.duration := by
      omega
    simp only [UserChange.apply, Quotas.charge, hcap, if_true]
    exact ⟨hn, hna, by simp only [Prod.snd_add, Prod.snd_zero]; omega, hcap⟩
  refine QuotaSafe.of_keepsAccounts (Ops.mono (fun _ ho => DbOp.DeviceOnly.keepsAccounts ho) ?_)
    fun _ _ => trivial
  split
  · exact (places_returnDevicesToRoot _).deviceOnly.bind fun _ =>
      (places_updateDevicesCurrentGroupFromOrigin _).deviceOnly.detach
  · exact (places_updateDevicesCurrentGroupFromOrigin _).deviceOnly.bind fun _ => trivial

/-- `deleteUserGroup`. -/
theorem safe_deleteUserGroup_quotas (id : String) :
    QuotaSafe email Loaded.start 0 (deleteUserGroup id) fun _ _ _ => True := by
  unfold deleteUserGroup getGroup Db.findGroup Db.deleteGroup
  simp only [bind_eq, perform_bind]
  intro fr db h _
  refine ⟨0, h, ?_⟩
  rw [quotaMachine_log_findOne]
  cases hfind : db.groups.findOne id with
  | none =>
    simp only [quotaMachine_exec, DbOp.exec, CollOp.exec, Loaded.start, hfind, Option.any_none,
      Bool.false_eq_true, if_false]
    intro fr' db' h' _
    exact ⟨0, h'.delete_unread id, trivial⟩
  | some group =>
    simp only [quotaMachine_exec, DbOp.exec, CollOp.exec, Loaded.start, hfind, Option.any_some,
      Option.none_or]
    by_cases hroot : group.privilege = .root
    · simp only [hroot, decide_true, if_true]
      trivial
    simp only [hroot, decide_false, Bool.false_eq_true, if_false]
    intro fr' db' h' hG
    obtain ⟨g, hg, hsame⟩ := hG rfl
    obtain ⟨howner, hdur⟩ := hsame group rfl
    have hpos := h.nonneg group (Collection.mem_of_findOne hfind)
    refine ⟨(share email group.owner.email 1, share email group.owner.email group.duration.toNat),
      h'.delete hg howner hdur hpos ?_ ?_, ?_⟩
    · simp [Nat.add_comm]
    · simp [Nat.add_comm]
    · refine Safe.bind (Safe.mono (safe_releaseGroup_quotas rfl hpos) fun v m r _ => ?_)
      cases r <;> trivial

/-- `updateUserGroupsQuotas`. -/
theorem safe_updateUserGroupsQuotas (owner : String) (duration number repetitions : Option Int)
    (v : Loaded) : QuotaSafe email v 0
      (updateUserGroupsQuotas owner duration number repetitions) fun _ _ _ => True := by
  unfold updateUserGroupsQuotas Db.findUser Db.updateUser
  simp only [bind_eq, perform_bind]
  intro fr db h _
  refine ⟨0, h, ?_⟩
  simp only [quotaMachine_exec, DbOp.exec, CollOp.exec]
  split
  · trivial
  intro fr' db' h' hG
  refine ⟨0, h'.updateUser (fun _ => rfl) fun u n d _ hu _ hb => ?_, trivial⟩
  obtain ⟨hnumber, hduration⟩ := hG u hu
  obtain ⟨hn, _, hd, _⟩ := hb
  exact ⟨hn, hnumber, hd, hduration⟩

end

/-! ### The pool of requests -/

section

open GroupModel UserModel

/-- The requests that act on the quotas of users.  New groups come with no duration. -/
inductive QuotaRequest where
  | create (id : String) (data : GroupData) (hd : data.duration = 0)
  | addDevices (email id : String) (serials : List String)
  | delete (id : String)
  | setQuotas (email : String) (duration number repetitions : Option Int)

/-- A request that adds devices loads the group first. -/
def QuotaRequest.prog : QuotaRequest → DbM Unit
  | .create id data _ => do
    let _ ← createUserGroup id data
    return ()
  | .addDevices email id serials => do
    match ← getUserGroup email id with
    | none => return ()
    | some group =>
      let _ ← addGroupDevices group serials
      return ()
  | .delete id => do
    let _ ← deleteUserGroup id
    return ()
  | .setQuotas email duration number repetitions => do
    let _ ← updateUserGroupsQuotas email duration number repetitions
    return ()

theorem QuotaSafe.discard {α : Type} {email : String} {v : Loaded} {m : ℕ × ℕ} {p : DbM α}
    (h : QuotaSafe email v m p fun _ _ _ => True) :
    QuotaSafe email v m (p.bind fun _ => .ret ()) fun _ _ _ => True :=
  Safe.bind (Safe.mono h fun v m r _ => by cases r <;> trivial)

theorem QuotaRequest.safe (email : String) (r : QuotaRequest) :
    QuotaSafe email Loaded.start 0 r.prog fun _ _ _ => True := by
  cases r with
  | create id data hd => exact (safe_createUserGroup id hd _).discard
  | delete id => exact (safe_deleteUserGroup_quotas id).discard
  | setQuotas owner duration number repetitions =>
    exact (safe_updateUserGroupsQuotas owner duration number repetitions _).discard
  | addDevices requester id serials =>
    unfold prog getUserGroup Db.findGroups
    simp only [bind_eq, perform_bind, pure_eq, act_bind, ret_bind]
    intro fr db h _
    refine ⟨0, h, ?_⟩
    rw [quotaMachine_log_find]
    simp only [quotaMachine_exec, DbOp.exec, CollOp.exec, Loaded.start, Option.none_or]
    cases hgroup : (db.groups.docs.filter _).head? with
    | none => trivial
    | some group =>
      have hmem : group ∈ db.groups.docs :=
        List.mem_of_mem_filter (List.mem_of_mem_head? (Option.mem_def.2 hgroup))
      exact (safe_addGroupDevices rfl rfl (h.nonneg group hmem) serials).discard

/-- The user owns no more than allocated. -/
def WithinQuotas (email : String) (db : Db) : Prop :=
  ∀ u ∈ db.users.findOne email, ownedNumber email db.groups ≤ u.quotas.allocated.number ∧
    ownedDuration email db.groups ≤ u.quotas.allocated.duration

instance (email : String) (db : Db) : Decidable (WithinQuotas email db) :=
  inferInstanceAs (Decidable (∀ u ∈ db.users.findOne email, _))

theorem Covered.withinQuotas {email : String} {m : ℕ × ℕ} {db : Db} (h : Covered email m db) :
    WithinQuotas email db := by
  intro u hu
  obtain ⟨hn, hna, hd, hda⟩ := h.bounds u hu
  omega

/-- The requests as a pool. -/
def quotaPool (requests : List QuotaRequest) : List (Loaded × DbM Unit) :=
  requests.map fun r => (Loaded.start, r.prog)

/-- **Quotas are enforced in every run whose steps are undisturbed.**  From a state in which the
consumed quotas of the user cover what the user owns, every state that requests reach without
disturbing each other is within the quotas. -/
theorem quotas_enforced {email : String} {requests : List QuotaRequest} {db : Db}
    (h : Covered email 0 db) {c : List (Loaded × DbM Unit) × Db} {mvs : List (Move DbOp Db Loaded)}
    (hrun : (quotaMachine.guarded Undisturbed JsError Unit).Run (quotaPool requests, db) mvs c) :
    WithinQuotas email c.2 := by
  have hsafe : quotaMachine.PoolSafe (Covered email) Undisturbed (fun _ _ _ => True) 0
      (quotaPool requests) := by
    refine poolSafe_zero fun c hc => ?_
    obtain ⟨r, -, rfl⟩ := List.mem_map.1 hc
    exact r.safe email
  obtain ⟨m, -, hcov⟩ := hsafe.invariant hrun h
  exact hcov.withinQuotas

/-- A user who may own `n` groups and owns none. -/
def newUser (n : Int) : Db where
  users := ⟨[Sample.user "u" ⟨n, 36000000⟩ ⟨0, 0⟩], List.nodup_singleton _⟩
  groups := ⟨[Sample.root], List.nodup_singleton _⟩
  devices := Collection.empty

/-- The data of a booking of `u` for an hour. -/
def hourData : GroupData where
  name := "booking"
  owner := ⟨"u", "u"⟩
  privilege := .user
  class_ := .once
  repetitions := 0
  isActive := false
  dates := [⟨0, 3600000⟩]
  duration := 0
  state := .pending

/-- Two requests for a group each. -/
def twoCreates : List QuotaRequest := [.create "a" hourData rfl, .create "b" hourData rfl]

/-- Both requests load the user before one of them reserves the only instance: the second one
sees the document change all the same, and two groups are created. -/
theorem quotas_not_enforced :
    WithinQuotas "u" (newUser 1) ∧ ∃ mvs c,
      (quotaMachine.pool JsError Unit).Run (quotaPool twoCreates, newUser 1) mvs c ∧
        ¬ WithinQuotas "u" c.2 := by
  refine ⟨by decide +kernel, ?_⟩
  obtain ⟨mvs, c, hrun, hc⟩ := exists_run_of_play (A := quotaMachine) (G := fun _ _ _ => True)
    [0, 1, 0, 1, 0, 0, 1, 1] (quotaPool twoCreates, newUser 1)
    (fun c => ¬ WithinQuotas "u" c.2) (by decide +kernel)
  exact ⟨mvs, c, hrun.of_restrict, by simpa using hc⟩

theorem newUser_covered : Covered "u" 0 (newUser 2) where
  bounds u hu := by
    obtain rfl := List.mem_singleton.1 (Collection.mem_of_findOne hu)
    exact ⟨by decide +kernel, by decide, by decide +kernel, by decide⟩
  nonneg g hg _ := by
    obtain rfl := List.mem_singleton.1 hg
    decide

/-- Two undisturbed requests for a user who may own two groups. -/
theorem quotas_enforced_twoCreates : ∃ mvs c,
    (quotaMachine.guarded Undisturbed JsError Unit).Run (quotaPool twoCreates, newUser 2) mvs c ∧
      ownedNumber "u" c.2.groups = 2 ∧ WithinQuotas "u" c.2 := by
  obtain ⟨mvs, c, hrun, hc⟩ := exists_run_of_play (A := quotaMachine) (G := Undisturbed)
    [0, 1, 0, 1, 0, 0, 1, 1] (quotaPool twoCreates, newUser 2)
    (fun c => ownedNumber "u" c.2.groups = 2) (by decide +kernel)
  exact ⟨mvs, c, hrun, by simpa using hc, quotas_enforced newUser_covered hrun⟩

end

end DeviceHub

import DeviceHub.Db.Frames
import Mathlib.Algebra.BigOperators.Group.List.Basic

/-!
# What a user owns

The quotas of a user are to account for the groups that the user owns: their number and the sum
of their durations.  Both are sums over the collection of groups, so that the effect of every
call on them is known.
-/

namespace DeviceHub

open Prog

/-- The groups that the user owns. -/
def ownedGroups (email : String) (groups : Collection Group) : List Group :=
  groups.docs.filter fun g => g.owner.email = email

/-- How many groups the user owns. -/
def ownedNumber (email : String) (groups : Collection Group) : Int :=
  (ownedGroups email groups).length

/-- How long the groups of the user last together. -/
def ownedDuration (email : String) (groups : Collection Group) : Int :=
  ((ownedGroups email groups).map Group.duration).sum

/-- `x` for the user `email`, nothing for another one. -/
def share {α : Type} [Zero α] (email owner : String) (x : α) : α := if owner = email then x else 0

theorem share_self {α : Type} [Zero α] (email : String) (x : α) : share email email x = x :=
  if_pos rfl

theorem share_of_ne {α : Type} [Zero α] {email owner : String} (h : owner ≠ email) (x : α) :
    share email owner x = 0 :=
  if_neg h

theorem sum_ownedGroups {G : Type} [AddCommGroup G] (email : String) (groups : Collection Group)
    (w : Group → G) : ((ownedGroups email groups).map w).sum =
      groups.sumBy fun g => share email g.owner.email (w g) := by
  obtain ⟨docs, hn⟩ := groups
  simp only [ownedGroups, Collection.sumBy]
  clear hn
  induction docs with
  | nil => rfl
  | cons g docs ih =>
    rw [List.map_cons, List.sum_cons, ← ih]
    by_cases h : g.owner.email = email
    · rw [List.filter_cons_of_pos (by simpa using h), List.map_cons, List.sum_cons, share, if_pos h]
    · rw [List.filter_cons_of_neg (by simpa using h), share_of_ne h, zero_add]

theorem ownedNumber_eq (email : String) (groups : Collection Group) :
    ownedNumber email groups = groups.sumBy fun g => share email g.owner.email 1 := by
  rw [← sum_ownedGroups email groups fun _ => (1 : Int), ownedNumber]
  simp

theorem ownedDuration_eq (email : String) (groups : Collection Group) :
    ownedDuration email groups =
      groups.sumBy fun g => share email g.owner.email g.duration :=
  sum_ownedGroups email groups Group.duration

section

variable {email k : String} {groups : Collection Group} {g : Group}

theorem ownedNumber_update (email k : String) (groups : Collection Group) (f : GroupChange) :
    ownedNumber email (groups.update k (effect f)) = ownedNumber email groups := by
  rw [ownedNumber_eq, ownedNumber_eq]
  exact Collection.sumBy_update_of_eq _ _ _ fun g => by simp

theorem ownedDuration_update (email : String) (f : GroupChange) (hg : groups.findOne k = some g) :
    ownedDuration email (groups.update k (effect f)) =
      ownedDuration email groups - share email g.owner.email g.duration +
        share email g.owner.email (f.apply g).duration := by
  rw [ownedDuration_eq, ownedDuration_eq, Collection.sumBy_update _ (effect f) hg]
  simp

theorem ownedNumber_insert (hg : groups.findOne g.id = none) :
    ownedNumber email (groups.insert g) =
      ownedNumber email groups + share email g.owner.email 1 := by
  rw [ownedNumber_eq, ownedNumber_eq]
  exact Collection.sumBy_insert _ hg

theorem ownedDuration_insert (hg : groups.findOne g.id = none) :
    ownedDuration email (groups.insert g) =
      ownedDuration email groups + share email g.owner.email g.duration := by
  rw [ownedDuration_eq, ownedDuration_eq]
  exact Collection.sumBy_insert _ hg

theorem ownedNumber_delete (hg : groups.findOne k = some g) :
    ownedNumber email (groups.delete k) =
      ownedNumber email groups - share email g.owner.email 1 := by
  rw [ownedNumber_eq, ownedNumber_eq]
  exact Collection.sumBy_delete _ hg

theorem ownedDuration_delete (hg : groups.findOne k = some g) :
    ownedDuration email (groups.delete k) =
      ownedDuration email groups - share email g.owner.email g.duration := by
  rw [ownedDuration_eq, ownedDuration_eq]
  exact Collection.sumBy_delete _ hg

end

/-! ### Calls that the accounts do not see -/

/-- The call changes neither quotas nor what any user owns. -/
def DbOp.KeepsAccounts : DbOp → Prop
  | .groups (.update _ f) => f.KeepsBooking
  | o => o.KeepsQuotas

theorem DbOp.KeepsQuotas.keepsAccounts {o : DbOp} (h : o.KeepsQuotas) : o.KeepsAccounts := by
  cases o with
  | users o => exact h
  | groups o => cases o <;> first | exact h | exact h.elim
  | devices o => exact h

theorem DbOp.DeviceOnly.keepsAccounts {o : DbOp} (h : o.DeviceOnly) : o.KeepsAccounts :=
  h.keepsQuotas.keepsAccounts

namespace DbOp.KeepsAccounts

variable {o : DbOp} (h : o.KeepsAccounts) (db : Db) (email : String)
include h

theorem quotas : ((o.exec db).2.users.findOne email).map User.quotas =
    (db.users.findOne email).map User.quotas := by
  cases o with
  | users o => exact DbOp.KeepsQuotas.findOne (o := .users o) h db email
  | groups o => rfl
  | devices o => rfl

theorem groups : (o.exec db).2.groups = db.groups ∨
    ∃ k f, GroupChange.KeepsBooking f ∧ (o.exec db).2.groups = db.groups.update k (effect f) := by
  cases o with
  | users o => exact .inl rfl
  | devices o => exact .inl rfl
  | groups o =>
    cases o with
    | findOne k => exact .inl rfl
    | find q => exact .inl rfl
    | update k f => exact .inr ⟨k, f, h, rfl⟩
    | updateMany q f => exact h.elim
    | insert d => exact h.elim
    | delete k => exact h.elim

theorem ownedNumber : ownedNumber email (o.exec db).2.groups = ownedNumber email db.groups := by
  rcases h.groups db with hg | ⟨k, f, -, hg⟩
  · rw [hg]
  · rw [hg, ownedNumber_update]

theorem ownedDuration :
    ownedDuration email (o.exec db).2.groups = ownedDuration email db.groups := by
  rcases h.groups db with hg | ⟨k, f, hf, hg⟩
  · rw [hg]
  rw [hg]
  cases hk : db.groups.findOne k with
  | none => rw [Collection.update_of_findOne_none _ hk]
  | some g =>
    have hdur : (f.apply g).duration = g.duration :=
      congrArg Group.Booking.duration (hf.booking_apply g)
    rw [ownedDuration_update _ f hk, hdur]
    omega

theorem exists_of_mem {g : Group} (hg : g ∈ (o.exec db).2.groups.docs) :
    ∃ g' ∈ db.groups.docs, g.booking = g'.booking := by
  rcases h.groups db with he | ⟨k, f, hf, he⟩
  · exact ⟨g, he ▸ hg, rfl⟩
  rw [he] at hg
  rcases Collection.mem_update.1 hg with ⟨hg', -⟩ | ⟨g', hg', rfl⟩
  · exact ⟨g, hg', rfl⟩
  · exact ⟨g', Collection.mem_of_findOne hg', hf.booking_apply g'⟩

end DbOp.KeepsAccounts

/-! ### Functions that the accounts do not see -/

section

open GroupModel UserModel

theorem keepsAccounts_addGroupUser (id email : String) :
    (addGroupUser id email).Ops DbOp.KeepsAccounts := by
  refine Ops.bind (Ops.par (p := Db.updateGroup id (.pushUser email))
    (q := Db.updateUser email (.subscribe id)) ?_ ?_) fun r => ?_
  · exact ops_perform.2 trivial
  · exact ops_perform.2 trivial
  · obtain ⟨group, user⟩ := r
    cases user with
    | none => dsimp only; split <;> trivial
    | some user =>
      refine Ops.bind (Ops.mono (fun o ho => ho.keepsAccounts) (deviceOnly_findUser email)) ?_
      intro newUser
      dsimp only
      split <;> trivial

end

end DeviceHub

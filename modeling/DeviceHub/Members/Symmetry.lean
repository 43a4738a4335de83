import DeviceHub.Api.Users
import DeviceHub.Db.Devices
import DeviceHub.Db.Sample
import DeviceHub.Members.Memberships

/-!
# The two sides of memberships agree

A group lists a user exactly when the user is subscribed to the group, as long as nobody makes an
unknown user a member of a group and nobody deletes the owner of the root group, which cannot be
deleted with its owner.

## Main definitions

* `Symmetric` : the two sides agree, and owners and moderators are members.
* `MemberEvent`, `memberSystem` : the operations, one after the other.
* `Known` : an operation names users who exist, and leaves the owner of the root group alone.

## Main results

* `symmetric_of_run` : the two sides agree in every state of a run whose operations are all known.
* `not_symmetric_of_unknown` : a user who does not exist is made a member of a group.
-/

namespace DeviceHub

open Prog apiutil lodash GroupModel UserModel AllModel

/-- The two sides agree about the group, and its owner and its moderators are members. -/
structure Group.Symmetric (db : Db) (g : Group) : Prop extends g.Proper where
  users : ∀ email, email ∈ g.users ↔ Subscribed db g.id email

/-- The two sides agree about every group. -/
def Symmetric (db : Db) : Prop := ∀ g ∈ db.groups.docs, g.Symmetric db

/-- The operations. -/
inductive MemberEvent where
  | createUserGroup (id : String) (data : GroupData)
  | addGroupUser (id email : String)
  | removeGroupUser (id email : String)
  | addAdminsToGroup (id : String)
  | addGroupModerator (id email : String)
  | removeGroupModerator (id email : String)
  | deleteUserGroup (id : String)
  | createUser (env : EnvQuotas) (email name : String) (privilege : Option Privilege)
  | removeUser (requester : String) (groupOwnerState : Option Bool) (email : String)

namespace MemberEvent

/-- The function runs to its end, whatever its answer. -/
def Runs (db db' : Db) : MemberEvent → Prop
  | .createUserGroup id data => ∃ r, (GroupModel.createUserGroup id data).Runs DbOp.exec db r db'
  | .addGroupUser id email => ∃ r, (GroupModel.addGroupUser id email).Runs DbOp.exec db r db'
  | .removeGroupUser id email => ∃ r, (GroupModel.removeGroupUser id email).Runs DbOp.exec db r db'
  | .addAdminsToGroup id => ∃ r, (GroupModel.addAdminsToGroup id).Runs DbOp.exec db r db'
  | .addGroupModerator id email =>
    ∃ r, (GroupModel.addGroupModerator id email).Runs DbOp.exec db r db'
  | .removeGroupModerator id email =>
    ∃ r, (GroupModel.removeGroupModerator id email).Runs DbOp.exec db r db'
  | .deleteUserGroup id => ∃ r, (GroupModel.deleteUserGroup id).Runs DbOp.exec db r db'
  | .createUser env email name privilege =>
    ∃ r, (UserModel.createUser env email name privilege).Runs DbOp.exec db r db'
  | .removeUser requester groupOwnerState email =>
    ∃ r, (users.removeUser requester groupOwnerState email).Runs DbOp.exec db r db'

/-- A generated identifier is new: no group has it, and no user is subscribed to it. -/
def Valid (db : Db) : MemberEvent → Prop
  | .createUserGroup id _ => ¬ HasGroup db id ∧ ∀ email, ¬ Subscribed db id email
  | _ => True

end MemberEvent

/-- The operations, one after the other. -/
def memberSystem : Lts Db MemberEvent where
  step db event db' := event.Valid db ∧ event.Runs db db'

/-- The request to remove a user gets as far as its deletion. -/
def Deletes (db : Db) (requester : String) (groupOwnerState : Option Bool) (email : String) : Prop :=
  requester ≠ email ∧ (∃ u ∈ db.users.findOne email, u.lock = false) ∧
    users.computeUserGroupOwnership groupOwnerState email
      (db.groups.docs.filter fun g => email ∈ g.users) = true

/-- The users who become members of groups exist, and the owner of the root group is not deleted. -/
def Known (db : Db) : MemberEvent → Prop
  | .addGroupUser id email => HasGroup db id → HasUser db email
  | .addGroupModerator id email => HasGroup db id → HasUser db email
  | .removeUser requester groupOwnerState email => Deletes db requester groupOwnerState email →
    ∀ g ∈ db.groups.docs, g.privilege = .root → g.owner.email ≠ email
  | _ => True

variable {db db' : Db} {id email : String}

/-! ### Calls that are not about memberships -/

/-- The call leaves the groups alone, and the subscriptions to all groups but those in `S`. -/
def DbOp.KeepsMembers (S : String → Prop) : DbOp → Prop
  | .users (.update _ f) =>
    ∀ id, ¬ S id → ∀ u, id ∈ (f.apply u).subscribed ↔ id ∈ u.subscribed
  | .users o => o.IsRead
  | .groups o => o.IsRead
  | .devices _ => True

/-- The groups are the same, and so are the subscriptions to all groups but those in `S`. -/
structure SameMembers (S : String → Prop) (db db' : Db) : Prop where
  groups : db'.groups = db.groups
  users : ∀ email, HasUser db' email ↔ HasUser db email
  subscribed : ∀ id, ¬ S id → ∀ email, Subscribed db' id email ↔ Subscribed db id email

/-- What such calls may do. -/
def sameMembers (S : String → Prop) : Rely Db where
  may := SameMembers S
  refl _ := ⟨rfl, fun _ => Iff.rfl, fun _ _ _ => Iff.rfl⟩
  trans _ _ _ h h' := ⟨h'.groups.trans h.groups, fun email => (h'.users email).trans (h.users email),
    fun id hid email => (h'.subscribed id hid email).trans (h.subscribed id hid email)⟩

theorem DbOp.KeepsMembers.same {S : String → Prop} (o : DbOp) (db : Db) (h : o.KeepsMembers S) :
    (sameMembers S).may db (o.exec db).2 := by
  have hread : o.IsRead → (sameMembers S).may db (o.exec db).2 := by
    intro ho
    rw [ho.exec db]
    exact (sameMembers S).refl db
  cases o with
  | groups o => exact hread h
  | devices o => exact ⟨rfl, fun _ => Iff.rfl, fun _ _ _ => Iff.rfl⟩
  | users o =>
    cases o with
    | update k f =>
      refine ⟨rfl, fun email => hasUser_withUser, fun id hid email => ?_⟩
      show Subscribed (db.withUser k f) id email ↔ _
      rw [subscribed_withUser]
      unfold Subscribed
      by_cases he : email = k
      · subst he
        cases db.users.findOne email <;> simp [h id hid]
      · simp [he]
    | findOne k => exact hread h
    | find q => exact hread h
    | updateMany q f => exact hread h
    | insert d => exact hread h
    | delete k => exact hread h

theorem DbOp.DeviceOnly.keepsMembers {S : String → Prop} (o : DbOp) (h : o.DeviceOnly) :
    o.KeepsMembers S := by
  obtain ⟨hg, hu⟩ := h
  cases o with
  | users o => cases o <;> first | exact hu | exact hu.elim
  | groups o => exact hg
  | devices o => trivial

theorem Symmetric.same (h : Symmetric db) (hsame : SameMembers (fun _ => False) db db') :
    Symmetric db' := by
  intro g hg
  rw [hsame.groups] at hg
  refine ⟨(h g hg).toProper, fun email => ?_⟩
  rw [hsame.subscribed g.id not_false email]
  exact (h g hg).users email

/-! ### Joining -/

/-- Users who join a group in which the two sides agree as far as they do not concern these
users. -/
theorem Joining.symmetric {S : String → Prop} {db₀ : Db} (hjoining : Joining id S db₀ db)
    (hproper : ∀ g ∈ db₀.groups.docs, g.Proper)
    (hlisted : ∀ g ∈ db₀.groups.docs, ∀ email, Subscribed db₀ g.id email → email ∈ g.users)
    (hsub : ∀ g ∈ db₀.groups.docs, ∀ email ∈ g.users,
      Subscribed db₀ g.id email ∨ g.id = id ∧ S email)
    (hjoined : HasGroup db₀ id → ∀ email, S email → Listed db id email ∧ Subscribed db id email) :
    Symmetric db := by
  intro g hg
  obtain ⟨g₀, hg₀, hid, howner, hmods, hkept, hnew⟩ := hjoining.groups g hg
  have hgroup : g.id = id → HasGroup db₀ id := by
    rintro rfl
    exact (hjoining.hasGroup g.id).1 ⟨g, Collection.findOne_of_mem hg⟩
  refine ⟨⟨?_, fun email he => ?_⟩, fun email => ⟨fun he => ?_, fun hs => ?_⟩⟩
  · rw [howner]
    exact hkept _ (hproper g₀ hg₀).owner
  · rw [hmods] at he
    exact hkept _ ((hproper g₀ hg₀).moderators email he)
  · have hjoins : g.id = id ∧ S email → Subscribed db g.id email := by
      rintro ⟨heq, hS⟩
      rw [heq]
      exact (hjoined (hgroup heq) email hS).2
    rcases hnew email he with he | hS
    · rcases hsub g₀ hg₀ email he with hs | ⟨heq, hS⟩
      · rw [hid]
        exact hjoining.kept g₀.id email hs
      · exact hjoins ⟨hid.trans heq, hS⟩
    · exact hjoins hS
  · rcases hjoining.subscribed g.id email hs with hs | ⟨heq, hS⟩
    · exact hkept _ (hlisted g₀ hg₀ email (hid ▸ hs))
    · have hl := (hjoined (hgroup heq) email hS).1
      exact mem_of_listed hg (heq ▸ hl)

theorem Symmetric.of_joining {S : String → Prop} {db₀ : Db} (h : Symmetric db₀)
    (hjoining : Joining id S db₀ db)
    (hjoined : HasGroup db₀ id → ∀ email, S email → Listed db id email ∧ Subscribed db id email) :
    Symmetric db :=
  hjoining.symmetric (fun g hg => (h g hg).toProper) (fun g hg email => ((h g hg).users email).2)
    (fun g hg email he => .inl (((h g hg).users email).1 he)) hjoined

theorem Symmetric.addMember (h : Symmetric db) (hknown : HasGroup db id → HasUser db email) :
    Symmetric (db.addMember id email) := by
  refine h.of_joining (S := (· = email))
    (((Joining.refl id (· = email) db).pushUser rfl).subscribe rfl) fun hg email' he => ?_
  obtain rfl : email' = email := he
  have hadded := added_addMember db id email'
  exact ⟨(hadded.listed id email').2 (.inr ⟨rfl, hg⟩),
    (hadded.subscribed id email').2 (.inr ⟨rfl, hknown hg⟩)⟩

theorem Symmetric.addGroupUser {r : Except JsError String} (h : Symmetric db)
    (hknown : HasGroup db id → HasUser db email)
    (hrun : (GroupModel.addGroupUser id email).Runs DbOp.exec db r db') : Symmetric db' := by
  obtain ⟨-, rfl⟩ := addGroupUser_of_runs hrun
  exact h.addMember hknown

/-! ### Leaving, and moderators -/

theorem Symmetric.removeGroupUser {r : Except JsError String} (h : Symmetric db)
    (hrun : (GroupModel.removeGroupUser id email).Runs DbOp.exec db r db') : Symmetric db' := by
  obtain ⟨-, ⟨hcan, rfl⟩ | ⟨-, rfl⟩⟩ := removeGroupUser_of_runs hrun
  swap
  · exact h
  have hremoved := removed_removeMember hcan
  intro g hg
  have hsub : ∀ email', Subscribed (db.removeMember id email) g.id email' ↔
      Subscribed db g.id email' ∧ ¬ (g.id = id ∧ email' = email) := by
    intro email'
    rw [hremoved.subscribed, Set.mem_singleton_iff, Prod.mk.injEq]
    refine and_congr_right fun _ => not_congr ⟨And.left, fun hpair => ⟨hpair, ?_⟩⟩
    rw [hpair.1, hpair.2]
    exact hcan
  rcases Collection.mem_update.1 hg with ⟨hmem, hne⟩ | ⟨g₀, hfound, rfl⟩
  · refine ⟨(h g hmem).toProper, fun email' => ?_⟩
    rw [hsub email', (h g hmem).users email']
    exact (and_iff_left fun hpair => hne hpair.1).symm
  · have hg₀ := h g₀ (Collection.mem_of_findOne hfound)
    have hkey : g₀.id = id := Collection.key_of_findOne hfound
    obtain ⟨g', hg', howner⟩ := hcan
    obtain rfl := Option.some.inj (hfound.symm.trans hg')
    have hfilter : ∀ {l : List String} {e : String},
        e ∈ l.filter (· ≠ email) ↔ e ∈ l ∧ e ≠ email := by
      intro l e
      rw [List.mem_filter, decide_eq_true_eq]
    refine ⟨⟨hfilter.2 ⟨hg₀.owner, howner⟩, fun e he => ?_⟩, fun e => ?_⟩
    · obtain ⟨he, hne⟩ := hfilter.1 he
      exact hfilter.2 ⟨hg₀.moderators e he, hne⟩
    · rw [hsub e]
      refine hfilter.trans (and_congr (hg₀.users e) (not_congr ⟨fun he => ⟨hkey, he⟩, And.right⟩))

theorem Symmetric.withGroup (h : Symmetric db) {f : GroupChange}
    (husers : ∀ g, (f.apply g).users = g.users)
    (hproper : ∀ g ∈ db.groups.findOne id, (f.apply g).Proper) : Symmetric (db.withGroup id f) := by
  intro g hg
  rcases Collection.mem_update.1 hg with ⟨hmem, -⟩ | ⟨g₀, hfound, rfl⟩
  · exact ⟨(h g hmem).toProper, (h g hmem).users⟩
  · refine ⟨hproper g₀ hfound, fun e => ?_⟩
    show e ∈ (f.apply g₀).users ↔ Subscribed db (f.apply g₀).id e
    rw [husers, f.id_apply]
    exact (h g₀ (Collection.mem_of_findOne hfound)).users e

theorem Symmetric.addGroupModerator {r : Except JsError (Option (Group × Group))}
    (h : Symmetric db) (hknown : HasGroup db id → HasUser db email)
    (hrun : (GroupModel.addGroupModerator id email).Runs DbOp.exec db r db') : Symmetric db' := by
  rcases runs_bind.1 (show Prog.Runs DbOp.exec _ db r db' from hrun) with
    ⟨s, t, hadd, hrest⟩ | ⟨e, hadd, -⟩
  swap
  · exact h.addGroupUser hknown hadd
  obtain ⟨-, rfl⟩ := hrest
  have hsym := h.addGroupUser hknown hadd
  obtain ⟨-, rfl⟩ := addGroupUser_of_runs hadd
  refine hsym.withGroup (fun _ => rfl) fun g hg => ?_
  have hproper := (hsym g (Collection.mem_of_findOne hg)).toProper
  have hkey : g.id = id := Collection.key_of_findOne hg
  refine ⟨hproper.owner, fun e he => ?_⟩
  rcases mem_addToSet.1 he with he | rfl
  · exact hproper.moderators e he
  · have hgroup : HasGroup db id := hasGroup_withGroup.1 ⟨g, hg⟩
    have hlisted : Listed (db.addMember id e) g.id e := by
      rw [hkey]
      exact ((added_addMember db id e).listed id e).2 (.inr ⟨rfl, hgroup⟩)
    show e ∈ g.users
    exact mem_of_listed (Collection.mem_of_findOne hg) hlisted

theorem Symmetric.removeGroupModerator {r : Except JsError (Option (Group × Group))}
    (h : Symmetric db)
    (hrun : (GroupModel.removeGroupModerator id email).Runs DbOp.exec db r db') :
    Symmetric db' := by
  obtain ⟨-, rfl⟩ := hrun
  refine h.withGroup (fun _ => rfl) fun g hg => ?_
  have hproper := (h g (Collection.mem_of_findOne hg)).toProper
  exact ⟨hproper.owner, fun e he => hproper.moderators e (List.mem_filter.1 he).1⟩

/-! ### The administrators -/

/-- The callback for one administrator, among others. -/
theorem under_subscribeAdmin {S : String → Prop} {db₀ : Db} (hS : S email)
    (h : Joining id S db₀ db) :
    (subscribeAdmin id email).Under DbOp.exec (joining id S db₀)
      (fun _ => JoinsSubscription id S db₀ email) db := by
  intro t ht
  obtain ⟨ht, -⟩ := ht h
  refine ⟨(joining id S db₀).refl t, ?_⟩
  -- what was loaded is what the user was subscribed to in the beginning, and perhaps the group
  intro t' ht'
  obtain ⟨ht', -⟩ := ht' ht
  set loaded := (((t.users.findOne email).map User.subscribed).getD [] : List String) with hloaded
  have hmem : ∀ id', id' ∈ loaded → Subscribed t id' email := by
    intro id' hid
    rcases Option.eq_none_or_eq_some (t.users.findOne email) with hu | ⟨u, hu⟩
    · rw [hloaded, hu] at hid
      cases hid
    · rw [hloaded, hu] at hid
      exact ⟨u, hu, hid⟩
  have hkept : ∀ id', Subscribed db₀ id' email → id' ∈ loaded := by
    intro id' hs
    obtain ⟨u, hu, hid⟩ := ht.kept id' email hs
    rw [hloaded, hu]
    exact hid
  have hjoining : ∀ {t' : Db}, Joining id S db₀ t' →
      Joining id S db₀ (t'.withUser email (.setSubscribed (loaded ++ [id]))) := by
    intro t' ht'
    refine ht'.withUser hS (fun u hu id' hid => ?_) fun u hu id' hs => ?_
    · rcases List.mem_append.1 hid with hid | hid
      · exact (ht.subscribed id' email (hmem id' hid)).imp_right And.left
      · exact .inr (List.mem_singleton.1 hid)
    · exact List.mem_append_left _ (hkept id' hs)
  have hsub : ∀ {t' : Db}, HasUser t' email →
      Subscribed (t'.withUser email (.setSubscribed (loaded ++ [id]))) id email := by
    intro t' hu
    obtain ⟨u, hu⟩ := hu
    exact subscribed_withUser.2 (.inr ⟨rfl, u, hu,
      List.mem_append_right _ (List.mem_singleton_self id)⟩)
  refine ⟨fun ht' => ⟨hjoining ht', fun _ hl => hl, fun email' hs => ?_⟩, hjoining ht', fun hu =>
    hsub ((ht'.hasUser email).2 hu)⟩
  by_cases he : email' = email
  · subst he
    exact hsub (HasUser.of_subscribed hs)
  · exact subscribed_withUser.2 (.inl ⟨he, hs⟩)

theorem users_of_found {g g₀ : Group} {t : Db} (hg : g ∈ t.groups.findOne id)
    (hg₀ : g₀ ∈ db.groups.docs) (hid : g.id = g₀.id) :
    ((db.groups.findOne id).map Group.users).getD [] = g₀.users := by
  have hkey : g₀.id = id := hid.symm.trans (Collection.key_of_findOne hg)
  have hfound : db.groups.findOne id = some g₀ := hkey ▸ Collection.findOne_of_mem hg₀
  rw [hfound]
  rfl

theorem Joining.setUsers {emails : List String} {t : Db} (ht : Joining id (· ∈ emails) db t) :
    Joining id (· ∈ emails) db (t.withGroup id
      (.setUsers (((db.groups.findOne id).map Group.users).getD [] ++ emails))) := by
  refine ht.withGroup (fun _ => ⟨rfl, rfl⟩) (fun g hg e he => ?_) fun g hg e he => ?_
  all_goals obtain ⟨g₀, hg₀, hid, -, -, hkept, hnew⟩ := ht.groups g (Collection.mem_of_findOne hg)
  · refine List.mem_append.2 ((hnew e he).imp (fun he => ?_) And.right)
    rw [users_of_found hg hg₀ hid]
    exact he
  · rcases List.mem_append.1 he with he | he
    · rw [users_of_found hg hg₀ hid] at he
      exact .inl (hkept e he)
    · exact .inr he

/-- The admins are listed when the users are set, and nobody is lost. -/
theorem under_setUsers (emails : List String) :
    (Db.updateGroup id (.setUsers (((db.groups.findOne id).map Group.users).getD [] ++ emails))).Under
      DbOp.exec (joining id (· ∈ emails) db) (fun _ t => Joining id (· ∈ emails) db t ∧
        (HasGroup db id → ∀ e ∈ emails, Listed t id e)) db := by
  intro t ht
  obtain ⟨ht, -⟩ := ht (Joining.refl id (· ∈ emails) db)
  set users := ((db.groups.findOne id).map Group.users).getD [] with husers
  have hlisted : ∀ {t : Db}, HasGroup t id → ∀ e ∈ users ++ emails,
      Listed (t.withGroup id (.setUsers (users ++ emails))) id e := by
    intro t hg e he
    obtain ⟨g, hg⟩ := hg
    exact listed_withGroup.2 (.inr ⟨rfl, g, hg, he⟩)
  refine ⟨fun ht => ⟨ht.setUsers, fun e hl => ?_, fun _ hs => hs⟩, ht.setUsers, fun hg e he =>
    hlisted ((ht.hasGroup id).2 hg) e (List.mem_append_right _ he)⟩
  obtain ⟨g, hg, he⟩ := hl
  obtain ⟨g₀, hg₀, hid, -, -, -, hnew⟩ := ht.groups g (Collection.mem_of_findOne hg)
  refine hlisted ⟨g, hg⟩ e (List.mem_append.2 ((hnew e he).imp (fun he => ?_) And.right))
  rw [husers, users_of_found hg hg₀ hid]
  exact he

theorem Symmetric.addAdminsToGroup {r : Except JsError (Option (Group × Group))} (h : Symmetric db)
    (hrun : (GroupModel.addAdminsToGroup id).Runs DbOp.exec db r db') : Symmetric db' := by
  unfold GroupModel.addAdminsToGroup getAdmins at hrun
  rw [bind_eq, Db.runs_findUsers, bind_eq, Db.runs_findGroup] at hrun
  set admins := db.users.docs.filter (fun u => decide (u.privilege = .admin)) with hadmins
  set emails := newAdmins admins (db.groups.findOne id) with hemails
  have hknown : ∀ email ∈ emails, HasUser db email := by
    intro email he
    rw [hemails, newAdmins, mem_uniq] at he
    obtain ⟨u, hu, rfl⟩ := List.mem_map.1 (List.mem_filter.1 he).1
    exact ⟨u, Collection.findOne_of_mem (List.mem_filter.1 hu).1⟩
  have hrefl := Joining.refl id (· ∈ emails) db
  set Q : Db → Prop := fun t => Joining id (· ∈ emails) db t ∧
    (HasGroup db id → ∀ e ∈ emails, Listed t id e) with hQ
  have hstable : ∀ s t, (joining id (· ∈ emails) db).may s t → Q s → Q t := by
    intro s t hst hs
    obtain ⟨ht, hl, -⟩ := hst hs.1
    exact ⟨ht, fun hg e he => hl e (hs.2 hg e he)⟩
  have hcallbacks := Under.all (R := joining id (· ∈ emails) db)
    (Q := fun e t => JoinsSubscription id (· ∈ emails) db e t)
    (fun e s t => JoinsSubscription.stable s t) (f := subscribeAdmin id) (l := emails) (s := db)
    fun e he => under_subscribeAdmin he hrefl
  have hrest : ((Db.updateGroup id (.setUsers
      (((db.groups.findOne id).map Group.users).getD [] ++ emails))).bind fun stats =>
        (sendGroupChange (db.groups.findOne id)).bind fun _ => .ret stats).Under DbOp.exec
      (joining id (· ∈ emails) db) (fun _ => Q) db :=
    (under_setUsers emails).bind (fun stats t _ ht => Under.of_ops_stable
      (fun o s => may_of_deviceOnly) hstable
      ((deviceOnly_sendGroupChange _).bind fun _ => ops_ret) ht) fun e t _ ht => ht
  obtain ⟨r', hpar⟩ := runs_discard hrun
  obtain ⟨-, hsubs, hjoining, hlisted⟩ := (Under.par
    (fun s t hst hs e he => (hs e he).stable s t hst) hstable hcallbacks hrest).runs hpar
  exact h.of_joining hjoining fun hg e he => ⟨hlisted hg e he, (hsubs e he).2 (hknown e he)⟩

/-! ### Creation -/

theorem symmetric_insertUser (h : Symmetric db) {user : User} (hsub : user.subscribed = []) :
    Symmetric { db with users := db.users.insert user } := by
  by_cases hkey : key user ∈ db.users.docs.map key
  · rw [Collection.insert_of_mem hkey]
    exact h
  have hnew : db.users.findOne user.email = none := Collection.findOne_eq_none_iff_notMem.2 hkey
  intro g hg
  refine ⟨(h g hg).toProper, fun e => ((h g hg).users e).trans ?_⟩
  unfold Subscribed
  by_cases he : e = user.email
  · subst he
    rw [show (db.users.insert user).findOne user.email = some user from
      Collection.findOne_insert_self hnew, hnew]
    simp [hsub]
  · rw [show (db.users.insert user).findOne e = db.users.findOne e from
      Collection.findOne_insert_ne he]

theorem Symmetric.createUser {env : EnvQuotas} {name : String} {privilege : Option Privilege}
    {r : Except JsError (Option User)} (h : Symmetric db)
    (hrun : (UserModel.createUser env email name privilege).Runs DbOp.exec db r db') :
    Symmetric db' := by
  unfold UserModel.createUser loadUser at hrun
  rw [bind_eq, runs_getRootGroup] at hrun
  cases hroot : rootOf db with
  | none =>
    rw [hroot] at hrun
    exact hrun.2 ▸ h
  | some root =>
    rw [hroot] at hrun
    dsimp only at hrun
    rw [bind_eq, Db.runs_findUser, bind_eq, Db.runs_insertUser] at hrun
    set user := newUserDoc env (db.users.findOne root.owner.email) email name privilege with huser
    have hsym : Symmetric { db with users := db.users.insert user } := symmetric_insertUser h rfl
    split at hrun
    · exact hrun.2 ▸ hsym
    · rename_i hnew
      have hfree : key user ∉ db.users.docs.map key := by simpa using hnew
      have hknown : HasUser { db with users := db.users.insert user } email :=
        ⟨user, Collection.findOne_insert_self (Collection.findOne_eq_none_iff_notMem.2 hfree)⟩
      rcases runs_bind.1 hrun with ⟨s, t, hadd, hrest⟩ | ⟨e, hadd, -⟩
      · obtain ⟨-, rfl⟩ := hrest
        exact hsym.addGroupUser (fun _ => hknown) hadd
      · exact hsym.addGroupUser (fun _ => hknown) hadd

/-- `createGroup` with a new identifier. -/
theorem createGroup_of_runs {data : GroupData} {users : List String} {r : Except JsError Group}
    (hfree : db.groups.findOne id = none)
    (hrun : (createGroup id data users).Runs DbOp.exec db r db') :
    r = .ok (data.toGroup id users) ∧
      db' = { db with groups := db.groups.insert (data.toGroup id users) } := by
  unfold createGroup getGroup at hrun
  rw [bind_eq, Db.runs_insertGroup] at hrun
  have hkey : key (data.toGroup id users) ∉ db.groups.docs.map key :=
    Collection.findOne_eq_none_iff_notMem.1 hfree
  rw [decide_eq_true hkey, Bool.not_true, if_neg (by decide), bind_eq, Db.runs_findGroup] at hrun
  have hfound : (db.groups.insert (data.toGroup id users)).findOne id =
      some (data.toGroup id users) := Collection.findOne_insert_self hfree
  simp only [DbOp.exec, CollOp.exec, hfound] at hrun
  exact hrun

/-- The owner of a new group and the owner of the root group join it. -/
theorem symmetric_newGroup {data : GroupData} {root : Group}
    {r : Except JsError (String × String)} (h : Symmetric db)
    (hfree : db.groups.findOne id = none) (hnew : ∀ email, ¬ Subscribed db id email)
    (howner : HasUser db data.owner.email) (hroot : HasUser db root.owner.email)
    (hrun : (Prog.par (GroupModel.addGroupUser id data.owner.email)
      (GroupModel.addGroupUser id root.owner.email)).Runs DbOp.exec
        { db with groups := db.groups.insert (data.toGroup id [root.owner.email]) } r db') :
    Symmetric db' := by
  set group := data.toGroup id [root.owner.email] with hgroup
  set db₀ : Db := { db with groups := db.groups.insert group } with hdb₀
  set S : String → Prop := fun email => email = data.owner.email ∨ email = root.owner.email with hS
  have hdocs : db₀.groups.docs = db.groups.docs ++ [group] :=
    Collection.docs_insert (Collection.findOne_eq_none_iff_notMem.1 hfree)
  have husers : ∀ email, email ∈ group.users ↔ S email := by
    intro email
    show email ∈ union [root.owner.email] [data.owner.email] ↔ _
    rw [mem_union, List.mem_singleton, List.mem_singleton, or_comm]
  have hrefl := Joining.refl id S db₀
  -- the two calls run at once, and each keeps what the other relies on
  obtain ⟨-, ⟨hl, hs⟩, hl', hs'⟩ := (Under.par
    (fun s t hst hs => ⟨hs.1.stable s t hst, hs.2.stable s t hst⟩)
    (fun s t hst hs => ⟨hs.1.stable s t hst, hs.2.stable s t hst⟩)
    (under_addGroupUser (.inl rfl) hrefl) (under_addGroupUser (.inr rfl) hrefl)).runs hrun
  -- only the new group lists users that are not subscribed yet
  have hcases : ∀ g ∈ db₀.groups.docs, g ∈ db.groups.docs ∧ g.Symmetric db ∨ g = group := by
    intro g hg
    rw [hdocs] at hg
    exact (List.mem_append.1 hg).imp (fun hg => ⟨hg, h g hg⟩) List.mem_singleton.1
  refine hl.1.symmetric (fun g hg => ?_) (fun g hg email hsub => ?_) (fun g hg email he => ?_)
    fun hg email hS => ?_
  · rcases hcases g hg with ⟨-, hsym⟩ | rfl
    · exact hsym.toProper
    · exact ⟨(husers _).2 (.inl rfl), fun email he => by cases he⟩
  · rcases hcases g hg with ⟨-, hsym⟩ | rfl
    · exact (hsym.users email).2 hsub
    · exact absurd hsub (hnew email)
  · rcases hcases g hg with ⟨-, hsym⟩ | rfl
    · exact .inl ((hsym.users email).1 he)
    · exact .inr ⟨rfl, (husers email).1 he⟩
  · rcases hS with rfl | rfl
    · exact ⟨hl.2 hg, hs.2 howner⟩
    · exact ⟨hl'.2 hg, hs'.2 hroot⟩

theorem Symmetric.createUserGroup {data : GroupData} {r : Except JsError (Option Group)}
    (h : Symmetric db) (hnew : ¬ HasGroup db id ∧ ∀ email, ¬ Subscribed db id email)
    (hrun : (GroupModel.createUserGroup id data).Runs DbOp.exec db r db') : Symmetric db' := by
  unfold GroupModel.createUserGroup at hrun
  rw [bind_eq, runs_reserveUserGroupInstance] at hrun
  set db₁ := (DbOp.exec (.users (.update data.owner.email .reserveNumber)) db).2 with hdb₁
  have hsame : SameMembers (fun _ => False) db db₁ :=
    DbOp.KeepsMembers.same (.users (.update data.owner.email .reserveNumber)) db
      fun _ _ _ => Iff.rfl
  have hsym := h.same hsame
  split at hrun
  · exact hrun.2 ▸ hsym
  rename_i hstats
  -- the reservation counts the owner, so there is one
  have howner : HasUser db₁ data.owner.email := by
    rw [hsame.users]
    rcases Option.eq_none_or_eq_some (db.users.findOne data.owner.email) with hu | hu
    · rw [hu] at hstats
      exact absurd rfl hstats
    · exact hu
  rw [bind_eq, runs_getRootGroup] at hrun
  cases hroot : rootOf db₁ with
  | none =>
    rw [hroot] at hrun
    exact hrun.2 ▸ hsym
  | some root =>
    rw [hroot] at hrun
    -- the root group lists its owner, who therefore has subscriptions
    have hrootOwner : HasUser db₁ root.owner.email := by
      have hproper := hsym root (mem_of_rootOf hroot)
      exact HasUser.of_subscribed ((hproper.users _).1 hproper.owner)
    have hfree : db₁.groups.findOne id = none := by
      rw [hsame.groups]
      exact Option.eq_none_iff_forall_ne_some.2 fun g hg => hnew.1 ⟨g, hg⟩
    have hfresh : ∀ email, ¬ Subscribed db₁ id email := by
      intro email
      rw [hsame.subscribed id not_false email]
      exact hnew.2 email
    rcases runs_bind.1 hrun with ⟨group, t, hcreate, hrest⟩ | ⟨e, hcreate, -⟩
    · obtain ⟨hgroup, rfl⟩ := createGroup_of_runs hfree hcreate
      obtain rfl := Except.ok.inj hgroup
      rcases runs_bind.1 hrest with ⟨results, t, hpar, hget⟩ | ⟨e, hpar, -⟩
      · obtain ⟨-, rfl⟩ := hget
        exact symmetric_newGroup hsym hfree hfresh howner hrootOwner hpar
      · exact symmetric_newGroup hsym hfree hfresh howner hrootOwner hpar
    · cases (createGroup_of_runs hfree hcreate).1

/-! ### Deletion -/

/-- What `deleteUserGroup` does to memberships: nothing, or the group is gone and its users are
unsubscribed. -/
inductive DeleteOutcome (db db' : Db) (id : String) : Prop
  | missing (hfound : db.groups.findOne id = none) (hsame : db' = db) : DeleteOutcome db db' id
  | forbidden {g : Group} (hfound : db.groups.findOne id = some g) (hroot : g.privilege = .root)
    (hsame : db' = db) : DeleteOutcome db db' id
  | deleted (hsame : SameMembers (· = id) { db with groups := db.groups.delete id } db') :
    DeleteOutcome db db' id

theorem deleteOutcome_of_runs {r : Except JsError Deletion}
    (hrun : (GroupModel.deleteUserGroup id).Runs DbOp.exec db r db') : DeleteOutcome db db' id := by
  unfold GroupModel.deleteUserGroup getGroup at hrun
  rw [bind_eq, Db.runs_findGroup] at hrun
  rcases Option.eq_none_or_eq_some (db.groups.findOne id) with hg | ⟨g, hg⟩
  · rw [hg, Option.any_none, if_neg (by decide), bind_eq, Db.runs_deleteGroup] at hrun
    obtain ⟨-, rfl⟩ := hrun
    exact .missing hg (by simp only [DbOp.exec, CollOp.exec, Collection.delete_of_findOne_none hg])
  rw [hg, Option.any_some] at hrun
  by_cases hroot : g.privilege = .root
  · rw [if_pos (decide_eq_true hroot)] at hrun
    exact .forbidden hg hroot hrun.2
  rw [if_neg (by simpa using hroot), bind_eq, Db.runs_deleteGroup] at hrun
  dsimp only at hrun
  have hkey : g.id = id := Collection.key_of_findOne hg
  have hops : (releaseGroup g).Ops (DbOp.KeepsMembers (· = id)) := by
    refine ops_releaseGroup (fun _ ho => ho.1.keepsMembers) (fun email id' hid u => ?_)
      (fun _ _ _ => Iff.rfl) fun _ _ _ => Iff.rfl
    show id' ∈ u.subscribed.filter (· ≠ g.id) ↔ _
    rw [List.mem_filter, decide_eq_true_eq, hkey]
    exact and_iff_left hid
  have hkeeps : ∀ {r t}, (releaseGroup g).Runs DbOp.exec
      (DbOp.exec (.groups (.delete id)) db).2 r t → DeleteOutcome db t id := fun hrel =>
    .deleted (Prog.Runs.rel (sameMembers (· = id)).refl (sameMembers (· = id)).trans
      DbOp.KeepsMembers.same hops hrel)
  obtain ⟨r', hrel⟩ := runs_discard hrun
  exact hkeeps hrel

theorem Symmetric.of_delete (h : Symmetric db)
    (hsame : SameMembers (· = id) { db with groups := db.groups.delete id } db') :
    Symmetric db' := by
  intro g hg
  rw [hsame.groups] at hg
  obtain ⟨hmem, hne⟩ := Collection.mem_delete.1 hg
  refine ⟨(h g hmem).toProper, fun email => ?_⟩
  rw [hsame.subscribed g.id hne email]
  exact (h g hmem).users email

theorem DeleteOutcome.symmetric (h : DeleteOutcome db db' id) (hsym : Symmetric db) :
    Symmetric db' := by
  cases h with
  | missing hfound hsame => exact hsame ▸ hsym
  | forbidden hfound hroot hsame => exact hsame ▸ hsym
  | deleted hsame => exact hsym.of_delete hsame

/-! ### The removal of a user -/

/-- The user `email` is being removed from the groups that listed it in `db₀`; `rest` are still to
come. -/
structure Removing (db₀ : Db) (email : String) (rest : List Group) (db : Db) : Prop where
  symmetric : Symmetric db
  groups : ∀ g ∈ db.groups.docs, ∃ g₀ ∈ db₀.groups.docs, g.id = g₀.id ∧ g.owner = g₀.owner ∧
    g.privilege = g₀.privilege
  rest : ∀ g ∈ db.groups.docs, email ∈ g.users → ∃ g₀ ∈ rest, g₀.id = g.id

variable {db₀ : Db} {g : Group} {rest : List Group}

theorem Removing.done (h : Removing db₀ email (g :: rest) db) (hsym : Symmetric db')
    (hdocs : ∀ g' ∈ db'.groups.docs, ∃ g ∈ db.groups.docs, g'.id = g.id ∧ g'.owner = g.owner ∧
      g'.privilege = g.privilege ∧ (email ∈ g'.users → email ∈ g.users))
    (hdone : ∀ g' ∈ db'.groups.docs, g'.id = g.id → email ∉ g'.users) :
    Removing db₀ email rest db' where
  symmetric := hsym
  groups g' hg' := by
    obtain ⟨g₁, hg₁, hid, howner, hprivilege, -⟩ := hdocs g' hg'
    obtain ⟨g₀, hg₀, hid', howner', hprivilege'⟩ := h.groups g₁ hg₁
    exact ⟨g₀, hg₀, hid.trans hid', howner.trans howner', hprivilege.trans hprivilege'⟩
  rest g' hg' he := by
    obtain ⟨g₁, hg₁, hid, -, -, husers⟩ := hdocs g' hg'
    obtain ⟨g₀, hg₀, hid'⟩ := h.rest g₁ hg₁ (husers he)
    rcases List.mem_cons.1 hg₀ with rfl | hg₀
    · exact absurd he (hdone g' hg' (hid.trans hid'.symm))
    · exact ⟨g₀, hg₀, hid'.trans hid.symm⟩

/-- One turn of the loop. -/
theorem Removing.removeGroupUser (h : Removing db₀ email (g :: rest) db)
    (hg : g ∈ db₀.groups.docs) (hroot : g.privilege = .root → g.owner.email ≠ email)
    {r : Except JsError String}
    (hrun : (users.removeGroupUser email g.owner.email g.id).Runs DbOp.exec db r db') :
    Removing db₀ email rest db' := by
  unfold users.removeGroupUser at hrun
  rw [bind_eq, Db.runs_getUserGroup] at hrun
  rcases Option.eq_none_or_eq_some (db.groups.findOne g.id) with hfound | ⟨g', hfound⟩
  · rw [hfound] at hrun
    obtain ⟨-, rfl⟩ := hrun
    -- the group has gone in the meantime
    refine h.done h.symmetric (fun g' hg' => ⟨g', hg', rfl, rfl, rfl, fun h => h⟩)
      fun g' hg' hid => ?_
    exact absurd hid (Collection.findOne_eq_none.1 hfound g' hg')
  have hmem := Collection.mem_of_findOne hfound
  have hkey : g'.id = g.id := Collection.key_of_findOne hfound
  obtain ⟨g₀, hg₀, hid, howner, hprivilege⟩ := h.groups g' hmem
  obtain rfl := Collection.eq_of_key_eq hg₀ hg (hid.symm.trans hkey)
  have hmember : Group.isMember g₀.owner.email g' = true := by
    simp [Group.isMember, howner]
  rw [hfound, Option.filter_some_pos hmember] at hrun
  dsimp only at hrun
  split at hrun
  · -- the user's own group is deleted
    rename_i hown
    have hdelete : ∃ r t, (GroupModel.deleteUserGroup g₀.id).Runs DbOp.exec db r t ∧ db' = t := by
      rcases runs_bind.1 hrun with ⟨d, t, hdelete, hrest⟩ | ⟨e, hdelete, -⟩
      · refine ⟨_, t, hdelete, ?_⟩
        cases d <;> exact hrest.2
      · exact ⟨_, _, hdelete, rfl⟩
    obtain ⟨r', t, hdelete, rfl⟩ := hdelete
    have houtcome := deleteOutcome_of_runs hdelete
    have hsym := houtcome.symmetric h.symmetric
    cases houtcome with
    | missing hnone _ => cases hnone.symm.trans hfound
    | forbidden hfound' hroot' _ =>
      obtain rfl := Option.some.inj (hfound.symm.trans hfound')
      exact absurd hown (hroot (hprivilege.symm.trans hroot'))
    | deleted hsame =>
      refine h.done hsym (fun g₁ hg₁ => ?_) fun g₁ hg₁ hid' => ?_
      all_goals
        rw [hsame.groups] at hg₁
        obtain ⟨hmem₁, hne⟩ := Collection.mem_delete.1 hg₁
      · exact ⟨g₁, hmem₁, rfl, rfl, rfl, fun h => h⟩
      · exact absurd hid' hne
  · -- the user leaves a group of somebody else
    rename_i hother
    have hcan : CanRemove db g₀.id email := ⟨g', hfound, by rw [howner]; exact hother⟩
    have hsym := h.symmetric.removeGroupUser hrun
    obtain ⟨-, ⟨-, rfl⟩ | ⟨hcannot, -⟩⟩ := removeGroupUser_of_runs hrun
    · have hpulled : ∀ g₁ ∈ (db.removeMember g₀.id email).groups.docs,
          g₁ ∈ db.groups.docs ∧ g₁.id ≠ g₀.id ∨
            ∃ g₂ ∈ db.groups.docs, g₁ = (GroupChange.pullUser email).apply g₂ := by
        intro g₁ hg₁
        rcases Collection.mem_update.1 hg₁ with hmem₁ | ⟨g₂, hfound₂, rfl⟩
        · exact .inl hmem₁
        · exact .inr ⟨g₂, Collection.mem_of_findOne hfound₂, rfl⟩
      refine h.done hsym (fun g₁ hg₁ => ?_) fun g₁ hg₁ hid' => ?_
      · rcases hpulled g₁ hg₁ with ⟨hmem₁, -⟩ | ⟨g₂, hmem₂, rfl⟩
        · exact ⟨g₁, hmem₁, rfl, rfl, rfl, fun h => h⟩
        · exact ⟨g₂, hmem₂, rfl, rfl, rfl, fun he => (List.mem_filter.1 he).1⟩
      · rcases hpulled g₁ hg₁ with ⟨-, hne⟩ | ⟨g₂, -, rfl⟩
        · exact absurd hid' hne
        · exact fun he => of_decide_eq_true (List.mem_filter.1 he).2 rfl
    · exact absurd hcan hcannot

/-- The whole loop: the two sides agree throughout, and in the end no group lists the user. -/
theorem Removing.each {groups : List Group} (h : Removing db₀ email groups db)
    (hgroups : ∀ g ∈ groups, g ∈ db₀.groups.docs)
    (hroot : ∀ g ∈ groups, g.privilege = .root → g.owner.email ≠ email)
    {r : Except JsError (List String)}
    (hrun : (Prog.each (fun group => users.removeGroupUser email group.owner.email group.id)
      groups).Runs DbOp.exec db r db') :
    Symmetric db' ∧ ∀ as, r = .ok as → Removing db₀ email [] db' := by
  induction groups generalizing db db' r with
  | nil =>
    obtain ⟨rfl, rfl⟩ := hrun
    exact ⟨h.symmetric, fun _ _ => h⟩
  | cons g groups ih =>
    have hg := hgroups g List.mem_cons_self
    have hnext : ∀ {r t}, (users.removeGroupUser email g.owner.email g.id).Runs DbOp.exec db r t →
        Removing db₀ email groups t := fun hone =>
      h.removeGroupUser hg (hroot g List.mem_cons_self) hone
    rcases runs_bind.1 hrun with ⟨a, t, hone, hrest⟩ | ⟨e, hone, rfl⟩
    · have hmem : ∀ g' ∈ groups, g' ∈ db₀.groups.docs :=
        fun g' hg' => hgroups g' (List.mem_cons_of_mem _ hg')
      have hroots : ∀ g' ∈ groups, g'.privilege = .root → g'.owner.email ≠ email :=
        fun g' hg' => hroot g' (List.mem_cons_of_mem _ hg')
      rcases runs_bind.1 hrest with ⟨as, t', hall, hret⟩ | ⟨e, hall, rfl⟩
      · obtain ⟨-, rfl⟩ := hret
        obtain ⟨hsym, hdone⟩ := ih (hnext hone) hmem hroots hall
        exact ⟨hsym, fun _ _ => hdone as rfl⟩
      · exact ⟨(ih (hnext hone) hmem hroots hall).1, fun _ has => by cases has⟩
    · exact ⟨(hnext hone).symmetric, fun _ has => by cases has⟩

/-- The user is deleted when no group lists it any more. -/
theorem Removing.deleteUser (h : Removing db₀ email [] db) :
    Symmetric { db with users := db.users.delete email } := by
  intro g hg
  have hnot : email ∉ g.users := fun he => by
    obtain ⟨g₀, hg₀, -⟩ := h.rest g hg he
    cases hg₀
  refine ⟨(h.symmetric g hg).toProper, fun e => ?_⟩
  by_cases he : e = email
  · subst he
    refine iff_of_false hnot ?_
    rintro ⟨u, hu, -⟩
    rw [show (db.users.delete e).findOne e = none from Collection.findOne_delete_self _ _] at hu
    cases hu
  · rw [(h.symmetric g hg).users e]
    unfold Subscribed
    rw [show (db.users.delete email).findOne e = db.users.findOne e from
      Collection.findOne_delete_ne he]

theorem Symmetric.removeUser {requester : String} {groupOwnerState : Option Bool}
    {r : Except JsError users.Removal} (h : Symmetric db)
    (hknown : Known db (.removeUser requester groupOwnerState email))
    (hrun : (users.removeUser requester groupOwnerState email).Runs DbOp.exec db r db') :
    Symmetric db' := by
  unfold users.removeUser loadUser at hrun
  rw [bind_eq, Db.runs_findUser] at hrun
  rcases Option.eq_none_or_eq_some (db.users.findOne email) with hu | ⟨u, hu⟩
  · rw [hu] at hrun
    exact hrun.2 ▸ h
  rw [hu] at hrun
  dsimp only at hrun
  split at hrun
  · exact hrun.2 ▸ h
  -- nothing happens when users remove themselves
  rename_i hrequester
  rw [bind_eq, runs_lockUser hu] at hrun
  set db₁ := (DbOp.exec (.users (.update email (.setLock true))) db).2 with hdb₁
  have hsym : Symmetric db₁ := h.same (DbOp.KeepsMembers.same
    (.users (.update email (.setLock true))) db fun _ _ _ => Iff.rfl)
  split at hrun
  · exact hrun.2 ▸ hsym
  -- nor when the user is locked already
  rename_i hstats
  have hlock : u.lock = false := by
    by_contra hlock
    exact hstats (by simp [lockStats, hlock])
  have hkey : u.email = email := Collection.key_of_findOne hu
  simp only [lockStats] at hrun
  rw [show GroupModel.getGroupsByUser ((UserChange.setLock true).apply u).email =
    Db.findGroups fun g => email ∈ g.users by rw [← hkey]; rfl, bind_eq, Db.runs_findGroups] at hrun
  split at hrun
  · rename_i howner
    have hroot := hknown ⟨hrequester, ⟨u, hu, hlock⟩, howner⟩
    -- all groups that list the user are still to be treated
    have hstart : Removing db₁ email (db₁.groups.docs.filter fun g => email ∈ g.users) db₁ :=
      ⟨hsym, fun g hg => ⟨g, hg, rfl, rfl, rfl⟩, fun g hg he =>
        ⟨g, List.mem_filter.2 ⟨hg, decide_eq_true he⟩, rfl⟩⟩
    have hmem : ∀ g ∈ db₁.groups.docs.filter fun g => email ∈ g.users, g ∈ db₁.groups.docs :=
      fun g hg => (List.mem_filter.1 hg).1
    have hroots : ∀ g ∈ db₁.groups.docs.filter fun g => email ∈ g.users,
        g.privilege = .root → g.owner.email ≠ email := fun g hg => hroot g (hmem g hg)
    rcases runs_bind.1 hrun with ⟨as, t, hall, hrest⟩ | ⟨e, hall, -⟩
    · have hdone := (hstart.each hmem hroots hall).2 as rfl
      unfold users.deleteUserInDatabase UserModel.deleteUser at hrest
      rw [bind_eq, bind_eq, Prog.bind_assoc, Db.runs_deleteUser] at hrest
      rcases Option.eq_none_or_eq_some (t.users.findOne email) with hu' | ⟨u', hu'⟩
      · rw [hu'] at hrest
        exact hrest.2 ▸ hdone.deleteUser
      · rw [hu'] at hrest
        exact hrest.2 ▸ hdone.deleteUser
    · exact (hstart.each hmem hroots hall).1
  · exact hrun.2 ▸ hsym

/-! ### The runs -/

/-- One operation. -/
theorem MemberEvent.symmetric {event : MemberEvent} (h : Symmetric db) (hvalid : event.Valid db)
    (hknown : Known db event) (hrun : event.Runs db db') : Symmetric db' := by
  cases event with
  | createUserGroup id data =>
    obtain ⟨r, hrun⟩ := hrun
    exact h.createUserGroup hvalid hrun
  | addGroupUser id email =>
    obtain ⟨r, hrun⟩ := hrun
    exact h.addGroupUser hknown hrun
  | removeGroupUser id email =>
    obtain ⟨r, hrun⟩ := hrun
    exact h.removeGroupUser hrun
  | addAdminsToGroup id =>
    obtain ⟨r, hrun⟩ := hrun
    exact h.addAdminsToGroup hrun
  | addGroupModerator id email =>
    obtain ⟨r, hrun⟩ := hrun
    exact h.addGroupModerator hknown hrun
  | removeGroupModerator id email =>
    obtain ⟨r, hrun⟩ := hrun
    exact h.removeGroupModerator hrun
  | deleteUserGroup id =>
    obtain ⟨r, hrun⟩ := hrun
    exact (deleteOutcome_of_runs hrun).symmetric h
  | createUser env email name privilege =>
    obtain ⟨r, hrun⟩ := hrun
    exact h.createUser hrun
  | removeUser requester groupOwnerState email =>
    obtain ⟨r, hrun⟩ := hrun
    exact h.removeUser hknown hrun

/-- **The two sides of memberships agree** in every state of a run in which the users who are made
members exist and the owner of the root group is not deleted. -/
theorem symmetric_of_run {events : List MemberEvent} (h : Symmetric db)
    (hrun : (memberSystem.restrict Known).Run db events db') : Symmetric db' :=
  hrun.invariant_of_restrict h fun _ _ _ hsym hknown ⟨hvalid, hrun⟩ =>
    MemberEvent.symmetric hsym hvalid hknown hrun

/-! ### A user who does not exist -/

/-- The root group with its administrator, and a user of no group. -/
def membersDb : Db where
  users := .ofDocs [{ Sample.user "admin@devicehub" ⟨5, 1000⟩ ⟨0, 0⟩ with
    privilege := .admin, subscribed := ["root"] }, Sample.user "u@example" ⟨5, 1000⟩ ⟨0, 0⟩]
  groups := .ofDocs [Sample.root]
  devices := .empty

theorem symmetric_membersDb : Symmetric membersDb := by
  intro g hg
  obtain rfl := List.mem_singleton.1 hg
  refine ⟨⟨by decide, fun e he => absurd he List.not_mem_nil⟩, fun e => ?_⟩
  by_cases hadmin : e = "admin@devicehub"
  · subst hadmin
    decide +kernel
  refine iff_of_false (fun he => hadmin (List.mem_singleton.1 he)) ?_
  rintro ⟨u, hu, hs⟩
  rcases List.mem_cons.1 (Collection.mem_of_findOne hu) with rfl | hu'
  · exact hadmin (Collection.key_of_findOne hu).symm
  · obtain rfl := List.mem_singleton.1 hu'
    exact absurd hs (by decide)

/-- A user joins the root group, another one is created, and the first one is removed. -/
theorem symmetric_of_run_members : ∃ db, Symmetric db ∧ db.users.docs.length = 2 ∧
    (memberSystem.restrict Known).Run membersDb [.addGroupUser "root" "u@example",
      .createUser ⟨5, 1000, 10⟩ "new@example" "new" none,
      .removeUser "admin@devicehub" none "u@example"] db := by
  have hrun : (memberSystem.restrict Known).Run membersDb [.addGroupUser "root" "u@example",
      .createUser ⟨5, 1000, 10⟩ "new@example" "new" none,
      .removeUser "admin@devicehub" none "u@example"] _ :=
    .more ⟨⟨trivial, ⟨_, runs_eval _ _ _⟩⟩, fun _ => by decide +kernel⟩
      (.more ⟨⟨trivial, ⟨_, runs_eval _ _ _⟩⟩, trivial⟩
        (.more ⟨⟨trivial, ⟨_, runs_eval _ _ _⟩⟩, fun _ => by decide +kernel⟩ (.done _)))
  exact ⟨_, symmetric_of_run symmetric_membersDb hrun, by decide +kernel, hrun⟩

/-- A user who does not exist is made a member of a group: the group lists it, and nobody is
subscribed. -/
theorem not_symmetric_of_unknown : ∃ db, Symmetric membersDb ∧
    memberSystem.Run membersDb [.addGroupUser "root" "nobody@example"] db ∧
      Listed db "root" "nobody@example" ∧ ¬ HasUser db "nobody@example" ∧ ¬ Symmetric db := by
  have hrun : memberSystem.Run membersDb [.addGroupUser "root" "nobody@example"] _ :=
    .more ⟨trivial, ⟨_, runs_eval _ _ _⟩⟩ (.done _)
  refine ⟨_, symmetric_membersDb, hrun, by decide +kernel, by decide +kernel, fun hsym => ?_⟩
  have hsub := ((hsym ((GroupChange.pushUser "nobody@example").apply Sample.root)
    (by decide +kernel)).users "nobody@example").1 (by decide)
  revert hsub
  decide +kernel

end DeviceHub

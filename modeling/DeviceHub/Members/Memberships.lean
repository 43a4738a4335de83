import DeviceHub.Db.Outcomes
import DeviceHub.Async.Rely
import Mathlib.Data.Set.Insert

/-!
# Memberships

A membership is stored twice: the group lists the user, and the user is subscribed to the group.

## Main definitions

* `Listed`, `Subscribed` : the two sides.
* `Joining` : users have become members of a group; `joining` is the relation between databases that
  programs rely on while others make users members.

## Main results

* `addGroupUser_of_runs`, `removeGroupUser_of_runs` : what the two functions do when they run alone.
* `under_addGroupUser` : what `addGroupUser` does among others that add users to the same group.
-/

namespace DeviceHub

open Prog apiutil lodash GroupModel UserModel AllModel

/-- A group with this number is stored. -/
def HasGroup (db : Db) (id : String) : Prop := ∃ g, db.groups.findOne id = some g

/-- A user with this email is stored. -/
def HasUser (db : Db) (email : String) : Prop := ∃ u, db.users.findOne email = some u

/-- The group lists the user. -/
def Listed (db : Db) (id email : String) : Prop := ∃ g ∈ db.groups.findOne id, email ∈ g.users

/-- The user is subscribed to the group. -/
def Subscribed (db : Db) (id email : String) : Prop :=
  ∃ u ∈ db.users.findOne email, id ∈ u.subscribed

instance (db : Db) (id : String) : Decidable (HasGroup db id) :=
  decidable_of_iff ((db.groups.findOne id).isSome = true) Option.isSome_iff_exists

instance (db : Db) (email : String) : Decidable (HasUser db email) :=
  decidable_of_iff ((db.users.findOne email).isSome = true) Option.isSome_iff_exists

instance (db : Db) (id email : String) : Decidable (Listed db id email) :=
  decidable_of_iff ((db.groups.findOne id).any (email ∈ ·.users) = true) (by
    simp [Listed, Option.any_eq_true])

instance (db : Db) (id email : String) : Decidable (Subscribed db id email) :=
  decidable_of_iff ((db.users.findOne email).any (id ∈ ·.subscribed) = true) (by
    simp [Subscribed, Option.any_eq_true])

/-- The owner and the moderators of the group are among its users. -/
structure Group.Proper (g : Group) : Prop where
  owner : g.owner.email ∈ g.users
  moderators : ∀ email ∈ g.moderators, email ∈ g.users

variable {db db' : Db} {id email : String}

theorem HasUser.of_subscribed (h : Subscribed db id email) : HasUser db email := by
  obtain ⟨u, hu, -⟩ := h
  exact ⟨u, hu⟩

theorem mem_of_listed {g : Group} (hg : g ∈ db.groups.docs) (h : Listed db g.id email) :
    email ∈ g.users := by
  obtain ⟨g', hg', he⟩ := h
  obtain rfl := Collection.eq_of_key_eq (Collection.mem_of_findOne hg') hg
    (Collection.key_of_findOne hg')
  exact he

/-! ### Updates -/

/-- The database after the update of a group. -/
abbrev Db.withGroup (db : Db) (id : String) (f : GroupChange) : Db :=
  { db with groups := db.groups.update id (effect f) }

/-- The database after the update of a user. -/
abbrev Db.withUser (db : Db) (email : String) (f : UserChange) : Db :=
  { db with users := db.users.update email (effect f) }

theorem hasGroup_withGroup {k : String} {f : GroupChange} :
    HasGroup (db.withGroup k f) id ↔ HasGroup db id := by
  unfold HasGroup
  rw [Collection.findOne_update]
  split <;> simp

theorem hasUser_withUser {k : String} {f : UserChange} :
    HasUser (db.withUser k f) email ↔ HasUser db email := by
  unfold HasUser
  rw [Collection.findOne_update]
  split <;> simp

theorem listed_withGroup {k : String} {f : GroupChange} : Listed (db.withGroup k f) id email ↔
    id ≠ k ∧ Listed db id email ∨ id = k ∧ ∃ g ∈ db.groups.findOne k, email ∈ (f.apply g).users :=
  Collection.exists_findOne_update

theorem subscribed_withUser {k : String} {f : UserChange} :
    Subscribed (db.withUser k f) id email ↔ email ≠ k ∧ Subscribed db id email ∨
      email = k ∧ ∃ u ∈ db.users.findOne k, id ∈ (f.apply u).subscribed :=
  Collection.exists_findOne_update

theorem listed_pushUser {k e : String} : Listed (db.withGroup k (.pushUser e)) id email ↔
    Listed db id email ∨ id = k ∧ email = e ∧ HasGroup db k := by
  rw [listed_withGroup]
  unfold Listed HasGroup
  by_cases h : id = k
  · subst h
    cases db.groups.findOne id <;> simp [GroupChange.apply]
  · simp [h]

theorem listed_pullUser {k e : String} : Listed (db.withGroup k (.pullUser e)) id email ↔
    Listed db id email ∧ ¬ (id = k ∧ email = e) := by
  rw [listed_withGroup]
  unfold Listed
  by_cases h : id = k
  · subst h
    cases db.groups.findOne id <;> simp [GroupChange.apply]
  · simp [h]

theorem subscribed_subscribe {k e : String} : Subscribed (db.withUser e (.subscribe k)) id email ↔
    Subscribed db id email ∨ id = k ∧ email = e ∧ HasUser db e := by
  rw [subscribed_withUser]
  unfold Subscribed HasUser
  by_cases h : email = e
  · subst h
    cases db.users.findOne email <;> simp [UserChange.apply]
  · simp [h]

theorem subscribed_unsubscribe {k e : String} :
    Subscribed (db.withUser e (.unsubscribe k)) id email ↔
      Subscribed db id email ∧ ¬ (id = k ∧ email = e) := by
  rw [subscribed_withUser]
  unfold Subscribed
  by_cases h : email = e
  · subst h
    cases db.users.findOne email <;> simp [UserChange.apply, and_comm]
  · simp [h]

/-! ### The functions running alone -/

/-- The user is made a member of the group, as far as the two exist. -/
def Db.addMember (db : Db) (id email : String) : Db :=
  (db.withGroup id (.pushUser email)).withUser email (.subscribe id)

/-- The user is no member of the group any more. -/
def Db.removeMember (db : Db) (id email : String) : Db :=
  (db.withGroup id (.pullUser email)).withUser email (.unsubscribe id)

theorem addGroupUser_of_runs {r : Except JsError String}
    (hrun : (addGroupUser id email).Runs DbOp.exec db r db') :
    (∃ s, r = .ok s) ∧ db' = db.addMember id email := by
  unfold addGroupUser at hrun
  rcases runs_bind.1 hrun with ⟨⟨group, user⟩, t, hpar, hrest⟩ | ⟨e, hpar, -⟩
  · have ht : t = db.addMember id email := by
      rcases hpar with hpar | hpar <;> exact hpar.2
    subst ht
    dsimp only at hrest
    split at hrest
    · obtain ⟨rfl, rfl⟩ := hrest
      exact ⟨⟨_, rfl⟩, rfl⟩
    · obtain ⟨rfl, rfl⟩ := hrest
      exact ⟨⟨_, rfl⟩, rfl⟩
  · rcases hpar with ⟨hpar, -⟩ | ⟨hpar, -⟩ <;> cases hpar

/-- The group exists, and the user does not own it. -/
def CanRemove (db : Db) (id email : String) : Prop :=
  ∃ g ∈ db.groups.findOne id, g.owner.email ≠ email

theorem removeGroupUser_of_runs {r : Except JsError String}
    (hrun : (removeGroupUser id email).Runs DbOp.exec db r db') : (∃ s, r = .ok s) ∧
      (CanRemove db id email ∧ db' = db.removeMember id email ∨
        ¬ CanRemove db id email ∧ db' = db) := by
  unfold removeGroupUser at hrun
  rw [bind_eq, Db.runs_findGroup] at hrun
  rcases Option.eq_none_or_eq_some (db.groups.findOne id) with hg | ⟨g, hg⟩
  · rw [hg] at hrun
    obtain ⟨rfl, rfl⟩ := hrun
    refine ⟨⟨_, rfl⟩, .inr ⟨?_, rfl⟩⟩
    rintro ⟨g, hg', -⟩
    rw [hg] at hg'
    cases hg'
  rw [hg] at hrun
  dsimp only at hrun
  split at hrun
  · rename_i howner
    obtain ⟨rfl, rfl⟩ := hrun
    refine ⟨⟨_, rfl⟩, .inr ⟨?_, rfl⟩⟩
    rintro ⟨g', hg', hne⟩
    obtain rfl := Option.some.inj (hg.symm.trans hg')
    exact hne howner
  rename_i howner
  have hcan : CanRemove db id email := ⟨g, hg, howner⟩
  have hfound : (db.groups.findOne id).map (fun g => (g, (GroupChange.pullUser email).apply g)) =
      some (g, (GroupChange.pullUser email).apply g) := by
    rw [hg]
    rfl
  rcases runs_bind.1 hrun with ⟨⟨group, user⟩, t, hpar, hrest⟩ | ⟨e, hpar, -⟩
  · -- the two writes go to different collections, so their order does not matter
    have ht : t = db.removeMember id email ∧
        group = some (g, (GroupChange.pullUser email).apply g) := by
      rcases hpar with ⟨hpar, rfl⟩ | ⟨hpar, rfl⟩
      all_goals
        obtain ⟨rfl, -⟩ := Prod.mk.inj (Except.ok.inj hpar)
        exact ⟨rfl, hfound⟩
    obtain ⟨rfl, rfl⟩ := ht
    cases user with
    | none =>
      obtain ⟨rfl, rfl⟩ := hrest
      exact ⟨⟨_, rfl⟩, .inl ⟨hcan, rfl⟩⟩
    | some user =>
      obtain ⟨rfl, rfl⟩ := hrest
      exact ⟨⟨_, rfl⟩, .inl ⟨hcan, rfl⟩⟩
  · rcases hpar with ⟨hpar, -⟩ | ⟨hpar, -⟩ <;> cases hpar

/-! ### Pairs that become members, and pairs that cease to be -/

/-- Exactly the pairs in `P` have become members, as far as their groups and users exist. -/
structure Added (P : Set (String × String)) (db db' : Db) : Prop where
  groups : ∀ id, HasGroup db' id ↔ HasGroup db id
  users : ∀ email, HasUser db' email ↔ HasUser db email
  listed : ∀ id email, Listed db' id email ↔
    Listed db id email ∨ (id, email) ∈ P ∧ HasGroup db id
  subscribed : ∀ id email, Subscribed db' id email ↔
    Subscribed db id email ∨ (id, email) ∈ P ∧ HasUser db email

/-- Exactly the pairs in `P` are no members any more, as far as they can be removed. -/
structure Removed (P : Set (String × String)) (db db' : Db) : Prop where
  groups : ∀ id, HasGroup db' id ↔ HasGroup db id
  users : ∀ email, HasUser db' email ↔ HasUser db email
  canRemove : ∀ id email, CanRemove db' id email ↔ CanRemove db id email
  listed : ∀ id email, Listed db' id email ↔
    Listed db id email ∧ ¬ ((id, email) ∈ P ∧ CanRemove db id email)
  subscribed : ∀ id email, Subscribed db' id email ↔
    Subscribed db id email ∧ ¬ ((id, email) ∈ P ∧ CanRemove db id email)

theorem Added.none (db : Db) : Added ∅ db db where
  groups _ := Iff.rfl
  users _ := Iff.rfl
  listed _ _ := by simp
  subscribed _ _ := by simp

theorem Removed.none (db : Db) : Removed ∅ db db where
  groups _ := Iff.rfl
  users _ := Iff.rfl
  canRemove _ _ := Iff.rfl
  listed _ _ := by simp
  subscribed _ _ := by simp

theorem Added.union {P P' : Set (String × String)} {db db' db'' : Db} (h : Added P db db')
    (h' : Added P' db' db'') : Added (P ∪ P') db db'' where
  groups id := (h'.groups id).trans (h.groups id)
  users email := (h'.users email).trans (h.users email)
  listed id email := by
    rw [h'.listed, h.listed, h.groups, Set.mem_union]
    tauto
  subscribed id email := by
    rw [h'.subscribed, h.subscribed, h.users, Set.mem_union]
    tauto

theorem Removed.union {P P' : Set (String × String)} {db db' db'' : Db} (h : Removed P db db')
    (h' : Removed P' db' db'') : Removed (P ∪ P') db db'' where
  groups id := (h'.groups id).trans (h.groups id)
  users email := (h'.users email).trans (h.users email)
  canRemove id email := (h'.canRemove id email).trans (h.canRemove id email)
  listed id email := by
    rw [h'.listed, h.listed, h.canRemove, Set.mem_union]
    tauto
  subscribed id email := by
    rw [h'.subscribed, h.subscribed, h.canRemove, Set.mem_union]
    tauto

theorem added_addMember (db : Db) (id email : String) :
    Added {(id, email)} db (db.addMember id email) where
  groups _ := hasGroup_withGroup
  users _ := hasUser_withUser
  listed id' email' := by
    show Listed (db.withGroup id (.pushUser email)) id' email' ↔ _
    rw [listed_pushUser, Set.mem_singleton_iff, Prod.mk.injEq]
    exact or_congr_right ⟨fun ⟨hid, he, h⟩ => ⟨⟨hid, he⟩, hid ▸ h⟩, fun ⟨⟨hid, he⟩, h⟩ =>
      ⟨hid, he, hid ▸ h⟩⟩
  subscribed id' email' := by
    show Subscribed (db.withUser email (.subscribe id)) id' email' ↔ _
    rw [subscribed_subscribe, Set.mem_singleton_iff, Prod.mk.injEq]
    exact or_congr_right ⟨fun ⟨hid, he, h⟩ => ⟨⟨hid, he⟩, he ▸ h⟩, fun ⟨⟨hid, he⟩, h⟩ =>
      ⟨hid, he, he ▸ h⟩⟩

theorem canRemove_withGroup {k : String} {f : GroupChange} :
    CanRemove (db.withGroup k f) id email ↔ CanRemove db id email := by
  unfold CanRemove
  rw [Collection.findOne_update]
  split <;> simp

theorem removed_removeMember (h : CanRemove db id email) :
    Removed {(id, email)} db (db.removeMember id email) where
  groups _ := hasGroup_withGroup
  users _ := hasUser_withUser
  canRemove _ _ := canRemove_withGroup
  listed id' email' := by
    show Listed (db.withGroup id (.pullUser email)) id' email' ↔ _
    rw [listed_pullUser, Set.mem_singleton_iff, Prod.mk.injEq]
    refine and_congr_right fun _ => not_congr ⟨fun ⟨hid, he⟩ => ⟨⟨hid, he⟩, ?_⟩, And.left⟩
    rw [hid, he]
    exact h
  subscribed id' email' := by
    show Subscribed (db.withUser email (.unsubscribe id)) id' email' ↔ _
    rw [subscribed_unsubscribe, Set.mem_singleton_iff, Prod.mk.injEq]
    refine and_congr_right fun _ => not_congr ⟨fun ⟨hid, he⟩ => ⟨⟨hid, he⟩, ?_⟩, And.left⟩
    rw [hid, he]
    exact h

theorem removed_of_not (h : ¬ CanRemove db id email) : Removed {(id, email)} db db where
  groups _ := Iff.rfl
  users _ := Iff.rfl
  canRemove _ _ := Iff.rfl
  listed id' email' := by
    refine (and_iff_left ?_).symm
    rintro ⟨hpair, hcan⟩
    obtain ⟨rfl, rfl⟩ := Prod.mk.inj (Set.mem_singleton_iff.1 hpair)
    exact h hcan
  subscribed id' email' := by
    refine (and_iff_left ?_).symm
    rintro ⟨hpair, hcan⟩
    obtain ⟨rfl, rfl⟩ := Prod.mk.inj (Set.mem_singleton_iff.1 hpair)
    exact h hcan

theorem removed_of_runs {r : Except JsError String}
    (hrun : (removeGroupUser id email).Runs DbOp.exec db r db') :
    (∃ s, r = .ok s) ∧ Removed {(id, email)} db db' := by
  obtain ⟨hok, ⟨hcan, rfl⟩ | ⟨hcan, rfl⟩⟩ := removeGroupUser_of_runs hrun
  · exact ⟨hok, removed_removeMember hcan⟩
  · exact ⟨hok, removed_of_not hcan⟩

/-! ### Joining among others -/

/-- Compared with `db₀`, users in `S` may have become members of the group `id`; nothing else about
memberships has changed. -/
structure Joining (id : String) (S : String → Prop) (db₀ db : Db) : Prop where
  hasGroup : ∀ id', HasGroup db id' ↔ HasGroup db₀ id'
  hasUser : ∀ email, HasUser db email ↔ HasUser db₀ email
  groups : ∀ g ∈ db.groups.docs, ∃ g₀ ∈ db₀.groups.docs, g.id = g₀.id ∧ g.owner = g₀.owner ∧
    g.moderators = g₀.moderators ∧ (∀ email ∈ g₀.users, email ∈ g.users) ∧
      ∀ email ∈ g.users, email ∈ g₀.users ∨ g.id = id ∧ S email
  subscribed : ∀ id' email, Subscribed db id' email →
    Subscribed db₀ id' email ∨ id' = id ∧ S email
  kept : ∀ id' email, Subscribed db₀ id' email → Subscribed db id' email

variable {S : String → Prop} {db₀ : Db}

theorem Joining.refl (id : String) (S : String → Prop) (db : Db) : Joining id S db db where
  hasGroup _ := Iff.rfl
  hasUser _ := Iff.rfl
  groups g hg := ⟨g, hg, rfl, rfl, rfl, fun _ h => h, fun _ h => .inl h⟩
  subscribed _ _ := .inl
  kept _ _ h := h

/-- An update of the group that adds users in `S`, and none but these. -/
theorem Joining.withGroup (h : Joining id S db₀ db) {f : GroupChange}
    (hsame : ∀ g, (f.apply g).owner = g.owner ∧ (f.apply g).moderators = g.moderators)
    (hmore : ∀ g ∈ db.groups.findOne id, ∀ email ∈ g.users, email ∈ (f.apply g).users)
    (honly : ∀ g ∈ db.groups.findOne id, ∀ email ∈ (f.apply g).users, email ∈ g.users ∨ S email) :
    Joining id S db₀ (db.withGroup id f) where
  hasGroup id' := hasGroup_withGroup.trans (h.hasGroup id')
  hasUser := h.hasUser
  subscribed := h.subscribed
  kept := h.kept
  groups g hg := by
    rcases Collection.mem_update.1 hg with ⟨hg, -⟩ | ⟨g, hfound, rfl⟩
    · exact h.groups g hg
    obtain ⟨g₀, hg₀, hid, howner, hmods, hkept, hnew⟩ :=
      h.groups g (Collection.mem_of_findOne hfound)
    have hkey : g.id = id := Collection.key_of_findOne hfound
    refine ⟨g₀, hg₀, (f.id_apply g).trans hid, (hsame g).1.trans howner, (hsame g).2.trans hmods,
      fun email he => hmore g hfound email (hkept email he), fun email he => ?_⟩
    rcases honly g hfound email he with he | hS
    · rcases hnew email he with he | ⟨-, hS⟩
      · exact .inl he
      · exact .inr ⟨(f.id_apply g).trans hkey, hS⟩
    · exact .inr ⟨(f.id_apply g).trans hkey, hS⟩

/-- An update of a user in `S` that subscribes it to the group. -/
theorem Joining.withUser (h : Joining id S db₀ db) {f : UserChange} (hS : S email)
    (hsub : ∀ u ∈ db.users.findOne email, ∀ id', id' ∈ (f.apply u).subscribed →
      Subscribed db₀ id' email ∨ id' = id)
    (hkept : ∀ u ∈ db.users.findOne email, ∀ id', Subscribed db₀ id' email →
      id' ∈ (f.apply u).subscribed) : Joining id S db₀ (db.withUser email f) where
  hasGroup := h.hasGroup
  hasUser email' := hasUser_withUser.trans (h.hasUser email')
  groups := h.groups
  subscribed id' email' hs := by
    rcases subscribed_withUser.1 hs with ⟨-, hs⟩ | ⟨rfl, u, hu, hs⟩
    · exact h.subscribed id' email' hs
    · exact (hsub u hu id' hs).imp_right fun hid => ⟨hid, hS⟩
  kept id' email' hs := by
    rw [subscribed_withUser]
    by_cases he : email' = email
    · subst he
      obtain ⟨u, hu, -⟩ := h.kept id' email' hs
      exact .inr ⟨rfl, u, hu, hkept u hu id' hs⟩
    · exact .inl ⟨he, h.kept id' email' hs⟩

/-- What programs may do that make users in `S` members of the group. -/
def joining (id : String) (S : String → Prop) (db₀ : Db) : Rely Db where
  may db db' := Joining id S db₀ db → Joining id S db₀ db' ∧
    (∀ email, Listed db id email → Listed db' id email) ∧
      ∀ email, Subscribed db id email → Subscribed db' id email
  refl _ h := ⟨h, fun _ h => h, fun _ h => h⟩
  trans s t u hst htu h := by
    obtain ⟨ht, hl, hs⟩ := hst h
    obtain ⟨hu, hl', hs'⟩ := htu ht
    exact ⟨hu, fun email h => hl' email (hl email h), fun email h => hs' email (hs email h)⟩

theorem Joining.congr (h : Joining id S db₀ db) (husers : db'.users = db.users)
    (hgroups : db'.groups = db.groups) : Joining id S db₀ db' := by
  obtain ⟨users, groups, devices⟩ := db'
  obtain rfl : users = db.users := husers
  obtain rfl : groups = db.groups := hgroups
  exact ⟨h.hasGroup, h.hasUser, h.groups, h.subscribed, h.kept⟩

theorem may_of_deviceOnly {o : DbOp} (ho : o.DeviceOnly) :
    (joining id S db₀).may db (o.exec db).2 := by
  intro h
  refine ⟨h.congr (ho.2.exec db) (ho.1.exec db), fun email hl => ?_, fun email hs => ?_⟩
  · unfold Listed
    rw [ho.1.exec db]
    exact hl
  · unfold Subscribed
    rw [ho.2.exec db]
    exact hs

/-- The user is listed, if the group exists. -/
def JoinsList (id : String) (S : String → Prop) (db₀ : Db) (email : String) (db : Db) : Prop :=
  Joining id S db₀ db ∧ (HasGroup db₀ id → Listed db id email)

/-- The user is subscribed, if it exists. -/
def JoinsSubscription (id : String) (S : String → Prop) (db₀ : Db) (email : String) (db : Db) :
    Prop :=
  Joining id S db₀ db ∧ (HasUser db₀ email → Subscribed db id email)

theorem JoinsList.stable (s t : Db) (hst : (joining id S db₀).may s t)
    (h : JoinsList id S db₀ email s) : JoinsList id S db₀ email t := by
  obtain ⟨ht, hl, -⟩ := hst h.1
  exact ⟨ht, fun hg => hl email (h.2 hg)⟩

theorem JoinsSubscription.stable (s t : Db) (hst : (joining id S db₀).may s t)
    (h : JoinsSubscription id S db₀ email s) : JoinsSubscription id S db₀ email t := by
  obtain ⟨ht, -, hs⟩ := hst h.1
  exact ⟨ht, fun hu => hs email (h.2 hu)⟩

theorem Joining.pushUser (h : Joining id S db₀ db) (hS : S email) :
    Joining id S db₀ (db.withGroup id (.pushUser email)) :=
  h.withGroup (fun _ => ⟨rfl, rfl⟩) (fun _ _ _ he => mem_addToSet.2 (.inl he))
    fun _ _ e he => (mem_addToSet.1 he).imp_right fun (heq : e = email) => heq ▸ hS

theorem Joining.subscribe (h : Joining id S db₀ db) (hS : S email) :
    Joining id S db₀ (db.withUser email (.subscribe id)) := by
  refine h.withUser hS (fun u hu id' hid => ?_) fun u hu id' hs => ?_
  · rcases mem_addToSet.1 hid with hid | rfl
    · exact (h.subscribed id' email ⟨u, hu, hid⟩).imp_right And.left
    · exact .inr rfl
  · obtain ⟨u', hu', hid⟩ := h.kept id' email hs
    obtain rfl := Option.some.inj (hu.symm.trans hu')
    exact mem_addToSet.2 (.inl hid)

/-- The two updates of `addGroupUser`, among others. -/
theorem under_pushUser (hS : S email) (h : Joining id S db₀ db) :
    (Db.updateGroup id (.pushUser email)).Under DbOp.exec (joining id S db₀)
      (fun _ => JoinsList id S db₀ email) db := by
  intro t ht
  obtain ⟨ht, -⟩ := ht h
  refine ⟨fun ht => ⟨ht.pushUser hS, fun _ hl => listed_pushUser.2 (.inl hl), fun _ hs => hs⟩,
    ht.pushUser hS, fun hg => ?_⟩
  exact listed_pushUser.2 (.inr ⟨rfl, rfl, (ht.hasGroup id).2 hg⟩)

theorem under_subscribe (hS : S email) (h : Joining id S db₀ db) :
    (Db.updateUser email (.subscribe id)).Under DbOp.exec (joining id S db₀)
      (fun _ => JoinsSubscription id S db₀ email) db := by
  intro t ht
  obtain ⟨ht, -⟩ := ht h
  refine ⟨fun ht => ⟨ht.subscribe hS, fun _ hl => hl, fun _ hs => subscribed_subscribe.2 (.inl hs)⟩,
    ht.subscribe hS, fun hu => ?_⟩
  exact subscribed_subscribe.2 (.inr ⟨rfl, rfl, (ht.hasUser email).2 hu⟩)

/-- `addGroupUser` makes its user a member, whoever else is made one meanwhile. -/
theorem under_addGroupUser (hS : S email) (h : Joining id S db₀ db) :
    (addGroupUser id email).Under DbOp.exec (joining id S db₀)
      (fun _ t => JoinsList id S db₀ email t ∧ JoinsSubscription id S db₀ email t) db := by
  have hstable : ∀ s t, (joining id S db₀).may s t →
      JoinsList id S db₀ email s ∧ JoinsSubscription id S db₀ email s →
        JoinsList id S db₀ email t ∧ JoinsSubscription id S db₀ email t :=
    fun s t hst hs => ⟨hs.1.stable s t hst, hs.2.stable s t hst⟩
  refine (Under.par JoinsList.stable JoinsSubscription.stable (under_pushUser hS h)
    (under_subscribe hS h)).bind (fun r t _ ht => ?_) fun e t _ ht => ht
  refine Under.of_ops_stable (fun o s => may_of_deviceOnly) hstable ?_ ht
  obtain ⟨group, user⟩ := r
  cases user with
  | none => dsimp only; split <;> trivial
  | some user =>
    refine (deviceOnly_findUser email).bind fun newUser => ?_
    dsimp only
    split <;> trivial

end DeviceHub

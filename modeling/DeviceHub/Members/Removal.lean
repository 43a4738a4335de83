import DeviceHub.Api.Users
import DeviceHub.Db.AccessTokens
import DeviceHub.Db.Devices
import DeviceHub.Db.Sample
import DeviceHub.Members.Memberships

/-!
# What is left of a deleted user

`removeUser` looks for the groups that list the user among their users.  It deletes those that the
user owns, unless it is the root group, and takes the user out of the others.  Then it deletes the
access tokens and the user.  The teams are not looked at.

## Main definitions

* `AccountModel.removeUser` : `removeUser` with the access tokens.
* `Gone` : no group, no team and no access token refers to the user.
* `Group.withoutUser` : what becomes of a group.

## Main results

* `AccountModel.follows_removeUser` : apart from the access tokens it does what `users.removeUser`
  does.
* `AccountModel.gone_iff` : when a deleted user is gone.
* `AccountModel.not_gone_of_team` : a team goes on listing a deleted user.
-/

namespace DeviceHub

open Prog GroupModel UserModel AllModel

namespace AccountModel

/-- The inner `deleteUserInDatabase(channel)`. -/
def deleteUserInDatabase (email : String) : AccountM JsError users.Removal := do
  removeUserAccessTokens email
  let _ ← lift id (UserModel.deleteUser email)
  return .deleted

/-- `users.removeUser`, over the database with the access tokens. -/
def removeUser (requester : String) (groupOwnerState : Option Bool) (email : String) :
    AccountM JsError users.Removal := do
  match ← lift id (loadUser email) with
  | none => return .notFound
  | some _ =>
    if requester = email then return .forbidden
    else
      let stats ← lift id (lockUser email)
      if stats.modifiedCount = 0 then return .notFound
      else match stats.newVal with
      | none => throw .typeError
      | some user =>
        let groups ← lift id (GroupModel.getGroupsByUser user.email)
        if users.computeUserGroupOwnership groupOwnerState email groups then
          let _ ← Prog.each (fun group =>
            lift id (users.removeGroupUser email group.owner.email group.id)) groups
          deleteUserInDatabase email
        else return .unchanged

end AccountModel

/-- Nothing refers to the user any more. -/
structure Gone (s : AccountDb) (email : String) : Prop where
  groups : ∀ g ∈ s.db.groups.docs, g.isMember email = false
  teams : ∀ t ∈ s.teams.docs, email ∉ t.users
  accessTokens : ∀ token ∈ s.accessTokens.docs, token.email ≠ email

/-- The group before the removal is one from which the user can be removed: if the user moderates
or owns it, it lists the user, and the user does not own the root group. -/
def Group.Releases (email : String) (g : Group) : Prop :=
  (email ∈ g.moderators ∨ g.owner.email = email → email ∈ g.users) ∧
    (g.owner.email = email → g.privilege ≠ .root)

instance (email : String) (g : Group) : Decidable (g.Releases email) :=
  inferInstanceAs (Decidable ((_ → _) ∧ (_ → _)))

/-- What becomes of a group. -/
def Group.withoutUser (email : String) (g : Group) : Option Group :=
  if email ∉ g.users then some g
  else if g.owner.email = email then if g.privilege = .root then some g else none
  else some ((GroupChange.pullUser email).apply g)

theorem Group.id_withoutUser {email : String} {g g' : Group} (h : g.withoutUser email = some g') :
    g'.id = g.id := by
  unfold Group.withoutUser at h
  split at h
  · rw [Option.some.inj h]
  split at h
  · split at h
    · rw [Option.some.inj h]
    · cases h
  · rw [← Option.some.inj h, GroupChange.id_apply]

theorem Group.releases_iff {email : String} {g : Group} :
    g.Releases email ↔ ∀ g' ∈ g.withoutUser email, g'.isMember email = false := by
  by_cases hu : email ∈ g.users
  · by_cases ho : g.owner.email = email
    · by_cases hp : g.privilege = .root <;>
        simp [Group.Releases, Group.withoutUser, Group.isMember, hu, ho, hp]
    · simp [Group.Releases, Group.withoutUser, Group.isMember, GroupChange.apply, hu, ho]
  · by_cases ho : g.owner.email = email <;>
      simp [Group.Releases, Group.withoutUser, Group.isMember, hu, ho]

namespace users

variable {db db' : Db} {email : String}

/-- The group is treated; the others are as they were. -/
def treated (ids : List String) (email : String) (g : Group) : Option Group :=
  if g.id ∈ ids then g.withoutUser email else some g

/-- The removal from one group that lists the user. -/
theorem runs_removeGroupUser {g : Group} {r : Except JsError String}
    (hg : db.groups.findOne g.id = some g) (hu : email ∈ g.users)
    (hrun : (removeGroupUser email g.owner.email g.id).Runs DbOp.exec db r db') :
    db'.groups.docs = db.groups.docs.filterMap (treated [g.id] email) := by
  have honly : ∀ x ∈ db.groups.docs, x.id = g.id → x = g := fun x hx hid =>
    Collection.eq_of_key_eq hx (Collection.mem_of_findOne hg) hid
  have hmember : g.isMember g.owner.email = true := by simp [Group.isMember]
  unfold removeGroupUser at hrun
  rw [bind_eq, Db.runs_getUserGroup, hg, Option.filter_some_pos hmember] at hrun
  dsimp only at hrun
  split at hrun
  · rename_i howner
    obtain ⟨r', hdelete⟩ : ∃ r', (deleteUserGroup g.id).Runs DbOp.exec db r' db' := by
      rcases runs_bind.1 hrun with ⟨d, t, hdelete, hret⟩ | ⟨e, hdelete, -⟩
      · cases d <;> exact ⟨_, hret.2 ▸ hdelete⟩
      · exact ⟨_, hdelete⟩
    by_cases hroot : g.privilege = .root
    · -- the root group stays
      unfold deleteUserGroup getGroup at hdelete
      rw [bind_eq, Db.runs_findGroup, hg, Option.any_some, if_pos (by simpa using hroot)]
        at hdelete
      obtain ⟨-, rfl⟩ := hdelete
      have hsame : ∀ x ∈ db'.groups.docs, treated [g.id] email x = some x := by
        intro x hx
        unfold treated
        split
        · rename_i hid
          obtain rfl := honly x hx (List.mem_singleton.1 hid)
          simp [Group.withoutUser, howner, hroot]
        · rfl
      rw [List.filterMap_congr hsame, List.filterMap_some]
    · rw [(runs_deleteUserGroup hg hroot hdelete).1]
      have hdeleted : ∀ x ∈ db.groups.docs,
          treated [g.id] email x = Option.guard (fun x : Group => x.id ≠ g.id) x := by
        intro x hx
        unfold treated
        by_cases hid : x.id = g.id
        · obtain rfl := honly x hx hid
          simp [Group.withoutUser, hu, howner, hroot, Option.guard]
        · simp [hid, Option.guard]
      rw [List.filterMap_congr hdeleted, List.filterMap_eq_filter]
      rfl
  · rename_i howner
    have hcan : CanRemove db g.id email := ⟨g, hg, howner⟩
    obtain ⟨-, ⟨-, rfl⟩ | ⟨hnot, -⟩⟩ := removeGroupUser_of_runs hrun
    · have hpulled : ∀ x ∈ db.groups.docs, treated [g.id] email x =
          some (if x.id = g.id then (GroupChange.pullUser email).apply x else x) := by
        intro x hx
        unfold treated
        by_cases hid : x.id = g.id
        · obtain rfl := honly x hx hid
          simp [Group.withoutUser, hu, howner]
        · simp [hid]
      rw [List.filterMap_congr hpulled]
      simp [Db.removeMember, Collection.update, Collection.updateBy]
    · exact absurd hcan hnot

theorem treated_bind {id : String} {ids : List String} (hid : id ∉ ids) (g : Group) :
    (treated [id] email g).bind (treated ids email) = treated (id :: ids) email g := by
  unfold treated
  by_cases hg : g.id = id
  · subst hg
    cases hleft : g.withoutUser email with
    | none => simp
    | some g' => simp [Group.id_withoutUser hleft, hid]
  · simp [hg]

/-- The removal from one group after the other. -/
theorem runs_removeGroupUsers {l : List Group} {rs : List String} (hnodup : (l.map Group.id).Nodup)
    (hl : ∀ g ∈ l, g ∈ db.groups.docs ∧ email ∈ g.users)
    (hrun : (Prog.each (fun group => removeGroupUser email group.owner.email group.id) l).Runs
      DbOp.exec db (.ok rs) db') :
    db'.groups.docs = db.groups.docs.filterMap (treated (l.map Group.id) email) := by
  induction l generalizing db rs with
  | nil =>
    obtain ⟨-, rfl⟩ := hrun
    have hsame : treated [] email = some := by
      funext g
      simp [treated]
    rw [List.map_nil, hsame, List.filterMap_some]
  | cons g l ih =>
    rw [List.map_cons, List.nodup_cons] at hnodup
    obtain ⟨hmem, hu⟩ := hl g List.mem_cons_self
    rcases runs_bind.1 hrun with ⟨a, t, hhead, hrest⟩ | ⟨e, -, he⟩
    · rcases runs_bind.1 hrest with ⟨as, u, htail, -, rfl⟩ | ⟨e, -, he⟩
      · have ht := runs_removeGroupUser (Collection.findOne_of_mem hmem) hu hhead
        have hkept : ∀ x ∈ l, x ∈ t.groups.docs ∧ email ∈ x.users := by
          intro x hx
          obtain ⟨hxmem, hxu⟩ := hl x (List.mem_cons_of_mem _ hx)
          have hne : x.id ≠ g.id := fun h => hnodup.1 (h ▸ List.mem_map_of_mem hx)
          rw [ht, List.mem_filterMap]
          exact ⟨⟨x, hxmem, by simp [treated, hne]⟩, hxu⟩
        rw [ih hnodup.2 hkept htail, ht, List.filterMap_filterMap]
        exact List.filterMap_congr fun x _ => treated_bind hnodup.1 x
      · cases he
    · cases he

/-- **What becomes of the groups** when a user is deleted. -/
theorem groups_of_removeUser {requester : String} {groupOwnerState : Option Bool}
    (hrun : (removeUser requester groupOwnerState email).Runs DbOp.exec db (.ok .deleted) db') :
    db'.groups.docs = db.groups.docs.filterMap (Group.withoutUser email) := by
  unfold removeUser loadUser at hrun
  rw [bind_eq, Db.runs_findUser] at hrun
  cases hu : db.users.findOne email with
  | none =>
    rw [hu] at hrun
    cases hrun.1
  | some u =>
    rw [hu] at hrun
    dsimp only at hrun
    split at hrun
    · cases hrun.1
    rw [bind_eq, runs_lockUser hu] at hrun
    split at hrun
    · cases hrun.1
    have hemail : ((UserChange.setLock true).apply u).email = email :=
      (UserChange.email_apply _ u).trans (Collection.key_of_findOne hu)
    simp only [lockStats, hemail] at hrun
    unfold getGroupsByUser at hrun
    rw [bind_eq, Db.runs_findGroups] at hrun
    split at hrun
    · rcases runs_bind.1 hrun with ⟨rs, t, heach, hdelete⟩ | ⟨e, -, he⟩
      · have hgroups : db'.groups = t.groups := by
          refine Ops.runs_keepsGroups (p := deleteUserInDatabase email) ?_ hdelete
          refine ⟨trivial, fun user => ?_⟩
          cases user <;> trivial
        -- the lock has changed a user, and no group
        have hlocked : (DbOp.exec (.users (.update email (.setLock true))) db).2.groups =
            db.groups := rfl
        generalize (DbOp.exec (.users (.update email (.setLock true))) db).2 = locked
          at heach hlocked
        rw [hlocked] at heach
        have hl : ∀ g ∈ db.groups.docs.filter (fun g => decide (email ∈ g.users)),
            g ∈ db.groups.docs ∧ email ∈ g.users := fun g hg => by simpa using hg
        have hnodup : ((db.groups.docs.filter fun g => decide (email ∈ g.users)).map
            Group.id).Nodup := db.groups.nodup.sublist (List.filter_sublist.map _)
        rw [hgroups, runs_removeGroupUsers hnodup (hlocked ▸ hl) heach, hlocked]
        refine List.filterMap_congr fun g hg => ?_
        have hids : g.id ∈ (db.groups.docs.filter fun g => decide (email ∈ g.users)).map
            Group.id ↔ email ∈ g.users := by
          rw [List.mem_map]
          constructor
          · rintro ⟨x, hx, hid⟩
            obtain rfl := Collection.eq_of_key_eq (hl x hx).1 hg hid
            exact (hl x hx).2
          · exact fun h => ⟨g, by simpa using ⟨hg, h⟩, rfl⟩
        by_cases hlisted : email ∈ g.users
        · rw [treated, if_pos (hids.2 hlisted)]
        · rw [treated, if_neg (mt hids.1 hlisted), Group.withoutUser, if_pos hlisted]
      · cases he
    · cases hrun.1

end users

namespace AccountModel

variable {s s' : AccountDb} {requester email : String} {groupOwnerState : Option Bool}

/-- A run of the one program is a run of the other one.  The teams are as they were, and a user is
deleted with the access tokens. -/
def Follows (s : AccountDb) (email : String) (p : AccountM JsError users.Removal)
    (q : DbM users.Removal) : Prop :=
  ∀ db r s', p.Runs AccountOp.exec { s with db := db } r s' → q.Runs DbOp.exec db r s'.db ∧
    s'.teams = s.teams ∧ (r = .ok .deleted → s'.accessTokens = s.accessTokens.withoutEmail email)

theorem Follows.ret {removal : users.Removal} (h : removal ≠ .deleted) :
    Follows s email (.ret removal) (.ret removal) := by
  rintro db r s' ⟨rfl, rfl⟩
  exact ⟨⟨rfl, rfl⟩, rfl, fun hr => absurd (Except.ok.inj hr) h⟩

theorem Follows.lift_bind {β : Type} {p : DbM β} {k : β → AccountM JsError users.Removal}
    {k' : β → DbM users.Removal} (h : ∀ b, Follows s email (k b) (k' b)) :
    Follows s email ((lift id p).bind k) (p.bind k') := by
  intro db r s' hrun
  rcases runs_lift_bind.1 hrun with ⟨b, db', hp, hk⟩ | ⟨e, db', hp, rfl, rfl⟩
  · obtain ⟨hk', hrest⟩ := h b db' r s' hk
    exact ⟨runs_bind.2 (.inl ⟨b, db', hp, hk'⟩), hrest⟩
  · exact ⟨runs_bind.2 (.inr ⟨e, hp, rfl⟩), rfl, nofun⟩

theorem Follows.deleteUserInDatabase :
    Follows s email (deleteUserInDatabase email) (users.deleteUserInDatabase email) := by
  intro db r s' hrun
  unfold AccountModel.deleteUserInDatabase at hrun
  rw [bind_eq, runs_removeUserAccessTokens] at hrun
  rcases runs_lift_bind.1 hrun with ⟨n, db', hdelete, rfl, rfl⟩ | ⟨e, db', hdelete, rfl, rfl⟩
  · exact ⟨runs_bind.2 (.inl ⟨n, db', hdelete, rfl, rfl⟩), rfl, fun _ => rfl⟩
  · exact ⟨runs_bind.2 (.inr ⟨e, hdelete, rfl⟩), rfl, nofun⟩

/-- **`removeUser` does what `users.removeUser` does**, apart from the access tokens. -/
theorem follows_removeUser : Follows s email (removeUser requester groupOwnerState email)
    (users.removeUser requester groupOwnerState email) := by
  unfold removeUser users.removeUser
  refine Follows.lift_bind fun user => ?_
  cases user with
  | none => exact .ret nofun
  | some user =>
    dsimp only
    split
    · exact .ret nofun
    refine Follows.lift_bind fun stats => ?_
    split
    · exact .ret nofun
    cases stats.newVal with
    | none =>
      rintro db r s' ⟨rfl, rfl⟩
      exact ⟨⟨rfl, rfl⟩, rfl, nofun⟩
    | some user =>
      refine Follows.lift_bind fun groups => ?_
      split
      · rw [lift_each]
        exact Follows.lift_bind fun _ => .deleteUserInDatabase
      · exact .ret nofun

/-- **A deleted user is gone exactly if every group released the user and no team lists it.** -/
theorem gone_iff
    (hrun : (removeUser requester groupOwnerState email).Runs AccountOp.exec s (.ok .deleted) s') :
    Gone s' email ↔
      (∀ g ∈ s.db.groups.docs, g.Releases email) ∧ ∀ t ∈ s.teams.docs, email ∉ t.users := by
  obtain ⟨hdb, hteams, htokens⟩ := follows_removeUser s.db _ s' hrun
  have hgroups := users.groups_of_removeUser hdb
  constructor
  · intro h
    refine ⟨fun g hg => Group.releases_iff.2 fun g' hg' => h.groups g' ?_, hteams ▸ h.teams⟩
    rw [hgroups, List.mem_filterMap]
    exact ⟨g, hg, hg'⟩
  · rintro ⟨hreleases, hlisted⟩
    refine ⟨fun g' hg' => ?_, hteams ▸ hlisted, fun token htoken => ?_⟩
    · rw [hgroups, List.mem_filterMap] at hg'
      obtain ⟨g, hg, hleft⟩ := hg'
      exact Group.releases_iff.1 (hreleases g hg) g' hleft
    · rw [htokens rfl] at htoken
      simpa using (List.mem_filter.1 htoken).2

/-- A user `u` with a group and an access token, in the root group and in a team. -/
def joined (team : List String) : AccountDb where
  teams := ⟨[⟨"t", "t", [], team⟩], by simp⟩
  db :=
    { users := ⟨[Sample.user "u" ⟨5, 0⟩ ⟨1, 0⟩], by simp⟩
      groups := ⟨[{ Sample.root with users := ["admin@devicehub", "u"] },
        Sample.booking "g" "u" .once 0 [⟨0, 1⟩] 0 []], by simp [Sample.root, Sample.booking]⟩
      devices := .empty }
  accessTokens := ⟨[⟨"id", "u", "title", "jwt"⟩], by simp⟩

theorem gone_of_joined : Gone ((removeUser "admin@devicehub" none "u").eval AccountOp.exec
    (joined [])).2 "u" :=
  (gone_iff (show (removeUser "admin@devicehub" none "u").Runs AccountOp.exec (joined [])
    (.ok .deleted) _ from runs_eval _ _ _)).2 ⟨by decide, by decide⟩

/-- A team goes on listing a deleted user. -/
theorem not_gone_of_team : ∃ s', (removeUser "admin@devicehub" none "u").Runs AccountOp.exec
    (joined ["u"]) (.ok .deleted) s' ∧ ¬ Gone s' "u" := by
  refine ⟨_, runs_eval _ _ _, fun h => ?_⟩
  exact absurd (h.teams ⟨"t", "t", [], ["u"]⟩ (by decide)) (by decide)

end AccountModel

end DeviceHub

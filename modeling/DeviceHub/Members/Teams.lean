import DeviceHub.Db.TeamModel
import DeviceHub.Db.Sample
import DeviceHub.Members.Memberships

/-!
# What a team grants

A team makes its users members of its groups when it is created and when a group or a user is added,
and takes the memberships back when a group or a user is removed.  It does not ask whether another
team grants the same membership.

## Main definitions

* `Team.pairs`, `Granted` : the memberships that a team grants; all of them exist.
* `TeamEvent`, `teamSystem` : the operations on teams, one after the other.
* `Apart` : an operation takes back no membership that another team grants.

## Main results

* `granted_iff` : the memberships exist exactly in the runs in which the teams are kept apart.
* `not_granted_of_overlap` : a team that overlaps another one is deleted.
-/

namespace DeviceHub

open Prog TeamModel

/-- The memberships that a team grants. -/
def Team.pairs (t : Team) : Set (String × String) := {p | p.1 ∈ t.groups ∧ p.2 ∈ t.users}

/-- Every team has made its users members of its groups. -/
def Granted (s : TeamDb) : Prop := ∀ t ∈ s.teams.docs, ∀ group ∈ t.groups, ∀ user ∈ t.users,
  Listed s.db group user ∧ Subscribed s.db group user

/-- The groups and the users of a team exist. -/
structure Team.Exist (db : Db) (t : Team) : Prop where
  groups : ∀ group ∈ t.groups, HasGroup db group
  users : ∀ user ∈ t.users, HasUser db user

/-- The operations. -/
inductive TeamEvent where
  | createTeam (teamId name : String) (groups users : List String)
  | addGroupToTeam (teamId group : String)
  | removeGroupFromTeam (teamId group : String)
  | removeGroupsFromTeam (teamId : String) (groups : List String)
  | addUserToTeam (teamId user : String)
  | removeUserFromTeam (teamId user : String)
  | removeUsersFromTeam (teamId : String) (users : List String)
  | deleteTeam (id : String)

namespace TeamEvent

/-- The function runs to its end, whatever its answer. -/
def Runs (s s' : TeamDb) : TeamEvent → Prop
  | .createTeam teamId name groups users =>
    ∃ r, (TeamModel.createTeam teamId name groups users).Runs TeamOp.exec s r s'
  | .addGroupToTeam teamId group =>
    ∃ r, (TeamModel.addGroupToTeam teamId group).Runs TeamOp.exec s r s'
  | .removeGroupFromTeam teamId group =>
    ∃ r, (TeamModel.removeGroupFromTeam teamId group).Runs TeamOp.exec s r s'
  | .removeGroupsFromTeam teamId groups =>
    ∃ r, (TeamModel.removeGroupsFromTeam teamId groups).Runs TeamOp.exec s r s'
  | .addUserToTeam teamId user =>
    ∃ r, (TeamModel.addUserToTeam teamId user).Runs TeamOp.exec s r s'
  | .removeUserFromTeam teamId user =>
    ∃ r, (TeamModel.removeUserFromTeam teamId user).Runs TeamOp.exec s r s'
  | .removeUsersFromTeam teamId users =>
    ∃ r, (TeamModel.removeUsersFromTeam teamId users).Runs TeamOp.exec s r s'
  | .deleteTeam id => ∃ r, (TeamModel.deleteTeam id).Runs TeamOp.exec s r s'

/-- The groups and the users that are given exist, and a generated identifier is new. -/
def Valid (s : TeamDb) : TeamEvent → Prop
  | .createTeam teamId name groups users =>
    s.teams.findOne teamId = none ∧ Team.Exist s.db ⟨teamId, name, groups, users⟩
  | .addGroupToTeam _ group => HasGroup s.db group
  | .addUserToTeam _ user => HasUser s.db user
  | _ => True

/-- The team. -/
def team : TeamEvent → String
  | .createTeam teamId _ _ _ => teamId
  | .addGroupToTeam teamId _ => teamId
  | .removeGroupFromTeam teamId _ => teamId
  | .removeGroupsFromTeam teamId _ => teamId
  | .addUserToTeam teamId _ => teamId
  | .removeUserFromTeam teamId _ => teamId
  | .removeUsersFromTeam teamId _ => teamId
  | .deleteTeam id => id

/-- The memberships that the operation takes back. -/
def revoked (s : TeamDb) : TeamEvent → Set (String × String)
  | .removeGroupFromTeam teamId group =>
    {p | ∃ t ∈ s.teams.findOne teamId, p.1 = group ∧ p.2 ∈ t.users}
  | .removeGroupsFromTeam teamId groups =>
    {p | ∃ t ∈ s.teams.findOne teamId, p.1 ∈ groups ∧ p.2 ∈ t.users}
  | .removeUserFromTeam teamId user =>
    {p | ∃ t ∈ s.teams.findOne teamId, p.2 = user ∧ p.1 ∈ t.groups}
  | .removeUsersFromTeam teamId users =>
    {p | ∃ t ∈ s.teams.findOne teamId, p.2 ∈ users ∧ p.1 ∈ t.groups}
  | .deleteTeam id => {p | ∃ t ∈ s.teams.findOne id, p ∈ t.pairs}
  | _ => ∅

end TeamEvent

/-- The operations, one after the other. -/
def teamSystem : Lts TeamDb TeamEvent where
  step s event s' := event.Valid s ∧ event.Runs s s'

/-- A membership that is taken back is granted by no other team, unless the user owns the group and
stays a member anyway. -/
def Apart (s : TeamDb) (event : TeamEvent) : Prop :=
  ∀ p ∈ event.revoked s, CanRemove s.db p.1 p.2 →
    ∀ t ∈ s.teams.docs, t.id ≠ event.team → p ∉ t.pairs

variable {s s' : TeamDb}

/-! ### What the functions do -/

theorem runs_lift {α : Type} {p : DbM α} {r : Except JsError α} :
    (TeamM.lift p).Runs TeamOp.exec s r s' ↔
      ∃ db', p.Runs DbOp.exec s.db r db' ∧ s' = { s with db := db' } := by
  induction p generalizing s with
  | ret a =>
    constructor
    · rintro ⟨rfl, rfl⟩
      exact ⟨_, ⟨rfl, rfl⟩, rfl⟩
    · rintro ⟨_, ⟨rfl, rfl⟩, rfl⟩
      exact ⟨rfl, rfl⟩
  | fail e =>
    constructor
    · rintro ⟨rfl, rfl⟩
      exact ⟨_, ⟨rfl, rfl⟩, rfl⟩
    · rintro ⟨_, ⟨rfl, rfl⟩, rfl⟩
      exact ⟨rfl, rfl⟩
  | act o k ih => exact ih _
  | alt p q ihp ihq =>
    show (TeamM.lift p).Runs TeamOp.exec s r s' ∨ (TeamM.lift q).Runs TeamOp.exec s r s' ↔ _
    rw [ihp, ihq]
    constructor
    · rintro (⟨db', h, rfl⟩ | ⟨db', h, rfl⟩)
      · exact ⟨db', .inl h, rfl⟩
      · exact ⟨db', .inr h, rfl⟩
    · rintro ⟨db', h | h, rfl⟩
      · exact .inl ⟨db', h, rfl⟩
      · exact .inr ⟨db', h, rfl⟩

/-- The pairs have become members; the teams are as they were. -/
def Adds (P : Set (String × String)) (s s' : TeamDb) : Prop :=
  s'.teams = s.teams ∧ Added P s.db s'.db

/-- The pairs are no members any more; the teams are as they were. -/
def TakesBack (P : Set (String × String)) (s s' : TeamDb) : Prop :=
  s'.teams = s.teams ∧ Removed P s.db s'.db

theorem Adds.union {P P' : Set (String × String)} {s t u : TeamDb} (h : Adds P s t)
    (h' : Adds P' t u) : Adds (P ∪ P') s u := ⟨h'.1.trans h.1, h.2.union h'.2⟩

theorem TakesBack.union {P P' : Set (String × String)} {s t u : TeamDb} (h : TakesBack P s t)
    (h' : TakesBack P' t u) : TakesBack (P ∪ P') s u := ⟨h'.1.trans h.1, h.2.union h'.2⟩

theorem Adds.none (s : TeamDb) : Adds ∅ s s := ⟨rfl, .none _⟩

theorem TakesBack.none (s : TeamDb) : TakesBack ∅ s s := ⟨rfl, .none _⟩

/-- The pairs become members while the teams are those of `c`. -/
theorem Adds.keeps {c : Collection Team} {P : Set (String × String)} {s t : TeamDb}
    (hs : s.teams = c) (h : Adds P s t) : t.teams = c := h.1.trans hs

theorem TakesBack.keeps {c : Collection Team} {P : Set (String × String)} {s t : TeamDb}
    (hs : s.teams = c) (h : TakesBack P s t) : t.teams = c := h.1.trans hs

theorem addGroupUser_adds {id email : String} {r : Except JsError String}
    (hrun : (addGroupUser id email).Runs TeamOp.exec s r s') :
    (∃ a, r = .ok a) ∧ Adds {(id, email)} s s' := by
  obtain ⟨db', hlifted, rfl⟩ := runs_lift.1 hrun
  obtain ⟨hok, rfl⟩ := addGroupUser_of_runs hlifted
  exact ⟨hok, rfl, added_addMember _ _ _⟩

theorem removeGroupUser_removes {id email : String} {r : Except JsError String}
    (hrun : (removeGroupUser id email).Runs TeamOp.exec s r s') :
    (∃ a, r = .ok a) ∧ TakesBack {(id, email)} s s' := by
  obtain ⟨db', hlifted, rfl⟩ := runs_lift.1 hrun
  obtain ⟨hok, hremoved⟩ := removed_of_runs hlifted
  exact ⟨hok, rfl, hremoved⟩

section Loops

variable {α : Type} {teamId : String} {r : Except JsError α}

theorem runs_getTeamById {k : Option Team → TeamM α} :
    ((getTeamById teamId).bind k).Runs TeamOp.exec s r s' ↔
      (k (s.teams.findOne teamId)).Runs TeamOp.exec s r s' := Iff.rfl

/-- The teams after the update of one. -/
abbrev TeamDb.withTeam (s : TeamDb) (teamId : String) (f : TeamChange) : TeamDb :=
  { s with teams := s.teams.update teamId (effect f) }

theorem runs_updateTeam {f : TeamChange} {k : Option (Team × Team) → TeamM α} :
    ((updateTeam teamId f).bind k).Runs TeamOp.exec s r s' ↔
      (k ((s.teams.findOne teamId).map fun t => (t, f.apply t))).Runs TeamOp.exec
        (s.withTeam teamId f) r s' := Iff.rfl

theorem loops_pairs (groups users : List String) :
    {p : String × String | ∃ group ∈ groups, p ∈
      {p : String × String | ∃ user ∈ users, p ∈ ({(group, user)} : Set (String × String))}} =
        {p | p.1 ∈ groups ∧ p.2 ∈ users} := by
  ext ⟨g, u⟩
  simp

theorem loop_groups (groups : List String) (user : String) :
    {p : String × String | ∃ group ∈ groups, p ∈ ({(group, user)} : Set (String × String))} =
      {p | p.2 = user ∧ p.1 ∈ groups} := by
  ext ⟨g, u⟩
  simp [and_comm]

theorem loop_users (group : String) (users : List String) :
    {p : String × String | ∃ user ∈ users, p ∈ ({(group, user)} : Set (String × String))} =
      {p | p.1 = group ∧ p.2 ∈ users} := by
  ext ⟨g, u⟩
  simp [and_comm]

theorem each_addGroupUser {c : Collection Team} {group : String} {users : List String}
    {r : Except JsError (List String)} (hs : s.teams = c)
    (hrun : (Prog.each (addGroupUser group) users).Runs TeamOp.exec s r s') :
    (∃ a, r = .ok a) ∧ Adds {p | ∃ user ∈ users, p ∈ ({(group, user)} : Set (String × String))} s s' :=
  runs_each Adds.none Adds.union Adds.keeps
    (fun _ _ _ _ _ hrun => addGroupUser_adds hrun) hs hrun

theorem each_removeGroupUser {c : Collection Team} {group : String} {users : List String}
    {r : Except JsError (List String)} (hs : s.teams = c)
    (hrun : (Prog.each (removeGroupUser group) users).Runs TeamOp.exec s r s') :
    (∃ a, r = .ok a) ∧
      TakesBack {p | ∃ user ∈ users, p ∈ ({(group, user)} : Set (String × String))} s s' :=
  runs_each TakesBack.none TakesBack.union TakesBack.keeps
    (fun _ _ _ _ _ hrun => removeGroupUser_removes hrun) hs hrun

variable {team : Team} {r : Except JsError Unit}

theorem updateGroupsAndUsers_adds (hteam : s.teams.findOne teamId = some team)
    (hrun : (updateGroupsAndUsers teamId).Runs TeamOp.exec s r s') :
    r = .ok () ∧ Adds team.pairs s s' := by
  unfold updateGroupsAndUsers at hrun
  rw [bind_eq, runs_getTeamById, hteam] at hrun
  refine runs_return (fun r s' hrun => ?_) hrun
  rw [Team.pairs, ← loops_pairs]
  exact runs_each Adds.none Adds.union Adds.keeps
    (fun group _ _ _ hs hrun => each_addGroupUser hs hrun) rfl hrun

theorem removeGroupsAndUsers_removes (hteam : s.teams.findOne teamId = some team)
    (hrun : (removeGroupsAndUsers teamId).Runs TeamOp.exec s r s') :
    r = .ok () ∧ TakesBack team.pairs s s' := by
  unfold removeGroupsAndUsers at hrun
  rw [bind_eq, runs_getTeamById, hteam] at hrun
  refine runs_return (fun r s' hrun => ?_) hrun
  rw [Team.pairs, ← loops_pairs]
  exact runs_each TakesBack.none TakesBack.union TakesBack.keeps
    (fun group _ _ _ hs hrun => each_removeGroupUser hs hrun) rfl hrun

theorem removeUserFromTeamGroups_removes {user : String}
    (hteam : s.teams.findOne teamId = some team)
    (hrun : (removeUserFromTeamGroups teamId user).Runs TeamOp.exec s r s') :
    r = .ok () ∧ TakesBack {p | p.2 = user ∧ p.1 ∈ team.groups} s s' := by
  unfold removeUserFromTeamGroups at hrun
  rw [bind_eq, runs_getTeamById, hteam] at hrun
  refine runs_return (fun r s' hrun => ?_) hrun
  rw [← loop_groups]
  exact runs_each TakesBack.none TakesBack.union TakesBack.keeps
    (fun _ _ _ _ _ hrun => removeGroupUser_removes hrun) rfl hrun

theorem removeGroupFromTeamUsers_removes {group : String}
    (hteam : s.teams.findOne teamId = some team)
    (hrun : (removeGroupFromTeamUsers teamId group).Runs TeamOp.exec s r s') :
    r = .ok () ∧ TakesBack {p | p.1 = group ∧ p.2 ∈ team.users} s s' := by
  unfold removeGroupFromTeamUsers at hrun
  rw [bind_eq, runs_getTeamById, hteam] at hrun
  refine runs_return (fun r s' hrun => ?_) hrun
  rw [← loop_users]
  exact each_removeGroupUser rfl hrun

theorem throws_of_none {teamId : String} {k : Team → TeamM Unit} {r : Except JsError Unit}
    (hteam : s.teams.findOne teamId = none)
    (hrun : ((getTeamById teamId).bind fun
      | none => .fail .typeError
      | some team => k team).Runs TeamOp.exec s r s') : r = .error .typeError ∧ s' = s := by
  rw [runs_getTeamById, hteam] at hrun
  exact hrun

end Loops

/-! ### One operation -/

/-- The teams after the operation, which it changes before it touches the memberships, or after. -/
def TeamEvent.teams (s : TeamDb) : TeamEvent → Collection Team
  | .createTeam teamId name groups users => s.teams.insert ⟨teamId, name, groups, users⟩
  | .addGroupToTeam teamId group => s.teams.update teamId (effect (TeamChange.pushGroup group))
  | .removeGroupFromTeam teamId group =>
    s.teams.update teamId (effect (TeamChange.pullGroups [group]))
  | .removeGroupsFromTeam teamId groups =>
    s.teams.update teamId (effect (TeamChange.pullGroups groups))
  | .addUserToTeam teamId user => s.teams.update teamId (effect (TeamChange.pushUser user))
  | .removeUserFromTeam teamId user => s.teams.update teamId (effect (TeamChange.pullUsers [user]))
  | .removeUsersFromTeam teamId users => s.teams.update teamId (effect (TeamChange.pullUsers users))
  | .deleteTeam id => s.teams.delete id

/-- What an operation does: it grants the memberships of its team, or takes some back. -/
inductive TeamOutcome (s s' : TeamDb) (event : TeamEvent) : Prop
  | granted {P : Set (String × String)} (hteams : s'.teams = event.teams s)
    (hnone : event.revoked s = ∅) (hadded : Added P s.db s'.db)
    (hpairs : ∀ t ∈ s'.teams.findOne event.team, t.pairs ⊆ P) : TeamOutcome s s' event
  | revoked (hteams : s'.teams = event.teams s) (hremoved : Removed (event.revoked s) s.db s'.db)
    (hpairs : ∀ t ∈ s'.teams.findOne event.team, ∃ t₀ ∈ s.teams.findOne event.team,
      t.pairs ⊆ t₀.pairs \ event.revoked s) : TeamOutcome s s' event

/-- A group or a user is added to a team: then all memberships of the team are granted. -/
theorem runs_add {α : Type} {teamId : String} {f : TeamChange} {g : Option (Team × Team) → α}
    {r : Except JsError α}
    (hrun : ((updateTeam teamId f).bind fun result =>
      (updateGroupsAndUsers teamId).bind fun _ => .ret (g result)).Runs TeamOp.exec s r s') :
    s'.teams = s.teams.update teamId (effect f) ∧
      ∃ P, Added P s.db s'.db ∧ ∀ t ∈ s'.teams.findOne teamId, t.pairs ⊆ P := by
  rw [runs_updateTeam] at hrun
  obtain ⟨r', hupdate⟩ := runs_discard hrun
  cases hteam : s.teams.findOne teamId with
  | none =>
    have hsame : (s.withTeam teamId f).teams.findOne teamId = none := by
      rw [Collection.findOne_update, hteam]
      simp
    obtain ⟨-, rfl⟩ := throws_of_none hsame hupdate
    refine ⟨rfl, ∅, .none _, fun t ht => ?_⟩
    rw [hsame] at ht
    cases ht
  | some team =>
    have hsome : (s.withTeam teamId f).teams.findOne teamId = some (f.apply team) :=
      Collection.findOne_update_self _ hteam
    obtain ⟨-, hteams, hadded⟩ := updateGroupsAndUsers_adds hsome hupdate
    refine ⟨hteams, _, hadded, fun t ht => ?_⟩
    rw [hteams, hsome] at ht
    obtain rfl := Option.some.inj ht
    exact Set.Subset.rfl

/-- Groups or users are removed from a team: then the memberships that go with them are taken
back. -/
theorem runs_remove {α β : Type} {event : TeamEvent} {f : TeamChange} {loop : TeamM α}
    {g : Option (Team × Team) → β} {r : Except JsError β} {P : Team → Set (String × String)}
    (hevent : event.teams s = s.teams.update event.team (effect f))
    (hrevoked : event.revoked s = {p | ∃ t ∈ s.teams.findOne event.team, p ∈ P t})
    (hpull : ∀ t, (f.apply t).pairs ⊆ t.pairs \ P t ∧ P (f.apply t) = P t)
    (hnone : ∀ {s s' : TeamDb} {r}, s.teams.findOne event.team = none →
      loop.Runs TeamOp.exec s r s' → s' = s)
    (hsome : ∀ {s s' : TeamDb} {r team}, s.teams.findOne event.team = some team →
      loop.Runs TeamOp.exec s r s' → TakesBack (P team) s s')
    (hrun : ((updateTeam event.team f).bind fun result => loop.bind fun _ => .ret (g result)).Runs
      TeamOp.exec s r s') : TeamOutcome s s' event := by
  rw [runs_updateTeam] at hrun
  obtain ⟨r', hloop⟩ := runs_discard hrun
  cases hteam : s.teams.findOne event.team with
  | none =>
    have hsame : (s.withTeam event.team f).teams.findOne event.team = none := by
      rw [Collection.findOne_update, hteam]
      simp
    obtain rfl := hnone hsame hloop
    refine .revoked hevent.symm ?_ fun t ht => ?_
    · rw [hrevoked, hteam]
      simpa using Removed.none s.db
    · rw [hsame] at ht
      cases ht
  | some team =>
    have hfound : (s.withTeam event.team f).teams.findOne event.team = some (f.apply team) :=
      Collection.findOne_update_self _ hteam
    obtain ⟨hteams, hremoved⟩ := hsome hfound hloop
    obtain ⟨hpairs, hsame⟩ := hpull team
    have hset : event.revoked s = P team := by
      rw [hrevoked, hteam]
      simp
    refine .revoked (hteams.trans hevent.symm) ?_ fun t ht => ⟨team, hteam, ?_⟩
    · rw [hset, ← hsame]
      exact hremoved
    · rw [hteams, hfound] at ht
      obtain rfl := Option.some.inj ht
      rw [hset]
      exact hpairs

theorem each_eq_of_throws {β : Type} {f : String → TeamM β} {l : List String}
    {r : Except JsError (List β)} (hf : ∀ b r s', (f b).Runs TeamOp.exec s r s' →
      r = .error .typeError ∧ s' = s) (hrun : (Prog.each f l).Runs TeamOp.exec s r s') : s' = s := by
  cases l with
  | nil => exact hrun.2
  | cons b l =>
    rcases runs_bind.1 hrun with ⟨a, t, hb, -⟩ | ⟨e, hb, -⟩
    · cases (hf b _ _ hb).1
    · exact (hf b _ _ hb).2

/-- A new team: all its memberships are granted. -/
theorem outcome_createTeam {teamId name : String} {groups users : List String}
    (hnew : s.teams.findOne teamId = none)
    (hrun : (TeamEvent.createTeam teamId name groups users).Runs s s') :
    TeamOutcome s s' (.createTeam teamId name groups users) := by
  obtain ⟨r, hrun⟩ := hrun
  have hfound : (s.teams.insert ⟨teamId, name, groups, users⟩).findOne teamId =
      some ⟨teamId, name, groups, users⟩ := Collection.findOne_insert_self hnew
  have hupdate : ∃ r t, (updateGroupsAndUsers teamId).Runs TeamOp.exec
      { s with teams := s.teams.insert ⟨teamId, name, groups, users⟩ } r t ∧ s' = t := by
    rcases runs_bind.1 (show Prog.Runs TeamOp.exec _ _ r s' from hrun) with
      ⟨a, t, ha, hrest⟩ | ⟨e, ha, -⟩
    · obtain ⟨-, rfl⟩ := ha
      rcases runs_bind.1 hrest with ⟨u, t, hupdate, hget⟩ | ⟨e, hupdate, -⟩
      · exact ⟨_, t, hupdate, hget.2⟩
      · exact ⟨_, s', hupdate, rfl⟩
    · cases ha.1
  obtain ⟨r', t, hupdate, rfl⟩ := hupdate
  obtain ⟨-, hteams, hadded⟩ := updateGroupsAndUsers_adds hfound hupdate
  refine .granted hteams rfl hadded fun t ht => ?_
  rw [hteams] at ht
  obtain rfl := Option.some.inj (hfound.symm.trans ht)
  exact Set.Subset.rfl

/-- A team is deleted, and the memberships that it granted are taken back before. -/
theorem outcome_deleteTeam {id : String} (hrun : (TeamEvent.deleteTeam id).Runs s s') :
    TeamOutcome s s' (.deleteTeam id) := by
  obtain ⟨r, hrun⟩ := hrun
  rcases Option.eq_none_or_eq_some (s.teams.findOne id) with hteam | ⟨team, hteam⟩
  · rcases runs_bind.1 (show Prog.Runs TeamOp.exec _ _ r s' from hrun) with
      ⟨a, t, ha, -⟩ | ⟨e, ha, -⟩
    · cases (throws_of_none hteam ha).1
    · obtain ⟨-, rfl⟩ := throws_of_none hteam ha
      refine .revoked (Collection.delete_of_findOne_none hteam).symm ?_ fun t ht => ?_
      · simpa [TeamEvent.revoked, hteam] using Removed.none s'.db
      · rw [show s'.teams.findOne (TeamEvent.deleteTeam id).team = none from hteam] at ht
        cases ht
  · rcases runs_bind.1 (show Prog.Runs TeamOp.exec _ _ r s' from hrun) with
      ⟨a, t, ha, hdelete⟩ | ⟨e, ha, -⟩
    · obtain ⟨-, hteams, hremoved⟩ := removeGroupsAndUsers_removes hteam ha
      obtain ⟨-, rfl⟩ := hdelete
      refine .revoked ?_ ?_ fun t' ht' => ?_
      · show t.teams.delete id = s.teams.delete id
        rw [hteams]
      · show Removed _ s.db t.db
        simpa [TeamEvent.revoked, hteam] using hremoved
      · have hgone : (t.teams.delete id).findOne id = none := Collection.findOne_delete_self _ _
        cases hgone.symm.trans ht'
    · cases (removeGroupsAndUsers_removes hteam ha).1

/-- One operation. -/
theorem TeamEvent.outcome {event : TeamEvent} (hvalid : event.Valid s) (hrun : event.Runs s s') :
    TeamOutcome s s' event := by
  cases event with
  | createTeam teamId name groups users => exact outcome_createTeam hvalid.1 hrun
  | addGroupToTeam teamId group =>
    obtain ⟨r, hrun⟩ := hrun
    obtain ⟨hteams, P, hadded, hpairs⟩ := runs_add hrun
    exact .granted hteams rfl hadded hpairs
  | addUserToTeam teamId user =>
    obtain ⟨r, hrun⟩ := hrun
    obtain ⟨hteams, P, hadded, hpairs⟩ := runs_add hrun
    exact .granted hteams rfl hadded hpairs
  | removeGroupFromTeam teamId group =>
    obtain ⟨r, hrun⟩ := hrun
    refine runs_remove (P := fun t => {p | p.1 = group ∧ p.2 ∈ t.users}) rfl rfl (fun t => ⟨?_, rfl⟩)
      (fun hnone hloop => (throws_of_none hnone hloop).2)
      (fun hteam hloop => (removeGroupFromTeamUsers_removes hteam hloop).2) hrun
    rintro ⟨g, u⟩ ⟨hg, hu⟩
    obtain ⟨hmem, hne⟩ := List.mem_filter.1 hg
    exact ⟨⟨hmem, hu⟩, fun h => of_decide_eq_true hne (List.mem_singleton.2 h.1)⟩
  | removeGroupsFromTeam teamId groups =>
    obtain ⟨r, hrun⟩ := hrun
    refine runs_remove (P := fun t => {p | p.1 ∈ groups ∧ p.2 ∈ t.users}) rfl rfl (fun t => ⟨?_, rfl⟩)
      (fun hnone hloop => each_eq_of_throws (fun _ _ _ => throws_of_none hnone) hloop)
      (fun {s} _ _ team hteam hloop => ?_) hrun
    · rintro ⟨g, u⟩ ⟨hg, hu⟩
      obtain ⟨hmem, hne⟩ := List.mem_filter.1 hg
      exact ⟨⟨hmem, hu⟩, fun h => of_decide_eq_true hne h.1⟩
    · -- the groups are taken back one after the other
      have hpairs : {p : String × String | ∃ group ∈ groups, p ∈
          {p : String × String | p.1 = group ∧ p.2 ∈ team.users}} =
            {p | p.1 ∈ groups ∧ p.2 ∈ team.users} := by
        ext ⟨g, u⟩
        simp
      rw [← hpairs]
      refine (runs_each TakesBack.none TakesBack.union (TakesBack.keeps (c := s.teams))
        (fun group _ _ _ hs hrun => ?_) rfl hloop).2
      obtain ⟨hok, hremoves⟩ := removeGroupFromTeamUsers_removes (hs ▸ hteam) hrun
      exact ⟨⟨_, hok⟩, hremoves⟩
  | removeUserFromTeam teamId user =>
    obtain ⟨r, hrun⟩ := hrun
    refine runs_remove (P := fun t => {p | p.2 = user ∧ p.1 ∈ t.groups}) rfl rfl (fun t => ⟨?_, rfl⟩)
      (fun hnone hloop => (throws_of_none hnone hloop).2)
      (fun hteam hloop => (removeUserFromTeamGroups_removes hteam hloop).2) hrun
    rintro ⟨g, u⟩ ⟨hg, hu⟩
    obtain ⟨hmem, hne⟩ := List.mem_filter.1 hu
    exact ⟨⟨hg, hmem⟩, fun h => of_decide_eq_true hne (List.mem_singleton.2 h.1)⟩
  | removeUsersFromTeam teamId users =>
    obtain ⟨r, hrun⟩ := hrun
    refine runs_remove (P := fun t => {p | p.2 ∈ users ∧ p.1 ∈ t.groups}) rfl rfl (fun t => ⟨?_, rfl⟩)
      (fun hnone hloop => each_eq_of_throws (fun _ _ _ => throws_of_none hnone) hloop)
      (fun {s} _ _ team hteam hloop => ?_) hrun
    · rintro ⟨g, u⟩ ⟨hg, hu⟩
      obtain ⟨hmem, hne⟩ := List.mem_filter.1 hu
      exact ⟨⟨hg, hmem⟩, fun h => of_decide_eq_true hne h.1⟩
    · have hpairs : {p : String × String | ∃ user ∈ users, p ∈
          {p : String × String | p.2 = user ∧ p.1 ∈ team.groups}} =
            {p | p.2 ∈ users ∧ p.1 ∈ team.groups} := by
        ext ⟨g, u⟩
        simp
      rw [← hpairs]
      refine (runs_each TakesBack.none TakesBack.union (TakesBack.keeps (c := s.teams))
        (fun user _ _ _ hs hrun => ?_) rfl hloop).2
      obtain ⟨hok, hremoves⟩ := removeUserFromTeamGroups_removes (hs ▸ hteam) hrun
      exact ⟨⟨_, hok⟩, hremoves⟩
  | deleteTeam id => exact outcome_deleteTeam hrun

/-! ### The runs -/

/-- The groups and the users of all teams exist. -/
def AllExist (s : TeamDb) : Prop := ∀ t ∈ s.teams.docs, t.Exist s.db

theorem Team.Exist.congr {db db' : Db} {t : Team} (h : t.Exist db)
    (hgroups : ∀ id, HasGroup db' id ↔ HasGroup db id)
    (husers : ∀ email, HasUser db' email ↔ HasUser db email) : t.Exist db' :=
  ⟨fun g hg => (hgroups g).2 (h.groups g hg), fun u hu => (husers u).2 (h.users u hu)⟩

theorem mem_findOne_of_mem {t : Team} {id : String} (ht : t ∈ s.teams.docs) (hid : t.id = id) :
    t ∈ s.teams.findOne id := hid ▸ Collection.findOne_of_mem ht

namespace TeamEvent

variable {event : TeamEvent}

/-- The other teams stay as they are. -/
theorem mem_teams_of_ne {t : Team} (ht : t.id ≠ event.team) :
    t ∈ (event.teams s).docs ↔ t ∈ s.teams.docs := by
  have hupdate : ∀ {k : String} {f : TeamChange}, t.id ≠ k →
      (t ∈ (s.teams.update k (effect f)).docs ↔ t ∈ s.teams.docs) := by
    intro k f hk
    rw [Collection.mem_update]
    refine ⟨?_, fun h => .inl ⟨h, hk⟩⟩
    rintro (⟨h, -⟩ | ⟨e, he, rfl⟩)
    · exact h
    · exact absurd ((TeamChange.id_apply f e).trans (Collection.key_of_findOne he)) hk
  cases event with
  | createTeam teamId name groups users =>
    show t ∈ (s.teams.insert ⟨teamId, name, groups, users⟩).docs ↔ _
    unfold Collection.insert
    split
    · exact Iff.rfl
    · rw [List.mem_append, List.mem_singleton]
      exact or_iff_left fun h => ht (congrArg Team.id h)
  | addGroupToTeam teamId group => exact hupdate ht
  | removeGroupFromTeam teamId group => exact hupdate ht
  | removeGroupsFromTeam teamId groups => exact hupdate ht
  | addUserToTeam teamId user => exact hupdate ht
  | removeUserFromTeam teamId user => exact hupdate ht
  | removeUsersFromTeam teamId users => exact hupdate ht
  | deleteTeam id =>
    show t ∈ (s.teams.delete id).docs ↔ _
    rw [Collection.mem_delete]
    exact and_iff_left ht

/-- The groups and the users of the changed teams exist. -/
theorem exist_teams (hvalid : event.Valid s) (h : AllExist s) :
    ∀ t ∈ (event.teams s).docs, t.Exist s.db := by
  have hupdate : ∀ {k : String} {f : TeamChange}, (∀ t, t.Exist s.db → (f.apply t).Exist s.db) →
      ∀ t ∈ (s.teams.update k (effect f)).docs, t.Exist s.db := by
    intro k f hf t ht
    rcases Collection.mem_update.1 ht with ⟨ht, -⟩ | ⟨t₀, ht₀, rfl⟩
    · exact h t ht
    · exact hf t₀ (h t₀ (Collection.mem_of_findOne ht₀))
  cases event with
  | createTeam teamId name groups users =>
    intro t ht
    rw [show (createTeam teamId name groups users).teams s =
      s.teams.insert ⟨teamId, name, groups, users⟩ from rfl,
      Collection.docs_insert (Collection.findOne_eq_none_iff_notMem.1 hvalid.1)] at ht
    rcases List.mem_append.1 ht with ht | ht
    · exact h t ht
    · rw [List.mem_singleton.1 ht]
      exact hvalid.2
  | addGroupToTeam teamId group =>
    refine hupdate fun t ht => ⟨fun g hg => ?_, ht.users⟩
    rcases mem_addToSet.1 hg with hg | rfl
    · exact ht.groups g hg
    · exact hvalid
  | addUserToTeam teamId user =>
    refine hupdate fun t ht => ⟨ht.groups, fun u hu => ?_⟩
    rcases mem_addToSet.1 hu with hu | rfl
    · exact ht.users u hu
    · exact hvalid
  | removeGroupFromTeam teamId group =>
    exact hupdate fun t ht => ⟨fun g hg => ht.groups g (List.mem_filter.1 hg).1, ht.users⟩
  | removeGroupsFromTeam teamId groups =>
    exact hupdate fun t ht => ⟨fun g hg => ht.groups g (List.mem_filter.1 hg).1, ht.users⟩
  | removeUserFromTeam teamId user =>
    exact hupdate fun t ht => ⟨ht.groups, fun u hu => ht.users u (List.mem_filter.1 hu).1⟩
  | removeUsersFromTeam teamId users =>
    exact hupdate fun t ht => ⟨ht.groups, fun u hu => ht.users u (List.mem_filter.1 hu).1⟩
  | deleteTeam id => exact fun t ht => h t (Collection.mem_delete.1 ht).1

end TeamEvent

/-- One operation: the groups and the users of the teams exist, and the memberships survive exactly
where the teams are kept apart. -/
theorem TeamOutcome.spec {event : TeamEvent} (h : TeamOutcome s s' event) (hvalid : event.Valid s)
    (hexist : AllExist s) : AllExist s' ∧ (Granted s → (Granted s' ↔ Apart s event)) := by
  cases h with
  | @granted P hteams hnone hadded hpairs =>
    have hexist' : AllExist s' := by
      intro t ht
      rw [hteams] at ht
      exact (TeamEvent.exist_teams hvalid hexist t ht).congr hadded.groups hadded.users
    refine ⟨hexist', fun hgranted => iff_of_true (fun t ht group hg user hu => ?_) ?_⟩
    · rw [hadded.listed, hadded.subscribed]
      by_cases hid : t.id = event.team
      · have hmem : (group, user) ∈ P := hpairs t (mem_findOne_of_mem ht hid) ⟨hg, hu⟩
        exact ⟨.inr ⟨hmem, (hadded.groups _).1 ((hexist' t ht).groups group hg)⟩,
          .inr ⟨hmem, (hadded.users _).1 ((hexist' t ht).users user hu)⟩⟩
      · rw [hteams, TeamEvent.mem_teams_of_ne hid] at ht
        exact (hgranted t ht group hg user hu).imp .inl .inl
    · intro p hp
      rw [hnone] at hp
      exact hp.elim
  | revoked hteams hremoved hpairs =>
    refine ⟨fun t ht => ?_, fun hgranted => ⟨fun hgranted' p hp hcan t ht hid hpair => ?_,
      fun hapart t ht group hg user hu => ?_⟩⟩
    · rw [hteams] at ht
      exact (TeamEvent.exist_teams hvalid hexist t ht).congr hremoved.groups hremoved.users
    · have ht' : t ∈ s'.teams.docs := by
        rw [hteams, TeamEvent.mem_teams_of_ne hid]
        exact ht
      have hlisted := (hgranted' t ht' p.1 hpair.1 p.2 hpair.2).1
      exact ((hremoved.listed p.1 p.2).1 hlisted).2 ⟨hp, hcan⟩
    · rw [hremoved.listed, hremoved.subscribed]
      by_cases hid : t.id = event.team
      · obtain ⟨t₀, ht₀, hsub⟩ := hpairs t (mem_findOne_of_mem ht hid)
        obtain ⟨hpair, hkept⟩ := hsub (show (group, user) ∈ t.pairs from ⟨hg, hu⟩)
        obtain ⟨hl, hs⟩ := hgranted t₀ (Collection.mem_of_findOne ht₀) group hpair.1 user hpair.2
        exact ⟨⟨hl, fun hrevoked => hkept hrevoked.1⟩, ⟨hs, fun hrevoked => hkept hrevoked.1⟩⟩
      · rw [hteams, TeamEvent.mem_teams_of_ne hid] at ht
        obtain ⟨hl, hs⟩ := hgranted t ht group hg user hu
        have hkept : ¬ ((group, user) ∈ event.revoked s ∧ CanRemove s.db group user) :=
          fun hrevoked => hapart _ hrevoked.1 hrevoked.2 t ht hid ⟨hg, hu⟩
        exact ⟨⟨hl, hkept⟩, ⟨hs, hkept⟩⟩

/-- **Every team has made its users members of its groups, in every state of exactly those runs in
which no operation takes back a membership that another team grants.** -/
theorem granted_iff {db : Db} {events : List TeamEvent} :
    teamSystem.Along Granted ⟨.empty, db⟩ events s' ↔
      (teamSystem.restrict Apart).Run ⟨.empty, db⟩ events s' := by
  have hstep : ∀ s event s', AllExist s → teamSystem.step s event s' →
      AllExist s' ∧ (Granted s → (Granted s' ↔ Apart s event)) := by
    rintro s event s' hexist ⟨hvalid, hrun⟩
    exact (TeamEvent.outcome hvalid hrun).spec hvalid hexist
  refine Lts.along_iff_restrict (fun s event s' h hst => (hstep s event s' h hst).1)
    (fun s event s' h hgranted hst => (hstep s event s' h hst).2 hgranted)
    (fun t ht => ?_) fun t ht => ?_
  · cases ht
  · cases ht

/-! ### Two teams that overlap -/

/-- A group of the administrator, and a user who is no member. -/
def overlapDb : Db where
  users := .ofDocs [Sample.user "u@example" ⟨5, 1000⟩ ⟨0, 0⟩]
  groups := .ofDocs [Sample.root]
  devices := .empty

/-- Both teams grant the same membership, and the second one is deleted. -/
def overlap : List TeamEvent :=
  [.createTeam "t1" "first" ["root"] ["u@example"], .createTeam "t2" "second" ["root"] ["u@example"],
    .deleteTeam "t2"]

/-- The first team still grants the membership that the deletion of the second one has taken
back. -/
theorem not_granted_of_overlap : ∃ s, teamSystem.Run ⟨.empty, overlapDb⟩ overlap s ∧
    s.teams.docs = [⟨"t1", "first", ["root"], ["u@example"]⟩] ∧
      ¬ Listed s.db "root" "u@example" ∧ ¬ Granted s := by
  have hrun : teamSystem.Run ⟨.empty, overlapDb⟩ overlap _ :=
    .more ⟨⟨rfl, by decide +kernel, by decide +kernel⟩, ⟨_, runs_eval _ _ _⟩⟩
      (.more ⟨⟨by decide +kernel, by decide +kernel, by decide +kernel⟩, ⟨_, runs_eval _ _ _⟩⟩
        (.more ⟨trivial, ⟨_, runs_eval _ _ _⟩⟩ (.done _)))
  refine ⟨_, hrun, by decide +kernel, by decide +kernel, fun hgranted => ?_⟩
  have hlisted := (hgranted ⟨"t1", "first", ["root"], ["u@example"]⟩ (by decide +kernel) "root"
    (by decide) "u@example" (by decide)).1
  revert hlisted
  decide +kernel

end DeviceHub

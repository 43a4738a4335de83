import DeviceHub.Api.RemoveUsers
import DeviceHub.Db.Sample
import DeviceHub.Members.Memberships

/-!
# `addGroupUsers`

The controller adds the listed emails one after the other, each under the lock of its user.  An
email that belongs to no user cannot be locked; the exception is not a `TypeError`, and so it ends
the whole request.  The answer 207 is given when a result contains the words by which the controller
would know such an email.

## Main definitions

* `listedToAdd` : the emails that a request lists.
* `AddsKnownUsers` : the listed emails that belong to users are added, and the answer says whether
  there were others.

## Main results

* `runs_addListed`, `runs_addListed_unknown` : the run over the emails.
* `addsKnownUsers_iff` : when a request adds the known users.
* `not_addsKnownUsers_of_unknown` : a request with an unknown email does not.
-/

namespace DeviceHub

open Prog apiutil lodash GroupModel UserModel

/-- The emails that a request to add users lists: by default those of the users who are not in the
group. -/
def listedToAdd (db : Db) (g : Group) (emails : Option String) : List String :=
  match emails with
  | none => (db.users.docs.filter fun u => u.email ∉ g.users).map (·.email)
  | some emails => without (splitComma emails) ""

/-- The request adds to the group exactly the listed emails that belong to users.  It is answered
with 207 if there are others, and with 200 otherwise. -/
def AddsKnownUsers (db : Db) (user : User) (g : Group) (emails : Option String) (redirected : Bool) :
    Prop :=
  ∀ r db', (groups.addGroupUsers user g.id emails redirected).Runs DbOp.exec db r db' →
    (∃ g' ∈ db'.groups.findOne g.id, ∃ added, g'.users = g.users ++ added ∧
      ∀ email, email ∈ added ↔
        email ∈ listedToAdd db g emails ∧ email ∉ g.users ∧ HasUser db email) ∧
    ∃ message, r = .ok (some ⟨if ∃ email ∈ listedToAdd db g emails, ¬ HasUser db email then 207
      else 200, message⟩)

/-- No user is locked. -/
def NobodyLocked (db : Db) : Prop := ∀ u ∈ db.users.docs, u.lock = false

instance (db : Db) : Decidable (NobodyLocked db) :=
  inferInstanceAs (Decidable (∀ u ∈ db.users.docs, u.lock = false))

variable {db db' : Db} {id email : String} {g : Group}

/-! ### The lock -/

theorem runs_unlockUser {α : Type} {u : User} {k : Unit → DbM α} {r : Except JsError α}
    (hu : HasUser db u.email) : ((groups.unlockUser (some u)).bind k).Runs DbOp.exec db r db' ↔
      (k ()).Runs DbOp.exec (db.withUser u.email (.setLock false)) r db' := by
  obtain ⟨doc, hdoc⟩ := hu
  simp [groups.unlockUser, AllModel.unlockUser, setLockOnUser, detach, Db.findUser, Db.updateUser,
    perform, Prog.bind, Prog.tryCatch, hdoc, CollOp.exec]

theorem runs_lockUser_none {α : Type} {k : LockStats → DbM α} {r : Except JsError α}
    (hu : db.users.findOne email = none) :
    ((AllModel.lockUser email).bind k).Runs DbOp.exec db r db' ↔
      r = .error .notFound ∧ db' = db := by
  simp [AllModel.lockUser, setIntervalWrapper, setLockOnUser, Db.findUser, perform, Prog.bind, hu,
    CollOp.exec]

theorem findOne_lock (hfree : NobodyLocked db) {u : User} (hu : db.users.findOne email = some u) :
    u.lock = false := hfree u (Collection.mem_of_findOne hu)

/-! ### One email -/

/-- The database after a user has been locked, added to the group, and unlocked. -/
def Db.addLocked (db : Db) (id email : String) : Db :=
  ((db.withUser email (.setLock true)).addMember id email).withUser email (.setLock false)

/-- The result for an email that was added, or was there. -/
def AddResult (email result : String) : Prop :=
  result = "added " ++ email ∨ result = "unchanged " ++ email

theorem addGroupUser_result {r : Except JsError String}
    (hrun : (addGroupUser id email).Runs DbOp.exec db r db') :
    ∃ result, r = .ok result ∧ AddResult email result := by
  unfold addGroupUser at hrun
  rcases runs_bind.1 hrun with ⟨⟨group, user⟩, t, -, hrest⟩ | ⟨e, hpar, -⟩
  · cases user with
    | none =>
      refine ⟨_, hrest.1, ?_⟩
      split
      · exact .inr rfl
      · exact .inl rfl
    | some u =>
      refine ⟨_, hrest.1, ?_⟩
      split
      · exact .inr rfl
      · exact .inl rfl
  · rcases hpar with ⟨hpar, -⟩ | ⟨hpar, -⟩ <;> cases hpar

/-- A user who exists and is not locked is added. -/
theorem runs_addOneUser {r : Except JsError String} (hfree : NobodyLocked db)
    (hu : HasUser db email) (hrun : (groups.addOneUser id email).Runs DbOp.exec db r db') :
    (∃ result, r = .ok result ∧ AddResult email result) ∧ db' = db.addLocked id email := by
  obtain ⟨u, hfound⟩ := hu
  have hemail : ((UserChange.setLock true).apply u).email = email :=
    (UserChange.email_apply _ u).trans (Collection.key_of_findOne hfound)
  have hlocked : ∀ {r t}, (groups.withUserLock email (addGroupUser id email)).Runs DbOp.exec db r t →
      (∃ result, r = .ok result ∧ AddResult email result) ∧ t = db.addLocked id email := by
    intro r t h
    unfold groups.withUserLock at h
    rw [bind_eq, runs_lockUser hfound, if_neg (by simp [lockStats, findOne_lock hfree hfound])] at h
    rcases runs_bind.1 h with ⟨result, t₁, hcatch, hunlock⟩ | ⟨e, hcatch, -⟩
    · rcases runs_tryCatch.1 hcatch with ⟨result', hadd, hresult⟩ | ⟨e, t₂, hadd, -⟩
      · obtain rfl := Except.ok.inj hresult
        obtain ⟨-, rfl⟩ := addGroupUser_of_runs hadd
        obtain ⟨result', hresult, hadded⟩ := addGroupUser_result hadd
        obtain rfl := Except.ok.inj hresult
        have hexists : HasUser (((db.withUser email (.setLock true)).addMember id email))
            ((UserChange.setLock true).apply u).email := by
          rw [hemail]
          exact hasUser_withUser.2 (hasUser_withUser.2 ⟨u, hfound⟩)
        obtain ⟨rfl, rfl⟩ := (runs_unlockUser hexists).1 hunlock
        refine ⟨⟨result, rfl, hadded⟩, ?_⟩
        rw [hemail]
        rfl
      · obtain ⟨result, hresult, -⟩ := addGroupUser_result hadd
        cases hresult
    · rcases runs_tryCatch.1 hcatch with ⟨result, -, hresult⟩ | ⟨e, t₂, hadd, -⟩
      · cases hresult
      · obtain ⟨result, hresult, -⟩ := addGroupUser_result hadd
        cases hresult
  rcases runs_tryCatch.1 hrun with ⟨result, hin, rfl⟩ | ⟨e, t, hin, -⟩
  · exact hlocked hin
  · obtain ⟨⟨result, hresult, -⟩, -⟩ := hlocked hin
    cases hresult

theorem runs_addOneUser_unknown {r : Except JsError String} (hu : ¬ HasUser db email)
    (hrun : (groups.addOneUser id email).Runs DbOp.exec db r db') :
    r = .error .notFound ∧ db' = db := by
  have hnone : db.users.findOne email = none := by
    cases hfind : db.users.findOne email with
    | none => rfl
    | some u => exact absurd ⟨u, hfind⟩ hu
  unfold groups.addOneUser groups.withUserLock at hrun
  rw [bind_eq] at hrun
  rcases runs_tryCatch.1 hrun with ⟨result, hlock, rfl⟩ | ⟨e, t, hlock, hcatch⟩
  · obtain ⟨he, -⟩ := (runs_lockUser_none hnone).1 hlock
    cases he
  · obtain ⟨he, rfl⟩ := (runs_lockUser_none hnone).1 hlock
    obtain rfl := Except.error.inj he
    exact hcatch

/-! ### All emails -/

/-- Compared with `db₀`, the users `added` have been added to the group; nobody is locked. -/
structure Adding (g : Group) (db₀ db : Db) (added : List String) : Prop where
  group : db.groups.findOne g.id = some { g with users := g.users ++ added }
  users : ∀ email, HasUser db email ↔ HasUser db₀ email
  free : NobodyLocked db

theorem Adding.refl (hg : db.groups.findOne g.id = some g) (hfree : NobodyLocked db) :
    Adding g db db [] := ⟨by simpa using hg, fun _ => Iff.rfl, hfree⟩

theorem NobodyLocked.addLocked (hfree : NobodyLocked db) (id email : String) :
    NobodyLocked (db.addLocked id email) := by
  intro u hu
  have hfind := Collection.findOne_of_mem hu
  by_cases he : u.email = email
  · -- the user was unlocked last
    obtain ⟨u', -, hu'⟩ : ∃ u', _ ∧ (UserChange.setLock false).apply u' = u := by
      simpa [Db.addLocked, Collection.findOne_update, he] using hfind
    rw [← hu']
    rfl
  · have hsame : db.users.findOne u.email = some u := by
      simpa [Db.addLocked, Db.addMember, Collection.findOne_update, he] using hfind
    exact findOne_lock hfree hsame

theorem Adding.addLocked {db₀ : Db} {added : List String} (h : Adding g db₀ db added)
    (email : String) : Adding g db₀ (db.addLocked g.id email)
      (if email ∈ g.users ++ added then added else added ++ [email]) where
  group := by
    show (db.groups.update g.id (effect (GroupChange.pushUser email))).findOne g.id = _
    rw [Collection.findOne_update_self _ h.group]
    by_cases hlisted : email ∈ g.users ++ added <;>
      simp [GroupChange.apply, addToSet, hlisted]
  users email' := by
    unfold Db.addLocked Db.addMember
    rw [hasUser_withUser, hasUser_withUser, ← h.users]
    exact hasUser_withUser
  free := h.free.addLocked g.id email

/-- The run over emails all of which belong to users. -/
theorem runs_addListed {db₀ : Db} {l added : List String} {r : Except JsError (List String)}
    (h : Adding g db₀ db added) (hknown : ∀ email ∈ l, HasUser db₀ email)
    (hrun : (Prog.each (groups.addOneUser g.id) l).Runs DbOp.exec db r db') :
    ∃ results more, r = .ok results ∧ List.Forall₂ AddResult l results ∧
      Adding g db₀ db' (added ++ more) ∧
        ∀ email, email ∈ more ↔ email ∈ l ∧ email ∉ g.users ++ added := by
  induction l generalizing db added r with
  | nil =>
    obtain ⟨rfl, rfl⟩ := hrun
    exact ⟨[], [], rfl, .nil, by simpa using h, by simp⟩
  | cons email l ih =>
    have hu := (h.users email).2 (hknown email List.mem_cons_self)
    rcases runs_bind.1 hrun with ⟨result, t, hone, hrest⟩ | ⟨e, hone, -⟩
    · obtain ⟨⟨result', hresult, hadded⟩, rfl⟩ := runs_addOneUser h.free hu hone
      obtain rfl := Except.ok.inj hresult
      have hadding := h.addLocked email
      have hlater : ∀ e ∈ l, HasUser db₀ e := fun e he => hknown e (List.mem_cons_of_mem _ he)
      rcases runs_bind.1 hrest with ⟨results, t, hl, rfl, rfl⟩ | ⟨e, hl, -⟩
      · obtain ⟨results', more, hresults, hall, hmore, hmem⟩ := ih hadding hlater hl
        obtain rfl := Except.ok.inj hresults
        by_cases hlisted : email ∈ g.users ++ added
        · rw [if_pos hlisted] at hmore hmem
          refine ⟨_, more, rfl, .cons hadded hall, hmore, fun e => ?_⟩
          rw [hmem, List.mem_cons]
          constructor
          · exact fun ⟨he, hnot⟩ => ⟨.inr he, hnot⟩
          · rintro ⟨rfl | he, hnot⟩
            · exact absurd hlisted hnot
            · exact ⟨he, hnot⟩
        · rw [if_neg hlisted] at hmore hmem
          refine ⟨_, email :: more, rfl, .cons hadded hall, by simpa using hmore, fun e => ?_⟩
          simp only [List.mem_cons, hmem, List.mem_append, not_or] at hlisted ⊢
          by_cases he : e = email
          · simpa [he] using hlisted
          · simp [he]
      · obtain ⟨results, -, hresults, -⟩ := ih hadding hlater hl
        cases hresults
    · obtain ⟨⟨result, hresult, -⟩, -⟩ := runs_addOneUser h.free hu hone
      cases hresult

/-- The run over emails of which one belongs to no user. -/
theorem runs_addListed_unknown {db₀ : Db} {l added : List String}
    {r : Except JsError (List String)} (h : Adding g db₀ db added)
    (hunknown : ∃ email ∈ l, ¬ HasUser db₀ email)
    (hrun : (Prog.each (groups.addOneUser g.id) l).Runs DbOp.exec db r db') :
    r = .error .notFound := by
  induction l generalizing db db' added r with
  | nil =>
    obtain ⟨email, hmem, -⟩ := hunknown
    cases hmem
  | cons email l ih =>
    by_cases hu : HasUser db email
    · rcases runs_bind.1 hrun with ⟨result, t, hone, hrest⟩ | ⟨e, hone, -⟩
      · obtain ⟨-, rfl⟩ := runs_addOneUser h.free hu hone
        have hlater : ∃ email ∈ l, ¬ HasUser db₀ email := by
          obtain ⟨email', hmem, hnot⟩ := hunknown
          rcases List.mem_cons.1 hmem with rfl | hmem
          · exact absurd ((h.users email').1 hu) hnot
          · exact ⟨email', hmem, hnot⟩
        rcases runs_bind.1 hrest with ⟨results, t, hl, -⟩ | ⟨e, hl, rfl⟩
        · cases ih (h.addLocked email) hlater hl
        · obtain rfl := Except.error.inj (ih (h.addLocked email) hlater hl)
          rfl
      · obtain ⟨⟨result, hresult, -⟩, -⟩ := runs_addOneUser h.free hu hone
        cases hresult
    · rcases runs_bind.1 hrun with ⟨result, t, hone, -⟩ | ⟨e, hone, rfl⟩
      · cases (runs_addOneUser_unknown hu hone).1
      · obtain rfl := Except.error.inj (runs_addOneUser_unknown hu hone).1
        rfl

/-! ### The answer -/

theorem infix_added {rest l : List Char} :
    'd' :: 'o' :: rest <:+: "added ".toList ++ l ↔ 'd' :: 'o' :: rest <:+: l := by
  simp [List.infix_cons_iff]

theorem infix_unchanged {rest l : List Char} :
    'd' :: 'o' :: rest <:+: "unchanged ".toList ++ l ↔ 'd' :: 'o' :: rest <:+: l := by
  simp [List.infix_cons_iff]

theorem AddResult.unknownUser {result : String} (h : AddResult email result) :
    groups.unknownUser result = groups.unknownUser email := by
  rcases h with rfl | rfl <;> unfold groups.unknownUser <;> rw [String.toList_append]
  · exact decide_eq_decide.2 infix_added
  · exact decide_eq_decide.2 infix_unchanged

theorem AddResult.ne {result : String} (h : AddResult email result) :
    result ≠ "unchanged" ∧ result ≠ "not found" := by
  have hlist : ∀ {s t : String}, s.toList ≠ t.toList → s ≠ t := fun h he => h (he ▸ rfl)
  rcases h with rfl | rfl
  · exact ⟨hlist (by simp), hlist (by simp)⟩
  · exact ⟨hlist (by simp), hlist (by simp)⟩

theorem any_unknownUser {l results : List String} (h : List.Forall₂ AddResult l results) :
    results.any groups.unknownUser = l.any groups.unknownUser := by
  induction h with
  | nil => rfl
  | cons hone _ ih => rw [List.any_cons, List.any_cons, hone.unknownUser, ih]

theorem without_results {l results : List String} (h : List.Forall₂ AddResult l results) :
    without results "unchanged" = results ∧ without results "not found" = results := by
  induction h with
  | nil => exact ⟨rfl, rfl⟩
  | cons hone _ ih =>
    simp only [without, List.filter_eq_self, decide_eq_true_eq] at ih ⊢
    exact ⟨List.forall_mem_cons.2 ⟨hone.ne.1, ih.1⟩, List.forall_mem_cons.2 ⟨hone.ne.2, ih.2⟩⟩

theorem runs_publishGroup {response : Response} {r : Except JsError (Option Response)}
    (hg : HasGroup db id) (hrun : (groups.publishGroup id response).Runs DbOp.exec db r db') :
    r = .ok (some response) ∧ db' = db := by
  obtain ⟨g, hg⟩ := hg
  unfold groups.publishGroup getGroup at hrun
  rw [bind_eq, Db.runs_findGroup, hg] at hrun
  exact hrun

/-- The request for emails that all belong to users. -/
theorem runs_addListedUsers {target : String} {l : List String}
    {r : Except JsError (Option Response)} (hg : db.groups.findOne g.id = some g)
    (hfree : NobodyLocked db) (hknown : ∀ email ∈ l, HasUser db email)
    (hrun : (groups.addListedUsers g.id target l).Runs DbOp.exec db r db') :
    (∃ added, Adding g db db' added ∧ ∀ email, email ∈ added ↔ email ∈ l ∧ email ∉ g.users) ∧
      ∃ message, r = .ok (some ⟨if l.any groups.unknownUser then 207 else 200, message⟩) := by
  unfold groups.addListedUsers at hrun
  rcases runs_bind.1 hrun with ⟨results, t, hl, hrest⟩ | ⟨e, hl, -⟩
  · obtain ⟨results', added, hresults, hall, hadding, hmem⟩ := runs_addListed (.refl hg hfree) hknown hl
    obtain rfl := Except.ok.inj hresults
    rw [List.nil_append] at hadding
    have hgroup : HasGroup t g.id := ⟨_, hadding.group⟩
    have hadded : ∀ email, email ∈ added ↔ email ∈ l ∧ email ∉ g.users := by simpa using hmem
    obtain ⟨hunchanged, hnotFound⟩ := without_results hall
    rw [hunchanged, hnotFound, any_unknownUser hall] at hrest
    split at hrest
    · rename_i hnil
      subst hnil
      cases hall
      obtain ⟨rfl, rfl⟩ := hrest
      exact ⟨⟨added, hadding, hadded⟩, _, rfl⟩
    split at hrest
    · rename_i hany
      obtain ⟨rfl, rfl⟩ := runs_publishGroup hgroup hrest
      rw [if_pos hany]
      exact ⟨⟨added, hadding, hadded⟩, _, rfl⟩
    · rename_i hany
      obtain ⟨rfl, rfl⟩ := runs_publishGroup hgroup hrest
      rw [if_neg hany]
      exact ⟨⟨added, hadding, hadded⟩, _, rfl⟩
  · obtain ⟨results, -, hresults, -⟩ := runs_addListed (.refl hg hfree) hknown hl
    cases hresults

theorem runs_addListedUsers_unknown {target : String} {l : List String}
    {r : Except JsError (Option Response)} (hg : db.groups.findOne g.id = some g)
    (hfree : NobodyLocked db) (hunknown : ∃ email ∈ l, ¬ HasUser db email)
    (hrun : (groups.addListedUsers g.id target l).Runs DbOp.exec db r db') :
    r = .error .notFound := by
  unfold groups.addListedUsers at hrun
  rcases runs_bind.1 hrun with ⟨results, t, hl, -⟩ | ⟨e, hl, rfl⟩
  · cases runs_addListed_unknown (.refl hg hfree) hunknown hl
  · obtain rfl := Except.error.inj (runs_addListed_unknown (.refl hg hfree) hunknown hl)
    rfl

/-- The listed emails that are not in the group. -/
def newEmails (db : Db) (g : Group) (emails : Option String) : List String :=
  difference (listedToAdd db g emails) g.users

/-- A permitted request of a member of the group. -/
theorem runs_addGroupUsers {user : User} {emails : Option String} {redirected : Bool}
    {r : Except JsError (Option Response)} (hg : db.groups.findOne g.id = some g)
    (hedit : hasGroupEditPermission g user) (hmember : g.isMember user.email = true)
    (hrun : (groups.addGroupUsers user g.id emails redirected).Runs DbOp.exec db r db') :
    ∃ r', (groups.addListedUsers g.id (if redirected then "user" else "users")
      (newEmails db g emails)).Runs DbOp.exec db r' db' ∧
        (r = r' ∨ (∃ e, r' = .error e) ∧ r = .ok (some internalError)) := by
  have hnew : ((db.users.docs.filter fun _ => true).filter fun u => u.email ∉ g.users).map
      (·.email) = newEmails db g none := by
    rw [List.filter_true]
    refine (List.filter_eq_self.2 fun email hemail => ?_).symm
    obtain ⟨u, hu, rfl⟩ := List.mem_map.1 hemail
    exact (List.mem_filter.1 hu).2
  rcases runs_tryCatch.1 hrun with ⟨a, hin, rfl⟩ | ⟨e, t, hin, rfl, rfl⟩
  all_goals
    rw [bind_eq, Db.runs_getUserGroup, hg, Option.filter_some_pos hmember] at hin
    simp only [hedit, Bool.not_true, Bool.false_eq_true, if_false] at hin
  · refine ⟨_, ?_, .inl rfl⟩
    cases emails with
    | none =>
      rw [← hnew]
      exact hin
    | some emails => exact hin
  · refine ⟨_, ?_, .inr ⟨⟨e, rfl⟩, rfl⟩⟩
    cases emails with
    | none =>
      rw [← hnew]
      exact hin
    | some emails => exact hin

theorem runs_addGroupUsers_stranger {user : User} {emails : Option String} {redirected : Bool}
    {r : Except JsError (Option Response)} (hg : db.groups.findOne g.id = some g)
    (hmember : g.isMember user.email = false)
    (hrun : (groups.addGroupUsers user g.id emails redirected).Runs DbOp.exec db r db') :
    r = .ok none := by
  rcases runs_tryCatch.1 hrun with ⟨a, hin, rfl⟩ | ⟨e, t, hin, -⟩
  all_goals
    rw [bind_eq, Db.runs_getUserGroup, hg, Option.filter_some_neg hmember] at hin
  · exact hin.1
  · cases hin.1

/-- The requester is a member of the group, every listed email that is not in the group belongs to a
user, and a listed email belongs to no user exactly if a new one contains the words by which it would
be known. -/
structure CanAddUsers (db : Db) (user : User) (g : Group) (emails : Option String) : Prop where
  member : g.isMember user.email = true
  known : ∀ email ∈ newEmails db g emails, HasUser db email
  answer : (∃ email ∈ listedToAdd db g emails, ¬ HasUser db email) ↔
    ∃ email ∈ newEmails db g emails, groups.unknownUser email

theorem code_inj {p q : Prop} [Decidable p] [Decidable q]
    (h : (if p then 207 else 200) = if q then 207 else 200) : p ↔ q := by
  by_cases hp : p <;> by_cases hq : q <;> simp [hp, hq] at h ⊢

theorem internalError_ne {p : Prop} [Decidable p] {message : String} :
    (.ok (some internalError) : Except JsError (Option Response)) ≠
      .ok (some ⟨if p then 207 else 200, message⟩) := by
  intro h
  have hcode : 500 = if p then 207 else 200 :=
    congrArg Response.code (Option.some.inj (Except.ok.inj h))
  split at hcode <;> cases hcode

/-- **When a request adds the known users.** -/
theorem addsKnownUsers_iff {user : User} {emails : Option String} {redirected : Bool}
    (hg : db.groups.findOne g.id = some g) (hedit : hasGroupEditPermission g user)
    (hfree : NobodyLocked db) :
    AddsKnownUsers db user g emails redirected ↔ CanAddUsers db user g emails := by
  constructor
  · intro hadds
    obtain ⟨r, db', hrun⟩ := exists_runs DbOp.exec
      (groups.addGroupUsers user g.id emails redirected) db
    obtain ⟨-, message, hr⟩ := hadds r db' hrun
    have hmember : g.isMember user.email = true := by
      by_contra hnot
      have hnone := runs_addGroupUsers_stranger hg (Bool.eq_false_iff.2 hnot) hrun
      rw [hr] at hnone
      cases hnone
    obtain ⟨r', hlisted, hr'⟩ := runs_addGroupUsers hg hedit hmember hrun
    have hknown : ∀ email ∈ newEmails db g emails, HasUser db email := by
      by_contra hnot
      push Not at hnot
      obtain rfl := runs_addListedUsers_unknown hg hfree hnot hlisted
      rcases hr' with hr' | ⟨-, hr'⟩
      · rw [hr] at hr'
        cases hr'
      · exact internalError_ne (hr'.symm.trans hr)
    obtain ⟨-, message', rfl⟩ := runs_addListedUsers hg hfree hknown hlisted
    refine ⟨hmember, hknown, ?_⟩
    rcases hr' with hr' | ⟨⟨e, he⟩, -⟩
    · rw [hr] at hr'
      have hcode := congrArg Response.code (Option.some.inj (Except.ok.inj hr'))
      exact (code_inj hcode).trans List.any_eq_true
    · cases he
  · rintro ⟨hmember, hknown, hanswer⟩ r db' hrun
    obtain ⟨r', hlisted, hr'⟩ := runs_addGroupUsers hg hedit hmember hrun
    obtain ⟨⟨added, hadding, hmem⟩, message, hmessage⟩ := runs_addListedUsers hg hfree hknown hlisted
    refine ⟨⟨_, hadding.group, added, rfl, fun email => ?_⟩, message, ?_⟩
    · rw [hmem, newEmails, mem_difference]
      constructor
      · exact fun ⟨⟨hemail, hnot⟩, _⟩ =>
          ⟨hemail, hnot, hknown email (mem_difference.2 ⟨hemail, hnot⟩)⟩
      · exact fun ⟨hemail, hnot, _⟩ => ⟨⟨hemail, hnot⟩, hnot⟩
    · rcases hr' with rfl | ⟨⟨e, rfl⟩, -⟩
      · rw [hmessage]
        have hcode : ((newEmails db g emails).any groups.unknownUser = true) ↔
            ∃ email ∈ listedToAdd db g emails, ¬ HasUser db email := by
          rw [hanswer, List.any_eq_true]
        rw [if_congr hcode rfl rfl]
      · cases hmessage

/-- A group `g` of the user `u`, and another user `w`. -/
def addingDb : Db where
  users := ⟨[Sample.user "u" ⟨5, 0⟩ ⟨1, 0⟩, Sample.user "w" ⟨5, 0⟩ ⟨0, 0⟩], by simp [Sample.user]⟩
  groups := ⟨[Sample.booking "g" "u" .once 0 [⟨0, 1⟩] 0 []], by simp⟩
  devices := .empty

theorem addsKnownUsers_one : AddsKnownUsers addingDb (Sample.user "u" ⟨5, 0⟩ ⟨1, 0⟩)
    (Sample.booking "g" "u" .once 0 [⟨0, 1⟩] 0 []) (some "w") false :=
  (addsKnownUsers_iff (by decide) (by decide) (by decide)).2
    ⟨by decide, by decide, by decide⟩

/-- **An unknown email** ends the request with an internal error. -/
theorem not_addsKnownUsers_of_unknown : ¬ AddsKnownUsers addingDb
    (Sample.user "u" ⟨5, 0⟩ ⟨1, 0⟩) (Sample.booking "g" "u" .once 0 [⟨0, 1⟩] 0 [])
    (some "x,w") false := by
  intro hadds
  obtain ⟨-, message, hanswer⟩ := hadds (.ok (some internalError)) _ (runs_eval _ _ _)
  exact internalError_ne hanswer

end DeviceHub

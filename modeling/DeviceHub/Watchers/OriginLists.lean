import DeviceHub.Async.Protocol
import DeviceHub.Db.Ops
import DeviceHub.Db.Sample
import DeviceHub.Watchers.Devices

/-!
# The lists of the origin groups

The events of the change stream come in order, but nothing waits for their handlers: those of two
moves of one device run at the same time.

## Main definitions

* `handle` : the handler of an update, up to what it does not wait for.
* `Handling` : the view of a handler: its event, and how far it has come.
* `Watching.system` : requests, the stream, and the handlers.
* `Watching.Orderly` : the condition on a step.
* `Watching.Tracks` : the invariant: the changes of a device that are not handled lead from the
  group in whose list it is to its origin group.

## Main results

* `obeys_handle` : the handlers follow the protocol of their views.
* `Watching.listed_of_run` : the lists follow the devices in the runs whose steps all meet the
  condition.
* `Watching.not_listed_of_overlap` : a device that moves twice stays in the list of the group in
  between.
-/

namespace DeviceHub

open Prog Machine apiutil lodash GroupModel AllModel

namespace watchers

/-! ### The handler -/

/-- `leaveOriginGroup`, up to what it does not wait for: the changes that the devices of the group
make. -/
def leaveOriginList (origin serial : String) : DbM (Option Group) := do
  match ← getGroup origin with
  | none => return none
  | some oldOriginGroup =>
    let newGroup ← Db.updateGroup oldOriginGroup.id (.pullDevice serial)
    let newGroup ← sendGroupChange (newGroup.map (·.2))
    return some newGroup

/-- `enterOriginGroup`, up to what it does not wait for. -/
def enterOriginList (origin serial : String) : DbM (Option Group) := do
  match ← getGroup origin with
  | none => return none
  | some newOriginGroup =>
    let newGroup ← Db.updateGroup newOriginGroup.id (.pushDevice serial)
    let newGroup ← sendGroupChange (newGroup.map (·.2))
    return some newGroup

/-- `updateGroups`, with what it does to leave the old group and to enter the new one. -/
def updateGroupsWith (leave enter : DbM Unit) (group : Group) (oldDoc newDoc : Device) : DbM Unit := do
  let isChangeCurrentGroup := newDoc.group.id ≠ oldDoc.group.id
  let isChangeOriginGroup := newDoc.group.origin ≠ oldDoc.group.origin
  let isChangeLifeTime :=
    newDoc.group.lifeTime.map (·.start) ≠ oldDoc.group.lifeTime.map (·.start)
  if isChangeLifeTime ∧ ¬ isChangeCurrentGroup ∧ ¬ isChangeOriginGroup then
    sendDeviceGroupChange group
  else
    let _ ← (if isChangeCurrentGroup ∧ ¬ newDoc.owner.any fun owner => owner.email ∉ group.users then
      sendDeviceGroupChange group else return ())
    if isChangeOriginGroup then
      leave
      enter
      if isChangeCurrentGroup then return () else sendDeviceGroupChange group
    else return ()

/-- The handler of an update, with these. -/
def handleWith (leave enter : DbM Unit) (oldDoc newDoc : Device) : DbM Unit :=
  Prog.tryCatch (do
    match ← getGroup newDoc.group.id with
    | none => return ()
    | some group => updateGroupsWith leave enter group oldDoc newDoc)
    fun _ => return ()

/-- The handler of an update, up to what it does not wait for. -/
def handle (oldDoc newDoc : Device) : DbM Unit :=
  handleWith ((leaveOriginList oldDoc.group.origin newDoc.serial).bind fun _ => .ret ())
    ((enterOriginList newDoc.group.origin newDoc.serial).bind fun _ => .ret ()) oldDoc newDoc

theorem bind_ret_unit {p : DbM Unit} : (p.bind fun _ => .ret ()) = p := by
  induction p with
  | ret a => rfl
  | fail e => rfl
  | act o k ih => exact congrArg (Prog.act o) (funext ih)
  | alt p q ihp ihq => exact congrArg₂ Prog.alt ihp ihq

/-- What leaving the group does, the devices of the group included. -/
theorem leaveOriginGroup_eq (origin serial : String) : leaveOriginGroup origin serial =
    (leaveOriginList origin serial).bind fun newGroup =>
      newGroup.elim (.ret ()) fun newGroup => treatGroupDevicesChange newGroup [serial] false := by
  unfold leaveOriginGroup leaveOriginList removeOriginGroupDevice
  simp only [bind_eq, pure_eq]
  rw [bind_assoc]
  refine congrArg (getGroup origin).bind (funext fun group => ?_)
  cases group with
  | none => rfl
  | some group =>
    dsimp only
    rw [bind_assoc, bind_assoc]
    refine congrArg (Prog.bind _) (funext fun update => ?_)
    rw [bind_assoc, bind_assoc]
    refine congrArg (Prog.bind _) (funext fun newGroup => ?_)
    rw [bind_assoc]
    exact bind_ret_unit

theorem enterOriginGroup_eq (origin serial : String) : enterOriginGroup origin serial =
    (enterOriginList origin serial).bind fun newGroup =>
      newGroup.elim (.ret ()) fun newGroup => treatGroupDevicesChange newGroup [serial] true := by
  unfold enterOriginGroup enterOriginList addOriginGroupDevice
  simp only [bind_eq, pure_eq]
  rw [bind_assoc]
  refine congrArg (getGroup origin).bind (funext fun group => ?_)
  cases group with
  | none => rfl
  | some group =>
    dsimp only
    rw [bind_assoc, bind_assoc]
    refine congrArg (Prog.bind _) (funext fun update => ?_)
    rw [bind_assoc, bind_assoc]
    refine congrArg (Prog.bind _) (funext fun newGroup => ?_)
    rw [bind_assoc]
    exact bind_ret_unit

theorem onDeviceChange_update (oldDoc newDoc : Device) : onDeviceChange (.update oldDoc newDoc) =
    handleWith (leaveOriginGroup oldDoc.group.origin newDoc.serial)
      (enterOriginGroup newDoc.group.origin newDoc.serial) oldDoc newDoc := rfl

/-! ### The views -/

/-- How far a handler has come: it looks for the current group of the device, it takes the device
out of one list and puts it into the other, or it has ended, perhaps too early. -/
inductive Stage where
  | looking
  | leaving
  | entering
  | done
  | quit
  deriving DecidableEq

/-- A handler and its event. -/
structure Handling where
  oldDoc : Device
  newDoc : Device
  stage : Stage
  deriving DecidableEq

namespace Handling

/-- The handler of a change begins. -/
def start (c : Device × Device) : Handling := ⟨c.1, c.2, .looking⟩

/-- The handler comes to another stage. -/
def at_ (h : Handling) (stage : Stage) : Handling := { h with stage := stage }

/-- The origin group of the device has changed. -/
def Moves (h : Handling) : Prop := h.newDoc.group.origin ≠ h.oldDoc.group.origin

instance (h : Handling) : Decidable h.Moves := inferInstanceAs (Decidable (_ ≠ _))

/-- The message about the current group can be sent, if there is one. -/
def Sends (h : Handling) (group : Group) : Prop :=
  h.newDoc.group.id ≠ h.oldDoc.group.id ∧
    ¬ h.newDoc.owner.any (fun owner => owner.email ∉ group.users) → group.dates ≠ []

instance (h : Handling) (group : Group) : Decidable (h.Sends group) :=
  inferInstanceAs (Decidable (_ → _))

/-- What the answers of the database tell about the handler. -/
def log (h : Handling) (o : DbOp) (r : o.Res) : Handling :=
  match h.stage, o, r with
  | .looking, .groups (.findOne _), group =>
    if h.Moves then
      if ∃ g ∈ (group : Option Group), h.Sends g then h.at_ .leaving else h.at_ .quit
    else h.at_ .done
  | .leaving, .groups (.findOne _), group =>
    if (group : Option Group).isSome then h else h.at_ .entering
  | .leaving, .groups (.update _ _), update =>
    if (update : Option (Group × Group)).isSome then h.at_ .entering else h.at_ .quit
  | .entering, .groups (.findOne _), group =>
    if (group : Option Group).isSome then h else h.at_ .done
  | .entering, .groups (.update _ _), _ => h.at_ .done
  | _, _, _ => h

/-- What a handler does that has come so far. -/
def Does (h : Handling) (o : DbOp) : Prop :=
  match h.stage with
  | .looking => o = .groups (.findOne h.newDoc.group.id)
  | .leaving => o = .groups (.findOne h.oldDoc.group.origin) ∨
      o = .groups (.update h.oldDoc.group.origin (.pullDevice h.newDoc.serial))
  | .entering => o = .groups (.findOne h.newDoc.group.origin) ∨
      o = .groups (.update h.newDoc.group.origin (.pushDevice h.newDoc.serial))
  | _ => False

/-- The handler has nothing left to do. -/
def Ended (h : Handling) : Prop := h.stage = .done ∨ h.stage = .quit

instance (h : Handling) : Decidable h.Ended := inferInstanceAs (Decidable (_ ∨ _))

end Handling

/-- The lists of the groups stay, and no group or device is created. -/
def KeepsLists : DbOp → Prop
  | .groups (.update _ f) | .groups (.updateMany _ f) =>
    ∀ g, (f.apply g).devices = g.devices ∧ (f.apply g).class_ = g.class_
  | .groups (.insert _) | .devices (.insert _) => False
  | _ => True

/-- Requests, which have no view, and handlers. -/
def watchMachine : Machine DbOp DbOp.Res Db (Option Handling) where
  exec := DbOp.exec
  log v o r := v.map fun h => h.log o r

/-- Requests keep the lists, and handlers do what their views tell. -/
def WatchProtocol : Option Handling → DbOp → Prop
  | none, o => KeepsLists o
  | some h, o => h.Does o

/-! ### The handlers follow the protocol -/

theorem obeys_leave (h : Handling) : watchMachine.Obeys WatchProtocol (some (h.at_ .leaving))
    ((leaveOriginList h.oldDoc.group.origin h.newDoc.serial).bind fun _ => .ret ())
    fun v r => match r with
      | .ok _ => v = some (h.at_ .entering)
      | .error _ => v = some (h.at_ .quit) := by
  refine ⟨.inl rfl, fun db => ?_⟩
  generalize hr : (watchMachine.exec (.groups (.findOne h.oldDoc.group.origin)) db).1 = r
  rcases r with _ | g
  · rfl
  · have hkey : g.id = h.oldDoc.group.origin := Collection.key_of_findOne hr
    refine ⟨.inr (by rw [hkey]; rfl), fun db' => ?_⟩
    generalize (watchMachine.exec (.groups (.update g.id (.pullDevice h.newDoc.serial))) db').1 = u
    rcases u with _ | ⟨old, new⟩ <;> rfl

theorem obeys_enter (h : Handling) : watchMachine.Obeys WatchProtocol (some (h.at_ .entering))
    ((enterOriginList h.newDoc.group.origin h.newDoc.serial).bind fun _ => .ret ())
    fun v _ => v = some (h.at_ .done) := by
  refine ⟨.inl rfl, fun db => ?_⟩
  generalize hr : (watchMachine.exec (.groups (.findOne h.newDoc.group.origin)) db).1 = r
  rcases r with _ | g
  · rfl
  · have hkey : g.id = h.newDoc.group.origin := Collection.key_of_findOne hr
    refine ⟨.inr (by rw [hkey]; rfl), fun db' => ?_⟩
    generalize (watchMachine.exec (.groups (.update g.id (.pushDevice h.newDoc.serial))) db').1 = u
    rcases u with _ | ⟨old, new⟩ <;> rfl

theorem obeys_sendDeviceGroupChange {v : Option Handling} {group : Group}
    {Q : Option Handling → Except JsError Unit → Prop} (hQ : ∀ r, Q v r) :
    watchMachine.Obeys WatchProtocol v (sendDeviceGroupChange group) Q := by
  unfold sendDeviceGroupChange
  split
  · exact hQ _
  · exact hQ _

/-- The handler has ended. -/
def Over (v : Option Handling) : Prop := ∃ h ∈ v, h.Ended

theorem over_done (h : Handling) : Over (some (h.at_ .done)) := ⟨_, rfl, .inl rfl⟩

theorem over_quit (h : Handling) : Over (some (h.at_ .quit)) := ⟨_, rfl, .inr rfl⟩

/-- The handler, once it has found the current group. -/
theorem obeys_updateGroups {h : Handling} (hstage : h.stage = .looking) (group : Group) :
    watchMachine.Obeys WatchProtocol
      (some (h.log (.groups (.findOne h.newDoc.group.id)) (some group)))
      (updateGroupsWith ((leaveOriginList h.oldDoc.group.origin h.newDoc.serial).bind fun _ => .ret ())
        ((enterOriginList h.newDoc.group.origin h.newDoc.serial).bind fun _ => .ret ()) group h.oldDoc
        h.newDoc) fun v _ => Over v := by
  have hlog : h.log (.groups (.findOne h.newDoc.group.id)) (some group) =
      if h.Moves then if h.Sends group then h.at_ .leaving else h.at_ .quit else h.at_ .done := by
    unfold Handling.log
    rw [hstage]
    simp only [Option.mem_def, Option.some.injEq, exists_eq_left']
  rw [hlog]
  unfold updateGroupsWith
  dsimp only
  by_cases hmoves : h.Moves
  · have hstay : ¬ (h.newDoc.group.lifeTime.map (·.start) ≠ h.oldDoc.group.lifeTime.map (·.start) ∧
        ¬ h.newDoc.group.id ≠ h.oldDoc.group.id ∧
        ¬ h.newDoc.group.origin ≠ h.oldDoc.group.origin) := fun hstay => hstay.2.2 hmoves
    rw [if_pos hmoves]
    by_cases hsends : h.Sends group
    · rw [if_pos hsends, if_neg hstay]
      -- the message can be sent, and the device leaves one list and enters the other
      refine Obeys.bind (Q := fun v r => v = some (h.at_ .leaving) ∧ ∃ u, r = .ok u) ?_ ?_ ?_
      · split
        · rename_i hchange
          unfold sendDeviceGroupChange
          rw [if_neg (hsends hchange)]
          exact ⟨rfl, _, rfl⟩
        · exact ⟨rfl, _, rfl⟩
      · rintro _ u ⟨rfl, -⟩
        rw [if_pos (show h.newDoc.group.origin ≠ h.oldDoc.group.origin from hmoves)]
        refine Obeys.bind (obeys_leave h) ?_ ?_
        · rintro _ u rfl
          refine Obeys.bind (obeys_enter h) ?_ ?_
          · rintro _ u rfl
            split
            · exact over_done h
            · exact obeys_sendDeviceGroupChange fun _ => over_done h
          · rintro _ e rfl
            exact over_done h
        · rintro _ e rfl
          exact over_quit h
      · rintro _ e ⟨-, u, hu⟩
        cases hu
    · -- the message cannot be sent, and the handler throws before it changes a list
      rw [if_neg hsends, if_neg hstay]
      unfold Handling.Sends at hsends
      rw [not_forall] at hsends
      obtain ⟨hchange, hdates⟩ := hsends
      rw [if_pos hchange]
      unfold sendDeviceGroupChange
      rw [if_pos (not_not.1 hdates)]
      exact over_quit h
  · -- the device stays in its origin group
    rw [if_neg hmoves]
    split
    · exact obeys_sendDeviceGroupChange fun _ => over_done h
    · refine Obeys.bind (Q := fun v _ => v = some (h.at_ .done)) ?_ ?_ ?_
      · split
        · exact obeys_sendDeviceGroupChange fun _ => rfl
        · exact rfl
      · rintro _ u rfl
        rw [if_neg (show ¬ h.newDoc.group.origin ≠ h.oldDoc.group.origin from hmoves)]
        exact over_done h
      · rintro _ e rfl
        exact over_done h

/-- **The handlers follow the protocol** of their views, and have ended in these when they have. -/
theorem obeys_handle (c : Device × Device) :
    watchMachine.Obeys WatchProtocol (some (.start c)) (handle c.1 c.2) fun v _ => Over v := by
  refine Obeys.tryCatch (Q := fun v _ => Over v) ⟨rfl, fun db => ?_⟩ (fun v e hv => hv)
    fun v a hv => hv
  generalize (watchMachine.exec (.groups (.findOne c.2.group.id)) db).1 = r
  rcases r with _ | group
  · show Over (some (if (Handling.start c).Moves then if _ then _ else _ else _))
    split_ifs with hmoves hfound
    · obtain ⟨g, hg, -⟩ := hfound
      cases hg
    · exact over_quit _
    · exact over_done _
  · exact obeys_updateGroups (h := .start c) rfl group

/-! ### Requests -/

theorem keepsLists_of_places {o : DbOp} (h : o.Places) : KeepsLists o := by
  obtain ⟨⟨hgroups, -⟩, hlocks⟩ := h
  cases o with
  | users o => trivial
  | groups o => cases o <;> trivial
  | devices o => cases o <;> trivial

/-- The requests that change the origins of devices, the changes that the watcher does not wait for,
and whatever else keeps the lists. -/
inductive OriginRequest where
  | updateDevicesOriginGroup (serials : List String) (group : Group)
  | returnDevicesToRoot (serials : List String)
  | deleteUserGroup (id : String)
  | treatGroupDevicesChange (group : Group) (serials : List String) (isAddedDevice : Bool)
  | other (work : DbM Unit) (hwork : work.Ops KeepsLists)

namespace OriginRequest

/-- What the request does; its answer is no matter here. -/
def prog : OriginRequest → DbM Unit
  | .updateDevicesOriginGroup serials group =>
    (AllModel.updateDevicesOriginGroup serials group).bind fun _ => .ret ()
  | .returnDevicesToRoot serials => (AllModel.returnDevicesToRoot serials).bind fun _ => .ret ()
  | .deleteUserGroup id => (GroupModel.deleteUserGroup id).bind fun _ => .ret ()
  | .treatGroupDevicesChange group serials isAddedDevice =>
    GroupModel.treatGroupDevicesChange group serials isAddedDevice
  | .other work _ => work

theorem keepsLists (r : OriginRequest) : r.prog.Ops KeepsLists := by
  have hplaces : ∀ o : DbOp, o.Places → KeepsLists o := fun _ => keepsLists_of_places
  cases r with
  | updateDevicesOriginGroup serials group =>
    exact Ops.bind (Ops.bind (ops_perform.2 trivial) fun _ => ops_ret) fun _ => ops_ret
  | returnDevicesToRoot serials =>
    exact Ops.bind (ops_of_places hplaces (places_returnDevicesToRoot serials)) fun _ => ops_ret
  | deleteUserGroup id =>
    exact Ops.bind (ops_deleteUserGroup hplaces trivial (fun _ _ => trivial) (fun _ => trivial)
      fun _ _ => trivial) fun _ => ops_ret
  | treatGroupDevicesChange group serials isAddedDevice =>
    exact ops_of_places hplaces (places_treatGroupDevicesChange group serials isAddedDevice)
  | other work hwork => exact hwork

theorem obeys (r : OriginRequest) :
    watchMachine.Obeys WatchProtocol none r.prog fun v _ => v = none :=
  .of_ops (fun _ ho => ho) (fun _ _ _ => rfl) r.keepsLists

end OriginRequest

/-! ### Runs -/

/-- The changes that have not been delivered, in their order, and the requests and handlers. -/
structure Watching where
  db : Db
  stream : List (Device × Device)
  tasks : List (Option Handling × DbM Unit)

namespace Watching

/-- Nothing has been asked for. -/
def start (db : Db) : Watching := ⟨db, [], []⟩

/-- What can happen to the watcher. -/
inductive Label where
  | request (r : OriginRequest)
  | deliver
  | call (mv : Machine.Move DbOp Db (Option Handling))

/-- The first change in the stream gets its handler, and each call appends the changes that it
makes. -/
def system : Lts Watching Label where
  step s l s' := match l with
    | .request r => s' = { s with tasks := s.tasks ++ [(none, r.prog)] }
    | .deliver => ∃ c rest, s.stream = c :: rest ∧ s' = { s with
        stream := rest
        tasks := s.tasks ++ [(some (.start c), handle c.1 c.2)] }
    | .call mv => (watchMachine.pool JsError Unit).step (s.tasks, s.db) mv (s'.tasks, s'.db) ∧
        s'.stream = s.stream ++ changes s.db s'.db

/-- The handlers, and then the changes that have not been delivered. -/
def handlings (s : Watching) : List Handling := s.tasks.filterMap Prod.fst ++ s.stream.map .start

/-- A device is in the list of an origin group if and only if this is its origin. -/
def Listed (db : Db) : Prop :=
  ∀ d ∈ db.devices.docs, ∀ g ∈ db.groups.docs, isOriginGroup g.class_ = true →
    (d.serial ∈ g.devices ↔ d.group.origin = g.id)

instance (db : Db) : Decidable (Listed db) :=
  inferInstanceAs (Decidable (∀ d ∈ db.devices.docs, ∀ g ∈ db.groups.docs, _ → _))

/-- All handlers of moves of the device that were started before are done. -/
def First (s : Watching) (who : Nat) (h : Handling) : Prop :=
  ∀ e ∈ s.tasks.take who, ∀ h' ∈ e.1, h'.Moves → h'.newDoc.serial = h.newDoc.serial →
    h'.stage = .done

instance (s : Watching) (who : Nat) (h : Handling) : Decidable (s.First who h) := by
  unfold First
  infer_instance

/-- The handler of a move finds the current group of the device, and has no message that cannot be
sent.  It takes the device out of the list of a group that exists, or finds that this does not, when
the handlers of earlier moves are done. -/
def Keeps (s : Watching) (who : Nat) (h : Handling) (o : DbOp) : Prop :=
  match h.stage, o with
  | .looking, _ => ∃ group ∈ s.db.groups.findOne h.newDoc.group.id, h.Sends group
  | .leaving, .groups (.update _ _) =>
    (s.db.groups.findOne h.oldDoc.group.origin).isSome ∧ s.First who h
  | .leaving, _ => (s.db.groups.findOne h.oldDoc.group.origin).isSome ∨ s.First who h
  | _, _ => True

/-- The condition. -/
def Orderly (s : Watching) : Label → Prop
  | .call mv => ∀ h ∈ mv.view, h.Moves → s.Keeps mv.who h mv.op
  | _ => True

instance (s : Watching) (who : Nat) (h : Handling) (o : DbOp) : Decidable (s.Keeps who h o) := by
  unfold Keeps
  split
  · cases hg : s.db.groups.findOne h.newDoc.group.id with
    | none => exact .isFalse (by rintro ⟨g, hg', -⟩; cases hg')
    | some g => exact decidable_of_iff (h.Sends g) (by simp)
  all_goals infer_instance

instance (s : Watching) (l : Label) : Decidable (s.Orderly l) := by
  unfold Orderly
  split <;> infer_instance

/-! ### What is not handled -/

/-- The changes lead from one origin group to the other. -/
def Chained : String → List Handling → String → Prop
  | a, [], b => a = b
  | a, h :: l, b => h.oldDoc.group.origin = a ∧ Chained h.newDoc.group.origin l b

theorem chained_append {a b : String} {l l' : List Handling} :
    Chained a (l ++ l') b ↔ ∃ m, Chained a l m ∧ Chained m l' b := by
  induction l generalizing a with
  | nil =>
    constructor
    · exact fun h => ⟨a, rfl, h⟩
    · rintro ⟨m, rfl, h⟩
      exact h
  | cons h l ih =>
    show (_ ∧ Chained _ (l ++ l') b) ↔ _
    rw [ih]
    constructor
    · rintro ⟨hold, m, hl, hl'⟩
      exact ⟨m, ⟨hold, hl⟩, hl'⟩
    · rintro ⟨m, ⟨hold, hl⟩, hl'⟩
      exact ⟨hold, m, hl, hl'⟩

/-- The changes lead to the origin of the device from the group in whose list it is; while the first
handler puts it into another list, it is in none. -/
def Follows (db : Db) (serial origin : String) (l : List Handling) : Prop :=
  ∃ a, Chained a l origin ∧ (∀ h ∈ l.tail, h.stage ≠ .entering) ∧
    ∀ g ∈ db.groups.docs, isOriginGroup g.class_ = true →
      (serial ∈ g.devices ↔ g.id = a ∧ ∀ h ∈ l.head?, h.stage ≠ .entering)

variable {db db' : Db} {serial origin : String} {l l' : List Handling} {h : Handling} {stage : Stage}

/-- Every group is one that there was, as far as the lists are concerned. -/
def SameLists (serial : String) (db db' : Db) : Prop :=
  ∀ g' ∈ db'.groups.docs, ∃ g ∈ db.groups.docs, g'.id = g.id ∧ g'.class_ = g.class_ ∧
    (serial ∈ g'.devices ↔ serial ∈ g.devices)

theorem Follows.congr (hfollows : Follows db serial origin l) (hsame : SameLists serial db db') :
    Follows db' serial origin l := by
  obtain ⟨a, hchained, htail, hlists⟩ := hfollows
  refine ⟨a, hchained, htail, fun g' hg' horigin => ?_⟩
  obtain ⟨g, hg, hid, hclass, hdevices⟩ := hsame g' hg'
  rw [hdevices, hid]
  exact hlists g hg (hclass ▸ horigin)

/-- A handler goes on, and does not change the lists. -/
theorem Follows.goOn (hfollows : Follows db serial origin (l ++ h :: l'))
    (hold : h.stage ≠ .entering) (hnew : stage ≠ .entering) :
    Follows db serial origin (l ++ h.at_ stage :: l') := by
  obtain ⟨a, hchained, htail, hlists⟩ := hfollows
  refine ⟨a, ?_, ?_, ?_⟩
  · obtain ⟨m, hl, hl'⟩ := chained_append.1 hchained
    exact chained_append.2 ⟨m, hl, hl'⟩
  · rcases l with _ | ⟨first, l⟩
    · exact htail
    · exact forall_mem_middle (l := l) htail hnew
  · rcases l with _ | ⟨first, l⟩
    · intro g hg horigin
      rw [hlists g hg horigin]
      refine and_congr_right fun _ => iff_of_true (fun h' hh' => ?_) fun h' hh' => ?_
      · obtain rfl := Option.some.inj hh'
        exact hold
      · obtain rfl := Option.some.inj hh'
        exact hnew
    · exact hlists

theorem Follows.leave (hfollows : Follows db serial origin (h :: l))
    (hgone : ∀ g' ∈ db'.groups.docs, isOriginGroup g'.class_ = true →
      (∃ g ∈ db.groups.docs, g'.id = g.id ∧ g'.class_ = g.class_ ∧
        (serial ∈ g'.devices → serial ∈ g.devices ∧ g.id ≠ h.oldDoc.group.origin))) :
    Follows db' serial origin (h.at_ .entering :: l) := by
  obtain ⟨a, hchained, htail, hlists⟩ := hfollows
  refine ⟨a, hchained, htail, fun g' hg' horigin => iff_of_false (fun hin => ?_) fun hhead => ?_⟩
  · obtain ⟨g, hg, hid, hclass, hdevices⟩ := hgone g' hg' horigin
    obtain ⟨hin, hne⟩ := hdevices hin
    obtain ⟨heq, -⟩ := (hlists g hg (hclass ▸ horigin)).1 hin
    exact hne (heq.trans hchained.1.symm)
  · exact hhead.2 _ rfl rfl

/-- The first handler has put the device into the list of the group. -/
theorem Follows.enter (hfollows : Follows db serial origin (h :: l)) (hstage : h.stage = .entering)
    (hin : ∀ g' ∈ db'.groups.docs, isOriginGroup g'.class_ = true →
      (∃ g ∈ db.groups.docs, g'.id = g.id ∧ g'.class_ = g.class_ ∧
        (serial ∈ g'.devices ↔ serial ∈ g.devices ∨ g.id = h.newDoc.group.origin))) :
    Follows db' serial origin l := by
  obtain ⟨a, hchained, htail, hlists⟩ := hfollows
  have hrest : ∀ h' ∈ l, h'.stage ≠ .entering := htail
  refine ⟨h.newDoc.group.origin, hchained.2, fun h' hh' => hrest h' (List.mem_of_mem_tail hh'),
    fun g' hg' horigin => ?_⟩
  obtain ⟨g, hg, hid, hclass, hdevices⟩ := hin g' hg' horigin
  -- the first handler has taken the device out of its list
  have hnot : serial ∉ g.devices := fun hmem =>
    ((hlists g hg (hclass ▸ horigin)).1 hmem).2 h rfl hstage
  rw [hdevices, hid]
  constructor
  · exact fun hor => ⟨hor.resolve_left hnot, fun h' hh' => hrest h' (List.mem_of_mem_head? hh')⟩
  · exact fun hand => .inr hand.1

/-- A request has moved the device. -/
theorem Follows.concat (hfollows : Follows db serial origin l) (hold : h.oldDoc.group.origin = origin)
    (hstage : h.stage ≠ .entering) : Follows db serial h.newDoc.group.origin (l ++ [h]) := by
  obtain ⟨a, hchained, htail, hlists⟩ := hfollows
  refine ⟨a, chained_append.2 ⟨origin, hchained, hold, rfl⟩, ?_, ?_⟩
  · intro h' hh'
    rcases l with _ | ⟨first, l⟩
    · cases hh'
    · rcases List.mem_append.1 hh' with hh' | hh'
      · exact htail h' hh'
      · rw [List.mem_singleton.1 hh']
        exact hstage
  · rcases l with _ | ⟨first, l⟩
    · intro g hg horigin
      rw [hlists g hg horigin]
      refine and_congr_right fun _ => iff_of_true (fun h' hh' => by cases hh') fun h' hh' => ?_
      obtain rfl := Option.some.inj hh'
      exact hstage
    · exact hlists

/-! ### The invariant -/

/-- The handler is of a move of the device, and is not done. -/
def Pends (serial : String) (h : Handling) : Prop :=
  h.Moves ∧ h.stage ≠ .done ∧ h.newDoc.serial = serial

instance (serial : String) (h : Handling) : Decidable (Pends serial h) :=
  inferInstanceAs (Decidable (_ ∧ _))

/-- The moves of the device that are not handled. -/
def pending (l : List Handling) (serial : String) : List Handling :=
  l.filter fun h => decide (Pends serial h)

theorem pending_append (l l' : List Handling) (serial : String) :
    pending (l ++ l') serial = pending l serial ++ pending l' serial := List.filter_append ..

theorem pending_middle (hpends : Pends serial h) :
    pending (l ++ h :: l') serial = pending l serial ++ h :: pending l' serial := by
  rw [pending_append]
  exact congrArg _ (List.filter_cons_of_pos (decide_eq_true hpends))

theorem pending_middle_of_not (hpends : ¬ Pends serial h) :
    pending (l ++ h :: l') serial = pending l serial ++ pending l' serial := by
  rw [pending_append]
  exact congrArg _ (List.filter_cons_of_neg fun hyes => hpends (of_decide_eq_true hyes))

/-- Only handlers of moves change lists, and these do not quit. -/
def Sound (h : Handling) : Prop :=
  if h.Moves then h.stage ≠ .quit else h.stage = .looking ∨ h.stage = .done

/-- The invariant. -/
structure Tracks (s : Watching) : Prop where
  obeys : ∀ e ∈ s.tasks, watchMachine.Obeys WatchProtocol e.1 e.2 fun v _ => v = none ∨ Over v
  sound : ∀ h ∈ s.handlings, Sound h
  lists : ∀ d ∈ s.db.devices.docs,
    Follows s.db d.serial d.group.origin (pending s.handlings d.serial)

variable {s s' : Watching}

theorem tracks_start (hlisted : Listed db) : (start db).Tracks where
  obeys _ h := by cases h
  sound _ h := by cases h
  lists d hd := by
    refine ⟨d.group.origin, rfl, fun h hh => (by cases hh), fun g hg horigin => ?_⟩
    rw [hlisted d hd g hg horigin, eq_comm]
    exact ⟨fun heq => ⟨heq, fun h hh => (by cases hh)⟩, And.left⟩

/-- When all is handled the lists follow. -/
theorem Tracks.listed (htracks : s.Tracks) (hstream : s.stream = [])
    (hended : ∀ e ∈ s.tasks, e.1.isSome = true → e.2.outcome.isSome = true) : Listed s.db := by
  -- every handler of a move has ended, and none has quit
  have hover : ∀ h ∈ s.handlings, h.Moves → h.stage = .done := by
    intro h hh hmoves
    have hsound := htracks.sound h hh
    rw [handlings, hstream, List.map_nil, List.append_nil] at hh
    obtain ⟨⟨v, p⟩, he, rfl⟩ := List.mem_filterMap.1 hh
    have hQ : some h = none ∨ Over (some h) := by
      have hobeys := htracks.obeys _ he
      have hout := hended _ he rfl
      cases p with
      | ret a => exact hobeys
      | fail e => exact hobeys
      | act o k => cases hout
      | alt p q => cases hout
    obtain ⟨h', hh', hend⟩ := hQ.resolve_left nofun
    obtain rfl := Option.some.inj hh'
    rcases hend with hdone | hquit
    · exact hdone
    · unfold Sound at hsound
      rw [if_pos hmoves] at hsound
      exact absurd hquit hsound
  intro d hd g hg horigin
  obtain ⟨a, hchained, -, hlists⟩ := htracks.lists d hd
  have hnone : pending s.handlings d.serial = [] :=
    List.filter_eq_nil_iff.2 fun h hh hpends =>
      (of_decide_eq_true hpends).2.1 (hover h hh (of_decide_eq_true hpends).1)
  rw [hnone] at hchained hlists
  obtain rfl : a = d.group.origin := hchained
  rw [hlists g hg horigin, eq_comm (a := d.group.origin)]
  exact ⟨And.left, fun heq => ⟨heq, fun h hh => by cases hh⟩⟩

/-! ### The steps -/

theorem changes_of_devices (hdevices : db'.devices = db.devices) : changes db db' = [] := by
  refine List.eq_nil_iff_forall_not_mem.2 fun c hc => ?_
  obtain ⟨hnew, hold, hne⟩ := mem_changes.1 hc
  rw [hdevices, hold] at hnew
  exact hne (Option.some.inj hnew)

theorem filter_eq_singleton {α β : Type} {f : α → β} {q : α → Bool} {a : α} {l : List α}
    (hdistinct : l.Pairwise fun b c => f b ≠ f c) (ha : a ∈ l) (hq : q a = true)
    (honly : ∀ b ∈ l, q b = true → f b = f a) : l.filter q = [a] := by
  induction l with
  | nil => cases ha
  | cons b l ih =>
    obtain ⟨hfirst, hrest⟩ := List.pairwise_cons.1 hdistinct
    rcases List.mem_cons.1 ha with rfl | ha
    · rw [List.filter_cons_of_pos hq, List.filter_eq_nil_iff.2]
      intro b hb hqb
      exact hfirst b hb (honly b (List.mem_cons_of_mem _ hb) hqb).symm
    · rw [List.filter_cons_of_neg, ih hrest ha fun c hc => honly c (List.mem_cons_of_mem _ hc)]
      exact fun hqb => hfirst a ha (honly b List.mem_cons_self hqb)

/-- The change of the origin of a device, if there is one. -/
theorem pending_changes {d d' : Device} (hd' : d' ∈ db'.devices.docs) (hd : d ∈ db.devices.docs)
    (hserial : d.serial = d'.serial) :
    pending ((changes db db').map .start) d'.serial =
      if d'.group.origin = d.group.origin then [] else [.start (d, d')] := by
  have hfound : db.devices.findOne d'.serial = some d := by
    rw [← hserial]
    exact Collection.findOne_of_mem hd
  -- a call changes each device once
  have honly : ∀ c ∈ changes db db', c.2.serial = d'.serial → c = (d, d') := by
    rintro ⟨old, new⟩ hc hsame
    obtain ⟨hnew, hold, -⟩ := mem_changes.1 hc
    dsimp only at hsame hnew hold
    rw [hsame] at hnew hold
    exact Prod.ext (Option.some.inj (hold.symm.trans hfound))
      (Option.some.inj (hnew.symm.trans (Collection.findOne_of_mem hd')))
  split
  · rename_i hsame
    refine List.filter_eq_nil_iff.2 fun h hh hpends => ?_
    obtain ⟨c, hc, rfl⟩ := List.mem_map.1 hh
    obtain ⟨hmoves, -, hcs⟩ := of_decide_eq_true hpends
    obtain rfl := honly c hc hcs
    exact hmoves hsame
  · rename_i hmoved
    have hmem : (d, d') ∈ changes db db' :=
      mem_changes.2 ⟨Collection.findOne_of_mem hd', hfound, fun heq : d = d' => hmoved (by rw [heq])⟩
    refine filter_eq_singleton (f := fun h => h.newDoc.serial) ?_ (List.mem_map_of_mem hmem)
      (decide_eq_true ⟨hmoved, nofun, rfl⟩) fun h hh hpends => (of_decide_eq_true hpends).2.2
    exact List.pairwise_map.2 (pairwise_changes db db')

/-- A call that keeps the lists. -/
theorem sameLists_of_keepsLists {o : DbOp} (ho : KeepsLists o) (db : Db) (serial : String) :
    SameLists serial db (o.exec db).2 := by
  have hsame : SameLists serial db db := fun g hg => ⟨g, hg, rfl, rfl, Iff.rfl⟩
  cases o with
  | users o => exact hsame
  | devices o => exact hsame
  | groups o =>
    intro g' hg'
    cases o with
    | findOne k => exact hsame g' hg'
    | find q => exact hsame g' hg'
    | insert d => exact ho.elim
    | delete k => exact hsame g' (Collection.mem_delete.1 hg').1
    | update k f =>
      rcases Collection.mem_update.1 hg' with ⟨hg', -⟩ | ⟨g, hg, rfl⟩
      · exact hsame g' hg'
      · refine ⟨g, Collection.mem_of_findOne hg, f.id_apply g, (ho g).2, ?_⟩
        rw [GroupChange.effect_apply, (ho g).1]
    | updateMany q f =>
      obtain ⟨g, hg, rfl⟩ := Collection.mem_updateBy.1 hg'
      refine ⟨g, hg, ?_⟩
      split
      · rw [GroupChange.effect_apply, f.id_apply, (ho g).1, (ho g).2]
        exact ⟨rfl, rfl, Iff.rfl⟩
      · exact ⟨rfl, rfl, Iff.rfl⟩

/-- It creates no device. -/
theorem exists_of_keepsLists {o : DbOp} (ho : KeepsLists o) {d' : Device}
    (hd' : d' ∈ (o.exec db).2.devices.docs) : ∃ d ∈ db.devices.docs, d.serial = d'.serial := by
  cases o with
  | users o => exact ⟨d', hd', rfl⟩
  | groups o => exact ⟨d', hd', rfl⟩
  | devices o =>
    cases o with
    | findOne k => exact ⟨d', hd', rfl⟩
    | find q => exact ⟨d', hd', rfl⟩
    | insert d => exact ho.elim
    | delete k => exact ⟨d', (Collection.mem_delete.1 hd').1, rfl⟩
    | update k f =>
      rcases Collection.mem_update.1 hd' with ⟨hd', -⟩ | ⟨d, hd, rfl⟩
      · exact ⟨d', hd', rfl⟩
      · exact ⟨d, Collection.mem_of_findOne hd, (f.serial_apply d).symm⟩
    | updateMany q f =>
      obtain ⟨d, hd, rfl⟩ := Collection.mem_updateBy.1 hd'
      refine ⟨d, hd, ?_⟩
      split
      · exact (f.serial_apply d).symm
      · rfl

/-- **A call of a request**: the devices that it moves have a change more. -/
theorem follows_of_keepsLists {o : DbOp} (ho : KeepsLists o)
    (hlists : ∀ d ∈ db.devices.docs, Follows db d.serial d.group.origin (pending l d.serial)) :
    ∀ d' ∈ (o.exec db).2.devices.docs, Follows (o.exec db).2 d'.serial d'.group.origin
      (pending (l ++ (changes db (o.exec db).2).map .start) d'.serial) := by
  intro d' hd'
  obtain ⟨d, hd, hserial⟩ := exists_of_keepsLists ho hd'
  have hfollows := (hlists d hd).congr (sameLists_of_keepsLists ho db d.serial)
  rw [hserial] at hfollows
  rw [pending_append, pending_changes hd' hd hserial]
  split
  · rename_i hsame
    rw [List.append_nil, hsame]
    exact hfollows
  · exact hfollows.concat (h := .start (d, d')) rfl nofun

theorem groups_of_update {k : String} {f : GroupChange}
    (hf : ∀ g, (f.apply g).class_ = g.class_) {g' : Group}
    (hg' : g' ∈ (DbOp.exec (.groups (.update k f)) db).2.groups.docs) :
    ∃ g ∈ db.groups.docs, g'.id = g.id ∧ g'.class_ = g.class_ ∧
      g'.devices = if g.id = k then (f.apply g).devices else g.devices := by
  rcases Collection.mem_update.1 hg' with ⟨hg', hne⟩ | ⟨g, hg, rfl⟩
  · exact ⟨g', hg', rfl, rfl, (if_neg hne).symm⟩
  · exact ⟨g, Collection.mem_of_findOne hg, f.id_apply g, hf g,
      (if_pos (Collection.key_of_findOne hg)).symm⟩

theorem sameLists_of_pull {k serial' : String} (hne : serial' ≠ serial) :
    SameLists serial' db (DbOp.exec (.groups (.update k (.pullDevice serial))) db).2 := by
  intro g' hg'
  obtain ⟨g, hg, hid, hclass, hdevices⟩ := groups_of_update (fun _ => rfl) hg'
  refine ⟨g, hg, hid, hclass, ?_⟩
  rw [hdevices]
  split
  · show serial' ∈ uniq (without g.devices serial) ↔ _
    simp [hne]
  · exact Iff.rfl

theorem sameLists_of_push {k serial' : String} (hne : serial' ≠ serial) :
    SameLists serial' db (DbOp.exec (.groups (.update k (.pushDevice serial))) db).2 := by
  intro g' hg'
  obtain ⟨g, hg, hid, hclass, hdevices⟩ := groups_of_update (fun _ => rfl) hg'
  refine ⟨g, hg, hid, hclass, ?_⟩
  rw [hdevices]
  split
  · show serial' ∈ addToSet g.devices serial ↔ _
    simp [hne]
  · exact Iff.rfl

/-- A handler of a move has come to another stage; it matters to its own device only. -/
theorem follows_at (hlists : ∀ d ∈ db.devices.docs,
      Follows db d.serial d.group.origin (pending (l ++ h :: l') d.serial))
    (hdevices : db'.devices = db.devices) (hmoves : h.Moves) (hstage : h.stage ≠ .done)
    (hothers : ∀ serial, serial ≠ h.newDoc.serial → SameLists serial db db')
    (hself : ∀ origin, Follows db h.newDoc.serial origin
        (pending l h.newDoc.serial ++ h :: pending l' h.newDoc.serial) →
      Follows db' h.newDoc.serial origin (if stage = .done then
          pending l h.newDoc.serial ++ pending l' h.newDoc.serial
        else pending l h.newDoc.serial ++ h.at_ stage :: pending l' h.newDoc.serial)) :
    ∀ d ∈ db'.devices.docs,
      Follows db' d.serial d.group.origin (pending (l ++ h.at_ stage :: l') d.serial) := by
  intro d hd
  rw [hdevices] at hd
  have hfollows := hlists d hd
  by_cases hserial : h.newDoc.serial = d.serial
  · rw [← hserial, pending_middle ⟨hmoves, hstage, rfl⟩] at hfollows
    have hnext := hself _ hfollows
    rw [← hserial]
    split at hnext
    · rename_i hdone
      rwa [pending_middle_of_not (h := h.at_ stage) fun hpends => hpends.2.1 hdone]
    · rename_i hdone
      rwa [pending_middle (show Pends h.newDoc.serial (h.at_ stage) from ⟨hmoves, hdone, rfl⟩)]
  · rw [pending_middle_of_not fun hpends => hserial hpends.2.2] at hfollows
    rw [pending_middle_of_not (h := h.at_ stage) fun hpends => hserial hpends.2.2]
    exact hfollows.congr (hothers _ fun heq => hserial heq.symm)

theorem follows_of_not (hlists : ∀ d ∈ db.devices.docs,
      Follows db d.serial d.group.origin (pending (l ++ h :: l') d.serial))
    (hdevices : db'.devices = db.devices) (hmoves : ¬ h.Moves)
    (hsame : ∀ serial, SameLists serial db db') :
    ∀ d ∈ db'.devices.docs,
      Follows db' d.serial d.group.origin (pending (l ++ h.at_ stage :: l') d.serial) := by
  intro d hd
  rw [hdevices] at hd
  have hfollows := hlists d hd
  rw [pending_middle_of_not fun hpends => hmoves hpends.1] at hfollows
  rw [pending_middle_of_not (h := h.at_ stage) fun hpends => hmoves hpends.1]
  exact hfollows.congr (hsame _)

theorem sameLists_refl (serial : String) (db : Db) : SameLists serial db db :=
  fun g hg => ⟨g, hg, rfl, rfl, Iff.rfl⟩

theorem Follows.eq_nil (hfollows : Follows db serial origin (l ++ h :: l'))
    (hstage : h.stage = .entering) : l = [] := by
  obtain ⟨-, -, htail, -⟩ := hfollows
  rcases l with _ | ⟨first, l⟩
  · rfl
  · exact absurd hstage (htail h (List.mem_append_right _ List.mem_cons_self))

theorem pending_of_first {l₁ l₂ : List (Option Handling × DbM Unit)} {e : Option Handling × DbM Unit}
    (htasks : s.tasks = l₁ ++ e :: l₂) (hfirst : s.First l₁.length h) :
    pending (l₁.filterMap Prod.fst) h.newDoc.serial = [] := by
  refine List.filter_eq_nil_iff.2 fun h' hh' hpends => ?_
  obtain ⟨hmoves, hdone, hserial⟩ := of_decide_eq_true hpends
  obtain ⟨e', he', heq⟩ := List.mem_filterMap.1 hh'
  refine hdone (hfirst e' ?_ h' heq hmoves hserial)
  rw [htasks, List.take_left]
  exact he'

/-- The handler is sound, and the lists follow. -/
structure Fine (db : Db) (l : List Handling) (h : Handling) (l' : List Handling) : Prop where
  sound : Sound h
  lists : ∀ d ∈ db.devices.docs,
    Follows db d.serial d.group.origin (pending (l ++ h :: l') d.serial)

theorem Fine.moves (hfine : Fine db l h l') (hlooking : h.stage ≠ .looking) (hdone : h.stage ≠ .done) :
    h.Moves := by
  by_contra hmoves
  have hsound := hfine.sound
  unfold Sound at hsound
  rw [if_neg hmoves] at hsound
  exact hsound.elim hlooking hdone

theorem sound_of_moves (hmoves : h.Moves) (hquit : stage ≠ .quit) : Sound (h.at_ stage) := by
  unfold Sound
  rw [if_pos (show (h.at_ stage).Moves from hmoves)]
  exact hquit

/-- The handler has looked for the current group of the device. -/
theorem Fine.look (hfine : Fine db l h l') (hstage : h.stage = .looking)
    (hkeeps : h.Moves → ∃ g ∈ db.groups.findOne h.newDoc.group.id, h.Sends g) :
    Fine db l (h.log (.groups (.findOne h.newDoc.group.id))
      (db.groups.findOne h.newDoc.group.id)) l' := by
  by_cases hmoves : h.Moves
  · have hlog : h.log (.groups (.findOne h.newDoc.group.id)) (db.groups.findOne h.newDoc.group.id) =
        h.at_ .leaving := by
      unfold Handling.log
      rw [hstage]
      dsimp only
      rw [if_pos hmoves, if_pos (hkeeps hmoves)]
    rw [hlog]
    refine ⟨sound_of_moves hmoves nofun, follows_at hfine.lists rfl hmoves
      (by rw [hstage]; nofun) (fun serial _ => sameLists_refl serial db) fun origin hfollows => ?_⟩
    rw [if_neg nofun]
    exact hfollows.goOn (by rw [hstage]; nofun) nofun
  · have hlog : h.log (.groups (.findOne h.newDoc.group.id)) (db.groups.findOne h.newDoc.group.id) =
        h.at_ .done := by
      unfold Handling.log
      rw [hstage]
      dsimp only
      rw [if_neg hmoves]
    rw [hlog]
    refine ⟨?_, follows_of_not hfine.lists rfl hmoves fun serial => sameLists_refl serial db⟩
    unfold Sound
    rw [if_neg (show ¬ (h.at_ .done).Moves from hmoves)]
    exact .inr rfl

/-- The handler has looked for the old group, and goes on to the new one when this is gone. -/
theorem Fine.lookOld (hfine : Fine db l h l') (hstage : h.stage = .leaving)
    (hkeeps : (db.groups.findOne h.oldDoc.group.origin).isSome = true ∨
      pending l h.newDoc.serial = []) :
    Fine db l (h.log (.groups (.findOne h.oldDoc.group.origin))
      (db.groups.findOne h.oldDoc.group.origin)) l' := by
  have hmoves := hfine.moves (by rw [hstage]; nofun) (by rw [hstage]; nofun)
  have hlog : h.log (.groups (.findOne h.oldDoc.group.origin))
      (db.groups.findOne h.oldDoc.group.origin) =
        if (db.groups.findOne h.oldDoc.group.origin).isSome then h else h.at_ .entering := by
    unfold Handling.log
    rw [hstage]
  rw [hlog]
  split
  · exact hfine
  · rename_i hnone
    have hfirst := hkeeps.resolve_left hnone
    refine ⟨sound_of_moves hmoves nofun, follows_at hfine.lists rfl hmoves
      (by rw [hstage]; nofun) (fun serial _ => sameLists_refl serial db) fun origin hfollows => ?_⟩
    rw [hfirst, List.nil_append] at hfollows ⊢
    rw [if_neg nofun]
    refine hfollows.leave fun g hg _ => ⟨g, hg, rfl, rfl, fun hin => ⟨hin, fun hid => hnone ?_⟩⟩
    rw [← hid, show db.groups.findOne g.id = some g from Collection.findOne_of_mem hg]
    rfl

/-- The handler has taken the device out of the old list. -/
theorem Fine.pull (hfine : Fine db l h l') (hstage : h.stage = .leaving)
    (hold : (db.groups.findOne h.oldDoc.group.origin).isSome = true)
    (hfirst : pending l h.newDoc.serial = []) :
    Fine (DbOp.exec (.groups (.update h.oldDoc.group.origin (.pullDevice h.newDoc.serial))) db).2 l
      (h.log (.groups (.update h.oldDoc.group.origin (.pullDevice h.newDoc.serial)))
        (DbOp.exec (.groups (.update h.oldDoc.group.origin (.pullDevice h.newDoc.serial))) db).1)
      l' := by
  have hmoves := hfine.moves (by rw [hstage]; nofun) (by rw [hstage]; nofun)
  have hlog : h.log (.groups (.update h.oldDoc.group.origin (.pullDevice h.newDoc.serial)))
      (DbOp.exec (.groups (.update h.oldDoc.group.origin (.pullDevice h.newDoc.serial))) db).1 =
        h.at_ .entering := by
    unfold Handling.log
    rw [hstage]
    dsimp only
    rw [if_pos]
    show ((db.groups.findOne h.oldDoc.group.origin).map _).isSome = true
    rw [Option.isSome_map]
    exact hold
  rw [hlog]
  refine ⟨sound_of_moves hmoves nofun, follows_at hfine.lists rfl hmoves
    (by rw [hstage]; nofun) (fun serial hne => sameLists_of_pull hne) fun origin hfollows => ?_⟩
  rw [hfirst, List.nil_append] at hfollows ⊢
  rw [if_neg nofun]
  -- the old group has lost the device, and the others keep their lists
  refine hfollows.leave fun g' hg' _ => ?_
  obtain ⟨g, hg, hid, hclass, hdevices⟩ := groups_of_update (fun _ => rfl) hg'
  refine ⟨g, hg, hid, hclass, fun hin => ?_⟩
  rw [hdevices] at hin
  split at hin
  · exact absurd rfl (mem_without.1 (mem_uniq.1 hin)).2
  · rename_i hne
    exact ⟨hin, hne⟩

/-- The handler has looked for the new group, and is done when this is gone. -/
theorem Fine.lookNew (hfine : Fine db l h l') (hstage : h.stage = .entering) :
    Fine db l (h.log (.groups (.findOne h.newDoc.group.origin))
      (db.groups.findOne h.newDoc.group.origin)) l' := by
  have hmoves := hfine.moves (by rw [hstage]; nofun) (by rw [hstage]; nofun)
  have hlog : h.log (.groups (.findOne h.newDoc.group.origin))
      (db.groups.findOne h.newDoc.group.origin) =
        if (db.groups.findOne h.newDoc.group.origin).isSome then h else h.at_ .done := by
    unfold Handling.log
    rw [hstage]
  rw [hlog]
  split
  · exact hfine
  · rename_i hnone
    refine ⟨sound_of_moves hmoves nofun, follows_at hfine.lists rfl hmoves
      (by rw [hstage]; nofun) (fun serial _ => sameLists_refl serial db) fun origin hfollows => ?_⟩
    have hfirst := hfollows.eq_nil hstage
    rw [hfirst, List.nil_append] at hfollows ⊢
    rw [if_pos rfl]
    refine hfollows.enter hstage fun g hg _ => ⟨g, hg, rfl, rfl, ?_⟩
    refine (or_iff_left fun hid => hnone ?_).symm
    rw [← hid, show db.groups.findOne g.id = some g from Collection.findOne_of_mem hg]
    rfl

/-- The handler has put the device into the new list. -/
theorem Fine.push (hfine : Fine db l h l') (hstage : h.stage = .entering) :
    Fine (DbOp.exec (.groups (.update h.newDoc.group.origin (.pushDevice h.newDoc.serial))) db).2 l
      (h.log (.groups (.update h.newDoc.group.origin (.pushDevice h.newDoc.serial)))
        (DbOp.exec (.groups (.update h.newDoc.group.origin (.pushDevice h.newDoc.serial))) db).1)
      l' := by
  have hmoves := hfine.moves (by rw [hstage]; nofun) (by rw [hstage]; nofun)
  have hlog : h.log (.groups (.update h.newDoc.group.origin (.pushDevice h.newDoc.serial)))
      (DbOp.exec (.groups (.update h.newDoc.group.origin (.pushDevice h.newDoc.serial))) db).1 =
        h.at_ .done := by
    unfold Handling.log
    rw [hstage]
  rw [hlog]
  refine ⟨sound_of_moves hmoves nofun, follows_at hfine.lists rfl hmoves
    (by rw [hstage]; nofun) (fun serial hne => sameLists_of_push hne) fun origin hfollows => ?_⟩
  have hfirst := hfollows.eq_nil hstage
  rw [hfirst, List.nil_append] at hfollows ⊢
  rw [if_pos rfl]
  refine hfollows.enter hstage fun g' hg' _ => ?_
  obtain ⟨g, hg, hid, hclass, hdevices⟩ := groups_of_update (fun _ => rfl) hg'
  refine ⟨g, hg, hid, hclass, ?_⟩
  rw [hdevices]
  split
  · rename_i hself
    exact iff_of_true (mem_addToSet.2 (.inr rfl)) (.inr hself)
  · rename_i hne
    exact (or_iff_left hne).symm

/-- **A call of a handler** that meets the condition. -/
theorem Fine.call {l₁ l₂ : List (Option Handling × DbM Unit)} {e : Option Handling × DbM Unit}
    {o : DbOp} (hfine : Fine s.db (l₁.filterMap Prod.fst) h l') (htasks : s.tasks = l₁ ++ e :: l₂)
    (hdoes : h.Does o) (hkeeps : h.Moves → s.Keeps l₁.length h o) :
    (o.exec s.db).2.devices = s.db.devices ∧
      Fine (o.exec s.db).2 (l₁.filterMap Prod.fst) (h.log o (o.exec s.db).1) l' := by
  unfold Handling.Does at hdoes
  unfold Keeps at hkeeps
  cases hstage : h.stage with
  | looking =>
    rw [hstage] at hdoes hkeeps
    dsimp only at hdoes hkeeps
    subst hdoes
    exact ⟨rfl, hfine.look hstage hkeeps⟩
  | leaving =>
    have hmoves := hfine.moves (by rw [hstage]; nofun) (by rw [hstage]; nofun)
    rw [hstage] at hdoes hkeeps
    rcases hdoes with rfl | rfl
    · exact ⟨rfl, hfine.lookOld hstage ((hkeeps hmoves).imp_right (pending_of_first htasks))⟩
    · obtain ⟨hold, hfirst⟩ := hkeeps hmoves
      exact ⟨rfl, hfine.pull hstage hold (pending_of_first htasks hfirst)⟩
  | entering =>
    rw [hstage] at hdoes
    rcases hdoes with rfl | rfl
    · exact ⟨rfl, hfine.lookNew hstage⟩
    · exact ⟨rfl, hfine.push hstage⟩
  | done =>
    rw [hstage] at hdoes
    exact hdoes.elim
  | quit =>
    rw [hstage] at hdoes
    exact hdoes.elim

theorem Tracks.congr (htracks : s.Tracks) (hdb : s'.db = s.db) (hsame : s'.handlings = s.handlings)
    (hobeys : ∀ e ∈ s'.tasks, watchMachine.Obeys WatchProtocol e.1 e.2 fun v _ => v = none ∨ Over v) :
    s'.Tracks where
  obeys := hobeys
  sound h hh := htracks.sound h (hsame ▸ hh)
  lists d hd := by
    rw [hdb] at hd ⊢
    rw [hsame]
    exact htracks.lists d hd

section Calls

variable {l₁ l₂ : List (Option Handling × DbM Unit)} {p p' : DbM Unit} {o : DbOp}

/-- A request makes a call: the changes that it makes come last. -/
theorem Tracks.call_request (htracks : s.Tracks) (htasks : s.tasks = l₁ ++ (none, p) :: l₂)
    (htasks' : s'.tasks = l₁ ++ (none, p') :: l₂) (hdb : s'.db = (o.exec s.db).2)
    (hstream : s'.stream = s.stream ++ changes s.db s'.db) (hkeeps : KeepsLists o)
    (hobeys : ∀ e ∈ s'.tasks, watchMachine.Obeys WatchProtocol e.1 e.2 fun v _ => v = none ∨ Over v) :
    s'.Tracks := by
  have hhandlings : s'.handlings = s.handlings ++ (changes s.db (o.exec s.db).2).map .start := by
    unfold handlings
    rw [htasks, htasks', hstream, hdb]
    simp
  refine ⟨hobeys, fun h hh => ?_, ?_⟩
  · rw [hhandlings] at hh
    rcases List.mem_append.1 hh with hh | hh
    · exact htracks.sound h hh
    · obtain ⟨c, -, rfl⟩ := List.mem_map.1 hh
      unfold Sound
      split
      · nofun
      · exact .inl rfl
  · rw [hdb, hhandlings]
    exact follows_of_keepsLists hkeeps htracks.lists

/-- A handler makes a call: it goes on, and no device changes. -/
theorem Tracks.call_handler (htracks : s.Tracks) {h : Handling}
    (htasks : s.tasks = l₁ ++ (some h, p) :: l₂)
    (htasks' : s'.tasks = l₁ ++ (some (h.log o (o.exec s.db).1), p') :: l₂)
    (hdb : s'.db = (o.exec s.db).2) (hstream : s'.stream = s.stream ++ changes s.db s'.db)
    (hdoes : h.Does o) (hkeeps : h.Moves → s.Keeps l₁.length h o)
    (hobeys : ∀ e ∈ s'.tasks, watchMachine.Obeys WatchProtocol e.1 e.2 fun v _ => v = none ∨ Over v) :
    s'.Tracks := by
  have hhandlings : s.handlings = l₁.filterMap Prod.fst ++ h ::
      (l₂.filterMap Prod.fst ++ s.stream.map .start) := by
    unfold handlings
    rw [htasks]
    simp
  have hfine : Fine s.db (l₁.filterMap Prod.fst) h
      (l₂.filterMap Prod.fst ++ s.stream.map .start) :=
    ⟨htracks.sound h (by rw [hhandlings]; simp), hhandlings ▸ htracks.lists⟩
  obtain ⟨hdevices, hfine'⟩ := hfine.call htasks hdoes hkeeps
  have hhandlings' : s'.handlings = l₁.filterMap Prod.fst ++ h.log o (o.exec s.db).1 ::
      (l₂.filterMap Prod.fst ++ s.stream.map .start) := by
    unfold handlings
    rw [htasks', hstream, hdb, changes_of_devices hdevices]
    simp
  refine ⟨hobeys, ?_, ?_⟩
  · rw [hhandlings']
    exact forall_mem_middle (hhandlings ▸ htracks.sound) hfine'.sound
  · rw [hdb, hhandlings']
    exact hfine'.lists

end Calls

/-- **The steps** that meet the condition keep the invariant. -/
theorem Tracks.step (htracks : s.Tracks) {label : Label} (hstep : system.step s label s')
    (horderly : s.Orderly label) : s'.Tracks := by
  cases label with
  | request r =>
    obtain rfl := hstep
    refine htracks.congr rfl ?_ fun e he => ?_
    · simp [handlings]
    · rcases List.mem_append.1 he with he | he
      · exact htracks.obeys e he
      · rw [List.mem_singleton.1 he]
        exact r.obeys.mono fun v _ hv => .inl hv
  | deliver =>
    obtain ⟨c, rest, hstream, rfl⟩ := hstep
    refine htracks.congr rfl ?_ fun e he => ?_
    · simp [handlings, hstream]
    · rcases List.mem_append.1 he with he | he
      · exact htracks.obeys e he
      · rw [List.mem_singleton.1 he]
        exact (obeys_handle c).mono fun v _ hv => .inr hv
  | call mv =>
    obtain ⟨⟨l₁, v, p, l₂, p', htasks, hwho, hview, -, hp, htasks'⟩, hstream⟩ := hstep
    replace htasks : s.tasks = l₁ ++ (v, p) :: l₂ := htasks
    replace htasks' : s'.tasks = l₁ ++ (watchMachine.log v mv.op (mv.op.exec s.db).1, p') :: l₂ :=
      htasks'
    have hdb : s'.db = (mv.op.exec s.db).2 := hp.snd_eq
    obtain ⟨hallowed, hrest⟩ := (htracks.obeys (v, p) (by rw [htasks]; simp)).step hp
    have hobeys : ∀ e ∈ s'.tasks,
        watchMachine.Obeys WatchProtocol e.1 e.2 fun v _ => v = none ∨ Over v := by
      rw [htasks']
      exact forall_mem_middle (htasks ▸ htracks.obeys) hrest
    cases v with
    | none => exact htracks.call_request htasks htasks' hdb hstream hallowed hobeys
    | some h =>
      have hkeeps : h.Moves → s.Keeps l₁.length h mv.op := by
        rw [← hwho]
        exact horderly h hview
      exact htracks.call_handler htasks htasks' hdb hstream hallowed hkeeps hobeys

/-- **The lists follow the devices**, in every run whose steps all meet the condition: when all
changes have been delivered and all handlers have ended, a device is in the list of an origin group
if and only if this is its origin. -/
theorem listed_of_run {db : Db} {labels : List Label} (hlisted : Listed db)
    (hrun : (system.restrict Orderly).Run (start db) labels s) (hstream : s.stream = [])
    (hended : ∀ e ∈ s.tasks, e.1.isSome = true → e.2.outcome.isSome = true) : Listed s.db :=
  (hrun.invariant (I := Tracks) (tracks_start hlisted) fun _ _ _ h hstep =>
    h.step hstep.1 hstep.2).listed hstream hended

/-! ### Two moves of one device -/

section Examples

/-- What happens next: a request, a delivery, or a call of the task at the position. -/
inductive Command where
  | request (r : OriginRequest)
  | deliver
  | call (i : Nat)

/-- What a command of a run does. -/
def next (s : Watching) : Command → Option (Label × Watching)
  | .request r => some (.request r, { s with tasks := s.tasks ++ [(none, r.prog)] })
  | .deliver =>
    match s.stream with
    | [] => none
    | c :: rest => some (.deliver, { s with
        stream := rest
        tasks := s.tasks ++ [(some (.start c), handle c.1 c.2)] })
  | .call i =>
    match s.tasks[i]? with
    | none => none
    | some (v, p) =>
      match p.first with
      | none => none
      | some ⟨o, k⟩ => some (.call ⟨i, v, o, s.db⟩,
          { db := (o.exec s.db).2
            stream := s.stream ++ changes s.db (o.exec s.db).2
            tasks := s.tasks.set i (watchMachine.log v o (o.exec s.db).1, k (o.exec s.db).1) })

theorem step_of_next {s s' : Watching} {command : Command} {label : Label}
    (h : next s command = some (label, s')) : system.step s label s' := by
  cases command with
  | request r =>
    obtain ⟨rfl, rfl⟩ := Prod.mk.inj (Option.some.inj h)
    rfl
  | deliver =>
    unfold next at h
    dsimp only at h
    split at h
    · cases h
    · rename_i c rest hstream
      obtain ⟨rfl, rfl⟩ := Prod.mk.inj (Option.some.inj h)
      exact ⟨c, rest, hstream, rfl⟩
  | call i =>
    unfold next at h
    dsimp only at h
    split at h
    · cases h
    · rename_i v p hi
      split at h
      · cases h
      · rename_i o k hp
        obtain ⟨rfl, rfl⟩ := Prod.mk.inj (Option.some.inj h)
        obtain ⟨hlt, -⟩ := List.getElem?_eq_some_iff.1 hi
        have hsplit : s.tasks = s.tasks.take i ++ (v, p) :: s.tasks.drop (i + 1) :=
          eq_take_append_drop hi
        have hset : ∀ x, s.tasks.set i x = s.tasks.take i ++ x :: s.tasks.drop (i + 1) := fun x =>
          List.set_eq_take_append_cons_drop.trans (if_pos hlt)
        exact ⟨⟨_, v, p, _, _, hsplit, by simp [hlt.le], rfl, rfl, Prog.step_first hp s.db, hset _⟩,
          rfl⟩

/-- Commands that can be followed to a state with the property `P` are a run that leads there. -/
theorem exists_run_of_commands {G : Watching → Label → Prop} [∀ s label, Decidable (G s label)]
    (s : Watching) (commands : List Command) (P : Watching → Bool)
    (h : (Lts.script next G s commands).any P = true) :
    ∃ labels s', (system.restrict G).Run s labels s' ∧ P s' = true :=
  Lts.exists_run_of_script (fun _ _ _ _ => step_of_next) s commands P h

/-- A standard group of the administrator. -/
def standardGroup (id : String) : Group :=
  { Sample.booking id "admin@devicehub" .standard 0 [⟨0, 1⟩] 0 [] with isActive := true }

/-- The device `d` of the root group, and two other groups. -/
def threeGroups : Db where
  users := Collection.empty
  groups := .ofDocs [{ Sample.root with devices := ["d"] }, standardGroup "b", standardGroup "c"]
  devices := .ofDocs [Sample.device "d"]

/-- The device moves to the one and then to the other. -/
theorem listed_of_run_moves :
    ∃ labels s, (system.restrict Orderly).Run (start threeGroups) labels s ∧
      s.db.groups.docs.map Group.devices = [[], [], ["d"]] ∧ Listed s.db := by
  obtain ⟨labels, s, hrun, hs⟩ := exists_run_of_commands (G := Orderly) (start threeGroups)
    [.request (.updateDevicesOriginGroup ["d"] (standardGroup "b")), .call 0, .deliver,
      .request (.updateDevicesOriginGroup ["d"] (standardGroup "c")), .call 2, .deliver,
      .call 3, .call 3, .call 1, .call 1, .call 1, .call 1, .call 1, .call 3, .call 3, .call 3]
    (fun s => decide (s.db.groups.docs.map Group.devices = [[], [], ["d"]] ∧ s.stream = [] ∧
      ∀ e ∈ s.tasks, e.2.outcome.isSome = true)) (by decide +kernel)
  obtain ⟨hlists, hstream, hended⟩ := of_decide_eq_true hs
  exact ⟨labels, s, hrun, hlists, listed_of_run (by decide) hrun hstream fun e he _ => hended e he⟩

/-- **A device that moves twice** stays in the list of the group in between: the handler of the
second move takes it out of this list before that of the first has put it in. -/
theorem not_listed_of_overlap :
    Listed threeGroups ∧ ∃ labels s, system.Run (start threeGroups) labels s ∧ s.stream = [] ∧
      (∀ e ∈ s.tasks, e.2.outcome.isSome = true) ∧ ¬ Listed s.db := by
  refine ⟨by decide, ?_⟩
  obtain ⟨labels, s, hrun, hs⟩ := exists_run_of_commands (G := fun _ _ => True) (start threeGroups)
    [.request (.updateDevicesOriginGroup ["d"] (standardGroup "b")), .call 0,
      .request (.updateDevicesOriginGroup ["d"] (standardGroup "c")), .call 1, .deliver, .deliver,
      .call 3, .call 3, .call 3, .call 3, .call 3, .call 2, .call 2, .call 2, .call 2, .call 2,
      -- what the handlers do not wait for: the groups that the device has left and entered
      .request (.treatGroupDevicesChange (standardGroup "b") ["d"] false),
      .request (.treatGroupDevicesChange (standardGroup "c") ["d"] true),
      .request (.treatGroupDevicesChange Sample.root ["d"] false),
      .request (.treatGroupDevicesChange (standardGroup "b") ["d"] true),
      .call 4, .call 4, .call 4, .call 5, .call 6, .call 6, .call 6, .call 7, .deliver, .call 8,
      .deliver, .call 9]
    (fun s => decide (s.stream = [] ∧ (∀ e ∈ s.tasks, e.2.outcome.isSome = true) ∧ ¬ Listed s.db))
    (by decide +kernel)
  obtain ⟨hstream, hended, hnot⟩ := of_decide_eq_true hs
  exact ⟨labels, s, hrun.of_restrict, hstream, hended, hnot⟩

end Examples

end Watching

end watchers

end DeviceHub

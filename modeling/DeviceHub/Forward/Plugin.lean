import DeviceHub.BaseDevice.Listeners
import DeviceHub.Forward.Manager

/-!
# `device/plugins/forward/index.js`

The reverse port forwards of a device are those of the group that is in it: they are removed when
the device leaves the group.  A forward is added some time after it was asked for, when the
connection to the service has been made, and the device may have left the group by then.

## Main definitions

* `ForwardPlugin`, `ForwardPlugin.next` : the manager, the requests and the events.
* `ForwardPlugin.system` : the plugin beside the group plugin, to which it listens.
* `ForwardPlugin.Right` : the table is right, has nothing but forwards that the group in the device
  has asked for, and was told to others or is about to be.
* `ForwardPlugin.InTime` : a forward is added while its group is in the device, and its connection
  ends when it is not in the table any more.

## Main results

* `ForwardPlugin.along_forwards_iff` : the forwards are right in exactly the runs in which each is
  added in time and no connection ends before its forward is removed.
-/

namespace DeviceHub

namespace BaseDevice

/-- A `ForwardCreateMessage`: its channel and its data, the group that was in the device when it
came, and whether it waits for the connection. -/
structure ForwardRequest where
  channel : String
  id : String
  options : ForwardOptions
  group : Option GroupState
  connecting : Bool := true
  deriving DecidableEq

/-- The replies of the plugin. -/
inductive ForwardReply where
  | success
  | failForward
  deriving DecidableEq

/-- The manager, the requests in their order, the groups of the forwards that were added, the timer
of `pushForwards`, the clock, what was told in the last `ReverseForwardsEvent`, and the replies. -/
structure ForwardPlugin where
  forwards : Forwards := .start
  requests : List ForwardRequest := []
  askedBy : List (Option GroupState) := []
  pushAt : Option ℕ := none
  now : ℕ := 0
  told : List ForwardEntry := []
  sent : List (String × ForwardReply) := []

/-- The messages to the plugin, what becomes of the connections, and the time. -/
inductive ForwardPluginEvent where
  /-- A `ForwardCreateMessage` arrives. -/
  | create (channel : String) (id : String) (options : ForwardOptions)
  /-- The connection of a request has been made. -/
  | connected (request : ℕ)
  | connectFailed (request : ℕ)
  /-- A `ForwardRemoveMessage` arrives. -/
  | remove (channel : String) (id : String)
  /-- The connection of a handler ends. -/
  | ended (handler : ForwardHandler)
  /-- The scheduled read of the reader of a handler. -/
  | read (handler : ForwardHandler)
  /-- The timer of `pushForwards` runs. -/
  | pushForwards
  | tick (d : ℕ)

namespace ForwardPlugin

section Model

variable (p : ForwardPlugin)

/-- A reply is sent. -/
def reply (channel : String) (reply : ForwardReply) : ForwardPlugin :=
  { p with sent := p.sent ++ [(channel, reply)] }

/-- The manager does something; when it emits something the timer is set again. -/
def manage (e : ForwardEvent) : Option ForwardPlugin :=
  (p.forwards.next e).map fun forwards =>
    { p with
      forwards
      pushAt := if forwards.manager.emitted = p.forwards.manager.emitted then p.pushAt
        else some (p.now + 200) }

/-- A request that waits goes on. -/
def resume (k : ℕ) (f : ForwardRequest → Option ForwardPlugin) : Option ForwardPlugin :=
  (((p.requests[k]?).filter (·.connecting)).bind f).map fun p =>
    { p with requests := p.requests.modify k fun r => { r with connecting := false } }

/-- What an event does while `current` is in the device, if it can happen. -/
def next (current : Option GroupState) : ForwardPluginEvent → Option ForwardPlugin
  | .create channel id options =>
    some { p with requests := p.requests ++ [{ channel, id, options, group := current }] }
  | .connected k =>
    p.resume k fun r => (p.manage (.add r.id r.options)).map fun p =>
      { p with askedBy := p.askedBy ++ [r.group] }.reply r.channel .success
  | .connectFailed k => p.resume k fun r => some (p.reply r.channel .failForward)
  | .remove channel id => (p.manage (.remove id)).map (·.reply channel .success)
  | .ended handler => p.manage (.ended handler)
  | .read handler => p.manage (.read handler)
  | .pushForwards =>
    (p.pushAt.filter (· ≤ p.now)).map fun _ =>
      { p with pushAt := none, told := p.forwards.manager.listAll }
  | .tick d => some { p with now := p.now + d }

/-- `plugin.reset`. -/
def reset : ForwardPlugin := (p.manage .removeAll).getD p

end Model

/-- The forwards are removed when the device leaves the group. -/
def react : GroupEvent → ForwardPlugin → ForwardPlugin
  | .leave, p => p.reset
  | _, p => p

/-- The plugin beside the group plugin of the device. -/
def system (o : DeviceOptions) :
    Lts (Listener ForwardPlugin) (GroupManager.Event ⊕ ForwardPluginEvent) :=
  Listener.system o react fun current p => p.next current

/-- A device that is in no group, and no forwards. -/
def start : Listener ForwardPlugin := ⟨.new, {}⟩

/-- **The forwards are right**: the table is, the group in the device has asked for all that is in
it, and without a timer it is what was told last. -/
structure Right (current : Option GroupState) (p : ForwardPlugin) : Prop where
  table : p.forwards.TableRight
  numbered : p.askedBy.length = p.forwards.manager.created.length
  group : ∀ handler ∈ p.forwards.manager.handlersById.docs,
    ∃ g ∈ current, p.askedBy[handler.number]? = some (some g)
  told : p.pushAt = none → p.told = p.forwards.manager.listAll

/-- A forward is added while the group that has asked for it is in the device, and its connection ends
when it is not in the table any more. -/
def InTime (current : Option GroupState) (p : ForwardPlugin) : ForwardPluginEvent → Prop
  | .connected k => ∀ r ∈ p.requests[k]?, ∃ g ∈ current, r.group = some g
  | .ended handler => p.forwards.EndsRemoved (.ended handler)
  | .read handler => p.forwards.EndsRemoved (.read handler)
  | _ => True

variable {o : DeviceOptions} {current : Option GroupState} {p p' : ForwardPlugin}

/-! ### What the manager does to the table -/

section Manager

variable {m : ForwardManager} {id : String} {options : ForwardOptions}

theorem docs_removeOld_removePort {devicePort : Nat} {handler : ForwardHandler}
    (h : handler ∈ ((Forwards.removeOld m id).removePort devicePort).handlersById.docs) :
    handler ∈ m.handlersById.docs := by
  have hold : handler ∈ (Forwards.removeOld m id).handlersById.docs := by
    simp only [ForwardManager.removePort] at h
    split at h
    · exact (Collection.mem_delete.1 h).1
    · exact h
  rw [Forwards.removeOld_table] at hold
  exact (Collection.mem_delete.1 hold).1

/-- The handlers after `add`: some of the old ones, and the new one. -/
theorem docs_add (m : ForwardManager) (id : String) (options : ForwardOptions) :
    ∃ docs : List ForwardHandler, (∀ handler ∈ docs, handler ∈ m.handlersById.docs) ∧
      (m.add id options).handlersById.docs = docs ++ [⟨id, options, m.created.length⟩] := by
  set m' := (Forwards.removeOld m id).removePort options.devicePort with hm'
  have hcreated : m'.created = m.created := by
    rw [hm', Forwards.removePort_created, Forwards.removeOld_created]
  have hadd : (m.add id options).handlersById =
      (m'.handlersById.delete id).insert ⟨id, options, m'.created.length⟩ := rfl
  refine ⟨(m'.handlersById.delete id).docs, fun handler hmem => ?_, ?_⟩
  · exact docs_removeOld_removePort (Collection.mem_delete.1 hmem).1
  · rw [hadd, hcreated]
    exact Collection.docs_insert
      (Collection.findOne_eq_none_iff_notMem.1 (Collection.findOne_delete_self _ _))

theorem created_add :
    (m.add id options).created = m.created ++ [⟨id, options, m.created.length⟩] := by
  set m' := (Forwards.removeOld m id).removePort options.devicePort with hm'
  have hcreated : m'.created = m.created := by
    rw [hm', Forwards.removePort_created, Forwards.removeOld_created]
  show m'.created ++ [⟨id, options, m'.created.length⟩] = _
  rw [hcreated]

theorem length_emitted_remove :
    m.emitted.length < (m.remove id).emitted.length := by
  simp [ForwardManager.remove]

theorem emitted_add : (m.add id options).emitted ≠ m.emitted := by
  have hold : m.emitted.length ≤ (Forwards.removeOld m id).emitted.length := by
    simp only [Forwards.removeOld]
    split
    · exact Nat.le_of_lt length_emitted_remove
    · exact Nat.le_refl _
  have hport : (Forwards.removeOld m id).emitted.length ≤
      ((Forwards.removeOld m id).removePort options.devicePort).emitted.length := by
    simp only [ForwardManager.removePort]
    split
    · exact Nat.le_of_lt length_emitted_remove
    · exact Nat.le_refl _
  intro heq
  have hlength : ((Forwards.removeOld m id).removePort options.devicePort).emitted.length + 1 =
      m.emitted.length := by
    rw [← heq]
    simp [ForwardManager.add, Forwards.removeOld]
  omega

/-- A manager that emits nothing has the table that it had. -/
theorem listAll_of_emitted {f f' : Forwards} {e : ForwardEvent} (h : f.next e = some f')
    (hemitted : f'.manager.emitted = f.manager.emitted) :
    f'.manager.listAll = f.manager.listAll := by
  cases e with
  | add id options =>
    obtain rfl := Option.some.inj h
    exact absurd hemitted emitted_add
  | remove id =>
    obtain rfl := Option.some.inj h
    simp [ForwardManager.remove] at hemitted
  | removeAll =>
    obtain rfl := Option.some.inj h
    have hnil : f.manager.handlersById.docs = [] := by
      simpa [ForwardManager.removeAll] using hemitted
    simp [ForwardManager.removeAll, ForwardManager.listAll, hnil, Collection.empty]
  | ended handler =>
    simp only [Forwards.next] at h
    split at h
    · obtain rfl := Option.some.inj h
      rfl
    · cases h
  | read handler =>
    simp only [Forwards.next] at h
    split at h
    · obtain rfl := Option.some.inj h
      split at hemitted
      · simp [ForwardManager.endListener] at hemitted
      · rename_i hended
        rw [if_neg hended]
    · cases h

end Manager

/-! ### One event -/

theorem manage_eq_some {e : ForwardEvent} : p.manage e = some p' ↔
    ∃ forwards, p.forwards.next e = some forwards ∧
      { p with
        forwards
        pushAt := if forwards.manager.emitted = p.forwards.manager.emitted then p.pushAt
          else some (p.now + 200) } = p' :=
  Option.map_eq_some_iff

theorem Right.told_manage (h : Right current p) {e : ForwardEvent} (hp : p.manage e = some p')
    (hnone : p'.pushAt = none) : p'.told = p'.forwards.manager.listAll := by
  obtain ⟨forwards, hforwards, rfl⟩ := manage_eq_some.1 hp
  dsimp only at hnone ⊢
  split at hnone
  · rename_i hemitted
    rw [listAll_of_emitted hforwards hemitted]
    exact h.told hnone
  · cases hnone

theorem Right.shrink (h : Right current p) {e : ForwardEvent} (hp : p.manage e = some p')
    (htable : p'.forwards.TableRight)
    (hdocs : ∀ handler ∈ p'.forwards.manager.handlersById.docs,
      handler ∈ p.forwards.manager.handlersById.docs)
    (hcreated : p'.forwards.manager.created = p.forwards.manager.created) : Right current p' := by
  have htold := h.told_manage hp
  obtain ⟨forwards, hforwards, rfl⟩ := manage_eq_some.1 hp
  exact ⟨htable, h.numbered.trans (by rw [hcreated]), fun handler hmem =>
    h.group handler (hdocs handler hmem), htold⟩

theorem Right.connection_iff (h : Right current p) {e : ForwardEvent} (hp : p.manage e = some p')
    (hmanager : p'.forwards.manager = p.forwards.manager ∨
      ∃ handler, p'.forwards.manager = p.forwards.manager.endListener handler) :
    Right current p' ↔ p.forwards.EndsRemoved e := by
  obtain ⟨forwards, hforwards, hp'⟩ := manage_eq_some.1 hp
  have hsame : p'.forwards = forwards := by rw [← hp']
  have htable : p'.forwards.TableRight ↔ p.forwards.EndsRemoved e := by
    rw [hsame]
    exact h.table.next hforwards
  refine ⟨fun h' => htable.1 h'.table, fun hends => h.shrink hp (htable.2 hends) ?_ ?_⟩
  · intro handler hmem
    rcases hmanager with heq | ⟨ended, heq⟩ <;> rw [heq] at hmem
    · exact hmem
    · exact (Collection.mem_delete.1 hmem).1
  · rcases hmanager with heq | ⟨ended, heq⟩ <;> rw [heq]
    rfl

/-- After `plugin.reset` there are no forwards. -/
theorem Right.reset (h : Right current p) (current' : Option GroupState) :
    Right current' p.reset := by
  have hp : p.manage .removeAll = some p.reset := rfl
  have hnext : p.forwards.next .removeAll = some p.reset.forwards := rfl
  have htable : p.reset.forwards.TableRight := (h.table.next hnext).2 trivial
  have hnil : p.reset.forwards.manager.handlersById.docs = [] := rfl
  have hreset : Right current p.reset := h.shrink hp htable (by simp [hnil]) rfl
  exact ⟨htable, hreset.numbered, by simp [hnil], hreset.told⟩

theorem keeps_react : Listener.Keeps react Right := by
  intro current p e hpossible h
  cases e with
  | join group keys =>
    -- the device was in no group, and so the table is empty
    obtain rfl : current = none := hpossible
    refine ⟨h.table, h.numbered, fun handler hmem => ?_, h.told⟩
    obtain ⟨g, hg, -⟩ := h.group handler hmem
    cases hg
  | leave => exact h.reset none
  | autojoin identifier joined => exact h

/-- A forward is added for a request. -/
theorem right_add_iff (h : Right current p) {id : String} {options : ForwardOptions}
    (hp : p.manage (.add id options) = some p') (asked : Option GroupState) :
    Right current { p' with askedBy := p'.askedBy ++ [asked] } ↔ ∃ g ∈ current, asked = some g := by
  have htold := h.told_manage hp
  obtain ⟨forwards, hforwards, rfl⟩ := manage_eq_some.1 hp
  obtain rfl := Option.some.inj hforwards
  obtain ⟨docs, hdocs, hadd⟩ := docs_add p.forwards.manager id options
  have hnew : (p.askedBy ++ [asked])[p.forwards.manager.created.length]? = some asked := by
    rw [← h.numbered]
    simp
  constructor
  · intro h'
    obtain ⟨g, hg, hasked⟩ := h'.group ⟨id, options, p.forwards.manager.created.length⟩ (by
      show _ ∈ (p.forwards.manager.add id options).handlersById.docs
      rw [hadd]
      exact List.mem_append_right _ (List.mem_singleton_self _))
    exact ⟨g, hg, Option.some.inj (hnew.symm.trans hasked)⟩
  · rintro ⟨g, hg, rfl⟩
    refine ⟨h.table.add id options, ?_, fun handler hmem => ?_, htold⟩
    · show (p.askedBy ++ [some g]).length = (p.forwards.manager.add id options).created.length
      rw [created_add, List.length_append, List.length_append, h.numbered]
      rfl
    · have hmem : handler ∈ (p.forwards.manager.add id options).handlersById.docs := hmem
      rw [hadd] at hmem
      rcases List.mem_append.1 hmem with hold | hmem
      · obtain ⟨g', hg', hasked⟩ := h.group handler (hdocs handler hold)
        refine ⟨g', hg', ?_⟩
        rw [List.getElem?_append_left (List.getElem?_eq_some_iff.1 hasked).1, hasked]
      · obtain rfl := List.mem_singleton.1 hmem
        exact ⟨g, hg, hnew⟩

theorem Right.congr (h : Right current p) (hforwards : p'.forwards = p.forwards)
    (hasked : p'.askedBy = p.askedBy) (hpush : p'.pushAt = p.pushAt) (htold : p'.told = p.told) :
    Right current p' where
  table := by
    rw [hforwards]
    exact h.table
  numbered := by
    rw [hforwards, hasked]
    exact h.numbered
  group := by
    rw [hforwards, hasked]
    exact h.group
  told := by
    rw [hforwards, hpush, htold]
    exact h.told

theorem resume_eq_some {k : ℕ} {f : ForwardRequest → Option ForwardPlugin} :
    p.resume k f = some p' ↔ ∃ r q, p.requests[k]? = some r ∧ r.connecting = true ∧ f r = some q ∧
      { q with requests := q.requests.modify k fun r => { r with connecting := false } } = p' := by
  simp [resume, Option.bind_eq_some_iff, Option.filter_eq_some_iff, and_assoc]

/-- **One event of the plugin** keeps the forwards right exactly when it is in time. -/
theorem right_next_iff (h : Right current p) {e : ForwardPluginEvent}
    (hnext : p.next current e = some p') : Right current p' ↔ InTime current p e := by
  cases e with
  | create channel id options =>
    obtain rfl := Option.some.inj hnext
    exact iff_of_true (h.congr rfl rfl rfl rfl) trivial
  | connected k =>
    obtain ⟨r, q, hr, -, hq, rfl⟩ := resume_eq_some.1 hnext
    obtain ⟨q', hq', rfl⟩ := Option.map_eq_some_iff.1 hq
    have hiff := right_add_iff h hq' r.group
    have hintime : InTime current p (.connected k) ↔ ∃ g ∈ current, r.group = some g := by
      simp [InTime, hr]
    rw [hintime, ← hiff]
    exact ⟨fun h' => h'.congr rfl rfl rfl rfl, fun h' => h'.congr rfl rfl rfl rfl⟩
  | connectFailed k =>
    obtain ⟨r, q, hr, -, hq, rfl⟩ := resume_eq_some.1 hnext
    obtain rfl := Option.some.inj hq
    exact iff_of_true (h.congr rfl rfl rfl rfl) trivial
  | remove channel id =>
    have hnext : (p.manage (.remove id)).map (·.reply channel .success) = some p' := hnext
    obtain ⟨q, hq, rfl⟩ := Option.map_eq_some_iff.1 hnext
    obtain ⟨forwards, hforwards, rfl⟩ := manage_eq_some.1 hq
    have htable := (h.table.next hforwards).2 trivial
    obtain rfl := Option.some.inj hforwards
    have hremoved := h.shrink hq htable (fun _ hmem => (Collection.mem_delete.1 hmem).1) rfl
    exact iff_of_true (hremoved.congr rfl rfl rfl rfl) trivial
  | ended handler =>
    obtain ⟨forwards, hforwards, rfl⟩ := manage_eq_some.1 hnext
    refine h.connection_iff hnext (.inl ?_)
    simp only [Forwards.next] at hforwards
    split at hforwards
    · obtain rfl := Option.some.inj hforwards
      rfl
    · cases hforwards
  | read handler =>
    obtain ⟨forwards, hforwards, rfl⟩ := manage_eq_some.1 hnext
    refine h.connection_iff hnext ?_
    simp only [Forwards.next] at hforwards
    split at hforwards
    · obtain rfl := Option.some.inj hforwards
      dsimp only
      split
      · exact .inr ⟨handler, rfl⟩
      · exact .inl rfl
    · cases hforwards
  | pushForwards =>
    obtain ⟨due, -, rfl⟩ := Option.map_eq_some_iff.1 hnext
    exact iff_of_true ⟨h.table, h.numbered, h.group, fun _ => rfl⟩ trivial
  | tick d =>
    obtain rfl := Option.some.inj hnext
    exact iff_of_true (h.congr rfl rfl rfl rfl) trivial

/-- **The forwards of a device** are right in exactly the runs in which each is added while the group
that has asked for it is in the device, and its connection ends when it has been removed or
replaced. -/
theorem along_forwards_iff {s : Listener ForwardPlugin}
    {ls : List (GroupManager.Event ⊕ ForwardPluginEvent)} :
    (system o).Along (fun s => Right s.device.currentGroup s.plugin) start ls s ↔
      ((system o).restrict (Listener.Meets InTime)).Run start ls s :=
  Listener.along_iff keeps_react (fun _ _ _ _ h hnext => right_next_iff h hnext)
    ⟨Forwards.tableRight_start, rfl, fun _ h => absurd h List.not_mem_nil, fun _ => rfl⟩

end ForwardPlugin

end BaseDevice

end DeviceHub

import DeviceHub.Async.Lts
import DeviceHub.Store.Collection

/-!
# `plugins/forward/util/manager.js`

The table of the reverse port forwards of a device.  The connection of a handler is piped into a
reader whose `readable` listener does nothing.  Nothing reads such a stream, apart from the one read
that is scheduled when the listener is attached, and a stream that is not read never emits `end`; so
the manager hears of the end of a connection only when it has ended by then.

## Main definitions

* `ForwardHandler`, `ForwardManager` : the handlers and the table.
* `ForwardManager.add`, `remove`, `removeAll`, `endListener` : the methods.
* `Forwards`, `Forwards.events` : the manager and what its table should be.
* `Forwards.TableRight`, `Forwards.EndsRemoved` : the property of a state and the condition on a
  step.

## Main results

* `Forwards.tableRight_iff` : the table is right in exactly the runs in which no connection ends
  before its handler is removed.
-/

namespace DeviceHub

/-- Where the connections to a port of the device are led. -/
structure ForwardOptions where
  devicePort : Nat
  targetHost : String
  targetPort : Nat
  deriving DecidableEq

/-- A handler, with the arguments of the call that created it.  The number tells apart the handlers
that were added under one id. -/
structure ForwardHandler where
  id : String
  options : ForwardOptions
  number : Nat
  deriving DecidableEq

instance : Keyed ForwardHandler String := ⟨ForwardHandler.id⟩

/-- What the manager emits; `remove` comes with the options when the connection was closed. -/
inductive ForwardEmit
  | add (id : String) (options : ForwardOptions)
  | remove (id : String) (options : Option ForwardOptions)
  deriving DecidableEq

/-- The manager, with what it has created, ended and emitted. -/
structure ForwardManager where
  handlersById : Collection ForwardHandler
  /-- The handlers that were created. -/
  created : List ForwardHandler
  /-- The handlers whose `end()` was called. -/
  endCalled : List ForwardHandler
  emitted : List ForwardEmit

/-- An entry of `listAll()`. -/
structure ForwardEntry where
  id : String
  devicePort : Nat
  targetHost : String
  targetPort : Nat
  deriving DecidableEq

namespace ForwardManager

/-- A manager without handlers. -/
def new : ForwardManager := ⟨.empty, [], [], []⟩

/-- There is a handler under the id. -/
def has (m : ForwardManager) (id : String) : Bool := (m.handlersById.findOne id).isSome

/-- The handler of the id is ended and deleted. -/
def remove (m : ForwardManager) (id : String) : ForwardManager :=
  { m with
    endCalled := m.endCalled ++ (m.handlersById.findOne id).toList
    handlersById := m.handlersById.delete id
    emitted := m.emitted ++ [.remove id none] }

/-- The handlers of the device port are removed; the loop stops at the first one. -/
def removePort (m : ForwardManager) (devicePort : Nat) : ForwardManager :=
  match m.handlersById.docs.find? fun handler => handler.options.devicePort = devicePort with
  | some handler => m.remove handler.id
  | none => m

/-- A new handler under the id, in place of those of the id and of the device port. -/
def add (m : ForwardManager) (id : String) (options : ForwardOptions) : ForwardManager :=
  let m := if m.has id then m.remove id else m
  let m := m.removePort options.devicePort
  let handler : ForwardHandler := ⟨id, options, m.created.length⟩
  { m with
    handlersById := (m.handlersById.delete id).insert handler
    created := m.created ++ [handler]
    emitted := m.emitted ++ [.add id options] }

/-- All handlers are ended and deleted. -/
def removeAll (m : ForwardManager) : ForwardManager :=
  { m with
    endCalled := m.endCalled ++ m.handlersById.docs
    handlersById := .empty
    emitted := m.emitted ++ m.handlersById.docs.map fun handler => .remove handler.id none }

/-- The listener that `add` puts on the end of a handler. -/
def endListener (m : ForwardManager) (handler : ForwardHandler) : ForwardManager :=
  { m with
    handlersById := m.handlersById.delete handler.id
    emitted := m.emitted ++ [.remove handler.id (some handler.options)] }

/-- What the table says. -/
def listAll (m : ForwardManager) : List ForwardEntry :=
  m.handlersById.docs.map fun handler =>
    ⟨handler.id, handler.options.devicePort, handler.options.targetHost, handler.options.targetPort⟩

end ForwardManager

/-! ### The table as it should be -/

/-- The calls of the manager, and what becomes of the connections of its handlers. -/
inductive ForwardEvent
  | add (id : String) (options : ForwardOptions)
  | remove (id : String)
  | removeAll
  /-- The connection of the handler ends, and so does what is written to its reader. -/
  | ended (handler : ForwardHandler)
  /-- The read of the reader that was scheduled when its `readable` listener was attached. -/
  | read (handler : ForwardHandler)

/-- The manager, the handler that each id should have, the handlers whose connection has ended, and
those whose reader is still to be read. -/
structure Forwards where
  manager : ForwardManager
  expected : String → Option ForwardHandler
  ended : List ForwardHandler
  unread : List ForwardHandler

namespace Forwards

/-- A manager without handlers. -/
def start : Forwards := ⟨.new, fun _ => none, [], []⟩

/-- The handler that was added last under an id, and neither removed, nor replaced by one with its
id or its device port, nor ended. -/
def expect (s : Forwards) : ForwardEvent → String → Option ForwardHandler
  | .add id options => fun id' =>
    if id' = id then some ⟨id, options, s.manager.created.length⟩
    else (s.expected id').filter (·.options.devicePort ≠ options.devicePort)
  | .remove id => fun id' => if id' = id then none else s.expected id'
  | .removeAll => fun _ => none
  | .ended handler => fun id' => (s.expected id').filter (· ≠ handler)
  | .read _ => s.expected

/-- What an event does; a connection ends once, and its reader is read once.  The reader emits `end`
when it has ended by the time of that read. -/
def next (s : Forwards) (e : ForwardEvent) : Option Forwards :=
  match e with
  | .add id options =>
    some { s with
      manager := s.manager.add id options
      expected := s.expect e
      unread := s.unread ++ [⟨id, options, s.manager.created.length⟩] }
  | .remove id => some { s with manager := s.manager.remove id, expected := s.expect e }
  | .removeAll => some { s with manager := s.manager.removeAll, expected := s.expect e }
  | .ended handler =>
    if handler ∈ s.manager.created ∧ handler ∉ s.ended then
      some { s with expected := s.expect e, ended := s.ended ++ [handler] }
    else none
  | .read handler =>
    if handler ∈ s.unread then
      some { s with
        manager := if handler ∈ s.ended then s.manager.endListener handler else s.manager
        unread := s.unread.erase handler }
    else none

/-- The events, in any order. -/
def events : Lts Forwards ForwardEvent := .ofNext next

/-- Every handler that is not in the table has had `end()` called, or its connection ended. -/
def Released (m : ForwardManager) (ended : List ForwardHandler) : Prop :=
  ∀ handler ∈ m.created, handler ∉ m.handlersById.docs → handler ∈ m.endCalled ∨ handler ∈ ended

/-- No two entries have the same device port. -/
def PortsDistinct (table : Collection ForwardHandler) : Prop :=
  ∀ h ∈ table.docs, ∀ h' ∈ table.docs, h.options.devicePort = h'.options.devicePort → h = h'

/-- **The table is right**: it has the expected handlers, of different device ports, and the others
are on their way out. -/
structure TableRight (s : Forwards) : Prop where
  table : ∀ id, s.manager.handlersById.findOne id = s.expected id
  ports : PortsDistinct s.manager.handlersById
  released : Released s.manager s.ended

/-- A connection ends when its handler is not in the table any more, and the manager does not hear of
it when there is a handler under the id. -/
def EndsRemoved (s : Forwards) : ForwardEvent → Prop
  | .ended handler => handler ∉ s.manager.handlersById.docs
  | .read handler => handler ∈ s.ended → s.manager.has handler.id = false
  | _ => True

/-! ### Removing -/

theorem PortsDistinct.delete {table : Collection ForwardHandler} (h : PortsDistinct table)
    (id : String) : PortsDistinct (table.delete id) := fun a ha b hb hport =>
  h a (Collection.mem_delete.1 ha).1 b (Collection.mem_delete.1 hb).1 hport

theorem Released.remove {m : ForwardManager} {ended : List ForwardHandler} (h : Released m ended)
    (id : String) : Released (m.remove id) ended := by
  intro handler hcreated hnot
  by_cases hmem : handler ∈ m.handlersById.docs
  · have hid : handler.id = id := by
      by_contra hne
      exact hnot (Collection.mem_delete.2 ⟨hmem, hne⟩)
    have hfound : m.handlersById.findOne id = some handler :=
      Collection.findOne_eq_some.2 ⟨hmem, hid⟩
    refine .inl (List.mem_append_right _ ?_)
    rw [hfound]
    exact List.mem_singleton_self handler
  · exact (h handler hcreated hmem).imp_left (List.mem_append_left _)

section RemovePort

variable {m : ForwardManager} {devicePort : Nat}

theorem removePort_ports (h : PortsDistinct m.handlersById) :
    ∀ handler ∈ (m.removePort devicePort).handlersById.docs,
      handler.options.devicePort ≠ devicePort := by
  intro handler hmem
  unfold ForwardManager.removePort at hmem
  split at hmem
  · rename_i first hfirst
    obtain ⟨hold, hne⟩ := Collection.mem_delete.1 hmem
    have hport : first.options.devicePort = devicePort := by simpa using List.find?_some hfirst
    rintro rfl
    exact hne (congrArg key (h handler hold first (List.mem_of_find?_eq_some hfirst) hport.symm))
  · rename_i hnone
    simpa using List.find?_eq_none.1 hnone handler hmem

/-- The handlers of other ports stay under their ids. -/
theorem removePort_findOne (h : PortsDistinct m.handlersById) (id : String) :
    (m.removePort devicePort).handlersById.findOne id =
      (m.handlersById.findOne id).filter (·.options.devicePort ≠ devicePort) := by
  unfold ForwardManager.removePort
  split
  · rename_i first hfirst
    have hport : first.options.devicePort = devicePort := by simpa using List.find?_some hfirst
    have hmem := List.mem_of_find?_eq_some hfirst
    show (m.handlersById.delete first.id).findOne id = _
    by_cases hid : id = first.id
    · have hfound : m.handlersById.findOne id = some first :=
        Collection.findOne_eq_some.2 ⟨hmem, hid.symm⟩
      rw [hfound, hid, Collection.findOne_delete_self, Option.filter_some_neg (by simp [hport])]
    · rw [Collection.findOne_delete_ne hid]
      cases hfound : m.handlersById.findOne id with
      | none => rfl
      | some handler =>
        obtain ⟨hold, hkey⟩ := Collection.findOne_eq_some.1 hfound
        rw [Option.filter_some_pos]
        simp only [decide_eq_true_eq]
        rintro hsame
        have heq := h handler hold first hmem (hsame.trans hport.symm)
        exact hid (hkey.symm.trans (congrArg ForwardHandler.id heq))
  · rename_i hnone
    cases hfound : m.handlersById.findOne id with
    | none => rfl
    | some handler =>
      have hport := List.find?_eq_none.1 hnone handler (Collection.mem_of_findOne hfound)
      rw [Option.filter_some_pos (by simpa using hport)]

theorem Released.removePort {ended : List ForwardHandler} (h : Released m ended) :
    Released (m.removePort devicePort) ended := by
  unfold ForwardManager.removePort
  split
  · exact h.remove _
  · exact h

theorem PortsDistinct.removePort (h : PortsDistinct m.handlersById) :
    PortsDistinct (m.removePort devicePort).handlersById := by
  unfold ForwardManager.removePort
  split
  · exact h.delete _
  · exact h

theorem removePort_created : (m.removePort devicePort).created = m.created := by
  unfold ForwardManager.removePort
  split <;> rfl

end RemovePort

/-! ### Adding -/

/-- The first part of `add`: the handler of the id is removed. -/
def removeOld (m : ForwardManager) (id : String) : ForwardManager :=
  if m.has id then m.remove id else m

section RemoveOld

variable {m : ForwardManager}

theorem removeOld_table (m : ForwardManager) (id : String) :
    (removeOld m id).handlersById = m.handlersById.delete id := by
  unfold removeOld
  split
  · rfl
  · rename_i hnot
    have hnone : m.handlersById.findOne id = none := by
      simpa [ForwardManager.has] using hnot
    exact (Collection.delete_of_findOne_none hnone).symm

theorem removeOld_created (m : ForwardManager) (id : String) :
    (removeOld m id).created = m.created := by
  unfold removeOld
  split <;> rfl

theorem Released.removeOld {ended : List ForwardHandler} (h : Released m ended) (id : String) :
    Released (removeOld m id) ended := by
  unfold Forwards.removeOld
  split
  · exact h.remove id
  · exact h

end RemoveOld

/-- The manager before a handler of the id and the device port is added. -/
structure Cleared (s : Forwards) (id : String) (devicePort : Nat) (m : ForwardManager) : Prop where
  /-- The id is free, and the other ids have lost the handlers of the port. -/
  findOne : ∀ id', m.handlersById.findOne id' = if id' = id then none
    else (s.expected id').filter (·.options.devicePort ≠ devicePort)
  distinct : PortsDistinct m.handlersById
  ports : ∀ handler ∈ m.handlersById.docs, handler.options.devicePort ≠ devicePort
  created : m.created = s.manager.created
  released : Released m s.ended

theorem TableRight.cleared {s : Forwards} (h : TableRight s) (id : String) (devicePort : Nat) :
    Cleared s id devicePort ((removeOld s.manager id).removePort devicePort) := by
  have hdistinct : PortsDistinct (removeOld s.manager id).handlersById := by
    rw [removeOld_table]
    exact h.ports.delete id
  refine ⟨fun id' => ?_, hdistinct.removePort, removePort_ports hdistinct, ?_,
    (h.released.removeOld id).removePort⟩
  · rw [removePort_findOne hdistinct, removeOld_table]
    split
    · rename_i hid
      rw [hid, Collection.findOne_delete_self]
      rfl
    · rename_i hid
      rw [Collection.findOne_delete_ne hid, h.table]
  · rw [removePort_created, removeOld_created]

/-- A handler takes a free id and a free port. -/
theorem Cleared.add {s : Forwards} {id : String} {options : ForwardOptions} {m : ForwardManager}
    (h : Cleared s id options.devicePort m) {handler : ForwardHandler}
    (hhandler : handler = ⟨id, options, m.created.length⟩) :
    TableRight { s with
      manager := { m with
        handlersById := m.handlersById.insert handler
        created := m.created ++ [handler]
        emitted := m.emitted ++ [.add id options] }
      expected := s.expect (.add id options)
      unread := s.unread ++ [⟨id, options, s.manager.created.length⟩] } := by
  have hfree : m.handlersById.findOne (key handler) = none := by
    rw [hhandler]
    exact (h.findOne id).trans (if_pos rfl)
  have hdocs : (m.handlersById.insert handler).docs = m.handlersById.docs ++ [handler] :=
    Collection.docs_insert (Collection.findOne_eq_none_iff_notMem.1 hfree)
  have hkey : key handler = id := by rw [hhandler]; rfl
  refine ⟨fun id' => ?_, fun a ha b hb hport => ?_, fun a hcreated hnot => ?_⟩
  · simp only [expect]
    split
    · rename_i hid
      rw [hid, ← hkey, Collection.findOne_insert_self hfree, hkey, hhandler, h.created]
    · rename_i hid
      rw [Collection.findOne_insert_ne (hkey ▸ hid), h.findOne, if_neg hid]
  · -- the new handler is the only one of its port
    have hnew : handler.options = options := by rw [hhandler]
    simp only [hdocs, List.mem_append, List.mem_singleton] at ha hb
    rcases ha with ha | rfl <;> rcases hb with hb | rfl
    · exact h.distinct a ha b hb hport
    · exact absurd (hport.trans (by rw [hnew])) (h.ports a ha)
    · exact absurd (hport.symm.trans (by rw [hnew])) (h.ports b hb)
    · rfl
  · simp only [hdocs, List.mem_append, List.mem_singleton, not_or] at hcreated hnot
    exact h.released a (hcreated.resolve_right hnot.2) hnot.1

/-- What `add` does to a table that is right. -/
theorem TableRight.add {s : Forwards} (h : TableRight s) (id : String) (options : ForwardOptions) :
    TableRight { s with
      manager := s.manager.add id options
      expected := s.expect (.add id options)
      unread := s.unread ++ [⟨id, options, s.manager.created.length⟩] } := by
  have hcleared := h.cleared id options.devicePort
  have hfree := (hcleared.findOne id).trans (if_pos rfl)
  have hadded := hcleared.add rfl
  rw [← Collection.delete_of_findOne_none hfree] at hadded
  exact hadded

/-! ### Runs -/

/-- The end of a connection leaves the table as it is. -/
theorem TableRight.ended_iff {s : Forwards} (h : TableRight s) {handler : ForwardHandler} :
    TableRight { s with expected := s.expect (.ended handler), ended := s.ended ++ [handler] } ↔
      handler ∉ s.manager.handlersById.docs := by
  constructor
  · intro h' hmem
    have hfound : s.manager.handlersById.findOne handler.id = some handler :=
      Collection.findOne_eq_some.2 ⟨hmem, rfl⟩
    have htable := h'.table handler.id
    simp only [expect, ← h.table, hfound] at htable
    rw [Option.filter_some_neg (by simp)] at htable
    cases htable
  · intro hmem
    refine ⟨fun id => ?_, h.ports, fun a hcreated hnot =>
      (h.released a hcreated hnot).imp_right (List.mem_append_left _)⟩
    simp only [expect, ← h.table]
    cases hfound : s.manager.handlersById.findOne id with
    | none => rfl
    | some other =>
      rw [Option.filter_some_pos]
      simp only [ne_eq, decide_eq_true_eq]
      rintro rfl
      exact hmem (Collection.mem_of_findOne hfound)

/-- The end listener of a handler whose connection has ended deletes whatever is under its id. -/
theorem TableRight.endListener_iff {s : Forwards} (h : TableRight s) {handler : ForwardHandler}
    (unread : List ForwardHandler) :
    TableRight { s with manager := s.manager.endListener handler, unread := unread } ↔
      s.manager.has handler.id = false := by
  have hdeleted : (s.manager.endListener handler).handlersById.findOne handler.id = none :=
    Collection.findOne_delete_self _ _
  constructor
  · intro h'
    have htable := h'.table handler.id
    rw [hdeleted, ← h.table] at htable
    rw [ForwardManager.has, ← htable]
    rfl
  · intro hfree
    have hnone : s.manager.handlersById.findOne handler.id = none := by
      simpa [ForwardManager.has] using hfree
    have hsame : (s.manager.endListener handler).handlersById = s.manager.handlersById :=
      Collection.delete_of_findOne_none hnone
    refine ⟨fun id => ?_, h.ports.delete handler.id, fun a hcreated hnot => ?_⟩
    · rw [hsame]
      exact h.table id
    · rw [hsame] at hnot
      exact h.released a hcreated hnot

/-- **One event** leaves the table right unless a connection ends whose handler is in it, or the
manager hears of an end when there is a handler under the id. -/
theorem TableRight.next {s s' : Forwards} {e : ForwardEvent} (h : TableRight s)
    (hstep : next s e = some s') : TableRight s' ↔ EndsRemoved s e := by
  cases e with
  | add id options =>
    obtain rfl := Option.some.inj hstep
    exact ⟨fun _ => trivial, fun _ => h.add id options⟩
  | remove id =>
    obtain rfl := Option.some.inj hstep
    refine ⟨fun _ => trivial, fun _ => ⟨fun id' => ?_, h.ports.delete id, h.released.remove id⟩⟩
    simp only [expect]
    split
    · rename_i hid
      rw [hid]
      exact Collection.findOne_delete_self _ _
    · rename_i hid
      exact (Collection.findOne_delete_ne hid).trans (h.table id')
  | removeAll =>
    obtain rfl := Option.some.inj hstep
    refine ⟨fun _ => trivial, fun _ => ⟨fun _ => rfl, fun a ha => absurd ha List.not_mem_nil, ?_⟩⟩
    intro handler hcreated _
    by_cases hmem : handler ∈ s.manager.handlersById.docs
    · exact .inl (List.mem_append_right _ hmem)
    · exact (h.released handler hcreated hmem).imp_left (List.mem_append_left _)
  | ended handler =>
    simp only [Forwards.next] at hstep
    split at hstep
    · obtain rfl := Option.some.inj hstep
      exact h.ended_iff
    · cases hstep
  | read handler =>
    simp only [Forwards.next] at hstep
    split at hstep
    · obtain rfl := Option.some.inj hstep
      by_cases hended : handler ∈ s.ended
      · simp only [if_pos hended]
        refine (h.endListener_iff _).trans ⟨fun hfree _ => hfree, fun hfree => hfree hended⟩
      · simp only [if_neg hended]
        exact iff_of_true ⟨h.table, h.ports, h.released⟩ fun hmem => absurd hmem hended
    · cases hstep

theorem tableRight_start : TableRight start where
  table _ := rfl
  ports _ h := absurd h List.not_mem_nil
  released _ h := absurd h List.not_mem_nil

/-- **The table of port forwards is right** in exactly the runs in which no connection ends before
its handler has been removed or replaced, and the manager hears of no end when another handler has
taken the id. -/
theorem tableRight_iff {es : List ForwardEvent} {s : Forwards} :
    events.Along TableRight start es s ↔ (events.restrict EndsRemoved).Run start es s :=
  Lts.along_iff_restrict (I := fun _ => True) (fun _ _ _ _ _ => trivial)
    (fun _ _ _ _ h hstep => h.next hstep) trivial tableRight_start

/-- **A forward whose connection ends** stays in the table: its reader has been read before, and
never emits `end`. -/
theorem not_tableRight_of_ended : ∃ s, events.Run start
    [.add "a" ⟨8080, "host", 80⟩, .read ⟨"a", ⟨8080, "host", 80⟩, 0⟩,
      .ended ⟨"a", ⟨8080, "host", 80⟩, 0⟩] s ∧
    s.manager.has "a" = true ∧ s.expected "a" = none ∧ ¬TableRight s := by
  obtain ⟨s, hrun, hs⟩ := Lts.exists_run_of_play (f := next) (G := fun _ _ => True) start
    [.add "a" ⟨8080, "host", 80⟩, .read ⟨"a", ⟨8080, "host", 80⟩, 0⟩,
      .ended ⟨"a", ⟨8080, "host", 80⟩, 0⟩]
    (fun s => s.manager.has "a" && s.expected "a" = none) (by decide +kernel)
  simp only [Bool.and_eq_true, decide_eq_true_eq] at hs
  refine ⟨s, hrun.of_restrict, hs.1, hs.2, fun h => ?_⟩
  have hhas := hs.1
  rw [ForwardManager.has, h.table, hs.2] at hhas
  cases hhas

end Forwards

end DeviceHub

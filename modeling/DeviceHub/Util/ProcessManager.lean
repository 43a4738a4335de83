import DeviceHub.Async.Lts
import DeviceHub.Async.Order
import Mathlib.Data.List.AList
import Mathlib.Logic.Function.Basic

/-!
# `util/ProcessManager.ts`

The processes of the devices of a provider, each with the resources allocated to it and with the
child that was spawned last.  A call looks its process up, and goes on with that object after it has
waited; meanwhile the map may have another object for the id, or none.

## Main definitions

* `ResourcePool` : the resources that are not allocated.
* `ManagedProcess`, `ChildProcess` : the objects; a process knows its child by the terminate
  handler.
* `ProcessManager` : the objects, the map, and the calls that wait.
* `ProcessManager.Event`, `ProcessManager.system` : calls, and the steps between their awaits.
* `ProcessManager.WellFormed` : what is in the map under an id is a process of the id.

## Main results

* `ProcessManager.WellFormed.step` : every step preserves it.
-/

namespace DeviceHub

/-- The resources that are free. -/
structure ResourcePool (R : Type) where
  available : List R

namespace ResourcePool

variable {R : Type}

/-- Allocate resources from the pool, the first ones. -/
def allocate (pool : ResourcePool R) (count : Nat) : Option (List R × ResourcePool R) :=
  if pool.available.length < count then none
  else some (pool.available.take count, ⟨pool.available.drop count⟩)

/-- Return resources back to the pool. -/
def release (pool : ResourcePool R) (resources : List R) : ResourcePool R :=
  ⟨pool.available ++ resources⟩

end ResourcePool

/-- How far a process is. -/
inductive ProcessState where
  | waiting
  | starting
  | running
  deriving DecidableEq

/-- The terminate handler kills the child with this number. -/
structure ManagedProcess (R : Type) where
  id : String
  state : ProcessState
  resources : List R
  terminateHandler : Option Nat

/-- A child that was spawned: whether the listeners of `start` are set, whether it has said that it
is ready, whether it was told to terminate, and whether it has exited. -/
structure ChildProcess where
  id : String
  listening : Bool
  ready : Bool
  told : Bool
  exited : Bool
  deriving DecidableEq

namespace ChildProcess

/-- It has neither exited, nor was it told to terminate. -/
def alive (c : ChildProcess) : Bool := !c.told && !c.exited

/-- The listeners of the process are removed. -/
def cleanup (c : ChildProcess) : ChildProcess := { c with listening := false }

/-- What the terminate handler does. -/
def terminate (c : ChildProcess) : ChildProcess := { c.cleanup with told := true }

/-- The process has exited. -/
def exit (c : ChildProcess) : ChildProcess := { c.cleanup with exited := true }

end ChildProcess

/-- How a child exits. -/
inductive ExitCause where
  | clean
  | signal
  | crash
  deriving DecidableEq

/-- A call of `stop` or `remove`, with the number of the process that it looked up; `stopped` says
that a removal waits no longer for `onCleanup`, but for its own call of `stop`. -/
structure Stopping where
  id : String
  process : Nat
  removes : Bool
  stopped : Bool
  deriving DecidableEq

/-- A child has crashed; `delayed` says that `onError` has been answered. -/
structure Restart where
  id : String
  delayed : Bool
  deriving DecidableEq

/-- All processes that were ever created, in this order, and the map from the ids to their numbers;
the children; the calls that wait for `spawn`, the crashed children, and the calls that wait for
`onCleanup`.  `halted` are the ids of which a stop or a removal has completed since the last
start. -/
structure ProcessManager (R : Type) where
  resourcePool : ResourcePool R
  objects : List (ManagedProcess R)
  processes : AList fun _ : String => Nat
  children : List ChildProcess
  spawning : List String
  restarts : List Restart
  stopping : List Stopping
  halted : String → Bool

namespace ProcessManager

variable {R : Type}

/-- A new manager. -/
def new (pool : List R) : ProcessManager R := ⟨⟨pool⟩, [], ∅, [], [], [], [], fun _ => false⟩

/-- The process with this id. -/
def get (s : ProcessManager R) (id : String) : Option (ManagedProcess R) :=
  (s.processes.lookup id).bind fun k => s.objects[k]?

/-- There is a process with this id. -/
def has (s : ProcessManager R) (id : String) : Bool := (s.processes.lookup id).isSome

/-- Something is changed in the process of the id, if there is one. -/
def modify (s : ProcessManager R) (id : String) (f : ManagedProcess R → ManagedProcess R) :
    ProcessManager R :=
  { s with objects := (s.processes.lookup id).elim s.objects fun k => s.objects.modify k f }

/-! ### The calls -/

/-- A new process takes the id and the resources. -/
def add (s : ProcessManager R) (id : String) (initialState : ProcessState) (resources : List R)
    (pool : ResourcePool R) : ProcessManager R :=
  { s with
    resourcePool := pool
    objects := s.objects ++ [⟨id, initialState, resources, none⟩]
    processes := s.processes.insert id s.objects.length }

/-- `resourceCount` is zero where it is undefined. -/
def create (s : ProcessManager R) (id : String) (initialState : ProcessState)
    (resourceCount : Nat) : ProcessManager R :=
  if s.has id then s
  else if resourceCount ≠ 0 then
    (s.resourcePool.allocate resourceCount).elim s fun allocated =>
      s.add id initialState allocated.1 allocated.2
  else s.add id initialState [] s.resourcePool

/-- `start` does not return before it spawns. -/
def willSpawn (s : ProcessManager R) (id : String) (force : Bool) : Bool :=
  (s.get id).any fun p => force || p.state ≠ .running

/-- Up to the call of `spawn`. -/
def start (s : ProcessManager R) (id : String) (force : Bool) : ProcessManager R :=
  if s.willSpawn id force then
    { s.modify id fun p => { p with state := .starting } with spawning := s.spawning ++ [id] }
  else s

/-- The start of a crashed child is part of an earlier call; this is one from outside. -/
def callStart (s : ProcessManager R) (id : String) (force : Bool) : ProcessManager R :=
  { s.start id force with
    halted := if s.willSpawn id force then Function.update s.halted id false else s.halted }

/-- `stop` and `remove` up to their first await. -/
def callStop (s : ProcessManager R) (id : String) (removes : Bool) : ProcessManager R :=
  { s with
    stopping := s.stopping ++
      (s.processes.lookup id).toList.map fun k => ⟨id, k, removes, false⟩ }

/-- The state of a process changes. -/
def setState (s : ProcessManager R) (id : String) (state : ProcessState) : ProcessManager R :=
  s.modify id fun p => { p with state := state }

/-- All ids are removed at once. -/
def cleanup (s : ProcessManager R) : ProcessManager R :=
  { s with
    stopping := s.stopping ++ s.processes.entries.map fun e => ⟨e.1, e.2, true, false⟩ }

/-! ### After the awaits -/

/-- The call number `k` that waits for `spawn` goes on, with the child. -/
def spawned (s : ProcessManager R) (k : Nat) (id : String) : ProcessManager R :=
  { s.modify id fun p => { p with terminateHandler := some s.children.length } with
    children := s.children ++ [⟨id, true, false, false, false⟩]
    spawning := s.spawning.eraseIdx k }

/-- The child number `i` says that it is ready. -/
def ready (s : ProcessManager R) (i : Nat) (c : ChildProcess) : ProcessManager R :=
  { s.modify c.id fun p => { p with state := .running } with
    children := s.children.modify i fun c => { c with ready := true } }

/-- The child number `i` exits. -/
def exit (s : ProcessManager R) (i : Nat) (c : ChildProcess) (cause : ExitCause) :
    ProcessManager R :=
  { s with
    children := s.children.modify i ChildProcess.exit
    restarts := if c.listening && cause = .crash then s.restarts ++ [⟨c.id, false⟩]
      else s.restarts }

/-- `onError` of the restart number `k` is answered. -/
def errorHandled (s : ProcessManager R) (k : Nat) (r : Restart) : ProcessManager R :=
  { s with
    restarts := if s.has r.id then s.restarts.modify k fun r => { r with delayed := true }
      else s.restarts.eraseIdx k }

/-- The two seconds of the restart number `k` are over. -/
def delayOver (s : ProcessManager R) (k : Nat) (r : Restart) : ProcessManager R :=
  { s.start r.id true with restarts := s.restarts.eraseIdx k }

/-- `process.terminateHandler?.()` -/
def terminate (s : ProcessManager R) (process : Nat) : ProcessManager R :=
  { s with
    children := (s.objects[process]?.bind ManagedProcess.terminateHandler).elim s.children fun i =>
      s.children.modify i ChildProcess.terminate }

/-- `onCleanup` of the call number `k` is answered. -/
def cleanedUp (s : ProcessManager R) (k : Nat) (c : Stopping) : ProcessManager R :=
  if c.removes then
    { s.terminate c.process with
      stopping := s.stopping.modify k fun c => { c with stopped := true } }
  else
    { s.terminate c.process with
      stopping := s.stopping.eraseIdx k
      halted := Function.update s.halted c.id true }

/-- The resources of the process with this number. -/
def resources (s : ProcessManager R) (process : Nat) : List R :=
  s.objects[process]?.elim [] ManagedProcess.resources

/-- The removal number `k` goes on after its call of `stop`. -/
def removed (s : ProcessManager R) (k : Nat) (c : Stopping) : ProcessManager R :=
  { s with
    resourcePool := s.resourcePool.release (s.resources c.process)
    processes := s.processes.erase c.id
    stopping := s.stopping.eraseIdx k
    halted := Function.update s.halted c.id true }

/-! ### Runs -/

/-- What can happen to the manager. -/
inductive Event where
  | create (id : String) (initialState : ProcessState) (resourceCount : Nat)
  | start (id : String) (force : Bool)
  | stop (id : String)
  | remove (id : String)
  | setState (id : String) (state : ProcessState)
  | cleanup
  | spawned (k : Nat)
  | spawnFailed (k : Nat)
  | ready (i : Nat)
  | exit (i : Nat) (cause : ExitCause)
  | error (i : Nat)
  | errorHandled (k : Nat)
  | errorUnhandled (k : Nat)
  | delayOver (k : Nat)
  | cleanedUp (k : Nat)
  | cleanupFailed (k : Nat)
  | removed (k : Nat)

/-- The message `ready` and the event `error` of a child are handled while the listeners are set;
another error than the exit leaves only the listeners unset.  A call whose callback is rejected
ends. -/
def next (s : ProcessManager R) : Event → Option (ProcessManager R)
  | .create id initialState resourceCount => some (s.create id initialState resourceCount)
  | .start id force => some (s.callStart id force)
  | .stop id => some (s.callStop id false)
  | .remove id => some (s.callStop id true)
  | .setState id state => some (s.setState id state)
  | .cleanup => some s.cleanup
  | .spawned k => s.spawning[k]?.map (s.spawned k)
  | .spawnFailed k => s.spawning[k]?.map fun _ => { s with spawning := s.spawning.eraseIdx k }
  | .ready i => (s.children[i]?.filter fun c => c.listening && !c.ready && !c.exited).map (s.ready i)
  | .exit i cause => (s.children[i]?.filter fun c => !c.exited).map fun c => s.exit i c cause
  | .error i => (s.children[i]?.filter fun c => c.listening).map fun _ =>
      { s with children := s.children.modify i ChildProcess.cleanup }
  | .errorHandled k => (s.restarts[k]?.filter fun r => !r.delayed).map (s.errorHandled k)
  | .errorUnhandled k => (s.restarts[k]?.filter fun r => !r.delayed).map fun _ =>
      { s with restarts := s.restarts.eraseIdx k }
  | .delayOver k => (s.restarts[k]?.filter fun r => r.delayed).map (s.delayOver k)
  | .cleanedUp k => (s.stopping[k]?.filter fun c => !c.stopped).map (s.cleanedUp k)
  | .cleanupFailed k => (s.stopping[k]?.filter fun c => !c.stopped).map fun _ =>
      { s with stopping := s.stopping.eraseIdx k }
  | .removed k => (s.stopping[k]?.filter fun c => c.stopped).map (s.removed k)

/-- The calls and the steps between their awaits, in any order. -/
def system (R : Type) : Lts (ProcessManager R) Event := .ofNext next

/-! ### What is in the map -/

variable {s s' : ProcessManager R}

/-- The ids of all processes. -/
def ids (s : ProcessManager R) : List String := s.objects.map ManagedProcess.id

/-- What the map has under an id is a process of the id, and so is what a call has looked up. -/
structure WellFormed (s : ProcessManager R) : Prop where
  processes : ∀ id, ∀ k ∈ s.processes.lookup id, s.ids[k]? = some id
  stopping : ∀ c ∈ s.stopping, s.ids[c.process]? = some c.id

theorem wellFormed_new (pool : List R) : (new pool).WellFormed where
  processes id k hk := by
    rw [show (new pool).processes.lookup id = none from AList.lookup_empty id] at hk
    cases hk
  stopping c hc := by cases hc

theorem map_objects_modify {β : Type} {g : ManagedProcess R → β} {id : String}
    {f : ManagedProcess R → ManagedProcess R} (hf : ∀ p, g (f p) = g p) :
    (s.modify id f).objects.map g = s.objects.map g := by
  unfold modify
  cases s.processes.lookup id with
  | none => rfl
  | some k => exact map_modify_of_eq hf s.objects k

theorem map_objects_start {β : Type} {g : ManagedProcess R → β}
    (hg : ∀ p, g { p with state := .starting } = g p) (id : String) (force : Bool) :
    (s.start id force).objects.map g = s.objects.map g := by
  unfold start
  split
  · exact map_objects_modify hg
  · rfl

@[simp] theorem resourcePool_start (id : String) (force : Bool) :
    (s.start id force).resourcePool = s.resourcePool := by
  unfold start
  split <;> rfl

@[simp] theorem halted_start (id : String) (force : Bool) :
    (s.start id force).halted = s.halted := by
  unfold start
  split <;> rfl

@[simp] theorem processes_start (id : String) (force : Bool) :
    (s.start id force).processes = s.processes := by
  unfold start
  split <;> rfl

@[simp] theorem stopping_start (id : String) (force : Bool) :
    (s.start id force).stopping = s.stopping := by
  unfold start
  split <;> rfl

theorem WellFormed.congr (h : s.WellFormed) (hids : s'.ids = s.ids)
    (hprocesses : s'.processes = s.processes) (hstopping : ∀ c ∈ s'.stopping,
      ∃ c₀ ∈ s.stopping, c₀.id = c.id ∧ c₀.process = c.process) : s'.WellFormed where
  processes id k hk := by
    rw [hids]
    exact h.processes id k (hprocesses ▸ hk)
  stopping c hc := by
    obtain ⟨c₀, hc₀, hid, hprocess⟩ := hstopping c hc
    rw [hids, ← hid, ← hprocess]
    exact h.stopping c₀ hc₀

theorem WellFormed.add (h : s.WellFormed) (id : String) (initialState : ProcessState)
    (resources : List R) (pool : ResourcePool R) :
    (s.add id initialState resources pool).WellFormed := by
  have hids : (s.add id initialState resources pool).ids = s.ids ++ [id] := by
    simp [ids, ProcessManager.add]
  have hold : ∀ {k : Nat} {id' : String}, s.ids[k]? = some id' → (s.ids ++ [id])[k]? = some id' :=
    fun hk => List.getElem?_append_left (List.getElem?_eq_some_iff.1 hk).1 ▸ hk
  refine ⟨fun id' k hk => ?_, fun c hc => ?_⟩
  · rw [hids]
    by_cases hsame : id' = id
    · subst hsame
      obtain rfl : s.objects.length = k := by
        simpa [ProcessManager.add, AList.lookup_insert] using hk
      simp [ids]
    · refine hold (h.processes id' k ?_)
      simpa [ProcessManager.add, AList.lookup_insert_ne hsame] using hk
  · rw [hids]
    exact hold (h.stopping c hc)

theorem WellFormed.waitFor (h : s.WellFormed) {calls : List Stopping}
    (hcalls : ∀ c ∈ calls, s.processes.lookup c.id = some c.process) :
    { s with stopping := s.stopping ++ calls }.WellFormed where
  processes := h.processes
  stopping c hc := by
    rcases List.mem_append.1 hc with hc | hc
    · exact h.stopping c hc
    · exact h.processes c.id c.process (hcalls c hc)

theorem WellFormed.erase (h : s.WellFormed) (k : Nat) :
    { s with stopping := s.stopping.eraseIdx k }.WellFormed :=
  h.congr rfl rfl fun c hc => ⟨c, List.mem_of_mem_eraseIdx hc, rfl, rfl⟩

/-- Every step keeps what is in the map. -/
theorem WellFormed.step (h : s.WellFormed) {event : Event} (hnext : s.next event = some s') :
    s'.WellFormed := by
  have hsame : ∀ {s' : ProcessManager R}, s'.ids = s.ids → s'.processes = s.processes →
      s'.stopping = s.stopping → s'.WellFormed := fun hids hprocesses hstopping =>
    h.congr hids hprocesses fun c hc => ⟨c, hstopping ▸ hc, rfl, rfl⟩
  cases event with
  | create id initialState resourceCount =>
    obtain rfl := Option.some.inj hnext
    unfold create
    split
    · exact h
    · split
      · rcases Option.eq_none_or_eq_some (s.resourcePool.allocate resourceCount) with hnone | ⟨a, ha⟩
        · rw [hnone]
          exact h
        · rw [ha]
          exact h.add id initialState _ _
      · exact h.add id initialState _ _
  | start id force =>
    obtain rfl := Option.some.inj hnext
    exact hsame (map_objects_start (fun _ => rfl) id force) (processes_start id force)
      (stopping_start id force)
  | stop id =>
    obtain rfl := Option.some.inj hnext
    refine h.waitFor fun c hc => ?_
    obtain ⟨k, hk, rfl⟩ := List.mem_map.1 hc
    exact Option.mem_toList.1 hk
  | remove id =>
    obtain rfl := Option.some.inj hnext
    refine h.waitFor fun c hc => ?_
    obtain ⟨k, hk, rfl⟩ := List.mem_map.1 hc
    exact Option.mem_toList.1 hk
  | setState id state =>
    obtain rfl := Option.some.inj hnext
    exact hsame (map_objects_modify fun _ => rfl) rfl rfl
  | cleanup =>
    obtain rfl := Option.some.inj hnext
    refine h.waitFor fun c hc => ?_
    obtain ⟨e, he, rfl⟩ := List.mem_map.1 hc
    exact AList.mem_lookup_iff.2 he
  | spawned k =>
    obtain ⟨id, -, rfl⟩ := Option.map_eq_some_iff.1 hnext
    exact hsame (map_objects_modify (s := s) fun _ => rfl) rfl rfl
  | ready i =>
    obtain ⟨c, -, rfl⟩ := Option.map_eq_some_iff.1 hnext
    exact hsame (map_objects_modify (s := s) fun _ => rfl) rfl rfl
  | spawnFailed _ | exit _ _ | error _ | errorHandled _ | errorUnhandled _ =>
    obtain ⟨_, -, rfl⟩ := Option.map_eq_some_iff.1 hnext
    exact hsame rfl rfl rfl
  | delayOver k =>
    obtain ⟨r, -, rfl⟩ := Option.map_eq_some_iff.1 hnext
    exact hsame (map_objects_start (fun _ => rfl) r.id true) (processes_start r.id true)
      (stopping_start r.id true)
  | cleanedUp k =>
    obtain ⟨c, -, rfl⟩ := Option.map_eq_some_iff.1 hnext
    unfold cleanedUp
    split
    · refine h.congr rfl rfl fun c' hc' => ?_
      -- the call says the same of its process as before
      have hmem : (c'.id, c'.process) ∈ s.stopping.map fun c => (c.id, c.process) := by
        rw [← map_modify_of_eq (f := fun c : Stopping => { c with stopped := true })
          (fun _ => rfl) s.stopping k]
        exact List.mem_map_of_mem hc'
      obtain ⟨c₀, hc₀, heq⟩ := List.mem_map.1 hmem
      exact ⟨c₀, hc₀, congrArg Prod.fst heq, congrArg Prod.snd heq⟩
    · exact h.congr rfl rfl fun c hc => ⟨c, List.mem_of_mem_eraseIdx hc, rfl, rfl⟩
  | cleanupFailed k =>
    obtain ⟨c, -, rfl⟩ := Option.map_eq_some_iff.1 hnext
    exact h.erase k
  | removed k =>
    obtain ⟨c, -, rfl⟩ := Option.map_eq_some_iff.1 hnext
    refine ⟨fun id k' hk' => h.processes id k' ?_, (h.erase k).stopping⟩
    by_cases hid : id = c.id
    · rw [hid, show (s.removed k c).processes.lookup c.id = none from AList.lookup_erase _ _] at hk'
      cases hk'
    · rwa [show (s.removed k c).processes.lookup id = _ from AList.lookup_erase_ne hid] at hk'

theorem wellFormed_of_run {pool : List R} {events : List Event}
    (hrun : (system R).Run (new pool) events s) : s.WellFormed :=
  hrun.invariant (I := WellFormed) (wellFormed_new pool) fun _ _ _ h hstep => h.step hstep

end ProcessManager

end DeviceHub

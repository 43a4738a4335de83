import DeviceHub.Util.ProcessManager
import Mathlib.Data.Fintype.Basic

/-!
# The relays of `units/ios-provider/index.ts`

The callback `spawn` opens two relays for a physical device, and hands them over to the context of
the process when both are open.  The callback `onCleanup` stops the relays of the context; it is
called by `stop`, and not when a worker is restarted.

## Main definitions

* `Forwarding` : the relays of one call of `spawn`.
* `IosProvider` : the process manager, with all relays that were ever opened.
* `IosProvider.next` : the steps of the manager with the callbacks, and of the relays.
* `IosProvider.NoLeak` : no device has the relays of two calls, and none after a stop or a failure.
* `IosProvider.Orderly` : the condition on the steps.

## Main results

* `ProcessManager.down_next` : an id is only stopped by the calls that clean it up.
* `IosProvider.Kept.step` : a step that meets the condition keeps the relays of earlier calls closed.
* `IosProvider.noLeak_of_run` : in the runs whose steps meet the condition no relay leaks.
-/

namespace DeviceHub

/-! ### Relays -/

/-- The two ports of a device, `8100` and `9100`. -/
inductive RelayPort where
  | wda
  | screen
  deriving DecidableEq

instance : Fintype RelayPort where
  elems := {.wda, .screen}
  complete port := by cases port <;> decide

/-- A relay that failed, or was stopped, is closed. -/
inductive RelayState where
  | closed
  | opening
  | open
  deriving DecidableEq

/-- The relays of one call of `spawn` with the number of its process: whether the context has them,
and whether the call failed. -/
structure Forwarding where
  id : String
  process : Nat
  relay : RelayPort → RelayState
  handed : Bool
  failed : Bool

namespace Forwarding

/-- Neither relay is open or being opened. -/
def IsClosed (f : Forwarding) : Prop := ∀ port, f.relay port = .closed

/-- One of the relays is open. -/
def HasOpen (f : Forwarding) : Prop := ∃ port, f.relay port = .open

instance (f : Forwarding) : Decidable f.IsClosed :=
  inferInstanceAs (Decidable (∀ port, f.relay port = .closed))

instance (f : Forwarding) : Decidable f.HasOpen :=
  inferInstanceAs (Decidable (∃ port, f.relay port = .open))

/-- There is no relay for a simulator. -/
def new (id : String) (process : Nat) (isSimulator : Bool) : Forwarding where
  id := id
  process := process
  relay _ := if isSimulator then .closed else .opening
  handed := isSimulator
  failed := false

/-- Both stop functions are called. -/
def stop (f : Forwarding) : Forwarding := { f with relay := fun _ => .closed }

/-- A relay is open. -/
def opened (f : Forwarding) (port : RelayPort) : Forwarding :=
  { f with relay := Function.update f.relay port .open }

/-- `openPort` throws, and so does `spawn`. -/
def openFailed (f : Forwarding) (port : RelayPort) : Forwarding :=
  { f with relay := Function.update f.relay port .closed, failed := true }

theorem IsClosed.not_hasOpen {f : Forwarding} (h : f.IsClosed) : ¬ f.HasOpen := by
  rintro ⟨port, hopen⟩
  rw [h port] at hopen
  cases hopen

end Forwarding

/-! ### The provider -/

/-- The process manager; the relays of all calls of `spawn`, in the order of the calls; the numbers of
the calls that the manager waits for; and the call whose stop functions the context of a process
has. -/
structure IosProvider (R : Type) where
  manager : ProcessManager R
  forwardings : List Forwarding
  spawns : List Nat
  context : Nat → Option Nat

/-- What can happen to the manager and to the relays. -/
inductive IosProviderEvent where
  | manager (event : ProcessManager.Event)
  | opened (i : Nat) (port : RelayPort)
  | openFailed (i : Nat) (port : RelayPort)
  | handed (k : Nat)

namespace IosProvider

variable {R : Type}

/-- A manager with the ports of the pool. -/
def new (pool : List R) : IosProvider R := ⟨.new pool, [], [], fun _ => none⟩

/-- `onCleanup` of the processes with these numbers. -/
def onCleanup (p : IosProvider R) (processes : List Nat) : IosProvider R :=
  { p with
    forwardings := p.forwardings.mapIdx fun i f =>
      if i ∈ processes.filterMap p.context then f.stop else f }

variable (isSimulator : String → Bool)

/-- The call of `spawn` for the process of the id. -/
def spawn (p : IosProvider R) (id : String) : IosProvider R :=
  match p.manager.processes.lookup id with
  | none => p
  | some process =>
    { p with
      forwardings := p.forwardings ++ [.new id process (isSimulator id)]
      spawns := p.spawns ++ [p.forwardings.length] }

/-- What the callbacks of the manager do at an event. -/
def callbacks (p : IosProvider R) : ProcessManager.Event → IosProvider R
  | .start id force => if p.manager.willSpawn id force then p.spawn isSimulator id else p
  | .delayOver k =>
    match p.manager.restarts[k]? with
    | none => p
    | some r => if p.manager.willSpawn r.id true then p.spawn isSimulator r.id else p
  | .stop id | .remove id => p.onCleanup (p.manager.processes.lookup id).toList
  | .cleanup => p.onCleanup (p.manager.processes.entries.map Sigma.snd)
  | .spawned k => { p with spawns := p.spawns.eraseIdx k }
  | .spawnFailed k =>
    match p.spawns[k]? with
    | none => p
    | some i =>
      { p with
        spawns := p.spawns.eraseIdx k
        forwardings := p.forwardings.modify i fun f => { f with failed := true } }
  | _ => p

/-- `spawn` is answered when the context has the relays: by the child, or by what `fork` throws.  It
is rejected as soon as a relay fails. -/
def Answers (p : IosProvider R) : ProcessManager.Event → Bool
  | .spawned k => (p.spawns[k]?.bind fun i => p.forwardings[i]?).any fun f => f.handed
  | .spawnFailed k => (p.spawns[k]?.bind fun i => p.forwardings[i]?).any fun f => f.handed || f.failed
  | _ => true

/-- What an event does. -/
def next (p : IosProvider R) : IosProviderEvent → Option (IosProvider R)
  | .manager event =>
    if p.Answers event then
      (p.manager.next event).map fun manager => { p.callbacks isSimulator event with manager }
    else none
  | .opened i port => (p.forwardings[i]?.filter fun f => f.relay port = .opening).map fun _ =>
      { p with forwardings := p.forwardings.modify i fun f => f.opened port }
  | .openFailed i port => (p.forwardings[i]?.filter fun f => f.relay port = .opening).map fun _ =>
      { p with forwardings := p.forwardings.modify i fun f => f.openFailed port }
  | .handed k =>
    p.spawns[k]?.bind fun i =>
      (p.forwardings[i]?.filter fun f =>
        !f.handed && decide (∀ port, f.relay port = .open)).map fun f =>
        { p with
          forwardings := p.forwardings.modify i fun f => { f with handed := true }
          context := Function.update p.context f.process (some i) }

/-- The calls of the process manager, and what its callbacks wait for, in any order. -/
def system (R : Type) : Lts (IosProvider R) IosProviderEvent := .ofNext (next isSimulator)

/-! ### What is expected -/

/-- The relays that a device has open are those of one call of `spawn`, and the relays of the calls
before it were closed when it began; a device that was stopped has none open, and a call that failed
leaves none open. -/
structure NoLeak (p : IosProvider R) : Prop where
  onePair : ∀ (i j : Nat) (f g : Forwarding), p.forwardings[i]? = some f →
    p.forwardings[j]? = some g → f.id = g.id → f.HasOpen → g.HasOpen → i = j
  afterStop : ∀ (i j : Nat) (f g : Forwarding), i < j → p.forwardings[i]? = some f →
    p.forwardings[j]? = some g → f.id = g.id → f.IsClosed
  halted : ∀ f ∈ p.forwardings, p.manager.halted f.id = true → ¬ f.HasOpen
  failed : ∀ (i j : Nat) (f g : Forwarding), i ≤ j → p.forwardings[i]? = some f →
    p.forwardings[j]? = some g → f.id = g.id → g.failed = true → ¬ f.HasOpen

/-- No relay of the id is open, or being opened. -/
def Free (p : IosProvider R) (id : String) : Prop := ∀ f ∈ p.forwardings, f.id = id → f.IsClosed

/-- No stop and no removal of the id is under way. -/
def Unstopped (p : IosProvider R) (id : String) : Prop := ∀ c ∈ p.manager.stopping, c.id ≠ id

/-- The context of the process of the id has all relays of the id that are not closed. -/
def Stoppable (p : IosProvider R) (id : String) : Prop :=
  ∀ process ∈ p.manager.processes.lookup id, ∀ i ∈ List.range p.forwardings.length,
    ∀ f ∈ p.forwardings[i]?, f.id = id → ¬ f.IsClosed → p.context process = some i

/-- The condition.  A worker is started, or restarted, only where no relay of the device is left and
no stop of it is under way, and restarted only where it was not stopped.  A device is stopped only
when its relays were handed over.  A `spawn` fails only where none of its relays is open, and none is
opened after it failed.

It holds of what comes from outside when no worker is restarted after a crash, no device is started
for a second time before it was stopped and the stop is over, a device is stopped only after its
`spawn` has resolved, and both ports of a `spawn` open, or neither of them does, and after that the
fork does not fail. -/
def Orderly (p : IosProvider R) : IosProviderEvent → Prop
  | .manager (.start id force) => p.manager.willSpawn id force = true → p.Free id ∧ p.Unstopped id
  | .manager (.delayOver k) => ∀ r ∈ p.manager.restarts[k]?, p.manager.willSpawn r.id true = true →
      p.Free r.id ∧ p.Unstopped r.id ∧ p.manager.halted r.id = false
  | .manager (.stop id) | .manager (.remove id) => p.Stoppable id
  | .manager .cleanup => ∀ f ∈ p.forwardings, p.Stoppable f.id
  | .manager (.spawnFailed k) => ∀ i ∈ p.spawns[k]?, ∀ f ∈ p.forwardings[i]?, ¬ f.HasOpen
  | .opened i _ => ∀ f ∈ p.forwardings[i]?, f.failed = false
  | .openFailed i _ => ∀ f ∈ p.forwardings[i]?, ¬ f.HasOpen
  | _ => True

instance (p : IosProvider R) (id : String) : Decidable (p.Free id) :=
  inferInstanceAs (Decidable (∀ f ∈ p.forwardings, f.id = id → f.IsClosed))

instance (p : IosProvider R) (id : String) : Decidable (p.Unstopped id) :=
  inferInstanceAs (Decidable (∀ c ∈ p.manager.stopping, c.id ≠ id))

instance (p : IosProvider R) (id : String) : Decidable (p.Stoppable id) := by
  unfold Stoppable
  infer_instance

instance (p : IosProvider R) (event : IosProviderEvent) : Decidable (p.Orderly event) := by
  unfold Orderly
  split <;> infer_instance

end IosProvider

/-! ### Stopped devices -/

namespace ProcessManager

variable {R : Type} {s s' : ProcessManager R}

/-- A stop of the id has completed since the last start, or one is under way. -/
def Down (s : ProcessManager R) (id : String) : Prop :=
  s.halted id = true ∨ ∃ c ∈ s.stopping, c.id = id

theorem down_congr (hhalted : s'.halted = s.halted) (hstopping : s'.stopping = s.stopping)
    {id : String} (h : s'.Down id) : s.Down id := by
  simpa only [Down, hhalted, hstopping] using h

theorem create_frame (id : String) (initialState : ProcessState) (resourceCount : Nat) :
    (s.create id initialState resourceCount).halted = s.halted
      ∧ (s.create id initialState resourceCount).stopping = s.stopping := by
  unfold create
  split
  · exact ⟨rfl, rfl⟩
  · split
    · cases s.resourcePool.allocate resourceCount <;> exact ⟨rfl, rfl⟩
    · exact ⟨rfl, rfl⟩

/-- A call that waits for `onCleanup` or for its own stop ends, or goes on. -/
theorem down_of_stopping (hhalted : ∀ id, s'.halted id = true → s.Down id)
    (hstopping : ∀ c' ∈ s'.stopping, ∃ c ∈ s.stopping, c.id = c'.id) {id : String}
    (h : s'.Down id) : s.Down id := by
  obtain h | ⟨c', hc', hid⟩ := h
  · exact hhalted id h
  · obtain ⟨c, hc, hsame⟩ := hstopping c' hc'
    exact .inr ⟨c, hc, hsame.trans hid⟩

/-- The stop number `k` has completed. -/
theorem down_of_halted {k : Nat} {c : Stopping} (hk : s.stopping[k]? = some c) {id : String}
    (h : Function.update s.halted c.id true id = true) : s.Down id := by
  by_cases hid : id = c.id
  · exact .inr ⟨c, List.mem_of_getElem? hk, hid.symm⟩
  · rw [Function.update_of_ne hid] at h
    exact .inl h

theorem down_callStart {id id' : String} {force : Bool} (h : (s.callStart id' force).Down id) :
    s.Down id := by
  refine down_of_stopping (fun id h => ?_) (fun c hc => ?_) h
  · simp only [callStart] at h
    split at h
    · by_cases hid : id = id'
      · simp [hid] at h
      · rw [Function.update_of_ne hid] at h
        exact .inl h
    · exact .inl h
  · exact ⟨c, by simpa [callStart] using hc, rfl⟩

theorem down_calls {calls : List Stopping} {id : String}
    (h : ({ s with stopping := s.stopping ++ calls }).Down id) :
    s.Down id ∨ ∃ c ∈ calls, c.id = id := by
  obtain h | ⟨c, hc, hid⟩ := h
  · exact .inl (.inl h)
  · obtain hc | hc := List.mem_append.1 hc
    · exact .inl (.inr ⟨c, hc, hid⟩)
    · exact .inr ⟨c, hc, hid⟩

theorem down_callStop {id id' : String} {removes : Bool} (h : (s.callStop id' removes).Down id) :
    s.Down id ∨ (s.has id = true ∧ id' = id) := by
  obtain h | ⟨c, hc, hid⟩ := down_calls h
  · exact .inl h
  · obtain ⟨k, hk, rfl⟩ := List.mem_map.1 hc
    obtain rfl : id' = id := hid
    exact .inr ⟨Option.isSome_iff_exists.2 ⟨k, Option.mem_toList.1 hk⟩, rfl⟩

theorem down_cleanup {id : String} (h : s.cleanup.Down id) : s.Down id ∨ s.has id = true := by
  obtain h | ⟨c, hc, hid⟩ := down_calls h
  · exact .inl h
  · obtain ⟨e, he, rfl⟩ := List.mem_map.1 hc
    obtain rfl : e.1 = id := hid
    exact .inr (Option.isSome_iff_exists.2 ⟨e.2, AList.mem_lookup_iff.2 he⟩)

/-- An id that was stopped was looked up by a call that cleans it up, or was stopped before. -/
theorem down_next {event : Event} (hnext : s.next event = some s') {id : String} (h : s'.Down id) :
    s.Down id ∨ (s.has id = true ∧ (event = .stop id ∨ event = .remove id ∨ event = .cleanup)) := by
  cases event with
  | create id' initialState resourceCount =>
    obtain rfl := Option.some.inj hnext
    obtain ⟨hhalted, hstopping⟩ := create_frame (s := s) id' initialState resourceCount
    exact .inl (down_congr hhalted hstopping h)
  | start id' force =>
    obtain rfl := Option.some.inj hnext
    exact .inl (down_callStart h)
  | stop id' =>
    obtain rfl := Option.some.inj hnext
    exact (down_callStop h).imp_right fun ⟨hhas, hid⟩ => ⟨hhas, .inl (hid ▸ rfl)⟩
  | remove id' =>
    obtain rfl := Option.some.inj hnext
    exact (down_callStop h).imp_right fun ⟨hhas, hid⟩ => ⟨hhas, .inr (.inl (hid ▸ rfl))⟩
  | setState id' state =>
    obtain rfl := Option.some.inj hnext
    exact .inl (down_congr rfl rfl h)
  | cleanup =>
    obtain rfl := Option.some.inj hnext
    exact (down_cleanup h).imp_right fun hhas => ⟨hhas, .inr (.inr rfl)⟩
  | spawned _ | ready _ | spawnFailed _ | exit _ _ | error _ | errorHandled _ | errorUnhandled _ =>
    obtain ⟨_, -, rfl⟩ := Option.map_eq_some_iff.1 hnext
    exact .inl (down_congr rfl rfl h)
  | delayOver k =>
    obtain ⟨r, -, rfl⟩ := Option.map_eq_some_iff.1 hnext
    exact .inl (down_congr (halted_start r.id true) (stopping_start r.id true) h)
  | cleanedUp k =>
    obtain ⟨c, hc, rfl⟩ := Option.map_eq_some_iff.1 hnext
    obtain ⟨hk, -⟩ := Option.filter_eq_some_iff.1 hc
    left
    simp only [cleanedUp] at h
    split at h
    · refine down_of_stopping ?_ ?_ h
      · exact fun _ h => .inl h
      intro c' hc'
      obtain ⟨i, hi⟩ := List.mem_iff_getElem?.1 hc'
      obtain ⟨c, hc, ⟨-, rfl⟩ | ⟨-, rfl⟩⟩ := getElem?_modify_eq_some hi
      · exact ⟨c, List.mem_of_getElem? hc, rfl⟩
      · exact ⟨c', List.mem_of_getElem? hc, rfl⟩
    · refine down_of_stopping ?_ ?_ h
      · exact fun _ h => down_of_halted hk h
      · exact fun c' hc' => ⟨c', List.mem_of_mem_eraseIdx hc', rfl⟩
  | cleanupFailed k =>
    obtain ⟨c, -, rfl⟩ := Option.map_eq_some_iff.1 hnext
    left
    refine down_of_stopping ?_ ?_ h
    · exact fun _ h => .inl h
    · exact fun c' hc' => ⟨c', List.mem_of_mem_eraseIdx hc', rfl⟩
  | removed k =>
    obtain ⟨c, hc, rfl⟩ := Option.map_eq_some_iff.1 hnext
    obtain ⟨hk, -⟩ := Option.filter_eq_some_iff.1 hc
    left
    refine down_of_stopping ?_ ?_ h
    · exact fun _ h => down_of_halted hk h
    · exact fun c' hc' => ⟨c', List.mem_of_mem_eraseIdx hc', rfl⟩

theorem down_of_next {event : Event} (hnext : s.next event = some s') (hstop : ∀ id, event ≠ .stop id)
    (hremove : ∀ id, event ≠ .remove id) (hcleanup : event ≠ .cleanup) {id : String}
    (h : s'.Down id) : s.Down id := by
  obtain hbefore | ⟨-, hcall | hcall | hcall⟩ := down_next hnext h
  · exact hbefore
  · exact absurd hcall (hstop id)
  · exact absurd hcall (hremove id)
  · exact absurd hcall hcleanup

end ProcessManager

/-! ### What a step does to the relays -/

/-- What becomes of the relays of a call: they stay closed, and none is open after a failure. -/
structure Forwarding.Fades (f f' : Forwarding) : Prop where
  id : f'.id = f.id
  closed : f.IsClosed → f'.IsClosed
  failed : (f.failed = true → ¬ f.HasOpen) → f'.failed = true → ¬ f'.HasOpen

namespace Forwarding

theorem fades_refl (f : Forwarding) : f.Fades f := ⟨rfl, fun h => h, fun h => h⟩

theorem isClosed_stop (f : Forwarding) : f.stop.IsClosed := fun _ => rfl

theorem fades_stop (f : Forwarding) : f.Fades f.stop where
  id := rfl
  closed _ := f.isClosed_stop
  failed _ _ := f.isClosed_stop.not_hasOpen

theorem fades_opened {f : Forwarding} {port : RelayPort} (hport : f.relay port = .opening)
    (hfailed : f.failed = false) : f.Fades (f.opened port) where
  id := rfl
  closed h := by
    rw [h port] at hport
    cases hport
  failed _ h := by
    have h : f.failed = true := h
    rw [hfailed] at h
    cases h

theorem fades_openFailed {f : Forwarding} {port : RelayPort} (hport : f.relay port = .opening)
    (hopen : ¬ f.HasOpen) : f.Fades (f.openFailed port) where
  id := rfl
  closed h := by
    rw [h port] at hport
    cases hport
  failed _ _ := by
    rintro ⟨other, hother⟩
    by_cases hsame : other = port
    · simp [openFailed, hsame] at hother
    · refine hopen ⟨other, ?_⟩
      simpa [openFailed, hsame] using hother

theorem fades_fail {f : Forwarding} (hopen : ¬ f.HasOpen) : f.Fades { f with failed := true } where
  id := rfl
  closed h := h
  failed _ _ := hopen

theorem fades_hand (f : Forwarding) : f.Fades { f with handed := true } :=
  ⟨rfl, fun h => h, fun h => h⟩

end Forwarding

namespace IosProvider

variable {R : Type} {p p' : IosProvider R} {isSimulator : String → Bool}

/-- No call of `spawn` comes in, and the relays of the others fade. -/
def Fades (p p' : IosProvider R) : Prop :=
  ∀ (i : Nat) (f' : Forwarding), p'.forwardings[i]? = some f' →
    ∃ f, p.forwardings[i]? = some f ∧ f.Fades f'

theorem fades_of_eq (h : p'.forwardings = p.forwardings) : Fades p p' :=
  fun _ f' hf' => ⟨f', h ▸ hf', f'.fades_refl⟩

theorem fades_of_modify {i : Nat} {g : Forwarding → Forwarding}
    (h : p'.forwardings = p.forwardings.modify i g)
    (hfades : ∀ f, p.forwardings[i]? = some f → f.Fades (g f)) : Fades p p' := by
  intro j f' hf'
  rw [h] at hf'
  obtain ⟨f, hf, ⟨rfl, rfl⟩ | ⟨-, rfl⟩⟩ := getElem?_modify_eq_some hf'
  · exact ⟨f, hf, hfades f hf⟩
  · exact ⟨f', hf, f'.fades_refl⟩

theorem getElem?_onCleanup (processes : List Nat) (i : Nat) :
    (p.onCleanup processes).forwardings[i]? = (p.forwardings[i]?).map fun f =>
      if i ∈ processes.filterMap p.context then f.stop else f := by
  simp [onCleanup]

theorem fades_onCleanup (processes : List Nat) : Fades p (p.onCleanup processes) := by
  intro i f' hf'
  rw [getElem?_onCleanup] at hf'
  obtain ⟨f, hf, rfl⟩ := Option.map_eq_some_iff.1 hf'
  refine ⟨f, hf, ?_⟩
  split
  · exact f.fades_stop
  · exact f.fades_refl

theorem free_onCleanup {id : String} (h : p.Stoppable id) {process : Nat}
    (hlookup : p.manager.processes.lookup id = some process) {processes : List Nat}
    (hmem : process ∈ processes) : (p.onCleanup processes).Free id := by
  intro f' hf' hid
  obtain ⟨i, hi⟩ := List.mem_iff_getElem?.1 hf'
  rw [getElem?_onCleanup] at hi
  obtain ⟨f, hf, rfl⟩ := Option.map_eq_some_iff.1 hi
  split
  · exact f.isClosed_stop
  · rename_i hnot
    by_contra hclosed
    rw [if_neg hnot] at hid
    refine hnot (List.mem_filterMap.2 ⟨process, hmem, ?_⟩)
    exact h process hlookup i (List.mem_range.2 (List.getElem?_eq_some_iff.1 hf).1) f hf hid hclosed

/-! ### The invariant -/

/-- The relays of all calls of `spawn` but the last one of a device are closed, and so are the last
ones where the device is stopped; a call that failed has no relay open. -/
structure Kept (p : IosProvider R) : Prop where
  past : ∀ (i j : Nat) (f g : Forwarding), i < j → p.forwardings[i]? = some f →
    p.forwardings[j]? = some g → f.id = g.id → f.IsClosed
  down : ∀ f ∈ p.forwardings, p.manager.Down f.id → f.IsClosed
  failed : ∀ f ∈ p.forwardings, f.failed = true → ¬ f.HasOpen

theorem kept_new (pool : List R) : (new pool).Kept where
  past := nofun
  down := nofun
  failed := nofun

theorem Kept.noLeak (h : p.Kept) : p.NoLeak where
  onePair i j f g hf hg hid hfopen hgopen := by
    rcases Nat.lt_trichotomy i j with hlt | heq | hgt
    · exact absurd hfopen (h.past i j f g hlt hf hg hid).not_hasOpen
    · exact heq
    · exact absurd hgopen (h.past j i g f hgt hg hf hid.symm).not_hasOpen
  afterStop := h.past
  halted f hf hhalted := (h.down f hf (.inl hhalted)).not_hasOpen
  failed i j f g hle hf hg hid hfailed := by
    obtain hlt | rfl := Nat.lt_or_eq_of_le hle
    · exact (h.past i j f g hlt hf hg hid).not_hasOpen
    · obtain rfl := Option.some.inj (hf.symm.trans hg)
      exact h.failed f (List.mem_of_getElem? hf) hfailed

theorem Kept.of_fades (h : p.Kept) (hfades : Fades p p')
    (hdown : ∀ id, p'.manager.Down id → p.manager.Down id ∨ p'.Free id) : p'.Kept where
  past i j f' g' hlt hf' hg' hid := by
    obtain ⟨f, hf, hff'⟩ := hfades i f' hf'
    obtain ⟨g, hg, hgg'⟩ := hfades j g' hg'
    exact hff'.closed (h.past i j f g hlt hf hg (by rw [← hff'.id, ← hgg'.id, hid]))
  down f' hf' hdown' := by
    obtain hbefore | hfree := hdown f'.id hdown'
    · obtain ⟨i, hi⟩ := List.mem_iff_getElem?.1 hf'
      obtain ⟨f, hf, hff'⟩ := hfades i f' hi
      exact hff'.closed (h.down f (List.mem_of_getElem? hf) (hff'.id ▸ hbefore))
    · exact hfree f' hf' rfl
  failed f' hf' := by
    obtain ⟨i, hi⟩ := List.mem_iff_getElem?.1 hf'
    obtain ⟨f, hf, hff'⟩ := hfades i f' hi
    exact hff'.failed (h.failed f (List.mem_of_getElem? hf))

/-- `spawn` opens its relays when the device has no others, and is not stopped. -/
theorem Kept.spawn (h : p.Kept) {id : String} {manager : ProcessManager R} (hfree : p.Free id)
    (hdown : ¬ manager.Down id) (hothers : ∀ id, manager.Down id → p.manager.Down id) :
    ({ p.spawn isSimulator id with manager }).Kept := by
  unfold IosProvider.spawn
  split
  · exact h.of_fades (fades_of_eq rfl) fun id hid => .inl (hothers id hid)
  · rename_i process hlookup
    constructor
    case past =>
      intro i j f g hlt hf hg hid
      obtain hg | ⟨rfl, rfl⟩ := getElem?_concat_eq_some.1 hg
      · have hi : i < p.forwardings.length := hlt.trans (List.getElem?_eq_some_iff.1 hg).1
        have hf : p.forwardings[i]? = some f := by rwa [List.getElem?_append_left hi] at hf
        exact h.past i j f g hlt hf hg hid
      · have hf : p.forwardings[i]? = some f := by rwa [List.getElem?_append_left hlt] at hf
        exact hfree f (List.mem_of_getElem? hf) hid
    case down =>
      intro f hf hfdown
      obtain hf | hf := List.mem_append.1 hf
      · exact h.down f hf (hothers f.id hfdown)
      · obtain rfl := List.mem_singleton.1 hf
        exact absurd hfdown hdown
    case failed =>
      intro f hf hfailed
      obtain hf | hf := List.mem_append.1 hf
      · exact h.failed f hf hfailed
      · obtain rfl := List.mem_singleton.1 hf
        cases hfailed

/-- A start resets what was stopped, unless a stop is under way. -/
theorem not_down_callStart {id : String} {force : Bool}
    (hspawn : p.manager.willSpawn id force = true) (hunstopped : p.Unstopped id) :
    ¬ (p.manager.callStart id force).Down id := by
  rintro (hhalted | ⟨c, hc, hid⟩)
  · simp [ProcessManager.callStart, hspawn] at hhalted
  · refine hunstopped c ?_ hid
    simpa [ProcessManager.callStart] using hc

theorem not_down_delayOver {id : String} {k : Nat} {r : Restart}
    (hunstopped : p.Unstopped id) (hhalted : p.manager.halted id = false) :
    ¬ (p.manager.delayOver k r).Down id := by
  rintro (h | ⟨c, hc, hid⟩)
  · simp [ProcessManager.delayOver, hhalted] at h
  · refine hunstopped c ?_ hid
    simpa [ProcessManager.delayOver] using hc

theorem Kept.callStop (h : p.Kept) {id : String} (hstoppable : p.Stoppable id)
    {manager : ProcessManager R} (hdown : ∀ id', manager.Down id' →
      p.manager.Down id' ∨ (p.manager.has id' = true ∧ id = id')) :
    ({ p.onCleanup (p.manager.processes.lookup id).toList with manager }).Kept := by
  refine h.of_fades (fades_onCleanup _) fun id' hid' => ?_
  obtain hbefore | ⟨hhas, rfl⟩ := hdown id' hid'
  · exact .inl hbefore
  · obtain ⟨process, hlookup⟩ := Option.isSome_iff_exists.1 hhas
    exact .inr (free_onCleanup hstoppable hlookup (by simp [hlookup]))

/-- All devices are stopped, and cleaned up. -/
theorem Kept.cleanup (h : p.Kept) (hstoppable : ∀ f ∈ p.forwardings, p.Stoppable f.id) :
    ({ p.onCleanup (p.manager.processes.entries.map Sigma.snd) with
      manager := p.manager.cleanup }).Kept := by
  refine h.of_fades (fades_onCleanup _) fun id hid => ?_
  obtain hbefore | hhas := ProcessManager.down_cleanup hid
  · exact .inl hbefore
  · obtain ⟨process, hlookup⟩ := Option.isSome_iff_exists.1 hhas
    have hmem : process ∈ p.manager.processes.entries.map Sigma.snd :=
      List.mem_map.2 ⟨⟨id, process⟩, AList.mem_lookup_iff.1 hlookup, rfl⟩
    by_cases hexists : ∃ f ∈ p.forwardings, f.id = id
    · obtain ⟨f, hf, rfl⟩ := hexists
      exact .inr (free_onCleanup (hstoppable f hf) hlookup hmem)
    · right
      intro f' hf' hid'
      obtain ⟨i, hi⟩ := List.mem_iff_getElem?.1 hf'
      obtain ⟨f, hf, hfades⟩ := fades_onCleanup _ i f' hi
      exact absurd ⟨f, List.mem_of_getElem? hf, hfades.id ▸ hid'⟩ hexists

/-- The manager goes on, and its callbacks keep the relays of earlier calls closed. -/
theorem Kept.manager (h : p.Kept) {event : ProcessManager.Event}
    (horderly : p.Orderly (.manager event)) {manager : ProcessManager R}
    (hnext : p.manager.next event = some manager) :
    ({ p.callbacks isSimulator event with manager }).Kept := by
  cases event with
  | start id force =>
    obtain rfl := Option.some.inj hnext
    have hothers (id' : String) : (p.manager.callStart id force).Down id' → p.manager.Down id' :=
      ProcessManager.down_callStart
    simp only [callbacks]
    split
    · rename_i hspawn
      obtain ⟨hfree, hunstopped⟩ := horderly hspawn
      exact h.spawn hfree (not_down_callStart hspawn hunstopped) hothers
    · exact h.of_fades (fades_of_eq rfl) fun id' hid => .inl (hothers id' hid)
  | delayOver k =>
    have hothers (id : String) : manager.Down id → p.manager.Down id :=
      ProcessManager.down_of_next hnext nofun nofun nofun
    obtain ⟨r, hr, rfl⟩ := Option.map_eq_some_iff.1 hnext
    obtain ⟨hk, -⟩ := Option.filter_eq_some_iff.1 hr
    simp only [callbacks, hk]
    split
    · rename_i hspawn
      obtain ⟨hfree, hunstopped, hhalted⟩ := horderly r hk hspawn
      exact h.spawn hfree (not_down_delayOver hunstopped hhalted) hothers
    · exact h.of_fades (fades_of_eq rfl) fun id hid => .inl (hothers id hid)
  | stop id =>
    obtain rfl := Option.some.inj hnext
    exact h.callStop horderly fun _ => ProcessManager.down_callStop
  | remove id =>
    obtain rfl := Option.some.inj hnext
    exact h.callStop horderly fun _ => ProcessManager.down_callStop
  | cleanup =>
    obtain rfl := Option.some.inj hnext
    exact h.cleanup horderly
  | spawnFailed k =>
    have hothers (id : String) : manager.Down id → p.manager.Down id :=
      ProcessManager.down_of_next hnext nofun nofun nofun
    simp only [callbacks]
    split
    · exact h.of_fades (fades_of_eq rfl) fun id hid => .inl (hothers id hid)
    · rename_i i hi
      refine h.of_fades (fades_of_modify rfl fun f hf => ?_) fun id hid => .inl (hothers id hid)
      exact Forwarding.fades_fail (horderly i hi f hf)
  | spawned _ | create _ _ _ | setState _ _ | ready _ | exit _ _ | error _ | errorHandled _
  | errorUnhandled _ | cleanedUp _ | cleanupFailed _ | removed _ =>
    exact h.of_fades (fades_of_eq rfl) fun id hid =>
      .inl (ProcessManager.down_of_next hnext nofun nofun nofun hid)

/-- A step that meets the condition keeps the relays of earlier calls closed. -/
theorem Kept.step (h : p.Kept) {event : IosProviderEvent} (horderly : p.Orderly event)
    (hnext : p.next isSimulator event = some p') : p'.Kept := by
  cases event with
  | manager event =>
    obtain ⟨-, hnext⟩ := Option.ite_none_right_eq_some.1 hnext
    obtain ⟨manager, hmanager, rfl⟩ := Option.map_eq_some_iff.1 hnext
    exact h.manager horderly hmanager
  | opened i port =>
    obtain ⟨f, hf, rfl⟩ := Option.map_eq_some_iff.1 hnext
    obtain ⟨hi, hport⟩ := Option.filter_eq_some_iff.1 hf
    refine h.of_fades (fades_of_modify rfl fun f' hf' => ?_) fun id hid => .inl hid
    obtain rfl := Option.some.inj (hi.symm.trans hf')
    exact Forwarding.fades_opened (by simpa using hport) (horderly f hi)
  | openFailed i port =>
    obtain ⟨f, hf, rfl⟩ := Option.map_eq_some_iff.1 hnext
    obtain ⟨hi, hport⟩ := Option.filter_eq_some_iff.1 hf
    refine h.of_fades (fades_of_modify rfl fun f' hf' => ?_) fun id hid => .inl hid
    obtain rfl := Option.some.inj (hi.symm.trans hf')
    exact Forwarding.fades_openFailed (by simpa using hport) (horderly f hi)
  | handed k =>
    obtain ⟨i, hi, hnext⟩ := Option.bind_eq_some_iff.1 hnext
    obtain ⟨f, hf, rfl⟩ := Option.map_eq_some_iff.1 hnext
    exact h.of_fades (fades_of_modify rfl fun f' _ => f'.fades_hand) fun id hid => .inl hid

/-- No relay leaks in a run whose steps all meet the condition. -/
theorem noLeak_of_run {pool : List R} {events : List IosProviderEvent}
    (hrun : ((system isSimulator R).restrict Orderly).Run (new pool) events p) : p.NoLeak := by
  have hkept : p.Kept :=
    hrun.invariant_of_restrict (kept_new pool) fun _ _ _ h horderly hstep => h.step horderly hstep
  exact hkept.noLeak

/-- A physical device is started, stopped and started again. -/
theorem noLeak_of_run_restarted :
    ∃ p : IosProvider Nat,
      p.forwardings.map (fun f => f.relay .wda) = [.closed, .open] ∧ p.NoLeak := by
  obtain ⟨p, hrun, hp⟩ := Lts.exists_run_of_play (f := next fun _ => false) (G := Orderly)
    (new [8100])
    [.manager (.create "d" .waiting 1), .manager (.start "d" false), .opened 0 .screen,
      .opened 0 .wda, .handed 0, .manager (.spawned 0), .manager (.ready 0), .manager (.stop "d"),
      .manager (.cleanedUp 0), .manager (.start "d" true), .opened 1 .wda, .opened 1 .screen]
    (fun p => decide (p.forwardings.map (fun f => f.relay .wda) = [.closed, .open]))
    (by decide +kernel)
  exact ⟨p, of_decide_eq_true hp, noLeak_of_run hrun⟩

/-- **A restart fails and leaves relays open**: the relays of a worker that has crashed are not
stopped, and keep their ports. -/
theorem not_noLeak_of_crash :
    ¬ ∀ (isSimulator : String → Bool) (pool : List Nat) (events : List IosProviderEvent)
        (p : IosProvider Nat), (system isSimulator Nat).Run (new pool) events p → p.NoLeak := by
  intro h
  obtain ⟨p, hrun, hp⟩ := Lts.exists_run_of_play (f := next fun _ => false) (G := fun _ _ => True)
    (new [8100])
    [.manager (.create "d" .waiting 1), .manager (.start "d" false), .opened 0 .wda,
      .opened 0 .screen, .handed 0, .manager (.spawned 0), .manager (.ready 0),
      .manager (.exit 0 .crash), .manager (.errorHandled 0), .manager (.delayOver 0),
      .openFailed 1 .wda, .openFailed 1 .screen, .manager (.spawnFailed 0)]
    (fun p => decide (p.forwardings.map (fun f => (f.id, f.relay .wda, f.failed))
      = [("d", .open, false), ("d", .closed, true)]))
    (by decide +kernel)
  obtain ⟨f, rest, hforwardings, hf, hrest⟩ := List.map_eq_cons_iff.1 (of_decide_eq_true hp)
  obtain ⟨g, rest, rfl, hg, -⟩ := List.map_eq_cons_iff.1 hrest
  simp only [Prod.mk.injEq] at hf hg
  exact (h _ _ _ p hrun.of_restrict).failed 0 1 f g (Nat.zero_le 1) (by rw [hforwardings]; rfl)
    (by rw [hforwardings]; rfl) (hf.1.trans hg.1.symm) hg.2.2 ⟨.wda, hf.2.1⟩

end IosProvider

end DeviceHub

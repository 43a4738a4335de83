import DeviceHub.Async.Order
import DeviceHub.Util.ProcessManager
import Mathlib.Logic.Function.Basic

/-!
# The listeners of `units/provider/index.ts`

What the provider makes of the events of its observer.  A listener goes on later when it has waited
for the process manager, and so do the calls of `startDeviceWork`, which wait for the registration of
their device and for their child.

## Main definitions

* `ADBDevice`, `ADBEvent` : the records of the observer, and the events about them.
* `DeviceWork`, `DeviceProcess` : a call of `startDeviceWork` with its child, and a managed process.
* `Provider`, `Provider.listen`, `Provider.healthcheck` : the provider and its listeners.
* `Provider.resume`, `Provider.go` : what happens after the awaits.
* `Provider.Worked` : the device has a worker, or will have one.
* `Provider.Kept` : the device has a process that nothing is about to stop.

## Main results

* `Provider.worked_go` : the work of a device ends only when another one has its child running.
* `Provider.Same` : what an event about another device leaves alone.
-/

namespace DeviceHub

/-- A record; its type is what the server says. -/
structure ADBDevice where
  serial : String
  type : String
  isStuck : Bool
  deriving DecidableEq

/-- The events, with the record as it is when they are emitted. -/
inductive ADBEvent where
  | connect (device : ADBDevice)
  | update (device : ADBDevice) (oldType : String)
  | disconnect (device : ADBDevice)
  | stuck (device : ADBDevice)
  deriving DecidableEq

/-- The device of an event. -/
def ADBEvent.serial : ADBEvent → String
  | .connect device | .update device _ | .disconnect device | .stuck device => device.serial

/-- A device that can be worked with. -/
def isOnline (type : String) : Bool := type = "device" || type = "emulator"

/-- A call of `startDeviceWork` waits for the registration, or for its child; its child was spawned,
or has said that it is ready; or there is nothing left of it. -/
inductive WorkStage where
  | registering
  | spawning
  | spawned
  | running
  | over
  deriving DecidableEq

/-- A call of `startDeviceWork`.  It starts again when the registration or the start has failed. -/
structure DeviceWork where
  serial : String
  stage : WorkStage
  deriving DecidableEq

/-- The terminate handler kills the child of the work with this number. -/
structure DeviceProcess where
  state : ProcessState
  terminateHandler : Option ℕ
  deriving DecidableEq

/-- Where a listener waits for the process manager. -/
inductive Suspended where
  /-- The `connect` listener, after `create`, with the number of the record. -/
  | created (serial : String) (k : ℕ)
  /-- The `update` listener, in its call of `stop`. -/
  | stopping (serial : String)
  /-- A removal, in its call of `stop`. -/
  | removing (serial : String)
  deriving DecidableEq

/-- It stops the worker of the device when it goes on. -/
def Suspended.stops (serial : String) : Suspended → Bool
  | .created _ _ => false
  | .stopping serial' | .removing serial' => serial' = serial

/-- The type of the record that a `created` listener looks at; `types` are those of all records. -/
def Suspended.type (types : ℕ → Option String) : Suspended → Option String
  | .created _ k => types k
  | _ => none

/-- The processes, for how many further devices there are ports, all calls of `startDeviceWork`, and
the listeners that wait. -/
structure Provider where
  processes : String → Option DeviceProcess
  slots : ℕ
  works : List DeviceWork
  suspended : List Suspended

namespace Provider

/-- A provider with ports for so many devices. -/
def new (slots : ℕ) : Provider := ⟨fun _ => none, slots, [], []⟩

/-! ### The listeners -/

section Listeners

variable (p : Provider)

/-- There is a process of the device. -/
def has (serial : String) : Bool := (p.processes serial).isSome

/-- The state of the process of the device. -/
def state (serial : String) : Option ProcessState := (p.processes serial).map DeviceProcess.state

/-- A listener waits. -/
def suspend (c : Suspended) : Provider := { p with suspended := p.suspended ++ [c] }

/-- Up to the first await. -/
def startDeviceWork (serial : String) : Provider :=
  if p.has serial then { p with works := p.works ++ [⟨serial, .registering⟩] } else p

/-- `removeDevice`, up to the await in `stop`. -/
def removeDevice (serial : String) : Provider :=
  if p.has serial then p.suspend (.removing serial) else p

/-- The listener of `connect`; `k` is the number of the record. -/
def onConnect (k : ℕ) (device : ADBDevice) : Provider :=
  if p.has device.serial then p
  else if p.slots = 0 then p
  else
    { p with
      processes := Function.update p.processes device.serial (some ⟨.waiting, none⟩)
      slots := p.slots - 1 }.suspend (.created device.serial k)

/-- The listener of `update`. -/
def onUpdate (device : ADBDevice) : Provider :=
  if !isOnline device.type then
    if (p.state device.serial).any (· ≠ .waiting) then p.suspend (.stopping device.serial) else p
  else if device.type = "device" ∧ p.state device.serial ≠ some .running then
    p.startDeviceWork device.serial
  else p

/-- The listeners; `wanted` is what `filterDevice` lets pass. -/
def listen (wanted : String → Bool) (k : ℕ) : ADBEvent → Provider
  | .connect device => if wanted device.serial then p.onConnect k device else p
  | .update device _ => if wanted device.serial then p.onUpdate device else p
  | .disconnect device =>
    if wanted device.serial ∧ !device.isStuck then p.removeDevice device.serial else p
  | .stuck device => p.removeDevice device.serial

/-- The listener of `healthcheck`: the workers that are stuck in `starting` are removed, if the
observer has their devices.  None is started again. -/
def healthcheck (serials : List String) : Provider := serials.foldl removeDevice p

/-! ### After the awaits -/

/-- `process.terminateHandler?.()` -/
def terminate (serial : String) : Provider :=
  { p with
    works := ((p.processes serial).bind DeviceProcess.terminateHandler).elim p.works fun i =>
      p.works.modify i fun w => { w with stage := .over } }

/-- Another state of the process of the device, if it has one. -/
def setState (serial : String) (state : ProcessState) : Provider :=
  { p with
    processes := Function.update p.processes serial
      ((p.processes serial).map fun process => { process with state }) }

/-- A listener goes on; `type` is what the type of the record of a `created` listener is now. -/
def goOn (type : Option String) : Suspended → Provider
  | .created serial _ => if type = some "device" then p.startDeviceWork serial else p
  | .stopping serial => (p.terminate serial).setState serial .waiting
  | .removing serial =>
    let p := p.terminate serial
    { p with processes := Function.update p.processes serial none, slots := p.slots + 1 }

/-- The listener number `i` goes on; `types` are the types of the records. -/
def resume (types : ℕ → Option String) (i : ℕ) : Option Provider :=
  p.suspended[i]?.map fun c =>
    { p with suspended := p.suspended.eraseIdx i }.goOn (c.type types) c

/-- The stage of the work number `i`. -/
def setStage (i : ℕ) (stage : WorkStage) : Provider :=
  { p with works := p.works.modify i fun w => { w with stage } }

/-- What becomes of the calls of `startDeviceWork`. -/
inductive Progress where
  /-- The device was registered: `processManager.start`, up to the call of `spawn`. -/
  | registered (i : ℕ)
  /-- The child was spawned. -/
  | spawned (i : ℕ)
  /-- The child says that it is ready. -/
  | ready (i : ℕ)

/-- A call of `startDeviceWork` goes on.  It finds nothing to do when the process is gone, or
running. -/
def go : Progress → Option Provider
  | .registered i => (p.works[i]?.filter (·.stage = .registering)).map fun w =>
    if p.has w.serial ∧ p.state w.serial ≠ some .running then
      (p.setStage i .spawning).setState w.serial .starting
    else p.setStage i .over
  | .spawned i => (p.works[i]?.filter (·.stage = .spawning)).map fun w =>
    { p.setStage i .spawned with
      processes := Function.update p.processes w.serial
        ((p.processes w.serial).map fun process => { process with terminateHandler := some i }) }
  | .ready i => (p.works[i]?.filter (·.stage = .spawned)).map fun w =>
    (p.setStage i .running).setState w.serial .running

end Listeners

/-- The device has a worker, or will have one. -/
def Worked (p : Provider) (serial : String) : Prop :=
  ∃ w ∈ p.works, w.serial = serial ∧ w.stage ≠ .over

/-- The device has a process, and no listener is about to stop its worker. -/
def Kept (p : Provider) (serial : String) : Prop :=
  p.has serial = true ∧ ∀ c ∈ p.suspended, c.stops serial = false

instance (p : Provider) (serial : String) : Decidable (p.Worked serial) :=
  inferInstanceAs (Decidable (∃ w ∈ p.works, _))

instance (p : Provider) (serial : String) : Decidable (p.Kept serial) :=
  inferInstanceAs (Decidable (_ ∧ _))

/-- The terminate handler of a process kills a child of its device, and a process that is running has
a child that is. -/
structure Sane (p : Provider) : Prop where
  handler : ∀ serial, ∀ process ∈ p.processes serial, ∀ i ∈ process.terminateHandler,
    ∃ w ∈ p.works[i]?, w.serial = serial
  running : ∀ serial, p.state serial = some .running →
    ∃ w ∈ p.works, w.serial = serial ∧ w.stage = .running

variable {p p' : Provider} {serial : String}

theorem sane_new (slots : ℕ) : (new slots).Sane where
  handler _ _ h := by cases h
  running _ h := by cases h

/-! ### What concerns one device only -/

/-- Nothing that keeps the device at work is gone: its process, the works that are not over, and the
listeners that wait; and nothing more is about to stop it. -/
structure Same (serial : String) (p p' : Provider) : Prop where
  processes : p'.processes serial = p.processes serial
  works : ∀ w ∈ p.works, w.serial = serial → w ∈ p'.works
  suspended : ∀ c ∈ p.suspended, c ∈ p'.suspended
  stops : ∀ c ∈ p'.suspended, c.stops serial = true → c ∈ p.suspended

theorem Same.refl (serial : String) (p : Provider) : Same serial p p :=
  ⟨rfl, fun _ h _ => h, fun _ h => h, fun _ h _ => h⟩

theorem Same.trans {q : Provider} (h : Same serial p q) (h' : Same serial q p') :
    Same serial p p' where
  processes := h'.processes.trans h.processes
  works w hw hserial := h'.works w (h.works w hw hserial) hserial
  suspended c hc := h'.suspended c (h.suspended c hc)
  stops c hc hstops := h.stops c (h'.stops c hc hstops) hstops

theorem Same.worked (h : Same serial p p') (hworked : p.Worked serial) : p'.Worked serial := by
  obtain ⟨w, hw, hserial, hstage⟩ := hworked
  exact ⟨w, h.works w hw hserial, hserial, hstage⟩

theorem Same.kept (h : Same serial p p') (hkept : p.Kept serial) : p'.Kept serial := by
  refine ⟨?_, fun c hc => ?_⟩
  · have hhas := hkept.1
    simpa only [has, h.processes] using hhas
  · by_contra hstops
    rw [Bool.not_eq_false] at hstops
    have hnot := hkept.2 c (h.stops c hc hstops)
    rw [hstops] at hnot
    cases hnot

theorem same_suspend {c : Suspended} (hstops : c.stops serial = false) :
    Same serial p (p.suspend c) := by
  refine ⟨rfl, fun _ h _ => h, fun _ h => List.mem_append_left _ h, fun c' hc' hstops' => ?_⟩
  rcases List.mem_append.1 hc' with hc' | hc'
  · exact hc'
  · obtain rfl := List.mem_singleton.1 hc'
    rw [hstops] at hstops'
    cases hstops'

theorem same_removeDevice {serial' : String} (hne : serial ≠ serial') :
    Same serial p (p.removeDevice serial') := by
  simp only [removeDevice]
  split
  · exact same_suspend (decide_eq_false hne.symm)
  · exact .refl _ _

/-- A call of `startDeviceWork` takes nothing from any device. -/
theorem same_startDeviceWork (serial' : String) : Same serial p (p.startDeviceWork serial') := by
  simp only [startDeviceWork]
  split
  · exact ⟨rfl, fun _ h _ => List.mem_append_left _ h, fun _ h => h, fun _ h _ => h⟩
  · exact .refl _ _

/-- An event about another device. -/
theorem same_listen {wanted : String → Bool} {k : ℕ} {event : ADBEvent}
    (hne : serial ≠ event.serial) : Same serial p (p.listen wanted k event) := by
  cases event with
  | connect device =>
    simp only [listen, onConnect]
    split_ifs
    · exact .refl _ _
    · exact .refl _ _
    · refine .trans ?_ (same_suspend rfl)
      exact ⟨Function.update_of_ne hne _ _, fun _ h _ => h, fun _ h => h, fun _ h _ => h⟩
    · exact .refl _ _
  | update device oldType =>
    simp only [listen, onUpdate]
    split_ifs
    · exact same_suspend (decide_eq_false (Ne.symm hne))
    · exact .refl _ _
    · exact same_startDeviceWork _
    · exact .refl _ _
    · exact .refl _ _
  | disconnect device =>
    simp only [listen]
    split_ifs
    · exact same_removeDevice hne
    · exact .refl _ _
  | stuck device => exact same_removeDevice hne

theorem same_healthcheck {serials : List String} (hnot : serial ∉ serials) :
    Same serial p (p.healthcheck serials) := by
  induction serials generalizing p with
  | nil => exact .refl _ _
  | cons serial' serials ih =>
    rw [List.mem_cons, not_or] at hnot
    exact (same_removeDevice hnot.1).trans (ih hnot.2)

/-! ### A device that comes online -/

theorem worked_startDeviceWork (hkept : p.Kept serial) :
    (p.startDeviceWork serial).Worked serial := by
  simp only [startDeviceWork, hkept.1, if_true]
  exact ⟨_, List.mem_append_right _ (List.mem_singleton_self _), rfl, nofun⟩

theorem listen_connect_of_has {wanted : String → Bool} {k : ℕ} {device : ADBDevice}
    (hhas : p.has device.serial = true) : p.listen wanted k (.connect device) = p := by
  simp only [listen, onConnect, hhas, if_true, ite_self]

theorem kept_connect {wanted : String → Bool} (k : ℕ) (device : ADBDevice)
    (hwanted : wanted device.serial = true) (hhas : p.has device.serial = false)
    (hslots : p.slots ≠ 0) (hstops : ∀ c ∈ p.suspended, c.stops device.serial = false) :
    (p.listen wanted k (.connect device)).Kept device.serial ∧
      .created device.serial k ∈ (p.listen wanted k (.connect device)).suspended := by
  simp only [listen, onConnect, hwanted, hhas, hslots, if_true, if_false, Bool.false_eq_true]
  refine ⟨⟨?_, fun c hc => ?_⟩, List.mem_append_right _ (List.mem_singleton_self _)⟩
  · simp [has, suspend]
  · rcases List.mem_append.1 hc with hc | hc
    · exact hstops c hc
    · obtain rfl := List.mem_singleton.1 hc
      rfl

theorem kept_update {wanted : String → Bool} (k : ℕ) (device : ADBDevice) (oldType : String)
    (hwanted : wanted device.serial = true) (honline : isOnline device.type = true)
    (hkept : p.Kept device.serial)
    (hserved : p.Worked device.serial ∨
      device.type = "device" ∧ p.state device.serial ≠ some .running) :
    (p.listen wanted k (.update device oldType)).Kept device.serial ∧
      (p.listen wanted k (.update device oldType)).Worked device.serial := by
  simp only [listen, onUpdate, hwanted, honline, if_true, Bool.not_true, Bool.false_eq_true, if_false]
  split
  · exact ⟨(same_startDeviceWork _).kept hkept, worked_startDeviceWork hkept⟩
  · rename_i hnot
    exact ⟨hkept, hserved.resolve_right hnot⟩

/-! ### After the awaits -/

theorem same_terminate (hsane : p.Sane) {serial' : String} (hne : serial ≠ serial') :
    Same serial p (p.terminate serial') := by
  refine ⟨rfl, fun w hw hserial => ?_, fun _ h => h, fun _ h _ => h⟩
  simp only [terminate]
  cases hhandler : (p.processes serial').bind DeviceProcess.terminateHandler with
  | none => exact hw
  | some i =>
    obtain ⟨process, hprocess, hi⟩ := Option.bind_eq_some_iff.1 hhandler
    obtain ⟨w', hw', hserial'⟩ := hsane.handler serial' process hprocess i hi
    refine mem_modify_of_ne hw' hw ?_ _
    rintro rfl
    exact hne (hserial.symm.trans hserial')

theorem same_setState {serial' : String} (hne : serial ≠ serial') (state : ProcessState) :
    Same serial p (p.setState serial' state) :=
  ⟨Function.update_of_ne hne _ _, fun _ h _ => h, fun _ h => h, fun _ h _ => h⟩

/-- **A listener that goes on** keeps the devices at work that it does not stop. -/
theorem same_goOn (hsane : p.Sane) {c : Suspended} (hstops : c.stops serial = false)
    (type : Option String) : Same serial p (p.goOn type c) := by
  cases c with
  | created serial' k =>
    simp only [goOn]
    split
    · exact same_startDeviceWork serial'
    · exact .refl _ _
  | stopping serial' =>
    have hne : serial ≠ serial' := fun heq => (of_decide_eq_false hstops) heq.symm
    exact (same_terminate hsane hne).trans (same_setState hne _)
  | removing serial' =>
    have hne : serial ≠ serial' := fun heq => (of_decide_eq_false hstops) heq.symm
    exact (same_terminate hsane hne).trans
      ⟨Function.update_of_ne hne _ _, fun _ h _ => h, fun _ h => h, fun _ h _ => h⟩

/-- No process is taken away, and nothing is about to stop more, when a call of `startDeviceWork` goes
on. -/
theorem kept_go {e : Progress} (serial : String) (hgo : p.go e = some p') :
    p'.suspended = p.suspended ∧ (p.Kept serial → p'.Kept serial) := by
  have hhas : ∀ {serial' : String} {f : DeviceProcess → DeviceProcess}, p.Kept serial →
      (Function.update p.processes serial' ((p.processes serial').map f) serial).isSome = true := by
    intro serial' f hkept
    have hsome := hkept.1
    by_cases heq : serial = serial'
    · subst heq
      rw [Function.update_self, Option.isSome_map]
      exact hsome
    · rw [Function.update_of_ne heq]
      exact hsome
  cases e with
  | registered i =>
    obtain ⟨w, -, rfl⟩ := Option.map_eq_some_iff.1 hgo
    split
    · exact ⟨rfl, fun hkept => ⟨hhas hkept, hkept.2⟩⟩
    · exact ⟨rfl, fun hkept => ⟨hkept.1, hkept.2⟩⟩
  | spawned i =>
    obtain ⟨w, -, rfl⟩ := Option.map_eq_some_iff.1 hgo
    exact ⟨rfl, fun hkept => ⟨hhas hkept, hkept.2⟩⟩
  | ready i =>
    obtain ⟨w, -, rfl⟩ := Option.map_eq_some_iff.1 hgo
    exact ⟨rfl, fun hkept => ⟨hhas hkept, hkept.2⟩⟩

/-- **A call of `startDeviceWork` that goes on** keeps its device at work: when it finds the process
running then another child is. -/
theorem worked_go (hsane : p.Sane) {e : Progress} (hgo : p.go e = some p') (hkept : p.Kept serial)
    (hworked : p.Worked serial) : p'.Worked serial := by
  obtain ⟨w', hw', hserial', hstage'⟩ := hworked
  have hkeeps : ∀ {i : ℕ} {w : DeviceWork}, p.works[i]? = some w → ∀ {stage : WorkStage},
      stage ≠ .over → ∃ w ∈ p.works.modify i (fun w => { w with stage }),
        w.serial = serial ∧ w.stage ≠ .over := by
    intro i w hw stage hstage
    by_cases heq : w' = w
    · subst heq
      exact ⟨_, List.mem_of_getElem? (getElem?_modify_self hw _), hserial', hstage⟩
    · exact ⟨w', mem_modify_of_ne hw hw' heq _, hserial', hstage'⟩
  cases e with
  | registered i =>
    obtain ⟨w, hw, rfl⟩ := Option.map_eq_some_iff.1 hgo
    obtain ⟨hw, hstage⟩ := Option.filter_eq_some_iff.1 hw
    split
    · exact hkeeps hw (by decide)
    · rename_i hnot
      by_cases hserial : w.serial = serial
      · subst hserial
        have hrunning : p.state w.serial = some .running := by
          by_contra hne
          exact hnot ⟨hkept.1, hne⟩
        obtain ⟨other, hother, hsame, hruns⟩ := hsane.running _ hrunning
        refine ⟨other, mem_modify_of_ne hw hother ?_ _, hsame, by rw [hruns]; decide⟩
        rintro rfl
        rw [of_decide_eq_true hstage] at hruns
        cases hruns
      · refine ⟨w', mem_modify_of_ne hw hw' ?_ _, hserial', hstage'⟩
        rintro rfl
        exact hserial hserial'
  | spawned i =>
    obtain ⟨w, hw, rfl⟩ := Option.map_eq_some_iff.1 hgo
    exact hkeeps (Option.filter_eq_some_iff.1 hw).1 (by decide)
  | ready i =>
    obtain ⟨w, hw, rfl⟩ := Option.map_eq_some_iff.1 hgo
    exact hkeeps (Option.filter_eq_some_iff.1 hw).1 (by decide)

/-! ### The processes and their children -/

theorem Sane.suspend (h : p.Sane) (c : Suspended) : (p.suspend c).Sane := ⟨h.handler, h.running⟩

theorem Sane.removeDevice (h : p.Sane) (serial : String) : (p.removeDevice serial).Sane := by
  simp only [Provider.removeDevice]
  split
  · exact h.suspend _
  · exact h

theorem Sane.startDeviceWork (h : p.Sane) (serial : String) : (p.startDeviceWork serial).Sane := by
  simp only [Provider.startDeviceWork]
  split
  · refine ⟨fun serial process hprocess i hi => ?_, fun serial hstate => ?_⟩
    · obtain ⟨w, hw, hserial⟩ := h.handler serial process hprocess i hi
      exact ⟨w, getElem?_of_prefix (List.prefix_append _ _) hw, hserial⟩
    · obtain ⟨w, hw, hruns⟩ := h.running serial hstate
      exact ⟨w, List.mem_append_left _ hw, hruns⟩
  · exact h

/-- The process of a device is replaced by one that is not running, or taken away. -/
theorem Sane.update (h : p.Sane) (serial : String) (process : Option DeviceProcess) (slots : ℕ)
    (hprocess : ∀ q ∈ process, q.terminateHandler = none ∧ q.state ≠ .running) :
    Sane { p with processes := Function.update p.processes serial process, slots := slots } := by
  refine ⟨fun serial' q hq i hi => ?_, fun serial' hstate => ?_⟩
  · by_cases heq : serial' = serial
    · subst heq
      simp only [Function.update_self] at hq
      rw [(hprocess q hq).1] at hi
      cases hi
    · simp only [Function.update_of_ne heq] at hq
      exact h.handler serial' q hq i hi
  · by_cases heq : serial' = serial
    · subst heq
      simp only [state, Function.update_self] at hstate
      obtain ⟨q, hq, hrunning⟩ := Option.map_eq_some_iff.1 hstate
      exact absurd hrunning (hprocess q hq).2
    · refine h.running serial' ?_
      simpa only [state, Function.update_of_ne heq] using hstate

theorem Sane.listen (h : p.Sane) (wanted : String → Bool) (k : ℕ) (event : ADBEvent) :
    (p.listen wanted k event).Sane := by
  cases event with
  | connect device =>
    simp only [Provider.listen, onConnect]
    split_ifs
    · exact h
    · exact h
    · refine (h.update _ _ _ fun q hq => ?_).suspend _
      obtain rfl := Option.some.inj hq
      exact ⟨rfl, nofun⟩
    · exact h
  | update device oldType =>
    simp only [Provider.listen, onUpdate]
    split_ifs
    · exact h.suspend _
    · exact h
    · exact h.startDeviceWork _
    · exact h
    · exact h
  | disconnect device =>
    simp only [Provider.listen]
    split_ifs
    · exact h.removeDevice _
    · exact h
  | stuck device => exact h.removeDevice _

theorem Sane.healthcheck (h : p.Sane) (serials : List String) : (p.healthcheck serials).Sane := by
  induction serials generalizing p with
  | nil => exact h
  | cons serial serials ih => exact ih (h.removeDevice serial)

theorem Sane.setStage (h : p.Sane) {i : ℕ} {w : DeviceWork} (hw : p.works[i]? = some w)
    (hstage : w.stage ≠ .running) (stage : WorkStage) : (p.setStage i stage).Sane := by
  refine ⟨fun serial process hprocess j hj => ?_, fun serial hstate => ?_⟩
  · obtain ⟨w', hw', hserial⟩ := h.handler serial process hprocess j hj
    refine ⟨_, getElem?_modify_of_eq_some hw' _, ?_⟩
    split <;> exact hserial
  · obtain ⟨w', hw', hserial, hruns⟩ := h.running serial hstate
    refine ⟨w', mem_modify_of_ne hw hw' ?_ _, hserial, hruns⟩
    rintro rfl
    exact hstage hruns

theorem Sane.setState (h : p.Sane) (serial : String) {state : ProcessState}
    (hstate : state = .running → ∃ w ∈ p.works, w.serial = serial ∧ w.stage = .running) :
    (p.setState serial state).Sane := by
  refine ⟨fun serial' process hprocess i hi => ?_, fun serial' hrunning => ?_⟩
  · by_cases heq : serial' = serial
    · subst heq
      simp only [Provider.setState, Function.update_self] at hprocess
      obtain ⟨q, hq, rfl⟩ := Option.map_eq_some_iff.1 hprocess
      exact h.handler serial' q hq i hi
    · simp only [Provider.setState, Function.update_of_ne heq] at hprocess
      exact h.handler serial' process hprocess i hi
  · by_cases heq : serial' = serial
    · subst heq
      simp only [Provider.state, Provider.setState, Function.update_self, Option.map_map] at hrunning
      obtain ⟨q, -, hq⟩ := Option.map_eq_some_iff.1 hrunning
      exact hstate hq
    · refine h.running serial' ?_
      simpa only [Provider.state, Provider.setState, Function.update_of_ne heq] using hrunning

theorem Sane.go (h : p.Sane) {e : Progress} (hgo : p.go e = some p') : p'.Sane := by
  cases e with
  | registered i =>
    obtain ⟨w, hw, rfl⟩ := Option.map_eq_some_iff.1 hgo
    obtain ⟨hw, hstage⟩ := Option.filter_eq_some_iff.1 hw
    have hnot : w.stage ≠ .running := by rw [of_decide_eq_true hstage]; decide
    split
    · exact (h.setStage hw hnot _).setState _ nofun
    · exact h.setStage hw hnot _
  | spawned i =>
    obtain ⟨w, hw, rfl⟩ := Option.map_eq_some_iff.1 hgo
    obtain ⟨hw, hstage⟩ := Option.filter_eq_some_iff.1 hw
    have hnot : w.stage ≠ .running := by rw [of_decide_eq_true hstage]; decide
    have hset := h.setStage hw hnot .spawned
    refine ⟨fun serial process hprocess j hj => ?_, fun serial hrunning => ?_⟩
    · by_cases heq : serial = w.serial
      · subst heq
        simp only [Function.update_self] at hprocess
        obtain ⟨q, hq, rfl⟩ := Option.map_eq_some_iff.1 hprocess
        obtain rfl := Option.some.inj hj
        exact ⟨_, getElem?_modify_self hw _, rfl⟩
      · simp only [Function.update_of_ne heq] at hprocess
        exact hset.handler serial process hprocess j hj
    · refine hset.running serial ?_
      by_cases heq : serial = w.serial
      · subst heq
        simpa [state, Provider.setStage, Option.map_map, Function.comp_def] using hrunning
      · simpa only [state, Provider.setStage, Function.update_of_ne heq] using hrunning
  | ready i =>
    obtain ⟨w, hw, rfl⟩ := Option.map_eq_some_iff.1 hgo
    obtain ⟨hw, hstage⟩ := Option.filter_eq_some_iff.1 hw
    have hnot : w.stage ≠ .running := by rw [of_decide_eq_true hstage]; decide
    refine (h.setStage hw hnot _).setState _ fun _ => ?_
    exact ⟨_, List.mem_of_getElem? (getElem?_modify_self hw _), rfl, rfl⟩

theorem exists_terminate (serial : String) {i : ℕ} {serial' : String}
    (h : ∃ w ∈ p.works[i]?, w.serial = serial') :
    ∃ w ∈ (p.terminate serial).works[i]?, w.serial = serial' := by
  obtain ⟨w, hw, hserial⟩ := h
  simp only [terminate]
  cases (p.processes serial).bind DeviceProcess.terminateHandler with
  | none => exact ⟨w, hw, hserial⟩
  | some j =>
    refine ⟨_, getElem?_modify_of_eq_some hw _, ?_⟩
    split <;> exact hserial

/-- A process that is terminated runs no longer when the listener has gone on. -/
theorem Sane.terminated (h : p.Sane) {serial : String} {process : Option DeviceProcess} (slots : ℕ)
    (hprocess : ∀ q ∈ process, q.state ≠ .running ∧
      ∀ i ∈ q.terminateHandler, ∃ w ∈ p.works[i]?, w.serial = serial) :
    Sane { p.terminate serial with
      processes := Function.update p.processes serial process, slots := slots } := by
  refine ⟨fun serial' q hq i hi => ?_, fun serial' hrunning => ?_⟩
  · by_cases heq : serial' = serial
    · subst heq
      simp only [Function.update_self] at hq
      exact exists_terminate _ ((hprocess q hq).2 i hi)
    · simp only [Function.update_of_ne heq] at hq
      exact exists_terminate _ (h.handler serial' q hq i hi)
  · by_cases heq : serial' = serial
    · subst heq
      simp only [state, Function.update_self] at hrunning
      obtain ⟨q, hq, hstate⟩ := Option.map_eq_some_iff.1 hrunning
      exact absurd hstate (hprocess q hq).1
    · have hstate : p.state serial' = some .running := by
        simpa only [state, Function.update_of_ne heq] using hrunning
      obtain ⟨w, hw, hserial, hruns⟩ := h.running serial' hstate
      exact ⟨w, (same_terminate h heq).works w hw hserial, hserial, hruns⟩

theorem Sane.goOn (h : p.Sane) (type : Option String) (c : Suspended) : (p.goOn type c).Sane := by
  cases c with
  | created serial k =>
    simp only [Provider.goOn]
    split
    · exact h.startDeviceWork serial
    · exact h
  | stopping serial =>
    refine h.terminated p.slots fun q hq => ?_
    obtain ⟨q', hq', rfl⟩ := Option.map_eq_some_iff.1 hq
    exact ⟨nofun, h.handler serial q' hq'⟩
  | removing serial => exact h.terminated (p.slots + 1) nofun

/-- **A listener that goes on** leaves the processes sane, and a device at work that has a process and
is not about to be stopped; a device that was created is worked with then. -/
theorem resume_spec (hsane : p.Sane) {types : ℕ → Option String} {i : ℕ}
    (hresume : p.resume types i = some p') : p'.Sane ∧ ∀ serial, p.Kept serial →
      p'.Kept serial ∧ (p.Worked serial → p'.Worked serial) ∧
        ∀ k, types k = some "device" → .created serial k ∈ p.suspended →
          .created serial k ∈ p'.suspended ∨ p'.Worked serial := by
  obtain ⟨c, hc, rfl⟩ := Option.map_eq_some_iff.1 hresume
  set rest : Provider := { p with suspended := p.suspended.eraseIdx i } with hrest
  have hrestSane : rest.Sane := ⟨hsane.handler, hsane.running⟩
  refine ⟨hrestSane.goOn _ c, fun serial hkept => ?_⟩
  have hstops : c.stops serial = false := hkept.2 c (List.mem_of_getElem? hc)
  have hrestKept : rest.Kept serial :=
    ⟨hkept.1, fun c' hc' => hkept.2 c' (List.mem_of_mem_eraseIdx hc')⟩
  have hsame := same_goOn hrestSane hstops (c.type types)
  refine ⟨hsame.kept hrestKept, fun hworked => hsame.worked hworked, fun k htype hmem => ?_⟩
  by_cases heq : .created serial k = c
  · -- it is this listener that goes on
    subst heq
    refine .inr ?_
    simp only [goOn, Suspended.type, htype, if_true]
    exact worked_startDeviceWork hrestKept
  · refine .inl (hsame.suspended _ ?_)
    obtain ⟨j, hj⟩ := List.mem_iff_getElem?.1 hmem
    refine List.mem_eraseIdx_iff_getElem?.2 ⟨j, ?_, hj⟩
    rintro rfl
    exact heq (Option.some.inj (hj.symm.trans hc))

end Provider

end DeviceHub

import DeviceHub.Async.Lts
import DeviceHub.Provider.Listeners
import Mathlib.Data.List.AList

/-!
# The devices of `units/provider/ADBObserver.ts`

Polls, health checks and reconnects change the records of the devices, and the provider follows the
events.  A reconnect that succeeds changes a record without an event.

## Main definitions

* `ADBObserver` : the observer, with the events that it has emitted and the provider that listens.
* `ADBObserver.replay` : the devices that the events tell of.
* `ADBObserver.Told` : the events tell the whole story, and every device that is online has a
  worker.
* `ADBObserver.Announced` : the condition on a step.
* `ADBObserver.Covered` : the provider works with a device, or is about to.

## Main results

* `ADBObserver.told_of_run` : the events tell the whole story in the runs whose steps all meet it.
* `ADBObserver.not_told_of_reconnect` : a device that was stuck is online again, and nobody is told.
-/

namespace DeviceHub

/-- An entry of the list of devices that the server sends. -/
structure ADBDeviceEntry where
  serial : String
  state : String
  deriving DecidableEq

/-! ### The observer -/

/-- All records that were ever created, and the map from the serials to their numbers; the failed
health checks in a row; the record whose check is under way, and the reconnects that are.  The
events that were emitted, and the provider. -/
structure ADBObserver where
  objects : List ADBDevice
  devices : AList fun _ : String => Nat
  deviceHealthAttempts : String → Nat
  checking : Option Nat
  reconnects : List Nat
  events : List ADBEvent
  provider : Provider

namespace ADBObserver

/-- So many failed checks in a row make a device stuck. -/
def maxHealthCheckAttempts : Nat := 3

/-- The provider has ports for so many devices. -/
def new (slots : Nat) : ADBObserver := ⟨[], ∅, fun _ => 0, none, [], [], .new slots⟩

/-- The record that the map has for the device. -/
def getDevice (s : ADBObserver) (serial : String) : Option ADBDevice :=
  (s.devices.lookup serial).bind fun k => s.objects[k]?

/-- An event about the record number `k`, and what the listeners do at once. -/
def emit (wanted : String → Bool) (s : ADBObserver) (k : Nat) (event : ADBEvent) : ADBObserver :=
  { s with events := s.events ++ [event], provider := s.provider.listen wanted k event }

/-! #### The poll -/

/-- A device that was not in the map. -/
def connect (wanted : String → Bool) (s : ADBObserver) (entry : ADBDeviceEntry) : ADBObserver :=
  emit wanted
    { s with
      objects := s.objects ++ [⟨entry.serial, entry.state, false⟩]
      devices := s.devices.insert entry.serial s.objects.length }
    s.objects.length (.connect ⟨entry.serial, entry.state, false⟩)

/-- The record after the update. -/
def updated (device : ADBDevice) (state : String) : ADBDevice where
  serial := device.serial
  type := state
  isStuck := if isOnline state then false else device.isStuck

/-- The type of the device number `k` has changed. -/
def update (wanted : String → Bool) (s : ADBObserver) (k : Nat) (device : ADBDevice)
    (state : String) : ADBObserver :=
  emit wanted { s with objects := s.objects.modify k fun device => updated device state } k
    (.update (updated device state) device.type)

/-- An entry of the list that the server has sent. -/
def see (wanted : String → Bool) (s : ADBObserver) (entry : ADBDeviceEntry) : ADBObserver :=
  match s.devices.lookup entry.serial with
  | none => s.connect wanted entry
  | some k =>
    match s.objects[k]? with
    | none => s
    | some device => if device.type ≠ entry.state then s.update wanted k device entry.state else s

/-- A device that the server lists no longer. -/
def lose (wanted : String → Bool) (s : ADBObserver) (serial : String) : ADBObserver :=
  match s.devices.lookup serial with
  | none => s
  | some k =>
    match s.objects[k]? with
    | none => s
    | some device =>
      emit wanted
        { s with
          devices := s.devices.erase serial
          deviceHealthAttempts := Function.update s.deviceHealthAttempts serial 0 }
        k (.disconnect device)

/-- `pollDevices`, when the list has come. -/
def pollDevices (wanted : String → Bool) (s : ADBObserver) (currentDevices : List ADBDeviceEntry) :
    ADBObserver :=
  (s.devices.keys.filter fun serial => !currentDevices.any fun entry => entry.serial = serial).foldl
    (lose wanted) (currentDevices.foldl (see wanted) s)

/-! #### The health checks -/

/-- The device has answered its check. -/
def healthCheckOk (s : ADBObserver) (device : ADBDevice) : ADBObserver :=
  { s with
    checking := none
    deviceHealthAttempts := Function.update s.deviceHealthAttempts device.serial 0 }

/-- A network device. -/
def network (serial : String) : Bool := serial.toList.contains ':'

/-- The first part of `device.reconnect`; it gives up at once on other devices. -/
def reconnect (s : ADBObserver) (k : Nat) (device : ADBDevice) : ADBObserver :=
  if network device.serial then { s with reconnects := s.reconnects ++ [k] } else s

/-- The record number `k` is stuck, and is put into the map. -/
def stick (wanted : String → Bool) (s : ADBObserver) (k : Nat) (device : ADBDevice) : ADBObserver :=
  emit wanted
    { s with
      checking := none
      objects := s.objects.modify k fun device => { device with isStuck := true }
      devices := s.devices.insert device.serial k
      deviceHealthAttempts := Function.update s.deviceHealthAttempts device.serial 0 }
    k (.stuck { device with isStuck := true })

/-- `handleDeviceHealthCheckFailure`, for the record number `k` that was checked. -/
def healthCheckFailed (wanted : String → Bool) (s : ADBObserver) (k : Nat) (device : ADBDevice) :
    ADBObserver :=
  if s.deviceHealthAttempts device.serial + 1 < maxHealthCheckAttempts then
    { s with
      checking := none
      deviceHealthAttempts := Function.update s.deviceHealthAttempts device.serial
        (s.deviceHealthAttempts device.serial + 1) }
  else
    (s.stick wanted k device).reconnect k device

/-- The reconnect number `j` ends, with the state that the server has for the device of its record,
the number `k`. -/
def reconnected (s : ADBObserver) (j k : Nat) (state : Option String) : ADBObserver :=
  { s with
    reconnects := s.reconnects.eraseIdx j
    objects := if state.any isOnline then
        s.objects.modify k fun device => { device with type := "device", isStuck := false }
      else s.objects }

/-- `healthcheck` is emitted, when the workers of these devices are stuck in `starting`. -/
def healthcheck (s : ADBObserver) (stuck : List String) : ADBObserver :=
  { s with
    provider := s.provider.healthcheck (stuck.filter fun serial => (s.getDevice serial).isSome) }

/-! ### Runs -/

/-- What the server says, and what becomes of the checks and reconnects; and the steps of the
provider between its awaits. -/
inductive Event where
  | poll (currentDevices : List ADBDeviceEntry)
  | check (serial : String)
  | checkOk
  | checkFailed
  | healthcheck (stuck : List String)
  | reconnect (serial : String)
  | reconnected (j : Nat) (state : Option String)
  /-- The listener of that number goes on. -/
  | resume (i : Nat)
  /-- A call of `startDeviceWork` goes on. -/
  | go (progress : Provider.Progress)

/-- The listeners wait only for what is done already: they go on before anything else comes from
outside.  A device is checked while it is online and not stuck, one at a time; the provider asks for
a reconnect of a device that is not online. -/
def next (wanted : String → Bool) (s : ADBObserver) : Event → Option ADBObserver
  | .poll currentDevices =>
    if s.provider.suspended = [] then some (s.pollDevices wanted currentDevices) else none
  | .check serial =>
    if s.checking = none ∧ (s.getDevice serial).any fun d => isOnline d.type && !d.isStuck then
      some { s with checking := s.devices.lookup serial }
    else none
  | .checkOk => (s.checking.bind fun k => s.objects[k]?).map s.healthCheckOk
  | .checkFailed =>
    if s.provider.suspended = [] then
      s.checking.bind fun k => s.objects[k]?.map (s.healthCheckFailed wanted k)
    else none
  | .healthcheck stuck =>
    if s.provider.suspended = [] ∧ stuck.Nodup ∧
        ∀ serial ∈ stuck, s.provider.state serial = some .starting then
      some (s.healthcheck stuck)
    else none
  | .reconnect serial => (s.devices.lookup serial).bind fun k =>
      (s.objects[k]?.filter fun d => !isOnline d.type).map (s.reconnect k)
  | .reconnected j state => s.reconnects[j]?.map fun k => s.reconnected j k state
  | .resume i => (s.provider.resume (fun k => s.objects[k]?.map ADBDevice.type) i).map fun provider =>
    { s with provider }
  | .go progress => (s.provider.go progress).map fun provider => { s with provider }

/-- Polls, health checks and reconnects, in any order. -/
def system (wanted : String → Bool) : Lts ADBObserver Event := .ofNext (next wanted)

/-! ### What the events tell -/

/-- The type of a device, and whether it is stuck. -/
abbrev View := String → Option (String × Bool)

/-- An event about a device tells how it is now. -/
def tell (view : View) : ADBEvent → View
  | .connect device | .update device _ | .stuck device =>
    Function.update view device.serial (some (device.type, device.isStuck))
  | .disconnect device => Function.update view device.serial none

/-- The events are replayed from the empty map. -/
def replay (events : List ADBEvent) : View := events.foldl tell fun _ => none

/-- The devices in the map. -/
def view (s : ADBObserver) : View :=
  fun serial => (s.getDevice serial).map fun device => (device.type, device.isStuck)

/-- The observer lists the device as online and not stuck, with that type, and the provider wants
it. -/
def Wants (wanted : String → Bool) (s : ADBObserver) (serial : String) (type : String) : Prop :=
  wanted serial = true ∧ s.view serial = some (type, false) ∧ isOnline type = true

/-- The events tell the whole story, and when the listeners have gone on, each device that the
observer lists as online and not stuck, and that the provider wants, has a process and a worker. -/
def Told (wanted : String → Bool) (s : ADBObserver) : Prop :=
  replay s.events = s.view ∧
  (s.provider.suspended = [] → ∀ serial type, s.Wants wanted serial type →
    s.provider.has serial = true ∧ s.provider.Worked serial)

/-- The condition on an entry of a poll: when a device comes online then the provider, which does
not create a process but at the first sight of a device, creates it, or has one that it works with
or whose work it starts.  None of its listeners is about to stop that. -/
def Served (wanted : String → Bool) (s : ADBObserver) (entry : ADBDeviceEntry) : Prop :=
  wanted entry.serial = true → isOnline entry.state = true →
    match s.getDevice entry.serial with
    | none => s.provider.Kept entry.serial ∧ s.provider.Worked entry.serial ∨
        s.provider.has entry.serial = false ∧ s.provider.slots ≠ 0 ∧ entry.state = "device" ∧
          ∀ c ∈ s.provider.suspended, c.stops entry.serial = false
    | some device => device.type = entry.state ∨ s.provider.Kept entry.serial ∧
        (s.provider.Worked entry.serial ∨
          entry.state = "device" ∧ s.provider.state entry.serial ≠ some .running)

/-- The condition on the entries of a poll, one after the other. -/
def ServedAll (wanted : String → Bool) : ADBObserver → List ADBDeviceEntry → Prop
  | _, [] => True
  | s, entry :: rest => s.Served wanted entry ∧ (s.see wanted entry).ServedAll wanted rest

/-- The condition: a poll serves the devices that come online; no worker of a device that is online
is stuck in `starting`; and a reconnect that succeeds finds its record no more in the map, or with
nothing to change. -/
def Announced (wanted : String → Bool) (s : ADBObserver) : Event → Prop
  | .poll currentDevices => s.ServedAll wanted currentDevices
  | .healthcheck stuck => ∀ serial ∈ stuck, wanted serial = true →
      ∀ d ∈ s.getDevice serial, isOnline d.type = true → d.isStuck = true
  | .reconnected j state => state.any isOnline = true → ∀ k ∈ s.reconnects[j]?, ∀ d ∈ s.objects[k]?,
      s.devices.lookup d.serial = some k → d.type = "device" ∧ d.isStuck = false
  | _ => True

instance (wanted : String → Bool) (s : ADBObserver) (entry : ADBDeviceEntry) :
    Decidable (s.Served wanted entry) := by
  unfold Served
  split <;> infer_instance

instance (wanted : String → Bool) : (s : ADBObserver) → (entries : List ADBDeviceEntry) →
    Decidable (s.ServedAll wanted entries)
  | _, [] => .isTrue trivial
  | s, entry :: rest =>
    have := instDecidableServedAll wanted (s.see wanted entry) rest
    inferInstanceAs (Decidable (_ ∧ _))

instance (wanted : String → Bool) (s : ADBObserver) (event : Event) :
    Decidable (s.Announced wanted event) := by
  unfold Announced
  split <;> infer_instance

/-! ### The map -/

variable {wanted : String → Bool} {s s' : ADBObserver}

/-- What the map has under a serial is a record of the device. -/
def WellFormed (s : ADBObserver) : Prop :=
  ∀ serial, ∀ k ∈ s.devices.lookup serial, ∃ d ∈ s.objects[k]?, d.serial = serial

theorem wellFormed_new (slots : Nat) : (new slots).WellFormed := by
  intro serial k hk
  rw [show (new slots).devices.lookup serial = none from AList.lookup_empty serial] at hk
  cases hk

theorem WellFormed.serial_of_getDevice (h : s.WellFormed) {serial : String} {d : ADBDevice}
    (hd : s.getDevice serial = some d) : d.serial = serial := by
  obtain ⟨k, hk, hget⟩ := Option.bind_eq_some_iff.1 hd
  obtain ⟨d', hd', hserial⟩ := h serial k hk
  obtain rfl : d = d' := Option.some.inj (hget.symm.trans hd')
  exact hserial

/-- A record is changed, but for its serial: what is under its number in the map changes. -/
theorem getDevice_modify {k : Nat} {d : ADBDevice} (hd : s.objects[k]? = some d)
    (f : ADBDevice → ADBDevice) (serial : String) :
    getDevice { s with objects := s.objects.modify k f } serial =
      if s.devices.lookup serial = some k then some (f d) else s.getDevice serial := by
  unfold getDevice
  show (s.devices.lookup serial).bind (fun k' => (s.objects.modify k f)[k']?) = _
  rcases Option.eq_none_or_eq_some (s.devices.lookup serial) with hk' | ⟨k', hk'⟩
  · rw [hk', if_neg nofun]
    rfl
  · rw [hk']
    show (s.objects.modify k f)[k']? = _
    rw [List.getElem?_modify]
    by_cases heq : k = k'
    · subst heq
      rw [if_pos rfl, hd]
      simp
    · rw [if_neg fun hsame => heq (Option.some.inj hsame).symm]
      simp [heq]

theorem WellFormed.modify (h : s.WellFormed) (k : Nat) {f : ADBDevice → ADBDevice}
    (hf : ∀ d, (f d).serial = d.serial) :
    WellFormed { s with objects := s.objects.modify k f } := by
  intro serial k' hk'
  obtain ⟨d, hd, hserial⟩ := h serial k' hk'
  refine ⟨_, getElem?_modify_of_eq_some hd f, ?_⟩
  split
  · exact (hf d).trans hserial
  · exact hserial

theorem view_eq_update (serial : String) (hne : ∀ serial', serial' ≠ serial →
    s'.getDevice serial' = s.getDevice serial') : s'.view = Function.update s.view serial
      ((s'.getDevice serial).map fun d => (d.type, d.isStuck)) := by
  funext serial'
  by_cases heq : serial' = serial
  · subst heq
    rw [Function.update_self]
    rfl
  · rw [Function.update_of_ne heq]
    unfold view
    rw [hne serial' heq]

/-! ### The events -/

theorem tell_of_ne (view : View) {event : ADBEvent} {serial : String}
    (hne : serial ≠ event.serial) : tell view event serial = view serial := by
  cases event <;> exact Function.update_of_ne hne _ _

/-- The provider has a process of the device, which nothing is about to stop, and works with it, or
does so when the listener that has created the process goes on. -/
def Covered (s : ADBObserver) (serial : String) (type : String) : Prop :=
  s.provider.Kept serial ∧ (s.provider.Worked serial ∨
    type = "device" ∧ ∃ k, s.devices.lookup serial = some k ∧
      .created serial k ∈ s.provider.suspended)

/-- What holds in the runs whose steps all meet the condition. -/
structure Followed (wanted : String → Bool) (s : ADBObserver) : Prop where
  wellFormed : s.WellFormed
  sane : s.provider.Sane
  replay : replay s.events = s.view
  covered : ∀ serial type, s.Wants wanted serial type → s.Covered serial type

theorem Followed.told (h : s.Followed wanted) : s.Told wanted := by
  refine ⟨h.replay, fun hsuspended serial type hwants => ?_⟩
  obtain ⟨hkept, hworked | ⟨-, k, -, hmem⟩⟩ := h.covered serial type hwants
  · exact ⟨hkept.1, hworked⟩
  · rw [hsuspended] at hmem
    cases hmem

/-- **An event that tells of the change** of the map; for its own device the provider must see to
the worker. -/
theorem Followed.emit (h : s.Followed wanted) {k : Nat} {event : ADBEvent}
    (hwf : s'.WellFormed) (hevents : s'.events = s.events) (hprovider : s'.provider = s.provider)
    (hview : s'.view = tell s.view event)
    (hdevices : ∀ serial, serial ≠ event.serial →
      s'.devices.lookup serial = s.devices.lookup serial)
    (hserved : ∀ type, s'.Wants wanted event.serial type →
      (s'.emit wanted k event).Covered event.serial type) :
    (s'.emit wanted k event).Followed wanted := by
  refine ⟨hwf, ?_, ?_, fun serial type hwants => ?_⟩
  · show (s'.provider.listen wanted k event).Sane
    rw [hprovider]
    exact h.sane.listen wanted k event
  · show ADBObserver.replay (s'.events ++ [event]) = s'.view
    rw [hevents, hview, ← h.replay]
    simp only [ADBObserver.replay, List.foldl_append, List.foldl_cons, List.foldl_nil]
  · by_cases heq : serial = event.serial
    · subst heq
      exact hserved type hwants
    · -- an event about another device leaves the worker alone
      have hsame : s.view serial = some (type, false) := by
        rw [← tell_of_ne s.view heq, ← hview]
        exact hwants.2.1
      obtain ⟨hkept, hworks⟩ := h.covered serial type ⟨hwants.1, hsame, hwants.2.2⟩
      have hlisten : Provider.Same serial s.provider (s'.provider.listen wanted k event) := by
        rw [hprovider]
        exact Provider.same_listen heq
      refine ⟨hlisten.kept hkept, hworks.imp hlisten.worked ?_⟩
      rintro ⟨htype, k', hk', hmem⟩
      exact ⟨htype, k', (hdevices serial heq).trans hk', hlisten.suspended _ hmem⟩

theorem Followed.congr (h : s.Followed wanted) (hwf : s'.WellFormed)
    (hdevices : s'.devices = s.devices) (hevents : s'.events = s.events)
    (hprovider : s'.provider = s.provider) (hview : s'.view = s.view) : s'.Followed wanted := by
  refine ⟨hwf, hprovider ▸ h.sane, ?_, fun serial type hwants => ?_⟩
  · rw [hevents, hview]
    exact h.replay
  · simp only [Wants, hview] at hwants
    simp only [Covered, hprovider, hdevices]
    exact h.covered serial type hwants

/-! ### The poll -/

theorem WellFormed.connect (h : s.WellFormed) (wanted : String → Bool) (entry : ADBDeviceEntry) :
    (s.connect wanted entry).WellFormed := by
  intro serial k hk
  replace hk : (s.devices.insert entry.serial s.objects.length).lookup serial = some k := hk
  show ∃ d ∈ (s.objects ++ [_])[k]?, d.serial = serial
  by_cases heq : serial = entry.serial
  · subst heq
    rw [AList.lookup_insert] at hk
    obtain rfl := Option.some.inj hk
    exact ⟨⟨entry.serial, entry.state, false⟩, List.getElem?_concat_length, rfl⟩
  · rw [AList.lookup_insert_ne heq] at hk
    obtain ⟨d, hd, hserial⟩ := h serial k hk
    exact ⟨d, getElem?_of_prefix (List.prefix_append _ _) hd, hserial⟩

theorem getDevice_connect (h : s.WellFormed) (entry : ADBDeviceEntry) (serial : String) :
    (s.connect wanted entry).getDevice serial =
      if serial = entry.serial then some ⟨entry.serial, entry.state, false⟩
      else s.getDevice serial := by
  show ((s.devices.insert entry.serial s.objects.length).lookup serial).bind
    (fun k => (s.objects ++ [_])[k]?) = _
  by_cases heq : serial = entry.serial
  · subst heq
    rw [AList.lookup_insert, if_pos rfl]
    exact List.getElem?_concat_length
  · rw [AList.lookup_insert_ne heq, if_neg heq]
    simp only [getDevice]
    rcases Option.eq_none_or_eq_some (s.devices.lookup serial) with hk | ⟨k, hk⟩
    · rw [hk]
      rfl
    · obtain ⟨d, hd, -⟩ := h serial k hk
      have hlt := (List.getElem?_eq_some_iff.1 hd).1
      rw [hk]
      exact List.getElem?_append_left hlt

/-- **A new device** is announced. -/
theorem Followed.connect (h : s.Followed wanted) {entry : ADBDeviceEntry}
    (hnew : s.getDevice entry.serial = none) (hserved : s.Served wanted entry) :
    (s.connect wanted entry).Followed wanted := by
  have hget : ∀ serial, (s.connect wanted entry).getDevice serial = _ :=
    getDevice_connect h.wellFormed entry
  have hview : (s.connect wanted entry).view =
      tell s.view (.connect ⟨entry.serial, entry.state, false⟩) := by
    rw [view_eq_update (s := s) entry.serial fun serial' hne => by
      rw [hget, if_neg hne], hget, if_pos rfl]
    rfl
  refine h.emit (h.wellFormed.connect wanted entry) rfl rfl hview
    (fun serial hne => AList.lookup_insert_ne hne) fun type hwants => ?_
  obtain ⟨hwanted, hlisted, honline⟩ := hwants
  obtain rfl : entry.state = type := by
    replace hlisted : (s.connect wanted entry).view entry.serial = some (type, false) := hlisted
    rw [hview] at hlisted
    replace hlisted : Function.update s.view entry.serial (some (entry.state, false)) entry.serial =
      some (type, false) := hlisted
    rw [Function.update_self] at hlisted
    exact congrArg Prod.fst (Option.some.inj hlisted)
  -- the condition at a device that the map does not have
  have hcondition := hserved hwanted honline
  rw [hnew] at hcondition
  rcases hcondition with ⟨hkept, hworked⟩ | ⟨hhas, hslots, htype, hstops⟩
  · have hsame : s.provider.listen wanted s.objects.length
        (.connect ⟨entry.serial, entry.state, false⟩) = s.provider :=
      Provider.listen_connect_of_has hkept.1
    show Provider.Kept (s.provider.listen wanted _ _) _ ∧
      (Provider.Worked (s.provider.listen wanted _ _) _ ∨ _)
    rw [hsame]
    exact ⟨hkept, .inl hworked⟩
  · have hkept := Provider.kept_connect s.objects.length ⟨entry.serial, entry.state, false⟩
      hwanted hhas hslots hstops
    exact ⟨hkept.1, .inr ⟨htype, s.objects.length, AList.lookup_insert _, hkept.2⟩⟩

/-- **A device whose type has changed** is announced. -/
theorem Followed.update (h : s.Followed wanted) {entry : ADBDeviceEntry} {k : Nat}
    {device : ADBDevice} (hk : s.devices.lookup entry.serial = some k)
    (hd : s.objects[k]? = some device) (htype : device.type ≠ entry.state)
    (hserved : s.Served wanted entry) : (s.update wanted k device entry.state).Followed wanted := by
  have hget : s.getDevice entry.serial = some device := by
    simp only [getDevice, hk]
    exact hd
  have hserial : device.serial = entry.serial := h.wellFormed.serial_of_getDevice hget
  have hmodify := getDevice_modify hd fun device => updated device entry.state
  have hview : view { s with
      objects := s.objects.modify k fun device => updated device entry.state } =
      tell s.view (.update (updated device entry.state) device.type) := by
    rw [view_eq_update (s := s) entry.serial fun serial' hne => ?_, hmodify, if_pos hk, ← hserial]
    · rfl
    · rw [hmodify, if_neg]
      -- two devices of the map do not share a record
      intro hk'
      obtain ⟨d, hd', hserial'⟩ := h.wellFormed serial' k hk'
      obtain rfl : device = d := Option.some.inj (hd.symm.trans hd')
      exact hne (hserial'.symm.trans hserial)
  refine h.emit (h.wellFormed.modify k fun _ => rfl) rfl rfl hview (fun _ _ => rfl)
    fun type hwants => ?_
  obtain ⟨hwanted, hlisted, honline⟩ := hwants
  rw [hview] at hlisted
  replace hlisted : Function.update s.view device.serial
      (some (entry.state, if isOnline entry.state then false else device.isStuck)) device.serial =
    some (type, false) := hlisted
  rw [Function.update_self] at hlisted
  obtain rfl : entry.state = type := congrArg Prod.fst (Option.some.inj hlisted)
  have hcondition := hserved (hserial ▸ hwanted) honline
  rw [hget, ← hserial] at hcondition
  obtain ⟨hkept, hworks⟩ := hcondition.resolve_left htype
  have hworked := Provider.kept_update k (updated device entry.state) device.type hwanted honline
    hkept hworks
  exact ⟨hworked.1, .inl hworked.2⟩

theorem Followed.see (h : s.Followed wanted) {entry : ADBDeviceEntry}
    (hserved : s.Served wanted entry) : (s.see wanted entry).Followed wanted := by
  simp only [ADBObserver.see]
  split
  · rename_i hnone
    refine h.connect ?_ hserved
    simp only [getDevice, hnone]
    rfl
  · rename_i k hk
    split
    · exact h
    · rename_i device hd
      split
      · rename_i htype
        exact h.update hk hd htype hserved
      · exact h

/-- A record is taken out of the map. -/
theorem getDevice_erase (serial serial' : String) (attempts : String → Nat) :
    getDevice { s with
      devices := s.devices.erase serial
      deviceHealthAttempts := attempts } serial' =
      if serial' = serial then none else s.getDevice serial' := by
  show ((s.devices.erase serial).lookup serial').bind (fun k => s.objects[k]?) = _
  by_cases heq : serial' = serial
  · rw [heq, AList.lookup_erase, if_pos rfl]
    rfl
  · rw [AList.lookup_erase_ne heq, if_neg heq]
    rfl

theorem view_erase (serial : String) (attempts : String → Nat) :
    view { s with
      devices := s.devices.erase serial
      deviceHealthAttempts := attempts } = Function.update s.view serial none := by
  rw [view_eq_update (s := s) serial fun serial' hne => by
    rw [getDevice_erase, if_neg hne], getDevice_erase, if_pos rfl]
  rfl

/-- **A device that is gone** is announced. -/
theorem Followed.lose (h : s.Followed wanted) (serial : String) :
    (s.lose wanted serial).Followed wanted := by
  simp only [ADBObserver.lose]
  split
  · exact h
  · rename_i k hk
    split
    · exact h
    · rename_i device hd
      have hget : s.getDevice serial = some device := by
        simp only [getDevice, hk]
        exact hd
      have hserial : device.serial = serial := h.wellFormed.serial_of_getDevice hget
      have hview : view { s with
          devices := s.devices.erase serial
          deviceHealthAttempts := Function.update s.deviceHealthAttempts serial 0 } =
          tell s.view (.disconnect device) := by
        rw [view_erase, ← hserial]
        rfl
      refine h.emit (fun serial' k' hk' => h.wellFormed serial' k' ?_) rfl rfl hview
        (fun serial' hne => AList.lookup_erase_ne fun heq => hne (heq.trans hserial.symm))
        fun type hwants => ?_
      · replace hk' : (s.devices.erase serial).lookup serial' = some k' := hk'
        by_cases heq : serial' = serial
        · rw [heq, AList.lookup_erase] at hk'
          cases hk'
        · rwa [AList.lookup_erase_ne heq] at hk'
      · -- a device that is gone is not listed
        have hlisted := hwants.2.1
        rw [hview] at hlisted
        replace hlisted : Function.update s.view device.serial none device.serial =
          some (type, false) := hlisted
        rw [Function.update_self] at hlisted
        cases hlisted

/-- **A poll** announces all that it changes. -/
theorem Followed.poll (h : s.Followed wanted) {currentDevices : List ADBDeviceEntry}
    (hserved : s.ServedAll wanted currentDevices) :
    (s.pollDevices wanted currentDevices).Followed wanted := by
  -- the devices that the server lists, one after the other
  have hseen : ∀ (entries : List ADBDeviceEntry) (s : ADBObserver), s.Followed wanted →
      s.ServedAll wanted entries → (entries.foldl (ADBObserver.see wanted) s).Followed wanted := by
    intro entries
    induction entries with
    | nil => exact fun s h _ => h
    | cons entry entries ih => exact fun s h hserved => ih _ (h.see hserved.1) hserved.2
  -- then those that it lists no longer
  have hlost : ∀ (serials : List String) (s : ADBObserver), s.Followed wanted →
      (serials.foldl (ADBObserver.lose wanted) s).Followed wanted := by
    intro serials
    induction serials with
    | nil => exact fun s h => h
    | cons serial serials ih => exact fun s h => ih _ (h.lose serial)
  exact hlost _ _ (hseen currentDevices s h hserved)

/-! ### Health checks and reconnects -/

theorem Followed.keep (h : s.Followed wanted) (hobjects : s'.objects = s.objects)
    (hdevices : s'.devices = s.devices) (hevents : s'.events = s.events)
    (hprovider : s'.provider = s.provider) : s'.Followed wanted := by
  refine h.congr ?_ hdevices hevents hprovider ?_
  · simp only [WellFormed, hobjects, hdevices]
    exact h.wellFormed
  · funext serial
    simp only [view, getDevice, hobjects, hdevices]

/-- The record is the one that the map has for its device. -/
theorem getDevice_stick (hwf : s.WellFormed) {k : Nat} {device : ADBDevice}
    (hd : s.objects[k]? = some device) (serial : String) :
    (s.stick wanted k device).getDevice serial =
      if serial = device.serial then some { device with isStuck := true }
      else s.getDevice serial := by
  show ((s.devices.insert device.serial k).lookup serial).bind
    (fun k' => (s.objects.modify k fun device => { device with isStuck := true })[k']?) = _
  by_cases heq : serial = device.serial
  · subst heq
    rw [AList.lookup_insert, if_pos rfl]
    exact getElem?_modify_self hd _
  · -- no other device of the map has this record
    have hother : s.devices.lookup serial ≠ some k := by
      intro hk
      obtain ⟨d, hd', hserial⟩ := hwf serial k hk
      obtain rfl : device = d := Option.some.inj (hd.symm.trans hd')
      exact heq hserial.symm
    have hmodify := getDevice_modify (s := s) hd (fun device => { device with isStuck := true }) serial
    rw [if_neg hother] at hmodify
    rw [AList.lookup_insert_ne heq, if_neg heq, ← hmodify]
    rfl

theorem WellFormed.stick (hwf : s.WellFormed) (wanted : String → Bool) {k : Nat}
    {device : ADBDevice} (hd : s.objects[k]? = some device) : (s.stick wanted k device).WellFormed := by
  intro serial k' hk'
  replace hk' : (s.devices.insert device.serial k).lookup serial = some k' := hk'
  by_cases heq : serial = device.serial
  · subst heq
    rw [AList.lookup_insert] at hk'
    obtain rfl := Option.some.inj hk'
    exact ⟨{ device with isStuck := true }, getElem?_modify_self hd _, rfl⟩
  · rw [AList.lookup_insert_ne heq] at hk'
    exact (hwf.modify k (f := fun device => { device with isStuck := true }) fun _ => rfl) serial k' hk'

/-- **A device that got stuck** is announced, also when the map has another record for it, or
none. -/
theorem Followed.stick (h : s.Followed wanted) {k : Nat} {device : ADBDevice}
    (hd : s.objects[k]? = some device) : (s.stick wanted k device).Followed wanted := by
  have hget : ∀ serial, (s.stick wanted k device).getDevice serial = _ :=
    getDevice_stick h.wellFormed hd
  have hview : (s.stick wanted k device).view =
      tell s.view (.stuck { device with isStuck := true }) := by
    rw [view_eq_update (s := s) device.serial fun serial' hne => by
      rw [hget, if_neg hne], hget, if_pos rfl]
    rfl
  refine h.emit (h.wellFormed.stick wanted hd) rfl rfl hview
    (fun serial hne => AList.lookup_insert_ne hne) fun type hwants => ?_
  -- a device that is stuck needs no worker
  have hlisted := hwants.2.1
  replace hlisted : (s.stick wanted k device).view device.serial = some (type, false) := hlisted
  rw [hview] at hlisted
  replace hlisted : Function.update s.view device.serial (some (device.type, true)) device.serial =
    some (type, false) := hlisted
  rw [Function.update_self] at hlisted
  cases hlisted

theorem Followed.healthCheckFailed (h : s.Followed wanted) {k : Nat} {device : ADBDevice}
    (hd : s.objects[k]? = some device) : (s.healthCheckFailed wanted k device).Followed wanted := by
  simp only [ADBObserver.healthCheckFailed]
  split
  · exact h.keep rfl rfl rfl rfl
  · simp only [ADBObserver.reconnect]
    split
    · exact (h.stick hd).keep rfl rfl rfl rfl
    · exact h.stick hd

/-- **A health check** stops no worker of a device that is online, under the condition. -/
theorem Followed.healthcheck (h : s.Followed wanted) {stuck : List String}
    (hannounced : s.Announced wanted (.healthcheck stuck)) :
    (s.healthcheck stuck).Followed wanted := by
  refine ⟨h.wellFormed, h.sane.healthcheck _, h.replay, fun serial type hwants => ?_⟩
  have hwants' : s.Wants wanted serial type := hwants
  obtain ⟨hkept, hworks⟩ := h.covered serial type hwants'
  have hnot : serial ∉ stuck.filter fun serial => (s.getDevice serial).isSome := by
    intro hmem
    obtain ⟨d, hd, hpair⟩ := Option.map_eq_some_iff.1 hwants'.2.1
    obtain ⟨rfl, hstuck⟩ := Prod.mk.inj hpair
    have htold := hannounced serial (List.mem_of_mem_filter hmem) hwants'.1 d hd hwants'.2.2
    rw [htold] at hstuck
    cases hstuck
  have hsame : Provider.Same serial s.provider (s.healthcheck stuck).provider :=
    Provider.same_healthcheck hnot
  refine ⟨hsame.kept hkept, hworks.imp hsame.worked ?_⟩
  rintro ⟨htype, k, hk, hmem⟩
  exact ⟨htype, k, hk, hsame.suspended _ hmem⟩

/-- **A reconnect that succeeds** changes nothing in the map, under the condition. -/
theorem Followed.reconnected (h : s.Followed wanted) {j k : Nat} {state : Option String}
    (hj : s.reconnects[j]? = some k) (hannounced : s.Announced wanted (.reconnected j state)) :
    (s.reconnected j k state).Followed wanted := by
  by_cases honline : state.any isOnline = true
  · have hobjects : (s.reconnected j k state).objects =
        s.objects.modify k fun device => { device with type := "device", isStuck := false } :=
      if_pos honline
    have hmodified : WellFormed { s with objects := s.objects.modify k fun device =>
        { device with type := "device", isStuck := false } } := h.wellFormed.modify k fun _ => rfl
    refine h.congr ?_ rfl rfl rfl ?_
    · simp only [WellFormed, hobjects]
      exact hmodified
    · funext serial
      have hsame : (s.reconnected j k state).getDevice serial = getDevice { s with
          objects := s.objects.modify k fun device =>
            { device with type := "device", isStuck := false } } serial := by
        simp only [getDevice, hobjects]
        rfl
      simp only [view, hsame]
      rcases Option.eq_none_or_eq_some s.objects[k]? with hnone | ⟨d, hd⟩
      · rw [List.modify_eq_self (by simpa using hnone)]
      · rw [getDevice_modify hd]
        split
        · rename_i hk
          -- the record in the map is online and not stuck as it is
          have hget : s.getDevice serial = some d := by
            simp only [getDevice, hk]
            exact hd
          have hserial := h.wellFormed.serial_of_getDevice hget
          obtain ⟨htype, hstuck⟩ := hannounced honline k hj d hd (hserial ▸ hk)
          rw [hget, Option.map_some, Option.map_some, htype, hstuck]
        · rfl
  · have hobjects : (s.reconnected j k state).objects = s.objects := if_neg honline
    exact h.keep hobjects rfl rfl rfl

/-! ### Between the awaits -/

/-- **A listener that goes on** starts the work of a new device, if that is still online. -/
theorem Followed.resume (h : s.Followed wanted) {i : Nat} {provider : Provider}
    (hresume : s.provider.resume (fun k => s.objects[k]?.map ADBDevice.type) i = some provider) :
    Followed wanted { s with provider } := by
  obtain ⟨hsane, hdevices⟩ := Provider.resume_spec h.sane hresume
  refine ⟨h.wellFormed, hsane, h.replay, fun serial type hwants => ?_⟩
  have hwants' : s.Wants wanted serial type := hwants
  obtain ⟨hkept, hworks⟩ := h.covered serial type hwants'
  obtain ⟨hkept', hworked', hcreated⟩ := hdevices serial hkept
  refine ⟨hkept', ?_⟩
  rcases hworks with hworked | ⟨htype, k, hk, hmem⟩
  · exact .inl (hworked' hworked)
  · -- the listener looks at the record that the map has
    have hrecord : s.objects[k]?.map ADBDevice.type = some "device" := by
      have hlisted := hwants'.2.1
      simp only [view, getDevice, hk, htype] at hlisted
      obtain ⟨d, hd, hpair⟩ := Option.map_eq_some_iff.1 hlisted
      obtain ⟨hdevice, -⟩ := Prod.mk.inj hpair
      exact Option.map_eq_some_iff.2 ⟨d, hd, hdevice⟩
    exact (hcreated k hrecord hmem).symm.imp id fun hmem' => ⟨htype, k, hk, hmem'⟩

theorem Followed.go (h : s.Followed wanted) {progress : Provider.Progress} {provider : Provider}
    (hgo : s.provider.go progress = some provider) : Followed wanted { s with provider } := by
  refine ⟨h.wellFormed, h.sane.go hgo, h.replay, fun serial type hwants => ?_⟩
  have hwants' : s.Wants wanted serial type := hwants
  obtain ⟨hkept, hworks⟩ := h.covered serial type hwants'
  obtain ⟨hsuspended, hkept'⟩ := Provider.kept_go serial hgo
  refine ⟨hkept' hkept, hworks.imp (Provider.worked_go h.sane hgo hkept) ?_⟩
  rintro ⟨htype, k, hk, hmem⟩
  refine ⟨htype, k, hk, ?_⟩
  show _ ∈ provider.suspended
  rw [hsuspended]
  exact hmem

/-! ### The whole story -/

theorem followed_new (slots : Nat) : (new slots).Followed wanted := by
  have hview : (new slots).view = fun _ => none := by
    funext serial
    simp only [view, getDevice]
    rw [show (new slots).devices.lookup serial = none from AList.lookup_empty serial]
    rfl
  refine ⟨wellFormed_new slots, Provider.sane_new slots, hview.symm, fun serial type hwants => ?_⟩
  have hlisted := hwants.2.1
  rw [hview] at hlisted
  cases hlisted

theorem Followed.step (h : s.Followed wanted) {event : Event}
    (hannounced : s.Announced wanted event) (hnext : s.next wanted event = some s') :
    s'.Followed wanted := by
  cases event with
  | poll currentDevices =>
    obtain ⟨-, hs'⟩ := Option.ite_none_right_eq_some.1 hnext
    obtain rfl := Option.some.inj hs'
    exact h.poll hannounced
  | check serial =>
    obtain ⟨-, hs'⟩ := Option.ite_none_right_eq_some.1 hnext
    obtain rfl := Option.some.inj hs'
    exact h.keep rfl rfl rfl rfl
  | checkOk =>
    obtain ⟨d, -, rfl⟩ := Option.map_eq_some_iff.1 hnext
    exact h.keep rfl rfl rfl rfl
  | checkFailed =>
    obtain ⟨-, hs'⟩ := Option.ite_none_right_eq_some.1 hnext
    obtain ⟨k, -, hk⟩ := Option.bind_eq_some_iff.1 hs'
    obtain ⟨d, hd, rfl⟩ := Option.map_eq_some_iff.1 hk
    exact h.healthCheckFailed hd
  | healthcheck stuck =>
    obtain ⟨-, hs'⟩ := Option.ite_none_right_eq_some.1 hnext
    obtain rfl := Option.some.inj hs'
    exact h.healthcheck hannounced
  | reconnect serial =>
    obtain ⟨k, -, hk⟩ := Option.bind_eq_some_iff.1 hnext
    obtain ⟨d, -, rfl⟩ := Option.map_eq_some_iff.1 hk
    simp only [ADBObserver.reconnect]
    split
    · exact h.keep rfl rfl rfl rfl
    · exact h
  | reconnected j state =>
    obtain ⟨k, hj, rfl⟩ := Option.map_eq_some_iff.1 hnext
    exact h.reconnected hj hannounced
  | resume i =>
    obtain ⟨provider, hprovider, rfl⟩ := Option.map_eq_some_iff.1 hnext
    exact h.resume hprovider
  | go progress =>
    obtain ⟨provider, hprovider, rfl⟩ := Option.map_eq_some_iff.1 hnext
    exact h.go hprovider

/-- **The events tell the whole story**, in every run whose steps all meet the condition: the replay
of the events that were emitted gives the devices of the map after every operation, and when the
listeners have gone on, each device that is online and not stuck, and that the provider wants, has a
worker. -/
theorem told_of_run {slots : Nat} {events : List Event}
    (hrun : ((system wanted).restrict (Announced wanted)).Run (new slots) events s) :
    s.Told wanted := by
  have hfollowed : s.Followed wanted :=
    hrun.invariant_of_restrict (I := Followed wanted) (followed_new slots)
      fun _ _ _ h hannounced hstep => h.step hannounced hstep
  exact hfollowed.told

/-- A device goes offline while its worker runs and comes back, gets stuck, and is gone. -/
theorem told_of_run_stuck :
    ∃ s : ADBObserver, s.events = [.connect ⟨"h:1", "device", false⟩,
        .update ⟨"h:1", "offline", false⟩ "device", .update ⟨"h:1", "device", false⟩ "offline",
        .stuck ⟨"h:1", "device", true⟩, .disconnect ⟨"h:1", "device", true⟩] ∧
      s.provider.suspended = [] ∧ s.Told fun _ => true := by
  obtain ⟨s, hrun, hs⟩ := Lts.exists_run_of_play (f := next fun _ => true)
    (G := Announced fun _ => true) (new 1)
    [.poll [⟨"h:1", "device"⟩], .resume 0, .go (.registered 0), .go (.spawned 0), .go (.ready 0),
      .poll [⟨"h:1", "offline"⟩], .resume 0, .poll [⟨"h:1", "device"⟩], .go (.registered 1),
      .check "h:1", .checkFailed, .check "h:1", .checkFailed, .check "h:1", .checkFailed,
      .resume 0, .reconnected 0 none, .poll []]
    (fun s => decide (s.events = [.connect ⟨"h:1", "device", false⟩,
      .update ⟨"h:1", "offline", false⟩ "device", .update ⟨"h:1", "device", false⟩ "offline",
      .stuck ⟨"h:1", "device", true⟩, .disconnect ⟨"h:1", "device", true⟩] ∧
      s.provider.suspended = [])) (by decide +kernel)
  obtain ⟨hevents, hsuspended⟩ := of_decide_eq_true hs
  exact ⟨s, hevents, hsuspended, told_of_run hrun⟩

/-- **A device that was stuck is online again, and nobody is told**: the reconnect succeeds, and for
the provider the device has no worker ever after. -/
theorem not_told_of_reconnect :
    ∃ events s, (system fun _ => true).Run (new 1) events s ∧
      s.view "h:1" = some ("device", false) ∧ replay s.events "h:1" = some ("device", true) ∧
      s.provider.suspended = [] ∧ s.provider.has "h:1" = false ∧ ¬s.Told fun _ => true := by
  obtain ⟨s, hrun, hs⟩ := Lts.exists_run_of_play (f := next fun _ => true)
    (G := fun _ _ => True) (new 1)
    [.poll [⟨"h:1", "device"⟩], .resume 0, .go (.registered 0), .go (.spawned 0), .go (.ready 0),
      .check "h:1", .checkFailed, .check "h:1", .checkFailed, .check "h:1", .checkFailed, .resume 0,
      .reconnected 0 (some "device")]
    (fun s => decide (s.view "h:1" = some ("device", false) ∧
      replay s.events "h:1" = some ("device", true) ∧ s.provider.suspended = [] ∧
      s.provider.has "h:1" = false)) (by decide +kernel)
  obtain ⟨hview, hreplay, hsuspended, hprocess⟩ := of_decide_eq_true hs
  refine ⟨_, s, hrun.of_restrict, hview, hreplay, hsuspended, hprocess, fun htold => ?_⟩
  rw [htold.1, hview] at hreplay
  cases hreplay

end ADBObserver

end DeviceHub

import DeviceHub.Ui.Throttle
import Mathlib.Logic.Function.Basic

/-!
# `store/device-list-store.ts`

The table of the devices.  A change of a device is put into a batch, which is merged into the rows
of the table by a throttled method.  The batch has one change for each serial: the last one.  The
list of the rows itself is loaded, and may be read before changes that have arrived already, or
after changes that are still on their way.

## Main definitions

* `DeviceRow`, `ChangedData` : a row, and the fields of a device that have changed.
* `DeviceListStore`, `DeviceListStore.onDeviceChange`, `DeviceListStore.flushUpdates` : the store.
* `ListedDevices`, `ListedDevices.system` : the store, the changes of the devices and how many of
  them have arrived; what can happen.
* `ListedDevices.Shows` : the rows, with the batch and the changes on their way, are the devices as
  they are.
* `ListedDevices.Covers` : the condition on the changes and on the lists that are loaded.

## Main results

* `ListedDevices.shows_iff` : no change is lost in exactly the runs that meet the condition.
* `ListedDevices.data_of_quiet` : the table is up to date when nothing has changed for a while.
-/

namespace DeviceHub

/-- A row of the table. -/
structure DeviceRow (V : Type) where
  serial : String
  fields : String → Option V

/-- `Partial<Device>` -/
structure ChangedData (V : Type) where
  serial : Option String
  fields : String → Option V

/-- `{ ...item, ...updateData }` -/
def DeviceRow.assign {V : Type} (row : DeviceRow V) (updateData : ChangedData V) : DeviceRow V :=
  { row with fields := fun f => (updateData.fields f).or (row.fields f) }

/-- The serial, unless it is falsy. -/
def ChangedData.serial? {V : Type} (changedData : ChangedData V) : Option String :=
  changedData.serial.filter (· ≠ "")

/-! ### The last value of a field -/

section LastValue

variable {V : Type}

/-- What a change gives a field of a device. -/
def ChangedData.value (changedData : ChangedData V) (serial f : String) : Option V :=
  if changedData.serial? = some serial then changedData.fields f else none

/-- What the last of the changes that has the field of the device gives it. -/
def lastValue : List (ChangedData V) → String → String → Option V
  | [], _, _ => none
  | changedData :: changes, serial, f =>
    (lastValue changes serial f).or (changedData.value serial f)

variable {changes later : List (ChangedData V)} {changedData : ChangedData V} {serial f : String}

theorem lastValue_append : lastValue (changes ++ later) serial f =
    (lastValue later serial f).or (lastValue changes serial f) := by
  induction changes with
  | nil => exact (Option.or_none).symm
  | cons changedData changes ih =>
    rw [List.cons_append, lastValue, ih, Option.or_assoc, lastValue]

theorem lastValue_singleton : lastValue [changedData] serial f = changedData.value serial f :=
  Option.none_or

/-- A value that comes before another one makes a difference unless something later hides it, or
it is the other one. -/
theorem or_or_eq_iff {later last old first : Option V} :
    later.or (last.or first) = later.or (last.or (old.or first)) ↔
      ∀ v, old = some v → later.isSome ∨ last.isSome ∨ first = some v := by
  cases later <;> cases last <;> cases old <;> simp

end LastValue

/-! ### The store -/

/-- The store, with the data of the query. -/
structure DeviceListStore (V : Type) where
  batchedUpdates : String → Option (ChangedData V) := fun _ => none
  data : Option (List (DeviceRow V)) := none

namespace DeviceListStore

variable {V : Type}

section Model

/-- What `flushUpdates` makes of a row. -/
def merge (s : DeviceListStore V) (item : DeviceRow V) : DeviceRow V :=
  (s.batchedUpdates item.serial).elim item item.assign

/-- The batch is merged into the rows. -/
def flushUpdates (s : DeviceListStore V) : DeviceListStore V where
  data := some (s.data.elim [] fun oldData => oldData.map s.merge)
  batchedUpdates := fun _ => none

/-- A change is put into the batch; the throttled method is called afterwards. -/
def onDeviceChange (s : DeviceListStore V) (changedData : ChangedData V) : DeviceListStore V :=
  { s with
    batchedUpdates := changedData.serial?.elim s.batchedUpdates fun serial =>
      Function.update s.batchedUpdates serial (some changedData) }

/-- `throttleDelay` -/
def throttleDelay : ℕ := 250

/-- What the batch gives a field of a device. -/
def batched (s : DeviceListStore V) (serial f : String) : Option V :=
  (s.batchedUpdates serial).bind (·.fields f)

end Model

variable {s : DeviceListStore V} {changedData : ChangedData V} {row : DeviceRow V}
  {serial f : String}

theorem fields_merge : (s.merge row).fields f = (s.batched row.serial f).or (row.fields f) := by
  unfold merge batched
  cases s.batchedUpdates row.serial <;> rfl

theorem serial_merge : (s.merge row).serial = row.serial := by
  unfold merge
  cases s.batchedUpdates row.serial <;> rfl

theorem batched_of_empty (h : ∀ serial, s.batchedUpdates serial = none) :
    s.batched serial f = none := by
  unfold batched
  rw [h]
  rfl

theorem batched_onDeviceChange : (s.onDeviceChange changedData).batched serial f =
    if changedData.serial? = some serial then changedData.fields f else s.batched serial f := by
  unfold batched onDeviceChange
  cases changedData.serial? with
  | none => rw [if_neg nofun, Option.elim_none]
  | some changed =>
    rw [Option.elim_some]
    dsimp only
    rw [Function.update_apply]
    by_cases h : serial = changed
    · rw [if_pos h, if_pos (congrArg some h.symm), Option.bind_some]
    · rw [if_neg h, if_neg fun heq => h (Option.some.inj heq).symm]

end DeviceListStore

/-! ### The devices -/

/-- The store, the changes of the devices in their order, and how many of them have arrived. -/
structure ListedDevices (V : Type) where
  store : DeviceListStore V := {}
  changes : List (ChangedData V) := []
  arrived : ℕ := 0

namespace ListedDevices

open DeviceListStore (throttleDelay)

variable {V : Type}

section Model

/-- The changes that the store has not been told. -/
def onTheWay (s : ListedDevices V) : List (ChangedData V) := s.changes.drop s.arrived

variable (devices : String → String → Option V)

/-- A field of a device that was as `devices` says before the changes. -/
def field (changes : List (ChangedData V)) (serial f : String) : Option V :=
  (lastValue changes serial f).or (devices serial f)

/-- The row of a device after the changes. -/
def row (changes : List (ChangedData V)) (serial : String) : DeviceRow V :=
  ⟨serial, field devices changes serial⟩

/-- What can happen: a device changes and a message is sent to the client; the next message
arrives; a list of devices is loaded that was read after the first `version` changes. -/
inductive Told (V : Type) where
  | changed (changedData : ChangedData V)
  | change
  | loaded (version : ℕ) (serials : List String)

/-- A change has arrived. -/
def onDeviceChange (s : ListedDevices V) (changedData : ChangedData V) : ListedDevices V :=
  { s with store := s.store.onDeviceChange changedData, arrived := s.arrived + 1 }

/-- What it does, and whether the throttled method is called. -/
def handle : Told V → ListedDevices V → ListedDevices V × Option Unit
  | .changed changedData, s => ({ s with changes := s.changes ++ [changedData] }, none)
  | .change, s =>
    (s.changes[s.arrived]?).elim (s, none) fun changedData =>
      (s.onDeviceChange changedData, some ())
  | .loaded version serials, s =>
    let rows := serials.map (row devices (s.changes.take version))
    ({ s with store := { s.store with data := some rows } }, none)

/-- The throttled method. -/
def flushUpdates (s : ListedDevices V) : ListedDevices V :=
  { s with store := s.store.flushUpdates }

/-- The runs of the store while the devices change. -/
def system : Lts (Throttled (ListedDevices V) Unit) (Throttled.Event (Told V)) :=
  Throttled.system throttleDelay (fun _ => flushUpdates) (handle devices)

/-- **No change is lost**: with the batch and then the changes on their way the rows are the devices
as they are. -/
def Shows (s : ListedDevices V) : Prop :=
  ∀ data ∈ s.store.data, ∀ item ∈ data, ∀ f,
    (lastValue s.onTheWay item.serial f).or ((s.store.merge item).fields f) =
      field devices s.changes item.serial f

/-- The condition.  When a change takes the place of another one in the batch, each field of the
other is in the change or in one on its way, unless the row has it already.  When a list is loaded,
each field that has changed since it was read is in the batch or in a change on its way, unless the
list has it already. -/
def Covers (s : ListedDevices V) : Throttled.Event (Told V) → Prop
  | .told .change => ∀ changedData ∈ s.changes[s.arrived]?, ∀ data ∈ s.store.data, ∀ item ∈ data,
      changedData.serial? = some item.serial → ∀ f v, s.store.batched item.serial f = some v →
        (lastValue (s.changes.drop (s.arrived + 1)) item.serial f).isSome ∨
          (changedData.fields f).isSome ∨ item.fields f = some v
  | .told (.loaded version serials) => ∀ serial ∈ serials, ∀ f v,
      lastValue (s.changes.drop version) serial f = some v →
        (lastValue s.onTheWay serial f).isSome ∨ (s.store.batched serial f).isSome ∨
          field devices (s.changes.take version) serial f = some v
  | _ => True

end Model

/-- What is true of every run: the batch has values that the changes have given, and it is empty
when the timer is not armed. -/
structure Known (view : ListedDevices V × Option Unit) : Prop where
  arrived_le : view.1.arrived ≤ view.1.changes.length
  batched : ∀ serial f v, view.1.store.batched serial f = some v →
    lastValue (view.1.changes.take view.1.arrived) serial f = some v
  empty : view.2 = none → ∀ serial, view.1.store.batchedUpdates serial = none

variable {devices : String → String → Option V} {s : ListedDevices V}
  {changedData : ChangedData V} {serial f : String}

theorem field_append {changes later : List (ChangedData V)} :
    field devices (changes ++ later) serial f =
      (lastValue later serial f).or (field devices changes serial f) := by
  simp only [field, lastValue_append, Option.or_assoc]

theorem field_take (changes : List (ChangedData V)) (n : ℕ) : field devices changes serial f =
    (lastValue (changes.drop n) serial f).or (field devices (changes.take n) serial f) := by
  rw [← field_append, List.take_append_drop]

/-! ### The steps -/

theorem handle_change (harriving : s.changes[s.arrived]? = some changedData) :
    handle devices .change s = (s.onDeviceChange changedData, some ()) := by
  unfold handle
  dsimp only
  rw [harriving, Option.elim_some]

theorem handle_change_of_none (harriving : s.changes[s.arrived]? = none) :
    handle devices .change s = (s, none) := by
  unfold handle
  dsimp only
  rw [harriving, Option.elim_none]

theorem change_of_called {e : Told V} {args : Unit} (h : (handle devices e s).2 = some args) :
    e = .change ∧ ∃ changedData, s.changes[s.arrived]? = some changedData ∧
      (handle devices e s).1 = s.onDeviceChange changedData := by
  cases e with
  | changed changedData => cases h
  | loaded version serials => cases h
  | change =>
    cases harriving : s.changes[s.arrived]? with
    | none =>
      rw [handle_change_of_none harriving] at h
      cases h
    | some changedData =>
      exact ⟨rfl, changedData, rfl, congrArg Prod.fst (handle_change harriving)⟩

theorem arriving_of_silent (h : (handle devices .change s).2 = none) :
    s.changes[s.arrived]? = none := by
  cases harriving : s.changes[s.arrived]? with
  | none => rfl
  | some changedData =>
    rw [handle_change harriving] at h
    cases h

theorem known_new : Known (({}, none) : ListedDevices V × Option Unit) where
  arrived_le := Nat.le_refl _
  batched _ _ _ h := absurd h nofun
  empty _ _ := rfl

theorem Known.changed {p : Option Unit} (h : Known (s, p)) :
    Known ({ s with changes := s.changes ++ [changedData] }, p) where
  arrived_le := by
    have hle := h.arrived_le
    simp only [List.length_append, List.length_singleton]
    exact Nat.le_add_right_of_le hle
  batched serial f v hbatched := by
    rw [List.take_append_of_le_length h.arrived_le]
    exact h.batched serial f v hbatched
  empty := h.empty

theorem Shows.changed (h : s.Shows devices) (hle : s.arrived ≤ s.changes.length) :
    ({ s with changes := s.changes ++ [changedData] } : ListedDevices V).Shows devices := by
  intro data hdata item hitem f
  have hshows := h data hdata item hitem f
  rw [field_append, ← hshows, onTheWay, List.drop_append_of_le_length hle, lastValue_append,
    Option.or_assoc]
  rfl

/-- A change arrives; it is the last one that has. -/
theorem Known.change {p : Option Unit} (h : Known (s, p))
    (harriving : s.changes[s.arrived]? = some changedData) (args : Unit) :
    Known (s.onDeviceChange changedData, some args) where
  arrived_le := (List.getElem?_eq_some_iff.1 harriving).1
  batched serial f v hbatched := by
    unfold onDeviceChange at hbatched ⊢
    dsimp only at hbatched ⊢
    rw [List.take_add_one, harriving, Option.toList_some, lastValue_append, lastValue_singleton,
      ChangedData.value]
    rw [DeviceListStore.batched_onDeviceChange] at hbatched
    by_cases hserial : changedData.serial? = some serial
    · rw [if_pos hserial] at hbatched ⊢
      rw [hbatched]
      rfl
    · rw [if_neg hserial] at hbatched ⊢
      exact h.batched serial f v hbatched
  empty := nofun

theorem lastValue_onTheWay (harriving : s.changes[s.arrived]? = some changedData) :
    lastValue s.onTheWay serial f =
      (lastValue (s.changes.drop (s.arrived + 1)) serial f).or (changedData.value serial f) := by
  obtain ⟨hlt, rfl⟩ := List.getElem?_eq_some_iff.1 harriving
  rw [onTheWay, List.drop_eq_getElem_cons hlt, lastValue]

theorem Shows.change_iff (h : s.Shows devices)
    (harriving : s.changes[s.arrived]? = some changedData) :
    (s.onDeviceChange changedData).Shows devices ↔ s.Covers devices (.told .change) := by
  simp only [Covers, harriving, Option.mem_def, Option.some.injEq, forall_eq']
  refine forall₂_congr fun data hdata => forall₂_congr fun item hitem => ?_
  have hbefore := h data hdata item hitem
  simp only [DeviceListStore.fields_merge, lastValue_onTheWay harriving, ChangedData.value,
    Option.or_assoc] at hbefore
  simp only [onDeviceChange, DeviceListStore.fields_merge, DeviceListStore.batched_onDeviceChange,
    onTheWay, ← hbefore]
  by_cases hserial : changedData.serial? = some item.serial
  · simp only [hserial, if_true, or_or_eq_iff, forall_const]
  · simp only [hserial, if_false, Option.none_or, false_imp_iff, implies_true]

theorem Known.loaded {p : Option Unit} (h : Known (s, p)) (rows : List (DeviceRow V)) :
    Known ({ s with store := { s.store with data := some rows } }, p) :=
  ⟨h.arrived_le, h.batched, h.empty⟩

/-- A list that is loaded keeps to it when what has changed since it was read is made up for. -/
theorem shows_loaded_iff {p : Option Unit} (h : Known (s, p)) {version : ℕ}
    {serials : List String} :
    (handle devices (.loaded version serials) s).1.Shows devices ↔
      s.Covers devices (.told (.loaded version serials)) := by
  simp only [handle, Shows, Covers, Option.mem_def, Option.some.injEq, forall_eq', List.mem_map,
    forall_exists_index, and_imp, forall_apply_eq_imp_iff₂, DeviceListStore.fields_merge, row]
  refine forall₂_congr fun serial _ => forall_congr' fun f => ?_
  show (lastValue s.onTheWay serial f).or ((s.store.batched serial f).or
      (field devices (s.changes.take version) serial f)) = field devices s.changes serial f ↔ _
  cases hbatched : s.store.batched serial f with
  | some v =>
    -- the batch has the last value that has arrived
    have harrived := h.batched serial f v hbatched
    rw [field_take s.changes s.arrived, field, field, harrived]
    exact iff_of_true rfl fun _ _ => .inr (.inl rfl)
  | none =>
    cases hway : lastValue s.onTheWay serial f with
    | some v =>
      rw [field_take s.changes s.arrived, ← onTheWay, hway]
      exact iff_of_true rfl fun _ _ => .inl rfl
    | none =>
      rw [field_take s.changes version]
      cases lastValue (s.changes.drop version) serial f <;> simp

/-! ### Runs -/

theorem Shows.flushUpdates (h : s.Shows devices) : s.flushUpdates.Shows devices := by
  rintro _ ⟨⟩ item hitem f
  cases hdata : s.store.data with
  | none =>
    rw [hdata] at hitem
    exact absurd hitem List.not_mem_nil
  | some data =>
    rw [hdata] at hitem
    obtain ⟨item, hmem, rfl⟩ := List.mem_map.1 hitem
    have hshows := h data hdata item hmem f
    unfold ListedDevices.flushUpdates
    rw [DeviceListStore.serial_merge, DeviceListStore.fields_merge,
      DeviceListStore.batched_of_empty fun _ => rfl, Option.none_or]
    exact hshows

theorem Known.flushUpdates {p : Option Unit} (h : Known (s, p)) : Known (s.flushUpdates, none) where
  arrived_le := h.arrived_le
  batched _ _ _ hbatched := absurd hbatched nofun
  empty _ _ := rfl

theorem known_moves {view view' : ListedDevices V × Option Unit} {e : Throttled.Event (Told V)}
    (h : Known view)
    (hmoves : Throttled.Moves (fun _ => ListedDevices.flushUpdates) (handle devices) view e view') :
    Known view' := by
  cases hmoves with
  | tick => exact h
  | timer => exact h.flushUpdates
  | silent s p e hsilent =>
    cases e with
    | changed changedData => exact h.changed
    | loaded version serials => exact h.loaded _
    | change =>
      rw [handle_change_of_none (arriving_of_silent hsilent)]
      exact h
  | call s e args hargs =>
    obtain ⟨rfl, changedData, harriving, heq⟩ := change_of_called hargs
    rw [heq]
    exact (h.change harriving args).flushUpdates
  | arm s p e args hargs =>
    obtain ⟨rfl, changedData, harriving, heq⟩ := change_of_called hargs
    rw [heq]
    exact h.change harriving args

/-- What an event does to the rows, the batch and the changes on their way. -/
theorem shows_moves_iff {view view' : ListedDevices V × Option Unit}
    {e : Throttled.Event (Told V)} (hknown : Known view) (h : view.1.Shows devices)
    (hmoves : Throttled.Moves (fun _ => ListedDevices.flushUpdates) (handle devices) view e view') :
    view'.1.Shows devices ↔ view.1.Covers devices e := by
  cases hmoves with
  | tick => exact iff_of_true h trivial
  | timer => exact iff_of_true h.flushUpdates trivial
  | silent s p e hsilent =>
    cases e with
    | changed changedData => exact iff_of_true (h.changed hknown.arrived_le) trivial
    | loaded version serials => exact shows_loaded_iff hknown
    | change =>
      have harriving := arriving_of_silent hsilent
      rw [handle_change_of_none harriving]
      exact iff_of_true h fun _ hmem => absurd (harriving.symm.trans hmem) nofun
  | call s e args hargs =>
    obtain ⟨rfl, changedData, harriving, heq⟩ := change_of_called hargs
    have hcovers : s.Covers devices (.told .change) := fun _ _ _ _ _ _ _ f v hold =>
      absurd ((DeviceListStore.batched_of_empty (hknown.empty rfl)).symm.trans hold) nofun
    rw [heq]
    exact iff_of_true ((h.change_iff harriving).2 hcovers).flushUpdates hcovers
  | arm s p e args hargs =>
    obtain ⟨rfl, changedData, harriving, heq⟩ := change_of_called hargs
    rw [heq]
    exact h.change_iff harriving

/-- What is true of every run. -/
def Sound (o : Throttled (ListedDevices V) Unit) : Prop :=
  o.Sound throttleDelay ∧ Known o.view

theorem sound_new : Sound (⟨{}, {}, 0, []⟩ : Throttled (ListedDevices V) Unit) :=
  ⟨Throttled.sound_new _, known_new⟩

theorem Sound.next {o o' : Throttled (ListedDevices V) Unit} {e : Throttled.Event (Told V)}
    (h : Sound o) (hstep : (system devices).step o e o') : Sound o' :=
  have hnext := h.1.next hstep
  ⟨hnext.1, known_moves h.2 hnext.2⟩

theorem shows_new : ({} : ListedDevices V).Shows devices := fun _ h => absurd h nofun

/-- **No change is lost** in exactly the runs in which each change that takes the place of another
one in the batch makes up for it, and each list that is loaded makes up for the changes since it was
read. -/
theorem shows_iff {o : Throttled (ListedDevices V) Unit}
    {events : List (Throttled.Event (Told V))} :
    (system devices).Along (fun o => o.state.Shows devices) ⟨{}, {}, 0, []⟩ events o ↔
      ((system devices).restrict fun o e => o.state.Covers devices e).Run ⟨{}, {}, 0, []⟩ events
        o :=
  Lts.along_iff_restrict (I := Sound) (fun _ _ _ h hstep => h.next hstep)
    (fun _ _ _ h hshows hstep => shows_moves_iff h.2 hshows (h.1.next hstep).2)
    sound_new shows_new

theorem restrict_of_quiet {o o' : Throttled (ListedDevices V) Unit}
    {events : List (Throttled.Event (Told V))} (hquiet : ∀ e ∈ events, ∀ x, e ≠ .told x)
    (hrun : (system devices).Run o events o') :
    ((system devices).restrict fun o e => o.state.Covers devices e).Run o events o' := by
  induction hrun with
  | done o => exact .done o
  | @more o t o' e events hstep _ ih =>
    refine .more ⟨hstep, ?_⟩ (ih fun e' he' => hquiet e' (.tail _ he'))
    cases e with
    | tick d => trivial
    | timer => trivial
    | told x => exact absurd rfl (hquiet _ (.head _) x)

/-- A change of the one field `x` of the device `a`. -/
def sampleChange (n : ℕ) : ChangedData ℕ := ⟨some "a", fun f => if f = "x" then some n else none⟩

/-- The device before. -/
def sampleDevices (_ f : String) : Option ℕ := if f = "x" then some 0 else none

/-- Of three changes the first is shown at once, and the third takes the place of the second. -/
theorem run_sampleChanges :
    ∃ o o', ((system sampleDevices).restrict fun o e => o.state.Covers sampleDevices e).Run
        ⟨{}, {}, 0, []⟩
        [.told (.loaded 0 ["a"]), .told (.changed (sampleChange 1)), .told .change,
          .told (.changed (sampleChange 2)), .told .change, .tick 10,
          .told (.changed (sampleChange 3)), .told .change] o ∧
      (system sampleDevices).Run o [.tick 250, .timer] o' ∧ o.now + throttleDelay ≤ o'.now ∧
      o'.Idle ∧ o'.state.arrived = o'.state.changes.length ∧
      o'.state.changes = [sampleChange 1, sampleChange 2, sampleChange 3] ∧
      o'.state.store.data.map (fun data => data.map DeviceRow.serial) = some ["a"] := by
  refine ⟨_, _, .more ⟨rfl, fun _ _ _ _ h => absurd h nofun⟩ (.more ⟨rfl, trivial⟩
    (.more ⟨rfl, fun _ _ _ _ _ _ _ _ _ h => absurd h nofun⟩ (.more ⟨rfl, trivial⟩
    (.more ⟨rfl, fun _ _ _ _ _ _ _ _ _ h => absurd h nofun⟩ (.more ⟨rfl, trivial⟩
    (.more ⟨rfl, trivial⟩ (.more ⟨rfl, ?_⟩ (.done _)))))))), .more rfl (.more rfl (.done _)),
    by decide, fun _ h => absurd h nofun, rfl, rfl, rfl⟩
  rintro _ ⟨⟩ data _ item _ hserial f v hold
  have hitem : "a" = item.serial := Option.some.inj hserial
  rw [← hitem] at hold
  have hvalue : (sampleChange 2).fields f = some v := hold
  obtain ⟨hf, -⟩ := Option.ite_none_right_eq_some.1 hvalue
  exact .inr (.inl (by simp [sampleChange, hf]))

end ListedDevices

end DeviceHub

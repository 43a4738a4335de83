import DeviceHub.Api.Groups
import DeviceHub.Db.Sample

/-!
# The automatic selection of devices

Without serials and without an amount `addGroupDevices` takes the devices of the subscribed groups.
One pass over these groups collects the devices to leave out and emits the others, so that a device
is judged by the first group that lists it.

## Main definitions

* `SeenBusy` : the test of the pass, on the first windows.
* `Taken` : another subscribed booking of the device overlaps the group.
* `SelectsAvailable` : in whatever order the groups come, the devices that are not taken are
  selected.

## Main results

* `mem_selectDevices` : what one pass selects.
* `selectsAvailable_iff` : the pass is right when the test on each group that lists a device agrees
  with whether the device is taken.
-/

namespace DeviceHub

open apiutil lodash groups

/-- The pass takes the group `g` for one whose devices are busy. -/
def SeenBusy (group g : Group) : Prop :=
  g.Transient ∧ ∃ w ∈ g.dates.head?, ∃ t ∈ group.dates.head?,
    (w.start < t.start ∧ w.stop > t.start) ∨ (w.start > t.start ∧ w.start < t.stop)

instance (group g : Group) : Decidable (SeenBusy group g) :=
  inferInstanceAs (Decidable (_ ∧ ∃ w ∈ g.dates.head?, ∃ t ∈ group.dates.head?, _))

/-- The first windows that the test reads are there. -/
def Dated (group g : Group) : Prop :=
  g.devices = [] ∨ ¬ g.Transient ∨ g.dates ≠ [] ∧ group.dates ≠ []

instance (group g : Group) : Decidable (Dated group g) :=
  inferInstanceAs (Decidable (_ ∨ _ ∨ _))

/-- One of the windows of `g` overlaps one of the group. -/
def Overlapping (group g : Group) : Prop :=
  ∃ w ∈ g.dates, ∃ t ∈ group.dates, GroupModel.overlaps w t = true

instance (group g : Group) : Decidable (Overlapping group g) :=
  inferInstanceAs (Decidable (∃ w ∈ g.dates, ∃ t ∈ group.dates, _))

/-- Another booking of the device among the subscribed groups overlaps the group. -/
def Taken (group : Group) (groups : List Group) (serial : String) : Prop :=
  ∃ g ∈ groups, g.id ≠ group.id ∧ g.Transient ∧ serial ∈ g.devices ∧ Overlapping group g

instance (group : Group) (groups : List Group) (serial : String) :
    Decidable (Taken group groups serial) :=
  inferInstanceAs (Decidable (∃ g ∈ groups, _))

/-- The devices to select: those of the subscribed groups that the group does not have and that are
not taken. -/
def Available (group : Group) (groups : List Group) (serial : String) : Prop :=
  serial ∉ group.devices ∧ (∃ g ∈ groups, serial ∈ g.devices) ∧ ¬ Taken group groups serial

/-- **Whatever the order in which the groups come**, the devices that are available are selected. -/
def SelectsAvailable (group : Group) (groups : List Group) : Prop :=
  ∀ groups', groups'.Perm groups → ∃ serials, selectDevices group [] groups' = .ok serials ∧
    ∀ serial, serial ∈ serials ↔ Available group groups serial

/-! ### One pass -/

/-- The first group that lists the device. -/
def firstListing (groups : List Group) (serial : String) : Option Group :=
  groups.find? fun g => serial ∈ g.devices

section Pass

variable {group g : Group} {groups : List Group} {exclude serials : List String} {serial : String}

theorem firstListing_cons (g : Group) (groups : List Group) (serial : String) :
    firstListing (g :: groups) serial =
      if serial ∈ g.devices then some g else firstListing groups serial := by
  simp only [firstListing, List.find?_cons]
  split <;> simp_all

/-- What a group that is kept contributes to the pass. -/
theorem selectDevices_kept (hdevices : g.devices ≠ []) (hdated : Dated group g)
    (hfree : ¬ SeenBusy group g) : selectDevices group exclude (g :: groups) =
      (selectDevices group exclude groups).map fun rest =>
        (g.devices.filter fun serial => serial ∉ group.devices && serial ∉ exclude) ++ rest := by
  rw [selectDevices, if_neg hdevices]
  split
  · rfl
  rename_i horigin
  have ht : g.Transient := by simpa [Group.Transient] using horigin
  rcases hdated with hdevices' | ht' | ⟨hg, hgroup⟩
  · exact absurd hdevices' hdevices
  · exact absurd ht ht'
  obtain ⟨w, ws, hw⟩ := List.exists_cons_of_ne_nil hg
  obtain ⟨t, ts, htime⟩ := List.exists_cons_of_ne_nil hgroup
  simp only [SeenBusy, ht, hw, htime, true_and, List.head?_cons, Option.mem_some_iff,
    exists_eq_left'] at hfree
  rw [hw, htime]
  exact if_neg hfree

theorem selectDevices_busy (hdevices : g.devices ≠ []) (hbusy : SeenBusy group g) :
    selectDevices group exclude (g :: groups) =
      selectDevices group (union exclude g.devices) groups := by
  obtain ⟨ht, w, hw, t, htime, htest⟩ := hbusy
  obtain ⟨ws, hw⟩ := List.head?_eq_some_iff.1 hw
  obtain ⟨ts, htime⟩ := List.head?_eq_some_iff.1 htime
  have horigin : ¬ isOriginGroup g.class_ = true := by simpa [Group.Transient] using ht
  rw [selectDevices, if_neg hdevices]
  dsimp only
  rw [if_neg horigin, hw, htime]
  exact if_pos htest

/-- **One pass selects a device by the first group that lists it.** -/
theorem mem_selectDevices (hdated : ∀ g ∈ groups, Dated group g) :
    ∃ serials, selectDevices group exclude groups = .ok serials ∧ ∀ serial, serial ∈ serials ↔
      serial ∉ group.devices ∧ serial ∉ exclude ∧
        ∃ g ∈ firstListing groups serial, ¬ SeenBusy group g := by
  induction groups generalizing exclude with
  | nil => exact ⟨[], rfl, by simp [firstListing]⟩
  | cons g groups ih =>
    obtain ⟨hg, hgroups⟩ := List.forall_mem_cons.1 hdated
    by_cases hdevices : g.devices = []
    · obtain ⟨serials, hrest, hmem⟩ := @ih exclude hgroups
      refine ⟨serials, by rw [selectDevices, if_pos hdevices, hrest], fun serial => ?_⟩
      simp [hmem, firstListing_cons, hdevices]
    by_cases hbusy : SeenBusy group g
    · obtain ⟨serials, hrest, hmem⟩ := @ih (union exclude g.devices) hgroups
      refine ⟨serials, by rw [selectDevices_busy hdevices hbusy, hrest], fun serial => ?_⟩
      rw [hmem, firstListing_cons]
      by_cases hlisted : serial ∈ g.devices <;> simp [hlisted, hbusy]
    · obtain ⟨serials, hrest, hmem⟩ := @ih exclude hgroups
      refine ⟨_, by rw [selectDevices_kept hdevices hg hbusy, hrest]; rfl, fun serial => ?_⟩
      rw [List.mem_append, hmem, firstListing_cons]
      by_cases hlisted : serial ∈ g.devices <;> simp [hlisted, hbusy]
      tauto

/-- A pass that does not throw has found the windows that it reads. -/
theorem dated_of_selectDevices (h : selectDevices group exclude groups = .ok serials) :
    ∀ g ∈ groups, Dated group g := by
  induction groups generalizing exclude serials with
  | nil => simp
  | cons g groups ih =>
    by_cases hdevices : g.devices = []
    · rw [selectDevices, if_pos hdevices] at h
      exact List.forall_mem_cons.2 ⟨.inl hdevices, ih h⟩
    by_cases hg : Dated group g
    · refine List.forall_mem_cons.2 ⟨hg, ?_⟩
      by_cases hbusy : SeenBusy group g
      · rw [selectDevices_busy hdevices hbusy] at h
        exact ih h
      · rw [selectDevices_kept hdevices hg hbusy] at h
        cases hrest : selectDevices group exclude groups with
        | error e =>
          rw [hrest] at h
          cases h
        | ok rest => exact ih hrest
    · simp only [Dated, not_or, not_and_or, Decidable.not_not] at hg
      obtain ⟨-, ht, hnil⟩ := hg
      have horigin : ¬ isOriginGroup g.class_ = true := by simpa [Group.Transient] using ht
      rw [selectDevices, if_neg hdevices] at h
      dsimp only at h
      rw [if_neg horigin] at h
      rcases hnil with hnil | hnil
      · rw [hnil] at h
        cases h
      · rw [hnil] at h
        split at h
        · rename_i hcons
          cases hcons
        · cases h

end Pass

/-! ### Every order of the groups -/

theorem firstListing_eq_some {groups : List Group} {serial : String} {g : Group}
    (h : firstListing groups serial = some g) : g ∈ groups ∧ serial ∈ g.devices :=
  ⟨List.mem_of_find?_eq_some h, by simpa using List.find?_some h⟩

theorem exists_firstListing {groups : List Group} {serial : String} {g : Group} (hg : g ∈ groups)
    (hserial : serial ∈ g.devices) : ∃ g', firstListing groups serial = some g' := by
  refine Option.isSome_iff_exists.1 (List.find?_isSome.2 ⟨g, hg, ?_⟩)
  simpa using hserial

/-- **The devices that are available are selected** in every order of the groups exactly when each
group that lists a device is seen as busy if and only if the device is taken. -/
theorem selectsAvailable_iff (group : Group) (groups : List Group) :
    SelectsAvailable group groups ↔ (∀ g ∈ groups, Dated group g) ∧ ∀ g ∈ groups,
      ∀ serial ∈ g.devices, serial ∉ group.devices →
        (SeenBusy group g ↔ Taken group groups serial) := by
  constructor
  · intro h
    have hdated : ∀ g ∈ groups, Dated group g := by
      obtain ⟨serials, hselect, -⟩ := h groups (List.Perm.refl _)
      exact dated_of_selectDevices hselect
    refine ⟨hdated, fun g hg serial hserial hout => ?_⟩
    -- the group comes first in one of the orders
    have hperm : (g :: groups.erase g).Perm groups := (List.perm_cons_erase hg).symm
    obtain ⟨serials, hselect, havailable⟩ := h _ hperm
    have hdated' : ∀ g' ∈ g :: groups.erase g, Dated group g' :=
      fun g' hg' => hdated g' (hperm.mem_iff.1 hg')
    obtain ⟨serials', hselect', hmem⟩ := @mem_selectDevices group _ [] hdated'
    obtain rfl := Except.ok.inj (hselect.symm.trans hselect')
    have hiff := (havailable serial).symm.trans (hmem serial)
    have hlisted : ∃ g ∈ groups, serial ∈ g.devices := ⟨g, hg, hserial⟩
    simp only [Available, hout, hlisted, firstListing_cons, if_pos hserial, not_false_eq_true,
      true_and, List.not_mem_nil, Option.mem_some_iff, exists_eq_left'] at hiff
    exact (not_iff_not.1 hiff).symm
  · rintro ⟨hdated, hagree⟩ groups' hperm
    have hdated' : ∀ g ∈ groups', Dated group g := fun g hg => hdated g (hperm.mem_iff.1 hg)
    obtain ⟨serials, hselect, hmem⟩ := @mem_selectDevices group _ [] hdated'
    refine ⟨serials, hselect, fun serial => (hmem serial).trans ?_⟩
    constructor
    · rintro ⟨hout, -, g, hfirst, hkept⟩
      obtain ⟨hg, hserial⟩ := firstListing_eq_some hfirst
      have hg' := hperm.mem_iff.1 hg
      exact ⟨hout, ⟨g, hg', hserial⟩, fun ht => hkept ((hagree g hg' serial hserial hout).2 ht)⟩
    · rintro ⟨hout, ⟨g, hg, hserial⟩, hfree⟩
      obtain ⟨g', hfirst⟩ := exists_firstListing (hperm.mem_iff.2 hg) hserial
      obtain ⟨hg', hserial'⟩ := firstListing_eq_some hfirst
      refine ⟨hout, List.not_mem_nil, g', hfirst, fun hbusy => hfree ?_⟩
      exact (hagree g' (hperm.mem_iff.1 hg') serial hserial' hout).1 hbusy

/-- The bookings `g`, which selects its devices, and `h`, which has the device `d` at that time. -/
def bookingG : Group := Sample.booking "g" "u" .once 0 [⟨0, 3600000⟩] 0 []

/-- A booking of the sample device. -/
def busyH : Group := Sample.booking "h" "u" .once 0 [⟨1800000, 5400000⟩] 3600000 ["d"]

/-- The group that the device `d` originates from. -/
def originD : Group := { Sample.root with devices := ["d"] }

/-- **The device `d` is booked**, and selected if the group that it originates from comes first. -/
theorem not_selectsAvailable_of_origin : selectDevices bookingG [] [originD, busyH] = .ok ["d"] ∧
    selectDevices bookingG [] [busyH, originD] = .ok [] ∧
      ¬ SelectsAvailable bookingG [originD, busyH] := by
  refine ⟨by decide, by decide, fun h => ?_⟩
  obtain ⟨serials, hselect, havailable⟩ := h _ (List.Perm.refl _)
  obtain rfl := Except.ok.inj ((show _ = Except.ok ["d"] by decide).symm.trans hselect)
  exact absurd (havailable "d") (by unfold Available; decide)

theorem not_seenBusy_of_start_eq {group g : Group} {w t : Window} (hw : g.dates.head? = some w)
    (ht : group.dates.head? = some t) (hstart : w.start = t.start) : ¬ SeenBusy group g := by
  rintro ⟨-, w', hw', t', ht', htest⟩
  obtain rfl := Option.some.inj (hw.symm.trans hw')
  obtain rfl := Option.some.inj (ht.symm.trans ht')
  omega

theorem exists_runs_addSelectedDevices {user : User} {now : Int} {sel : DeviceSelection}
    {group : Group} {db : Db} (hserials : sel.serials = none) (hamount : sel.amount = none)
    (h : SelectsAvailable group (db.groups.docs.filter fun g => g.id ∈ user.subscribed)) :
    ∃ serials, (∀ serial, serial ∈ serials ↔
        Available group (db.groups.docs.filter fun g => g.id ∈ user.subscribed) serial) ∧
      ∀ r db', (addSelectedDevices user now sel group).Runs DbOp.exec db r db' ↔
        (addDevicesToGroup user now (if sel.redirected then "device" else "devices")
          sel.isInternal group serials).Runs DbOp.exec db r db' := by
  obtain ⟨serials, hselect, havailable⟩ := h _ (List.Perm.refl _)
  refine ⟨serials, havailable, fun r db' => ?_⟩
  unfold addSelectedDevices GroupModel.getGroups
  rw [hserials, hamount]
  dsimp only
  rw [Prog.bind_eq, Db.runs_findGroups, hselect]

end DeviceHub

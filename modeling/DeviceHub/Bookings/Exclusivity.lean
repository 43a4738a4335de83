import DeviceHub.Bookings.Schedules
import Mathlib.Data.Fintype.Defs

/-!
# No device is booked twice

Requests look for the groups that are in their way and write afterwards.  `Undisturbed` is the
condition under which what a request has seen still decides about what it writes: its query, asked
again, would not find another booking than it found.

## Main definitions

* `Exclusive` : no two transient groups share a device while their windows overlap.
* `BookingRequest` : the requests that act on bookings.

## Main results

* `claim` : an undisturbed write is decided by what the request looked at.
* `exclusive_of_run` : in every run of requests whose steps are undisturbed no device is booked
  twice.
-/

namespace DeviceHub

open Prog Machine apiutil lodash GroupModel UserModel

/-! ### Bookings that are apart -/

theorem overlaps_comm (t c : Window) : overlaps t c = overlaps c t := Bool.and_comm _ _

theorem overlaps_mono {t t' c : Window} (h : overlaps t c = false) (hstart : t.start ≤ t'.start)
    (hstop : t'.stop ≤ t.stop) : overlaps t' c = false := by
  simp only [overlaps, Bool.and_eq_false_iff, decide_eq_false_iff_not] at h ⊢
  omega

/-- The two groups do not book a device for overlapping windows. -/
def Group.Apart (g g' : Group) : Prop :=
  g.Transient → g'.Transient → ∀ s ∈ g.devices, s ∈ g'.devices →
    ∀ t ∈ g.dates, ∀ c ∈ g'.dates, overlaps t c = false

instance (g g' : Group) : Decidable (g.Apart g') :=
  inferInstanceAs (Decidable (_ → _ → ∀ s ∈ g.devices, s ∈ g'.devices →
    ∀ t ∈ g.dates, ∀ c ∈ g'.dates, overlaps t c = false))

theorem Group.Apart.symm {g g' : Group} (h : g.Apart g') : g'.Apart g := by
  intro ht' ht s hs' hs t ht c hc
  rw [overlaps_comm]
  exact h ‹_› ht' s hs hs' c hc t ht

/-- What keeps a group apart from others: its slots. -/
structure Group.Slots where
  id : String
  class_ : GroupClass
  devices : List String
  dates : List Window
  deriving DecidableEq

/-- What the overlaps of a group are computed from. -/
def Group.slots (g : Group) : Group.Slots where
  id := g.id
  class_ := g.class_
  devices := g.devices
  dates := g.dates

theorem Group.Apart.shrink {g g' h : Group} (hapart : g.Apart g') (hclass : h.class_ = g.class_)
    (hdates : h.dates = g.dates) (hdevices : ∀ s ∈ h.devices, s ∈ g.devices) : h.Apart g' := by
  intro ht ht' s hs hs' t hmem c hc
  exact hapart (show isOriginGroup g.class_ = false from hclass ▸ ht) ht' s (hdevices s hs) hs' t
    (hdates ▸ hmem) c hc

/-- No two distinct groups book a device for overlapping windows. -/
def Exclusive (db : Db) : Prop :=
  ∀ g ∈ db.groups.docs, ∀ g' ∈ db.groups.docs, g.id ≠ g'.id → g.Apart g'

instance (db : Db) : Decidable (Exclusive db) :=
  inferInstanceAs (Decidable (∀ g ∈ db.groups.docs, ∀ g' ∈ db.groups.docs, _ → _))

namespace Exclusive

variable {db db' : Db}

theorem of_mem (h : Exclusive db) (hsub : ∀ g ∈ db'.groups.docs, g.devices = [] ∨
    ∃ g₀ ∈ db.groups.docs, g.id = g₀.id ∧ g.class_ = g₀.class_ ∧ g.dates = g₀.dates ∧
      ∀ s ∈ g.devices, s ∈ g₀.devices) : Exclusive db' := by
  intro g hg g' hg' hne
  rcases hsub g hg with hnil | ⟨g₀, hg₀, hid, hclass, hdates, hdevices⟩
  · intro _ _ s hs
    rw [hnil] at hs
    cases hs
  rcases hsub g' hg' with hnil | ⟨g₁, hg₁, hid', hclass', hdates', hdevices'⟩
  · intro _ _ s _ hs
    rw [hnil] at hs
    cases hs
  have happart := h g₀ hg₀ g₁ hg₁ (by rwa [← hid, ← hid'])
  exact ((happart.shrink hclass hdates hdevices).symm.shrink hclass' hdates' hdevices').symm

theorem update (h : Exclusive db) {id : String} {f : GroupChange}
    (hf : ∀ g ∈ db.groups.findOne id, ∀ g' ∈ db.groups.docs, g'.id ≠ id → (f.apply g).Apart g') :
    Exclusive (DbOp.exec (.groups (.update id f)) db).2 := by
  intro g hg g' hg' hne
  simp only [DbOp.exec, CollOp.exec] at hg hg'
  rcases Collection.mem_update.1 hg with ⟨hg, hid⟩ | ⟨g₀, hg₀, rfl⟩
  · rcases Collection.mem_update.1 hg' with ⟨hg', -⟩ | ⟨g₁, hg₁, rfl⟩
    · exact h g hg g' hg' hne
    · exact (hf g₁ hg₁ g hg hid).symm
  · rcases Collection.mem_update.1 hg' with ⟨hg', hid'⟩ | ⟨g₁, hg₁, rfl⟩
    · exact hf g₀ hg₀ g' hg' hid'
    · refine absurd ?_ hne
      obtain rfl := Option.some.inj (hg₀.symm.trans hg₁)
      rfl

end Exclusive

/-- The call books nothing. -/
def DbOp.Unclaiming : DbOp → Prop
  | .groups (.update _ f) => f.KeepsBooking
  | .groups (.updateMany _ _) => False
  | .groups (.insert g) => g.devices = []
  | _ => True

theorem DbOp.DeviceOnly.unclaiming {o : DbOp} (h : o.DeviceOnly) : o.Unclaiming := by
  obtain ⟨hg, -⟩ := h
  cases o with
  | groups o => cases o <;> trivial
  | users o => trivial
  | devices o => trivial

/-- A call that books nothing keeps the bookings apart. -/
theorem Exclusive.exec {db : Db} (h : Exclusive db) {o : DbOp} (ho : o.Unclaiming) :
    Exclusive (o.exec db).2 := by
  have hsame : ∀ g ∈ db.groups.docs, g.devices = [] ∨ ∃ g₀ ∈ db.groups.docs, g.id = g₀.id ∧
      g.class_ = g₀.class_ ∧ g.dates = g₀.dates ∧ ∀ s ∈ g.devices, s ∈ g₀.devices :=
    fun g hg => .inr ⟨g, hg, rfl, rfl, rfl, fun _ => id⟩
  cases o with
  | users o => exact h
  | devices o => exact h
  | groups o =>
    cases o with
    | findOne k => exact h
    | find q => exact h
    | update k f =>
      refine h.of_mem fun g hg => ?_
      rcases Collection.mem_update.1 hg with ⟨hg, -⟩ | ⟨g₀, hg₀, rfl⟩
      · exact hsame g hg
      · have hbook : (f.apply g₀).booking = g₀.booking := ho.booking_apply g₀
        obtain ⟨hid, -, hclass, hdevices, hdates, -⟩ := Group.Booking.mk.inj hbook
        exact .inr ⟨g₀, Collection.mem_of_findOne hg₀, hid, hclass, hdates,
          fun s hs => hdevices ▸ hs⟩
    | updateMany q f => exact ho.elim
    | insert g =>
      refine h.of_mem fun g' hg' => ?_
      by_cases hg : g.id ∈ db.groups.docs.map key
      · simp only [DbOp.exec, CollOp.exec, Collection.insert_of_mem hg] at hg'
        exact hsame g' hg'
      · simp only [DbOp.exec, CollOp.exec, Collection.docs_insert hg, List.mem_append,
          List.mem_singleton] at hg'
        rcases hg' with hg' | rfl
        · exact hsame g' hg'
        · exact .inl ho
    | delete k => exact h.of_mem fun g hg => hsame g (Collection.mem_delete.1 hg).1

namespace Bookings

/-! ### What a request knows -/

/-- A query for other groups and its answer. -/
structure Look where
  query : Group → Bool
  answer : List Group

/-- What a request remembers: the group it loaded first, and where it looked for conflicts. -/
structure Survey where
  own : Option Group
  looked : Option Look

/-- A request that has not looked at anything. -/
def Survey.start : Survey := ⟨none, none⟩

/-- The pool of requests on bookings. -/
def machine : Machine DbOp DbOp.Res Db Survey where
  exec := DbOp.exec
  log v o r :=
    match o, r with
    | .groups (.findOne _), r => { v with own := Option.or v.own r }
    | .groups (.find q), r =>
      if v.own.isSome then { v with looked := some ⟨q, r⟩ } else { v with own := List.head? r }
    | _, _ => v

@[simp] theorem machine_exec : machine.exec = DbOp.exec := rfl

@[simp] theorem machine_log_users (v : Survey) (o : CollOp User UserChange String) (r : o.Res) :
    machine.log v (.users o) r = v := rfl

@[simp] theorem machine_log_findOne (v : Survey) (id : String) (r : Option Group) :
    machine.log v (.groups (.findOne id)) r = { v with own := v.own.or r } := rfl

@[simp] theorem machine_log_find (v : Survey) (q : Group → Bool) (r : List Group) :
    machine.log v (.groups (.find q)) r =
      if v.own.isSome then { v with looked := some ⟨q, r⟩ } else { v with own := r.head? } := rfl

/-- The group has booked the device for the whole window already. -/
def Held (g : Group) (s : String) (t : Window) : Prop :=
  g.Transient ∧ s ∈ g.devices ∧ ∃ c ∈ g.dates, c.start ≤ t.start ∧ t.stop ≤ c.stop

/-- The request has loaded the group as it is stored. -/
def Survey.Owns (v : Survey) (g : Group) : Prop := ∃ r ∈ v.own, r.slots = g.slots

/-- The request has looked for other groups, and its query finds `g` only if it was found as it is
stored. -/
def Survey.Knows (v : Survey) (g : Group) : Prop :=
  ∃ l ∈ v.looked, l.query g = true → ∃ h ∈ l.answer, h.slots = g.slots

/-- The condition on a call of a request: what it books for its group beyond what that holds already
is about groups that are stored as the request has seen them. -/
def Undisturbed (v : Survey) : DbOp → Db → Prop
  | .groups (.update id f), db =>
    ∀ g ∈ db.groups.findOne id, ∀ g' ∈ db.groups.docs, g'.id ≠ id → (f.apply g).Transient →
      g'.Transient → ∀ s ∈ (f.apply g).devices, s ∈ g'.devices → ∀ t ∈ (f.apply g).dates,
        Held g s t ∨ v.Owns g ∧ v.Knows g'
  | _, _ => True

instance (g : Group) (s : String) (t : Window) : Decidable (Held g s t) :=
  inferInstanceAs (Decidable (_ ∧ _ ∧ ∃ c ∈ g.dates, _))

instance (v : Survey) (g : Group) : Decidable (v.Owns g) :=
  inferInstanceAs (Decidable (∃ r ∈ v.own, _))

instance (v : Survey) (g : Group) : Decidable (v.Knows g) :=
  inferInstanceAs (Decidable (∃ l ∈ v.looked, l.query g = true → ∃ h ∈ l.answer, _))

instance (v : Survey) (o : DbOp) (db : Db) : Decidable (Undisturbed v o db) :=
  match o with
  | .groups (.update id f) => inferInstanceAs (Decidable (∀ g ∈ db.groups.findOne id,
      ∀ g' ∈ db.groups.docs, g'.id ≠ id → (f.apply g).Transient → g'.Transient →
        ∀ s ∈ (f.apply g).devices, s ∈ g'.devices → ∀ t ∈ (f.apply g).dates, _))
  | .users _ | .devices _ | .groups (.findOne _) | .groups (.find _) | .groups (.updateMany _ _)
  | .groups (.insert _) | .groups (.delete _) => isTrue trivial

theorem Held.overlaps_eq_false {g g' : Group} {s : String} {t c : Window} (h : Held g s t)
    (hapart : g.Apart g') (ht' : g'.Transient) (hs' : s ∈ g'.devices) (hc : c ∈ g'.dates) :
    overlaps t c = false := by
  obtain ⟨ht, hs, c', hc', hstart, hstop⟩ := h
  exact overlaps_mono (hapart ht ht' s hs hs' c' hc' c hc) hstart hstop

/-- **An undisturbed write is decided by what the request looked at**: it keeps the bookings apart
if the group `r` that the request loaded would be kept apart by it from all groups it found. -/
theorem claim {db : Db} (h : Exclusive db) {v : Survey} {id : String} {f : GroupChange}
    (hG : Undisturbed v (.groups (.update id f)) db)
    (hfree : ∀ g ∈ db.groups.findOne id, ∀ r ∈ v.own, ∀ l ∈ v.looked, r.slots = g.slots →
      (f.apply g).Transient → ∀ s ∈ (f.apply g).devices, ∀ t ∈ (f.apply g).dates, ¬ Held g s t → ∀ g',
        g'.id ≠ id → g'.Transient → s ∈ g'.devices → l.query g' = true ∧
          (g' ∈ l.answer → ∀ c ∈ g'.dates, overlaps t c = false)) :
    Exclusive (DbOp.exec (.groups (.update id f)) db).2 := by
  refine h.update fun g hg g' hg' hne ht ht' s hs hs' t hmem c hc => ?_
  have hgid : g.id = id := Collection.key_of_findOne hg
  by_cases hheld : Held g s t
  · exact hheld.overlaps_eq_false
      (h g (Collection.mem_of_findOne hg) g' hg' (by rw [hgid]; exact Ne.symm hne)) ht' hs' hc
  rcases hG g hg g' hg' hne ht ht' s hs hs' t hmem with hheld' | ⟨⟨r, hr, hslots⟩, l, hl, hknown⟩
  · exact absurd hheld' hheld
  have hquery := (hfree g hg r hr l hl hslots ht s hs t hmem hheld g' hne ht' hs').1
  -- the group was found with the slots it has now
  obtain ⟨h', hh', hsame⟩ := hknown hquery
  obtain ⟨hid, hclass, hdevices, hdates⟩ := Group.Slots.mk.inj hsame
  have hclear := (hfree g hg r hr l hl hslots ht s hs t hmem hheld h' (hid.symm ▸ hne)
    (show isOriginGroup h'.class_ = false from hclass.symm ▸ ht') (hdevices.symm ▸ hs')).2 hh'
  exact hclear c (hdates.symm ▸ hc)

/-! ### The requests -/

/-- Safety of a program for the bookings. -/
abbrev BookingSafe {α : Type} (v : Survey) (p : DbM α)
    (Q : Survey → Except JsError α → Prop) : Prop :=
  machine.Safe (fun (_ : ℕ) => Exclusive) Undisturbed v 0 p fun v _ r => Q v r

theorem BookingSafe.of_unclaiming {α : Type} {v : Survey} {p : DbM α}
    (hp : p.Ops DbOp.Unclaiming) {Q : Survey → Except JsError α → Prop} (hQ : ∀ v r, Q v r) :
    BookingSafe v p Q :=
  Safe.of_ops (J := fun _ => True) (fun _ ho _ _ _ hs _ => hs.exec ho)
    (fun _ _ _ _ _ => trivial) trivial hp fun v r _ => hQ v r

theorem BookingSafe.of_deviceOnly {α : Type} {v : Survey} {p : DbM α}
    (hp : p.Ops DbOp.DeviceOnly) {Q : Survey → Except JsError α → Prop} (hQ : ∀ v r, Q v r) :
    BookingSafe v p Q :=
  BookingSafe.of_unclaiming (Ops.mono (fun _ ho => ho.unclaiming) hp) hQ

theorem safe_charge {α : Type} {email : String} {oldDuration newDuration : Int} {v : Survey}
    {k : Stats → DbM α} {Q : Survey → Except JsError α → Prop}
    (h : ∀ stats, BookingSafe v (k stats) Q) :
    BookingSafe v ((updateUserGroupDuration email oldDuration newDuration).bind k) Q := by
  intro fr db hdb _
  refine ⟨0, hdb, ?_⟩
  intro fr' db' hdb' _
  exact ⟨0, hdb', h _⟩

/-- What the check of `addGroupDevices` says of the groups it found. -/
theorem overlaps_of_checkDatesOverlaps {dates : List Window} {groups : List Group}
    (h : ¬ (checkDatesOverlaps dates groups).isSome = true) {g : Group} (hg : g ∈ groups)
    {t c : Window} (ht : t ∈ dates) (hc : c ∈ g.dates) : overlaps t c = false := by
  have hnone := Option.not_isSome_iff_eq_none.1 h
  simp only [checkDatesOverlaps, List.find?_eq_none, List.any_eq_true, not_exists, not_and] at hnone
  simpa using hnone g hg t ht c hc

/-- `addGroupDevices` of the group that the request loaded. -/
theorem safe_addGroupDevices {group : Group} {v : Survey} (hown : v.own = some group)
    (serials : List String) :
    BookingSafe v (GroupModel.addGroupDevices group serials) fun _ _ => True := by
  unfold GroupModel.addGroupDevices
  split
  · trivial
  split
  · trivial
  rename_i duration hduration
  simp only [bind_eq]
  refine safe_charge fun stats => ?_
  split
  · trivial
  unfold Db.findGroups Db.updateGroup
  simp only [perform_bind]
  intro fr db hdb _
  refine ⟨0, hdb, ?_⟩
  rw [machine_log_find, hown, if_pos Option.isSome_some]
  dsimp only
  split
  · trivial
  rename_i hfree
  intro fr' db' hdb' hG
  refine ⟨0, claim hdb' hG ?_, BookingSafe.of_deviceOnly ?_ fun _ _ => trivial⟩
  · intro g hg r hr l hl hslots ht s hs t hmem hheld g' hne ht' hs'
    obtain rfl := Option.some.inj hl
    obtain rfl := Option.some.inj hr
    obtain ⟨-, -, hdevices, hdates⟩ := Group.Slots.mk.inj hslots
    refine ⟨?_, fun hfound c hc => ?_⟩
    · -- the device is a new one, so that the query looks for it
      have hnew : s ∈ serials := by
        rcases mem_union.1 hs with hold | hnew
        · exact absurd ⟨ht, hdevices ▸ hold, t, hmem, Int.le_refl _, Int.le_refl _⟩ hheld
        · exact hnew
      have hany : g'.devices.any (· ∈ serials) = true :=
        List.any_eq_true.2 ⟨s, hs', decide_eq_true hnew⟩
      simp only [bookingsOf, hany, Bool.and_true]
      exact decide_eq_true ht'
    · exact overlaps_of_checkDatesOverlaps hfree hfound (by rw [hdates]; exact hmem) hc
  · refine Ops.bind (deviceOnly_sendGroupChange _) fun newGroup => ?_
    exact Ops.bind (places_treatGroupDevicesChange _ _ _).deviceOnly fun _ => ops_ret

/-- `removeGroupDevices` of the group that the request loaded, which has not looked at others. -/
theorem safe_removeGroupDevices {group : Group} {v : Survey} (hlooked : v.looked = none)
    (serials : List String) :
    BookingSafe v (GroupModel.removeGroupDevices group serials) fun _ _ => True := by
  unfold GroupModel.removeGroupDevices
  split
  · trivial
  simp only [bind_eq]
  refine safe_charge fun stats => ?_
  unfold Db.updateGroup
  simp only [perform_bind]
  intro fr db hdb hG
  refine ⟨0, claim hdb hG ?_, BookingSafe.of_deviceOnly ?_ fun _ _ => trivial⟩
  · intro g hg r hr l hl
    rw [hlooked] at hl
    cases hl
  · refine Ops.bind (deviceOnly_sendGroupChange _) fun newGroup => ?_
    exact Ops.bind (places_treatGroupDevicesChange _ _ _).deviceOnly fun _ => ops_ret

/-! ### `updateGroup` -/

/-- The windows of an accepted schedule are pairs of valid dates. -/
theorem valid_of_mem_computeGroupDates {class_ : GroupClass} {repetitions start stop : Int}
    (hrep : repetitions = 0 ↔ class_.Single) {l : LifeTime}
    (hl : l ∈ computeGroupDates ⟨some start, some stop⟩ class_ repetitions) :
    ∃ a b, l = ⟨some a, some b⟩ := by
  have hmore : ∀ d, CLASS_DURATION class_ = some d → ∀ n a b,
      l ∈ repeatLifeTime class_ n ⟨some a, some b⟩ → ∃ a b, l = ⟨some a, some b⟩ := by
    intro d hd n
    induction n with
    | zero =>
      intro a b hl
      cases hl
    | succ n ih =>
      intro a b hl
      have hnext : ∀ x, addClassDuration class_ (some x) = some (x + d) := fun x => by
        simp only [addClassDuration, hd]
      simp only [repeatLifeTime, hnext, List.mem_cons] at hl
      rcases hl with rfl | hl
      · exact ⟨_, _, rfl⟩
      · exact ih _ _ hl
  rcases List.mem_cons.1 hl with rfl | hl
  · exact ⟨_, _, rfl⟩
  by_cases hsingle : class_.Single
  · -- a class without repetitions has one window
    rw [hrep.2 hsingle] at hl
    cases hl
  · cases hd : CLASS_DURATION class_ with
    | some d => exact hmore d hd _ _ _ hl
    | none =>
      refine absurd ?_ hsingle
      cases class_ <;> first | (cases hd; done) | simp [GroupClass.Single]

/-- What an empty answer of `checkConflicts` says of a transient group that was found. -/
theorem overlaps_of_computeConflicts {id : String} {devices : List String} {dates : List LifeTime}
    {g : Group} (h : groups.computeConflicts id devices dates g = []) (hid : g.id ≠ id) {s : String}
    (hs : s ∈ devices) (hs' : s ∈ g.devices) {a b : Int} (hl : (⟨some a, some b⟩ : LifeTime) ∈ dates)
    {c : Window} (hc : c ∈ g.dates) : overlaps ⟨a, b⟩ c = false := by
  unfold groups.computeConflicts at h
  have hshared : intersection devices g.devices ≠ [] := by
    intro hnil
    have hmem : s ∈ intersection devices g.devices := mem_intersection.2 ⟨hs, hs'⟩
    rw [hnil] at hmem
    cases hmem
  rw [if_neg hid, if_neg hshared, List.flatMap_eq_nil_iff] at h
  have hnone := List.filterMap_eq_nil_iff.1 (h _ hl) c hc
  by_contra htrue
  simp only [overlaps, Bool.not_eq_false, Bool.and_eq_true, decide_eq_true_eq] at htrue
  simp [groups.windowConflict, htrue] at hnone

/-- A schedule that is accepted has passed the checks without database. -/
theorem safe_checkSchedule {α : Type} {oldGroup : Option Group} {class_ : GroupClass}
    {email : String} {repetitions : Int} {privilege : Privilege} {start stop : JsDate} {v : Survey}
    {k : Option Response → DbM α} {Q : Survey → Except JsError α → Prop}
    (h : ∀ response, (response = none → groups.checkScheduleSync oldGroup class_ repetitions
      privilege start stop = none) → BookingSafe v (k response) Q) :
    BookingSafe v ((groups.checkSchedule oldGroup class_ email repetitions privilege start
      stop).bind k) Q := by
  unfold groups.checkSchedule
  split
  · exact h _ fun hnone => by cases hnone
  rename_i hsync
  intro fr db hdb _
  refine ⟨0, hdb, ?_⟩
  rw [machine_log_users]
  dsimp only [ret_bind, bind_eq]
  split
  · exact h _ fun hnone => by cases hnone
  · exact h _ fun _ => hsync

/-- `updateUserGroup`, if the write of the data keeps the bookings apart. -/
theorem safe_updateUserGroup {group : Group} {data : GroupUpdate} {v : Survey}
    (hwrite : ∀ db, Exclusive db → Undisturbed v (.groups (.update group.id (.setData data))) db →
      Exclusive (DbOp.exec (.groups (.update group.id (.setData data))) db).2) :
    BookingSafe v (GroupModel.updateUserGroup group data) fun _ _ => True := by
  unfold GroupModel.updateUserGroup
  simp only [bind_eq]
  refine safe_charge fun stats => ?_
  split
  · trivial
  unfold Db.updateGroup
  simp only [perform_bind]
  intro fr db hdb hG
  refine ⟨0, hwrite db hdb hG, BookingSafe.of_deviceOnly ?_ fun _ _ => trivial⟩
  dsimp only
  cases Option.map (fun x : Group × Group => x.2) _ with
  | none => trivial
  | some newGroup =>
    dsimp only
    split
    · trivial
    · exact Ops.bind (places_updateHandlers _ _ _).deviceOnly fun _ => ops_ret

theorem safe_updateGroupData {isInternal : Bool} {group : Group} {data : GroupUpdate} {v : Survey}
    (hwrite : ∀ db, Exclusive db → Undisturbed v (.groups (.update group.id (.setData data))) db →
      Exclusive (DbOp.exec (.groups (.update group.id (.setData data))) db).2) :
    BookingSafe v (groups.updateGroupData isInternal group data) fun _ _ => True := by
  unfold groups.updateGroupData
  refine Safe.bind (Safe.mono (safe_updateUserGroup hwrite) fun v m r _ => ?_)
  rcases r with e | (_ | newGroup)
  · trivial
  · trivial
  · dsimp only
    split
    · exact fun fr db hdb _ => ⟨0, hdb, trivial⟩
    · trivial

/-- `updateSchedule` of the group that the request loaded.  Without a check for conflicts it may
only write what the group holds already. -/
theorem safe_updateSchedule {id : String} {isInternal : Bool} {group : Group} {w : Window}
    {body : groups.GroupBody} {sched : groups.Schedule} {v : Survey} (hown : v.own = some group)
    (hlooked : v.looked = none) (hid : group.id = id) :
    BookingSafe v (groups.updateSchedule id isInternal group w body sched) fun _ _ => True := by
  unfold groups.updateSchedule
  refine safe_checkSchedule fun response hsync => ?_
  cases response with
  | some response => trivial
  | none =>
  obtain ⟨start, stop, hstart, hstop, -, -, hrep, -⟩ :=
    groups.scheduleOk_of_checkScheduleSync (hsync rfl)
  rw [hstart, hstop]
  dsimp only
  split
  · exact fun fr db hdb _ => ⟨0, hdb, trivial⟩
  split
  swap
  · refine safe_updateGroupData fun db hdb hG => claim hdb hG ?_
    intro g hg r hr l hl
    rw [hlooked] at hl
    cases hl
  unfold groups.checkConflicts getTransientGroups Db.findGroups
  simp only [bind_eq, perform_bind, act_bind, pure_eq, ret_bind]
  intro fr db hdb _
  refine ⟨0, hdb, ?_⟩
  rw [machine_log_find, hown, if_pos Option.isSome_some]
  dsimp only
  split
  swap
  · trivial
  rename_i hconflicts
  refine safe_updateGroupData fun db' hdb' hG => claim hdb' hG ?_
  intro g hg r hr l hl hslots ht s hs t hmem hheld g' hne ht' hs'
  obtain rfl := Option.some.inj hl
  obtain rfl := Option.some.inj hr
  obtain ⟨-, -, hdevices, -⟩ := Group.Slots.mk.inj hslots
  refine ⟨decide_eq_true ht', fun hfound c hc => ?_⟩
  -- the new windows are pairs of valid dates, and none of them is in conflict with `g'`
  obtain ⟨l, hl, rfl⟩ := List.mem_map.1 hmem
  obtain ⟨a, b, rfl⟩ := valid_of_mem_computeGroupDates hrep hl
  have hnone := List.flatMap_eq_nil_iff.1 hconflicts g' hfound
  exact overlaps_of_computeConflicts hnone (by rwa [← hid]) (hdevices ▸ hs) hs' hl hc

theorem safe_updateName {group : Group} {w : Window} {body : groups.GroupBody}
    {sched : groups.Schedule} {v : Survey} :
    BookingSafe v (groups.updateName group w body sched) fun _ _ => True := by
  refine BookingSafe.of_unclaiming ?_ fun _ _ => trivial
  unfold groups.updateName
  split
  · split
    · trivial
    split
    · trivial
    · exact Ops.bind (ops_updateGroupName (fun _ ho => ho.1.unclaiming) trivial) fun _ => ops_ret
  · trivial

/-- `updateGroup`. -/
theorem safe_updateGroup (user : User) (id : String) (isInternal : Bool) (body : groups.GroupBody) :
    BookingSafe Survey.start (groups.updateGroup user id isInternal body) fun _ _ => True := by
  unfold groups.updateGroup groups.orInternalError
  refine Safe.tryCatch (Safe.mono (Q := fun _ _ _ => True) ?_ fun v m r _ => by cases r <;> trivial)
  unfold getUserGroup Db.findGroups
  simp only [bind_eq, perform_bind, act_bind, pure_eq, ret_bind]
  intro fr db hdb _
  refine ⟨0, hdb, ?_⟩
  rw [machine_log_find, if_neg (by decide)]
  simp only [machine_exec, DbOp.exec, CollOp.exec]
  cases hfound : (db.groups.docs.filter _).head? with
  | none => trivial
  | some group =>
  have hid : group.id = id := by
    have hmem := List.mem_filter.1 (List.mem_of_mem_head? (Option.mem_def.2 hfound))
    exact of_decide_eq_true (Bool.and_eq_true_iff.1 hmem.2).2
  dsimp only
  split
  · trivial
  split
  · trivial
  split
  · exact safe_updateName
  · exact safe_updateSchedule rfl rfl hid

/-! ### The pool of requests -/

/-- The requests that act on bookings. -/
inductive BookingRequest where
  | create (id : String) (data : GroupData)
  | addDevices (id : String) (serials : List String)
  | removeDevices (id : String) (serials : List String)
  | update (user : User) (id : String) (isInternal : Bool) (body : groups.GroupBody)
  | delete (id : String)

/-- What a request does to the database. -/
def BookingRequest.prog : BookingRequest → DbM Unit
  | .create id data => do
    let _ ← createUserGroup id data
    return ()
  | .addDevices id serials => withGroup id fun group => GroupModel.addGroupDevices group serials
  | .removeDevices id serials =>
    withGroup id fun group => GroupModel.removeGroupDevices group serials
  | .update user id isInternal body => do
    let _ ← groups.updateGroup user id isInternal body
    return ()
  | .delete id => do
    let _ ← deleteUserGroup id
    return ()

theorem BookingSafe.discard {α : Type} {v : Survey} {p : DbM α}
    (h : BookingSafe v p fun _ _ => True) :
    BookingSafe v (p.bind fun _ => .ret ()) fun _ _ => True :=
  Safe.bind (Safe.mono h fun v m r _ => by cases r <;> trivial)

theorem safe_withGroup {α : Type} {id : String} {f : Group → DbM α}
    (h : ∀ group, BookingSafe ⟨some group, none⟩ (f group) fun _ _ => True) :
    BookingSafe Survey.start (withGroup id f) fun _ _ => True := by
  unfold withGroup getGroup Db.findGroup
  simp only [bind_eq, perform_bind]
  intro fr db hdb _
  refine ⟨0, hdb, ?_⟩
  rw [machine_log_findOne]
  simp only [machine_exec, DbOp.exec, CollOp.exec]
  cases db.groups.findOne id with
  | none => trivial
  | some group => exact BookingSafe.discard (h group)

theorem BookingRequest.safe (r : BookingRequest) :
    BookingSafe Survey.start r.prog fun _ _ => True := by
  have hdevice : ∀ o : DbOp, o.DeviceOnly → o.Unclaiming := fun _ ho => ho.unclaiming
  cases r with
  | create id data =>
    refine BookingSafe.discard (BookingSafe.of_unclaiming ?_ fun _ _ => trivial)
    exact ops_createUserGroup (fun o ho => hdevice o ho.1) trivial (fun _ => rfl)
      (fun _ _ => trivial) fun _ _ => trivial
  | addDevices id serials => exact safe_withGroup fun group => safe_addGroupDevices rfl serials
  | removeDevices id serials =>
    exact safe_withGroup fun group => safe_removeGroupDevices rfl serials
  | update user id isInternal body =>
    exact BookingSafe.discard (safe_updateGroup user id isInternal body)
  | delete id =>
    refine BookingSafe.discard (BookingSafe.of_unclaiming ?_ fun _ _ => trivial)
    exact ops_deleteUserGroup (fun o ho => hdevice o ho.1) trivial (fun _ _ => trivial)
      (fun _ => trivial)
      fun _ _ => trivial

/-- The requests as a pool. -/
def bookingPool (requests : List BookingRequest) : List (Survey × DbM Unit) :=
  requests.map fun r => (Survey.start, r.prog)

/-- **No device is booked twice in a run whose steps are undisturbed.** -/
theorem exclusive_of_run {requests : List BookingRequest} {db : Db} (h : Exclusive db)
    {c : List (Survey × DbM Unit) × Db} {mvs : List (Move DbOp Db Survey)}
    (hrun : (machine.guarded Undisturbed JsError Unit).Run (bookingPool requests, db) mvs c) :
    Exclusive c.2 := by
  have hsafe : machine.PoolSafe (fun (_ : ℕ) => Exclusive) Undisturbed (fun _ _ _ => True) 0
      (bookingPool requests) := by
    refine poolSafe_zero fun c hc => ?_
    obtain ⟨r, -, rfl⟩ := List.mem_map.1 hc
    exact r.safe
  obtain ⟨m, -, hexclusive⟩ := hsafe.invariant hrun h
  exact hexclusive

/-- A user with two bookings of an hour each, which overlap for `overlap` milliseconds and have no
devices yet. -/
def twoBookings (overlap : Int) : Db where
  users := ⟨[Sample.user "u" ⟨5, 36000000⟩ ⟨2, 0⟩], List.nodup_singleton _⟩
  groups := ⟨[Sample.root, Sample.booking "g" "u" .once 0 [⟨0, 3600000⟩] 0 [],
    Sample.booking "h" "u" .once 0 [⟨3600000 - overlap, 7200000 - overlap⟩] 0 []],
    (by decide : ["root", "g", "h"].Nodup)⟩
  devices := ⟨[Sample.device "d"], List.nodup_singleton _⟩

/-- Two requests for the same device. -/
def twoAdds : List BookingRequest := [.addDevices "g" ["d"], .addDevices "h" ["d"]]

/-- Both requests look for other bookings of the device before one of them has booked it. -/
theorem not_exclusive_of_interleaving : Exclusive (twoBookings 1) ∧ ∃ mvs c,
    (machine.pool JsError Unit).Run (bookingPool twoAdds, twoBookings 1) mvs c ∧
      ¬ Exclusive c.2 := by
  refine ⟨by decide +kernel, ?_⟩
  obtain ⟨mvs, c, hrun, hc⟩ := exists_run_of_play (A := machine) (G := fun _ _ _ => True)
    [0, 1, 0, 1, 0, 1, 0, 1, 0, 1] (bookingPool twoAdds, twoBookings 1)
    (fun c => ¬ Exclusive c.2) (by decide +kernel)
  exact ⟨mvs, c, hrun.of_restrict, by simpa using hc⟩

/-- The second request sees the first booking of the device, which ends when its own begins. -/
theorem exclusive_of_run_twoAdds : ∃ mvs c,
    (machine.guarded Undisturbed JsError Unit).Run (bookingPool twoAdds, twoBookings 0) mvs c ∧
      (c.2.groups.findOne "h").map Group.devices = some ["d"] ∧ Exclusive c.2 := by
  obtain ⟨mvs, c, hrun, hc⟩ := exists_run_of_play (A := machine) (G := Undisturbed)
    [0, 1, 0, 0, 0, 0, 1, 1, 1, 1] (bookingPool twoAdds, twoBookings 0)
    (fun c => (c.2.groups.findOne "h").map Group.devices = some ["d"]) (by decide +kernel)
  exact ⟨mvs, c, hrun, by simpa using hc, exclusive_of_run (by decide +kernel) hrun⟩

end Bookings

end DeviceHub

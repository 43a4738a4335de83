import DeviceHub.Api.MoveDevices
import DeviceHub.Api.RemoveUsers
import DeviceHub.Watchers.Handling

/-!
# Who may book a device

The owner of a booking is a user of the bookable origin group of each of its devices, as long as the
requests that add devices, remove users and move devices find out what their checks do not look at.

## Main definitions

* `Entitled` : the origin group of the device is bookable, and the user is one of its users.
* `BookingAuthority` : the owner of every booking is entitled to the devices of the booking.
* `AuthorityRequest`, `authoritySystem` : the requests, and what the watcher of devices does.
* `AuthorityRequest.Lawful` : the condition under which a request leaves bookings entitled.

## Main results

* `authority_of_run` : the owners of bookings are entitled in a run whose requests are lawful.
* `not_authority_of_move` : a booked device moves to a group of which the owner is no user.
-/

namespace DeviceHub

open Prog apiutil lodash

/-- The user may book the device: its origin group is bookable and lists the user. -/
def Entitled (db : Db) (email serial : String) : Prop :=
  ∃ d ∈ db.devices.findOne serial, ∃ g ∈ db.groups.findOne d.group.origin,
    g.class_ = .bookable ∧ email ∈ g.users

/-- The owners of bookings may book the devices that they have booked. -/
def BookingAuthority (db : Db) : Prop :=
  ∀ h ∈ db.groups.docs, h.Transient → ∀ serial ∈ h.devices, Entitled db h.owner.email serial

instance (db : Db) (email serial : String) : Decidable (Entitled db email serial) :=
  decidable_of_iff (((db.devices.findOne serial).any fun d =>
      (db.groups.findOne d.group.origin).any fun g =>
        decide (g.class_ = .bookable ∧ email ∈ g.users)) = true) (by
    simp only [Option.any_eq_true, decide_eq_true_eq]
    exact Iff.rfl)

instance (db : Db) : Decidable (BookingAuthority db) :=
  inferInstanceAs (Decidable (∀ h ∈ db.groups.docs, _))

theorem Group.Transient.ne_bookable {g : Group} (h : g.Transient) : g.class_ ≠ .bookable := by
  intro hclass
  have horigin : isOriginGroup g.class_ = true := by
    rw [hclass]
    rfl
  exact absurd (horigin.symm.trans h) (by decide)

/-! ### What operations may do -/

variable {db db' : Db}

/-- The devices keep their origins. -/
def SameOrigins (db db' : Db) : Prop :=
  ∀ serial, (db'.devices.findOne serial).map (fun d => d.group.origin) =
    (db.devices.findOne serial).map fun d => d.group.origin

theorem SameOrigins.refl (db : Db) : SameOrigins db db := fun _ => rfl

theorem SameOrigins.of_map {h : String → Device → Device}
    (hdevices : ∀ serial, db'.devices.findOne serial = (db.devices.findOne serial).map (h serial))
    (horigin : ∀ serial d, (h serial d).group.origin = d.group.origin) : SameOrigins db db' := by
  intro serial
  rw [hdevices, Option.map_map]
  congr 1
  funext d
  exact horigin serial d

theorem SameOrigins.exists (h : SameOrigins db db') {serial : String} {d : Device}
    (hd : d ∈ db.devices.findOne serial) :
    ∃ d' ∈ db'.devices.findOne serial, d'.group.origin = d.group.origin := by
  have hsame := h serial
  rw [Option.mem_def.1 hd, Option.map_some] at hsame
  obtain ⟨d', hd', horigin⟩ := Option.map_eq_some_iff.1 hsame
  exact ⟨d', hd', horigin⟩

theorem Entitled.mono {email serial : String} (h : Entitled db email serial)
    (hdevice : ∀ d ∈ db.devices.findOne serial,
      ∃ d' ∈ db'.devices.findOne serial, d'.group.origin = d.group.origin)
    (hgroup : ∀ d ∈ db.devices.findOne serial, ∀ g ∈ db.groups.findOne d.group.origin,
      g.class_ = .bookable → email ∈ g.users →
        ∃ g' ∈ db'.groups.findOne d.group.origin, g'.class_ = .bookable ∧ email ∈ g'.users) :
    Entitled db' email serial := by
  obtain ⟨d, hd, g, hg, hclass, husers⟩ := h
  obtain ⟨d', hd', horigin⟩ := hdevice d hd
  refine ⟨d', hd', ?_⟩
  rw [horigin]
  exact hgroup d hd g hg hclass husers

theorem Entitled.of_groups {email serial : String} (h : Entitled db email serial)
    (hgroups : db'.groups = db.groups)
    (hdevice : ∀ d ∈ db.devices.findOne serial,
      ∃ d' ∈ db'.devices.findOne serial, d'.group.origin = d.group.origin) :
    Entitled db' email serial := by
  refine h.mono hdevice fun d _ g hg hclass hmem => ⟨g, ?_, hclass, hmem⟩
  rw [hgroups]
  exact hg

/-- Bookings disappear or lose devices, and who was entitled to a device of a booking is so
still. -/
theorem BookingAuthority.of_fewer (h : BookingAuthority db)
    (hbookings : ∀ h' ∈ db'.groups.docs, h'.Transient → ∃ g ∈ db.groups.docs, g.Transient ∧
      g.owner = h'.owner ∧ ∀ serial ∈ h'.devices, serial ∈ g.devices)
    (hentitled : ∀ g ∈ db.groups.docs, g.Transient → ∀ serial ∈ g.devices,
      Entitled db g.owner.email serial → Entitled db' g.owner.email serial) :
    BookingAuthority db' := by
  intro h' hmem ht serial hserial
  obtain ⟨g, hg, hgt, howner, hdevices⟩ := hbookings h' hmem ht
  rw [← howner]
  exact hentitled g hg hgt serial (hdevices serial hserial)
    (h g hg hgt serial (hdevices serial hserial))

theorem BookingAuthority.of_devices (h : BookingAuthority db) (hgroups : db'.groups = db.groups)
    (hdevices : SameOrigins db db') : BookingAuthority db' := by
  refine h.of_fewer (fun h' hmem ht => ?_) fun g _ _ serial _ hentitled =>
    hentitled.of_groups hgroups fun _ => hdevices.exists
  rw [hgroups] at hmem
  exact ⟨h', hmem, ht, rfl, fun _ hs => hs⟩

theorem BookingAuthority.deleteGroup {g : Group} (h : BookingAuthority db)
    (hg : db.groups.findOne g.id = some g) (ht : g.Transient)
    (hgroups : db'.groups = db.groups.delete g.id) (hdevices : SameOrigins db db') :
    BookingAuthority db' := by
  refine h.of_fewer (fun h' hmem ht' => ?_) fun h' hmem ht' serial hserial hentitled =>
    hentitled.mono (fun _ => hdevices.exists) fun d _ o ho hclass husers => ⟨o, ?_, hclass, husers⟩
  · rw [hgroups] at hmem
    exact ⟨h', (Collection.mem_delete.1 hmem).1, ht', rfl, fun _ hs => hs⟩
  · have hne : d.group.origin ≠ g.id := by
      intro he
      rw [he] at ho
      obtain rfl := Option.some.inj (ho.symm.trans hg)
      exact ht.ne_bookable hclass
    rw [hgroups, Option.mem_def, Collection.findOne_delete_ne hne]
    exact ho

/-- A group is updated: a booking gets only devices that its owner is entitled to, and a bookable
group loses no user. -/
theorem BookingAuthority.updateGroup {id : String} {f : GroupChange} (h : BookingAuthority db)
    (hgroups : db'.groups = db.groups.update id (effect f)) (hdevices : SameOrigins db db')
    (hclass : ∀ g, (f.apply g).class_ = g.class_)
    (husers : ∀ g ∈ db.groups.findOne id, ∀ email ∈ g.users, g.class_ = .bookable →
      email ∈ (f.apply g).users)
    (hadded : ∀ g ∈ db.groups.findOne id, g.Transient → ∀ serial ∈ (f.apply g).devices,
      serial ∈ g.devices ∨ Entitled db g.owner.email serial) : BookingAuthority db' := by
  have hmono : ∀ {email serial}, Entitled db email serial → Entitled db' email serial := by
    intro email serial hentitled
    refine hentitled.mono (fun _ => hdevices.exists) fun d _ g hg hbookable hmem => ?_
    rw [hgroups, Collection.findOne_update]
    split
    · rename_i heq
      rw [heq] at hg ⊢
      refine ⟨f.apply g, ?_, (hclass g).trans hbookable, husers g hg email hmem hbookable⟩
      rw [Option.mem_def.1 hg]
      rfl
    · exact ⟨g, hg, hbookable, hmem⟩
  intro h' hmem ht serial hserial
  rw [hgroups] at hmem
  rcases Collection.mem_update.1 hmem with ⟨hmem, -⟩ | ⟨g, hg, rfl⟩
  · exact hmono (h h' hmem ht serial hserial)
  · have ht' : g.Transient := by
      unfold Group.Transient
      rw [← hclass g]
      exact ht
    rw [GroupChange.effect_apply, GroupChange.owner_apply]
    rcases hadded g hg ht' serial hserial with hold | hentitled
    · exact hmono (h g (Collection.mem_of_findOne hg) ht' serial hold)
    · exact hmono hentitled

/-! ### Users who are removed -/

/-- The user has booked a device whose origin group is the group `id`. -/
def BooksFrom (db : Db) (id email : String) : Prop :=
  ∃ h ∈ db.groups.docs, h.Transient ∧ h.owner.email = email ∧
    ∃ serial ∈ h.devices, ∃ d ∈ db.devices.findOne serial, d.group.origin = id

theorem BookingAuthority.pullUser {id email : String} (h : BookingAuthority db)
    (hfree : ¬ BooksFrom db id email) :
    BookingAuthority
      { db with groups := db.groups.update id (effect (GroupChange.pullUser email)) } := by
  refine h.of_fewer (fun h' hmem ht => ?_) fun g hg ht serial hserial hentitled => ?_
  · rcases Collection.mem_update.1 hmem with ⟨hmem, -⟩ | ⟨g, hg, rfl⟩
    · exact ⟨h', hmem, ht, rfl, fun _ hs => hs⟩
    · exact ⟨g, Collection.mem_of_findOne hg, ht, rfl, fun _ hs => hs⟩
  · refine hentitled.mono (fun d hd => ⟨d, hd, rfl⟩) fun d hd o ho hclass hmem => ?_
    rw [Collection.findOne_update]
    split
    · rename_i heq
      have howner : g.owner.email ≠ email := fun he =>
        hfree ⟨g, hg, ht, he, serial, hserial, d, hd, heq⟩
      rw [heq] at ho ⊢
      refine ⟨(GroupChange.pullUser email).apply o, ?_, hclass, ?_⟩
      · rw [Option.mem_def.1 ho]
        rfl
      · exact List.mem_filter.2 ⟨hmem, by simpa using howner⟩
    · exact ⟨o, ho, hclass, hmem⟩

theorem BooksFrom.of_pullUser {id email email' : String}
    (h : BooksFrom
      { db with groups := db.groups.update id (effect (GroupChange.pullUser email')) } id email) :
    BooksFrom db id email := by
  obtain ⟨h', hmem, ht, howner, hdevices⟩ := h
  rcases Collection.mem_update.1 hmem with ⟨hmem, -⟩ | ⟨g, hg, rfl⟩
  · exact ⟨h', hmem, ht, howner, hdevices⟩
  · exact ⟨g, Collection.mem_of_findOne hg, ht, howner, hdevices⟩

theorem BookingAuthority.pullUsers {id : String} {emails : List String} (h : BookingAuthority db)
    (hfree : ∀ email ∈ emails, ¬ BooksFrom db id email) :
    BookingAuthority { db with groups := DeviceHub.pullUsers id emails db.groups } := by
  induction emails generalizing db with
  | nil => exact h
  | cons email emails ih =>
    exact ih (h.pullUser (hfree email List.mem_cons_self)) fun email' he hbooks =>
      hfree email' (List.mem_cons_of_mem _ he) hbooks.of_pullUser

theorem BookingAuthority.bookable_of_booksFrom {id email : String} {g : Group}
    (h : BookingAuthority db) (hg : db.groups.findOne id = some g) (hbooks : BooksFrom db id email) :
    g.class_ = .bookable := by
  obtain ⟨h', hmem, ht, -, serial, hserial, d, hd, horigin⟩ := hbooks
  obtain ⟨d', hd', o, ho, hclass, -⟩ := h h' hmem ht serial hserial
  obtain rfl := Option.some.inj (hd.symm.trans hd')
  rw [horigin] at ho
  obtain rfl := Option.some.inj (hg.symm.trans ho)
  exact hclass

/-- The condition for a request to remove users: those who can be removed from a bookable group have
booked none of its devices, as the check finds out for the devices that the group lists. -/
def RemovalLawful (db : Db) (id : String) (emails : Option String) : Prop :=
  ∀ g ∈ db.groups.findOne id, g.class_ = .bookable →
    ∀ email, RemovableListed db g emails email → ¬ BooksFrom db id email

theorem BookingAuthority.removeGroupUsers {user : User} {id : String} {emails : Option String}
    {redirected : Bool} {r : Except JsError (Option Response)} (h : BookingAuthority db)
    (hlawful : RemovalLawful db id emails)
    (hrun : (groups.removeGroupUsers user id emails redirected).Runs DbOp.exec db r db') :
    BookingAuthority db' := by
  rcases runs_removeGroupUsers hrun with rfl | ⟨g, hg, hcalm⟩
  · exact h
  obtain ⟨removed, hremoved, hgroups⟩ := hcalm.groups
  have hpulled : BookingAuthority { db with groups := DeviceHub.pullUsers id removed db.groups } := by
    refine h.pullUsers fun email he hbooks => ?_
    exact hlawful g hg (h.bookable_of_booksFrom hg hbooks) email (hremoved email he) hbooks
  refine hpulled.of_devices hgroups fun serial => ?_
  rw [hcalm.devices]

/-! ### Devices that are added -/

section Add

open GroupModel groups

variable {g : Group} {serials : List String} {now : Int} {user : User}

theorem LocksOnly.sameOrigins (h : LocksOnly db db') : SameOrigins db db' := by
  intro serial
  have hsame := congrArg (Option.map fun d => d.group.origin) (h.devices serial)
  rw [Option.map_map, Option.map_map] at hsame
  exact hsame

theorem BookingAuthority.locks (h : BookingAuthority db) (hlocks : LocksOnly db db') :
    BookingAuthority db' := h.of_devices hlocks.groups hlocks.sameOrigins

theorem sameOrigins_placeDevices (now : Int) (g : Group) (db : Db) :
    SameOrigins db (placeDevices now g db) := by
  unfold placeDevices
  split
  · refine .of_map (h := fun _ d => if d.serial ∈ g.devices then
      (DeviceChange.setCurrentGroup g).apply d else d) (fun serial => ?_) fun _ d => ?_
    · simp only [DbOp.exec, CollOp.exec, Collection.findOne_updateBy, decide_eq_true_eq,
        DeviceChange.effect_apply]
    · split <;> rfl
  · exact .refl db

theorem groups_placeDevices (now : Int) (g : Group) (db : Db) :
    (placeDevices now g db).groups = db.groups := by
  unfold placeDevices
  split <;> rfl

theorem Device.origin_released {g : Group} (ht : g.Transient) (db : Db) (d : Device) :
    (d.released db g).group.origin = d.group.origin := by
  unfold Device.released
  rw [show isOriginGroup g.class_ = false from ht]
  split
  · exact d.origin_sentHome db
  · rfl

theorem BookingAuthority.giveUp {redirected : Bool} {r : Except JsError (Option Response)}
    (h : BookingAuthority db) (hid : PlainId g.id) (hg : db.groups.findOne g.id = some g)
    (ht : g.Transient) (hrun : (deleteGroups user (some g.id) redirected).Runs DbOp.exec db r db') :
    BookingAuthority db' := by
  obtain ⟨r₁, hrun⟩ := runs_deleteGroups hrun
  rw [hid.targets] at hrun
  obtain ⟨r₂, hrun⟩ : ∃ r₂, (removeGroup user g.id).Runs DbOp.exec db r₂ db' :=
    runs_discard (f := fun a => [a]) hrun
  rcases runs_removeGroup hrun with rfl | ⟨g', hg', hremoves, r₃, hdelete⟩
  · exact h
  obtain rfl := Option.some.inj (hg.symm.trans hg')
  obtain ⟨hgroups, hdevices⟩ := runs_deleteUserGroup hg hremoves.notRoot hdelete
  exact h.deleteGroup hg ht hgroups (.of_map hdevices fun _ d => d.origin_released ht _)

/-- The devices are added: the charge changes something, and no booking is in the way. -/
def AddSucceeds (db : Db) (g : Group) (serials : List String) : Prop :=
  serials ≠ [] ∧ ∃ duration, computeDuration g serials.length = .ok duration ∧
    ¬ ChargeIdle db g.owner.email g.duration duration ∧
      checkDatesOverlaps g.dates (db.groups.docs.filter (bookingsOf serials)) = none

instance (db : Db) (g : Group) (serials : List String) : Decidable (AddSucceeds db g serials) :=
  match hduration : computeDuration g serials.length with
  | .error e => .isFalse (by
    rintro ⟨-, duration, h, -⟩
    cases hduration.symm.trans h)
  | .ok duration => decidable_of_iff (serials ≠ [] ∧
      ¬ ChargeIdle db g.owner.email g.duration duration ∧
        checkDatesOverlaps g.dates (db.groups.docs.filter (bookingsOf serials)) = none) (by
    refine and_congr_right fun _ => ⟨fun h => ⟨duration, hduration, h⟩, ?_⟩
    rintro ⟨duration', h, hrest⟩
    obtain rfl := Except.ok.inj (hduration.symm.trans h)
    exact hrest)

/-- The condition for adding devices: the owner of the booking is entitled to them. -/
def AddLawful (db : Db) (g : Group) (serials : List String) : Prop :=
  AddSucceeds db g serials → ∀ serial ∈ serials, Entitled db g.owner.email serial

theorem BookingAuthority.addDevicesToGroup {target : String} {isInternal : Bool}
    {r : Except JsError (Option Response)} (h : BookingAuthority db) (hid : PlainId g.id)
    (hg : db.groups.findOne g.id = some g) (ht : g.Transient) (hlawful : AddLawful db g serials)
    (hrun : (groups.addDevicesToGroup user now target isInternal g serials).Runs DbOp.exec db r
      db') : BookingAuthority db' := by
  obtain ⟨r', t, hadd, hends⟩ := runs_addDevicesToGroup hg ht hrun
  have hauthority : BookingAuthority t := by
    cases hadd with
    | nothing hserials => exact h
    | undated hserials hdates => exact h
    | refused duration hserials hduration hidle => exact h.of_devices rfl (.refl _)
    | busy duration hserials hduration hcharge hbusy => exact h.of_devices rfl (.refl _)
    | added duration hserials hduration hcharge hfree =>
      have hentitled := hlawful ⟨hserials, duration, hduration, hcharge, hfree⟩
      refine h.updateGroup (f := .setDevices duration (union g.devices serials)) rfl
        (fun _ => rfl) (fun _ => rfl) (fun _ _ _ he _ => he) fun g' hg' _ serial hserial => ?_
      obtain rfl := Option.some.inj (hg.symm.trans hg')
      exact (mem_union.1 hserial).imp_right (hentitled serial)
  cases hends with
  | added newGroup t hplaced =>
    rw [hplaced]
    exact hauthority.of_devices (groups_placeDevices _ _ _) (sameOrigins_placeDevices _ _ _)
  | giveUp t r₂ hdelete =>
    have hg' : t.groups.findOne g.id = some g := by
      cases hadd with
      | refused duration hserials hduration hidle => exact hg
    exact hauthority.giveUp hid hg' ht hdelete
  | failed e t he hsame => exact hsame ▸ hauthority

/-- The condition for what a request selects. -/
def SelectionLawful (db : Db) (g : Group) : Selection → Prop
  | .add serials => AddLawful db g serials
  | _ => True

instance (db : Db) (g : Group) (sel : Selection) : Decidable (SelectionLawful db g sel) :=
  match sel with
  | .add serials => inferInstanceAs (Decidable (AddSucceeds db g serials → ∀ serial ∈ serials, _))
  | .nothing => inferInstanceAs (Decidable True)
  | .giveUp => inferInstanceAs (Decidable True)

/-- The condition for a request of the user to add devices to the group `id`. -/
def AddRequestLawful (db : Db) (sel : DeviceSelection) (id : String) (user : User) : Prop :=
  ∀ g ∈ db.groups.findOne id, Group.isMember user.email g = true → g.Transient →
    ∀ u ∈ effectiveUser db user g, SelectionLawful db g (selection db u sel g)

theorem AddLawful.locks (h : AddLawful db g serials) (hlocks : LocksOnly db db') :
    AddLawful db' g serials := by
  intro hadds serial hserial
  unfold AddSucceeds ChargeIdle at hadds
  rw [hlocks.users, hlocks.groups] at hadds
  exact (h hadds serial hserial).of_groups hlocks.groups fun _ => hlocks.sameOrigins.exists

theorem BookingAuthority.addGroupDevices {sel : DeviceSelection} {id : String} {reruns : Nat}
    {r : Except JsError (Option Response)} (h : BookingAuthority db)
    (hid : ∀ g ∈ db.groups.docs, PlainId g.id) (hlawful : AddRequestLawful db sel id user)
    (hrun : (groups.addGroupDevices now sel id (reruns + 1) user).Runs DbOp.exec db r db') :
    BookingAuthority db' := by
  rcases runs_addGroupDevices hrun with rfl | ⟨g, u, hg, hmember, ht, hu, -, -, r₁, hselect⟩
  · exact h
  obtain rfl : g.id = id := Collection.key_of_findOne hg
  have hplain := hid g (Collection.mem_of_findOne hg)
  have hsel := hlawful g hg hmember ht u hu
  obtain ⟨db₁, db₂, r₂, target, isInternal, hlock, hunlock, hprog⟩ := runs_addSelectedDevices hselect
  have hg₁ : db₁.groups.findOne g.id = some g := by rw [hlock.groups, hg]
  have hlocked := h.locks hlock
  refine BookingAuthority.locks ?_ hunlock
  cases hselection : selection db u sel g with
  | nothing =>
    rw [hselection] at hprog
    obtain ⟨-, rfl⟩ := hprog
    exact hlocked
  | giveUp =>
    rw [hselection] at hprog
    exact hlocked.giveUp hplain hg₁ ht hprog
  | add serials =>
    rw [hselection] at hprog hsel
    exact hlocked.addDevicesToGroup hplain hg₁ ht (AddLawful.locks hsel hlock) hprog

end Add

/-! ### Devices that are moved -/

section Move

open devices

/-- The condition for moving devices to an origin group: those that get there are not booked. -/
def MoveLawful (db : Db) (g : Group) (serials : List String) : Prop :=
  ∀ serial ∈ movedSerials db g serials, ∀ d ∈ db.devices.findOne serial,
    d.group.lock.isSome = true → ¬ Booked db serial

theorem BookingAuthority.moves {g : Group} {serials : List String} (h : BookingAuthority db)
    (hlawful : MoveLawful db g serials) (hmoves : Moves g (movedSerials db g serials) db db') :
    BookingAuthority db' := by
  refine h.of_fewer (fun h' hmem ht => ?_) fun h' hmem ht serial hserial hentitled =>
    hentitled.of_groups hmoves.groups fun d hd => ?_
  · rw [hmoves.groups] at hmem
    exact ⟨h', hmem, ht, rfl, fun _ hs => hs⟩
  · have hsame := hmoves.origins serial
    have hstays : ¬ (serial ∈ movedSerials db g serials ∧ d.group.lock.isSome = true) :=
      fun hmoved => hlawful serial hmoved.1 d hd hmoved.2 ⟨h', hmem, ht, hserial⟩
    rw [Option.mem_def.1 hd, Option.map_some, if_neg hstays] at hsame
    obtain ⟨d', hd', hunlocked⟩ := Option.map_eq_some_iff.1 hsame
    exact ⟨d', hd', congrArg (fun d => d.group.origin) hunlocked⟩

/-- The condition for a request of the user to move devices to the group `id`. -/
def MoveRequestLawful (db : Db) (user : User) (id : String) (serials : Option String) : Prop :=
  ∀ g ∈ db.groups.findOne id, MoveLawful db g (originList db user g serials)

theorem BookingAuthority.addOriginGroupDevices {user : User} {id : String} {serials : Option String}
    {redirected : Bool} {r : Except JsError (Option Response)} (h : BookingAuthority db)
    (hlawful : MoveRequestLawful db user id serials)
    (hrun : (devices.addOriginGroupDevices user id serials redirected).Runs DbOp.exec db r db') :
    BookingAuthority db' := by
  rcases runs_addOriginGroupDevices hrun with rfl | ⟨g, hg, -, -, hmoves⟩
  · exact h
  · exact h.moves (hlawful g hg) hmoves

/-- The devices of an origin group go to the root group, which is another request. -/
theorem runs_removeOriginGroupDevices {user : User} {id : String} {serials : Option String}
    {redirected : Bool} {r : Except JsError (Option Response)}
    (hrun : (removeOriginGroupDevices user id serials redirected).Runs DbOp.exec db r db') :
    db' = db ∨ ∃ g root, db.groups.findOne id = some g ∧ rootOf db = some root ∧
      (devices.addOriginGroupDevices user root.id (some (serials.getD (",".intercalate g.devices)))
        redirected).Runs DbOp.exec db r db' := by
  unfold removeOriginGroupDevices at hrun
  rw [bind_eq] at hrun
  rcases Db.runs_getUserGroup_cases hrun with hrun | ⟨g, hg, -, hrun⟩
  · exact .inl hrun.2
  dsimp only at hrun
  rw [bind_eq, runs_getRootGroup] at hrun
  rcases Option.eq_none_or_eq_some (rootOf db) with hroot | ⟨root, hroot⟩
  · rw [hroot] at hrun
    exact .inl hrun.2
  · rw [hroot] at hrun
    exact .inr ⟨g, root, hg, hroot, hrun⟩

end Move

/-! ### The requests -/

/-- The requests that bookings depend on, and the handlers of changed devices. -/
inductive AuthorityRequest where
  | addGroupDevices (now : Int) (sel : groups.DeviceSelection) (id : String) (reruns : Nat)
      (user : User)
  | removeGroupUsers (user : User) (id : String) (emails : Option String) (redirected : Bool)
  | addOriginGroupDevices (user : User) (id : String) (serials : Option String)
      (redirected : Bool)
  | removeOriginGroupDevices (user : User) (id : String) (serials : Option String)
      (redirected : Bool)
  /-- The watcher handles a change of a device, some time after it was made. -/
  | onDeviceChange (oldDoc newDoc : Device)

namespace AuthorityRequest

/-- The request itself; the responses play no part. -/
def prog : AuthorityRequest → DbM Unit
  | .addGroupDevices now sel id reruns user => do
    let _ ← groups.addGroupDevices now sel id (reruns + 1) user
    return ()
  | .removeGroupUsers user id emails redirected => do
    let _ ← groups.removeGroupUsers user id emails redirected
    return ()
  | .addOriginGroupDevices user id serials redirected => do
    let _ ← devices.addOriginGroupDevices user id serials redirected
    return ()
  | .removeOriginGroupDevices user id serials redirected => do
    let _ ← devices.removeOriginGroupDevices user id serials redirected
    return ()
  | .onDeviceChange oldDoc newDoc => watchers.onDeviceChange (.update oldDoc newDoc)

/-- A booking is never the origin group of a device. -/
def Valid (db : Db) : AuthorityRequest → Prop
  | .onDeviceChange _ newDoc => ∀ g ∈ db.groups.findOne newDoc.group.origin, ¬ g.Transient
  | _ => True

/-- The request leaves the owners of bookings entitled. -/
def Lawful (db : Db) : AuthorityRequest → Prop
  | .addGroupDevices _ sel id _ user => AddRequestLawful db sel id user
  | .removeGroupUsers _ id emails _ => RemovalLawful db id emails
  | .addOriginGroupDevices user id serials _ => MoveRequestLawful db user id serials
  | .removeOriginGroupDevices user id serials _ => ∀ g ∈ db.groups.findOne id, ∀ root ∈ rootOf db,
      MoveRequestLawful db user root.id (some (serials.getD (",".intercalate g.devices)))
  | .onDeviceChange _ _ => True

end AuthorityRequest

/-- The requests in any order, with the handlers somewhere in between. -/
def authoritySystem : Lts Db AuthorityRequest where
  step db request db' := request.Valid db ∧ ∃ r, request.prog.Runs DbOp.exec db r db'

/-- No group is created. -/
def KeepsIds (db db' : Db) : Prop :=
  ∀ id, (db'.groups.findOne id).isSome → (db.groups.findOne id).isSome

theorem KeepsIds.of_groups (h : db'.groups = db.groups) : KeepsIds db db' := by
  intro id hsome
  rwa [h] at hsome

theorem keepsIds_pullUsers (id : String) (emails : List String) (groups : Collection Group)
    (k : String) : ((pullUsers id emails groups).findOne k).isSome = (groups.findOne k).isSome := by
  induction emails generalizing groups with
  | nil => rfl
  | cons email emails ih => exact (ih _).trans (Collection.isSome_findOne_update _ _ _ _)

theorem AuthorityRequest.keepsIds {request : AuthorityRequest} {r : Except JsError Unit}
    (hrun : request.prog.Runs DbOp.exec db r db') : KeepsIds db db' := by
  have hmove : ∀ {user id serials redirected r}, (devices.addOriginGroupDevices user id serials
      redirected).Runs DbOp.exec db r db' → KeepsIds db db' := by
    intro user id serials redirected r h
    rcases devices.runs_addOriginGroupDevices h with rfl | ⟨g, -, -, -, hmoves⟩
    · exact .of_groups rfl
    · exact .of_groups hmoves.groups
  cases request with
  | addGroupDevices now sel id reruns user =>
    obtain ⟨r', hrun⟩ := runs_discard hrun
    rcases runs_addGroupDevices hrun with rfl | ⟨g, u, -, -, -, -, -, -, r₁, hselect⟩
    · exact .of_groups rfl
    intro k hsome
    have hfate := addSelectedDevices_permitted u now sel g _ _ _ hselect k
    generalize db.groups.findOne k = before at hfate ⊢
    generalize db'.groups.findOne k = after at hfate hsome
    cases hfate with
    | same => exact hsome
    | edited => rfl
    | deleted => cases hsome
  | removeGroupUsers user id emails redirected =>
    obtain ⟨r', hrun⟩ := runs_discard hrun
    rcases runs_removeGroupUsers hrun with rfl | ⟨g, -, hcalm⟩
    · exact .of_groups rfl
    obtain ⟨removed, -, hgroups⟩ := hcalm.groups
    intro k hsome
    rwa [hgroups, keepsIds_pullUsers] at hsome
  | addOriginGroupDevices user id serials redirected =>
    obtain ⟨r', hrun⟩ := runs_discard hrun
    exact hmove hrun
  | removeOriginGroupDevices user id serials redirected =>
    obtain ⟨r', hrun⟩ := runs_discard hrun
    rcases runs_removeOriginGroupDevices hrun with rfl | ⟨g, root, -, -, hrun⟩
    · exact .of_groups rfl
    · exact hmove hrun
  | onDeviceChange oldDoc newDoc =>
    by_cases horigin : newDoc.group.origin = oldDoc.group.origin
    · obtain rfl := watchers.runs_onDeviceChange_stay horigin hrun
      exact .of_groups rfl
    · rcases watchers.runs_onDeviceChange_move horigin hrun with hhandled | ⟨rfl, -⟩
      · intro k hsome
        rwa [hhandled.groups, Collection.isSome_findOne_update, Collection.isSome_findOne_update]
          at hsome
      · exact .of_groups rfl

theorem BookingAuthority.onDeviceChange {oldDoc newDoc : Device} {r : Except JsError Unit}
    (h : BookingAuthority db)
    (hvalid : ∀ g ∈ db.groups.findOne newDoc.group.origin, ¬ g.Transient)
    (hrun : (watchers.onDeviceChange (.update oldDoc newDoc)).Runs DbOp.exec db r db') :
    BookingAuthority db' := by
  by_cases horigin : newDoc.group.origin = oldDoc.group.origin
  · obtain rfl := watchers.runs_onDeviceChange_stay horigin hrun
    exact h
  rcases watchers.runs_onDeviceChange_move horigin hrun with hhandled | ⟨rfl, -⟩
  swap
  · exact h
  -- the device leaves one list, where it may have been booked, and enters that of an origin group
  set serial := newDoc.serial
  have hleft : BookingAuthority { db with
      groups := db.groups.update oldDoc.group.origin (effect (GroupChange.pullDevice serial)) } := by
    refine h.updateGroup (f := .pullDevice serial) rfl (.refl _) (fun _ => rfl)
      (fun _ _ _ he _ => he) fun g hg _ s hs => .inl ?_
    exact (mem_without.1 (mem_uniq.1 hs)).1
  have hentered : BookingAuthority { db with groups := db'.groups } := by
    refine hleft.updateGroup (f := .pushDevice serial) hhandled.groups (.refl _) (fun _ => rfl)
      (fun _ _ _ he _ => he) fun g hg ht s hs => ?_
    have hold := hg
    rw [Collection.findOne_update_ne _ horigin] at hold
    exact absurd ht (hvalid g hold)
  refine hentered.of_devices rfl ?_
  obtain ⟨t, -, hdevices⟩ := hhandled.devices
  refine .of_map (h := fun _ d => _) hdevices fun s d => ?_
  dsimp only
  split <;> split <;> simp

/-- One request. -/
theorem AuthorityRequest.authority {request : AuthorityRequest} (h : BookingAuthority db)
    (hid : ∀ g ∈ db.groups.docs, PlainId g.id) (hlawful : request.Lawful db)
    (hstep : authoritySystem.step db request db') : BookingAuthority db' := by
  obtain ⟨hvalid, r, hrun⟩ := hstep
  cases request with
  | addGroupDevices now sel id reruns user =>
    obtain ⟨r', hrun⟩ := runs_discard hrun
    exact h.addGroupDevices hid hlawful hrun
  | removeGroupUsers user id emails redirected =>
    obtain ⟨r', hrun⟩ := runs_discard hrun
    exact h.removeGroupUsers hlawful hrun
  | addOriginGroupDevices user id serials redirected =>
    obtain ⟨r', hrun⟩ := runs_discard hrun
    exact h.addOriginGroupDevices hlawful hrun
  | removeOriginGroupDevices user id serials redirected =>
    obtain ⟨r', hrun⟩ := runs_discard hrun
    rcases runs_removeOriginGroupDevices hrun with rfl | ⟨g, root, hg, hroot, hrun⟩
    · exact h
    · exact h.addOriginGroupDevices (hlawful g hg root hroot) hrun
  | onDeviceChange oldDoc newDoc => exact h.onDeviceChange hvalid hrun

/-- **The owners of bookings may book the devices that they have booked**, in every state of a run
whose requests are lawful. -/
theorem authority_of_run {requests : List AuthorityRequest} (h : BookingAuthority db)
    (hid : ∀ g ∈ db.groups.docs, PlainId g.id)
    (hrun : (authoritySystem.restrict fun db request => request.Lawful db).Run db requests db') :
    BookingAuthority db' := by
  refine (hrun.invariant_of_restrict (I := fun db => BookingAuthority db ∧
    ∀ g ∈ db.groups.docs, PlainId g.id) ⟨h, hid⟩ fun s request s' hs hlawful hstep => ?_).1
  refine ⟨request.authority hs.1 hs.2 hlawful hstep, fun g hg => ?_⟩
  -- no request creates a group
  obtain ⟨-, r, hrun⟩ := hstep
  have hsome := request.keepsIds hrun g.id 
    (Option.isSome_iff_exists.2 ⟨g, Collection.findOne_of_mem hg⟩)
  obtain ⟨g₀, hg₀⟩ := Option.isSome_iff_exists.1 hsome
  have hkey : g₀.id = g.id := Collection.key_of_findOne hg₀
  exact hkey ▸ hs.2 g₀ (Collection.mem_of_findOne hg₀)

/-! ### A booked device that moves -/

/-- The root group with the users `u` and `v`, another bookable group, the devices `d` and `e` of
the root group, and a booking by `u` of `booked`. -/
def sharedDb (booked : List String) : Db where
  users := ⟨[Sample.user "u" ⟨5, 36000000⟩ ⟨1, 0⟩, Sample.user "v" ⟨5, 36000000⟩ ⟨0, 0⟩], by decide⟩
  groups := ⟨[{ Sample.root with users := ["admin@devicehub", "u", "v"] },
    { Sample.root with id := "other", privilege := .user },
    Sample.booking "b" "u" .once 0 [⟨0, 3600000⟩] (3600000 * booked.length) booked],
    (by decide : ["root", "other", "b"].Nodup)⟩
  devices := ⟨["d", "e"].map fun serial => { Sample.device serial with
    group := { (Sample.device serial).group with lock := some false } }, by decide⟩

/-- The administrator moves a device to the other group. -/
def moveToOther (serial : String) : AuthorityRequest :=
  .addOriginGroupDevices { Sample.user "admin@devicehub" ⟨5, 36000000⟩ ⟨0, 0⟩ with
    privilege := .admin, subscribed := ["root", "other"] } "other" (some serial) false

/-- A device is added to the booking, the other one moves, and a user without bookings is
removed. -/
def lawfulRequests : List AuthorityRequest :=
  [.addGroupDevices 0 ⟨some "d", none, false, false, false, fun _ => true, fun devices => devices⟩
      "b" 0 (Sample.user "u" ⟨5, 36000000⟩ ⟨1, 0⟩),
    moveToOther "e",
    .removeGroupUsers (Sample.user "u" ⟨5, 36000000⟩ ⟨1, 0⟩) "root" (some "v") false]

theorem authority_of_run_shared : ∃ db', BookingAuthority db' ∧
    (authoritySystem.restrict fun db request => request.Lawful db).Run (sharedDb []) lawfulRequests
      db' ∧
    db'.groups.docs.map (fun g => (g.users, g.devices)) =
      [(["admin@devicehub", "u"], []), (["admin@devicehub"], []), (["u"], ["d"])] := by
  have hlisted : ∀ g, listedEmails g (some "v") = ["v"] :=
    fun _ => (by decide +kernel : PlainId "v").splitComma
  have hrun : (authoritySystem.restrict fun db request => request.Lawful db).Run (sharedDb [])
      lawfulRequests _ :=
    .more ⟨⟨trivial, _, runs_eval _ _ _⟩, by
      show ∀ g ∈ _, _ → _ → ∀ u ∈ _, SelectionLawful _ g _
      decide +kernel⟩
    (.more ⟨⟨trivial, _, runs_eval _ _ _⟩, by
      show ∀ g ∈ _, ∀ serial ∈ _, ∀ d ∈ _, _ → ¬ Booked _ serial
      decide +kernel⟩
    (.more ⟨⟨trivial, _, runs_eval _ _ _⟩, by
      rintro g - - email ⟨-, -, hemail, -⟩ ⟨h, hmem, ht, howner, -⟩
      rw [hlisted, List.mem_singleton] at hemail
      subst hemail
      revert h
      decide +kernel⟩ (.done _)))
  exact ⟨_, authority_of_run (by decide +kernel) (by decide +kernel) hrun, hrun, by decide +kernel⟩

/-- The booked device moves to a group of which the owner of the booking is no user: the guard lets
pass exactly those moves of booked devices. -/
theorem not_authority_of_move : ∃ db', BookingAuthority (sharedDb ["d"]) ∧
    authoritySystem.Run (sharedDb ["d"]) [moveToOther "d"] db' ∧ ¬ BookingAuthority db' :=
  ⟨_, by decide +kernel, .more ⟨trivial, _, runs_eval _ _ _⟩ (.done _), by decide +kernel⟩

end DeviceHub

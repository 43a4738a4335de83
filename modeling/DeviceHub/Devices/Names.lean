import DeviceHub.Async.Rely
import DeviceHub.Db.Frames
import DeviceHub.Db.Sample

/-!
# The labels of devices

A device carries the names of its current group and of its origin group.  `updateGroupName` writes
both into every device of the renamed group, whatever the device's groups are, and the paths such as
`$group?.name` by which it would keep a label denote nothing.

## Main definitions

* `Device.relabelled` : the device after its group was renamed, as it should be.
* `RenamesOwnLabels` : `updateGroupName` relabels the devices of the group, and changes nothing else
  of a device.
* `LabelsFit` : the condition on a device.

## Main results

* `runs_updateGroupName` : what `updateGroupName` does to the devices.
* `renamesOwnLabels_iff` : it relabels them rightly exactly when their labels fit.
-/

namespace DeviceHub

open Prog apiutil GroupModel AllModel

/-! ### Updates of listed devices -/

section Listed

variable {f : DeviceChange} {serials : List String}

/-- The database may go from `db` to `db'` by updating some of the devices `serials` with `f`. -/
structure Editing (f : DeviceChange) (serials : List String) (db db' : Db) : Prop where
  users : db'.users = db.users
  groups : db'.groups = db.groups
  devices : ∀ serial, db'.devices.findOne serial = db.devices.findOne serial ∨
    serial ∈ serials ∧ db'.devices.findOne serial = (db.devices.findOne serial).map f.apply

/-- To update a device twice is to update it once. -/
def DeviceChange.Idempotent (f : DeviceChange) : Prop := ∀ d, f.apply (f.apply d) = f.apply d

theorem Editing.trans (hidem : f.Idempotent) {db db₁ db' : Db} (h : Editing f serials db db₁)
    (h' : Editing f serials db₁ db') : Editing f serials db db' := by
  have hcomp : f.apply ∘ f.apply = f.apply := funext hidem
  refine ⟨h'.users.trans h.users, h'.groups.trans h.groups, fun serial => ?_⟩
  rcases h.devices serial with hsame | ⟨hmem, hmoved⟩ <;>
    rcases h'.devices serial with hsame' | ⟨hmem', hmoved'⟩
  · exact .inl (hsame'.trans hsame)
  · exact .inr ⟨hmem', by rw [hmoved', hsame]⟩
  · exact .inr ⟨hmem, by rw [hsame', hmoved]⟩
  · exact .inr ⟨hmem, by rw [hmoved', hmoved, Option.map_map, hcomp]⟩

/-- `Editing` as a rely. -/
def editing (f : DeviceChange) (hidem : f.Idempotent) (serials : List String) : Rely Db where
  may := Editing f serials
  refl _ := ⟨rfl, rfl, fun _ => .inl rfl⟩
  trans _ _ _ h h' := Editing.trans hidem h h'

/-- The device `serial` was updated. -/
def Edited (f : DeviceChange) (serial : String) (db : Db) : Prop :=
  (db.devices.findOne serial).map f.apply = db.devices.findOne serial

theorem Edited.stable {serial : String} {db db' : Db}
    (h : Editing f serials db db') (hdone : Edited f serial db) : Edited f serial db' := by
  unfold Edited at hdone ⊢
  rcases h.devices serial with hsame | ⟨-, hmoved⟩
  · rw [hsame, hdone]
  · rw [hmoved, hdone, hdone]

theorem findOne_updateDevice (db : Db) (f : DeviceChange) (serial : String) :
    (DbOp.exec (.devices (.update serial f)) db).2.devices.findOne serial =
      (db.devices.findOne serial).map f.apply := by
  simp [CollOp.exec, Collection.findOne_update]

/-- **Updates of listed devices that run at the same time** change each of them once. -/
theorem runs_updateEachDevice (hidem : f.Idempotent) {db db' : Db}
    {r : Except JsError (List (Option (Device × Device)))}
    (hrun : (Prog.all (serials.map fun serial => Db.updateDevice serial f)).Runs DbOp.exec db r
      db') : db'.users = db.users ∧ db'.groups = db.groups ∧
        ∀ serial, db'.devices.findOne serial = (db.devices.findOne serial).map fun d =>
          if serial ∈ serials then f.apply d else d := by
  have hupdate : ∀ serial ∈ serials, (Db.updateDevice serial f).Under DbOp.exec
      (editing f hidem serials) (fun _ => Edited f serial) db := by
    intro serial hserial t _
    have hself := findOne_updateDevice t f serial
    refine ⟨⟨rfl, rfl, fun k => ?_⟩, ?_⟩
    · by_cases hk : k = serial
      · subst hk
        exact .inr ⟨hserial, hself⟩
      · exact .inl (Collection.findOne_update_ne _ hk)
    · show Edited f serial _
      rw [Edited, hself, Option.map_map, show f.apply ∘ f.apply = f.apply from funext hidem]
  obtain ⟨hmay, hdone⟩ := Under.runs (Under.all (fun serial s t hst hs => hs.stable hst)
    hupdate) hrun
  refine ⟨hmay.users, hmay.groups, fun serial => ?_⟩
  by_cases hserial : serial ∈ serials
  · simp only [hserial, if_true]
    rcases hmay.devices serial with hsame | ⟨-, hmoved⟩
    · have hserialDone := hdone serial hserial
      rw [Edited, hsame] at hserialDone
      rw [hsame]
      exact hserialDone.symm
    · exact hmoved
  · simp only [hserial, if_false, Option.map_id']
    exact (hmay.devices serial).resolve_right fun h => hserial h.1

end Listed

/-! ### The labels after a renaming -/

/-- The device when the group `id` was renamed: its own labels follow, the others stay. -/
def Device.relabelled (id name : String) (d : Device) : Device :=
  { d with
    group := { d.group with
      name := if d.group.id = id then some name else d.group.name
      originName := if d.group.origin = id then some name else d.group.originName } }

/-- **After `updateGroupName` and the device updates that it starts** the devices of the group are
relabelled and all others are what they were. -/
def RenamesOwnLabels (db : Db) (g : Group) (name : String) : Prop :=
  ∀ r db', (updateGroupName g.id name).Runs DbOp.exec db r db' → ∀ serial,
    db'.devices.findOne serial = (db.devices.findOne serial).map fun d =>
      if serial ∈ g.devices then d.relabelled g.id name else d

/-- The labels that `updateGroupName` writes are the right ones: those of an origin group into the
devices that are in it and originate from it; the name of an active booking into its devices, none
into those of any other booking, and no name of an origin into either.  A device may also have the
label that is written already. -/
def LabelsFit (g : Group) (name : String) (d : Device) : Prop :=
  if isOriginGroup g.class_ then
    (d.group.id = g.id ∨ d.group.name = some name) ∧
      (d.group.origin = g.id ∨ d.group.originName = some name)
  else
    (if g.isActive then d.group.id = g.id ∨ d.group.name = some name
      else d.group.id ≠ g.id ∧ d.group.name = none) ∧
      d.group.origin ≠ g.id ∧ d.group.originName = none

instance (g : Group) (name : String) (d : Device) : Decidable (LabelsFit g name d) := by
  unfold LabelsFit
  infer_instance

theorem idempotent_setGroupName (g : Group) : (DeviceChange.setGroupName g).Idempotent :=
  fun _ => rfl

theorem labels_eq_iff (d : Device) (name originName name' originName' : Option String) :
    ({ d with group := { d.group with name := name, originName := originName } } : Device) =
        { d with group := { d.group with name := name', originName := originName' } } ↔
      name = name' ∧ originName = originName' := by
  simp

theorem relabelled_eq_iff (g : Group) (name : String) (d : Device) :
    (DeviceChange.setGroupName ((GroupChange.setName name).apply g)).apply d =
      d.relabelled g.id name ↔ LabelsFit g name d := by
  refine (eq_comm.trans (labels_eq_iff d _ _ _ _)).trans ?_
  unfold LabelsFit
  by_cases hid : d.group.id = g.id <;> by_cases ho : d.group.origin = g.id <;>
    cases horigin : isOriginGroup g.class_ <;> cases hactive : g.isActive <;>
      simp [GroupChange.apply, horigin, hactive, hid, ho]

/-- What `updateGroupName` does to the devices of a stored group. -/
theorem runs_updateGroupName {db db' : Db} {g : Group} {name : String} {r : Except JsError Group}
    (hg : db.groups.findOne g.id = some g)
    (hrun : (updateGroupName g.id name).Runs DbOp.exec db r db') (serial : String) :
    db'.devices.findOne serial = (db.devices.findOne serial).map fun d =>
      if serial ∈ g.devices then
        (DeviceChange.setGroupName ((GroupChange.setName name).apply g)).apply d
      else d := by
  unfold updateGroupName at hrun
  rw [bind_eq, Db.runs_updateGroup, hg] at hrun
  obtain ⟨r₁, hdetach⟩ := runs_discard hrun
  obtain ⟨r₂, hrescued⟩ := runs_rescue hdetach
  obtain ⟨r₃, hall⟩ := runs_discard hrescued
  exact (runs_updateEachDevice (idempotent_setGroupName _) hall).2.2 serial

/-- **A renaming relabels the devices of the group rightly** exactly when the labels fit that it
writes. -/
theorem renamesOwnLabels_iff {db : Db} {g : Group} (hg : db.groups.findOne g.id = some g)
    (name : String) : RenamesOwnLabels db g name ↔
      ∀ d ∈ db.devices.docs, d.serial ∈ g.devices → LabelsFit g name d := by
  constructor
  · intro h d hd hserial
    obtain ⟨r, db', hrun⟩ := exists_runs DbOp.exec (updateGroupName g.id name) db
    have hfound : db.devices.findOne d.serial = some d := Collection.findOne_of_mem hd
    have hright := h r db' hrun d.serial
    rw [runs_updateGroupName hg hrun, hfound] at hright
    simpa only [Option.map_some, Option.some_inj, if_pos hserial, relabelled_eq_iff] using hright
  · intro hfit r db' hrun serial
    rw [runs_updateGroupName hg hrun]
    cases hd : db.devices.findOne serial with
    | none => rfl
    | some d =>
      simp only [Option.map_some]
      by_cases hserial : serial ∈ g.devices
      · have hkey : d.serial = serial := Collection.key_of_findOne hd
        rw [if_pos hserial, if_pos hserial,
          (relabelled_eq_iff g name d).2 (hfit d (Collection.mem_of_findOne hd) (hkey ▸ hserial))]
      · rw [if_neg hserial, if_neg hserial]

/-- The root group holds the device `c`, and the active booking `g` has the device `d` of it. -/
def holderC : Group := { Sample.root with devices := ["c"] }

/-- An active booking of a device. -/
def activeG : Group :=
  { Sample.booking "g" "u" .once 0 [⟨0, 3600000⟩] 3600000 ["d"] with isActive := true }

/-- A database in which the device has the label of the booking. -/
def labelled : Db where
  users := Collection.empty
  groups := ⟨[holderC, activeG], by decide⟩
  devices := ⟨[Sample.device "c", (DeviceChange.setCurrentGroup activeG).apply (Sample.device "d")],
    by decide⟩

theorem renamesOwnLabels_root : RenamesOwnLabels labelled holderC "Shared" ↔
    ∀ d ∈ labelled.devices.docs, d.serial ∈ holderC.devices → LabelsFit holderC "Shared" d :=
  renamesOwnLabels_iff (by decide) "Shared"

/-- **A booking is renamed**, and its device loses the name of the group that it originates from. -/
theorem not_renamesOwnLabels_booking :
    (∀ r db', (updateGroupName "g" "trip").Runs DbOp.exec labelled r db' →
      (db'.devices.findOne "d").map (fun d => (d.group.name, d.group.originName)) =
        some (some "trip", none)) ∧
      (labelled.devices.findOne "d").map (fun d => d.group.originName) = some (some "Common") ∧
      ¬ RenamesOwnLabels labelled activeG "trip" := by
  have hg : labelled.groups.findOne activeG.id = some activeG := by decide
  refine ⟨fun r db' hrun => ?_, by decide, fun h => ?_⟩
  · rw [runs_updateGroupName hg hrun]
    decide
  · obtain ⟨r, db', hrun⟩ := exists_runs DbOp.exec (updateGroupName activeG.id "trip") labelled
    have hright := h r db' hrun "d"
    rw [runs_updateGroupName hg hrun] at hright
    exact absurd hright (by decide)

end DeviceHub

import DeviceHub.Api.Devices
import DeviceHub.Async.Protocol
import DeviceHub.Db.Ops
import DeviceHub.Db.Sample

/-!
# The lock on a device

Requests lock a device by its origin group, or the bookable devices that they have found, and unlock
what they have locked.  `lockDeviceByOrigin` looks at neither the lock nor the origin group of the
device: it removes the lock, and reports a modified document whenever there was one.

## Main definitions

* `LockRequest` : the requests that take locks, with what they do meanwhile.
* `lockMachine` : interleaved requests; the view is what the request was told that it holds.
* `LockProtocol` : a request gives back only locks that it was told of.
* `LockFair` : a lock is taken from nobody, and only of a device in the right origin group.

## Main results

* `LockRequest.obeys` : the requests follow the protocol.
* `modified_lockByOrigin_iff` : what `lockDeviceByOrigin` reports.
* `locks_exclusive_of_run` : if all locks are taken fairly, no two requests hold a device.
* `not_exclusive_of_two` : a device of another origin group, locked already, is locked again.
-/

namespace DeviceHub

open Prog Machine apiutil AllModel

/-! ### What a request holds -/

/-- A request holds the devices that satisfy the query. -/
abbrev Held : Type := Device → Bool

namespace Held

/-- A request that holds nothing. -/
def nothing : Held := fun _ => false

/-- One device. -/
def device (serial : String) : Held := fun d => d.serial = serial

/-- The request was told that it also holds the devices `q`. -/
def acquire (held q : Held) : Held := fun d => held d || q d

/-- The request has given the devices `q` back. -/
def release (held q : Held) : Held := fun d => held d && !q d

/-- The query is about serials. -/
def BySerial (held : Held) : Prop := ∀ d d' : Device, d.serial = d'.serial → held d = held d'

theorem bySerial_nothing : nothing.BySerial := fun _ _ _ => rfl

theorem bySerial_device (serial : String) : (device serial).BySerial := by
  intro d d' h
  simp only [device, h]

theorem BySerial.acquire {held q : Held} (h : held.BySerial) (hq : BySerial q) :
    (held.acquire q).BySerial := by
  intro d d' hsame
  simp only [Held.acquire, h d d' hsame, hq d d' hsame]

theorem BySerial.release {held q : Held} (h : held.BySerial) (hq : BySerial q) :
    (held.release q).BySerial := by
  intro d d' hsame
  simp only [Held.release, h d d' hsame, hq d d' hsame]

theorem device_eq_true {serial : String} {d : Device} :
    device serial d = true ↔ d.serial = serial := decide_eq_true_iff

theorem acquire_eq_true {held q : Held} {d : Device} :
    held.acquire q d = true ↔ held d = true ∨ q d = true := Bool.or_eq_true _ _ |>.to_iff

theorem release_eq_true {held q : Held} {d : Device} :
    held.release q d = true ↔ held d = true ∧ q d = false := by
  simp only [release, Bool.and_eq_true, Bool.not_eq_true']

/-- The two requests hold no device in common. -/
def Apart (db : Db) (held held' : Held) : Prop :=
  ∀ d ∈ db.devices.docs, ¬ (held d = true ∧ held' d = true)

instance (db : Db) (held held' : Held) : Decidable (held.Apart db held') :=
  inferInstanceAs (Decidable (∀ d ∈ db.devices.docs, _))

theorem Apart.symm {db : Db} {held held' : Held} (h : held.Apart db held') :
    held'.Apart db held := fun d hd hboth => h d hd hboth.symm

end Held

/-- The answer of `updateOne` says that the document was modified. -/
def modified (update : Option (Device × Device)) : Bool := update.any fun s => s.1 ≠ s.2

/-- The requests on locks.  Nobody is told of a lock but by the answer to `updateOne`, and by
`lockDevices` returning. -/
def lockMachine : Machine DbOp DbOp.Res Db Held where
  exec := DbOp.exec
  log held o r :=
    match o, r with
    | .devices (.update serial (.lockByOrigin _)), update =>
      if modified update then held.acquire (.device serial) else held
    | .devices (.update serial (.setDeviceLock lock)), _ =>
      if lock then held else held.release (.device serial)
    | .devices (.updateMany q (.setDeviceLock lock)), _ =>
      if lock then held.acquire q else held.release q
    | _, _ => held

/-- A request gives back only what it was told that it holds, and takes many devices by their
serials. -/
def LockProtocol (held : Held) : DbOp → Prop
  | .devices (.update serial f) =>
    match f with
    | .setDeviceLock lock => lock = false ∧ ∀ d, Held.device serial d = true → held d = true
    | _ => True
  | .devices (.updateMany q f) =>
    match f with
    | .lockByOrigin _ => False
    | .setDeviceLock lock => Held.BySerial q ∧ (lock = false → ∀ d, q d = true → held d = true)
    | _ => True
  | .devices (.insert _) => False
  | _ => True

/-- The condition on a call: a lock by origin finds no lock at all, or a free one of a device in one
of the groups, and a lock of devices finds free ones. -/
def LockFair : DbOp → Db → Prop
  | .devices (.update serial (.lockByOrigin groups)), db => ∀ d ∈ db.devices.docs, d.serial = serial →
      d.group.lock = none ∨ d.group.lock = some false ∧ d.group.origin ∈ groups
  | .devices (.updateMany q (.setDeviceLock true)), db => ∀ d ∈ db.devices.docs, q d = true →
      d.group.lock = some false
  | _, _ => True

instance (o : DbOp) (db : Db) : Decidable (LockFair o db) := by
  unfold LockFair
  split <;> infer_instance

/-! ### Exclusion -/

/-- No two requests hold a device, and no device that is held has a free lock. -/
structure Exclusion (helds : List Held) (db : Db) : Prop where
  bySerial : ∀ held ∈ helds, held.BySerial
  apart : helds.Pairwise (Held.Apart db)
  taken : ∀ held ∈ helds, ∀ d ∈ db.devices.docs, held d = true → d.group.lock ≠ some false

variable {helds helds' : List Held} {held held' : Held} {db db' : Db}

/-- One request goes from `held` to `held'`: it takes only free devices, the locks change only of
free devices and of those that it holds, and what it holds afterwards is not free. -/
theorem Exclusion.step (h : Exclusion (helds ++ held :: helds') db) (hserial : held'.BySerial)
    (htakes : ∀ d ∈ db.devices.docs, held' d = true → held d = true ∨ d.group.lock = some false)
    (hlocks : ∀ d' ∈ db'.devices.docs, ∃ d ∈ db.devices.docs, d'.serial = d.serial ∧
      (d'.group.lock = d.group.lock ∨ held d = true ∨ d.group.lock = some false))
    (hheld : ∀ d' ∈ db'.devices.docs, held' d' = true → d'.group.lock ≠ some false) :
    Exclusion (helds ++ held' :: helds') db' := by
  obtain ⟨hfirst, hothers⟩ := List.pairwise_cons.1
    ((List.pairwise_middle Held.Apart.symm).1 h.apart)
  have hmem : ∀ {other}, other ∈ helds ++ helds' → other ∈ helds ++ held :: helds' := by
    intro other hother
    rcases List.mem_append.1 hother with hother | hother
    · exact List.mem_append_left _ hother
    · exact List.mem_append_right _ (List.mem_cons_of_mem _ hother)
  have hcases : ∀ {other}, other ∈ helds ++ held' :: helds' →
      other = held' ∨ other ∈ helds ++ helds' := by
    intro other hother
    rcases List.mem_append.1 hother with hother | hother
    · exact .inr (List.mem_append_left _ hother)
    · exact (List.mem_cons.1 hother).imp_right (List.mem_append_right _)
  -- the device of another request is neither held by this one nor free, so its lock stays
  have hkept : ∀ other ∈ helds ++ helds', ∀ d' ∈ db'.devices.docs, other d' = true →
      ∃ d ∈ db.devices.docs, d'.serial = d.serial ∧ other d = true ∧
        d'.group.lock = d.group.lock ∧ held d ≠ true ∧ d.group.lock ≠ some false := by
    intro other hother d' hd' hholds
    obtain ⟨d, hd, hsame, hlock⟩ := hlocks d' hd'
    have hholds' : other d = true := (h.bySerial other (hmem hother) d' d hsame).symm.trans hholds
    have hnot : held d ≠ true := fun hboth => hfirst other hother d hd ⟨hboth, hholds'⟩
    have hfree := h.taken other (hmem hother) d hd hholds'
    exact ⟨d, hd, hsame, hholds', hlock.resolve_right (not_or.2 ⟨hnot, hfree⟩), hnot, hfree⟩
  refine ⟨fun other hother => ?_, ?_, fun other hother d' hd' hholds => ?_⟩
  · rcases hcases hother with rfl | hother
    · exact hserial
    · exact h.bySerial other (hmem hother)
  · refine (List.pairwise_middle Held.Apart.symm).2 (List.pairwise_cons.2 ⟨?_, ?_⟩)
    · rintro other hother d' hd' ⟨hself, hholds⟩
      obtain ⟨d, hd, hsame, -, -, hnot, hfree⟩ := hkept other hother d' hd' hholds
      rcases htakes d hd ((hserial d' d hsame).symm.trans hself) with hboth | hlock
      · exact hnot hboth
      · exact hfree hlock
    · refine hothers.imp_of_mem fun {a b} ha hb hapart d' hd' hboth => ?_
      obtain ⟨d, hd, hsame, hholds, -⟩ := hkept a ha d' hd' hboth.1
      exact hapart d hd ⟨hholds, (h.bySerial b (hmem hb) d' d hsame).symm.trans hboth.2⟩
  · rcases hcases hother with rfl | hother
    · exact hheld d' hd' hholds
    · obtain ⟨d, hd, -, -, hlock, -, hfree⟩ := hkept other hother d' hd' hholds
      exact fun hd' => hfree (hlock.symm.trans hd')

/-- A call that leaves locks alone. -/
theorem DbOp.KeepsLocks.exec_locks {o : DbOp} (h : o.KeepsLocks) (db : Db) :
    ∀ d' ∈ (o.exec db).2.devices.docs, ∃ d ∈ db.devices.docs, d'.serial = d.serial ∧
      d'.group.lock = d.group.lock := by
  have hsame : ∀ d' ∈ db.devices.docs, ∃ d ∈ db.devices.docs, d'.serial = d.serial ∧
      d'.group.lock = d.group.lock := fun d hd => ⟨d, hd, rfl, rfl⟩
  intro d' hd'
  cases o with
  | users o => exact hsame d' hd'
  | groups o => exact hsame d' hd'
  | devices o =>
    cases o with
    | findOne k => exact hsame d' hd'
    | find q => exact hsame d' hd'
    | insert d => exact h.elim
    | delete k => exact hsame d' (Collection.mem_delete.1 hd').1
    | update k f =>
      rcases Collection.mem_update.1 hd' with ⟨hd', -⟩ | ⟨d, hd, rfl⟩
      · exact hsame d' hd'
      · exact ⟨d, Collection.mem_of_findOne hd, f.serial_apply d, h.lock_apply d⟩
    | updateMany q f =>
      obtain ⟨d, hd, rfl⟩ := Collection.mem_updateBy.1 hd'
      refine ⟨d, hd, ?_⟩
      split
      · exact ⟨f.serial_apply d, h.lock_apply d⟩
      · exact ⟨rfl, rfl⟩

theorem DbOp.KeepsLocks.log_eq {o : DbOp} (h : o.KeepsLocks) (held : Held) (r : o.Res) :
    lockMachine.log held o r = held := by
  cases o with
  | users o => rfl
  | groups o => rfl
  | devices o =>
    cases o with
    | update k f => cases f <;> first | rfl | exact h.elim
    | updateMany q f => cases f <;> first | rfl | exact h.elim
    | _ => rfl

theorem DbOp.KeepsLocks.protocol {o : DbOp} (h : o.KeepsLocks) (held : Held) :
    LockProtocol held o := by
  cases o with
  | users o => trivial
  | groups o => trivial
  | devices o =>
    cases o with
    | update k f => cases f <;> trivial
    | updateMany q f => cases f <;> trivial
    | insert d => exact h.elim
    | _ => trivial

/-- The update of `lockDeviceByOrigin` changes the document if and only if it has a lock. -/
theorem lockByOrigin_eq_self_iff (groups : List String) {d : Device} :
    (DeviceChange.lockByOrigin groups).apply d = d ↔ d.group.lock = none := by
  constructor
  · intro h
    rw [← h]
    rfl
  · intro h
    obtain ⟨serial, group, present, ready, status, owner⟩ := d
    obtain ⟨id, name, gowner, lifeTime, class_, repetitions, origin, originName, lock⟩ := group
    simp only at h
    subst h
    rfl

/-- What `lockDeviceByOrigin` reports: a modified document, if and only if there is a device with a
lock, free or not. -/
theorem modified_lockByOrigin_iff {groups : List String} {serial : String} :
    modified ((db.devices.findOne serial).map fun d =>
        (d, (DeviceChange.lockByOrigin groups).apply d)) = true ↔
      ∃ d, db.devices.findOne serial = some d ∧ d.group.lock.isSome = true := by
  rcases Option.eq_none_or_eq_some (db.devices.findOne serial) with hd | ⟨d, hd⟩
  · rw [hd]
    constructor
    · rintro ⟨⟩
    · rintro ⟨_, ⟨⟩, -⟩
  · rw [hd, Option.map_some]
    have hiff : modified (some (d, (DeviceChange.lockByOrigin groups).apply d)) = true ↔
        d.group.lock.isSome = true := by
      rw [Option.isSome_iff_ne_none, ne_eq, ← lockByOrigin_eq_self_iff groups]
      show decide (d ≠ (DeviceChange.lockByOrigin groups).apply d) = true ↔ _
      rw [decide_eq_true_iff, ne_comm]
    rw [hiff]
    constructor
    · exact fun hlock => ⟨d, rfl, hlock⟩
    · rintro ⟨_, ⟨⟩, hlock⟩
      exact hlock

/-- `unlockDevice`, of a device that the request holds. -/
theorem Exclusion.unlock (h : Exclusion (helds ++ held :: helds') db) {serial : String} {lock : Bool}
    (hprotocol : LockProtocol held (.devices (.update serial (.setDeviceLock lock)))) :
    Exclusion (helds ++ lockMachine.log held (.devices (.update serial (.setDeviceLock lock)))
        (DbOp.exec (.devices (.update serial (.setDeviceLock lock))) db).1 :: helds')
      (DbOp.exec (.devices (.update serial (.setDeviceLock lock))) db).2 := by
  have hmem : held ∈ helds ++ held :: helds' := List.mem_append_right _ List.mem_cons_self
  have hserial := h.bySerial held hmem
  obtain ⟨rfl, hholds⟩ := hprotocol
  show Exclusion (helds ++ held.release (.device serial) :: helds') _
  refine h.step (hserial.release (Held.bySerial_device serial)) (fun d _ hd => ?_) (fun d' hd' => ?_)
    fun d' hd' hd => ?_
  · exact .inl (Held.release_eq_true.1 hd).1
  · rcases Collection.mem_update.1 hd' with ⟨hd', -⟩ | ⟨d, hd, rfl⟩
    · exact ⟨d', hd', rfl, .inl rfl⟩
    · have hkey : d.serial = serial := Collection.key_of_findOne hd
      exact ⟨d, Collection.mem_of_findOne hd, rfl, .inr (.inl (hholds d (Held.device_eq_true.2 hkey)))⟩
  · obtain ⟨hd, hout⟩ := Held.release_eq_true.1 hd
    rcases Collection.mem_update.1 hd' with ⟨hd', -⟩ | ⟨d, hfound, rfl⟩
    · exact h.taken held hmem d' hd' hd
    · -- the device that was unlocked is given back
      have hkey : d.serial = serial := Collection.key_of_findOne hfound
      have hself : Held.device serial ((DeviceChange.setDeviceLock false).apply d) = true :=
        Held.device_eq_true.2 hkey
      exact absurd (hself.symm.trans hout) (by decide)

/-- `lockDeviceByOrigin`, of a device without lock, or with a free one. -/
theorem Exclusion.lockByOrigin (h : Exclusion (helds ++ held :: helds') db) {serial : String}
    {groups : List String}
    (hfair : LockFair (.devices (.update serial (.lockByOrigin groups))) db) :
    Exclusion (helds ++ lockMachine.log held (.devices (.update serial (.lockByOrigin groups)))
        (DbOp.exec (.devices (.update serial (.lockByOrigin groups))) db).1 :: helds')
      (DbOp.exec (.devices (.update serial (.lockByOrigin groups))) db).2 := by
  have hmem : held ∈ helds ++ held :: helds' := List.mem_append_right _ List.mem_cons_self
  have hserial := h.bySerial held hmem
  have hlocks : ∀ d' ∈ (DbOp.exec (.devices (.update serial (.lockByOrigin groups))) db).2.devices.docs,
      ∃ d ∈ db.devices.docs, d'.serial = d.serial ∧
        (d'.group.lock = d.group.lock ∨ held d = true ∨ d.group.lock = some false) := by
    intro d' hd'
    rcases Collection.mem_update.1 hd' with ⟨hd', -⟩ | ⟨d, hd, rfl⟩
    · exact ⟨d', hd', rfl, .inl rfl⟩
    · refine ⟨d, Collection.mem_of_findOne hd, rfl, ?_⟩
      rcases hfair d (Collection.mem_of_findOne hd) (Collection.key_of_findOne hd) with hlock | hlock
      · exact .inl hlock.symm
      · exact .inr (.inr hlock.1)
  have hheld : ∀ d' ∈ (DbOp.exec (.devices (.update serial (.lockByOrigin groups))) db).2.devices.docs,
      held d' = true ∨ d'.serial = serial → d'.group.lock ≠ some false := by
    intro d' hd' hholds
    rcases Collection.mem_update.1 hd' with ⟨hd', hne⟩ | ⟨d, hd, rfl⟩
    · exact h.taken held hmem d' hd' (hholds.resolve_right hne)
    · exact (nofun : (none : Option Bool) ≠ some false)
  show Exclusion (helds ++ (if modified ((db.devices.findOne serial).map fun d =>
    (d, (DeviceChange.lockByOrigin groups).apply d)) then held.acquire (.device serial) else held) ::
      helds') _
  split
  · -- the document was modified, so it had a lock, and this lock was free
    rename_i hmodified
    obtain ⟨d, hd, hlock⟩ := modified_lockByOrigin_iff.1 hmodified
    have hfree : d.group.lock = some false := by
      rcases hfair d (Collection.mem_of_findOne hd) (Collection.key_of_findOne hd) with hnone | hfree
      · rw [hnone] at hlock
        cases hlock
      · exact hfree.1
    refine h.step (hserial.acquire (Held.bySerial_device serial)) (fun e he hholds => ?_) hlocks
      fun d' hd' hholds => ?_
    · rcases Held.acquire_eq_true.1 hholds with hholds | hsame
      · exact .inl hholds
      · have heq : e = d := Collection.eq_of_key_eq he (Collection.mem_of_findOne hd)
          ((Held.device_eq_true.1 hsame).trans (Collection.key_of_findOne hd).symm)
        exact .inr (heq ▸ hfree)
    · exact hheld d' hd' ((Held.acquire_eq_true.1 hholds).imp_right Held.device_eq_true.1)
  · exact h.step hserial (fun d _ hholds => .inl hholds) hlocks fun d' hd' hholds =>
      hheld d' hd' (.inl hholds)

/-- `lockDevices`, of devices with free locks. -/
theorem Exclusion.lockDevices (h : Exclusion (helds ++ held :: helds') db) {q : Held}
    (hprotocol : LockProtocol held (.devices (.updateMany q (.setDeviceLock true))))
    (hfair : LockFair (.devices (.updateMany q (.setDeviceLock true))) db) :
    Exclusion (helds ++ held.acquire q :: helds')
      (DbOp.exec (.devices (.updateMany q (.setDeviceLock true))) db).2 := by
  have hmem : held ∈ helds ++ held :: helds' := List.mem_append_right _ List.mem_cons_self
  have hserial := h.bySerial held hmem
  refine h.step (hserial.acquire hprotocol.1) (fun d hd hholds => ?_) (fun d' hd' => ?_)
    fun d' hd' hholds => ?_
  · exact (Held.acquire_eq_true.1 hholds).imp_right (hfair d hd)
  · obtain ⟨d, hd, rfl⟩ := Collection.mem_updateBy.1 hd'
    refine ⟨d, hd, ?_⟩
    split
    · rename_i hq
      exact ⟨rfl, .inr (.inr (hfair d hd hq))⟩
    · exact ⟨rfl, .inl rfl⟩
  · obtain ⟨d, hd, rfl⟩ := Collection.mem_updateBy.1 hd'
    by_cases hq : q d = true
    · rw [if_pos hq]
      exact (nofun : some true ≠ some false)
    · rw [if_neg hq] at hholds ⊢
      exact h.taken held hmem d hd ((Held.acquire_eq_true.1 hholds).resolve_right hq)

/-- `unlockDevices`, of devices that the request holds. -/
theorem Exclusion.unlockDevices (h : Exclusion (helds ++ held :: helds') db) {q : Held}
    (hprotocol : LockProtocol held (.devices (.updateMany q (.setDeviceLock false)))) :
    Exclusion (helds ++ held.release q :: helds')
      (DbOp.exec (.devices (.updateMany q (.setDeviceLock false))) db).2 := by
  have hmem : held ∈ helds ++ held :: helds' := List.mem_append_right _ List.mem_cons_self
  have hserial := h.bySerial held hmem
  obtain ⟨hq, hholds⟩ := hprotocol
  refine h.step (hserial.release hq) (fun d _ hd => .inl (Held.release_eq_true.1 hd).1)
    (fun d' hd' => ?_) fun d' hd' hd => ?_
  · obtain ⟨d, hd, rfl⟩ := Collection.mem_updateBy.1 hd'
    refine ⟨d, hd, ?_⟩
    split
    · rename_i hqd
      exact ⟨rfl, .inr (.inl (hholds rfl d hqd))⟩
    · exact ⟨rfl, .inl rfl⟩
  · obtain ⟨d, hmemd, rfl⟩ := Collection.mem_updateBy.1 hd'
    obtain ⟨hd, hout⟩ := Held.release_eq_true.1 hd
    by_cases hqd : q d = true
    · -- a device that was unlocked is given back
      rw [if_pos hqd] at hout
      have hself : q ((DeviceChange.setDeviceLock false).apply d) = true :=
        (hq ((DeviceChange.setDeviceLock false).apply d) d rfl).trans hqd
      exact absurd (hself.symm.trans hout) (by decide)
    · rw [if_neg hqd] at hd ⊢
      exact h.taken held hmem d hmemd hd

/-- **One call of one request preserves exclusion**, if the request follows the protocol and the
call takes locks fairly. -/
theorem Exclusion.call {o : DbOp} (h : Exclusion (helds ++ held :: helds') db)
    (hprotocol : LockProtocol held o) (hfair : LockFair o db) :
    Exclusion (helds ++ lockMachine.log held o (o.exec db).1 :: helds') (o.exec db).2 := by
  have hmem : held ∈ helds ++ held :: helds' := List.mem_append_right _ List.mem_cons_self
  have hserial := h.bySerial held hmem
  have htaken := h.taken held hmem
  have hkeeps : o.KeepsLocks → Exclusion (helds ++ lockMachine.log held o (o.exec db).1 :: helds')
      (o.exec db).2 := by
    intro ho
    rw [ho.log_eq]
    refine h.step hserial (fun d _ hholds => .inl hholds) (fun d' hd' => ?_) fun d' hd' hholds => ?_
    · obtain ⟨d, hd, hsame, hlock⟩ := ho.exec_locks db d' hd'
      exact ⟨d, hd, hsame, .inl hlock⟩
    · obtain ⟨d, hd, hsame, hlock⟩ := ho.exec_locks db d' hd'
      rw [hlock]
      exact htaken d hd ((hserial d' d hsame).symm.trans hholds)
  cases o with
  | users o => exact hkeeps trivial
  | groups o => exact hkeeps trivial
  | devices o =>
    cases o with
    | findOne k => exact hkeeps trivial
    | find q => exact hkeeps trivial
    | delete k => exact hkeeps trivial
    | insert d => exact hprotocol.elim
    | update serial f =>
      cases f with
      | setCurrentGroup g => exact hkeeps trivial
      | setOriginGroup g => exact hkeeps trivial
      | setRootGroup g => exact hkeeps trivial
      | setGroupName g => exact hkeeps trivial
      | setDeviceLock lock => exact h.unlock hprotocol
      | lockByOrigin groups => exact h.lockByOrigin hfair
    | updateMany q f =>
      cases f with
      | setCurrentGroup g => exact hkeeps trivial
      | setOriginGroup g => exact hkeeps trivial
      | setRootGroup g => exact hkeeps trivial
      | setGroupName g => exact hkeeps trivial
      | lockByOrigin groups => exact hprotocol.elim
      | setDeviceLock lock =>
        cases lock with
        | false => exact h.unlockDevices hprotocol
        | true => exact h.lockDevices hprotocol hfair

/-! ### The requests -/

/-- The program follows the lock protocol, whatever it holds. -/
def FollowsLocks {α : Type} (p : DbM α) : Prop :=
  ∀ held, lockMachine.Obeys LockProtocol held p fun _ _ => True

theorem FollowsLocks.of_ops {α : Type} {p : DbM α} (hp : p.Ops DbOp.KeepsLocks) :
    FollowsLocks p := fun held =>
  (Obeys.of_ops (fun _ ho => ho.protocol held) (fun _ ho r => ho.log_eq held r) hp).mono
    fun _ _ _ => trivial

theorem FollowsLocks.bind {α β : Type} {p : DbM α} {f : α → DbM β} (hp : FollowsLocks p)
    (hf : ∀ a, FollowsLocks (f a)) : FollowsLocks (p.bind f) := fun held =>
  (hp held).bind (fun held a _ => hf a held) fun _ _ _ => trivial

theorem FollowsLocks.tryCatch {α : Type} {p : DbM α} {f : JsError → DbM α} (hp : FollowsLocks p)
    (hf : ∀ e, FollowsLocks (f e)) : FollowsLocks (p.tryCatch f) := fun held =>
  (hp held).tryCatch (fun held e _ => hf e held) fun _ _ _ => trivial

theorem FollowsLocks.each {α β : Type} {f : β → DbM α} (hf : ∀ b, FollowsLocks (f b))
    (l : List β) : FollowsLocks (Prog.each f l) := by
  induction l with
  | nil => exact fun _ => trivial
  | cons b l ih => exact (hf b).bind fun a => ih.bind fun as _ => trivial

/-- What `lockDeviceByOrigin` tells: if it reports a modified document then the request holds the
device. -/
def ToldOf (serial : String) (held : Held) : Except JsError DeviceLockStats → Prop
  | .ok stats => (stats.modifiedCount ≠ 0 → ∀ d, Held.device serial d = true → held d = true) ∧
      ∀ d ∈ stats.newVal, d.serial = serial
  | .error _ => True

theorem obeys_lockDeviceByOrigin (groups : List String) (serial : String) (held : Held) :
    lockMachine.Obeys LockProtocol held (lockDeviceByOrigin groups serial) (ToldOf serial) := by
  have hloop : ∀ n held, lockMachine.Obeys LockProtocol held
      (deviceIntervalWrapper (wrappedlockDeviceByOrigin groups serial) n) (ToldOf serial) := by
    intro n
    induction n with
    | zero => exact fun _ => trivial
    | succ n ih =>
      intro held
      refine Obeys.bind (Q := fun held r => ∀ a, r = .ok a → ToldOf serial held (.ok a.1))
        ⟨trivial, fun db => ⟨trivial, fun db₁ => ⟨trivial, fun db₂ => ?_⟩⟩⟩ (fun held a h => ?_)
        fun _ _ _ => trivial
      · -- the answers: the document before and after the update, and the document read again
        have htold : ToldOf serial (lockMachine.log (lockMachine.log (lockMachine.log held
            (.devices (.findOne serial)) (db.devices.findOne serial))
            (.devices (.update serial (.lockByOrigin groups)))
              (DbOp.exec (.devices (.update serial (.lockByOrigin groups))) db₁).1)
            (.devices (.findOne serial)) (db₂.devices.findOne serial))
            (.ok (DeviceLockStats.ofUpdate
              (DbOp.exec (.devices (.update serial (.lockByOrigin groups))) db₁).1
              (db₂.devices.findOne serial))) := by
          refine ⟨fun hcount d hd => ?_, fun d hd => Collection.key_of_findOne hd⟩
          have hmodified : modified (DbOp.exec (.devices (.update serial (.lockByOrigin groups)))
              db₁).1 = true := by
            by_contra hnot
            exact hcount (if_neg hnot)
          show (if modified (DbOp.exec (.devices (.update serial (.lockByOrigin groups))) db₁).1
            then held.acquire (.device serial) else held) d = true
          rw [if_pos hmodified]
          exact Held.acquire_eq_true.2 (.inr hd)
        show lockMachine.Obeys LockProtocol _ (if _ then _ else _) _
        split
        · rintro _ ⟨⟩
          exact htold
        · refine ⟨trivial, fun db₃ => ?_⟩
          rintro _ ⟨⟩
          exact htold
      · show lockMachine.Obeys LockProtocol held (if a.2 then _ else _) _
        split
        · exact h a rfl
        · exact ih held
  exact hloop 10 held

theorem obeys_unlock {device : Option Device} {held : Held}
    (hholds : ∀ d ∈ device, ∀ e, Held.device d.serial e = true → held e = true) :
    lockMachine.Obeys LockProtocol held (devices.unlock device) fun _ _ => True := by
  cases device with
  | none => trivial
  | some d => exact ⟨trivial, fun _ => ⟨⟨rfl, hholds d rfl⟩, fun _ => trivial⟩⟩

/-- A request to one device: it is locked, `work` is done, and it is unlocked. -/
def withDeviceLock {α : Type} (groups : List String) (serial : String) (notLocked : α)
    (work : Option Device → DbM α) : DbM α := do
  let stats ← lockDeviceByOrigin groups serial
  if stats.modifiedCount = 0 then return notLocked
  else
    let result ← (work stats.newVal).tryCatch fun err => do
      devices.unlock stats.newVal
      throw err
    devices.unlock stats.newVal
    return result

theorem updateDeviceOriginGroup_eq (user : User) (group : Group) (serial : String) :
    devices.updateDeviceOriginGroup user group serial =
      withDeviceLock user.subscribed serial .notFound fun _ => devices.moveDevice group serial := rfl

theorem followsLocks_withDeviceLock {α : Type} {groups : List String} {serial : String}
    {notLocked : α} {work : Option Device → DbM α} (hwork : ∀ d, (work d).Ops DbOp.KeepsLocks) :
    FollowsLocks (withDeviceLock groups serial notLocked work) := by
  intro held
  refine (obeys_lockDeviceByOrigin groups serial held).bind (fun held stats htold => ?_)
    fun _ _ _ => trivial
  split
  · trivial
  · rename_i hmodified
    have hunlock : lockMachine.Obeys LockProtocol held (devices.unlock stats.newVal)
        fun _ _ => True :=
      obeys_unlock fun d hd => htold.2 d hd ▸ htold.1 hmodified
    have hkeeps : lockMachine.Obeys LockProtocol held (work stats.newVal) fun held' _ =>
        held' = held :=
      Obeys.of_ops (fun _ ho => ho.protocol _) (fun _ ho r => ho.log_eq _ r)
        (hwork stats.newVal)
    -- the work leaves the locks alone, so the request still holds the device
    have htry : lockMachine.Obeys LockProtocol held ((work stats.newVal).tryCatch fun err => do
        devices.unlock stats.newVal
        throw err) fun held' r => (∃ a, r = .ok a) → held' = held := by
      refine hkeeps.tryCatch (fun held' e heq => ?_) fun held' a heq _ => heq
      subst heq
      exact hunlock.bind (fun _ _ _ => nofun) fun _ _ _ => nofun
    refine htry.bind (fun held' a heq => ?_) fun _ _ _ => trivial
    obtain rfl := heq ⟨a, rfl⟩
    exact hunlock.bind (fun _ _ _ => trivial) fun _ _ _ => trivial

theorem followsLocks_loadBookableDevicesWithFiltersLock {groupIds : List String}
    {filters : Device → Bool} {sample : List Device → List Device}
    {devicesFunc : List Device → DbM (Option Response)}
    (hfunc : ∀ ds, (devicesFunc ds).Ops DbOp.KeepsLocks) :
    FollowsLocks (groups.loadBookableDevicesWithFiltersLock groupIds filters sample devicesFunc) := by
  intro held
  refine ⟨trivial, fun db => ?_⟩
  set serials := (sample (db.devices.docs.filter (groups.bookable groupIds filters))).map
    fun d => d.serial with hserials
  set q : Held := fun d => decide (d.serial ∈ serials) with hq
  have hbyserial : q.BySerial := by
    intro d d' hsame
    simp only [hq, hsame]
  refine ⟨⟨hbyserial, fun h => by cases h⟩, fun _ => ?_⟩
  have hkeeps : lockMachine.Obeys LockProtocol (held.acquire q)
      ((devicesFunc (sample (db.devices.docs.filter (groups.bookable groupIds filters)))).tryCatch
        fun _ => return none) fun held' _ => held' = held.acquire q :=
    (Obeys.of_ops (fun _ ho => ho.protocol _) (fun _ ho r => ho.log_eq _ r)
      (Ops.tryCatch (hfunc _) fun _ => ops_ret))
  refine hkeeps.bind (fun held' response heq => ?_) fun _ _ _ => trivial
  subst heq
  split
  · exact ⟨⟨hbyserial, fun _ d hd => Held.acquire_eq_true.2 (.inr hd)⟩, fun _ => trivial⟩
  · trivial

/-! ### The controllers -/

section Controllers

theorem keepsLocks_of_isRead {α : Type} {p : DbM α} (hp : p.Ops DbOp.IsRead) :
    p.Ops DbOp.KeepsLocks := Ops.mono (fun _ ho => ho.keepsLocks) hp

theorem isRead_getUserGroup (email id : String) : (GroupModel.getUserGroup email id).Ops DbOp.IsRead :=
  Ops.bind (isRead_findGroups _) fun _ => ops_ret

theorem keepsLocks_deleteUserGroup (id : String) :
    (GroupModel.deleteUserGroup id).Ops DbOp.KeepsLocks :=
  ops_deleteUserGroup (fun _ ho => ho.2) trivial (fun _ _ => trivial) (fun _ => trivial)
    fun _ _ => trivial

theorem keepsLocks_removeGroup (user : User) (id : String) :
    (groups.removeGroup user id).Ops DbOp.KeepsLocks := by
  have hdelete : (do return groups.Removal.ofDeletion (← GroupModel.deleteUserGroup id) :
      DbM groups.Removal).Ops DbOp.KeepsLocks :=
    Ops.bind (keepsLocks_deleteUserGroup id) fun _ => ops_ret
  have hreject : ∀ serials, (groups.rejectBooked serials).Ops DbOp.KeepsLocks := by
    intro serials
    induction serials with
    | nil => trivial
    | cons serial serials ih =>
      refine Ops.bind (Ops.bind (keepsLocks_of_isRead (isRead_findGroups _)) fun _ => ops_ret)
        fun booked => ?_
      split
      · trivial
      · exact ih
  refine Ops.bind (keepsLocks_of_isRead (isRead_getUserGroup _ _)) fun group => ?_
  cases group with
  | none => trivial
  | some group =>
    dsimp only
    split
    · trivial
    split
    · trivial
    split
    · refine Ops.tryCatch (Ops.bind (hreject _) fun _ => hdelete) fun e => ?_
      split <;> trivial
    · exact hdelete

theorem keepsLocks_deleteGroups (user : User) (ids : Option String) (redirected : Bool) :
    (groups.deleteGroups user ids redirected).Ops DbOp.KeepsLocks := by
  have hremove : ∀ target ids, (groups.removeGroups user target ids).Ops DbOp.KeepsLocks := by
    intro target ids
    refine Ops.tryCatch (Ops.bind (Ops.each fun id _ => keepsLocks_removeGroup user id)
      fun _ => ops_ret) fun e => ?_
    split <;> trivial
  refine Ops.tryCatch ?_ fun _ => ops_ret
  split
  · exact hremove _ _
  · refine Ops.bind (Ops.bind (keepsLocks_of_isRead isRead_getRootGroup) fun group => ?_)
      fun groups => hremove _ _
    split
    · exact keepsLocks_of_isRead (isRead_findGroups _)
    · exact keepsLocks_of_isRead (isRead_findGroups _)

theorem keepsLocks_addDevicesToGroup (user : User) (now : Int) (target : String) (isInternal : Bool)
    (group : Group) (serials : List String) :
    (groups.addDevicesToGroup user now target isInternal group serials).Ops DbOp.KeepsLocks := by
  have hfind : ∀ q : Device → Bool, (Db.findDevices q).Ops DbOp.KeepsLocks := fun q =>
    ops_perform.2 trivial
  refine Ops.tryCatch (Ops.bind (ops_addGroupDevices (fun _ ho => ho.2) (fun _ => trivial)
    fun _ => trivial) fun autotestsGroup => ?_) fun e => ?_
  · split
    · refine Ops.bind (Ops.mono (fun _ ho => ho.2) (places_updateDevicesCurrentGroup _ _)) fun _ => ?_
      split
      · exact Ops.bind (hfind _) fun _ => ops_ret
      · trivial
    · split
      · exact Ops.bind (hfind _) fun _ => ops_ret
      · trivial
  · split
    · exact Ops.bind (keepsLocks_deleteGroups _ _ _) fun _ => ops_ret
    · trivial
    · trivial

theorem followsLocks_addGroupDevices (now : Int) (sel : groups.DeviceSelection) (id : String)
    (reruns : Nat) (user : User) : FollowsLocks (groups.addGroupDevices now sel id reruns user) := by
  have hselected : ∀ user group, FollowsLocks (groups.addSelectedDevices user now sel group) := by
    intro user group
    unfold groups.addSelectedDevices
    dsimp only
    split
    · refine .bind (.of_ops (keepsLocks_of_isRead (isRead_findGroups _))) fun found => ?_
      split
      · exact fun _ => trivial
      · exact .of_ops (keepsLocks_addDevicesToGroup _ _ _ _ _ _)
    · split
      · exact .of_ops (keepsLocks_addDevicesToGroup _ _ _ _ _ _)
      · refine followsLocks_loadBookableDevicesWithFiltersLock fun ds => ?_
        split
        · exact keepsLocks_addDevicesToGroup _ _ _ _ _ _
        · exact Ops.bind (keepsLocks_deleteGroups _ _ _) fun _ => ops_ret
      · exact fun _ => trivial
  have hedit : ∀ user group, FollowsLocks (if isOriginGroup group.class_ then
      return some ⟨400, "Bad Request (use admin API for bookable/standard groups)"⟩
      else groups.orInternalError (groups.addSelectedDevices user now sel group) :
        DbM (Option Response)) := by
    intro user group
    split
    · exact fun _ => trivial
    · exact .tryCatch (hselected user group) fun _ _ => trivial
  induction reruns generalizing user with
  | zero =>
    unfold groups.addGroupDevices
    refine .bind (.of_ops (keepsLocks_of_isRead (isRead_getUserGroup _ _))) fun group => ?_
    cases group with
    | none => exact fun _ => trivial
    | some group =>
      dsimp only
      split
      · exact fun _ => trivial
      · exact hedit user group
  | succ reruns ih =>
    unfold groups.addGroupDevices
    refine .bind (.of_ops (keepsLocks_of_isRead (isRead_getUserGroup _ _))) fun group => ?_
    cases group with
    | none => exact fun _ => trivial
    | some group =>
      dsimp only
      split
      · -- the request runs again as the owner of the group
        refine .bind (.of_ops (keepsLocks_of_isRead (isRead_findUser _))) fun owner => ?_
        cases owner with
        | none => exact fun _ => trivial
        | some owner => exact ih owner
      · exact hedit user group

theorem keepsLocks_moveDevice (group : Group) (serial : String) :
    (devices.moveDevice group serial).Ops DbOp.KeepsLocks := by
  have hallowed : (GroupModel.isUpdateDeviceOriginGroupAllowed serial group).Ops
      DbOp.KeepsLocks := by
    refine Ops.bind (keepsLocks_of_isRead (isRead_findGroups _)) fun found => ?_
    split
    · trivial
    · split <;> trivial
  refine Ops.bind hallowed fun allowed => ?_
  split
  · refine Ops.bind (Ops.bind (ops_perform.2 trivial) fun _ => ops_ret) fun result => ?_
    split
    · exact Ops.bind (ops_perform.2 trivial) fun _ => ops_ret
    · trivial
  · trivial

theorem followsLocks_addOriginGroupDevices (user : User) (id : String) (serials : Option String)
    (redirected : Bool) : FollowsLocks (devices.addOriginGroupDevices user id serials redirected) := by
  have hserials : ∀ group, (devices.originSerials user group serials).Ops DbOp.KeepsLocks := by
    intro group
    cases serials with
    | some serials => trivial
    | none =>
      refine Ops.bind (ops_perform.2 trivial) fun found => Ops.bind ?_ fun _ => ops_ret
      split
      · trivial
      · exact Ops.bind (keepsLocks_of_isRead (isRead_findGroups _)) fun _ => ops_ret
  refine .tryCatch (.bind (.of_ops (keepsLocks_of_isRead (isRead_getUserGroup _ _))) fun group => ?_)
    fun _ _ => trivial
  cases group with
  | none => exact fun _ => trivial
  | some group =>
    dsimp only
    split
    · exact fun _ => trivial
    refine .bind (.of_ops (hserials group)) fun found => .tryCatch (.bind (.each ?_ found)
      fun _ _ => trivial) fun e => ?_
    · intro serial
      rw [updateDeviceOriginGroup_eq]
      exact followsLocks_withDeviceLock fun _ => keepsLocks_moveDevice group serial
    · split <;> exact fun _ => trivial

theorem followsLocks_removeOriginGroupDevices (user : User) (id : String) (serials : Option String)
    (redirected : Bool) :
    FollowsLocks (devices.removeOriginGroupDevices user id serials redirected) := by
  refine .bind (.of_ops (keepsLocks_of_isRead (isRead_getUserGroup _ _))) fun group => ?_
  cases group with
  | none => exact fun _ => trivial
  | some group =>
    exact .bind (.of_ops (keepsLocks_of_isRead isRead_getRootGroup)) fun root =>
      followsLocks_addOriginGroupDevices user root.id _ redirected

end Controllers

/-! ### Runs -/

/-- The requests that take locks: the controllers that move devices and those that look for bookable
ones, and, with whatever they do meanwhile, the others.  Nothing else touches the locks. -/
inductive LockRequest where
  | addOriginGroupDevices (user : User) (id : String) (serials : Option String) (redirected : Bool)
  | removeOriginGroupDevices (user : User) (id : String) (serials : Option String)
      (redirected : Bool)
  | addGroupDevices (now : Int) (sel : groups.DeviceSelection) (id : String) (reruns : Nat)
      (user : User)
  | lockDeviceByOrigin (groups : List String) (serial : String) (work : Option Device → DbM Unit)
      (hwork : ∀ d, (work d).Ops DbOp.KeepsLocks)
  | loadBookableDevicesWithFiltersLock (groups : List String) (filters : Device → Bool)
      (sample : List Device → List Device) (devicesFunc : List Device → DbM (Option Response))
      (hfunc : ∀ ds, (devicesFunc ds).Ops DbOp.KeepsLocks)
  | other (work : DbM Unit) (hwork : work.Ops DbOp.KeepsLocks)

namespace LockRequest

/-- What the request does; its answer is no matter here. -/
def prog : LockRequest → DbM Unit
  | .addOriginGroupDevices user id serials redirected =>
    (devices.addOriginGroupDevices user id serials redirected).bind fun _ => .ret ()
  | .removeOriginGroupDevices user id serials redirected =>
    (devices.removeOriginGroupDevices user id serials redirected).bind fun _ => .ret ()
  | .addGroupDevices now sel id reruns user =>
    (groups.addGroupDevices now sel id reruns user).bind fun _ => .ret ()
  | .lockDeviceByOrigin groups serial work _ => withDeviceLock groups serial () work
  | .loadBookableDevicesWithFiltersLock groupIds filters sample devicesFunc _ =>
    (groups.loadBookableDevicesWithFiltersLock groupIds filters sample devicesFunc).bind
      fun _ => .ret ()
  | .other work _ => work

/-- **The requests follow the protocol.** -/
theorem obeys (r : LockRequest) : FollowsLocks r.prog := by
  cases r with
  | addOriginGroupDevices user id serials redirected =>
    exact (followsLocks_addOriginGroupDevices user id serials redirected).bind fun _ _ => trivial
  | removeOriginGroupDevices user id serials redirected =>
    exact (followsLocks_removeOriginGroupDevices user id serials redirected).bind fun _ _ => trivial
  | addGroupDevices now sel id reruns user =>
    exact (followsLocks_addGroupDevices now sel id reruns user).bind fun _ _ => trivial
  | lockDeviceByOrigin groups serial work hwork => exact followsLocks_withDeviceLock hwork
  | loadBookableDevicesWithFiltersLock groupIds filters sample devicesFunc hfunc =>
    exact (followsLocks_loadBookableDevicesWithFiltersLock hfunc).bind fun _ _ => trivial
  | other work hwork => exact .of_ops hwork

end LockRequest

/-- The requests as a pool; at first they hold nothing. -/
def lockPool (requests : List LockRequest) : List (Held × DbM Unit) :=
  requests.map fun r => (Held.nothing, r.prog)

theorem exclusion_start (requests : List LockRequest) (db : Db) :
    Exclusion ((lockPool requests).map Prod.fst) db := by
  have hnothing : ∀ held ∈ (lockPool requests).map Prod.fst, held = Held.nothing := by
    intro held hheld
    obtain ⟨c, hc, rfl⟩ := List.mem_map.1 hheld
    obtain ⟨r, -, rfl⟩ := List.mem_map.1 hc
    rfl
  refine ⟨fun held hheld => ?_, ?_, fun held hheld d _ hd => ?_⟩
  · rw [hnothing held hheld]
    exact Held.bySerial_nothing
  · refine List.pairwise_of_forall_mem_list fun held hheld held' _ d _ hboth => ?_
    rw [hnothing held hheld] at hboth
    cases hboth.1
  · rw [hnothing held hheld] at hd
    cases hd

/-- The device has a free lock, and its origin is one of the groups. -/
def FreeOfOrigin (groups : List String) (serial : String) (db : Db) : Prop :=
  ∃ d, db.devices.findOne serial = some d ∧ d.group.lock = some false ∧ d.group.origin ∈ groups

/-- **Locks are exclusive in every run that takes them fairly.**  Each `lockDeviceByOrigin` that
reports a modified document found a free lock on a device of one of its groups, and no two requests
are told that they hold the same device. -/
theorem locks_exclusive_of_run {requests : List LockRequest} {db : Db}
    {c : List (Held × DbM Unit) × Db} {mvs : List (Machine.Move DbOp Db Held)}
    (hrun : (lockMachine.guarded (fun _ o db => LockFair o db) JsError Unit).Run
      (lockPool requests, db) mvs c) :
    (∀ mv ∈ mvs, ∀ groups serial, mv.op = .devices (.update serial (.lockByOrigin groups)) →
      modified (DbOp.exec (.devices (.update serial (.lockByOrigin groups))) mv.pre).1 = true →
        FreeOfOrigin groups serial mv.pre) ∧
      (c.1.map Prod.fst).Pairwise (Held.Apart c.2) := by
  constructor
  · intro mv hmv groups serial hop hmodified
    obtain ⟨-, hfair⟩ := hrun.exists_of_restrict mv hmv
    obtain ⟨d, hd, hlock⟩ := modified_lockByOrigin_iff.1 hmodified
    rw [hop] at hfair
    refine ⟨d, hd, ?_⟩
    rcases hfair d (Collection.mem_of_findOne hd) (Collection.key_of_findOne hd) with hnone | hfree
    · rw [hnone] at hlock
      cases hlock
    · exact hfree
  · have hobeys : ∀ p ∈ lockPool requests, lockMachine.Obeys LockProtocol p.1 p.2 fun _ _ => True := by
      intro p hp
      obtain ⟨r, -, rfl⟩ := List.mem_map.1 hp
      exact r.obeys _
    exact (obeys_invariant (J := Exclusion) (fun _ _ _ _ _ h hprotocol hfair =>
      h.call hprotocol hfair) hrun hobeys (exclusion_start requests db)).2.apart

/-! ### Two requests for one device -/

section Examples

/-- The devices `d` and `e` of the root group, with the lock that new devices have, and a group of
the user `u`. -/
def twoDevices : Db where
  users := Collection.empty
  groups := ⟨[Sample.root, Sample.booking "b" "u" .once 0 [⟨0, 1⟩] 0 []], by decide⟩
  devices := ⟨["d", "e"].map fun serial => (DeviceChange.setDeviceLock false).apply
    (Sample.device serial), by decide⟩

/-- A user asks for one bookable device, of any kind that meets `filters`. -/
def askForDevice (filters : Device → Bool) : LockRequest :=
  .addGroupDevices 0
    { serials := none
      amount := some 1
      needAmount := true
      isInternal := false
      redirected := false
      filters := filters
      sample := List.take 1 }
    "b" 0 { Sample.user "u" ⟨5, 0⟩ ⟨0, 0⟩ with subscribed := ["root"] }

/-- The administrator puts the device into the root group. -/
def putIntoRoot (serial : String) (subscribed : List String) : LockRequest :=
  .addOriginGroupDevices
    { Sample.user "admin@devicehub" ⟨5, 0⟩ ⟨0, 0⟩ with subscribed := subscribed }
    "root" (some serial) false

/-- The first request is told that it holds the device `d`, and the second one that it holds the
device `e`. -/
theorem locks_exclusive_of_run_devices : ∃ mvs c,
    (lockMachine.guarded (fun _ o db => LockFair o db) JsError Unit).Run
      (lockPool [askForDevice fun d => d.serial = "d", putIntoRoot "e" ["root"]], twoDevices)
      mvs c ∧ (c.1.map fun p => c.2.devices.docs.map p.1) = [[true, false], [false, true]] ∧
      (c.1.map Prod.fst).Pairwise (Held.Apart c.2) := by
  obtain ⟨mvs, c, hrun, hc⟩ := exists_run_of_play (A := lockMachine)
    (G := fun _ o db => LockFair o db) [0, 1, 1, 0, 0, 1]
    (lockPool [askForDevice fun d => d.serial = "d", putIntoRoot "e" ["root"]], twoDevices)
    (fun c => (c.1.map fun p => c.2.devices.docs.map p.1) = [[true, false], [false, true]])
    (by decide +kernel)
  exact ⟨mvs, c, hrun, by simpa using hc, (locks_exclusive_of_run hrun).2⟩

/-- The first request has locked the device `d`.  The second one is of a user in none of the groups
of the device; it is told that it holds the device too. -/
theorem not_exclusive_of_two : ∃ mvs c, (lockMachine.pool JsError Unit).Run
    (lockPool [askForDevice fun d => d.serial = "d", putIntoRoot "d" []], twoDevices) mvs c ∧
      ¬ (c.1.map Prod.fst).Pairwise (Held.Apart c.2) := by
  obtain ⟨mvs, c, hrun, hc⟩ := exists_run_of_play (A := lockMachine) (G := fun _ _ _ => True)
    [0, 0, 0, 1, 1, 1]
    (lockPool [askForDevice fun d => d.serial = "d", putIntoRoot "d" []], twoDevices)
    (fun c => ¬ (c.1.map Prod.fst).Pairwise (Held.Apart c.2)) (by decide +kernel)
  exact ⟨mvs, c, hrun.of_restrict, by simpa using hc⟩

end Examples

end DeviceHub

import DeviceHub.Async.Lts
import DeviceHub.Util.TtlChain
import Mathlib.Algebra.Order.Ring.Int

/-!
# `units/reaper/index.ts`

The reaper keeps the devices that it hears of in a set with a time to live, and announces which ones
are present and which ones have not been heard of for too long.  The set loses the devices behind a
device that is heard of again (`TTLSet.Linked.bump_held`), and so the reaper forgets to reap.

## Main definitions

* `Reaper`, `Reaper.system` : the unit with its clock and its timer, and what can happen.
* `Reaper.messages` : what the unit has sent.
* `Reaper.Shadows` : another device that the set holds is heard of while a device is awaited.
* `Reaper.Sound` : the invariant.

## Main results

* `Reaper.reaped_iff` : exactly when a silent device is announced to be absent.
-/

namespace DeviceHub

/-- Serials, none of which is a member of `Object.prototype`. -/
structure Serial where
  name : String
  plain : name ∉ TTLSet.inherited

/-- What the unit sends to the global channel. -/
inductive ReaperMessage where
  | devicePresentMessage (serial : String)
  | deviceAbsentMessage (serial : String)
  deriving DecidableEq

/-- The reaper: the set of the present devices, the clock and the timer. -/
structure Reaper where
  ttlset : TTLSet
  clock : Int := 0
  /-- When the timer of the set is due. -/
  due : Option Int := none

namespace Reaper

/-! ### The unit -/

section Model

/-- A call of the set, or the passing of time. -/
inductive Op where
  | drop (serial : Serial)
  | bump (serial : Serial) (flags : ℕ)
  | check
  | pass (time : ℕ)

variable (s : Reaper)

/-- The set has set its timer. -/
def scheduled (ttlset : TTLSet) : Reaper :=
  { s with ttlset, due := ttlset.timer.map (s.clock + ·) }

/-- What an operation makes of the reaper. -/
def Op.apply (s : Reaper) : Op → Reaper
  | .drop serial => { s with ttlset := s.ttlset.drop serial.name TTLSet.SILENT }
  | .bump serial flags => s.scheduled (s.ttlset.bump serial.name s.clock s.clock flags)
  | .check => s.scheduled (s.ttlset.check s.clock)
  | .pass time => { s with clock := s.clock + time }

/-- What can happen to the reaper. -/
inductive Event where
  | deviceIntroductionMessage (serial : Serial)
  | deviceHeartbeatMessage (serial : Serial)
  | deviceAbsentMessage (serial : Serial)
  /-- The present devices, as they were asked for at the start. -/
  | presentDevices (devices : List Serial)
  | timeout
  | pass (time : ℕ)

/-- What an event makes the unit do. -/
def Event.ops : Event → List Op
  | .deviceIntroductionMessage serial => [.drop serial, .bump serial 0]
  | .deviceHeartbeatMessage serial => [.bump serial 0]
  | .deviceAbsentMessage serial => [.drop serial]
  | .presentDevices devices => devices.map fun serial => .bump serial TTLSet.SILENT
  | .timeout => [.check]
  | .pass time => [.pass time]

/-- The timer fires when it is due, or later. -/
def Overdue : Prop := ∃ due ∈ s.due, due ≤ s.clock

instance : Decidable s.Overdue := inferInstanceAs (Decidable (∃ due ∈ s.due, due ≤ s.clock))

/-- What an event does; the timer runs when it is due. -/
def next (s : Reaper) : Event → Option Reaper
  | .timeout => if s.Overdue then some ([Op.check].foldl Op.apply s) else none
  | event => some (event.ops.foldl Op.apply s)

/-- The runs of the reaper. -/
def system : Lts Reaper Event := .ofNext next

/-- The listeners of `insert` and `drop`. -/
def message : TTLEvent → ReaperMessage
  | .insert serial => .devicePresentMessage serial
  | .drop serial => .deviceAbsentMessage serial

/-- The messages that were sent. -/
def messages : List ReaperMessage := s.ttlset.emitted.map message

/-- The reaper after its start. -/
def start (ttl : Int) (clock : Int) : Reaper := { ttlset := .new ttl, clock }

end Model

end Reaper

/-! ### What the set emits -/

namespace TTLSet

variable {s : TTLSet} {l : List ℕ} {item : ℕ} {flags : ℕ} {value : String} {now time : Int}

theorem emitted_setNext {target next : Option ℕ} : (s.setNext target next).emitted = s.emitted := by
  cases target <;> rfl

theorem emitted_setPrev {target prev : Option ℕ} : (s.setPrev target prev).emitted = s.emitted := by
  cases target <;> rfl

theorem emitted_remove : (s.remove item).emitted = s.emitted := by
  unfold remove
  dsimp only
  have hfront : ((s.setNext (s.items item).prev (s.items item).next).setPrev
      ((s.setNext (s.items item).prev (s.items item).next).items item).next
      ((s.setNext (s.items item).prev (s.items item).next).items item).prev).emitted =
      s.emitted := emitted_setPrev.trans emitted_setNext
  split <;> split <;> exact hfront

theorem emitted_append : (s.append item time).emitted = s.emitted := by
  unfold append
  dsimp only
  split
  · exact emitted_setNext
  · rfl

theorem emitted_bump_held (hitem : s.mapping value = some item) :
    (s.bump value time now flags).emitted = s.emitted := by
  rw [bump_of_some hitem]
  exact emitted_append.trans emitted_remove

theorem emit_emitted (flags : ℕ) (event : TTLEvent) : ∃ extra, (∀ e ∈ extra, e = event) ∧
    (s.emit flags event).emitted = s.emitted ++ extra := by
  unfold emit
  split
  · exact ⟨[event], by simp, rfl⟩
  · exact ⟨[], by simp, by simp⟩

theorem emitted_bump_new (hnew : s.mapping value = none) :
    ∃ extra, (∀ e ∈ extra, e = .insert value) ∧
      (s.bump value time now flags).emitted = s.emitted ++ extra := by
  rw [bump_of_none hnew]
  obtain ⟨extra, hextra, hemitted⟩ := emit_emitted (s := { s with
    items := Function.update s.items s.created ⟨value, 0, s.tail, none⟩
    created := s.created + 1
    mapping := Function.update s.mapping value (some s.created) }) flags (.insert value)
  exact ⟨extra, hextra, emitted_append.trans hemitted⟩

theorem emitted_drop : (s.drop value SILENT).emitted = s.emitted := by
  unfold drop
  cases s.mapping value with
  | none => rfl
  | some item => exact emitted_remove

theorem emitted_dropItem :
    (s.dropItem item 0).emitted = s.emitted ++ [.drop (s.items item).value] := by
  have hsame : SameValues s (s.remove item) := sameValues_remove
  have hvalue := hsame.value item
  unfold dropItem
  dsimp only
  rw [hvalue]
  exact congrArg (· ++ _) emitted_remove

theorem mapping_bump_held (hitem : s.mapping value = some item) :
    (s.bump value time now flags).mapping = s.mapping := by
  rw [bump_of_some hitem]
  exact sameValues_append.mapping.trans sameValues_remove.mapping

theorem mapping_bump_new (hnew : s.mapping value = none) :
    (s.bump value time now flags).mapping = Function.update s.mapping value (some s.created) := by
  rw [bump_of_none hnew]
  exact sameValues_append.mapping.trans emit_mapping

theorem time_bump_held (hitem : s.mapping value = some item) (x : ℕ) :
    ((s.bump value time now flags).items x).time =
      if x = item then stamp time now else (s.items x).time := by
  rw [bump_of_some hitem]
  refine (time_append x).trans ?_
  rw [sameValues_remove.time]

theorem time_bump_new (hnew : s.mapping value = none) (x : ℕ) :
    ((s.bump value time now flags).items x).time =
      if x = s.created then stamp time now else (s.items x).time := by
  rw [bump_of_none hnew]
  refine (time_append x).trans ?_
  have hitems : (s.create value s.tail flags).2.items =
      Function.update s.items s.created ⟨value, 0, s.tail, none⟩ := emit_items
  rw [hitems]
  by_cases hx : x = s.created
  · rw [if_pos hx, if_pos hx]
  · rw [if_neg hx, if_neg hx, Function.update_of_ne hx]

/-- What the loop of a check does: it drops the first items of the list, all of which are out of
date, and tells of them. -/
structure Reaps (now : Int) (s s' : TTLSet) (gone kept : List ℕ) : Prop where
  linked : s'.Linked kept
  old : ∀ x ∈ gone, s.ttl < now - (s.items x).time
  fresh : ∀ x ∈ kept.head?, now - (s.items x).time ≤ s.ttl
  emitted : s'.emitted = s.emitted ++ gone.map fun x => .drop (s.items x).value
  mapping : ∀ v, s'.mapping v = if v ∈ gone.map (fun x => (s.items x).value) then none
    else s.mapping v
  time : ∀ x, (s'.items x).time = (s.items x).time
  value : ∀ x, (s'.items x).value = (s.items x).value
  ttl : s'.ttl = s.ttl

theorem value_dropItem (x : ℕ) :
    ((s.dropItem item flags).items x).value = (s.items x).value := by
  unfold dropItem
  rw [emit_items]
  exact sameValues_remove.value x

theorem Reaps.refl (h : s.Linked l) (hfresh : ∀ x ∈ l.head?, now - (s.items x).time ≤ s.ttl) :
    Reaps now s s [] l :=
  ⟨h, by simp, hfresh, by simp, by simp, fun _ => rfl, fun _ => rfl, rfl⟩

theorem Reaps.cons {s' : TTLSet} {gone kept : List ℕ} (hold : s.ttl < now - (s.items item).time)
    (h : Reaps now (s.dropItem item 0) s' gone kept) : Reaps now s s' (item :: gone) kept where
  linked := h.linked
  old x hx := by
    rcases List.mem_cons.1 hx with rfl | hx
    · exact hold
    · have hx' := h.old x hx
      rwa [ttl_dropItem, time_dropItem] at hx'
  fresh x hx := by
    have hx' := h.fresh x hx
    rwa [ttl_dropItem, time_dropItem] at hx'
  emitted := by
    rw [h.emitted, emitted_dropItem, List.append_assoc]
    simp only [value_dropItem, List.map_cons, List.singleton_append]
  mapping v := by
    rw [h.mapping, mapping_dropItem rfl]
    simp only [value_dropItem, List.map_cons, List.mem_cons]
    by_cases hv : v = (s.items item).value
    · simp [hv]
    · simp [hv, Function.update_of_ne]
  time x := (h.time x).trans (time_dropItem x)
  value x := (h.value x).trans (value_dropItem x)
  ttl := h.ttl.trans ttl_dropItem

theorem Linked.reaps (now : Int) {fuel : ℕ} (h : s.Linked l) (hfuel : l.length ≤ fuel) :
    ∃ gone kept, l = gone ++ kept ∧ Reaps now s (TTLSet.expire now fuel s) gone kept := by
  induction fuel generalizing s l with
  | zero =>
    obtain rfl := List.length_eq_zero_iff.1 (Nat.le_zero.1 hfuel)
    exact ⟨[], [], rfl, .refl h (by simp)⟩
  | succ fuel ih =>
    have hhead : s.head = l.head? := h.chains.head
    unfold TTLSet.expire
    rw [hhead]
    cases l with
    | nil => exact ⟨[], [], rfl, .refl h (by simp)⟩
    | cons item l =>
      show ∃ gone kept, _ ∧ Reaps now s (if now - (s.items item).time > s.ttl then _ else s) _ _
      split
      · rename_i hold
        have hdrop : (s.dropItem item 0).Linked ((item :: l).erase item) :=
          h.dropItem (h.mapped item List.mem_cons_self)
        rw [List.erase_cons_head] at hdrop
        obtain ⟨gone, kept, rfl, hreaps⟩ := ih hdrop (Nat.le_of_succ_le_succ hfuel)
        exact ⟨item :: gone, kept, rfl, hreaps.cons hold⟩
      · rename_i hfresh
        refine ⟨[], item :: l, rfl, .refl h fun x hx => ?_⟩
        obtain rfl := Option.some.inj hx
        exact Int.not_lt.1 hfresh

end TTLSet

namespace Reaper

/-! ### The invariant -/

variable {s s' : Reaper} {l l' : List ℕ}

/-- When an item was bumped last. -/
def heard (s : Reaper) (item : ℕ) : Int := (s.ttlset.items item).time

/-- **The unit is sound**, with these items in its list: they are in the order in which they were
heard of, and the timer is due before the first one is out of date. -/
structure Sound (s : Reaper) (l : List ℕ) : Prop where
  linked : s.ttlset.Linked l
  sorted : l.Pairwise fun x y => s.heard x ≤ s.heard y
  past : ∀ x ∈ l, s.heard x ≤ s.clock
  due : ∀ x ∈ l.head?, ∃ due ∈ s.due, due ≤ s.clock ∨ due ≤ s.heard x + s.ttlset.ttl

theorem Sound.scheduled {ttlset : TTLSet} (hlinked : (ttlset.scheduleCheck s.clock).Linked l)
    (hsorted : l.Pairwise fun x y => (ttlset.items x).time ≤ (ttlset.items y).time)
    (hpast : ∀ x ∈ l, (ttlset.items x).time ≤ s.clock) :
    (s.scheduled (ttlset.scheduleCheck s.clock)).Sound l where
  linked := hlinked
  sorted := hsorted
  past := hpast
  due x hx := by
    have hhead : ttlset.head = some x := hlinked.chains.head.trans hx
    refine ⟨s.clock + max 0 (ttlset.ttl - (s.clock - (ttlset.items x).time)), ?_, ?_⟩
    · simp [Reaper.scheduled, TTLSet.scheduleCheck, hhead]
    · show _ ≤ s.clock ∨ _ ≤ (ttlset.items x).time + ttlset.ttl
      omega

theorem stamp_self (now : Int) : TTLSet.stamp now now = now := ite_self now

variable {serial : Serial} {flags item : ℕ}

theorem Sound.bump_held (h : s.Sound l) (hitem : s.ttlset.mapping serial.name = some item) :
    ((Op.bump serial flags).apply s).Sound [item] := by
  have hlinked : (s.ttlset.bump serial.name s.clock s.clock flags).Linked [item] :=
    h.linked.bump_held hitem
  have htime : ((s.ttlset.bump serial.name s.clock s.clock flags).items item).time = s.clock := by
    rw [TTLSet.time_bump_held hitem, if_pos rfl, stamp_self]
  unfold Op.apply
  dsimp only
  rw [TTLSet.bump_of_some hitem] at hlinked htime ⊢
  refine .scheduled hlinked (List.pairwise_singleton _ _) fun x hx => ?_
  obtain rfl := List.mem_singleton.1 hx
  exact htime.le

theorem Sound.bump_new (h : s.Sound l) (hnew : s.ttlset.mapping serial.name = none) :
    ((Op.bump serial flags).apply s).Sound (l ++ [s.ttlset.created]) := by
  have hlinked : (s.ttlset.bump serial.name s.clock s.clock flags).Linked
      (l ++ [s.ttlset.created]) := h.linked.bump_new hnew
  have htime (x : ℕ) : ((s.ttlset.bump serial.name s.clock s.clock flags).items x).time =
      if x = s.ttlset.created then s.clock else s.heard x := by
    rw [TTLSet.time_bump_new hnew, stamp_self, heard]
  have hold (x : ℕ) (hx : x ∈ l) : x ≠ s.ttlset.created := Nat.ne_of_lt (h.linked.lt_created hx)
  unfold Op.apply
  dsimp only
  rw [TTLSet.bump_of_none hnew] at hlinked htime ⊢
  refine .scheduled hlinked (List.pairwise_append.2 ⟨?_, List.pairwise_singleton _ _, ?_⟩) ?_
  · refine h.sorted.imp_of_mem fun {x y} hx hy hle => ?_
    have hx' := htime x
    have hy' := htime y
    rw [if_neg (hold x hx)] at hx'
    rw [if_neg (hold y hy)] at hy'
    exact hx'.trans_le (hle.trans hy'.ge)
  · intro x hx y hy
    obtain rfl := List.mem_singleton.1 hy
    have hx' := htime x
    have hy' := htime s.ttlset.created
    rw [if_neg (hold x hx)] at hx'
    rw [if_pos rfl] at hy'
    exact hx'.trans_le ((h.past x hx).trans hy'.ge)
  · intro x hx
    have hx' := htime x
    rcases List.mem_append.1 hx with hx | hx
    · rw [if_neg (hold x hx)] at hx'
      exact hx'.trans_le (h.past x hx)
    · rw [if_pos (List.mem_singleton.1 hx)] at hx'
      exact hx'.le

theorem Sound.drop (h : s.Sound l) (hitem : s.ttlset.mapping serial.name = some item) :
    ((Op.drop serial).apply s).Sound (l.erase item) := by
  have hdrop : s.ttlset.drop serial.name TTLSet.SILENT = s.ttlset.dropItem item TTLSet.SILENT := by
    unfold TTLSet.drop
    rw [hitem]
  have htime (x : ℕ) : ((Op.drop serial).apply s).heard x = s.heard x := by
    unfold Op.apply heard
    dsimp only
    rw [hdrop, TTLSet.time_dropItem]
  have httl : ((Op.drop serial).apply s).ttlset.ttl = s.ttlset.ttl :=
    TTLSet.ttl_apply (.drop serial.name TTLSet.SILENT) s.ttlset
  refine ⟨?_, ?_, fun x hx => ?_, fun x hx => ?_⟩
  · unfold Op.apply
    dsimp only
    rw [hdrop]
    exact h.linked.dropItem hitem
  · simp only [htime]
    exact h.sorted.sublist List.erase_sublist
  · rw [htime]
    exact h.past x (List.mem_of_mem_erase hx)
  · -- the timer is still set for the item that was the first one
    cases l with
    | nil => cases hx
    | cons first rest =>
      obtain ⟨due, hdue, hle⟩ := h.due first rfl
      refine ⟨due, hdue, hle.imp_right fun hle => ?_⟩
      rw [htime, httl]
      have hmem := List.mem_of_mem_erase (List.mem_of_mem_head? hx)
      rcases List.mem_cons.1 hmem with rfl | hmem
      · exact hle
      · have hsorted := List.rel_of_pairwise_cons h.sorted hmem
        omega

theorem Sound.check (h : s.Sound l) :
    ∃ gone kept, l = gone ++ kept ∧
      TTLSet.Reaps s.clock s.ttlset
        (TTLSet.expire s.clock s.ttlset.created s.ttlset) gone kept ∧
      (Op.check.apply s).Sound kept := by
  obtain ⟨gone, kept, rfl, hreaps⟩ := h.linked.reaps s.clock h.linked.length_le
  refine ⟨gone, kept, rfl, hreaps, ?_⟩
  unfold Op.apply TTLSet.check
  dsimp only
  refine .scheduled hreaps.linked.scheduleCheck ?_ fun x hx => ?_
  · simp only [hreaps.time]
    exact (List.pairwise_append.1 h.sorted).2.1
  · rw [hreaps.time]
    exact h.past x (List.mem_append_right _ hx)

theorem Sound.pass (h : s.Sound l) (time : ℕ) : ((Op.pass time).apply s).Sound l where
  linked := h.linked
  sorted := h.sorted
  past x hx := (h.past x hx).trans (Int.le_add_of_nonneg_right (Int.natCast_nonneg time))
  due x hx := by
    obtain ⟨due, hdue, hle⟩ := h.due x hx
    refine ⟨due, hdue, hle.imp_left fun hle => ?_⟩
    exact hle.trans (Int.le_add_of_nonneg_right (Int.natCast_nonneg time))

/-! ### A device that is not heard of -/

/-- The set holds the device. -/
def Holds (s : Reaper) (device : String) : Prop := (s.ttlset.mapping device).isSome

/-- The operation is about the device. -/
def Op.Concerns (device : String) : Op → Prop
  | .drop serial => serial.name = device
  | .bump serial _ => serial.name = device
  | .check | .pass _ => False

/-- Another device that the set holds is heard of while it holds this one. -/
def Op.Shadows (device : String) (s : Reaper) : Op → Prop
  | .bump serial _ => s.Holds device ∧ s.Holds serial.name
  | .drop _ | .check | .pass _ => False

/-- What the set has emitted since then does not tell of the device. -/
def Silent (before : List TTLEvent) (device : String) (s : Reaper) : Prop :=
  ∃ since, s.ttlset.emitted = before ++ since ∧ .drop device ∉ since

/-- The device has been announced to be absent since then. -/
def Announced (before : List TTLEvent) (device : String) (s : Reaper) : Prop :=
  ∃ since, s.ttlset.emitted = before ++ since ∧ .drop device ∈ since

/-- The device, last heard of at the time `t`, is in the list. -/
def Awaited (before : List TTLEvent) (device : String) (t : Int) (s : Reaper) : Prop :=
  ∃ l item, s.Sound l ∧ s.ttlset.mapping device = some item ∧ item ∈ l ∧ s.heard item = t ∧
    s.Silent before device

/-- The device is held but not in the list. -/
def Lost (before : List TTLEvent) (device : String) (s : Reaper) : Prop :=
  ∃ l item, s.Sound l ∧ s.ttlset.mapping device = some item ∧ item ∉ l ∧ s.Silent before device

/-- The device has been reaped, in time. -/
def Reaped (before : List TTLEvent) (device : String) (t : Int) (s : Reaper) : Prop :=
  ∃ l, s.Sound l ∧ ¬s.Holds device ∧ s.Announced before device ∧ s.ttlset.ttl < s.clock - t

variable {before more : List TTLEvent} {device : String} {t : Int}

theorem Silent.append (h : s.Silent before device)
    (hemitted : s'.ttlset.emitted = s.ttlset.emitted ++ more) (hmore : .drop device ∉ more) :
    s'.Silent before device := by
  obtain ⟨since, hsince, hnot⟩ := h
  refine ⟨since ++ more, by rw [hemitted, hsince, List.append_assoc], ?_⟩
  exact fun hmem => (List.mem_append.1 hmem).elim hnot hmore

theorem Silent.announced (h : s.Silent before device)
    (hemitted : s'.ttlset.emitted = s.ttlset.emitted ++ more) (hmore : .drop device ∈ more) :
    s'.Announced before device := by
  obtain ⟨since, hsince, -⟩ := h
  exact ⟨since ++ more, by rw [hemitted, hsince, List.append_assoc],
    List.mem_append_right _ hmore⟩

theorem Announced.append (h : s.Announced before device)
    (hemitted : s'.ttlset.emitted = s.ttlset.emitted ++ more) : s'.Announced before device := by
  obtain ⟨since, hsince, hmem⟩ := h
  exact ⟨since ++ more, by rw [hemitted, hsince, List.append_assoc], List.mem_append_left _ hmem⟩

theorem ttl_apply (s : Reaper) (op : Op) : (op.apply s).ttlset.ttl = s.ttlset.ttl := by
  cases op with
  | drop serial => exact TTLSet.ttl_apply (.drop serial.name TTLSet.SILENT) s.ttlset
  | bump serial flags => exact TTLSet.ttl_apply (.bump serial.name s.clock s.clock flags) s.ttlset
  | check => exact TTLSet.ttl_apply (.check s.clock) s.ttlset
  | pass time => rfl

/-- What a call other than a check does to a device that it does not concern. -/
structure Leaves (device : String) (op : Op) (s : Reaper) (l l' : List ℕ) : Prop where
  sound : (op.apply s).Sound l'
  mapping : (op.apply s).ttlset.mapping device = s.ttlset.mapping device
  heard : ∀ item, s.ttlset.mapping device = some item → (op.apply s).heard item = s.heard item
  emitted : ∃ more, (op.apply s).ttlset.emitted = s.ttlset.emitted ++ more ∧ .drop device ∉ more
  clock : s.clock ≤ (op.apply s).clock
  mem : ∀ item, s.ttlset.mapping device = some item →
    (item ∈ l' ↔ item ∈ l ∧ ¬op.Shadows device s)

theorem Sound.leaves (h : s.Sound l) {op : Op} (hother : ¬op.Concerns device) (hop : op ≠ .check) :
    ∃ l', Leaves device op s l l' := by
  -- the items of two devices differ
  have hne {item other : ℕ} {name : String} (hname : name ≠ device)
      (hitem : s.ttlset.mapping device = some item) (hother : s.ttlset.mapping name = some other) :
      item ≠ other := fun heq => hname
    ((h.linked.stored name other hother).1.symm.trans
      (heq ▸ (h.linked.stored device item hitem).1))
  cases op with
  | check => contradiction
  | pass time =>
    exact ⟨l, h.pass time, rfl, fun _ _ => rfl, ⟨[], by simp [Op.apply], by simp⟩,
      Int.le_add_of_nonneg_right (Int.natCast_nonneg time), fun item hitem => by simp [Op.Shadows]⟩
  | drop serial =>
    have hname : serial.name ≠ device := hother
    have hemitted : ((Op.drop serial).apply s).ttlset.emitted = s.ttlset.emitted :=
      TTLSet.emitted_drop
    cases hdropped : s.ttlset.mapping serial.name with
    | none =>
      have hsame : (Op.drop serial).apply s = s := by
        simp [Op.apply, TTLSet.drop, hdropped]
      refine ⟨l, hsame.symm ▸ h, by rw [hsame], fun _ _ => by rw [hsame],
        ⟨[], by simp [hemitted], by simp⟩, le_rfl, fun item hitem => by simp [Op.Shadows]⟩
    | some dropped =>
      have hdrop : (Op.drop serial).apply s =
          { s with ttlset := s.ttlset.dropItem dropped TTLSet.SILENT } := by
        simp [Op.apply, TTLSet.drop, hdropped]
      refine ⟨l.erase dropped, h.drop hdropped, ?_, fun item _ => ?_,
        ⟨[], by simp [hemitted], by simp⟩, le_rfl, fun item hitem => ?_⟩
      · rw [hdrop]
        show (s.ttlset.dropItem dropped TTLSet.SILENT).mapping device = _
        rw [TTLSet.mapping_dropItem (h.linked.stored _ _ hdropped).1,
          Function.update_of_ne hname.symm]
      · rw [hdrop]
        show ((s.ttlset.dropItem dropped TTLSet.SILENT).items item).time = _
        rw [TTLSet.time_dropItem, Reaper.heard]
      · simp [Op.Shadows, List.mem_erase_of_ne (hne hname hitem hdropped)]
  | bump serial flags =>
    have hname : serial.name ≠ device := hother
    cases hbumped : s.ttlset.mapping serial.name with
    | some bumped =>
      refine ⟨[bumped], h.bump_held hbumped, ?_, fun item hitem => ?_, ⟨[], ?_, by simp⟩, le_rfl,
        fun item hitem => ?_⟩
      · exact congrFun (TTLSet.mapping_bump_held hbumped) device
      · refine (TTLSet.time_bump_held hbumped item).trans ?_
        rw [if_neg (hne hname hitem hbumped), Reaper.heard]
      · rw [List.append_nil]
        exact TTLSet.emitted_bump_held hbumped
      · simp [Op.Shadows, Holds, hitem, hbumped, hne hname hitem hbumped]
    | none =>
      obtain ⟨more, hmore, hemitted⟩ : ∃ more, (∀ e ∈ more, e = .insert serial.name) ∧
          ((Op.bump serial flags).apply s).ttlset.emitted = s.ttlset.emitted ++ more :=
        TTLSet.emitted_bump_new hbumped
      refine ⟨l ++ [s.ttlset.created], h.bump_new hbumped, ?_, fun item hitem => ?_,
        ⟨more, hemitted, fun hmem => by cases hmore _ hmem⟩, le_rfl, fun item hitem => ?_⟩
      · refine (congrFun (TTLSet.mapping_bump_new hbumped) device).trans ?_
        rw [Function.update_of_ne hname.symm]
      · refine (TTLSet.time_bump_new hbumped item).trans ?_
        rw [if_neg (Nat.ne_of_lt (h.linked.stored device item hitem).2), Reaper.heard]
      · have hold := Nat.ne_of_lt (h.linked.stored device item hitem).2
        simp [Op.Shadows, Holds, hbumped, hold]

/-- A check reaps the device, or leaves it as it is. -/
theorem Sound.check_device (h : s.Sound l) (device : String) :
    ∃ kept more, (Op.check.apply s).Sound kept ∧ kept ⊆ l ∧
      (Op.check.apply s).ttlset.emitted = s.ttlset.emitted ++ more ∧
      (∀ item, (Op.check.apply s).heard item = s.heard item) ∧
      ((.drop device ∉ more ∧
          (Op.check.apply s).ttlset.mapping device = s.ttlset.mapping device ∧
          ∀ item, s.ttlset.mapping device = some item → item ∈ l → item ∈ kept) ∨
        .drop device ∈ more ∧ ¬(Op.check.apply s).Holds device ∧
          ∃ item ∈ l, s.ttlset.mapping device = some item ∧
            s.ttlset.ttl < s.clock - s.heard item) := by
  obtain ⟨gone, kept, rfl, hreaps, hsound⟩ := h.check
  refine ⟨kept, _, hsound, List.subset_append_right _ _, hreaps.emitted, hreaps.time, ?_⟩
  have hmapping : (Op.check.apply s).ttlset.mapping device =
      if device ∈ gone.map (fun x => (s.ttlset.items x).value) then none
      else s.ttlset.mapping device := hreaps.mapping device
  by_cases hgone : device ∈ gone.map fun x => (s.ttlset.items x).value
  · obtain ⟨item, hitem, hvalue⟩ := List.mem_map.1 hgone
    have hmem : item ∈ gone ++ kept := List.mem_append_left _ hitem
    rw [if_pos hgone] at hmapping
    refine .inr ⟨List.mem_map.2 ⟨item, hitem, congrArg _ hvalue⟩, by simp [Holds, hmapping],
      item, hmem, ?_, hreaps.old item hitem⟩
    have hmapped := h.linked.mapped item hmem
    rwa [hvalue] at hmapped
  · rw [if_neg hgone] at hmapping
    refine .inl ⟨fun hmem => ?_, hmapping, fun item hitem hmem => ?_⟩
    · obtain ⟨item, hitem, hdrop⟩ := List.mem_map.1 hmem
      exact hgone (List.mem_map.2 ⟨item, hitem, TTLEvent.drop.inj hdrop⟩)
    · refine (List.mem_append.1 hmem).resolve_left fun hin => hgone ?_
      exact List.mem_map.2 ⟨item, hin, (h.linked.stored device item hitem).1⟩

variable {op : Op}

theorem Awaited.apply (h : s.Awaited before device t) (hother : ¬op.Concerns device) :
    (op.Shadows device s → (op.apply s).Lost before device) ∧
      (¬op.Shadows device s →
        (op.apply s).Awaited before device t ∨ (op.apply s).Reaped before device t) := by
  obtain ⟨l, item, hsound, hitem, hmem, hheard, hsilent⟩ := h
  by_cases hop : op = .check
  · subst hop
    refine ⟨fun hshadows => hshadows.elim, fun _ => ?_⟩
    obtain ⟨kept, more, hsound', -, hemitted, htime, ⟨hnot, hmapping, hkept⟩ |
      ⟨hdrop, hholds, item', -, hitem', hold⟩⟩ := hsound.check_device device
    · exact .inl ⟨kept, item, hsound', hmapping.trans hitem, hkept item hitem hmem,
        (htime item).trans hheard, hsilent.append hemitted hnot⟩
    · obtain rfl := Option.some.inj (hitem.symm.trans hitem')
      refine .inr ⟨kept, hsound', hholds, hsilent.announced hemitted hdrop, ?_⟩
      rw [ttl_apply, ← hheard]
      exact hold
  · obtain ⟨l', hleaves⟩ := hsound.leaves hother hop
    obtain ⟨more, hemitted, hmore⟩ := hleaves.emitted
    have hmapping := hleaves.mapping.trans hitem
    refine ⟨fun hshadows => ?_, fun hshadows => .inl ?_⟩
    · exact ⟨l', item, hleaves.sound, hmapping,
        fun hin => ((hleaves.mem item hitem).1 hin).2 hshadows, hsilent.append hemitted hmore⟩
    · exact ⟨l', item, hleaves.sound, hmapping, (hleaves.mem item hitem).2 ⟨hmem, hshadows⟩,
        (hleaves.heard item hitem).trans hheard, hsilent.append hemitted hmore⟩

theorem Lost.apply (h : s.Lost before device) (hother : ¬op.Concerns device) :
    (op.apply s).Lost before device := by
  obtain ⟨l, item, hsound, hitem, hmem, hsilent⟩ := h
  by_cases hop : op = .check
  · subst hop
    obtain ⟨kept, more, hsound', hsub, hemitted, -, ⟨hnot, hmapping, -⟩ |
      ⟨-, -, item', hmem', hitem', -⟩⟩ := hsound.check_device device
    · exact ⟨kept, item, hsound', hmapping.trans hitem, fun hin => hmem (hsub hin),
        hsilent.append hemitted hnot⟩
    · obtain rfl := Option.some.inj (hitem.symm.trans hitem')
      contradiction
  · obtain ⟨l', hleaves⟩ := hsound.leaves hother hop
    obtain ⟨more, hemitted, hmore⟩ := hleaves.emitted
    exact ⟨l', item, hleaves.sound, hleaves.mapping.trans hitem,
      fun hin => hmem ((hleaves.mem item hitem).1 hin).1, hsilent.append hemitted hmore⟩

theorem Reaped.apply (h : s.Reaped before device t) (hother : ¬op.Concerns device) :
    (op.apply s).Reaped before device t := by
  obtain ⟨l, hsound, hholds, hannounced, hlate⟩ := h
  by_cases hop : op = .check
  · subst hop
    obtain ⟨kept, more, hsound', -, hemitted, -, ⟨-, hmapping, -⟩ |
      ⟨-, hholds', -⟩⟩ := hsound.check_device device
    · exact ⟨kept, hsound', by rwa [Holds, hmapping], hannounced.append hemitted,
        (ttl_apply s .check).trans_lt hlate⟩
    · exact ⟨kept, hsound', hholds', hannounced.append hemitted,
        (ttl_apply s .check).trans_lt hlate⟩
  · obtain ⟨l', hleaves⟩ := hsound.leaves hother hop
    obtain ⟨more, hemitted, hmore⟩ := hleaves.emitted
    refine ⟨l', hleaves.sound, by rwa [Holds, hleaves.mapping], hannounced.append hemitted, ?_⟩
    have hclock := hleaves.clock
    rw [ttl_apply]
    omega

theorem Reaped.not_shadows (h : s.Reaped before device t) : ¬op.Shadows device s := by
  obtain ⟨-, -, hholds, -⟩ := h
  cases op with
  | bump serial flags => exact fun hshadows => hholds hshadows.1
  | drop serial => exact id
  | check => exact id
  | pass time => exact id

/-! ### Runs -/

/-- What has become of the device: it is lost if it was shadowed, and only then. -/
structure Outcome (before : List TTLEvent) (device : String) (t : Int) (shadowed : Prop)
    (s : Reaper) : Prop where
  lost : shadowed → s.Lost before device
  kept : ¬shadowed → s.Awaited before device t ∨ s.Reaped before device t

variable {P Q : Prop} {event : Event}

theorem Outcome.congr (h : s.Outcome before device t P) (hiff : P ↔ Q) :
    s.Outcome before device t Q :=
  ⟨fun hq => h.lost (hiff.2 hq), fun hq => h.kept fun hp => hq (hiff.1 hp)⟩

theorem Outcome.apply (h : s.Outcome before device t P) (hother : ¬op.Concerns device) :
    (op.apply s).Outcome before device t (P ∨ op.Shadows device s) := by
  by_cases hP : P
  · exact ⟨fun _ => (h.lost hP).apply hother, fun hnot => absurd (.inl hP) hnot⟩
  · rcases h.kept hP with hawaited | hreaped
    · obtain ⟨hlost, hkept⟩ := hawaited.apply hother
      exact ⟨fun hor => hlost (hor.resolve_left hP), fun hnot => hkept fun hs => hnot (.inr hs)⟩
    · exact ⟨fun hor => absurd (hor.resolve_left hP) hreaped.not_shadows,
        fun _ => .inr (hreaped.apply hother)⟩

/-- One of the calls shadows the device. -/
def ShadowsAny (device : String) (s : Reaper) : List Op → Prop
  | [] => False
  | op :: ops => op.Shadows device s ∨ ShadowsAny device (op.apply s) ops

theorem Outcome.foldl {ops : List Op} (h : s.Outcome before device t P)
    (hother : ∀ op ∈ ops, ¬op.Concerns device) :
    (ops.foldl Op.apply s).Outcome before device t (P ∨ s.ShadowsAny device ops) := by
  induction ops generalizing s P with
  | nil => exact h.congr (by simp [ShadowsAny])
  | cons op ops ih =>
    have happlied := h.apply (hother op List.mem_cons_self)
    refine (ih happlied fun op hmem => hother op (List.mem_cons_of_mem _ hmem)).congr ?_
    rw [ShadowsAny, or_assoc]

/-- The event is about the device. -/
def Event.Concerns (device : String) (event : Event) : Prop := ∃ op ∈ event.ops, op.Concerns device

/-- In the event another device that the set holds is heard of while it holds this one. -/
def Event.Shadows (device : String) (s : Reaper) (event : Event) : Prop :=
  s.ShadowsAny device event.ops

theorem next_eq (h : s.next event = some s') : s' = event.ops.foldl Op.apply s := by
  cases event with
  | timeout => exact (Option.some.inj (Option.ite_none_right_eq_some.1 h).2).symm
  | deviceIntroductionMessage serial => exact (Option.some.inj h).symm
  | deviceHeartbeatMessage serial => exact (Option.some.inj h).symm
  | deviceAbsentMessage serial => exact (Option.some.inj h).symm
  | presentDevices devices => exact (Option.some.inj h).symm
  | pass time => exact (Option.some.inj h).symm

theorem run_cons_iff {u : Reaper} {events : List Event} (hst : s.next event = some u) :
    (system.restrict fun s event => ¬event.Shadows device s).Run s (event :: events) s' ↔
      ¬event.Shadows device s ∧
        (system.restrict fun s event => ¬event.Shadows device s).Run u events s' := by
  constructor
  · intro hall
    cases hall with
    | more hstep hrest =>
      obtain rfl := Option.some.inj (hst.symm.trans hstep.1)
      exact ⟨hstep.2, hrest⟩
  · exact fun hall => .more ⟨hst, hall.1⟩ hall.2

theorem Outcome.run {events : List Event} (hrun : system.Run s events s')
    (hother : ∀ event ∈ events, ¬event.Concerns device) (h : s.Outcome before device t P) :
    s'.Outcome before device t
      (P ∨ ¬(system.restrict fun s event => ¬event.Shadows device s).Run s events s') := by
  induction hrun generalizing P with
  | done s => exact h.congr (by simp [Lts.Run.done])
  | @more s u s' event events hst _ ih =>
    have hfirst : u.Outcome before device t (P ∨ event.Shadows device s) :=
      next_eq hst ▸ h.foldl fun op hop hconcerns =>
        hother event List.mem_cons_self ⟨op, hop, hconcerns⟩
    refine (ih (fun event hmem => hother event (List.mem_cons_of_mem _ hmem)) hfirst).congr ?_
    rw [run_cons_iff hst]
    tauto

theorem sound_start (ttl clock : Int) : (start ttl clock).Sound [] :=
  ⟨TTLSet.linked_new ttl, .nil, by simp, by simp⟩

theorem Sound.apply (h : s.Sound l) (op : Op) : ∃ l', (op.apply s).Sound l' := by
  cases op with
  | drop serial =>
    cases hitem : s.ttlset.mapping serial.name with
    | none => exact ⟨l, by simpa [Op.apply, TTLSet.drop, hitem] using h⟩
    | some item => exact ⟨_, h.drop hitem⟩
  | bump serial flags =>
    cases hitem : s.ttlset.mapping serial.name with
    | none => exact ⟨_, h.bump_new hitem⟩
    | some item => exact ⟨_, h.bump_held hitem⟩
  | check =>
    obtain ⟨-, kept, -, -, hsound⟩ := h.check
    exact ⟨kept, hsound⟩
  | pass time => exact ⟨l, h.pass time⟩

theorem Sound.foldl (ops : List Op) (h : ∃ l, s.Sound l) : ∃ l, (ops.foldl Op.apply s).Sound l := by
  induction ops generalizing s with
  | nil => exact h
  | cons op ops ih =>
    obtain ⟨l, hl⟩ := h
    exact ih (hl.apply op)

theorem ttl_foldl (ops : List Op) (s : Reaper) :
    (ops.foldl Op.apply s).ttlset.ttl = s.ttlset.ttl := by
  induction ops generalizing s with
  | nil => rfl
  | cons op ops ih => exact (ih _).trans (ttl_apply s op)

theorem sound_of_run {ttl clock : Int} {events : List Event}
    (hrun : system.Run (start ttl clock) events s) : ∃ l, s.Sound l :=
  hrun.invariant (I := fun s => ∃ l, s.Sound l) ⟨[], sound_start ttl clock⟩
    fun _ _ _ hs hst => next_eq hst ▸ Sound.foldl _ hs

theorem ttl_of_run {events : List Event} (hrun : system.Run s events s') :
    s'.ttlset.ttl = s.ttlset.ttl :=
  hrun.invariant (I := fun t => t.ttlset.ttl = s.ttlset.ttl) rfl
    fun _ _ _ ht hst => next_eq hst ▸ (ttl_foldl _ _).trans ht

/-! ### Reaping -/

/-- A device that has just been heard of is awaited. -/
theorem Sound.awaited (h : s.Sound l) (serial : Serial) (flags : ℕ) :
    ((Op.bump serial flags).apply s).Awaited ((Op.bump serial flags).apply s).ttlset.emitted
      serial.name s.clock := by
  have hsilent : ((Op.bump serial flags).apply s).Silent
      ((Op.bump serial flags).apply s).ttlset.emitted serial.name := ⟨[], by simp, by simp⟩
  cases hitem : s.ttlset.mapping serial.name with
  | some item =>
    refine ⟨[item], item, h.bump_held hitem, ?_, List.mem_singleton_self item, ?_, hsilent⟩
    · exact (congrFun (TTLSet.mapping_bump_held hitem) serial.name).trans hitem
    · refine (TTLSet.time_bump_held hitem item).trans ?_
      rw [if_pos rfl, stamp_self]
  | none =>
    refine ⟨_, s.ttlset.created, h.bump_new hitem, ?_, by simp, ?_, hsilent⟩
    · refine (congrFun (TTLSet.mapping_bump_new hitem) serial.name).trans ?_
      rw [Function.update_self]
    · refine (TTLSet.time_bump_new hitem s.ttlset.created).trans ?_
      rw [if_pos rfl, stamp_self]

/-- What has been sent since then. -/
theorem messages_drop {since : List TTLEvent} (h : s'.ttlset.emitted = s.ttlset.emitted ++ since) :
    .deviceAbsentMessage device ∈ s'.messages.drop s.messages.length ↔ .drop device ∈ since := by
  have hdrop : s'.messages.drop s.messages.length = since.map message := by
    unfold messages
    rw [h, List.map_append, List.drop_left]
  rw [hdrop, List.mem_map]
  constructor
  · rintro ⟨event, hmem, hmessage⟩
    cases event with
    | insert value => cases hmessage
    | drop value => exact ReaperMessage.deviceAbsentMessage.inj hmessage ▸ hmem
  · exact fun hmem => ⟨_, hmem, rfl⟩

theorem Awaited.le_of_timely (h : s.Awaited before device t) (htimely : ¬s.Overdue) :
    s.clock - t ≤ s.ttlset.ttl := by
  obtain ⟨l, item, hsound, -, hmem, hheard, -⟩ := h
  cases l with
  | nil => cases hmem
  | cons first rest =>
    obtain ⟨due, hdue, hle⟩ := hsound.due first rfl
    have hlate : s.clock < due := Int.not_le.1 fun hle => htimely ⟨due, hdue, hle⟩
    have hfirst : s.heard first ≤ s.heard item := by
      rcases List.mem_cons.1 hmem with rfl | hmem
      · exact le_rfl
      · exact List.rel_of_pairwise_cons hsound.sorted hmem
    omega

/-- **A silent device is reaped exactly** when it has been silent for longer than the time to live,
and no other device that the set holds was heard of while it was still held. -/
theorem reaped_iff {ttl clock : Int} {history events : List Event} {s₁ : Reaper} {serial : Serial}
    (hrun : system.Run (start ttl clock) history s)
    (hheard : s.next (.deviceHeartbeatMessage serial) = some s₁ ∨
      s.next (.deviceIntroductionMessage serial) = some s₁)
    (hafter : system.Run s₁ events s')
    (hsilent : ∀ event ∈ events, ¬event.Concerns serial.name) (htimely : ¬s'.Overdue) :
    .deviceAbsentMessage serial.name ∈ s'.messages.drop s₁.messages.length ↔
      ttl < s'.clock - s₁.clock ∧
        (system.restrict fun s event => ¬event.Shadows serial.name s).Run s₁ events s' := by
  obtain ⟨l, hl⟩ := sound_of_run hrun
  have hawaited : s₁.Awaited s₁.ttlset.emitted serial.name s₁.clock := by
    rcases hheard with hheard | hheard
    · rw [next_eq hheard]
      exact hl.awaited serial 0
    · obtain ⟨l', hl'⟩ := hl.apply (.drop serial)
      rw [next_eq hheard]
      exact hl'.awaited serial 0
  have httl : s'.ttlset.ttl = ttl := by
    have hfirst : s₁.ttlset.ttl = s.ttlset.ttl := by
      rcases hheard with hheard | hheard
      · exact next_eq hheard ▸ ttl_foldl _ s
      · exact next_eq hheard ▸ ttl_foldl _ s
    exact (ttl_of_run hafter).trans (hfirst.trans (ttl_of_run hrun))
  have houtcome : s'.Outcome s₁.ttlset.emitted serial.name s₁.clock
      (False ∨ ¬(system.restrict fun s event => ¬event.Shadows serial.name s).Run s₁ events s') :=
    .run hafter hsilent ⟨False.elim, fun _ => .inl hawaited⟩
  have hnot (hsilent : s'.Silent s₁.ttlset.emitted serial.name) :
      .deviceAbsentMessage serial.name ∉ s'.messages.drop s₁.messages.length := by
    obtain ⟨since, hsince, hmem⟩ := hsilent
    exact fun h => hmem ((messages_drop hsince).1 h)
  by_cases hall : (system.restrict fun s event => ¬event.Shadows serial.name s).Run s₁ events s'
  · rcases houtcome.kept (by simpa using hall) with hawaited | hreaped
    · have hle := hawaited.le_of_timely htimely
      obtain ⟨-, -, -, -, -, -, hquiet⟩ := hawaited
      exact ⟨fun h => absurd h (hnot hquiet), fun h => absurd h.1 (by omega)⟩
    · obtain ⟨-, -, -, ⟨since, hsince, hmem⟩, hlate⟩ := hreaped
      exact ⟨fun _ => ⟨httl ▸ hlate, hall⟩, fun _ => (messages_drop hsince).2 hmem⟩
  · obtain ⟨-, -, -, -, -, hquiet⟩ := houtcome.lost (.inr hall)
    exact ⟨fun h => absurd h (hnot hquiet), fun h => absurd h.2 hall⟩

/-- The serial of a device. -/
def sampleSerial : Serial := ⟨"a", by decide⟩

/-- The unit has heard of a device. -/
def sampleHeard : Reaper := (Op.bump sampleSerial 0).apply (start 30000 1000)

/-- Nothing else happens until the timer fires. -/
def sampleReaped : Reaper := Op.check.apply ((Op.pass 30001).apply sampleHeard)

theorem run_sampleReaped : (system.restrict fun s event => ¬event.Shadows "a" s).Run sampleHeard
    [.pass 30001, .timeout] sampleReaped := by
  have hoverdue : ((Op.pass 30001).apply sampleHeard).Overdue := ⟨31000, rfl, by decide⟩
  have htimeout : ((Op.pass 30001).apply sampleHeard).next .timeout = some sampleReaped := by
    unfold next
    rw [if_pos hoverdue]
    rfl
  exact .more ⟨rfl, by simp [Event.Shadows, ShadowsAny, Event.ops, Op.Shadows]⟩
    (.more ⟨htimeout, by simp [Event.Shadows, ShadowsAny, Event.ops, Op.Shadows]⟩ (.done _))

theorem mem_of_sampleReaped : .deviceAbsentMessage "a" ∈
    sampleReaped.messages.drop sampleHeard.messages.length :=
  (reaped_iff (Lts.Run.done (start 30000 1000))
    (.inl (show next _ (.deviceHeartbeatMessage sampleSerial) = some sampleHeard from rfl))
    run_sampleReaped.of_restrict
    (by simp [Event.Concerns, Event.ops, Op.Concerns]) (by rintro ⟨due, hdue, -⟩; cases hdue)).2
    ⟨by decide, run_sampleReaped⟩

end Reaper

end DeviceHub

import DeviceHub.Db.Sample
import DeviceHub.Bookings.Schedules
import Mathlib.Tactic.Ring
import Mathlib.Tactic.Linarith

/-!
# The windows of a schedule

`computeGroupDates` repeats a life time at the distance of its class.  `computeDuration` and
`updateGroup` charge for one repetition more than there are windows; the shortcut of `updateGroup`,
which looks for conflicts only when the schedule grows, is sound.

## Main definitions

* `windowCount` : how many windows there are.
* `Evenly` : windows that are sorted, disjoint, of the same length and at the distance of the class.
* `ChargedAsBooked` : what is charged is what is booked.
* `LifeTime.Within` : one life time lies in another.

## Main results

* `computeGroupDates_eq` : the windows of a class that repeats.
* `chargedAsBooked_iff` : what is charged is booked only without devices or without repetitions.
* `conflictFree_of_shrinks` : a schedule that shrinks has no new conflict.
-/

namespace DeviceHub

open Prog apiutil

namespace apiutil

theorem CLASS_DURATION_eq_none {class_ : GroupClass} :
    CLASS_DURATION class_ = none ↔ class_.Single := by
  cases class_ <;> decide

/-- The number of windows that `computeGroupDates` returns. -/
def windowCount (repetitions : Int) : Nat := (repetitions - 1).toNat + 1

theorem windowCount_cast (repetitions : Int) :
    (windowCount repetitions : Int) = max 1 repetitions := by
  unfold windowCount
  omega

/-- The life time from `start` to `stop`, later by `i` times `d`. -/
def LifeTime.later (start stop d : Int) (i : Nat) : LifeTime :=
  ⟨some (start + i * d), some (stop + i * d)⟩

theorem repeatLifeTime_eq {class_ : GroupClass} {d : Int} (hd : CLASS_DURATION class_ = some d)
    (n : Nat) (start stop : Int) : repeatLifeTime class_ n ⟨some start, some stop⟩ =
      (List.range n).map fun i => LifeTime.later start stop d (i + 1) := by
  induction n generalizing start stop with
  | zero => rfl
  | succ n ih =>
    simp only [repeatLifeTime, addClassDuration, hd, ih]
    rw [List.range_succ_eq_map, List.map_cons, List.map_map]
    congr 1
    · simp [LifeTime.later]
    · refine List.map_congr_left fun i _ => ?_
      simp only [Function.comp_apply, LifeTime.later, Nat.cast_succ]
      congr 2 <;> ring

theorem computeGroupDates_eq {class_ : GroupClass} {d : Int} (hd : CLASS_DURATION class_ = some d)
    (start stop repetitions : Int) :
    computeGroupDates ⟨some start, some stop⟩ class_ repetitions =
      (List.range (windowCount repetitions)).map (LifeTime.later start stop d) := by
  unfold computeGroupDates windowCount
  rw [repeatLifeTime_eq hd, List.range_succ_eq_map, List.map_cons, List.map_map]
  simp [LifeTime.later, Function.comp_def]

theorem repeatLifeTime_none {class_ : GroupClass} (hd : CLASS_DURATION class_ = none) (n : Nat)
    (current : LifeTime) : ∀ l ∈ repeatLifeTime class_ n current, l = ⟨none, none⟩ := by
  induction n generalizing current with
  | zero => simp [repeatLifeTime]
  | succ n ih =>
    intro l hl
    have hnext : ∀ date, addClassDuration class_ date = none := fun date => by
      unfold addClassDuration
      rw [hd]
      cases date <;> rfl
    simp only [repeatLifeTime, hnext, List.mem_cons] at hl
    exact hl.elim id fun hl => ih _ l hl

end apiutil

/-! ### The price of a booking -/

/-- The windows are sorted and disjoint, as long as the first one and at the distance of the
class. -/
structure Evenly (class_ : GroupClass) (length : Int) (dates : List Window) : Prop where
  sorted : dates.Pairwise fun w w' => w.start < w'.start
  disjoint : dates.Pairwise fun w w' => GroupModel.overlaps w w' = false
  length : ∀ w ∈ dates, w.stop - w.start = length
  spaced : ∀ i w w', dates[i]? = some w → dates[i + 1]? = some w' →
    CLASS_DURATION class_ = some (w'.start - w.start)

/-- The windows that a schedule books. -/
def bookedWindows (class_ : GroupClass) (repetitions : Int) (lifeTime : LifeTime) : List Window :=
  (computeGroupDates lifeTime class_ repetitions).map LifeTime.stored

/-- The time that a device is booked for. -/
def bookedTime (dates : List Window) : Int := (dates.map fun w => w.stop - w.start).sum

/-- **What is charged for `n` devices is what is booked**: by `computeDuration`, and by the formula
of `updateGroup`, which charges nothing for the groups that devices originate from. -/
structure ChargedAsBooked (class_ : GroupClass) (repetitions : Int) (lifeTime : LifeTime)
    (n : Nat) : Prop where
  computeDuration : ∀ (group : Group) (deviceNumber : Int),
    group.devices.length + deviceNumber = n → group.repetitions = repetitions →
    group.dates = bookedWindows class_ repetitions lifeTime →
    computeDuration group deviceNumber =
      .ok (n * bookedTime (bookedWindows class_ repetitions lifeTime))
  updateGroup : ∀ (group : Group) (body : groups.GroupBody) (name : String),
    group.devices.length = n → ∀ start ∈ lifeTime.start, ∀ stop ∈ lifeTime.stop,
    (groups.updateData group body ⟨class_, name, repetitions, lifeTime.start, lifeTime.stop⟩ start
      stop).duration = if isOriginGroup class_ then 0 else
        n * bookedTime (bookedWindows class_ repetitions lifeTime)
  windows : ∀ start ∈ lifeTime.start, ∀ stop ∈ lifeTime.stop,
    Evenly class_ (stop - start) (bookedWindows class_ repetitions lifeTime)

section Booked

variable {class_ : GroupClass} {d repetitions start stop : Int}

theorem bookedWindows_eq (hd : CLASS_DURATION class_ = some d) :
    bookedWindows class_ repetitions ⟨some start, some stop⟩ =
      (List.range (windowCount repetitions)).map fun i : Nat =>
        ⟨start + i * d, stop + i * d⟩ := by
  rw [bookedWindows, computeGroupDates_eq hd, List.map_map]
  rfl

theorem bookedWindows_zero (class_ : GroupClass) (start stop : Int) :
    bookedWindows class_ 0 ⟨some start, some stop⟩ = [⟨start, stop⟩] := rfl

theorem bookedTime_bookedWindows (hd : CLASS_DURATION class_ = some d) :
    bookedTime (bookedWindows class_ repetitions ⟨some start, some stop⟩) =
      max 1 repetitions * (stop - start) := by
  have hlength : ∀ i : Nat, (stop + i * d) - (start + i * d) = stop - start := fun i => by ring
  rw [bookedWindows_eq hd, bookedTime, List.map_map]
  simp [Function.comp_def, hlength, windowCount_cast]

/-- Life times that are not longer than the class lasts follow one another. -/
theorem evenly_bookedWindows (hd : CLASS_DURATION class_ = some d) (hlt : start < stop)
    (hle : stop - start ≤ d) :
    Evenly class_ (stop - start) (bookedWindows class_ repetitions ⟨some start, some stop⟩) := by
  rw [bookedWindows_eq hd]
  -- a later window is later by at least the duration of the class
  have hlater : ∀ {i j : Nat}, i < j → start + i * d + d ≤ start + j * d := fun {i j} hij => by
    have hmul : ((i + 1 : Nat) : Int) * d ≤ j * d :=
      Int.mul_le_mul_of_nonneg_right (by omega) (by omega)
    push_cast at hmul
    linarith
  refine ⟨?_, ?_, ?_, ?_⟩
  · refine List.pairwise_map.2 (List.pairwise_lt_range.imp fun {i j} hij => ?_)
    have := hlater hij
    show start + i * d < start + j * d
    omega
  · refine List.pairwise_map.2 (List.pairwise_lt_range.imp fun {i j} hij => ?_)
    have := hlater hij
    simp only [GroupModel.overlaps, Bool.and_eq_false_iff, decide_eq_false_iff_not, not_lt]
    right
    omega
  · simp
  · intro i w w' hw hw'
    simp only [List.getElem?_map, Option.map_eq_some_iff] at hw hw'
    obtain ⟨j, hj, rfl⟩ := hw
    obtain ⟨j', hj', rfl⟩ := hw'
    obtain ⟨-, rfl⟩ := List.getElem?_eq_some_iff.1 hj
    obtain ⟨-, rfl⟩ := List.getElem?_eq_some_iff.1 hj'
    simp only [List.getElem_range, hd]
    push_cast
    congr 1
    ring

theorem evenly_singleton (class_ : GroupClass) (w : Window) :
    Evenly class_ (w.stop - w.start) [w] := by
  refine ⟨List.pairwise_singleton _ _, List.pairwise_singleton _ _, by simp, fun i w w' _ hw' => ?_⟩
  simp at hw'

/-- `n` devices in a group. -/
def groupOf (n : Nat) (repetitions : Int) (dates : List Window) : Group :=
  { Sample.root with
    devices := List.replicate n "d", repetitions := repetitions, dates := dates }

/-- The price of `n` devices, for one repetition more than are asked for. -/
theorem chargedAsBooked_of_prices {n : Nat} {lifeTime : LifeTime} {class_ : GroupClass}
    {repetitions start stop : Int} (hstart : lifeTime = ⟨some start, some stop⟩)
    (hwindows : Evenly class_ (stop - start) (bookedWindows class_ repetitions lifeTime)) :
    ChargedAsBooked class_ repetitions lifeTime n ↔
      n * (stop - start) * (repetitions + 1) =
        n * bookedTime (bookedWindows class_ repetitions lifeTime) := by
  subst hstart
  set dates := bookedWindows class_ repetitions ⟨some start, some stop⟩ with hdates
  have hhead : ∃ rest, dates = ⟨start, stop⟩ :: rest := ⟨_, rfl⟩
  have hprice : ∀ (group : Group) (deviceNumber : Int), group.devices.length + deviceNumber = n →
      group.repetitions = repetitions → group.dates = dates →
      computeDuration group deviceNumber = .ok (n * (stop - start) * (repetitions + 1)) := by
    intro group deviceNumber hn hr hd
    obtain ⟨rest, hrest⟩ := hhead
    unfold computeDuration
    rw [hd, hrest, hn, hr]
  constructor
  · intro h
    have hgroup := hprice (groupOf n repetitions dates) 0 (by simp [groupOf]) rfl rfl
    rw [h.computeDuration (groupOf n repetitions dates) 0 (by simp [groupOf]) rfl rfl] at hgroup
    exact (Except.ok.inj hgroup).symm
  · intro h
    refine ⟨fun group deviceNumber hn hr hd => ?_, fun group body name hn s hs t ht => ?_,
      fun s hs t ht => ?_⟩
    · rw [hprice group deviceNumber hn hr hd, h]
    · obtain rfl := Option.some.inj hs
      obtain rfl := Option.some.inj ht
      simp only [groups.updateData, hn, h, hdates]
    · obtain rfl := Option.some.inj hs
      obtain rfl := Option.some.inj ht
      exact hwindows

end Booked

/-- A database with one user, who owns nothing. -/
def oneUser : Db where
  users := .ofDocs [Sample.user "u" ⟨5, 36000000⟩ ⟨0, 0⟩]
  groups := .ofDocs [Sample.root]
  devices := Collection.empty

namespace apiutil

/-- A stored window as a pair of dates. -/
def LifeTime.ofWindow (w : Window) : LifeTime := ⟨some w.start, some w.stop⟩

/-- The life time lies in the other one, if its dates are valid. -/
def LifeTime.Within (l l' : LifeTime) : Prop :=
  ∀ a ∈ l.start, ∀ b ∈ l.stop, ∃ a' ∈ l'.start, ∃ b' ∈ l'.stop, a' ≤ a ∧ b ≤ b'

/-- The windows of a schedule that shrinks lie in those that it had. -/
theorem within_of_shrinks {class_ : GroupClass} {start stop start' stop' repetitions : Int}
    {repetitions' : Int} (hstart : start ≤ start') (hstop : stop' ≤ stop)
    (hrepetitions : repetitions' ≤ repetitions) :
    ∀ l ∈ computeGroupDates ⟨some start', some stop'⟩ class_ repetitions',
      ∃ w ∈ bookedWindows class_ repetitions ⟨some start, some stop⟩,
        l.Within (LifeTime.ofWindow w) := by
  intro l hl
  cases hd : CLASS_DURATION class_ with
  | none =>
    refine ⟨⟨start, stop⟩, List.mem_cons_self, ?_⟩
    rcases List.mem_cons.1 hl with rfl | hl
    · intro a ha b hb
      obtain rfl := Option.some.inj ha
      obtain rfl := Option.some.inj hb
      exact ⟨start, rfl, stop, rfl, hstart, hstop⟩
    · -- the dates are invalid
      obtain rfl := repeatLifeTime_none hd _ _ l hl
      intro a ha
      cases ha
  | some d =>
    rw [computeGroupDates_eq hd] at hl
    obtain ⟨i, hi, rfl⟩ := List.mem_map.1 hl
    have hcount : windowCount repetitions' ≤ windowCount repetitions := by
      unfold windowCount
      omega
    have hmem : i < windowCount repetitions := (List.mem_range.1 hi).trans_le hcount
    refine ⟨⟨start + i * d, stop + i * d⟩, ?_, ?_⟩
    · rw [bookedWindows_eq hd]
      exact List.mem_map.2 ⟨i, List.mem_range.2 hmem, rfl⟩
    · intro a ha b hb
      obtain rfl := Option.some.inj ha
      obtain rfl := Option.some.inj hb
      exact ⟨_, rfl, _, rfl, Int.add_le_add_right hstart _, Int.add_le_add_right hstop _⟩

end apiutil

namespace groups

/-- A window in another one has a conflict only if that has one. -/
theorem windowConflict_of_within {devices : List String} {otherGroup : Group} {l : LifeTime}
    {w o : Window} (hl : l.Within (LifeTime.ofWindow w))
    (h : windowConflict devices otherGroup (LifeTime.ofWindow w) o = none) :
    windowConflict devices otherGroup l o = none := by
  obtain ⟨start, stop⟩ := l
  cases start with
  | none => rfl
  | some start =>
    cases stop with
    | none => rfl
    | some stop =>
      obtain ⟨a', ha', b', hb', hstart, hstop⟩ := hl start rfl stop rfl
      obtain rfl := Option.some.inj ha'
      obtain rfl := Option.some.inj hb'
      simp only [windowConflict, LifeTime.ofWindow, ite_eq_right_iff, reduceCtorEq, imp_false,
        not_and, not_lt] at h ⊢
      intro hlt
      have := h (by omega)
      omega

theorem computeConflicts_of_within {id : String} {devices : List String} {dates : List LifeTime}
    {windows : List Window} {otherGroup : Group}
    (hdates : ∀ l ∈ dates, ∃ w ∈ windows, l.Within (LifeTime.ofWindow w))
    (h : computeConflicts id devices (windows.map LifeTime.ofWindow) otherGroup = []) :
    computeConflicts id devices dates otherGroup = [] := by
  unfold computeConflicts at h ⊢
  split at h
  · rw [if_pos ‹_›]
  rw [if_neg ‹_›]
  dsimp only at h ⊢
  split at h
  · rw [if_pos ‹_›]
  rw [if_neg ‹_›]
  simp only [List.flatMap_eq_nil_iff, List.filterMap_eq_nil_iff, List.forall_mem_map] at h ⊢
  intro l hl o ho
  obtain ⟨w, hw, hwithin⟩ := hdates l hl
  exact windowConflict_of_within hwithin (h w hw o ho)

/-- The conflicts of a schedule with the other bookings. -/
def conflictsIn (db : Db) (id : String) (devices : List String) (dates : List LifeTime) :
    List Conflict :=
  (db.groups.docs.filter fun g => g.Transient).flatMap (computeConflicts id devices dates)

theorem runs_checkConflicts_iff {id : String} {devices : List String} {dates : List LifeTime}
    {α : Type} {k : List Conflict → DbM α} {db db' : Db} {r : Except JsError α} :
    ((checkConflicts id devices dates).bind k).Runs DbOp.exec db r db' ↔
      (k (conflictsIn db id devices dates)).Runs DbOp.exec db r db' := Iff.rfl

/-- The update of a schedule if conflicts were looked for in any case. -/
def checkedUpdate (id : String) (isInternal : Bool) (group : Group) (dates : List LifeTime)
    (data : GroupUpdate) : DbM (Option Response) := do
  let conflicts ← checkConflicts id group.devices dates
  if conflicts = [] then updateGroupData isInternal group data
  else return some ⟨409, "Conflicts Information"⟩

/-- A booking of two hours in a row, beside one of the same device later in the day. -/
def twoHours : Group :=
  { Sample.booking "g" "u" .hourly 2 [⟨0, 1800000⟩, ⟨3600000, 5400000⟩] 5400000 ["d"] with
    state := .pending }

/-- A database with another booking of the device besides `twoHours`. -/
def besideTwoHours : Db where
  users := oneUser.users
  groups := ⟨[Sample.root, twoHours,
    Sample.booking "h" "u" .once 0 [⟨36000000, 39600000⟩] 3600000 ["d"]], by decide⟩
  devices := Collection.empty

end groups

end DeviceHub

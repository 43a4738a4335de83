import DeviceHub.Db.Documents

/-!
# `util/apiutil.js`

The constants and pure helpers of the API that the group functions use.
-/

namespace DeviceHub

namespace apiutil

/-- One second, in milliseconds. -/
def ONE_SECOND : Int := 1000
/-- One minute. -/
def ONE_MN : Int := ONE_SECOND * 60
/-- Five minutes. -/
def FIVE_MN : Int := 300 * 1000
/-- A quarter of an hour. -/
def QUARTER_MINUTES : Int := FIVE_MN * 3
/-- One hour. -/
def ONE_HOUR : Int := 3600 * 1000
/-- One day. -/
def ONE_DAY : Int := 24 * ONE_HOUR
/-- One week. -/
def ONE_WEEK : Int := 7 * ONE_DAY
/-- A month of thirty days. -/
def ONE_MONTH : Int := 30 * ONE_DAY
/-- Three months. -/
def ONE_QUATER : Int := 3 * ONE_MONTH
/-- Six months. -/
def ONE_HALF_YEAR : Int := 6 * ONE_MONTH
/-- A year of 365 days. -/
def ONE_YEAR : Int := 365 * ONE_DAY

/-- The longest life time of each class; `none` is `Infinity`. -/
def CLASS_DURATION : GroupClass → Option Int
  | .once => none
  | .bookable => none
  | .standard => none
  | .hourly => some ONE_HOUR
  | .daily => some ONE_DAY
  | .weekly => some ONE_WEEK
  | .monthly => some ONE_MONTH
  | .quaterly => some ONE_QUATER
  | .halfyearly => some ONE_HALF_YEAR
  | .yearly => some ONE_YEAR
  | .debug => some FIVE_MN

/-- Devices can originate from a group of this class. -/
def isOriginGroup (class_ : GroupClass) : Bool := class_ = .bookable || class_ = .standard

/-- Only admins may have groups of this class. -/
def isAdminGroup (class_ : GroupClass) : Bool := isOriginGroup class_ || class_ = .debug

/-- The user may edit the group. -/
def hasGroupEditPermission (group : Group) (user : User) (allowModerator : Bool := true) :
    Bool :=
  user.privilege = .admin || group.owner.email = user.email ||
    (allowModerator && user.email ∈ group.moderators)

/-- `computeDuration(group, deviceNumber)`; it reads `group.dates[0]` and throws when there is
none. -/
def computeDuration (group : Group) (deviceNumber : Int) : Except JsError Int :=
  match group.dates with
  | [] => .error .typeError
  | w :: _ =>
    .ok ((group.devices.length + deviceNumber) * (w.stop - w.start) * (group.repetitions + 1))

theorem computeDuration_eq_error {group : Group} {deviceNumber : Int} {e : JsError} :
    computeDuration group deviceNumber = .error e ↔ group.dates = [] ∧ e = .typeError := by
  unfold computeDuration
  cases group.dates with
  | nil => simp [eq_comm]
  | cons w ws => simp

theorem dates_ne_of_computeDuration {group : Group} {deviceNumber duration : Int}
    (h : computeDuration group deviceNumber = .ok duration) : group.dates ≠ [] := by
  intro hdates
  simp [computeDuration, hdates] at h

/-! ### Dates -/

/-- A `Date` object: its time in milliseconds, or `none` for an invalid date. -/
abbrev JsDate := Option Int

/-- A pair of `Date` objects, as the controllers build it from a request. -/
structure LifeTime where
  start : JsDate
  stop : JsDate
  deriving DecidableEq, Repr

/-- `new Date(date.getTime() + CLASS_DURATION[_class])`: adding `Infinity` to a time, or
anything to an invalid one, gives an invalid date. -/
def addClassDuration (class_ : GroupClass) (date : JsDate) : JsDate :=
  match date, CLASS_DURATION class_ with
  | some t, some d => some (t + d)
  | _, _ => none

/-- The loop of `computeGroupDates`, for `n` more rounds after `current`. -/
def repeatLifeTime (class_ : GroupClass) : Nat → LifeTime → List LifeTime
  | 0, _ => []
  | n + 1, current =>
    let next : LifeTime :=
      ⟨addClassDuration class_ current.start, addClassDuration class_ current.stop⟩
    next :: repeatLifeTime class_ n next

/-- `computeGroupDates(lifeTime, _class, repetitions)`: the life time itself and then one
window for each `repetition` in `1, .., repetitions - 1`. -/
def computeGroupDates (lifeTime : LifeTime) (class_ : GroupClass) (repetitions : Int) :
    List LifeTime :=
  lifeTime :: repeatLifeTime class_ (repetitions - 1).toNat lifeTime

/-- The window that the driver stores for a pair of dates: an invalid date is written as the
epoch. -/
def LifeTime.stored (l : LifeTime) : Window := ⟨l.start.getD 0, l.stop.getD 0⟩

end apiutil

open apiutil

/-- A group that books devices for a time: its class is neither bookable nor standard. -/
def Group.Transient (g : Group) : Prop := isOriginGroup g.class_ = false

instance (g : Group) : Decidable g.Transient := inferInstanceAs (Decidable (_ = _))

/-- The classes that do not repeat. -/
def GroupClass.Single (class_ : GroupClass) : Prop :=
  class_ = .bookable ∨ class_ = .standard ∨ class_ = .once

instance (class_ : GroupClass) : Decidable class_.Single := inferInstanceAs (Decidable (_ ∨ _))

end DeviceHub

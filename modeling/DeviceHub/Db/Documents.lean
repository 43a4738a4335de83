import DeviceHub.Store.Collection

/-!
# The documents of the database

The collections `users`, `groups` and `devices` that the group model, the group controllers
and the groups scheduler work on, with the fields these read or write.

Times are milliseconds since the epoch.  Serials, emails and group ids are strings.
-/

namespace DeviceHub

/-- The classes of `CLASS_DURATION`. -/
inductive GroupClass where
  | once | bookable | standard | hourly | daily | weekly | monthly | quaterly | halfyearly
  | yearly | debug
  deriving DecidableEq, Repr

/-- The privileges of groups (`root`, `admin`, `user`) and of users (`admin`, `user`). -/
inductive Privilege where
  | root | admin | user
  deriving DecidableEq, Repr

/-- The states of a group. -/
inductive GroupState where
  | pending | ready
  deriving DecidableEq, Repr

/-- The owner of a group or of a device. -/
structure Owner where
  email : String
  name : String
  deriving DecidableEq, Repr

/-- A stored date window, in milliseconds. -/
structure Window where
  start : Int
  stop : Int
  deriving DecidableEq, Repr

/-- A document of `groups`. -/
structure Group where
  id : String
  name : String
  owner : Owner
  privilege : Privilege
  class_ : GroupClass
  repetitions : Int
  isActive : Bool
  dates : List Window
  duration : Int
  state : GroupState
  devices : List String
  users : List String
  moderators : List String
  deriving DecidableEq, Repr

/-- A number of groups and a duration: what is allocated to a user, or consumed. -/
structure Quota where
  number : Int
  duration : Int
  deriving DecidableEq, Repr

/-- The field `groups.quotas` of a user. -/
structure Quotas where
  allocated : Quota
  consumed : Quota
  defaultGroupsNumber : Int
  defaultGroupsDuration : Int
  defaultGroupsRepetitions : Int
  repetitions : Int
  deriving DecidableEq, Repr

/-- A document of `users`; `subscribed`, `lock` and `quotas` are the fields under `groups`. -/
structure User where
  email : String
  name : String
  privilege : Privilege
  subscribed : List String
  lock : Bool
  quotas : Quotas
  deriving DecidableEq, Repr

/-- The field `group` of a device: a copy of the data of its current group, and its origin
group. -/
structure DeviceGroup where
  id : String
  name : Option String
  owner : Owner
  lifeTime : Option Window
  class_ : GroupClass
  repetitions : Int
  origin : String
  originName : Option String
  lock : Option Bool
  deriving DecidableEq, Repr

/-- A document of `devices`. -/
structure Device where
  serial : String
  group : DeviceGroup
  present : Bool
  ready : Bool
  status : Int
  owner : Option Owner
  deriving DecidableEq, Repr

instance : Keyed Group String := ⟨Group.id⟩
instance : Keyed User String := ⟨User.email⟩
instance : Keyed Device String := ⟨Device.serial⟩

@[simp] theorem Group.key_eq (g : Group) : key g = g.id := rfl
@[simp] theorem User.key_eq (u : User) : key u = u.email := rfl
@[simp] theorem Device.key_eq (d : Device) : key d = d.serial := rfl

/-- The database. -/
@[ext] structure Db where
  users : Collection User
  groups : Collection Group
  devices : Collection Device

/-- What the modelled functions throw: the strings they compare against, and the errors of
the language and the driver that they can run into. -/
inductive JsError where
  /-- `throw 'quota is reached'` -/
  | quotaIsReached
  /-- `throw 'dates overlap'` -/
  | datesOverlap
  /-- `Promise.reject('booked')` -/
  | booked
  /-- `Promise.reject('busy')` -/
  | busy
  /-- `throw new Error('Root group not found')` -/
  | rootGroupNotFound
  /-- `throw new Error(...)` for a missing document -/
  | notFound
  /-- A property of `null` or `undefined` was read. -/
  | typeError
  /-- The driver's `E11000 duplicate key` error. -/
  | duplicateKey
  /-- `setIntervalWrapper` gave up. -/
  | notLocked
  deriving DecidableEq, Repr

end DeviceHub

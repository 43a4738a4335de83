import DeviceHub.Db.Calls

/-!
# Documents with the usual values

Small documents for runs on concrete inputs: the fields that matter to a run are arguments, the
others have the values that the repository gives to new documents.
-/

namespace DeviceHub

namespace Sample

/-- A user without privileges; `allocated` and `consumed` are its quotas. -/
def user (email : String) (allocated consumed : Quota) : User where
  email := email
  name := email
  privilege := .user
  subscribed := []
  lock := false
  quotas :=
    { allocated := allocated
      consumed := consumed
      defaultGroupsNumber := 5
      defaultGroupsDuration := 3600000
      defaultGroupsRepetitions := 10
      repetitions := 10 }

/-- The root group, which holds every device that no other group holds. -/
def root : Group where
  id := "root"
  name := "Common"
  owner := ⟨"admin@devicehub", "admin"⟩
  privilege := .root
  class_ := .bookable
  repetitions := 0
  isActive := true
  dates := [⟨0, 31536000000⟩]
  duration := 0
  state := .ready
  devices := []
  users := ["admin@devicehub"]
  moderators := []

/-- A booking of `devices` by the user `email`, for the windows `dates`. -/
def booking (id email : String) (class_ : GroupClass) (repetitions : Int) (dates : List Window)
    (duration : Int) (devices : List String) : Group where
  id := id
  name := id
  owner := ⟨email, email⟩
  privilege := .user
  class_ := class_
  repetitions := repetitions
  isActive := false
  dates := dates
  duration := duration
  state := .ready
  devices := devices
  users := [email]
  moderators := []

/-- A device of the root group. -/
def device (serial : String) : Device where
  serial := serial
  group :=
    { id := root.id
      name := some root.name
      owner := root.owner
      lifeTime := root.dates.head?
      class_ := root.class_
      repetitions := root.repetitions
      origin := root.id
      originName := some root.name
      lock := none }
  present := true
  ready := true
  status := 3
  owner := none

end Sample

end DeviceHub

import DeviceHub.Async.Lts
import DeviceHub.Async.OneOf
import DeviceHub.Db.Sample

/-!
# `treatGroupUsersChange` of `db/handlers/group/index.js`

When the users of an active group change, the handler announces each of them with a message, which
lists the devices of the group.  Before that it makes a promise for each device.  The executor of
such a promise is an asynchronous function: what it returns resolves nothing, and so a promise is
resolved only if the device is to be taken from the user.

## Main definitions

* `GroupChangeHandler.executor` : what the executor of a promise does with the device.
* `GroupChangeHandler.system` : the callbacks for the users, in any order.
* `GroupChangeHandler.Announces` : each user is announced once, with the devices that are in the
  group.
* `GroupChangeHandler.Held` : the device is to be taken from the user.

## Main results

* `GroupChangeHandler.exists_finished` : the callbacks can always come to an end.
* `GroupChangeHandler.regular_of_run` : what the callbacks look like.
* `GroupChangeHandler.announces_iff` : when the users are announced.
* `GroupChangeHandler.not_announces_of_added` : a user who was added is not announced.
-/

namespace DeviceHub

/-- The message `GroupUserChangeMessage`. -/
structure GroupUserChangeMessage where
  users : List String
  isAdded : Bool
  id : String
  isDeletedLater : Bool
  devices : List String
  deriving DecidableEq, Repr

namespace GroupChangeHandler

/-- `sendGroupUsersChange`; `deletedLater` tells whether the action is `GroupDeletedLater`. -/
def sendGroupUsersChange (group : Group) (users devices : List String)
    (isAdded deletedLater : Bool) : GroupUserChangeMessage :=
  ⟨users, isAdded, group.id, deletedLater, devices⟩

/-- The state of the promise for a device. -/
inductive Phase where
  /-- The device is loaded. -/
  | loading
  /-- The executor has returned a value, and nothing will resolve the promise. -/
  | returned (value : Option String)
  /-- The device was asked to leave the group; the promise waits for the message that it has, or for
  the timer. -/
  | waiting
  | resolved (value : String)
  deriving DecidableEq, Repr

/-- The promise for a device. -/
structure DevicePromise where
  serial : String
  phase : Phase
  deriving DecidableEq, Repr

/-- The callback for a user: its promises, and whether it has sent its message. -/
structure Callback where
  email : String
  promises : List DevicePromise
  sent : Bool
  deriving DecidableEq, Repr

/-- The callbacks, the devices that were asked to leave, and the messages that were sent. -/
structure State where
  callbacks : List Callback
  released : List String
  messages : List GroupUserChangeMessage
  deriving DecidableEq, Repr

/-- What the executor does with the device that it has loaded. -/
def executor (group : Group) (isAddedUser : Bool) (email serial : String) :
    Option Device → Phase
  | none => .returned none
  | some device =>
    if device.group.id ≠ group.id then .returned none
    else if isAddedUser || device.owner.all (·.email ≠ email) then .returned (some serial)
    else .waiting

/-- The call: the message for a group that is not active, and the callbacks otherwise. -/
def treatGroupUsersChange (group : Group) (users : List String) (isActive isAddedUser : Bool) :
    State :=
  if !isActive then ⟨[], [], [sendGroupUsersChange group users [] isAddedUser false]⟩
  else ⟨users.map fun email => ⟨email, group.devices.map (⟨·, .loading⟩), false⟩, [], []⟩

namespace DevicePromise

/-- The value with which the promise was resolved. -/
def value (p : DevicePromise) : Option String :=
  match p.phase with
  | .resolved value => some value
  | _ => none

/-- The device is loaded from the database `db`; `out` is asked to leave the group. -/
def Loads (db : Db) (group : Group) (isAddedUser : Bool) (email : String) (out : Option String)
    (p p' : DevicePromise) : Prop :=
  p.phase = .loading ∧
    p' = { p with
      phase := executor group isAddedUser email p.serial (db.devices.findOne p.serial) } ∧
    out = if p'.phase = .waiting then some p.serial else none

/-- The timer fires. -/
def TimesOut (p p' : DevicePromise) : Prop :=
  p.phase = .waiting ∧ p' = { p with phase := .resolved p.serial }

/-- The listener of the promise, for a user `email`, receives a `LeaveGroupMessage`. -/
def leave (email serial owner : String) (p : DevicePromise) : DevicePromise :=
  if p.phase = .waiting ∧ serial = p.serial ∧ owner = email then
    { p with phase := .resolved p.serial }
  else p

end DevicePromise

namespace Callback

/-- One of the promises takes a step. -/
def Steps (R : String → DevicePromise → DevicePromise → Prop) (c c' : Callback) : Prop :=
  ∃ promises, OneOf (R c.email) c.promises promises ∧ c' = { c with promises := promises }

/-- All promises are resolved, and the callback sends its message. -/
def Sends (group : Group) (isAddedUser : Bool) (message : GroupUserChangeMessage)
    (c c' : Callback) : Prop :=
  c.sent = false ∧ ∃ values : List String, c.promises.map DevicePromise.value = values.map some ∧
    c' = { c with sent := true } ∧
    message = sendGroupUsersChange group [c.email] (values.filter (· ≠ "")) isAddedUser false

/-- The listeners of the callback receive a `LeaveGroupMessage`. -/
def leave (serial owner : String) (c : Callback) : Callback :=
  { c with promises := c.promises.map (DevicePromise.leave c.email serial owner) }

end Callback

/-- What can happen to the callbacks. -/
inductive Event where
  | load
  /-- A message says that the device has left the group of its owner. -/
  | leave (serial owner : String)
  | timeout
  | send
  deriving DecidableEq

/-- The callbacks, over the database `db`. -/
def system (db : Db) (group : Group) (isAddedUser : Bool) : Lts State Event where
  step s event s' :=
    match event with
    | .load => ∃ out callbacks, OneOf (Callback.Steps fun email =>
        DevicePromise.Loads db group isAddedUser email out) s.callbacks callbacks ∧
          s' = { s with callbacks := callbacks, released := s.released ++ out.toList }
    | .leave serial owner =>
      s' = { s with callbacks := s.callbacks.map (Callback.leave serial owner) }
    | .timeout => ∃ callbacks, OneOf (Callback.Steps fun _ => DevicePromise.TimesOut) s.callbacks
        callbacks ∧ s' = { s with callbacks := callbacks }
    | .send => ∃ message callbacks, OneOf (Callback.Sends group isAddedUser message) s.callbacks
        callbacks ∧ s' = { s with callbacks := callbacks, messages := s.messages ++ [message] }

/-- All devices are loaded, all timers have fired, and every callback that can has sent its
message. -/
def State.Finished (s : State) : Prop :=
  ∀ c ∈ s.callbacks, (∀ p ∈ c.promises, p.phase ≠ .loading ∧ p.phase ≠ .waiting) ∧
    ((∀ p ∈ c.promises, p.value.isSome) → c.sent = true)

/-- The devices of the group that exist, and whose current group it is. -/
def currentDevices (db : Db) (group : Group) : List String :=
  group.devices.filter fun serial => (db.devices.findOne serial).any (·.group.id = group.id)

/-- Each listed user is announced once, with the devices of the group that exist and whose current
group it is. -/
def Announces (db : Db) (group : Group) (users : List String) (isAddedUser : Bool) : Prop :=
  ∀ events s, (system db group isAddedUser).Run
    (treatGroupUsersChange group users true isAddedUser) events s → s.Finished →
    s.messages.Perm (users.map fun email =>
      sendGroupUsersChange group [email] (currentDevices db group) isAddedUser false)

/-- The device is to be taken from the user: it is in the group, the user has it, and the user is not
one who was added. -/
def Held (db : Db) (group : Group) (isAddedUser : Bool) (email serial : String) : Prop :=
  isAddedUser = false ∧ ∃ device ∈ db.devices.findOne serial, device.group.id = group.id ∧
    ∃ owner ∈ device.owner, owner.email = email

variable {db : Db} {group : Group} {isAddedUser : Bool} {email serial : String}

theorem executor_eq_waiting_iff :
    executor group isAddedUser email serial (db.devices.findOne serial) = .waiting ↔
      Held db group isAddedUser email serial := by
  unfold executor Held
  cases db.devices.findOne serial with
  | none => simp
  | some device =>
    by_cases hgroup : device.group.id = group.id
    · cases isAddedUser <;> cases hdevice : device.owner <;> simp [hgroup, hdevice]
    · simp [hgroup]

/-- The executor leaves the promise alone, unless the device is to be taken from the user. -/
theorem executor_of_not_held (h : ¬ Held db group isAddedUser email serial) : ∃ value,
    executor group isAddedUser email serial (db.devices.findOne serial) = .returned value := by
  have hnot := mt executor_eq_waiting_iff.1 h
  generalize db.devices.findOne serial = found at hnot
  unfold executor at hnot ⊢
  cases found with
  | none => exact ⟨_, rfl⟩
  | some device =>
    dsimp only at hnot ⊢
    split_ifs at hnot ⊢
    · exact ⟨_, rfl⟩
    · exact ⟨_, rfl⟩
    · exact absurd rfl hnot

/-! ### What the callbacks look like -/

/-- A promise that waits or is resolved is for a device that is to be taken from the user; one whose
executor has returned is for another one. -/
def DevicePromise.Regular (db : Db) (group : Group) (isAddedUser : Bool) (email : String)
    (p : DevicePromise) : Prop :=
  match p.phase with
  | .loading => True
  | .returned _ => ¬ Held db group isAddedUser email p.serial
  | .waiting => Held db group isAddedUser email p.serial
  | .resolved value => Held db group isAddedUser email p.serial ∧ value = p.serial

/-- A callback has a promise for each device of the group, and has sent its message only if all of
them are resolved. -/
structure Callback.Regular (db : Db) (group : Group) (isAddedUser : Bool) (c : Callback) : Prop where
  serials : c.promises.map DevicePromise.serial = group.devices
  promises : ∀ p ∈ c.promises, p.Regular db group isAddedUser c.email
  sent : c.sent = true → ∀ p ∈ c.promises, p.value.isSome

/-- The message of a callback that has sent it. -/
def Callback.announced (group : Group) (isAddedUser : Bool) (c : Callback) :
    List GroupUserChangeMessage :=
  if c.sent then
    [sendGroupUsersChange group [c.email] (group.devices.filter (· ≠ "")) isAddedUser false]
  else []

/-- The callbacks are for the users, and the messages are theirs. -/
structure Regular (db : Db) (group : Group) (users : List String) (isAddedUser : Bool) (s : State) :
    Prop where
  emails : s.callbacks.map Callback.email = users
  callbacks : ∀ c ∈ s.callbacks, c.Regular db group isAddedUser
  messages : s.messages.Perm (s.callbacks.flatMap (Callback.announced group isAddedUser))

theorem regular_treatGroupUsersChange (users : List String) :
    Regular db group users isAddedUser (treatGroupUsersChange group users true isAddedUser) where
  emails := by simp [treatGroupUsersChange, Function.comp_def]
  callbacks := by
    simp only [treatGroupUsersChange, Bool.not_true, Bool.false_eq_true, if_false, List.forall_mem_map]
    intro email hemail
    refine ⟨by simp [Function.comp_def], ?_, nofun⟩
    simp [DevicePromise.Regular]
  messages := by simp [treatGroupUsersChange, List.flatMap_map, Callback.announced]

namespace DevicePromise

variable {p p' : DevicePromise} {out : Option String}

theorem serial_of_loads (h : Loads db group isAddedUser email out p p') : p'.serial = p.serial := by
  rw [h.2.1]

theorem serial_of_timesOut (h : TimesOut p p') : p'.serial = p.serial := by
  rw [h.2]

@[simp] theorem serial_leave (email serial owner : String) (p : DevicePromise) :
    (p.leave email serial owner).serial = p.serial := by
  unfold leave
  split <;> rfl

theorem Regular.loads (h : Loads db group isAddedUser email out p p') :
    p'.Regular db group isAddedUser email := by
  rw [h.2.1]
  by_cases hheld : Held db group isAddedUser email p.serial
  · simpa [DevicePromise.Regular, executor_eq_waiting_iff.2 hheld] using hheld
  · obtain ⟨value, hvalue⟩ := executor_of_not_held hheld
    simpa [DevicePromise.Regular, hvalue] using hheld

theorem Regular.resolve (hp : p.Regular db group isAddedUser email) (hwaiting : p.phase = .waiting) :
    DevicePromise.Regular db group isAddedUser email { p with phase := .resolved p.serial } := by
  unfold DevicePromise.Regular at hp ⊢
  rw [hwaiting] at hp
  exact ⟨hp, rfl⟩

theorem Regular.leave (hp : p.Regular db group isAddedUser email) (serial owner : String) :
    (p.leave email serial owner).Regular db group isAddedUser email := by
  unfold DevicePromise.leave
  split
  · rename_i h
    exact hp.resolve h.1
  · exact hp

theorem value_eq_none_of_loads (h : Loads db group isAddedUser email out p p') : p.value = none := by
  simp [value, h.1]

theorem value_eq_none_of_timesOut (h : TimesOut p p') : p.value = none := by
  simp [value, h.1]

theorem value_leave (serial owner : String) (h : p.value.isSome) :
    (p.leave email serial owner).value.isSome := by
  unfold leave
  split
  · rfl
  · exact h

end DevicePromise

namespace Callback

variable {c c' : Callback}

theorem Regular.steps {R : String → DevicePromise → DevicePromise → Prop}
    (hserial : ∀ {email p p'}, R email p p' → p'.serial = p.serial)
    (hregular : ∀ {email p p'}, p.Regular db group isAddedUser email → R email p p' →
      p'.Regular db group isAddedUser email)
    (hvalue : ∀ {email p p'}, R email p p' → p.value = none)
    (hc : c.Regular db group isAddedUser) (h : Steps R c c') :
    c'.Regular db group isAddedUser ∧ c'.email = c.email ∧ c'.sent = c.sent := by
  obtain ⟨promises, hstep, rfl⟩ := h
  refine ⟨⟨?_, ?_, fun hsent => ?_⟩, rfl, rfl⟩
  · exact (hstep.map_eq fun _ _ _ => hserial).trans hc.serials
  · exact hstep.forall_mem (fun _ _ => hregular) hc.promises
  · -- the promise that takes the step is not resolved
    obtain ⟨p, hp, p', -, hR⟩ := hstep.exists_mem
    have hsome := hc.sent hsent p hp
    rw [hvalue hR] at hsome
    cases hsome

theorem Regular.leave (hc : c.Regular db group isAddedUser) (serial owner : String) :
    (c.leave serial owner).Regular db group isAddedUser where
  serials := by
    rw [← hc.serials]
    simp [Callback.leave, Function.comp_def]
  promises := by
    simp only [Callback.leave, List.forall_mem_map]
    exact fun p hp => (hc.promises p hp).leave serial owner
  sent hsent := by
    simp only [Callback.leave, List.forall_mem_map]
    exact fun p hp => DevicePromise.value_leave serial owner (hc.sent hsent p hp)

/-- The promises that are resolved have the serials as their values. -/
theorem Regular.values (hc : c.Regular db group isAddedUser) {values : List String}
    (hvalues : c.promises.map DevicePromise.value = values.map some) : values = group.devices := by
  have hserials : c.promises.map DevicePromise.value =
      (c.promises.map DevicePromise.serial).map some := by
    rw [List.map_map]
    refine List.map_congr_left fun p hp => ?_
    have hregular := hc.promises p hp
    have hmem : p.value ∈ values.map some := hvalues ▸ List.mem_map_of_mem hp
    obtain ⟨value, -, hvalue⟩ := List.mem_map.1 hmem
    unfold DevicePromise.value DevicePromise.Regular at *
    cases hphase : p.phase with
    | resolved v =>
      rw [hphase] at hregular
      simp [hregular.2]
    | _ => simp [hphase] at hvalue
  rw [hserials, hc.serials] at hvalues
  exact (List.map_injective_iff.2 (Option.some_injective _) hvalues).symm

theorem Regular.sends {message : GroupUserChangeMessage} (hc : c.Regular db group isAddedUser)
    (h : Sends group isAddedUser message c c') : c'.Regular db group isAddedUser ∧
      c'.email = c.email ∧
        (c'.announced group isAddedUser).Perm (c.announced group isAddedUser ++ [message]) := by
  obtain ⟨hsent, values, hvalues, rfl, rfl⟩ := h
  obtain rfl := hc.values hvalues
  refine ⟨⟨hc.serials, hc.promises, fun _ p hp => ?_⟩, rfl, ?_⟩
  · have hmem : p.value ∈ group.devices.map some := hvalues ▸ List.mem_map_of_mem hp
    obtain ⟨value, -, hvalue⟩ := List.mem_map.1 hmem
    rw [← hvalue]
    rfl
  · simp [announced, hsent]

end Callback

/-- **What the callbacks look like**, after any events. -/
theorem regular_of_run {users : List String} {events : List Event} {s s' : State}
    (hrun : (system db group isAddedUser).Run s events s')
    (hs : Regular db group users isAddedUser s) : Regular db group users isAddedUser s' := by
  refine hrun.invariant hs fun s event s' hs hstep => ?_
  -- a step of a callback that announces nothing
  have hquiet : ∀ {R callbacks}, OneOf R s.callbacks callbacks →
      (∀ c c', c.Regular db group isAddedUser → R c c' → c'.Regular db group isAddedUser ∧
        c'.email = c.email ∧ c'.sent = c.sent) →
      ∀ released, Regular db group users isAddedUser ⟨callbacks, released, s.messages⟩ := by
    intro R callbacks hone hstep released
    have hkept : ∀ c c', c ∈ s.callbacks → R c c' → c'.email = c.email ∧ c'.sent = c.sent :=
      fun c c' hc h => (hstep c c' (hs.callbacks c hc) h).2
    refine ⟨?_, hone.forall_mem (fun c c' hc h => (hstep c c' hc h).1) hs.callbacks, ?_⟩
    · exact (hone.map_eq fun c c' hc h => (hkept c c' hc h).1).trans hs.emails
    · refine hs.messages.trans ?_
      rw [← List.append_nil (s.callbacks.flatMap _)]
      refine (hone.flatMap_perm fun c c' hc h => ?_).symm
      obtain ⟨hemail, hsent⟩ := hkept c c' hc h
      rw [Callback.announced, Callback.announced, hemail, hsent, List.append_nil]
  cases event with
  | load =>
    obtain ⟨out, callbacks, hone, rfl⟩ := hstep
    refine hquiet hone (fun c c' hc h => ?_) _
    exact hc.steps DevicePromise.serial_of_loads (fun _ => DevicePromise.Regular.loads)
      DevicePromise.value_eq_none_of_loads h
  | leave serial owner =>
    obtain rfl := hstep
    refine ⟨?_, ?_, ?_⟩
    · rw [← hs.emails, List.map_map]
      rfl
    · simp only [List.forall_mem_map]
      exact fun c hc => (hs.callbacks c hc).leave serial owner
    · rw [List.flatMap_map]
      exact hs.messages
  | timeout =>
    obtain ⟨callbacks, hone, rfl⟩ := hstep
    refine hquiet hone (fun c c' hc h => ?_) _
    refine hc.steps DevicePromise.serial_of_timesOut (fun hp h => ?_)
      DevicePromise.value_eq_none_of_timesOut h
    rw [h.2]
    exact hp.resolve h.1
  | send =>
    obtain ⟨message, callbacks, hone, rfl⟩ := hstep
    refine ⟨?_, hone.forall_mem (fun c c' hc h => (hc.sends h).1) hs.callbacks, ?_⟩
    · refine (hone.map_eq fun c c' hc h => ?_).trans hs.emails
      exact ((hs.callbacks c hc).sends h).2.1
    · refine (hs.messages.append_right _).trans (hone.flatMap_perm fun c c' hc h => ?_).symm
      exact ((hs.callbacks c hc).sends h).2.2

/-! ### The callbacks come to an end -/

/-- The steps that are left to a promise at most. -/
def DevicePromise.weight (p : DevicePromise) : ℕ :=
  match p.phase with
  | .loading => 2
  | .waiting => 1
  | _ => 0

/-- How much is left to do for a callback. -/
def Callback.weight (c : Callback) : ℕ :=
  (c.promises.map DevicePromise.weight).sum + if c.sent then 0 else 1

/-- How much is left to do. -/
def State.weight (s : State) : ℕ := (s.callbacks.map Callback.weight).sum

theorem weight_of_loads {p p' : DevicePromise} {out : Option String}
    (h : DevicePromise.Loads db group isAddedUser email out p p') : p'.weight < p.weight := by
  rw [h.2.1]
  by_cases hheld : Held db group isAddedUser email p.serial
  · simp [DevicePromise.weight, h.1, executor_eq_waiting_iff.2 hheld]
  · obtain ⟨value, hvalue⟩ := executor_of_not_held hheld
    simp [DevicePromise.weight, h.1, hvalue]

theorem weight_of_timesOut {p p' : DevicePromise} (h : DevicePromise.TimesOut p p') :
    p'.weight < p.weight := by
  rw [h.2]
  simp [DevicePromise.weight, h.1]

theorem Callback.weight_of_steps {R : String → DevicePromise → DevicePromise → Prop}
    (hR : ∀ {email p p'}, R email p p' → p'.weight < p.weight) {c c' : Callback}
    (h : Steps R c c') : c'.weight < c.weight := by
  obtain ⟨promises, hstep, rfl⟩ := h
  exact Nat.add_lt_add_right (hstep.sum_lt fun _ _ => hR) _

theorem Callback.weight_of_sends {message : GroupUserChangeMessage} {c c' : Callback}
    (h : Sends group isAddedUser message c c') : c'.weight < c.weight := by
  obtain ⟨hsent, values, -, rfl, -⟩ := h
  simp [Callback.weight, hsent]

theorem exists_values {promises : List DevicePromise} (h : ∀ p ∈ promises, p.value.isSome) :
    ∃ values : List String, promises.map DevicePromise.value = values.map some := by
  induction promises with
  | nil => exact ⟨[], rfl⟩
  | cons p promises ih =>
    rw [List.forall_mem_cons] at h
    obtain ⟨value, hvalue⟩ := Option.isSome_iff_exists.1 h.1
    obtain ⟨values, hvalues⟩ := ih h.2
    exact ⟨value :: values, by rw [List.map_cons, List.map_cons, hvalue, hvalues]⟩

/-- Something is left to do as long as the callbacks have not come to an end. -/
theorem exists_step {s : State} (hs : ¬ s.Finished) :
    ∃ event s', (system db group isAddedUser).step s event s' ∧ s'.weight < s.weight := by
  unfold State.Finished at hs
  push Not at hs
  obtain ⟨c, hc, hopen⟩ := hs
  by_cases hbusy : ∃ p ∈ c.promises, p.phase = .loading ∨ p.phase = .waiting
  · obtain ⟨p, hp, hloading | hwaiting⟩ := hbusy
    · obtain ⟨promises, hstep⟩ := OneOf.of_mem
        (R := DevicePromise.Loads db group isAddedUser c.email _) hp ⟨hloading, rfl, rfl⟩
      obtain ⟨callbacks, hone⟩ := OneOf.of_mem (R := Callback.Steps fun email =>
        DevicePromise.Loads db group isAddedUser email _) hc ⟨promises, hstep, rfl⟩
      exact ⟨.load, _, ⟨_, callbacks, hone, rfl⟩,
        hone.sum_lt fun _ _ => Callback.weight_of_steps weight_of_loads⟩
    · obtain ⟨promises, hstep⟩ := OneOf.of_mem (R := DevicePromise.TimesOut) hp ⟨hwaiting, rfl⟩
      obtain ⟨callbacks, hone⟩ := OneOf.of_mem (R := Callback.Steps fun _ =>
        DevicePromise.TimesOut) hc ⟨promises, hstep, rfl⟩
      exact ⟨.timeout, _, ⟨callbacks, hone, rfl⟩,
        hone.sum_lt fun _ _ => Callback.weight_of_steps weight_of_timesOut⟩
  · push Not at hbusy
    obtain ⟨hsome, hsent⟩ := hopen hbusy
    obtain ⟨values, hvalues⟩ := exists_values hsome
    obtain ⟨callbacks, hone⟩ := OneOf.of_mem (R := Callback.Sends group isAddedUser _) hc
      ⟨by simpa using hsent, values, hvalues, rfl, rfl⟩
    exact ⟨.send, _, ⟨_, callbacks, hone, rfl⟩,
      hone.sum_lt fun _ _ => Callback.weight_of_sends⟩

/-- **The callbacks can always come to an end.** -/
theorem exists_finished (db : Db) (group : Group) (isAddedUser : Bool) (s : State) :
    ∃ events s', (system db group isAddedUser).Run s events s' ∧ s'.Finished := by
  induction hweight : s.weight using Nat.strong_induction_on generalizing s with
  | _ n ih =>
    by_cases hs : s.Finished
    · exact ⟨[], s, .done s, hs⟩
    · obtain ⟨event, t, hstep, hlt⟩ : ∃ event t, (system db group isAddedUser).step s event t ∧
          t.weight < s.weight := exists_step hs
      obtain ⟨events, s', hrun, hfinished⟩ := ih _ (hweight ▸ hlt) t rfl
      exact ⟨event :: events, s', .more hstep hrun, hfinished⟩

/-! ### When the users are announced -/

/-- The callbacks that have sent their messages are those all of whose devices are to be taken from
the user. -/
theorem Callback.Regular.sent_iff {c : Callback} (hc : c.Regular db group isAddedUser)
    (hidle : ∀ p ∈ c.promises, p.phase ≠ .loading ∧ p.phase ≠ .waiting)
    (hsend : (∀ p ∈ c.promises, p.value.isSome) → c.sent = true) :
    c.sent = true ↔ ∀ serial ∈ group.devices, Held db group isAddedUser c.email serial := by
  have hheld : ∀ p ∈ c.promises, p.value.isSome ↔ Held db group isAddedUser c.email p.serial := by
    intro p hp
    have hregular := hc.promises p hp
    have hphase := hidle p hp
    unfold DevicePromise.Regular DevicePromise.value at *
    cases h : p.phase with
    | loading => exact absurd h hphase.1
    | waiting => exact absurd h hphase.2
    | returned value =>
      rw [h] at hregular
      simpa using hregular
    | resolved value =>
      rw [h] at hregular
      simpa using hregular.1
  rw [← hc.serials, List.forall_mem_map]
  constructor
  · exact fun hsent p hp => (hheld p hp).1 (hc.sent hsent p hp)
  · exact fun h => hsend fun p hp => (hheld p hp).2 (h p hp)

theorem mem_currentDevices (hserial : serial ∈ group.devices)
    (h : Held db group isAddedUser email serial) : serial ∈ currentDevices db group := by
  obtain ⟨-, device, hdevice, hgroup, -⟩ := h
  refine List.mem_filter.2 ⟨hserial, ?_⟩
  rw [Option.mem_def.1 hdevice]
  simpa using hgroup

/-- A user who is announced is one from whom each device of the group is to be taken. -/
theorem held_of_announces {users : List String} (hannounces : Announces db group users isAddedUser)
    (hemail : email ∈ users) (hserial : serial ∈ group.devices) :
    serial ≠ "" ∧ Held db group isAddedUser email serial := by
  obtain ⟨events, s, hrun, hfinished⟩ := exists_finished db group isAddedUser
    (treatGroupUsersChange group users true isAddedUser)
  have hs := regular_of_run hrun (regular_treatGroupUsersChange users)
  have hperm := hs.messages.symm.trans (hannounces events s hrun hfinished)
  -- the message for the user was sent by a callback
  obtain ⟨c, hc, hmessage⟩ := List.mem_flatMap.1 (hperm.mem_iff.2 (List.mem_map_of_mem hemail))
  unfold Callback.announced at hmessage
  split at hmessage
  · rename_i hsent
    have heq := List.mem_singleton.1 hmessage
    simp only [sendGroupUsersChange, GroupUserChangeMessage.mk.injEq, List.cons.injEq, and_true,
      true_and] at heq
    obtain ⟨rfl, hdevices⟩ := heq
    obtain ⟨hidle, hsend⟩ := hfinished c hc
    have hheld := ((hs.callbacks c hc).sent_iff hidle hsend).1 hsent serial hserial
    have hcurrent := mem_currentDevices hserial hheld
    rw [hdevices] at hcurrent
    exact ⟨by simpa using (List.mem_filter.1 hcurrent).2, hheld⟩
  · cases hmessage

/-- **The users are announced** exactly if each device of the group is to be taken from each of
them. -/
theorem announces_iff {users : List String} : Announces db group users isAddedUser ↔
    ∀ email ∈ users, ∀ serial ∈ group.devices,
      serial ≠ "" ∧ Held db group isAddedUser email serial := by
  constructor
  · exact fun hannounces email hemail serial hserial => held_of_announces hannounces hemail hserial
  · intro hheld events s hrun hfinished
    have hs := regular_of_run hrun (regular_treatGroupUsersChange users)
    have hannounced : s.callbacks.flatMap (Callback.announced group isAddedUser) =
        (s.callbacks.map Callback.email).map fun email =>
          sendGroupUsersChange group [email] (group.devices.filter (· ≠ "")) isAddedUser false := by
      rw [List.map_map, ← List.flatMap_pure_eq_map]
      refine List.flatMap_congr fun c hc => ?_
      have hemail : c.email ∈ users := hs.emails ▸ List.mem_map_of_mem hc
      obtain ⟨hidle, hsend⟩ := hfinished c hc
      have hsent := ((hs.callbacks c hc).sent_iff hidle hsend).2
        fun serial hserial => (hheld c.email hemail serial hserial).2
      rw [Callback.announced, if_pos hsent]
      rfl
    have hdevices : ∀ email ∈ users,
        group.devices.filter (· ≠ "") = currentDevices db group := by
      intro email hemail
      refine List.filter_congr fun serial hserial => ?_
      obtain ⟨hne, hserial'⟩ := hheld email hemail serial hserial
      rw [(List.mem_filter.1 (mem_currentDevices hserial hserial')).2]
      simpa using hne
    refine hs.messages.trans ?_
    rw [hannounced, hs.emails, List.map_congr_left fun email hemail => by rw [hdevices email hemail]]

/-- **A user who was added is not announced**, if the group has a device. -/
theorem not_announces_of_added : ¬ Announces
    { users := .empty, groups := .empty, devices := ⟨[Sample.device "d"], by simp⟩ }
    { Sample.root with devices := ["d"] } ["u"] true := by
  intro hannounces
  obtain ⟨-, hadded, -⟩ := held_of_announces hannounces (List.mem_singleton_self "u")
    (List.mem_singleton_self "d")
  cases hadded

end GroupChangeHandler

end DeviceHub

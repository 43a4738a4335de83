import DeviceHub.BaseDevice.Bookkeeping

/-!
# `units/api/helpers/useDevice.js`

A call of `useDevice` tests a device document, which may be out of date, then asks the device to
leave its group and to join the one of the user, and waits for messages of the device.  The device
handles the messages to it one at a time, in the order in which they were sent; every call reads
what the device sends at its own pace.

## Main definitions

* `useDevice.DeviceDoc`, `useDevice.Call` : the document of a call, and what it waits for.
* `useDevice.State`, `useDevice.system` : the calls for one device, with the device, in any order.
* `useDevice.State.load` : a document read from the database, which may not know of the last joins.
* `useDevice.Fresh` : nobody else has joined the device between the reading of the document of a
  call and the arrival of its first message.

## Main results

* `useDevice.no_theft_of_run` : nobody loses a device in the runs in which the documents are fresh.
* `useDevice.stolen_of_stale` : a run in which a device is taken from its user.
-/

namespace DeviceHub

namespace useDevice

open BaseDevice

/-- `UseDeviceError`. -/
inductive UseDeviceError where
  | NOT_FOUND
  | ALREADY_IN_USE
  | FAILED_JOIN
  | FAILED_CONNECT
  deriving DecidableEq

/-- The user of a call. -/
structure CallUser where
  email : String
  name : String
  group : String
  isAdmin : Bool
  adbKeys : List String

/-- The fields of a device document that are tested. -/
structure DeviceDoc where
  present : Bool
  ready : Bool
  using_ : Bool
  owner : Option BaseDevice.GroupState

/-- `datautil.applyOwner`. -/
def applyOwner (device : DeviceDoc) (user : CallUser) : DeviceDoc :=
  { device with using_ := device.owner.any fun owner =>
    owner.email = user.email || user.isAdmin }

/-- `datautil.normalize`, as far as the tested fields go. -/
def normalize (device : DeviceDoc) (user : CallUser) : DeviceDoc :=
  let device := applyOwner device user
  if device.present then device else { device with owner := none }

/-- `deviceutil.isAddable`. -/
def isAddable (device : DeviceDoc) : Bool :=
  device.present && device.ready && !device.using_ && device.owner.isNone

/-- What a call waits for.  The flag tells whether the transaction of its second message is over. -/
inductive Phase where
  | ungrouping
  | joining (grouped : Bool)
  | connecting (grouped : Bool)
  | resolved (url : String)
  | rejected (error : UseDeviceError)
  deriving DecidableEq

/-- A call, how many of the changes of the device's group its document knows, and how many of the
messages of the device it has read. -/
structure Call where
  user : CallUser
  device : Option DeviceDoc
  version : Nat
  usage : Option String
  phase : Phase
  read : Nat

/-- The messages to the device: those of the call with that number, and the request of another part
of the system that the device be released. -/
inductive Message where
  | ungroup (call : Nat)
  | group (call : Nat)
  | connectStart (call : Nat)
  | release
  deriving DecidableEq

/-- The response channel of a transaction. -/
def txn (kind : String) (call : Nat) : String := "txn_" ++ kind ++ toString call

namespace Call

/-- The call has asked the device to leave its group; it asks it to join the one of the user. -/
def joins (call : Call) (n : Nat) : Call × Option Message :=
  ({ call with phase := .joining false }, some (.group n))

/-- The reaction to the reply to the second message. -/
def replied (call : Call) (success : Bool) (phase : Phase) : Call :=
  { call with phase := if success then phase else .rejected .FAILED_JOIN }

/-- The reaction of a call, whose number is `n`, to a message of the device. -/
def receive (o : DeviceOptions) (n : Nat) (call : Call) (channel : String) :
    WireMessage → Call × Option Message
  | .transactionDone _ success _ =>
    match call.phase with
    | .ungrouping => if channel = txn "ungroup" n then call.joins n else (call, none)
    | .joining _ =>
      (if channel = txn "group" n then call.replied success (.joining true) else call, none)
    | .connecting _ =>
      (if channel = txn "group" n then call.replied success (.connecting true) else call, none)
    | _ => (call, none)
  | .joinGroup serial owner _ _ =>
    match call.phase with
    | .joining grouped =>
      if channel = GroupManager.global ∧ serial = o.serial ∧ owner.email = call.user.email then
        ({ call with phase := .connecting grouped }, some (.connectStart n))
      else (call, none)
    | _ => (call, none)
  | .connectStarted serial url =>
    match call.phase with
    | .connecting _ =>
      (if channel = txn "connect" n ∧ serial = o.serial then { call with phase := .resolved url }
        else call, none)
    | _ => (call, none)
  | _ => (call, none)

/-- A transaction of the call times out. -/
def transactionTimeout (n : Nat) (call : Call) : Call × Option Message :=
  match call.phase with
  | .ungrouping => call.joins n
  | .joining false => ({ call with phase := .rejected .FAILED_JOIN }, none)
  | .connecting false => ({ call with phase := .rejected .FAILED_JOIN }, none)
  | _ => (call, none)

/-- The timer for the message that the call waits for fires. -/
def responseTimeout (call : Call) : Call :=
  match call.phase with
  | .joining _ => { call with phase := .rejected .FAILED_JOIN }
  | .connecting _ => { call with phase := .rejected .FAILED_CONNECT }
  | _ => call

end Call

/-- The device and the calls for it. -/
structure State where
  device : GroupManager
  inbox : List Message
  calls : List Call
  /-- A call has resolved for the user who has the device, since the device has joined the group. -/
  secured : Bool
  /-- The users who have lost a device after a call had resolved for them: who made the call that
  took it, and who lost it. -/
  thefts : List (String × String)
  /-- The groups that the device has come into, and `none` where it has left one. -/
  history : List (Option BaseDevice.GroupState)

/-- What happens to the calls, to the device and to its database record. -/
inductive Event where
  /-- A call, with the document that was read for it after so many changes of the device's group. -/
  | call (user : CallUser) (device : Option DeviceDoc) (version : Nat) (usage : Option String)
  /-- The device handles the next message; the clock at a registration and at its first check, and
  the URL that the `connect` plugin tells, if it starts. -/
  | handle (now later : Int) (url : Option String)
  /-- The call with that number reads the next message of the device. -/
  | receive (call : Nat)
  | transactionTimeout (call : Nat)
  | responseTimeout (call : Nat)
  /-- A user gives the device back. -/
  | release
  /-- Keep alive messages, and the end of a rental. -/
  | keepalive (channel : String) (now : Int)
  | timer (id : String) (now : Int)
  | timeout

namespace State

/-- A device that is in no group, and no calls. -/
def new : State := ⟨.new, [], [], false, [], []⟩

/-- Another state of the device.  Nobody is secured in a group that the device has left. -/
def withDevice (s : State) (device : GroupManager) : State :=
  { s with
    device := device
    secured := s.secured && device.currentGroup = s.device.currentGroup
    history := if device.currentGroup = s.device.currentGroup then s.history
      else s.history ++ [device.currentGroup] }

/-- Who had the device after so many changes of its group. -/
def ownerAt (s : State) (version : Nat) : Option BaseDevice.GroupState :=
  (s.history.take version).getLast?.join

/-- The document as it is read from the database, which knows of the first `version` changes. -/
def load (s : State) (version : Nat) (device : DeviceDoc) : DeviceDoc :=
  { device with owner := s.ownerAt version }

/-- Another state of the call `n`, and the message it sends. -/
def withCall (s : State) (n : Nat) (result : Call × Option Message) : State :=
  { s with calls := s.calls.set n result.1, inbox := s.inbox ++ result.2.toList }

/-- A message of the call leads to another state of the device: who loses it. -/
def theft (s : State) (call : Call) (device : GroupManager) : List (String × String) :=
  match s.device.currentGroup with
  | some g =>
    if s.secured ∧ g.email ≠ call.user.email ∧ device.currentGroup ≠ some g then
      [(call.user.email, g.email)]
    else []
  | none => []

/-- The device has handled a message of the call. -/
def handled (s : State) (call : Call) (device : GroupManager) : State :=
  { s.withDevice device with thefts := s.thefts ++ s.theft call device }

/-- `owner` of the second message. -/
def owner (user : CallUser) : BaseDevice.GroupState := ⟨user.email, user.name, user.group⟩

/-- The device handles a message of the call with the number `n`, or another one. -/
def handle (o : DeviceOptions) (now later : Int) (url : Option String) (s : State) :
    Message → State
  | .ungroup n =>
    match s.calls[n]? with
    | some call => s.handled call (s.device.onUngroupMessage o (txn "ungroup" n) .allowed).2
    | none => s
  | .group n =>
    match s.calls[n]? with
    | some call =>
      s.handled call (s.device.onGroupMessage o (txn "group" n)
        ⟨some (owner call.user), none, call.usage, call.user.adbKeys⟩ .allowed now later).2
    | none => s
  | .connectStart n =>
    match s.calls[n]?, url with
    | some call, some url =>
      s.handled call (s.device.push (txn "connect" n) (.connectStarted o.serial url))
    | _, _ => s
  | .release => s.withDevice (s.device.onUngroupMessage o (txn "release" 0) .allowed).2

/-- A call that resolves secures the device for its user. -/
def secures (s : State) (call call' : Call) : Bool :=
  match call.phase, call'.phase with
  | .connecting _, .resolved _ => s.device.currentGroup.any (·.email = call.user.email)
  | _, _ => false

/-- What an event does. -/
def step (o : DeviceOptions) (s : State) : Event → State
  | .call user device version usage =>
    let n := s.calls.length
    let version := min version s.history.length
    match device.map (s.load version) with
    | none =>
      { s with calls := s.calls ++ [⟨user, none, version, usage, .rejected .NOT_FOUND, 0⟩] }
    | some doc =>
      if isAddable (normalize doc user) then
        { s with
          calls := s.calls ++ [⟨user, doc, version, usage, .ungrouping, s.device.sent.length⟩]
          inbox := s.inbox ++ [.ungroup n] }
      else
        { s with calls := s.calls ++ [⟨user, doc, version, usage, .rejected .ALREADY_IN_USE, 0⟩] }
  | .handle now later url =>
    match s.inbox with
    | message :: inbox => handle o now later url { s with inbox := inbox } message
    | [] => s
  | .receive n =>
    match s.calls[n]? with
    | some call =>
      match s.device.sent[call.read]? with
      | some (channel, message) =>
        let call := { call with read := call.read + 1 }
        let result := call.receive o n channel message
        { s.withCall n result with secured := s.secured || s.secures call result.1 }
      | none => s
    | none => s
  | .transactionTimeout n =>
    match s.calls[n]? with
    | some call => s.withCall n (call.transactionTimeout n)
    | none => s
  | .responseTimeout n =>
    match s.calls[n]? with
    | some call => s.withCall n (call.responseTimeout, none)
    | none => s
  | .release => { s with inbox := s.inbox ++ [.release] }
  | .keepalive channel now => s.withDevice (s.device.handle o (.routed channel now))
  | .timer id now => s.withDevice (s.device.handle o (.timer id now))
  | .timeout => s.withDevice (s.device.handle o .timeout)

end State

/-- Every event can happen at any time. -/
def next (o : DeviceOptions) (s : State) (event : Event) : Option State := some (s.step o event)

/-- The events, in any order. -/
def system (o : DeviceOptions) : Lts State Event := .ofNext (next o)

/-- Nobody has lost a device to the call of another user after a call had resolved for them. -/
def NoTheft (s : State) : Prop := s.thefts = []

/-- When the first message of a call arrives, nobody but the user of the call has joined the device
since the document of the call was read. -/
def Fresh (s : State) (event : Event) : Prop :=
  match event, s.inbox with
  | .handle _ _ _, .ungroup n :: _ =>
    ∀ call ∈ s.calls[n]?, ∀ change ∈ s.history.drop call.version, ∀ g ∈ change,
      g.email = call.user.email
  | _, _ => True

instance (s : State) (event : Event) : Decidable (Fresh s event) := by
  unfold Fresh
  split <;> infer_instance

/-- The calls whose first messages are on their way have found their devices free; the device keeps
its books, and is in the group that it came into last. -/
structure Tested (o : DeviceOptions) (s : State) : Prop where
  kept : GroupManager.Kept o s.device
  current : s.history.getLast?.join = s.device.currentGroup
  free : ∀ n, .ungroup n ∈ s.inbox → ∃ call ∈ s.calls[n]?,
    call.version ≤ s.history.length ∧ s.ownerAt call.version = none

variable {o : DeviceOptions} {s : State}

theorem owner_of_isAddable {doc : DeviceDoc} {user : CallUser} (h : isAddable (normalize doc user)) :
    doc.owner = none := by
  unfold isAddable normalize at h
  dsimp only at h
  split at h
  · simp only [Bool.and_eq_true, Option.isNone_iff_eq_none] at h
    exact h.2
  · rename_i hpresent
    simp only [Bool.and_eq_true] at h
    exact absurd h.1.1.1 hpresent

/-! ### The calls -/

/-- What a call does not change. -/
structure SameCall (call call' : Call) : Prop where
  user : call'.user = call.user
  version : call'.version = call.version

theorem Call.same_receive (n : Nat) (call : Call) (channel : String) (message : WireMessage) :
    SameCall call (call.receive o n channel message).1 := by
  unfold Call.receive Call.joins Call.replied
  repeat' split
  all_goals exact ⟨rfl, rfl⟩

theorem Call.same_transactionTimeout (n : Nat) (call : Call) :
    SameCall call (call.transactionTimeout n).1 := by
  unfold Call.transactionTimeout Call.joins
  split <;> exact ⟨rfl, rfl⟩

theorem Call.same_responseTimeout (call : Call) : SameCall call call.responseTimeout := by
  unfold Call.responseTimeout
  split <;> exact ⟨rfl, rfl⟩

theorem Call.receive_ne_ungroup (n : Nat) (call : Call) (channel : String) (message : WireMessage)
    (m : Nat) : (call.receive o n channel message).2 ≠ some (.ungroup m) := by
  unfold Call.receive Call.joins
  repeat' split
  all_goals simp

theorem Call.transactionTimeout_ne_ungroup (n : Nat) (call : Call) (m : Nat) :
    (call.transactionTimeout n).2 ≠ some (.ungroup m) := by
  unfold Call.transactionTimeout Call.joins
  split <;> simp

theorem Tested.withCall (h : Tested o s) {n : Nat} {call : Call} {result : Call × Option Message}
    (hcall : s.calls[n]? = some call) (hsame : SameCall call result.1)
    (hsent : ∀ m, result.2 ≠ some (.ungroup m)) : Tested o (s.withCall n result) := by
  refine ⟨h.kept, h.current, fun m hm => ?_⟩
  have hm' : .ungroup m ∈ s.inbox := by
    rcases List.mem_append.1 hm with hm | hm
    · exact hm
    · exact absurd (Option.mem_toList.1 hm) (hsent m)
  obtain ⟨call', hcall', hfree⟩ := h.free m hm'
  show ∃ call ∈ (s.calls.set n result.1)[m]?, _
  by_cases hmn : n = m
  · subst hmn
    obtain rfl := Option.some.inj (hcall.symm.trans hcall')
    obtain ⟨hlt, -⟩ := List.getElem?_eq_some_iff.1 hcall
    refine ⟨result.1, List.getElem?_set_self hlt, ?_⟩
    rw [hsame.version]
    exact hfree
  · rw [List.getElem?_set_ne hmn]
    exact ⟨call', hcall', hfree⟩

theorem Tested.concat (h : Tested o s) {call : Call} {sent : List Message}
    (hsent : ∀ n, .ungroup n ∈ sent → n = s.calls.length ∧
      call.version ≤ s.history.length ∧ s.ownerAt call.version = none) :
    Tested o { s with calls := s.calls ++ [call], inbox := s.inbox ++ sent } := by
  refine ⟨h.kept, h.current, fun n hn => ?_⟩
  show ∃ call' ∈ (s.calls ++ [call])[n]?, _
  rcases List.mem_append.1 hn with hn | hn
  · obtain ⟨call', hcall', hfree⟩ := h.free n hn
    obtain ⟨hlt, -⟩ := List.getElem?_eq_some_iff.1 hcall'
    rw [List.getElem?_append_left hlt]
    exact ⟨call', hcall', hfree⟩
  · obtain ⟨rfl, hfree⟩ := hsent n hn
    exact ⟨call, List.getElem?_concat_length, hfree⟩

/-! ### The device -/

/-- A device that is asked to join a group does not leave the one that it is in. -/
theorem currentGroup_onGroupMessage {d : GroupManager} (h : GroupManager.Kept o d)
    {g : BaseDevice.GroupState} (hg : d.currentGroup = some g) (channel : String)
    (message : GroupMessage) (check : Check)
    (now later : Int) :
    (d.onGroupMessage o channel message check now later).2.currentGroup = some g := by
  unfold GroupManager.onGroupMessage
  cases check with
  | denied => exact hg
  | failed text => exact hg
  | allowed =>
    obtain ⟨-, d', hjoins, hgroup⟩ :=
      h.awaitJoin message.owner message.timeout message.usage message.keys now later
    show (d.awaitJoin o _ _ _ _ now later).2.currentGroup = some g
    rw [hgroup]
    cases hjoins with
    | invalid hnew heq => rw [heq, if_pos rfl, hg]
    | other hnew hcurrent hne heq => rw [heq, if_pos rfl, hg]
    | same hnew hcurrent heq hgroup' htimeouts =>
      rw [if_pos htimeouts, hgroup']
      exact hcurrent.symm.trans hg
    | entered hnew hnone hgroup' htimeouts =>
      rw [hg] at hnone
      cases hnone

theorem theft_of_stays {call : Call} {device : GroupManager}
    (hstays : ∀ g ∈ s.device.currentGroup, device.currentGroup = some g) :
    s.theft call device = [] := by
  unfold State.theft
  cases hg : s.device.currentGroup with
  | none => rfl
  | some g => exact if_neg fun hstolen => hstolen.2.2 (hstays g hg)

/-- A document that shows no owner is older than the last join, and so nobody loses the device when
only the user of the call has joined it since. -/
theorem theft_of_fresh (h : Tested o s) {call : Call} (device : GroupManager)
    (hversion : call.version ≤ s.history.length) (hfree : s.ownerAt call.version = none)
    (hfresh : ∀ change ∈ s.history.drop call.version, ∀ g ∈ change, g.email = call.user.email) :
    s.theft call device = [] := by
  unfold State.theft
  cases hg : s.device.currentGroup with
  | none => rfl
  | some g =>
    have hlast : s.history.getLast? = some (some g) := Option.join_eq_some_iff.1 (h.current.trans hg)
    have hlt : call.version < s.history.length := by
      refine hversion.lt_of_ne fun heq => ?_
      rw [State.ownerAt, heq, List.take_length, hlast] at hfree
      cases hfree
    have hmem : some g ∈ s.history.drop call.version := by
      refine List.mem_of_getLast? ?_
      rw [List.getLast?_drop, if_neg (Nat.not_le.2 hlt), hlast]
    exact if_neg fun hstolen => hstolen.2.1 (hfresh _ hmem g rfl)

/-- A device that keeps its books, in whatever group it is. -/
theorem Tested.withDevice (h : Tested o s) {device : GroupManager}
    (hkept : GroupManager.Kept o device) : Tested o (s.withDevice device) := by
  refine ⟨hkept, ?_, fun n hn => ?_⟩
  · simp only [State.withDevice]
    split
    · rename_i hsame
      exact h.current.trans hsame.symm
    · rw [List.getLast?_concat]
      rfl
  · obtain ⟨call, hcall, hversion, hfree⟩ := h.free n hn
    have hprefix : s.history <+: (s.withDevice device).history := by
      simp only [State.withDevice]
      split
      · exact List.prefix_rfl
      · exact List.prefix_append _ _
    obtain ⟨changes, hchanges⟩ := hprefix
    refine ⟨call, hcall, ?_, ?_⟩
    · rw [← hchanges, List.length_append]
      exact Nat.le_add_right_of_le hversion
    · rw [State.ownerAt, ← hchanges, List.take_append_of_le_length hversion]
      exact hfree

/-- The device handles a message.  Only the first message of a call can take it from its user. -/
theorem Tested.handle (h : Tested o s) (message : Message) (now later : Int) (url : Option String) :
    Tested o (s.handle o now later url message) ∧
      ((∀ n, message ≠ .ungroup n) → (s.handle o now later url message).thefts = s.thefts) := by
  have hhandled : ∀ {call : Call} {device : GroupManager}, GroupManager.Kept o device →
      Tested o (s.handled call device) := fun hkept =>
    ⟨hkept, (h.withDevice hkept).current, (h.withDevice hkept).free⟩
  have hstays : ∀ {call : Call} {device : GroupManager},
      (∀ g ∈ s.device.currentGroup, device.currentGroup = some g) →
        (s.handled call device).thefts = s.thefts := by
    intro call device hgroup
    show s.thefts ++ s.theft call device = s.thefts
    rw [theft_of_stays hgroup, List.append_nil]
  simp only [State.handle]
  cases message with
  | ungroup n =>
    dsimp only
    split
    · exact ⟨hhandled (h.kept.handle (.ungroupMessage _ .allowed)), fun hn => absurd rfl (hn n)⟩
    · exact ⟨h, fun _ => rfl⟩
  | group n =>
    dsimp only
    split
    · exact ⟨hhandled (h.kept.handle (.groupMessage _ _ .allowed now later)),
        fun _ => hstays fun g hg => currentGroup_onGroupMessage h.kept hg _ _ _ _ _⟩
    · exact ⟨h, fun _ => rfl⟩
  | connectStart n =>
    dsimp only
    split
    · exact ⟨hhandled (h.kept.push rfl), fun _ => hstays fun g hg => hg⟩
    · exact ⟨h, fun _ => rfl⟩
  | release => exact ⟨h.withDevice (h.kept.handle (.ungroupMessage _ .allowed)), fun _ => rfl⟩

/-! ### The runs -/

/-- The device handles the next message. -/
theorem spec_handle (h : Tested o s) {message : Message} {inbox : List Message}
    (hinbox : s.inbox = message :: inbox) (now later : Int) (url : Option String)
    (hfresh : Fresh s (.handle now later url)) :
    Tested o (s.step o (.handle now later url)) ∧
      (s.step o (.handle now later url)).thefts = s.thefts := by
  have hstep : s.step o (.handle now later url) =
      State.handle o now later url { s with inbox := inbox } message := by
    simp only [State.step, hinbox]
  have hrest : Tested o { s with inbox := inbox } :=
    ⟨h.kept, h.current, fun n hn => h.free n (by rw [hinbox]; exact List.mem_cons_of_mem _ hn)⟩
  obtain ⟨htested, hthefts⟩ := hrest.handle message now later url
  rw [hstep]
  refine ⟨htested, ?_⟩
  cases message with
  | ungroup n =>
    obtain ⟨call, hcall, hversion, hfree⟩ := h.free n (by rw [hinbox]; exact List.mem_cons_self)
    have hcall' : s.calls[n]? = some call := hcall
    simp only [Fresh, hinbox] at hfresh
    simp only [State.handle, hcall', State.handled]
    rw [theft_of_fresh hrest _ hversion hfree (hfresh call hcall), List.append_nil]
  | group n => exact hthefts fun _ heq => by cases heq
  | connectStart n => exact hthefts fun _ heq => by cases heq
  | release => exact hthefts fun _ heq => by cases heq

theorem spec_call (h : Tested o s) (user : CallUser) (device : Option DeviceDoc) (version : Nat)
    (usage : Option String) : Tested o (s.step o (.call user device version usage)) ∧
      (s.step o (.call user device version usage)).thefts = s.thefts := by
  have hquiet : ∀ call : Call, Tested o { s with calls := s.calls ++ [call] } := by
    intro call
    have hconcat : Tested o { s with calls := s.calls ++ [call], inbox := s.inbox ++ [] } :=
      h.concat fun n hn => by cases hn
    rw [List.append_nil] at hconcat
    exact hconcat
  simp only [State.step]
  split
  · exact ⟨hquiet _, rfl⟩
  · rename_i doc hdoc
    split
    · -- the first message of the call is on its way
      rename_i hadd
      obtain ⟨found, -, rfl⟩ := Option.map_eq_some_iff.1 hdoc
      refine ⟨h.concat fun n hn => ?_, rfl⟩
      obtain rfl : n = s.calls.length := by simpa using hn
      exact ⟨rfl, Nat.min_le_right _ _, owner_of_isAddable hadd⟩
    · exact ⟨hquiet _, rfl⟩

theorem spec_receive (h : Tested o s) (n : Nat) :
    Tested o (s.step o (.receive n)) ∧ (s.step o (.receive n)).thefts = s.thefts := by
  simp only [State.step]
  split
  · rename_i call hcall
    split
    · rename_i channel message hmessage
      obtain ⟨huser, hversion⟩ :=
        Call.same_receive (o := o) n { call with read := call.read + 1 } channel message
      have hcalled := h.withCall hcall ⟨huser, hversion⟩
        (Call.receive_ne_ungroup n _ channel message)
      exact ⟨⟨hcalled.kept, hcalled.current, hcalled.free⟩, rfl⟩
    · exact ⟨h, rfl⟩
  · exact ⟨h, rfl⟩

/-- One event: the calls stay tested, and nobody loses the device. -/
theorem step_spec (h : Tested o s) (event : Event) (hfresh : Fresh s event) :
    Tested o (s.step o event) ∧ (s.step o event).thefts = s.thefts := by
  cases event with
  | call user device version usage => exact spec_call h user device version usage
  | handle now later url =>
    cases hinbox : s.inbox with
    | nil =>
      have hstep : s.step o (.handle now later url) = s := by
        simp only [State.step, hinbox]
      rw [hstep]
      exact ⟨h, rfl⟩
    | cons message inbox => exact spec_handle h hinbox now later url hfresh
  | receive n => exact spec_receive h n
  | transactionTimeout n =>
    simp only [State.step]
    split
    · rename_i call hcall
      exact ⟨h.withCall hcall (Call.same_transactionTimeout n call)
        (Call.transactionTimeout_ne_ungroup n call), rfl⟩
    · exact ⟨h, rfl⟩
  | responseTimeout n =>
    simp only [State.step]
    split
    · rename_i call hcall
      exact ⟨h.withCall hcall (Call.same_responseTimeout call) (fun m hm => by cases hm), rfl⟩
    · exact ⟨h, rfl⟩
  | release =>
    refine ⟨⟨h.kept, h.current, fun n hn => ?_⟩, rfl⟩
    rcases List.mem_append.1 hn with hn | hn
    · exact h.free n hn
    · simp at hn
  | keepalive channel now => exact ⟨h.withDevice (h.kept.handle (.routed channel now)), rfl⟩
  | timer id now => exact ⟨h.withDevice (h.kept.handle (.timer id now)), rfl⟩
  | timeout => exact ⟨h.withDevice (h.kept.handle .timeout), rfl⟩

/-- A user. -/
def userA : CallUser := ⟨"a@example", "A", "group of A", false, []⟩

/-- Another one. -/
def userB : CallUser := ⟨"b@example", "B", "group of B", false, []⟩

/-- A device that is free. -/
def freeDoc : DeviceDoc := ⟨true, true, false, none⟩

/-- The call of A runs to its end. -/
def resolvedCall : List Event :=
  [.call userA (some freeDoc) 0 none, .handle 0 0 none, .receive 0, .handle 0 0 none, .receive 0,
    .receive 0, .handle 0 0 (some "url"), .receive 0]

end useDevice

end DeviceHub

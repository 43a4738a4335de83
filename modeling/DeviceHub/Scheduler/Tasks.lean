import DeviceHub.Scheduler.Jobs

/-!
# The tasks of `db/handlers/group/scheduler.js`

Which tasks the scheduler derives from a group, the jobs they stand for, and the queue that orders
them.  The state of the scheduler carries the clock; a synchronous stretch of code reads the same
time wherever it asks for it.

## Main definitions

* `Job`, `Task` : the closures of `processGroup` as data, and the tasks that carry them.
* `State` : the fields of the scheduler, and the calls that it has under way.
* `setScheduledTask`, `scheduleNextTask`, `processGroup`, `reload` : the synchronous functions.
-/

namespace DeviceHub

open apiutil

namespace GroupsScheduler

/-! ### Tasks -/

/-- What a task is for. -/
inductive TaskType where
  | handleExpiredGroupWindow
  | activateGroup
  deriving DecidableEq, Repr

/-- The jobs that `processGroup` builds.  Their argument `group` is the group that `processTask`
reads again, what they capture is an argument here. -/
inductive Job where
  /-- `isOrigin ? updateOriginGroupLifetime(group) : deleteUserGroup(group)` -/
  | afterLastWindow (isOrigin : Bool)
  /-- `updateGroupDates(group, windowIndex, group.isActive)` -/
  | dropWindows (windowIndex : Nat)
  /-- `doBecomeActiveGroup(group)` -/
  | becomeActive
  /-- `group.class === ONCE || isLastRepetition ? deleteUserGroup(group) :
  doBecomeUnactiveGroup(group)` -/
  | afterFirstWindow (isLastRepetition : Bool)
  deriving DecidableEq, Repr

/-- What a job does, the clock reading `now`. -/
def Job.run (now : Int) : Job → Group → DbM Unit
  | .afterLastWindow isOrigin, group =>
    if isOrigin then updateOriginGroupLifetime now group else deleteUserGroup group
  | .dropWindows windowIndex, group => updateGroupDates group windowIndex group.isActive
  | .becomeActive, group => doBecomeActiveGroup group
  | .afterFirstWindow isLastRepetition, group =>
    if group.class_ = .once ∨ isLastRepetition = true then deleteUserGroup group
    else doBecomeUnactiveGroup group

/-- A task of the scheduler. -/
structure Task where
  groupId : String
  type : TaskType
  time : Int
  job : Job
  deriving DecidableEq, Repr

/-- `processTask(task)`; errors are logged. -/
def processTask (now : Int) (task : Task) : DbM Unit :=
  Prog.tryCatch (do
    match ← GroupModel.getGroup task.groupId with
    | none => return ()
    | some group => task.job.run now group)
    fun _ => return ()

/-- `group.dates.findIndex((w, i) => i > group.repetitions - 1 && now < w.stop)`, if positive. -/
def expiredWindows (now : Int) (group : Group) : Option Nat :=
  (group.dates.zipIdx.findIdx? fun (w, i) => (i : Int) > group.repetitions - 1 ∧ now < w.stop).filter
    (0 < ·)

/-- The task that drops the windows before the index `windowIndex`. -/
def dropTask (group : Group) (windowIndex : Nat) : Option Task :=
  (group.dates[windowIndex - 1]?).map fun w =>
    { groupId := group.id
      type := .handleExpiredGroupWindow
      time := w.stop
      job := .dropWindows windowIndex }

/-- The tasks that `processGroup(group)` hands to `setScheduledTask`, in this order. -/
def processGroup (now : Int) (group : Group) : List Task :=
  let isOrigin := isOriginGroup group.class_
  match group.dates, group.dates.getLast? with
  | window :: _, some lastWindow =>
    if now ≥ lastWindow.stop then
      [{ groupId := group.id
         type := .handleExpiredGroupWindow
         time := lastWindow.stop
         job := .afterLastWindow isOrigin }]
    else if isOrigin then []
    else
      (if group.class_ = .once then [] else
        ((expiredWindows now group).bind (dropTask group)).toList) ++
      (if now < window.stop ∧ group.isActive = false then
        [{ groupId := group.id
           type := .activateGroup
           time := window.start
           job := .becomeActive }]
        else []) ++
      [{ groupId := group.id
         type := .handleExpiredGroupWindow
         time := window.stop
         job := .afterFirstWindow (decide (group.dates.length = 1)) }]
  | _, _ => []

/-! ### The state of the scheduler -/

/-- An entry of the map `scheduledTasks`; the keys are symbols, numbered in the order in which they
are made. -/
structure ScheduledTask where
  key : Nat
  task : Task
  deriving DecidableEq, Repr

instance : Keyed ScheduledTask Nat := ⟨ScheduledTask.key⟩

@[simp] theorem ScheduledTask.key_eq (e : ScheduledTask) : Keyed.key e = e.key := rfl

/-- A timer that is armed: the task it will run, and the time before which it does not fire. -/
structure Timer where
  key : Nat
  task : Task
  notBefore : Int
  deriving DecidableEq, Repr

/-- A call of `processTask`: `timed` when the callback of a timer made it, which goes on to
schedule the next task; `started` when the group was found and the job is running. -/
structure Call where
  key : Nat
  task : Task
  timed : Bool
  started : Bool
  deriving DecidableEq, Repr

/-- The start of a job. -/
structure Start where
  key : Nat
  task : Task
  time : Int
  deriving DecidableEq, Repr

/-- The state of the scheduler.  `currentTimeout` is `none` when the last timer has fired or was
cleared: clearing it again has no effect. -/
structure State where
  /-- The clock. -/
  now : Int
  currentTimeout : Option Timer
  taskQueue : List Nat
  scheduledTasks : Collection ScheduledTask
  /-- How many symbols were made. -/
  symbols : Nat
  /-- The calls of `processTask` that have not returned. -/
  calls : List Call
  /-- The reload passes that have yet to call `scheduleNextTask`. -/
  passes : Nat
  /-- The jobs started so far. -/
  started : List Start

/-- The scheduler before its first pass. -/
def State.init (now : Int) : State where
  now := now
  currentTimeout := none
  taskQueue := []
  scheduledTasks := Collection.empty
  symbols := 0
  calls := []
  passes := 0
  started := []

/-- The longest delay of a timer: Node sets a longer one to a millisecond. -/
def TIMEOUT_MAX : Int := 2147483647

/-- The time before which the timer of `setTimeout(.., delay)` does not fire. -/
def setTimeout (now delay : Int) : Int := if delay > TIMEOUT_MAX then now + 1 else now + delay

/-- The key is inserted before the first one whose task is later. -/
def insertKey (scheduledTasks : Collection ScheduledTask) (time : Int) (key : Nat) :
    List Nat → List Nat
  | [] => [key]
  | k :: queue =>
    if (scheduledTasks.findOne k).any fun e => e.task.time > time then key :: k :: queue
    else k :: insertKey scheduledTasks time key queue

/-- A task that is due is processed at once, and scheduled nevertheless. -/
def setScheduledTask (s : State) (task : Task) : State :=
  let key := s.symbols
  let scheduledTasks := s.scheduledTasks.insert ⟨key, task⟩
  { s with
    calls := if s.now ≥ task.time then s.calls ++ [⟨key, task, false, false⟩] else s.calls
    symbols := key + 1
    scheduledTasks := scheduledTasks
    taskQueue := insertKey scheduledTasks task.time key s.taskQueue }

/-- The recursion of `scheduleNextTask` along the queue; it throws at a key without a task. -/
def scheduleFrom (s : State) : List Nat → State
  | [] => { s with taskQueue := [] }
  | key :: queue =>
    if s.scheduledTasks.docs = [] then { s with taskQueue := key :: queue }
    else match s.scheduledTasks.findOne key with
    | none => { s with taskQueue := queue }
    | some e =>
      let delay := max 0 (e.task.time - s.now)
      if delay ≥ ONE_YEAR then
        scheduleFrom { s with scheduledTasks := s.scheduledTasks.delete key } queue
      else
        { s with
          taskQueue := queue
          currentTimeout := some ⟨key, e.task, setTimeout s.now delay⟩ }

/-- `scheduleNextTask` -/
def scheduleNextTask (s : State) : State :=
  scheduleFrom { s with currentTimeout := none } s.taskQueue

/-- The scheduler at the begin of a pass. -/
def State.cleared (s : State) : State :=
  { s with scheduledTasks := Collection.empty, taskQueue := [], passes := s.passes + 1 }

/-- A pass of `scheduleAllGroupsTasks` once the groups are loaded, up to its call of
`scheduleNextTask`. -/
def reload (s : State) (groups : List Group) : State :=
  (groups.flatMap (processGroup s.now)).foldl setScheduledTask s.cleared

/-! ### The scheduler as a transition system -/

/-- What can happen to the scheduler. -/
inductive Event where
  /-- The clock goes on. -/
  | tick (now : Int)
  /-- A pass has loaded the groups. -/
  | reload (groups : List Group)
  /-- A pass schedules the next task. -/
  | schedule
  /-- The timer fires. -/
  | fire
  /-- The lookup of a call of `processTask` has found the group: the job is started. -/
  | start (i : Nat)
  /-- A call of `processTask` returns: there was no group, or the job has completed or failed. -/
  | finish (i : Nat)

/-- The state after an event; `none` when it cannot happen. -/
def State.next (s : State) : Event → Option State
  | .tick now => if s.now ≤ now then some { s with now := now } else none
  | .reload groups => some (GroupsScheduler.reload s groups)
  | .schedule =>
    if s.passes = 0 then none else some (scheduleNextTask { s with passes := s.passes - 1 })
  | .fire =>
    match s.currentTimeout with
    | none => none
    | some timer =>
      if timer.notBefore ≤ s.now then
        some { s with
          currentTimeout := none
          scheduledTasks := s.scheduledTasks.delete timer.key
          calls := s.calls ++ [⟨timer.key, timer.task, true, false⟩] }
      else none
  | .start i =>
    match s.calls[i]? with
    | none => none
    | some call =>
      if call.started then none
      else some { s with
        calls := s.calls.set i { call with started := true }
        started := s.started ++ [⟨call.key, call.task, s.now⟩] }
  | .finish i =>
    match s.calls[i]? with
    | none => none
    | some call =>
      let s' := { s with calls := s.calls.eraseIdx i }
      some (if call.timed then scheduleNextTask s' else s')

/-- The scheduler. -/
def scheduler : Lts State Event := Lts.ofNext State.next

end GroupsScheduler

end DeviceHub

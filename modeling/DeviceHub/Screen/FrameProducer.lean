import DeviceHub.Async.Lts
import DeviceHub.Util.StateQueue

/-!
# The frame producer of `units/device/plugins/screen/stream.js`

The requests to start and to stop the screen service are put into a queue, which `_ensureState` works
off one by one.  A step of the service takes time, and the next state is only looked at when it is
over.

## Main definitions

* `FrameProducer` : the producer, with what is under way.
* `FrameProducer.next` : the requests, the ends of streams and the steps of the service.
* `FrameProducer.Settled` : what was asked for is reached when nothing is under way.
* `FrameProducer.Followed` : the condition on the steps.

## Main results

* `FrameProducer.Tends.next` : the queue keeps leading to what was asked for.
* `FrameProducer.settled_of_run` : in the runs whose steps meet the condition it is reached.
-/

namespace DeviceHub

/-! ### The producer -/

/-- What is under way: the promises of the service, and the calls of `_ensureState` that are to come.

* `launch` is a start of the service, and `abort` the `_stop` after it failed or was cancelled;
* `count` is the failure that is counted when this `_stop` is over;
* `stop` is a `_stop` that was asked for, and `limit` the one after too many failures;
* `ensure` is a call of `_ensureState`. -/
inductive Pending where
  | launch
  | abort (cancelled : Bool)
  | count
  | stop
  | limit
  | ensure
  deriving DecidableEq

/-- The last request to start or to stop is not part of the program: it says what is expected. -/
structure FrameProducer where
  runningState : RunningState := .stopped
  desiredState : StateQueue DesiredState := []
  failCounter : FailCounter := { threshold := 3, time := 10000 }
  failed : Bool := false
  pending : List Pending := []
  requested : Option DesiredState := none
  deriving DecidableEq

/-- What can happen to a producer.  A failure comes with the time at which it is counted. -/
inductive FrameProducerEvent where
  | start
  | stop
  | restart
  | unexpectedEnd (now : Nat)
  | launched
  | launchFailed (cancelled : Bool)
  | aborted (cancelled : Bool)
  | counted (now : Nat)
  | stopped
  | limitStopped
  | ensured
  deriving DecidableEq

namespace FrameProducer

/-- `_ensureState`; what is not the state that can be reached next is dropped, and the rest is looked
at later. -/
def ensureState (producer : FrameProducer) : FrameProducer :=
  match producer.desiredState with
  | [] => producer
  | state :: rest =>
    if producer.failed then producer
    else
      match producer.runningState with
      | .starting | .stopping => producer
      | .stopped =>
        match state with
        | .started =>
          { producer with desiredState := rest, runningState := .starting
                          pending := .launch :: producer.pending }
        | .stopped =>
          { producer with desiredState := rest, pending := .ensure :: producer.pending }
      | .started =>
        match state with
        | .stopped =>
          { producer with desiredState := rest, runningState := .stopping
                          pending := .stop :: producer.pending }
        | .started =>
          { producer with desiredState := rest, pending := .ensure :: producer.pending }

/-- `this.desiredState.push(state)` -/
def push (producer : FrameProducer) (state : DesiredState) : FrameProducer :=
  { producer with desiredState := producer.desiredState.push state }

/-- `start` -/
def start (producer : FrameProducer) : FrameProducer :=
  ensureState { producer.push .started with requested := some .started }

/-- `stop` -/
def stop (producer : FrameProducer) : FrameProducer :=
  ensureState { producer.push .stopped with requested := some .stopped }

/-- `restart`: a service that runs is stopped and started. -/
def restart (producer : FrameProducer) : FrameProducer :=
  match producer.runningState with
  | .started | .starting => ensureState ((producer.push .stopped).push .started)
  | .stopped | .stopping => producer

/-- `this.failCounter.inc()`, with `_failLimitExceeded`. -/
def inc (producer : FrameProducer) (now : Nat) : FrameProducer :=
  let failCounter := producer.failCounter.inc now
  if failCounter.exceedsLimit then
    { producer with failCounter, failed := true, pending := .limit :: producer.pending }
  else { producer with failCounter }

/-- `op` is over. -/
def finish (producer : FrameProducer) (op : Pending) : FrameProducer :=
  { producer with pending := producer.pending.erase op }

/-- `op` is over, and leads to `state`. -/
def settle (producer : FrameProducer) (op : Pending) (state : RunningState) : FrameProducer :=
  { producer.finish op with runningState := state }

/-- `op` is to come. -/
def await (producer : FrameProducer) (op : Pending) : FrameProducer :=
  { producer with pending := op :: producer.pending }

/-- What comes after `op`, where it is under way. -/
def next (needScrcpy : Bool) (producer : FrameProducer) :
    FrameProducerEvent → Option FrameProducer
  | .start => some producer.start
  | .stop => some producer.stop
  | .restart => some producer.restart
  | .unexpectedEnd now => if needScrcpy then none else some (producer.inc now).restart
  | .launched =>
    if .launch ∈ producer.pending then
      let launched := producer.settle .launch .started
      -- nothing comes after the promise of the scrcpy client
      some (if needScrcpy then launched else launched.await .ensure)
    else none
  | .launchFailed cancelled =>
    if .launch ∈ producer.pending then
      let failed := producer.finish .launch
      some (if needScrcpy then failed else failed.await (.abort cancelled))
    else none
  | .aborted cancelled =>
    if .abort cancelled ∈ producer.pending then
      let aborted := producer.settle (.abort cancelled) .stopped
      some (aborted.await (if cancelled then .ensure else .count))
    else none
  | .counted now =>
    if .count ∈ producer.pending then some (((producer.finish .count).inc now).await .ensure)
    else none
  | .stopped =>
    if .stop ∈ producer.pending then
      some ((producer.settle .stop .stopped).await .ensure)
    else none
  | .limitStopped =>
    if .limit ∈ producer.pending then
      some (producer.settle .limit .stopped)
    else none
  | .ensured =>
    if .ensure ∈ producer.pending then some (producer.finish .ensure).ensureState else none

/-- A new producer. -/
def init : FrameProducer := {}

/-- The producer, with the scrcpy client or with minicap. -/
def system (needScrcpy : Bool) : Lts FrameProducer FrameProducerEvent :=
  .ofNext (next needScrcpy)

/-- What was asked for is reached when nothing is under way. -/
def Settled (producer : FrameProducer) : Prop :=
  producer.pending = [] → producer.failed = false →
    producer.desiredState = []
      ∧ (producer.requested = some .started → producer.runningState = .started)
      ∧ (producer.requested = some .stopped → producer.runningState = .stopped)

/-- The last request was to start, unless a restart is ignored. -/
def MayRestart (producer : FrameProducer) : Prop :=
  producer.runningState = .started ∨ producer.runningState = .starting →
    producer.requested = some .started

/-- The condition on the steps of a producer that has not failed too often: a start that failed finds
a later request when it is over, a start of the scrcpy client succeeds and finds none, and the
producer is restarted, or loses a stream, only where the last request was to start. -/
def Followed (needScrcpy : Bool) (producer : FrameProducer) (event : FrameProducerEvent) : Prop :=
  producer.failed = false →
    match event with
    | .aborted _ => producer.desiredState ≠ []
    | .launched => needScrcpy → producer.desiredState = []
    | .launchFailed _ => ¬ needScrcpy
    | .restart => producer.MayRestart
    | .unexpectedEnd now => (producer.inc now).failed = false → producer.MayRestart
    | _ => True

instance (producer : FrameProducer) : Decidable producer.MayRestart :=
  inferInstanceAs (Decidable (_ → _))

instance (needScrcpy : Bool) (producer : FrameProducer) (event : FrameProducerEvent) :
    Decidable (Followed needScrcpy producer event) := by
  cases event <;> exact inferInstanceAs (Decidable (_ → _))

/-! ### Where a producer is headed -/

/-- The state that the queue leads to. -/
def goal (producer : FrameProducer) : DesiredState :=
  match producer.desiredState.getLast? with
  | some state => state
  | none =>
    match producer.runningState with
    | .starting | .started => .started
    | .stopped | .stopping => .stopped

/-- The steps of the service, apart from the one after too many failures. -/
def isOperation : Pending → Bool
  | .launch | .abort _ | .stop => true
  | .count | .limit | .ensure => false

/-- The promises that a step of the service waits for. -/
def operations (producer : FrameProducer) : List Pending := producer.pending.filter isOperation

/-- While the state changes, one step of the service is under way. -/
def Operates (producer : FrameProducer) : Prop :=
  match producer.runningState with
  | .stopped | .started => producer.operations = []
  | .starting => producer.operations = [.launch] ∨
      ∃ cancelled, producer.operations = [.abort cancelled]
  | .stopping => producer.operations = [.stop]

/-- The queue leads to what was asked for, and is going to be looked at. -/
structure Tends (producer : FrameProducer) : Prop where
  goal : ∀ state, producer.requested = some state → producer.goal = state
  operates : producer.Operates
  pending : producer.desiredState ≠ [] → producer.pending ≠ []
  limit : .limit ∉ producer.pending

variable {producer : FrameProducer}

theorem Tends.settled (h : producer.Tends) : producer.Settled := by
  intro hpending _
  have hqueue : producer.desiredState = [] := by
    by_contra hne
    exact h.pending hne hpending
  have hoperates := h.operates
  have hgoal := h.goal
  simp only [Operates, operations, hpending, List.filter_nil] at hoperates
  simp only [FrameProducer.goal, hqueue, List.getLast?_nil] at hgoal
  cases hstate : producer.runningState with
  | stopped => exact ⟨hqueue, fun hr => by simpa [hstate] using hgoal _ hr, fun _ => rfl⟩
  | started => exact ⟨hqueue, fun _ => rfl, fun hr => by simpa [hstate] using hgoal _ hr⟩
  | starting => simp [hstate] at hoperates
  | stopping => simp [hstate] at hoperates

/-! ### `_ensureState` -/

/-- A queue keeps its last state when the first one is dropped, unless that is the last one. -/
theorem goal_of_desiredState_cons {state : DesiredState} {rest : StateQueue DesiredState}
    (h : producer.desiredState = state :: rest) :
    producer.goal = (rest.getLast?).getD state := by
  simp only [goal, h, List.getLast?_cons]

@[simp] theorem goal_ensureState (producer : FrameProducer) :
    producer.ensureState.goal = producer.goal := by
  unfold ensureState
  split
  · rfl
  · rename_i state rest hqueue
    rw [goal_of_desiredState_cons hqueue]
    split
    · rw [goal_of_desiredState_cons hqueue]
    · split
      · rw [goal_of_desiredState_cons hqueue]
      · rw [goal_of_desiredState_cons hqueue]
      · rename_i hstate
        split <;> cases hlast : rest.getLast? <;> simp [goal, hlast, hstate]
      · rename_i hstate
        split <;> cases hlast : rest.getLast? <;> simp [goal, hlast, hstate]

theorem ensureState_frame (producer : FrameProducer) :
    ∃ desiredState runningState pending,
      producer.ensureState = { producer with desiredState, runningState, pending } := by
  unfold ensureState
  split
  · exact ⟨_, _, _, rfl⟩
  · split
    · exact ⟨_, _, _, rfl⟩
    · split
      · exact ⟨_, _, _, rfl⟩
      · exact ⟨_, _, _, rfl⟩
      · split <;> exact ⟨_, _, _, rfl⟩
      · split <;> exact ⟨_, _, _, rfl⟩

@[simp] theorem requested_ensureState (producer : FrameProducer) :
    producer.ensureState.requested = producer.requested := by
  obtain ⟨desiredState, runningState, pending, hframe⟩ := ensureState_frame producer
  rw [hframe]

@[simp] theorem failed_ensureState (producer : FrameProducer) :
    producer.ensureState.failed = producer.failed := by
  obtain ⟨desiredState, runningState, pending, hframe⟩ := ensureState_frame producer
  rw [hframe]

theorem Operates.ensureState (h : producer.Operates) : producer.ensureState.Operates := by
  unfold FrameProducer.ensureState
  split
  · exact h
  · split
    · exact h
    · split
      · exact h
      · exact h
      · rename_i hstate
        simp only [Operates, operations, hstate] at h
        split <;> simp [Operates, operations, List.filter_cons, isOperation, h, hstate]
      · rename_i hstate
        simp only [Operates, operations, hstate] at h
        split <;> simp [Operates, operations, List.filter_cons, isOperation, h, hstate]

theorem pending_ensureState (h : producer.Operates) (hfailed : producer.failed = false) :
    producer.ensureState.desiredState ≠ [] → producer.ensureState.pending ≠ [] := by
  unfold FrameProducer.ensureState
  split
  · exact fun hne => absurd ‹_› hne
  · rw [hfailed]
    simp only [Bool.false_eq_true, if_false]
    split
    · rename_i hstate
      rintro - hpending
      simp [Operates, operations, hstate, hpending] at h
    · rename_i hstate
      rintro - hpending
      simp [Operates, operations, hstate, hpending] at h
    · split <;> simp
    · split <;> simp

theorem not_limit_ensureState (h : .limit ∉ producer.pending) :
    .limit ∉ producer.ensureState.pending := by
  unfold FrameProducer.ensureState
  split
  · exact h
  · split
    · exact h
    · split
      · exact h
      · exact h
      · split <;> simpa using h
      · split <;> simpa using h

theorem Tends.ensureState (hgoal : ∀ state, producer.requested = some state → producer.goal = state)
    (hoperates : producer.Operates) (hlimit : .limit ∉ producer.pending)
    (hfailed : producer.failed = false) : producer.ensureState.Tends where
  goal := by simpa using hgoal
  operates := hoperates.ensureState
  pending := pending_ensureState hoperates hfailed
  limit := not_limit_ensureState hlimit

/-! ### Requests -/

@[simp] theorem goal_push (producer : FrameProducer) (state : DesiredState) :
    (producer.push state).goal = state := by
  simp [goal, push]

theorem Tends.start (h : producer.Tends) (hfailed : producer.failed = false) :
    producer.start.Tends := by
  refine Tends.ensureState ?_ h.operates h.limit hfailed
  rintro state ⟨⟩
  exact goal_push producer .started

theorem Tends.stop (h : producer.Tends) (hfailed : producer.failed = false) :
    producer.stop.Tends := by
  refine Tends.ensureState ?_ h.operates h.limit hfailed
  rintro state ⟨⟩
  exact goal_push producer .stopped

theorem Tends.restart (h : producer.Tends) (hfailed : producer.failed = false)
    (hmay : producer.MayRestart) : producer.restart.Tends := by
  have hpushed (hrunning : producer.runningState = .started ∨ producer.runningState = .starting) :
      ((producer.push .stopped).push .started).ensureState.Tends := by
    refine Tends.ensureState ?_ h.operates h.limit hfailed
    intro state hstate
    obtain rfl := Option.some.inj ((hmay hrunning).symm.trans hstate)
    exact goal_push _ .started
  unfold FrameProducer.restart
  split
  · exact hpushed (.inl ‹_›)
  · exact hpushed (.inr ‹_›)
  · exact h
  · exact h

/-! ### Steps of the service -/

@[simp] theorem runningState_finish (producer : FrameProducer) (op : Pending) :
    (producer.finish op).runningState = producer.runningState := rfl

@[simp] theorem runningState_await (producer : FrameProducer) (op : Pending) :
    (producer.await op).runningState = producer.runningState := rfl

theorem operations_finish (producer : FrameProducer) (op : Pending) :
    (producer.finish op).operations = producer.operations.erase op :=
  List.erase_filter.symm

theorem operations_await (producer : FrameProducer) (op : Pending) :
    (producer.await op).operations
      = if isOperation op then op :: producer.operations else producer.operations :=
  List.filter_cons

theorem Operates.finish (h : producer.Operates) {op : Pending} (hop : isOperation op = false) :
    (producer.finish op).Operates := by
  have hnot : op ∉ producer.operations := by
    intro hmem
    simp [operations, hop] at hmem
  simpa only [Operates, operations_finish, runningState_finish, List.erase_of_not_mem hnot] using h

theorem Operates.await (h : producer.Operates) {op : Pending} (hop : isOperation op = false) :
    (producer.await op).Operates := by
  simpa only [Operates, operations_await, runningState_await, hop, Bool.false_eq_true, if_false]
    using h

theorem not_limit_finish (h : .limit ∉ producer.pending) (op : Pending) :
    .limit ∉ (producer.finish op).pending :=
  fun hmem => h (List.mem_of_mem_erase hmem)

/-- No other step is under way. -/
theorem Operates.settle (h : producer.Operates) {op : Pending} (hmem : op ∈ producer.pending)
    (hop : isOperation op) {state : RunningState} (hstate : state = .stopped ∨ state = .started) :
    (producer.settle op state).Operates := by
  have hmem : op ∈ producer.operations := List.mem_filter.mpr ⟨hmem, hop⟩
  have herased : (producer.finish op).operations = [] := by
    rw [operations_finish]
    unfold Operates at h
    split at h
    · simp [h] at hmem
    · simp [h] at hmem
    · obtain h | ⟨cancelled, h⟩ := h
      · simp_all
      · simp_all
    · simp_all
  obtain rfl | rfl := hstate
  · exact herased
  · exact herased

@[simp] theorem goal_finish (producer : FrameProducer) (op : Pending) :
    (producer.finish op).goal = producer.goal := rfl

@[simp] theorem goal_await (producer : FrameProducer) (op : Pending) :
    (producer.await op).goal = producer.goal := rfl

@[simp] theorem failed_finish (producer : FrameProducer) (op : Pending) :
    (producer.finish op).failed = producer.failed := rfl

@[simp] theorem failed_await (producer : FrameProducer) (op : Pending) :
    (producer.await op).failed = producer.failed := rfl

theorem goal_settle_of_ne_nil (h : producer.desiredState ≠ []) (op : Pending)
    (state : RunningState) : (producer.settle op state).goal = producer.goal := by
  cases hlast : producer.desiredState.getLast? with
  | none => exact absurd (List.getLast?_eq_none_iff.mp hlast) h
  | some last => simp only [goal, settle, finish, hlast]

theorem goal_settle_started (h : producer.runningState = .starting) (op : Pending) :
    (producer.settle op .started).goal = producer.goal := by
  simp only [goal, settle, finish, h]

theorem goal_settle_stopped (h : producer.runningState = .stopping) (op : Pending) :
    (producer.settle op .stopped).goal = producer.goal := by
  simp only [goal, settle, finish, h]

theorem Tends.await (hgoal : ∀ state, producer.requested = some state → producer.goal = state)
    (hoperates : producer.Operates) (hlimit : .limit ∉ producer.pending) {op : Pending}
    (hop : isOperation op = false) (hne : op ≠ .limit) : (producer.await op).Tends where
  goal := hgoal
  operates := hoperates.await hop
  pending := fun _ => List.cons_ne_nil _ _
  limit := by simpa [FrameProducer.await, hne.symm] using hlimit

theorem Operates.starting_of_launch (h : producer.Operates) (hmem : .launch ∈ producer.pending) :
    producer.runningState = .starting := by
  have hmem : .launch ∈ producer.operations := List.mem_filter.mpr ⟨hmem, rfl⟩
  cases hstate : producer.runningState <;> simp_all [Operates]

theorem Operates.stopping_of_stop (h : producer.Operates) (hmem : .stop ∈ producer.pending) :
    producer.runningState = .stopping := by
  have hmem : .stop ∈ producer.operations := List.mem_filter.mpr ⟨hmem, rfl⟩
  cases hstate : producer.runningState with
  | stopping => rfl
  | starting =>
    simp only [Operates, hstate] at h
    obtain h | ⟨cancelled, h⟩ := h <;> simp [h] at hmem
  | stopped => simp_all [Operates]
  | started => simp_all [Operates]

/-- A start that failed is followed by the `_stop`. -/
theorem Operates.abort (h : producer.Operates) (hmem : .launch ∈ producer.pending)
    (cancelled : Bool) : ((producer.finish .launch).await (.abort cancelled)).Operates := by
  have hstate := h.starting_of_launch hmem
  have hmem : .launch ∈ producer.operations := List.mem_filter.mpr ⟨hmem, rfl⟩
  simp only [Operates, hstate] at h
  obtain h | ⟨other, h⟩ := h
  · simp [Operates, hstate, operations_await, operations_finish, h, isOperation]
  · simp [h] at hmem

/-! ### Failures -/

theorem inc_eq (now : Nat) (h : (producer.inc now).failed = false) :
    producer.inc now = { producer with failCounter := producer.failCounter.inc now } := by
  unfold inc at h ⊢
  dsimp only at h ⊢
  split at h
  · cases h
  · rename_i hlimit
    rw [if_neg hlimit]

theorem failed_of_inc (now : Nat) (h : (producer.inc now).failed = false) :
    producer.failed = false := by
  rwa [inc_eq now h] at h

theorem Tends.inc (h : producer.Tends) (now : Nat) (hfailed : (producer.inc now).failed = false) :
    (producer.inc now).Tends := by
  rw [inc_eq now hfailed]
  exact ⟨h.goal, h.operates, h.pending, h.limit⟩

@[simp] theorem failed_restart (producer : FrameProducer) :
    producer.restart.failed = producer.failed := by
  unfold restart
  split <;> simp [push]

/-- Too many failures stay so. -/
theorem failed_of_next {needScrcpy : Bool} {event : FrameProducerEvent} {after : FrameProducer}
    (hnext : producer.next needScrcpy event = some after) (hafter : after.failed = false) :
    producer.failed = false := by
  cases event with
  | start =>
    cases hnext
    simpa [start, push] using hafter
  | stop =>
    cases hnext
    simpa [stop, push] using hafter
  | restart =>
    cases hnext
    simpa using hafter
  | unexpectedEnd now =>
    obtain ⟨-, ⟨⟩⟩ := Option.ite_none_left_eq_some.1 hnext
    rw [failed_restart] at hafter
    exact failed_of_inc now hafter
  | launched =>
    obtain ⟨-, ⟨⟩⟩ := Option.ite_none_right_eq_some.1 hnext
    cases needScrcpy <;> exact hafter
  | launchFailed cancelled =>
    obtain ⟨-, ⟨⟩⟩ := Option.ite_none_right_eq_some.1 hnext
    cases needScrcpy <;> exact hafter
  | counted now =>
    obtain ⟨-, ⟨⟩⟩ := Option.ite_none_right_eq_some.1 hnext
    exact @failed_of_inc (producer.finish .count) now hafter
  | ensured =>
    obtain ⟨-, ⟨⟩⟩ := Option.ite_none_right_eq_some.1 hnext
    simpa using hafter
  | aborted _ | stopped | limitStopped =>
    obtain ⟨-, ⟨⟩⟩ := Option.ite_none_right_eq_some.1 hnext
    exact hafter

/-! ### Steps and runs -/

/-- The queue keeps leading to what was asked for. -/
theorem Tends.next {needScrcpy : Bool} {event : FrameProducerEvent} {after : FrameProducer}
    (h : producer.Tends) (hfollowed : producer.Followed needScrcpy event)
    (hnext : producer.next needScrcpy event = some after) (hafter : after.failed = false) :
    after.Tends := by
  have hfailed := failed_of_next hnext hafter
  have hfollowed := hfollowed hfailed
  cases event with
  | start =>
    cases hnext
    exact h.start hfailed
  | stop =>
    cases hnext
    exact h.stop hfailed
  | restart =>
    cases hnext
    exact h.restart hfailed hfollowed
  | unexpectedEnd now =>
    obtain ⟨-, ⟨⟩⟩ := Option.ite_none_left_eq_some.1 hnext
    rw [failed_restart] at hafter
    refine (h.inc now hafter).restart hafter ?_
    rw [inc_eq now hafter]
    exact hfollowed hafter
  | launched =>
    obtain ⟨hmem, ⟨⟩⟩ := Option.ite_none_right_eq_some.1 hnext
    have hgoal : ∀ state, producer.requested = some state →
        (producer.settle .launch .started).goal = state := by
      intro state hrequested
      rw [goal_settle_started (h.operates.starting_of_launch hmem)]
      exact h.goal state hrequested
    have hoperates := h.operates.settle hmem rfl (.inr rfl)
    have hlimit := not_limit_finish h.limit .launch
    cases needScrcpy with
    | true => exact ⟨hgoal, hoperates, fun hne => absurd (hfollowed rfl) hne, hlimit⟩
    | false => exact Tends.await hgoal hoperates hlimit rfl nofun
  | launchFailed cancelled =>
    obtain ⟨hmem, ⟨⟩⟩ := Option.ite_none_right_eq_some.1 hnext
    cases needScrcpy with
    | true => exact absurd rfl hfollowed
    | false =>
      refine ⟨h.goal, h.operates.abort hmem cancelled, fun _ => List.cons_ne_nil _ _, ?_⟩
      simpa [FrameProducer.await] using not_limit_finish h.limit .launch
  | aborted cancelled =>
    obtain ⟨hmem, ⟨⟩⟩ := Option.ite_none_right_eq_some.1 hnext
    refine Tends.await ?_ (h.operates.settle hmem rfl (.inl rfl)) (not_limit_finish h.limit _)
      (by cases cancelled <;> rfl) (by cases cancelled <;> nofun)
    intro state hrequested
    rw [goal_settle_of_ne_nil hfollowed]
    exact h.goal state hrequested
  | counted now =>
    obtain ⟨-, ⟨⟩⟩ := Option.ite_none_right_eq_some.1 hnext
    have hoperates : (producer.finish .count).Operates := h.operates.finish rfl
    have hinc := @inc_eq (producer.finish .count) now hafter
    refine Tends.await ?_ ?_ ?_ rfl nofun
    · rw [hinc]
      exact h.goal
    · rw [hinc]
      exact hoperates
    · rw [hinc]
      exact not_limit_finish h.limit .count
  | stopped =>
    obtain ⟨hmem, ⟨⟩⟩ := Option.ite_none_right_eq_some.1 hnext
    refine Tends.await ?_ (h.operates.settle hmem rfl (.inl rfl)) (not_limit_finish h.limit _) rfl
      nofun
    intro state hrequested
    rw [goal_settle_stopped (h.operates.stopping_of_stop hmem)]
    exact h.goal state hrequested
  | limitStopped =>
    exact absurd (Option.ite_none_right_eq_some.1 hnext).1 h.limit
  | ensured =>
    obtain ⟨-, ⟨⟩⟩ := Option.ite_none_right_eq_some.1 hnext
    exact Tends.ensureState h.goal (h.operates.finish rfl) (not_limit_finish h.limit _) hfailed

theorem tends_init : init.Tends where
  goal := nofun
  operates := rfl
  pending := fun h => absurd rfl h
  limit := List.not_mem_nil

/-- What was asked for is reached whenever nothing is under way, in every run whose steps meet the
condition. -/
theorem settled_of_run {needScrcpy : Bool} {events : List FrameProducerEvent}
    {producer : FrameProducer}
    (h : ((system needScrcpy).restrict (Followed needScrcpy)).Run init events producer) :
    producer.Settled := by
  have htends : producer.failed = false → producer.Tends :=
    h.invariant_of_restrict (I := fun producer => producer.failed = false → producer.Tends)
      (fun _ => tends_init)
      fun _ _ _ htends hfollowed hnext hafter =>
        (htends (failed_of_next hnext hafter)).next hfollowed hnext hafter
  intro hpending hfailed
  exact (htends hfailed).settled hpending hfailed

/-- A start, a change of the quality, and a stop before it is carried out. -/
theorem settled_of_restart :
    ∃ events producer, ((system false).restrict (Followed false)).Run init events producer
      ∧ producer.Settled := by
  have hplayed : (Lts.play (next false) (Followed false) init
      [.start, .launched, .ensured, .restart, .stopped, .stop, .ensured, .launched, .ensured,
        .stopped, .ensured]).any
      (fun producer => producer.pending = [] ∧ producer.requested = some .stopped) := by decide
  obtain ⟨producer, hrun, -⟩ := Lts.exists_run_of_play _ _ _ hplayed
  exact ⟨_, producer, hrun, settled_of_run hrun⟩

/-- A start that fails is not repeated, although `minicap-apk` is to be used next. -/
theorem not_settled_of_launchFailed :
    ¬ ∀ (needScrcpy : Bool) (events : List FrameProducerEvent) (producer : FrameProducer),
      (system needScrcpy).Run init events producer → producer.Settled := by
  intro h
  have hplayed : (Lts.play (next false) (fun _ _ => True) init
      [.start, .launchFailed false, .aborted false, .counted 0, .ensured]).any
      (fun producer => producer.pending = [] ∧ producer.failed = false
        ∧ producer.requested = some .started ∧ producer.runningState = .stopped) := by decide
  obtain ⟨producer, hrun, hlost⟩ := Lts.exists_run_of_play _ _ _ hplayed
  obtain ⟨hpending, hfailed, hrequested, hstopped⟩ := of_decide_eq_true hlost
  have hstarted := (h false _ producer hrun.of_restrict hpending hfailed).2.1 hrequested
  rw [hstopped] at hstarted
  cases hstarted

end FrameProducer

end DeviceHub

import DeviceHub.Async.Lts
import DeviceHub.Util.StateQueue

/-!
# The touch consumer of `units/device/plugins/touch/index.ts`

The commands of the touches are written to the socket of minitouch, or wait for the service to be
started.  The state says which of the two; the socket is ended before the state changes.

## Main definitions

* `TouchConsumer` : the consumer, its streams, and the calls that are under way.
* `TouchConsumer.next` : the calls of the class and what its promises are resumed with.
* `TouchConsumer.InOrder` : the commands are written in the order of the calls, to open sockets.
* `TouchConsumer.Writable` : the condition on the steps.

## Main results

* `TouchConsumer.writes_next` : what a step writes.
* `TouchConsumer.Sound.next` : each call is written or queued, and a started consumer has a socket.
* `TouchConsumer.inOrder_iff` : the runs that keep the commands are the ones that find an open socket.
-/

namespace DeviceHub

/-! ### Commands -/

/-- A call of one of the methods; `P` is the position and the pressure of a point. -/
inductive TouchCall (P : Type) where
  | touchDown (contact : Int) (point : P)
  | touchMove (contact : Int) (point : P)
  | touchUp (contact : Int)
  | touchCommit
  | touchReset
  deriving DecidableEq

/-- What minitouch says of itself and of the screen. -/
structure TouchBanner where
  pid : Int
  maxX : Int
  maxY : Int
  maxPressure : Int
  deriving DecidableEq

/-- The products of a point with the limits of the banner, rounded up. -/
structure TouchConfig (P : Type) where
  x : P → Int → Int
  y : P → Int → Int
  pressure : P → Int → Int

namespace TouchConfig

variable {P : Type}

/-- The three products as they are written. -/
def point (config : TouchConfig P) (banner : TouchBanner) (point : P) : String :=
  toString (config.x point banner.maxX) ++ " " ++ toString (config.y point banner.maxY) ++ " "
    ++ toString (config.pressure point banner.maxPressure)

/-- What the writer of a call writes; a point throws where there is no banner. -/
def chunk (config : TouchConfig P) (banner : Option TouchBanner) : TouchCall P → Option String
  | .touchDown contact point =>
    banner.map fun banner => "d " ++ toString contact ++ " " ++ config.point banner point ++ "\n"
  | .touchMove contact point =>
    banner.map fun banner => "m " ++ toString contact ++ " " ++ config.point banner point ++ "\n"
  | .touchUp contact => some ("u " ++ toString contact ++ "\n")
  | .touchCommit => some "c\n"
  | .touchReset => some "r\n"

end TouchConfig

/-! ### The consumer -/

/-- A stream: whether its end is expected, whether it has ended, and whether `end()` was called. -/
structure RiskyStream where
  expectingEnd : Bool := false
  ended : Bool := false
  finished : Bool := false
  deriving DecidableEq

/-- The callers of `_stop`: a start that failed, or was cancelled, and the others. -/
inductive StopCaller where
  | startState (cancelled : Bool)
  | stopState
  | restart
  | failLimit
  deriving DecidableEq

/-- What is under way: the three steps of a start, the two of a `_stop`, the end of its caller, and
the calls of `_ensureState` that are to come. -/
inductive TouchTask where
  | startService
  | connectService
  | readBanner
  | disconnectService (caller : StopCaller)
  | stopService (caller : StopCaller)
  | stopped (caller : StopCaller)
  | ensureState
  deriving DecidableEq

/-- What becomes of the command of a call. -/
inductive TouchWrite where
  | sent (socket : Nat) (chunk : String)
  | afterEnd (socket : Nat) (chunk : String)
  | discarded
  | thrown
  deriving DecidableEq

/-- The streams are numbered in the order in which they are opened.  The calls, and what becomes of
them, are not part of the program. -/
structure TouchConsumer (P : Type) where
  runningState : RunningState := .stopped
  desiredState : StateQueue DesiredState := []
  failCounter : FailCounter := { threshold := 3, time := 10000 }
  failed : Bool := false
  ensureStateLock : Bool := false
  streams : List RiskyStream := []
  output : Option Nat := none
  socket : Option Nat := none
  banner : Option TouchBanner := none
  writeQueue : List (TouchCall P) := []
  pending : List TouchTask := []
  calls : List (TouchCall P) := []
  writes : List (TouchCall P × TouchWrite) := []
  deriving DecidableEq

/-- What can happen to a consumer.  A failure comes with the time at which it is counted. -/
inductive TouchConsumerEvent (P : Type) where
  | call (call : TouchCall P)
  | start
  | stop
  | restart
  | ended (stream : Nat) (now : Nat)
  | serviceStarted
  | connected
  | bannerRead (banner : TouchBanner)
  | startFailed (task : TouchTask) (cancelled : Bool)
  | disconnected (caller : StopCaller)
  | serviceStopped (caller : StopCaller)
  | resumed (caller : StopCaller) (now : Nat)
  | ensured
  deriving DecidableEq

namespace TouchConsumer

variable {P : Type}

/-! ### Starting and stopping -/

/-- A task is over. -/
def finish (consumer : TouchConsumer P) (task : TouchTask) : TouchConsumer P :=
  { consumer with pending := consumer.pending.erase task }

/-- A task is under way. -/
def await (consumer : TouchConsumer P) (task : TouchTask) : TouchConsumer P :=
  { consumer with pending := task :: consumer.pending }

/-- A stream that has not ended yet is changed. -/
def onStream (consumer : TouchConsumer P) (stream : Option Nat) (f : RiskyStream → RiskyStream) :
    TouchConsumer P :=
  match stream with
  | none => consumer
  | some i =>
    { consumer with streams := consumer.streams.modify i fun s => if s.ended then s else f s }

/-- `_stop` up to its first `await`: `end()` is called on the socket. -/
def _stop (consumer : TouchConsumer P) (caller : StopCaller) : TouchConsumer P :=
  (consumer.onStream consumer.socket
    fun s => { s with expectingEnd := true, finished := true }).await (.disconnectService caller)

/-- `_stopService`, of which only matters that it expects the end of the output. -/
def _stopService (consumer : TouchConsumer P) (caller : StopCaller) : TouchConsumer P :=
  (consumer.onStream consumer.output
    fun s => { s with expectingEnd := true }).await (.stopService caller)

/-- The end of `_stop`, in either case. -/
def stopped (consumer : TouchConsumer P) (caller : StopCaller) : TouchConsumer P :=
  { consumer.await (.stopped caller) with
    runningState := .stopped, output := none, socket := none, banner := none }

/-- The consumer is to be started: it is, if this is what is wanted next. -/
def startState (consumer : TouchConsumer P) : TouchConsumer P :=
  match consumer.desiredState with
  | .started :: rest =>
    { consumer.await .startService with desiredState := rest, runningState := .starting }
  | state => { consumer.await .ensureState with desiredState := state.tail, ensureStateLock := false }

/-- The consumer is to be stopped: it is, if this is what is wanted next. -/
def stopState (consumer : TouchConsumer P) : TouchConsumer P :=
  match consumer.desiredState with
  | .stopped :: rest =>
    { consumer with desiredState := rest, runningState := .stopping }._stop .stopState
  | state => { consumer.await .ensureState with desiredState := state.tail, ensureStateLock := false }

/-- `_ensureState`; the lock is kept while it waits for a change of the state. -/
def ensureState (consumer : TouchConsumer P) : TouchConsumer P :=
  if consumer.desiredState.isEmpty || consumer.failed || consumer.ensureStateLock then consumer
  else
    let locked := { consumer with ensureStateLock := true }
    match locked.runningState with
    | .starting | .stopping => locked
    | .stopped => locked.startState
    | .started => locked.stopState

/-- Another state is wanted. -/
def push (consumer : TouchConsumer P) (state : DesiredState) : TouchConsumer P :=
  { consumer with desiredState := consumer.desiredState.push state }

/-- The lock of `_ensureState` is taken off. -/
def unlock (consumer : TouchConsumer P) : TouchConsumer P :=
  { consumer with ensureStateLock := false }

/-- `restart`: the service is stopped if it runs, and nothing else is wanted. -/
def restart (consumer : TouchConsumer P) : TouchConsumer P :=
  match consumer.runningState with
  | .started | .starting => consumer._stop .restart
  | .stopped | .stopping => consumer

/-- `this.failCounter.inc()`, with `_failLimitExceeded`. -/
def inc (consumer : TouchConsumer P) (now : Nat) : TouchConsumer P :=
  let failCounter := consumer.failCounter.inc now
  let counted := { consumer with failCounter }
  if failCounter.exceedsLimit then { counted._stop .failLimit with failed := true } else counted

/-- What a caller of `_stop` does when it is over. -/
def resume (consumer : TouchConsumer P) (now : Nat) : StopCaller → TouchConsumer P
  | .startState cancelled =>
    (if cancelled then consumer else consumer.inc now).unlock.ensureState
  | .stopState => consumer.unlock.ensureState
  | .restart => ((consumer.push .stopped).push .started).ensureState
  | .failLimit => consumer

/-- A stream that was just opened. -/
def opened (consumer : TouchConsumer P) : TouchConsumer P :=
  { consumer with streams := consumer.streams ++ [{}] }

/-! ### Writing -/

/-- The stream is there, and neither has ended nor was ended. -/
def IsOpen (consumer : TouchConsumer P) (stream : Nat) : Prop :=
  ∃ s, consumer.streams[stream]? = some s ∧ s.ended = false ∧ s.finished = false

instance (consumer : TouchConsumer P) (stream : Nat) : Decidable (consumer.IsOpen stream) :=
  match h : consumer.streams[stream]? with
  | none => isFalse fun ⟨_, hs, _⟩ => by cases h.symm.trans hs
  | some s =>
    decidable_of_iff (s.ended = false ∧ s.finished = false)
      ⟨fun hs => ⟨s, h, hs⟩, fun ⟨_, hs', hs⟩ => by cases h.symm.trans hs'; exact hs⟩

variable (config : TouchConfig P)

/-- What becomes of the command when its writer is called. -/
def write (consumer : TouchConsumer P) (call : TouchCall P) : TouchWrite :=
  match config.chunk consumer.banner call, consumer.socket with
  | none, _ => .thrown
  | some _, none => .discarded
  | some chunk, some socket =>
    if consumer.IsOpen socket then .sent socket chunk else .afterEnd socket chunk

/-- `_queueWrite` -/
def queueWrite (consumer : TouchConsumer P) (call : TouchCall P) : TouchConsumer P :=
  match consumer.runningState with
  | .started => { consumer with writes := consumer.writes ++ [(call, consumer.write config call)] }
  | .stopped | .starting | .stopping => { consumer with writeQueue := consumer.writeQueue ++ [call] }

/-- The commands that wait are written. -/
def processWriteQueue (consumer : TouchConsumer P) : TouchConsumer P :=
  { consumer with
    writeQueue := []
    writes := consumer.writes ++
      consumer.writeQueue.map fun call => (call, consumer.write config call) }

/-- The start after the banner; a socket that was taken away in the meantime makes it fail. -/
def bannerRead (consumer : TouchConsumer P) (banner : TouchBanner) : TouchConsumer P :=
  let withBanner := { consumer with banner := some banner }
  match withBanner.socket with
  | none => withBanner._stop (.startState false)
  | some _ =>
    { withBanner.processWriteQueue config with runningState := .started }.unlock.ensureState

/-! ### Events -/

/-- The start failed while it waited for the task. -/
def IsStart : TouchTask → Bool
  | .startService | .connectService | .readBanner => true
  | .disconnectService _ | .stopService _ | .stopped _ | .ensureState => false

/-- The stream emits the event `end`. -/
def onEnd (consumer : TouchConsumer P) (stream : Nat) (now : Nat) : Option (TouchConsumer P) :=
  match consumer.streams[stream]? with
  | none => none
  | some s =>
    if s.ended then none
    else
      let ended := consumer.onStream (some stream) fun s => { s with ended := true }
      some (if s.expectingEnd then ended else (ended.inc now).restart)

/-- What comes after an event, where it can happen. -/
def next (consumer : TouchConsumer P) : TouchConsumerEvent P → Option (TouchConsumer P)
  | .call call =>
    some { consumer.queueWrite config call with calls := consumer.calls ++ [call] }
  | .start => some (consumer.push .started).ensureState
  | .stop => some (consumer.push .stopped).ensureState
  | .restart => some consumer.restart
  | .ended stream now => consumer.onEnd stream now
  | .serviceStarted =>
    if .startService ∈ consumer.pending then
      some ({ (consumer.finish .startService).opened with
        output := some consumer.streams.length }.await .connectService)
    else none
  | .connected =>
    if .connectService ∈ consumer.pending then
      some ({ (consumer.finish .connectService).opened with
        socket := some consumer.streams.length }.await .readBanner)
    else none
  | .bannerRead banner =>
    if .readBanner ∈ consumer.pending then
      some ((consumer.finish .readBanner).bannerRead config banner)
    else none
  | .startFailed task cancelled =>
    if IsStart task ∧ task ∈ consumer.pending then
      some ((consumer.finish task)._stop (.startState cancelled))
    else none
  | .disconnected caller =>
    if .disconnectService caller ∈ consumer.pending then
      some ((consumer.finish (.disconnectService caller))._stopService caller)
    else none
  | .serviceStopped caller =>
    if .stopService caller ∈ consumer.pending then
      some ((consumer.finish (.stopService caller)).stopped caller)
    else none
  | .resumed caller now =>
    if .stopped caller ∈ consumer.pending then
      some ((consumer.finish (.stopped caller)).resume now caller)
    else none
  | .ensured =>
    if .ensureState ∈ consumer.pending then some (consumer.finish .ensureState).ensureState else none

/-- A new consumer. -/
def init : TouchConsumer P := {}

/-- The runs of the consumer. -/
def system : Lts (TouchConsumer P) (TouchConsumerEvent P) := .ofNext (next config)

/-! ### What is expected -/

/-- The command was written to a socket that was open. -/
def IsSent (write : TouchCall P × TouchWrite) : Prop := ∃ socket chunk, write.2 = .sent socket chunk

/-- The commands are written in the order of the calls, and the ones that are not written yet are
queued. -/
def InOrder (consumer : TouchConsumer P) : Prop :=
  consumer.writes.map Prod.fst ++ consumer.writeQueue = consumer.calls
    ∧ ∀ write ∈ consumer.writes, IsSent write

/-- The socket of the consumer is open. -/
def HasSocket (consumer : TouchConsumer P) : Prop :=
  ∃ socket, consumer.socket = some socket ∧ consumer.IsOpen socket

/-- The condition on the steps: a call while the consumer is started finds its socket open, and so
does a banner while commands are queued, unless the socket was taken away.

It holds of what comes from outside when nothing is called from a `restart()`, or from the end of a
stream, until the service is started again, and the stream of a service that starts does not end
before its banner was read. -/
def Writable (consumer : TouchConsumer P) : TouchConsumerEvent P → Prop
  | .call _ => consumer.runningState = .started → consumer.HasSocket
  | .bannerRead _ => consumer.socket.isSome → consumer.writeQueue ≠ [] → consumer.HasSocket
  | _ => True

instance (consumer : TouchConsumer P) : Decidable consumer.HasSocket :=
  match h : consumer.socket with
  | none => isFalse fun ⟨_, hs, _⟩ => by cases h.symm.trans hs
  | some socket =>
    decidable_of_iff (consumer.IsOpen socket)
      ⟨fun hs => ⟨socket, h, hs⟩, fun ⟨_, hs', hs⟩ => by cases h.symm.trans hs'; exact hs⟩

instance (consumer : TouchConsumer P) (event : TouchConsumerEvent P) :
    Decidable (consumer.Writable event) :=
  match event with
  | .call _ => inferInstanceAs (Decidable (_ → _))
  | .bannerRead _ => inferInstanceAs (Decidable (_ → (_ → _)))
  | .start | .stop | .restart | .ended _ _ | .serviceStarted | .connected | .startFailed _ _
  | .disconnected _ | .serviceStopped _ | .resumed _ _ | .ensured => inferInstanceAs (Decidable True)

/-! ### What starting and stopping leave alone -/

/-- `after` has the commands of `before`, and has not been started in between. -/
structure Quiet (before after : TouchConsumer P) : Prop where
  calls : after.calls = before.calls
  writes : after.writes = before.writes
  writeQueue : after.writeQueue = before.writeQueue
  started : after.runningState = .started → before.runningState = .started
    ∧ (before.banner.isSome → after.banner.isSome) ∧ (before.socket.isSome → after.socket.isSome)
  socket : (∀ i, before.socket = some i → i < before.streams.length) →
    ∀ i, after.socket = some i → i < after.streams.length

namespace Quiet

theorem refl (consumer : TouchConsumer P) : Quiet consumer consumer :=
  ⟨rfl, rfl, rfl, fun h => ⟨h, id, id⟩, id⟩

theorem trans {before between after : TouchConsumer P} (h : Quiet before between)
    (h' : Quiet between after) : Quiet before after where
  calls := h'.calls.trans h.calls
  writes := h'.writes.trans h.writes
  writeQueue := h'.writeQueue.trans h.writeQueue
  started := fun hafter => by
    obtain ⟨hbetween, hbanner', hsocket'⟩ := h'.started hafter
    obtain ⟨hbefore, hbanner, hsocket⟩ := h.started hbetween
    exact ⟨hbefore, fun hb => hbanner' (hbanner hb), fun hs => hsocket' (hsocket hs)⟩
  socket := fun hbefore => h'.socket (h.socket hbefore)

end Quiet

variable (consumer : TouchConsumer P)

theorem quiet_finish (task : TouchTask) : Quiet consumer (consumer.finish task) :=
  ⟨rfl, rfl, rfl, fun h => ⟨h, id, id⟩, id⟩

theorem quiet_await (task : TouchTask) : Quiet consumer (consumer.await task) :=
  ⟨rfl, rfl, rfl, fun h => ⟨h, id, id⟩, id⟩

theorem quiet_push (state : DesiredState) : Quiet consumer (consumer.push state) :=
  ⟨rfl, rfl, rfl, fun h => ⟨h, id, id⟩, id⟩

theorem quiet_unlock : Quiet consumer consumer.unlock :=
  ⟨rfl, rfl, rfl, fun h => ⟨h, id, id⟩, id⟩

theorem quiet_onStream (stream : Option Nat) (f : RiskyStream → RiskyStream) :
    Quiet consumer (consumer.onStream stream f) := by
  unfold onStream
  split
  · exact .refl consumer
  · exact ⟨rfl, rfl, rfl, fun h => ⟨h, id, id⟩, by simp⟩

theorem quiet_stop (caller : StopCaller) : Quiet consumer (consumer._stop caller) :=
  (quiet_onStream consumer _ _).trans (quiet_await _ _)

theorem quiet_stopService (caller : StopCaller) : Quiet consumer (consumer._stopService caller) :=
  (quiet_onStream consumer _ _).trans (quiet_await _ _)

theorem quiet_stopped (caller : StopCaller) : Quiet consumer (consumer.stopped caller) :=
  ⟨rfl, rfl, rfl, nofun, nofun⟩

theorem quiet_startState : Quiet consumer consumer.startState := by
  unfold startState
  split
  · exact ⟨rfl, rfl, rfl, nofun, id⟩
  · exact ⟨rfl, rfl, rfl, fun h => ⟨h, id, id⟩, id⟩

theorem quiet_stopState : Quiet consumer consumer.stopState := by
  have hstopping (rest : StateQueue DesiredState) :
      Quiet consumer { consumer with desiredState := rest, runningState := .stopping } :=
    ⟨rfl, rfl, rfl, nofun, id⟩
  unfold stopState
  split
  · exact (hstopping _).trans (quiet_stop _ _)
  · exact ⟨rfl, rfl, rfl, fun h => ⟨h, id, id⟩, id⟩

theorem quiet_ensureState : Quiet consumer consumer.ensureState := by
  have hlocked : Quiet consumer { consumer with ensureStateLock := true } :=
    ⟨rfl, rfl, rfl, fun h => ⟨h, id, id⟩, id⟩
  unfold ensureState
  split
  · exact .refl consumer
  · dsimp only
    split
    · exact hlocked
    · exact hlocked
    · exact hlocked.trans (quiet_startState _)
    · exact hlocked.trans (quiet_stopState _)

theorem quiet_restart : Quiet consumer consumer.restart := by
  unfold restart
  split
  · exact quiet_stop consumer _
  · exact quiet_stop consumer _
  · exact .refl consumer
  · exact .refl consumer

theorem quiet_inc (now : Nat) : Quiet consumer (consumer.inc now) := by
  have hcounted (failCounter : FailCounter) : Quiet consumer { consumer with failCounter } :=
    ⟨rfl, rfl, rfl, fun h => ⟨h, id, id⟩, id⟩
  unfold inc
  dsimp only
  split
  · have h := (hcounted (consumer.failCounter.inc now)).trans (quiet_stop _ .failLimit)
    exact ⟨h.calls, h.writes, h.writeQueue, h.started, h.socket⟩
  · exact hcounted _

theorem quiet_resume (now : Nat) (caller : StopCaller) :
    Quiet consumer (consumer.resume now caller) := by
  cases caller with
  | startState cancelled =>
    have hinc : Quiet consumer (if cancelled then consumer else consumer.inc now) := by
      cases cancelled with
      | true => exact .refl consumer
      | false => exact quiet_inc consumer now
    exact (hinc.trans (quiet_unlock _)).trans (quiet_ensureState _)
  | stopState => exact (quiet_unlock consumer).trans (quiet_ensureState _)
  | restart =>
    exact ((quiet_push consumer .stopped).trans (quiet_push _ .started)).trans (quiet_ensureState _)
  | failLimit => exact .refl consumer

/-! ### What a step writes -/

/-- The commands that a step writes, or tries to. -/
def newWrites (consumer : TouchConsumer P) :
    TouchConsumerEvent P → List (TouchCall P × TouchWrite)
  | .call call =>
    if consumer.runningState = .started then [(call, consumer.write config call)] else []
  | .bannerRead banner =>
    if consumer.socket.isSome then
      consumer.writeQueue.map fun call =>
        (call, { consumer with banner := some banner }.write config call)
    else []
  | _ => []

variable {config} {consumer}

/-- All other steps are quiet. -/
theorem quiet_next {event : TouchConsumerEvent P} {after : TouchConsumer P}
    (hnext : consumer.next config event = some after)
    (hcall : ∀ call, event ≠ .call call) (hbanner : ∀ banner, event ≠ .bannerRead banner) :
    Quiet consumer after := by
  cases event with
  | call call => exact absurd rfl (hcall call)
  | bannerRead banner => exact absurd rfl (hbanner banner)
  | start =>
    cases hnext
    exact (quiet_push consumer .started).trans (quiet_ensureState _)
  | stop =>
    cases hnext
    exact (quiet_push consumer .stopped).trans (quiet_ensureState _)
  | restart =>
    cases hnext
    exact quiet_restart consumer
  | ended stream now =>
    simp only [next, onEnd] at hnext
    split at hnext
    · cases hnext
    · split at hnext <;> cases hnext
      have hended := quiet_onStream consumer (some stream) fun s => { s with ended := true }
      split
      · exact hended
      · exact (hended.trans (quiet_inc _ now)).trans (quiet_restart _)
  | serviceStarted =>
    obtain ⟨-, ⟨⟩⟩ := Option.ite_none_right_eq_some.1 hnext
    exact ⟨rfl, rfl, rfl, fun h => ⟨h, id, id⟩, fun h i hi => by
      simpa [await, finish, opened] using Nat.lt_succ_of_lt (h i hi)⟩
  | connected =>
    obtain ⟨-, ⟨⟩⟩ := Option.ite_none_right_eq_some.1 hnext
    refine ⟨rfl, rfl, rfl, fun h => ⟨h, id, fun _ => rfl⟩, ?_⟩
    rintro - i ⟨⟩
    simp [await, finish, opened]
  | startFailed task cancelled =>
    obtain ⟨-, ⟨⟩⟩ := Option.ite_none_right_eq_some.1 hnext
    exact (quiet_finish consumer task).trans (quiet_stop _ _)
  | disconnected caller =>
    obtain ⟨-, ⟨⟩⟩ := Option.ite_none_right_eq_some.1 hnext
    exact (quiet_finish consumer _).trans (quiet_stopService _ caller)
  | serviceStopped caller =>
    obtain ⟨-, ⟨⟩⟩ := Option.ite_none_right_eq_some.1 hnext
    exact (quiet_finish consumer _).trans (quiet_stopped _ caller)
  | resumed caller now =>
    obtain ⟨-, ⟨⟩⟩ := Option.ite_none_right_eq_some.1 hnext
    exact (quiet_finish consumer _).trans (quiet_resume _ now caller)
  | ensured =>
    obtain ⟨-, ⟨⟩⟩ := Option.ite_none_right_eq_some.1 hnext
    exact (quiet_finish consumer _).trans (quiet_ensureState _)

/-- Each call is written or queued, in the order of the calls; a started consumer has nothing queued,
and it has a banner and a socket. -/
structure Sound (consumer : TouchConsumer P) : Prop where
  order : consumer.writes.map Prod.fst ++ consumer.writeQueue = consumer.calls
  started : consumer.runningState = .started →
    consumer.writeQueue = [] ∧ consumer.banner.isSome ∧ consumer.socket.isSome
  socket : ∀ i, consumer.socket = some i → i < consumer.streams.length

theorem Sound.of_quiet {after : TouchConsumer P} (h : consumer.Sound)
    (hquiet : Quiet consumer after) : after.Sound where
  order := by rw [hquiet.writes, hquiet.writeQueue, hquiet.calls, h.order]
  started := fun hafter => by
    obtain ⟨hbefore, hbanner, hsocket⟩ := hquiet.started hafter
    obtain ⟨hqueue, hb, hs⟩ := h.started hbefore
    exact ⟨hquiet.writeQueue.trans hqueue, hbanner hb, hsocket hs⟩
  socket := hquiet.socket h.socket

theorem sound_init : (init : TouchConsumer P).Sound :=
  ⟨rfl, nofun, nofun⟩

theorem Sound.queueWrite (h : consumer.Sound) (call : TouchCall P) :
    ({ consumer.queueWrite config call with calls := consumer.calls ++ [call] }).Sound := by
  have horder := h.order
  unfold TouchConsumer.queueWrite
  split
  · rename_i hstarted
    obtain ⟨hqueue, hrest⟩ := h.started hstarted
    refine ⟨?_, fun _ => ⟨hqueue, hrest⟩, h.socket⟩
    simp only [hqueue, List.append_nil] at horder ⊢
    simp [horder]
  all_goals
    rename_i hstate
    refine ⟨?_, fun hstarted => by simp [hstate] at hstarted, h.socket⟩
    rw [← List.append_assoc, horder]

theorem Sound.bannerRead (h : consumer.Sound) (banner : TouchBanner) :
    (consumer.bannerRead config banner).Sound := by
  unfold TouchConsumer.bannerRead
  dsimp only
  split
  · have hbanner : Quiet consumer { consumer with banner := some banner } :=
      ⟨rfl, rfl, rfl, fun h => ⟨h, fun _ => rfl, id⟩, id⟩
    exact h.of_quiet (hbanner.trans (quiet_stop _ _))
  · rename_i socket hsocket
    refine Sound.of_quiet ?_ ((quiet_unlock _).trans (quiet_ensureState _))
    refine ⟨?_, fun _ => ⟨rfl, rfl, by simp [processWriteQueue, hsocket]⟩, h.socket⟩
    simpa [processWriteQueue, Function.comp_def] using h.order

theorem Sound.next {event : TouchConsumerEvent P} {after : TouchConsumer P} (h : consumer.Sound)
    (hnext : consumer.next config event = some after) : after.Sound := by
  by_cases hcall : ∃ call, event = .call call
  · obtain ⟨call, rfl⟩ := hcall
    cases hnext
    exact h.queueWrite call
  · by_cases hbanner : ∃ banner, event = .bannerRead banner
    · obtain ⟨banner, rfl⟩ := hbanner
      obtain ⟨-, ⟨⟩⟩ := Option.ite_none_right_eq_some.1 hnext
      exact (h.of_quiet (quiet_finish consumer _)).bannerRead banner
    · exact h.of_quiet (quiet_next hnext (not_exists.mp hcall) (not_exists.mp hbanner))

theorem writes_bannerRead (banner : TouchBanner) :
    (consumer.bannerRead config banner).writes
      = consumer.writes ++ newWrites config consumer (.bannerRead banner) := by
  unfold TouchConsumer.bannerRead
  dsimp only
  split
  · rename_i hsocket
    rw [(quiet_stop _ _).writes]
    simp [newWrites, hsocket]
  · rename_i socket hsocket
    rw [((quiet_unlock _).trans (quiet_ensureState _)).writes]
    simp [newWrites, hsocket, processWriteQueue]

theorem writes_next {event : TouchConsumerEvent P} {after : TouchConsumer P}
    (hnext : consumer.next config event = some after) :
    after.writes = consumer.writes ++ newWrites config consumer event := by
  cases event with
  | call call =>
    cases hnext
    cases hstate : consumer.runningState <;> simp [queueWrite, newWrites, hstate]
  | bannerRead banner =>
    obtain ⟨-, ⟨⟩⟩ := Option.ite_none_right_eq_some.1 hnext
    exact writes_bannerRead banner
  | start | stop | restart | ended _ _ | serviceStarted | connected | startFailed _ _
  | disconnected _ | serviceStopped _ | resumed _ _ | ensured =>
    simpa [newWrites] using (quiet_next hnext nofun nofun).writes

theorem exists_chunk (config : TouchConfig P) {banner : Option TouchBanner} (h : banner.isSome)
    (call : TouchCall P) : ∃ chunk, config.chunk banner call = some chunk := by
  obtain ⟨banner, rfl⟩ := Option.isSome_iff_exists.mp h
  cases call <;> exact ⟨_, rfl⟩

theorem isSent_write_iff (config : TouchConfig P) (consumer : TouchConsumer P)
    (hbanner : consumer.banner.isSome) (hsocket : consumer.socket.isSome) (call : TouchCall P) :
    IsSent (call, consumer.write config call) ↔ consumer.HasSocket := by
  obtain ⟨chunk, hchunk⟩ := exists_chunk config hbanner call
  obtain ⟨socket, hsocket⟩ := Option.isSome_iff_exists.mp hsocket
  by_cases hopen : consumer.IsOpen socket
  · simp [IsSent, write, hchunk, hsocket, hopen, HasSocket]
  · simp [IsSent, write, hchunk, hsocket, hopen, HasSocket]

/-- What a step writes goes to an open socket exactly where the step meets the condition. -/
theorem isSent_newWrites_iff (h : consumer.Sound) (event : TouchConsumerEvent P) :
    (∀ write ∈ newWrites config consumer event, IsSent write) ↔ consumer.Writable event := by
  cases event with
  | call call =>
    by_cases hstarted : consumer.runningState = .started
    · obtain ⟨-, hbanner, hsocket⟩ := h.started hstarted
      simp [newWrites, Writable, hstarted, isSent_write_iff config consumer hbanner hsocket]
    · simp [newWrites, Writable, hstarted]
  | bannerRead banner =>
    by_cases hsocket : consumer.socket.isSome
    · have hsent := isSent_write_iff config { consumer with banner := some banner } rfl hsocket
      have hopen : HasSocket { consumer with banner := some banner } ↔ consumer.HasSocket := Iff.rfl
      have hqueued : (∀ write ∈ newWrites config consumer (.bannerRead banner), IsSent write)
          ↔ ∀ call ∈ consumer.writeQueue, consumer.HasSocket := by
        simp [newWrites, hsocket, hsent, hopen]
      rw [hqueued]
      constructor
      · intro h _ hne
        obtain ⟨call, hcall⟩ := List.exists_mem_of_ne_nil _ hne
        exact h call hcall
      · exact fun h call hcall => h hsocket (List.ne_nil_of_mem hcall)
    · simp [newWrites, Writable, hsocket]
  | start | stop | restart | ended _ _ | serviceStarted | connected | startFailed _ _
  | disconnected _ | serviceStopped _ | resumed _ _ | ensured => simp [newWrites, Writable]

theorem InOrder.next_iff {event : TouchConsumerEvent P} {after : TouchConsumer P}
    (h : consumer.InOrder) (hsound : consumer.Sound)
    (hnext : consumer.next config event = some after) :
    after.InOrder ↔ consumer.Writable event := by
  have hsent : (∀ write ∈ newWrites config consumer event, IsSent write) ↔ _ :=
    isSent_newWrites_iff hsound event
  rw [← hsent]
  constructor
  · intro hafter write hwrite
    refine hafter.2 write ?_
    rw [writes_next hnext]
    exact List.mem_append_right _ hwrite
  · intro hnew
    refine ⟨(hsound.next hnext).order, ?_⟩
    rw [writes_next hnext]
    exact List.forall_mem_append.mpr ⟨h.2, hnew⟩

end TouchConsumer

end DeviceHub

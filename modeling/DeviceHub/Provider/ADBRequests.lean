import DeviceHub.Async.Lts
import DeviceHub.Async.Order
import DeviceHub.Provider.ADBProtocol

/-!
# The requests of `units/provider/ADBObserver.ts`

All requests wait in one queue, and the first is in flight while its timer is set.  An answer is
that of the first request, whatever connection it comes from; a request is written on the connection
there is; and the command for a device is queued when the request for the transport has been
answered.

## Main definitions

* `ADBCall`, `ADBRequest` : the calls of `sendADBCommand`, and their requests.
* `ADBSocket` : a connection, with what was written on it and what the server has answered.
* `ADBRequests` : the queue, the connections, and the calls and attempts to connect that wait.
* `ADBRequests.processNextRequest`, `ADBRequests.processADBResponses`, `ADBRequests.onClose` : the
  main parts.
* `ADBRequests.Event`, `ADBRequests.system` : calls, bytes, timers and the ends of connections.
-/

namespace DeviceHub

/-- A call of `sendADBCommand`. -/
structure ADBCall where
  number : Nat
  command : String
  host : Option String
  deriving DecidableEq

/-- A request, for the transport of the call or for its command.  While the timer is set the request
is in flight, and `timer` is the connection on which it was written; `rawStreamBuffer` is there once
the raw stream has started. -/
structure ADBRequest where
  call : ADBCall
  kind : RequestKind
  timer : Option Nat
  rawStreamBuffer : Option Bytes
  deriving DecidableEq

/-- A command that was written, and for which call. -/
structure ADBWritten where
  call : ADBCall
  kind : RequestKind
  deriving DecidableEq

/-- The command that is written. -/
def ADBWritten.command (w : ADBWritten) : String :=
  match w.kind with
  | .transport => "host:transport:" ++ w.call.host.getD ""
  | _ => w.call.command

/-- A connection: what was written on it, the answers of the server, which go to the commands in
their order, the bytes of these that have not come yet, and those that have come and not been read.
A request was `abandoned` when it was given up while it was in flight. -/
structure ADBSocket where
  written : List ADBWritten
  answers : List ADBAnswer
  pending : Bytes
  responseBuffer : Bytes
  destroyed : Bool
  closed : Bool
  abandoned : Bool
  deriving DecidableEq

/-- How the promise of a call is settled: with what the server has answered, or with an error of the
observer. -/
inductive ADBOutcome where
  | resolve (data : Bytes)
  | fail (message : Bytes)
  | error
  deriving DecidableEq

/-- A call that waits for `ensureConnection`, in its loop or, when there is a connection, to go
on. -/
structure ADBCaller where
  call : ADBCall
  ready : Bool
  deriving DecidableEq

/-- An attempt to connect, of a call or of `attemptReconnect`. -/
inductive ADBDial where
  | caller (call : ADBCall)
  | reconnect
  deriving DecidableEq

/-- What `attemptReconnect` waits for: the delay before an attempt, the attempt, or to go on with
the new connection. -/
inductive ReconnectStage where
  | delay (attempt : Nat)
  | dialing (attempt : Nat)
  | connected
  deriving DecidableEq

/-- The connections in the order in which they were made.  `reconnecting` is there while
`isReconnecting` is set. -/
structure ADBRequests where
  calls : Nat
  callers : List ADBCaller
  dials : List ADBDial
  requestQueue : List ADBRequest
  connection : Option Nat
  sockets : List ADBSocket
  isConnecting : Bool
  reconnecting : Option ReconnectStage
  settled : List (ADBCall × ADBOutcome)

namespace ADBRequests

/-- `maxReconnectAttempts` -/
def maxReconnectAttempts : Nat := 8

/-- A new client. -/
def new : ADBRequests := ⟨0, [], [], [], none, [], false, none, []⟩

/-- A socket changes. -/
def modifySocket (s : ADBRequests) (i : Nat) (f : ADBSocket → ADBSocket) : ADBRequests :=
  { s with sockets := s.sockets.modify i f }

/-- The promise of a call is settled. -/
def settle (s : ADBRequests) (call : ADBCall) (outcome : ADBOutcome) : ADBRequests :=
  { s with settled := s.settled ++ [(call, outcome)] }

/-- The connection, if it is not destroyed. -/
def alive (s : ADBRequests) : Option Nat :=
  s.connection.filter fun i => s.sockets[i]?.any fun c => !c.destroyed

/-! ### The queue -/

/-- The first request is written on the connection `i`, and is in flight. -/
def write (s : ADBRequests) (request : ADBRequest) (others : List ADBRequest) (i : Nat) :
    ADBRequests :=
  { s with
    requestQueue := { request with timer := some i } :: others
    sockets := s.sockets.modify i fun c =>
      { c with written := c.written ++ [⟨request.call, request.kind⟩] } }

/-- The first request is written, unless it is in flight or there is no connection. -/
def processNextRequest (s : ADBRequests) : ADBRequests :=
  match s.requestQueue, s.alive with
  | request :: others, some i => if request.timer.isSome then s else s.write request others i
  | _, _ => s

/-- A request is queued. -/
def push (s : ADBRequests) (call : ADBCall) (kind : RequestKind) : ADBRequests :=
  { s with requestQueue := s.requestQueue ++ [⟨call, kind, none, none⟩] }

/-- The first request leaves the queue. -/
def shift (s : ADBRequests) : ADBRequests := { s with requestQueue := s.requestQueue.tail }

/-- `sendADBCommand`, when there is a connection. -/
def enqueue (s : ADBRequests) (call : ADBCall) : ADBRequests :=
  (s.push call (if call.host.any (· ≠ "") then .transport else .host)).processNextRequest

/-- `request.resolve`; the request for a transport queues the command for the device. -/
def resolve (s : ADBRequests) (request : ADBRequest) (data : Bytes) : ADBRequests :=
  match request.kind with
  | .transport => (s.push request.call .device).processNextRequest
  | _ => s.settle request.call (.resolve data)

/-- The connection is closed after an answer that leaves it of no more use. -/
def closeConnectionAfterTransport (s : ADBRequests) : ADBRequests :=
  match s.alive with
  | none => s
  | some i =>
    { s with
      connection := none
      sockets := s.sockets.modify i fun c => { c with destroyed := true } }

/-- The connection on which the first request is in flight is marked. -/
def abandon (s : ADBRequests) : ADBRequests :=
  match s.requestQueue.head?.bind ADBRequest.timer with
  | none => s
  | some i => s.modifySocket i fun c => { c with abandoned := true }

/-- The first request is given up, after its timeout or when it could not be written. -/
def giveUp (s : ADBRequests) : ADBRequests :=
  match s.requestQueue with
  | [] => s
  | request :: _ => (s.abandon.shift.settle request.call .error).processNextRequest

/-! ### The answers -/

/-- The stream of the first request has become this; a line in it ends it. -/
def accumulate (s : ADBRequests) (request : ADBRequest) (rest : List ADBRequest) (data : Bytes) :
    ADBRequests :=
  if 10 ∈ data then
    ((s.shift.resolve request data).closeConnectionAfterTransport).processNextRequest
  else { s with requestQueue := { request with rawStreamBuffer := some data } :: rest }

/-- The answer at the beginning of the buffer, for the first request, which reads no stream as
yet. -/
def processAnswer (s : ADBRequests) (request : ADBRequest) (others : List ADBRequest)
    (buffer : Bytes) : ADBRequests × Bytes :=
  match readResponse request.kind buffer with
  | .more => (s, buffer)
  | .fail message rest =>
    ((s.shift.settle request.call (.fail message)).processNextRequest, rest)
  | .stream data => (s.accumulate request others data, [])
  | .data data rest => ((s.shift.resolve request data).processNextRequest, rest)
  | .okay rest => ((s.shift.resolve request []).processNextRequest, rest)

/-- With the bytes that remain in the buffer. -/
def processADBResponses (s : ADBRequests) (buffer : Bytes) : ADBRequests × Bytes :=
  match s.requestQueue with
  | [] => (s, buffer)
  | request :: others =>
    match request.rawStreamBuffer with
    | some data => (s.accumulate request others (data ++ buffer), [])
    | none => s.processAnswer request others buffer

/-- The event `data` of the connection `i`, with the next `n` bytes. -/
def onData (s : ADBRequests) (i n : Nat) (c : ADBSocket) : ADBRequests :=
  let received := (s.modifySocket i fun c => { c with pending := c.pending.drop n })
    |>.processADBResponses (c.responseBuffer ++ c.pending.take n)
  received.1.modifySocket i fun c => { c with responseBuffer := received.2 }

/-! ### Connections -/

/-- The connection number `i` has ended, and is destroyed. -/
def destroy (s : ADBRequests) (i : Nat) : ADBRequests :=
  s.modifySocket i fun c => { c with destroyed := true }

/-- The timer of a request is cleared. -/
def clearTimer (request : ADBRequest) : ADBRequest := { request with timer := none }

/-- The client begins to reconnect unless it does so already. -/
def attemptReconnect (s : ADBRequests) : ADBRequests :=
  { s with reconnecting := s.reconnecting.or (some (.delay 0)) }

/-- The event `close` of a connection. -/
def onClose (s : ADBRequests) (i : Nat) : ADBRequests :=
  let s : ADBRequests := { s with
    connection := none
    sockets := s.sockets.modify i fun c => { c with closed := true } }
  match s.requestQueue with
  | [] => s.attemptReconnect
  | request :: rest =>
    match request.rawStreamBuffer with
    | some data => (s.shift.resolve request data).processNextRequest
    | none => { s.abandon with requestQueue := clearTimer request :: rest }.attemptReconnect

/-- The event `error` of a connection, also of one that is not the current one. -/
def onError (s : ADBRequests) (i : Nat) : ADBRequests :=
  { s with connection := none, isConnecting := false }.destroy i

/-- All requests are rejected when the last attempt to reconnect has failed. -/
def rejectAll (s : ADBRequests) : ADBRequests :=
  { s.abandon with
    requestQueue := []
    settled := s.settled ++ s.requestQueue.map fun request => (request.call, .error) }

/-- A call of `sendADBCommand`, up to its await. -/
def sendADBCommand (s : ADBRequests) (command : String) (host : Option String) : ADBRequests :=
  let call : ADBCall := ⟨s.calls, command, host⟩
  let s := { s with calls := s.calls + 1 }
  if s.alive.isSome then { s with callers := s.callers ++ [⟨call, true⟩] }
  else if s.isConnecting || s.reconnecting.isSome then
    { s with callers := s.callers ++ [⟨call, false⟩] }
  else { s with isConnecting := true, dials := s.dials ++ [.caller call] }

/-- The loop of `ensureConnection` looks again. -/
def checkConnection (s : ADBRequests) (j : Nat) (caller : ADBCaller) : ADBRequests :=
  if s.alive.isSome then
    { s with callers := s.callers.modify j fun caller => { caller with ready := true } }
  else if !s.isConnecting && s.reconnecting.isNone then
    { s with callers := s.callers.eraseIdx j }.settle caller.call .error
  else s

/-- The attempt number `k` has succeeded. -/
def onConnected (s : ADBRequests) (k : Nat) (dial : ADBDial) : ADBRequests :=
  let s : ADBRequests := { s with
    connection := some s.sockets.length
    sockets := s.sockets ++ [⟨[], [], [], [], false, false, false⟩]
    isConnecting := false
    dials := s.dials.eraseIdx k }
  match dial with
  | .caller call => { s with callers := s.callers ++ [⟨call, true⟩] }
  | .reconnect => { s with reconnecting := some .connected }

/-- The attempt number `k` has failed. -/
def onConnectError (s : ADBRequests) (k : Nat) (dial : ADBDial) : ADBRequests :=
  let s : ADBRequests := { s with
    connection := none, isConnecting := false, dials := s.dials.eraseIdx k }
  match dial with
  | .caller call => s.settle call .error
  | .reconnect =>
    match s.reconnecting with
    | some (.dialing attempt) =>
      if attempt + 1 < maxReconnectAttempts then
        { s with reconnecting := some (.delay (attempt + 1)) }
      else { s with reconnecting := none }.rejectAll
    | _ => s

/-! ### Runs -/

/-- What can happen to the client. -/
inductive Event where
  | send (command : String) (host : Option String)
  | check (j : Nat)
  | enqueue (j : Nat)
  | connected (k : Nat)
  | connectError (k : Nat)
  | redial
  | reconnected
  | answer (i : Nat) (answer : ADBAnswer)
  | data (i n : Nat)
  | timeout
  | writeError
  | ended (i : Nat)
  | error (i : Nat)
  | close (i : Nat)

/-- The server answers the commands of a connection in their order, and the bytes come in any
portions, as long as the connection is not destroyed; a connection is closed when it is. -/
def next (s : ADBRequests) : Event → Option ADBRequests
  | .send command host => some (s.sendADBCommand command host)
  | .check j => (s.callers[j]?.filter fun caller => !caller.ready).map (s.checkConnection j)
  | .enqueue j => (s.callers[j]?.filter ADBCaller.ready).map fun caller =>
      { s with callers := s.callers.eraseIdx j }.enqueue caller.call
  | .connected k => s.dials[k]?.map (s.onConnected k)
  | .connectError k => s.dials[k]?.map (s.onConnectError k)
  | .redial =>
    match s.reconnecting with
    | some (.delay attempt) => some { s with
        reconnecting := some (.dialing attempt)
        isConnecting := true
        dials := s.dials ++ [.reconnect] }
    | _ => none
  | .reconnected =>
    if s.reconnecting = some .connected then
      some { s with reconnecting := none }.processNextRequest
    else none
  | .answer i answer => s.sockets[i]?.bind fun c => c.written[c.answers.length]?.bind fun w =>
      if answer.Fits w.kind then
        some (s.modifySocket i fun c => { c with
          answers := c.answers ++ [answer]
          pending := c.pending ++ answer.encode w.kind })
      else none
  | .data i n => (s.sockets[i]?.filter fun c =>
      !c.destroyed && 0 < n && n ≤ c.pending.length).map (s.onData i n)
  | .timeout | .writeError =>
    if (s.requestQueue.head?.bind ADBRequest.timer).isSome then some s.giveUp else none
  | .ended i => (s.sockets[i]?.filter fun c => !c.destroyed).map fun _ => s.destroy i
  | .error i => (s.sockets[i]?.filter fun c => !c.closed).map fun _ => s.onError i
  | .close i => (s.sockets[i]?.filter fun c => c.destroyed && !c.closed).map fun _ => s.onClose i

/-- Calls, bytes, timers and the ends of connections, in any order. -/
def system : Lts ADBRequests Event := .ofNext next

/-! ### What the parts do -/

variable {s s' : ADBRequests}

theorem alive_eq_some {i : Nat} (h : s.alive = some i) :
    s.connection = some i ∧ ∃ c, s.sockets[i]? = some c ∧ c.destroyed = false := by
  obtain ⟨hconnection, hany⟩ := Option.filter_eq_some_iff.1 h
  obtain ⟨c, hc, hdestroyed⟩ := (Option.any_eq_true _ _).1 hany
  exact ⟨hconnection, c, hc, by simpa using hdestroyed⟩

theorem alive_of_modify {i : Nat} {f : ADBSocket → ADBSocket}
    (hf : ∀ c, (f c).destroyed = c.destroyed) (hconnection : s'.connection = s.connection)
    (hsockets : s'.sockets = s.sockets.modify i f) : s'.alive = s.alive := by
  unfold alive
  rw [hconnection, hsockets]
  refine congrArg (fun p => s.connection.filter p) (funext fun j => ?_)
  rw [List.getElem?_modify]
  cases s.sockets[j]? with
  | none => rfl
  | some c => by_cases hij : i = j <;> simp [hij, hf]

theorem alive_modifySocket {i : Nat} {f : ADBSocket → ADBSocket}
    (hf : ∀ c, (f c).destroyed = c.destroyed) : (s.modifySocket i f).alive = s.alive :=
  alive_of_modify hf rfl rfl

theorem head?_eq {request : ADBRequest} {others : List ADBRequest}
    (hqueue : s.requestQueue = request :: others) : s.requestQueue.head? = some request := by
  rw [hqueue]
  rfl

theorem tail_eq {request : ADBRequest} {others : List ADBRequest}
    (hqueue : s.requestQueue = request :: others) : s.requestQueue.tail = others := by
  rw [hqueue]
  rfl

theorem requestQueue_push {request : ADBRequest} {others : List ADBRequest}
    (hqueue : s.requestQueue = request :: others) (call : ADBCall) (kind : RequestKind) :
    (s.push call kind).requestQueue = request :: (others ++ [⟨call, kind, none, none⟩]) := by
  unfold push
  rw [hqueue]
  rfl

theorem head?_push {request : ADBRequest} {others : List ADBRequest}
    (hqueue : s.requestQueue = request :: others) (call : ADBCall) (kind : RequestKind) :
    (s.push call kind).requestQueue.head? = s.requestQueue.head? := by
  rw [requestQueue_push hqueue, hqueue]
  rfl

theorem processNextRequest_cases (s : ADBRequests) :
    s.processNextRequest = s ∨ ∃ request others i, s.requestQueue = request :: others ∧
      request.timer = none ∧ s.alive = some i ∧
      s.processNextRequest = s.write request others i := by
  unfold processNextRequest
  split
  · rename_i request others i hqueue halive
    split
    · exact .inl rfl
    · rename_i htimer
      exact .inr ⟨request, others, i, hqueue, by simpa using htimer, halive, rfl⟩
  · exact .inl rfl

theorem closeConnectionAfterTransport_cases (s : ADBRequests) :
    s.closeConnectionAfterTransport = s ∧ s.alive = none ∨ ∃ i, s.alive = some i ∧
      s.closeConnectionAfterTransport = { s with
        connection := none
        sockets := s.sockets.modify i fun c => { c with destroyed := true } } := by
  unfold closeConnectionAfterTransport
  split
  · rename_i hnone
    exact .inl ⟨rfl, hnone⟩
  · rename_i i halive
    exact .inr ⟨i, halive, rfl⟩

/-- The connection on which the first request is in flight. -/
def inFlight (s : ADBRequests) : Option Nat := s.requestQueue.head?.bind ADBRequest.timer

theorem abandon_of_none (h : s.inFlight = none) : s.abandon = s := by
  unfold abandon
  rw [show s.requestQueue.head?.bind ADBRequest.timer = none from h]

theorem abandon_of_some {i : Nat} (h : s.inFlight = some i) :
    s.abandon = s.modifySocket i fun c => { c with abandoned := true } := by
  unfold abandon
  rw [show s.requestQueue.head?.bind ADBRequest.timer = some i from h]

/-! ### The bytes that have not been read -/

/-- What is left of the bytes of the connection `i` after a reading. -/
def setBuffer (s : ADBRequests) (i : Nat) (rest : Bytes) : ADBRequests :=
  s.modifySocket i fun c => { c with responseBuffer := rest }

theorem modify_comm {α : Type} {f g : α → α} (h : ∀ a, f (g a) = g (f a)) (l : List α) (i j : Nat) :
    (l.modify i f).modify j g = (l.modify j g).modify i f := by
  by_cases hij : i = j
  · subst hij
    rw [List.modify_modify_eq, List.modify_modify_eq]
    exact congrArg (fun h => l.modify i h) (funext fun a => (h a).symm)
  · exact List.modify_modify_ne f g l hij

theorem alive_setBuffer (i : Nat) (rest : Bytes) : (s.setBuffer i rest).alive = s.alive :=
  alive_modifySocket fun _ => rfl

/-- The bytes that are left do not matter to the next request. -/
theorem processNextRequest_setBuffer (i : Nat) (rest : Bytes) :
    (s.setBuffer i rest).processNextRequest = s.processNextRequest.setBuffer i rest := by
  have hwrite : ∀ request others j, (s.setBuffer i rest).write request others j =
      (s.write request others j).setBuffer i rest := by
    intro request others j
    unfold write setBuffer modifySocket
    dsimp only
    rw [modify_comm]
    exact fun _ => rfl
  unfold processNextRequest
  rw [alive_setBuffer, show (s.setBuffer i rest).requestQueue = s.requestQueue from rfl]
  rcases s.requestQueue with _ | ⟨request, others⟩
  · rfl
  · rcases s.alive with _ | j
    · rfl
    · dsimp only
      rw [hwrite]
      split <;> rfl

theorem closeConnectionAfterTransport_setBuffer (i : Nat) (rest : Bytes) :
    (s.setBuffer i rest).closeConnectionAfterTransport =
      s.closeConnectionAfterTransport.setBuffer i rest := by
  unfold closeConnectionAfterTransport
  rw [alive_setBuffer]
  rcases s.alive with _ | j
  · rfl
  · unfold setBuffer modifySocket
    dsimp only
    rw [modify_comm]
    exact fun _ => rfl

end ADBRequests

end DeviceHub

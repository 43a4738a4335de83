import DeviceHub.Async.Promise

/-!
# `util/zmqutil.js`

The wrapper of a socket.  `send` chains a promise for each message to the promise of the message
before; `close` waits for the promise that is the last one then.

## Main definitions

* `zmqutil.frames` : the frames of a message, as `sendAsync` hands them to the socket.
* `zmqutil.SocketWrapper`, `zmqutil.system` : the wrapper, and what can happen to it.

## Main results

* `zmqutil.handed_iff` : every message is handed over exactly when no message but the last fails.
* `zmqutil.settled_of_closed` : the socket is closed after the sends that `close` has found.
* `zmqutil.not_handed_of_rejection` : a failure after which nothing is handed over.
-/

namespace DeviceHub

namespace zmqutil

/-- A part of a message: a buffer, or another value, with what `String` makes of it unless it
throws. -/
inductive Arg where
  | buffer (bytes : List UInt8)
  | other (string : Option String)
  deriving DecidableEq

/-- What `send` is called with: an array or a single value. -/
inductive Args where
  | many (args : List Arg)
  | one (arg : Arg)
  deriving DecidableEq

/-- `Buffer.isBuffer(arg) || ArrayBuffer.isView(arg) ? arg : Buffer.from(String(arg))`. -/
def frame : Arg → Option (List UInt8)
  | .buffer bytes => some bytes
  | .other string => string.map fun s => s.toUTF8.toList

/-- The frames of a message. -/
def frames : Args → Option (List (List UInt8))
  | .many args => args.mapM frame
  | .one arg => (frame arg).map fun f => [f]

/-- The class `SocketWrapper`, with the promises of its send queue and the calls of
`socket.send`. -/
structure SocketWrapper where
  isActive : Bool
  sends : Chain Args (List (List UInt8))
  /-- For each `close` that waits: the number of the promises it waits for. -/
  draining : List Nat
  /-- `socket.close` has been called. -/
  closed : Bool

namespace SocketWrapper

/-- A new socket. -/
def new : SocketWrapper := ⟨true, .empty, [], false⟩

end SocketWrapper

/-- What can happen to the socket. -/
inductive Event where
  /-- A call of `send`, a callback that runs, or a call of `socket.send` that ends. -/
  | sending (event : Chain.Event Args)
  /-- A call of `close`. -/
  | close
  /-- `close` has closed the iterator and waits for the send queue. -/
  | drain
  /-- The queue has drained. -/
  | closeSocket

/-- A call of `send`. -/
def send (args : Args) : Event := .sending (.chain args)

/-- The wrapper of a socket whose calls of `send` reject that `fails` says. -/
def system (fails : Nat → Bool) : Lts SocketWrapper Event where
  step w event w' :=
    match event with
    | .sending event => (Chain.system frames fails).step w.sends event w'.sends ∧
        w' = { w with sends := w'.sends }
    | .close => w' = { w with isActive := false }
    | .drain => w.isActive = false ∧
        w' = { w with draining := w.draining ++ [w.sends.promises.length] }
    | .closeSocket => ∃ n ∈ w.draining,
        (∀ p ∈ (w.sends.promises.take n).getLast?, p.state = .fulfilled ∨ p.state = .rejected) ∧
          w' = { w with closed := true }

/-- What happens to the send queue. -/
def sending : List Event → List (Chain.Event Args) :=
  List.filterMap fun
    | .sending event => some event
    | _ => none

/-- The messages of the calls of `send`. -/
def messages (events : List Event) : List Args := Chain.tasks (sending events)

variable {fails : Nat → Bool} {w w' : SocketWrapper} {events : List Event}

theorem sends_of_run (hrun : (system fails).Run w events w') :
    (Chain.system frames fails).Run w.sends (sending events) w'.sends := by
  induction hrun with
  | done w => exact .done _
  | @more w t w' event events hstep _ ih =>
    cases event with
    | sending event => exact .more hstep.1 ih
    | close =>
      obtain rfl : t = _ := hstep
      exact ih
    | drain =>
      obtain ⟨-, rfl⟩ := hstep
      exact ih
    | closeSocket =>
      obtain ⟨n, -, -, rfl⟩ := hstep
      exact ih

/-- **Every message is handed to the socket, once and in order, exactly when none but the last one
fails** and all of them can be turned into frames. -/
theorem handed_iff (hrun : (system fails).Run .new events w) (hfinished : w.sends.Finished) :
    w.sends.called.map some = (messages events).map frames ↔
      ∀ i (h : i < (messages events).length), (frames (messages events)[i]).isSome ∧
        (i + 1 < (messages events).length → fails i = false) := by
  rw [Chain.called_of_run (sends_of_run hrun) hfinished, show Chain.tasks (sending events) =
    messages events from rfl, Chain.passed_eq_iff]
  simp only [Nat.zero_add]

/-- The socket is closed after all sends that `close` has found are settled. -/
theorem settled_of_closed (hrun : (system fails).Run .new events w)
    (hclose : (system fails).step w .closeSocket w') :
    ∃ n ∈ w.draining, ∀ p ∈ w.sends.promises.take n, p.state = .fulfilled ∨ p.state = .rejected := by
  obtain ⟨n, hn, hlast, -⟩ := hclose
  refine ⟨n, hn, ?_⟩
  obtain ⟨hprogress, -⟩ := Chain.progress_of_run (.waiting fun p hp => (by cases hp))
    (sends_of_run hrun)
  cases hq : (w.sends.promises.take n).getLast? with
  | none =>
    rw [List.getLast?_eq_none_iff.1 hq]
    simp
  | some p =>
    have hp := hlast p hq
    obtain ⟨before, hbefore⟩ := List.getLast?_eq_some_iff.1 hq
    have hsplit : w.sends.promises = before ++ p :: w.sends.promises.drop n := by
      have hall := List.take_append_drop n w.sends.promises
      rw [hbefore, List.append_assoc] at hall
      exact hall.symm
    rw [hbefore]
    intro p' hp'
    rcases List.mem_append.1 hp' with hp' | hp'
    · exact hprogress.settled hsplit hp p' hp'
    · rwa [List.mem_singleton.1 hp']

/-- A wrapper in use. -/
def SocketWrapper.inUse (promises : List (Chained Args)) (handed : List (List (List UInt8))) :
    SocketWrapper :=
  ⟨true, ⟨promises, handed⟩, [], false⟩

/-- The arguments of a call. -/
def first : Args := .one (.buffer [1])

/-- The arguments of another call. -/
def second : Args := .many [.buffer [2], .buffer []]

/-- Two messages, the second one sent while the call of the first is under way; its call fails. -/
theorem handed_of_last : ∃ events w, (system (· == 1)).Run .new events w ∧ w.sends.Finished ∧
    messages events = [first, second] ∧ w.sends.called.map some = (messages events).map frames := by
  have hrun : (system (· == 1)).Run .new
      [send first, .sending .react, send second, .sending .settle, .sending .react,
        .sending .settle]
      (.inUse [⟨first, .fulfilled⟩, ⟨second, .rejected⟩] [[[1]], [[2], []]]) := by
    refine .more (t := .inUse [⟨first, .waiting⟩] []) ?_
      (.more (t := .inUse [⟨first, .running⟩] [[[1]]]) ?_
      (.more (t := .inUse [⟨first, .running⟩, ⟨second, .waiting⟩] [[[1]]]) ?_
      (.more (t := .inUse [⟨first, .fulfilled⟩, ⟨second, .waiting⟩] [[[1]]]) ?_
      (.more (t := .inUse [⟨first, .fulfilled⟩, ⟨second, .running⟩] [[[1]], [[2], []]]) ?_
      (.more (t := .inUse [⟨first, .fulfilled⟩, ⟨second, .rejected⟩] [[[1]], [[2], []]]) ?_
        (.done _))))))
    · exact ⟨rfl, rfl⟩
    · exact ⟨⟨some [[1]], .call rfl, rfl⟩, rfl⟩
    · exact ⟨rfl, rfl⟩
    · exact ⟨⟨.here, rfl⟩, rfl⟩
    · exact ⟨⟨some [[2], []], .later (.call rfl), rfl⟩, rfl⟩
    · exact ⟨⟨.later .here, rfl⟩, rfl⟩
  exact ⟨_, _, hrun, by decide, rfl, (handed_iff hrun (by decide)).2 (by decide)⟩

/-- The call of the first message fails: the second one is never handed over. -/
theorem not_handed_of_rejection : ∃ events w, (system (· == 0)).Run .new events w ∧
    w.sends.Finished ∧ messages events = [first, second] ∧ w.sends.called = [[[1]]] ∧
      w.sends.called.map some ≠ (messages events).map frames := by
  have hrun : (system (· == 0)).Run .new
      [send first, .sending .react, send second, .sending .settle, .sending .react]
      (.inUse [⟨first, .rejected⟩, ⟨second, .rejected⟩] [[[1]]]) := by
    refine .more (t := .inUse [⟨first, .waiting⟩] []) ?_
      (.more (t := .inUse [⟨first, .running⟩] [[[1]]]) ?_
      (.more (t := .inUse [⟨first, .running⟩, ⟨second, .waiting⟩] [[[1]]]) ?_
      (.more (t := .inUse [⟨first, .rejected⟩, ⟨second, .waiting⟩] [[[1]]]) ?_
      (.more (t := .inUse [⟨first, .rejected⟩, ⟨second, .rejected⟩] [[[1]]]) ?_ (.done _)))))
    · exact ⟨rfl, rfl⟩
    · exact ⟨⟨some [[1]], .call rfl, rfl⟩, rfl⟩
    · exact ⟨rfl, rfl⟩
    · exact ⟨⟨.here, rfl⟩, rfl⟩
    · exact ⟨⟨none, .later .skip, rfl⟩, rfl⟩
  exact ⟨_, _, hrun, by decide, rfl, rfl, by decide⟩

end zmqutil

end DeviceHub

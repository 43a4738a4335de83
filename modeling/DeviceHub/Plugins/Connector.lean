import DeviceHub.Async.Lts
import DeviceHub.Async.Order

/-!
# `units/base-device/support/connector.js` and `units/device/plugins/connect.ts`

The remote debugging of an Android device.  A start stops the server of an earlier start only if
that has come to its end, and the variable `activeServer` has the server that was created last; a
stop that has waited for its server to be closed sets the variable to `null`, whatever it is then.

## Main definitions

* `Bridge`, `Connector` : the servers, the variables, and the calls that wait.
* `Connector.start`, `Connector.stop`, `Connector.goOn` : what the calls do between their awaits.
* `Connector.OneBridge` : one server at most, and none at all after a stop.
* `Connector.Orderly` : the condition on a step.
* `Connector.Kept` : what holds in the runs whose steps all meet the condition.

## Main results

* `Connector.oneBridge_of_run` : in such a run there is one server at most, and none after a stop.
* `Connector.not_oneBridge_of_two_starts` : a server is left after a stop.
-/

namespace DeviceHub

/-- A server that `handlers.start` has created: whether it listens, whether it was told to close,
and whether it has been closed. -/
structure Bridge where
  listening : Bool
  ended : Bool
  closed : Bool
  deriving DecidableEq

/-- `activeServer.end()` and `activeServer.close()` -/
def Bridge.close (b : Bridge) : Bridge := { b with listening := false, ended := true }

/-- What a call waits for: the event `close` of a server, in `handlers.stop`; the ends of
`handlers.stop` and of `handlers.start`; and in `start` the database, and the device. -/
inductive ConnectStage where
  | closing (server : Nat)
  | stopped
  | opening
  | connecting
  | loading
  deriving DecidableEq

/-- A call of `start` or of `stop`. -/
structure ConnectCall where
  starts : Bool
  stage : ConnectStage
  deriving DecidableEq

/-- What `connector.init` is given, with the `url` of the plugin. -/
structure ConnectorInitOptions where
  storageUrl : Option String
  urlWithoutAdbPort : Bool
  url : String

namespace ConnectorInitOptions

/-- The url for a device; there is none where the storage url has no host, and `start` throws. -/
def deviceUrl (o : ConnectorInitOptions) (url : Option String) (adbPort : Option Nat) :
    Option (Option String) :=
  match adbPort.filter (· ≠ 0), o.storageUrl.filter (· ≠ "") with
  | some port, some storageUrl =>
    ((storageUrl.splitOn "/")[2]?.bind fun host => (host.splitOn ":")[0]?).map fun host =>
      some (host ++ ":" ++ toString port)
  | _, _ => some (if o.urlWithoutAdbPort then url else some "unavailable. Contact administrator")

end ConnectorInitOptions

/-- The servers in the order of their creation, the variables of the two modules, and the calls that
wait; `left` says that the last message was a stop, or the device was left. -/
structure Connector where
  servers : List Bridge
  activeServer : Option Nat
  started : Bool
  url : Option String
  calls : List ConnectCall
  left : Bool

namespace Connector

/-- A new plugin. -/
def new : Connector := ⟨[], none, false, none, [], false⟩

/-! ### The handlers -/

/-- There is one port, on which one server can listen. -/
def handlersStart (s : Connector) : Connector :=
  { s with
    servers := s.servers ++ [⟨!s.servers.any Bridge.listening, false, false⟩]
    activeServer := some s.servers.length }

/-- Up to its await, for a call of `start` or `stop`. -/
def handlersStop (s : Connector) (starts : Bool) : Connector :=
  match s.activeServer with
  | none => { s with calls := s.calls ++ [⟨starts, .stopped⟩] }
  | some i =>
    { s with
      servers := s.servers.modify i Bridge.close
      calls := s.calls ++ [⟨starts, .closing i⟩] }

/-! ### The calls -/

/-- `start`: the handlers of a plugin that is started already are stopped first. -/
def start (s : Connector) : Connector :=
  if s.started then s.handlersStop true
  else { s.handlersStart with calls := s.calls ++ [⟨true, .opening⟩] }

/-- `getUrl`: the plugin is started unless it has a forward. -/
def getUrl (s : Connector) : Connector :=
  if s.started ∧ s.url.any (· ≠ "") then s else s.start

/-- `stop` -/
def stop (s : Connector) : Connector := s.handlersStop false

/-- A call goes on to another stage. -/
def setStage (s : Connector) (k : Nat) (stage : ConnectStage) : Connector :=
  { s with calls := s.calls.modify k fun c => { c with stage := stage } }

/-- A call has ended. -/
def finish (s : Connector) (k : Nat) : Connector := { s with calls := s.calls.eraseIdx k }

/-- The call number `k` goes on after its await, until the next. -/
def goOn (o : ConnectorInitOptions) (s : Connector) (k : Nat) (c : ConnectCall) : Connector :=
  match c.stage with
  | .closing _ => { s with activeServer := none }.setStage k .stopped
  | .stopped =>
    if c.starts then s.handlersStart.setStage k .opening
    else { s with started := false }.finish k
  | .opening => { s with url := some o.url }.setStage k .connecting
  | .connecting => s.setStage k .loading
  | .loading => s

/-- The device is loaded. -/
def loaded (o : ConnectorInitOptions) (s : Connector) (k : Nat) (adbPort : Option Nat) : Connector :=
  match o.deviceUrl s.url adbPort with
  | none => s.finish k
  | some url => { s with url := url, started := true }.finish k

/-! ### Runs -/

/-- What can happen to the plugin. -/
inductive Event where
  | connectStart
  | connectGetForwardUrl
  | connectStop
  | leave
  | close (i : Nat)
  | goOn (k : Nat)
  | loaded (k : Nat) (adbPort : Option Nat)
  | failed (k : Nat)

/-- A server is closed that was told to; a call goes on when what it waits for has happened; and the
database may fail, or have no device. -/
def next (o : ConnectorInitOptions) (s : Connector) : Event → Option Connector
  | .connectStart => some { s.start with left := false }
  | .connectGetForwardUrl => some { s.getUrl with left := false }
  | .connectStop | .leave => some { s.stop with left := true }
  | .close i => (s.servers[i]?.filter fun b => b.ended && !b.closed).map fun _ =>
      { s with servers := s.servers.modify i fun b => { b with closed := true } }
  | .goOn k => (s.calls[k]?.filter fun c =>
      match c.stage with
      | .closing i => s.servers[i]?.any Bridge.closed
      | .loading => false
      | _ => true).map (s.goOn o k)
  | .loaded k adbPort => (s.calls[k]?.filter fun c => c.starts && c.stage = .loading).map fun _ =>
      s.loaded o k adbPort
  | .failed k => (s.calls[k]?.filter fun c =>
      c.starts && (c.stage = .connecting || c.stage = .loading)).map fun _ => s.finish k

/-- The messages, and the steps of the calls and of the servers, in any order. -/
def system (o : ConnectorInitOptions) : Lts Connector Event := .ofNext (next o)

/-- The server number `i` was created, and has not been closed. -/
def Open (s : Connector) (i : Nat) : Prop := ∃ b ∈ s.servers[i]?, b.closed = false

/-- One server at most is open; and none is, and `started` is false, when the last message was a
stop and nothing is under way. -/
def OneBridge (s : Connector) : Prop :=
  (∀ i j, s.Open i → s.Open j → i = j) ∧
  (s.left = true → s.calls = [] → (∀ i, ¬s.Open i) ∧ s.started = false)

/-- The condition.  A server is created only when there is no active one, and not for a start that
was called before a stop; a call that has waited for its server to be closed finds no other active;
and a start comes to its end after a stop only while that waits. -/
def Orderly (o : ConnectorInitOptions) (s : Connector) : Event → Prop
  | .connectStart => s.started = false → s.activeServer = none
  | .connectGetForwardUrl => s.started = false → s.activeServer = none
  | .goOn k => ∀ c ∈ s.calls[k]?,
    match c.stage with
    | .closing i => ∀ j ∈ s.activeServer, i = j
    | .stopped => c.starts = true → s.activeServer = none ∧ s.left = false
    | _ => True
  | .loaded _ adbPort => (o.deviceUrl s.url adbPort).isSome → s.left = true →
      ∃ c ∈ s.calls, c.starts = false
  | _ => True

instance (o : ConnectorInitOptions) (s : Connector) (event : Event) :
    Decidable (s.Orderly o event) := by
  unfold Orderly
  split
  · infer_instance
  · infer_instance
  · have hstage : ∀ c : ConnectCall, Decidable (match c.stage with
        | .closing i => ∀ j ∈ s.activeServer, i = j
        | .stopped => c.starts = true → s.activeServer = none ∧ s.left = false
        | _ => True) := fun c => by split <;> infer_instance
    infer_instance
  · infer_instance
  · infer_instance

/-! ### Servers and calls -/

variable {o : ConnectorInitOptions} {s s' : Connector} {i k : Nat} {c c' : ConnectCall}

theorem open_of_modify {f : Bridge → Bridge} {j : Nat}
    (hservers : s'.servers = s.servers.modify j f) (hf : ∀ b, (f b).closed = false → b.closed = false)
    (hopen : s'.Open i) : s.Open i := by
  obtain ⟨b, hb, hclosed⟩ := hopen
  rw [hservers] at hb
  obtain ⟨b₀, hb₀, ⟨-, rfl⟩ | ⟨-, rfl⟩⟩ := getElem?_modify_eq_some hb
  · exact ⟨b₀, hb₀, hf b₀ hclosed⟩
  · exact ⟨b, hb₀, hclosed⟩

theorem open_handlersStart (hopen : s.handlersStart.Open i) :
    s.Open i ∨ i = s.servers.length := by
  obtain ⟨b, hb, hclosed⟩ := hopen
  rcases getElem?_concat_eq_some.1 hb with hold | ⟨hnew, -⟩
  · exact .inl ⟨b, hold, hclosed⟩
  · exact .inr hnew

theorem open_handlersStop {starts : Bool} (hopen : (s.handlersStop starts).Open i) : s.Open i := by
  unfold handlersStop at hopen
  split at hopen
  · exact hopen
  · exact open_of_modify (f := Bridge.close) rfl (fun _ => id) hopen

theorem mem_finish (hk : s.calls[k]? = some c) (hne : c' ≠ c) (hc' : c' ∈ s.calls) :
    c' ∈ (s.finish k).calls := by
  obtain ⟨j, hj⟩ := List.mem_iff_getElem?.1 hc'
  refine List.mem_eraseIdx_iff_getElem?.2 ⟨j, ?_, hj⟩
  rintro rfl
  exact hne (Option.some.inj (hj.symm.trans hk))

theorem mem_setStage (hk : s.calls[k]? = some c) (hne : c' ≠ c) (hc' : c' ∈ s.calls)
    (stage : ConnectStage) : c' ∈ (s.setStage k stage).calls := by
  obtain ⟨j, hj⟩ := List.mem_iff_getElem?.1 hc'
  have hkj : k ≠ j := by
    rintro rfl
    exact hne (Option.some.inj (hj.symm.trans hk))
  have hsame := getElem?_modify_of_eq_some hj (fun c => { c with stage := stage }) (i := k)
  rw [if_neg hkj] at hsame
  exact List.mem_of_getElem? hsame

theorem exists_stop_setStage (h : ∃ c ∈ s.calls, c.starts = false) (k : Nat)
    (stage : ConnectStage) : ∃ c ∈ (s.setStage k stage).calls, c.starts = false := by
  obtain ⟨c, hc, hstop⟩ := h
  have hmem : c.starts ∈ (s.setStage k stage).calls.map ConnectCall.starts := by
    rw [show (s.setStage k stage).calls.map ConnectCall.starts = s.calls.map ConnectCall.starts from
      map_modify_of_eq (f := fun c => { c with stage := stage }) (fun _ => rfl) s.calls k]
    exact List.mem_map_of_mem hc
  obtain ⟨c', hc', hsame⟩ := List.mem_map.1 hmem
  exact ⟨c', hc', hsame.trans hstop⟩

/-! ### The invariant -/

/-- The server that is open is the active one.  After a stop a call waits for it to be closed, and
as long as `started` is true the stop itself waits. -/
structure Kept (s : Connector) : Prop where
  active : ∀ i, s.Open i → s.activeServer = some i
  closing : s.left = true → ∀ i, s.Open i → ∃ c ∈ s.calls, c.stage = .closing i
  stopping : s.left = true → s.started = true → ∃ c ∈ s.calls, c.starts = false

theorem kept_new : new.Kept where
  active i hopen := by
    obtain ⟨b, hb, -⟩ := hopen
    cases hb
  closing hleft := by cases hleft
  stopping hleft := by cases hleft

theorem Kept.oneBridge (h : s.Kept) : s.OneBridge := by
  refine ⟨fun i j hi hj => Option.some.inj ((h.active i hi).symm.trans (h.active j hj)),
    fun hleft hcalls => ⟨fun i hi => ?_, ?_⟩⟩
  · obtain ⟨c, hc, -⟩ := h.closing hleft i hi
    rw [hcalls] at hc
    cases hc
  · by_contra hstarted
    rw [Bool.not_eq_false] at hstarted
    obtain ⟨c, hc, -⟩ := h.stopping hleft hstarted
    rw [hcalls] at hc
    cases hc

theorem Kept.handlersStart (h : s.Kept) (hactive : s.activeServer = none)
    (calls : List ConnectCall) : { s.handlersStart with calls := calls, left := false }.Kept := by
  refine ⟨fun i hopen => ?_, fun hleft => (by cases hleft), fun hleft => (by cases hleft)⟩
  rcases open_handlersStart hopen with hold | rfl
  · have hsame := h.active i hold
    rw [hactive] at hsame
    cases hsame
  · rfl

theorem Kept.handlersStop (h : s.Kept) (starts : Bool) :
    { s.handlersStop starts with left := false }.Kept := by
  refine ⟨fun i hopen => ?_, fun hleft => (by cases hleft), fun hleft => (by cases hleft)⟩
  have hsame : (s.handlersStop starts).activeServer = s.activeServer := by
    unfold Connector.handlersStop
    split <;> rfl
  exact hsame.trans (h.active i (open_handlersStop hopen))

theorem Kept.start (h : s.Kept) (hactive : s.started = false → s.activeServer = none) :
    { s.start with left := false }.Kept := by
  unfold Connector.start
  split
  · exact h.handlersStop true
  · rename_i hstarted
    exact h.handlersStart (hactive (by simpa using hstarted)) _

/-- **A stop** waits until the server that is open is closed. -/
theorem Kept.stop (h : s.Kept) : { s.stop with left := true }.Kept := by
  unfold Connector.stop Connector.handlersStop
  split
  · rename_i hnone
    have hopen : ∀ i, ¬s.Open i := by
      intro i hi
      have hsame := h.active i hi
      rw [hnone] at hsame
      cases hsame
    exact ⟨fun i hi => absurd hi (hopen i), fun _ i hi => absurd hi (hopen i),
      fun _ _ => ⟨_, List.mem_append_right _ (List.mem_singleton_self _), rfl⟩⟩
  · rename_i j hactive
    have hopen : ∀ {i}, Connector.Open { s with servers := s.servers.modify j Bridge.close } i →
        s.Open i := fun hi => open_of_modify (f := Bridge.close) rfl (fun _ => id) hi
    refine ⟨fun i hi => h.active i (hopen hi), fun _ i hi => ?_,
      fun _ _ => ⟨_, List.mem_append_right _ (List.mem_singleton_self _), rfl⟩⟩
    have hsame : i = j := Option.some.inj ((h.active i (hopen hi)).symm.trans hactive)
    exact ⟨_, List.mem_append_right _ (List.mem_singleton_self _), by rw [hsame]⟩

/-- The invariant of the variables, for a call that is on its way: the other calls wait as
before. -/
theorem Kept.setStage (h : s.Kept) (hk : s.calls[k]? = some c)
    (hclosing : ∀ i, c.stage = .closing i → ¬s.Open i) (stage : ConnectStage) :
    (s.setStage k stage).Kept where
  active := h.active
  closing hleft i hopen := by
    obtain ⟨c', hc', hstage⟩ := h.closing hleft i hopen
    have hne : c' ≠ c := by
      rintro rfl
      exact hclosing i hstage hopen
    exact ⟨c', mem_setStage hk hne hc' stage, hstage⟩
  stopping hleft hstarted := exists_stop_setStage (h.stopping hleft hstarted) k stage

theorem Kept.finish (h : s.Kept) (hk : s.calls[k]? = some c)
    (hclosing : ∀ i, c.stage = .closing i → ¬s.Open i)
    (hstopping : c.starts = false → s.started = false) : (s.finish k).Kept where
  active := h.active
  closing hleft i hopen := by
    obtain ⟨c', hc', hstage⟩ := h.closing hleft i hopen
    have hne : c' ≠ c := by
      rintro rfl
      exact hclosing i hstage hopen
    exact ⟨c', mem_finish hk hne hc', hstage⟩
  stopping hleft hstarted := by
    obtain ⟨c', hc', hstop⟩ := h.stopping hleft hstarted
    have hne : c' ≠ c := by
      rintro rfl
      rw [show (s.finish k).started = false from hstopping hstop] at hstarted
      cases hstarted
    exact ⟨c', mem_finish hk hne hc', hstop⟩

/-- **A call goes on**, in order. -/
theorem Kept.goOn (h : s.Kept) (hk : s.calls[k]? = some c)
    (hclosed : ∀ i, c.stage = .closing i → ¬s.Open i) (horderly : s.Orderly o (.goOn k)) :
    (s.goOn o k c).Kept := by
  have horder := horderly c hk
  unfold Connector.goOn
  split
  · rename_i i hstage
    rw [hstage] at horder
    -- what is open is the server that the call has waited for, and that is closed
    have hnone : ∀ j, ¬s.Open j := by
      intro j hj
      obtain rfl := horder j (h.active j hj)
      exact hclosed i hstage hj
    have hcleared : { s with activeServer := none }.Kept :=
      ⟨fun j hj => absurd hj (hnone j), fun hleft j hj => h.closing hleft j hj, h.stopping⟩
    exact hcleared.setStage hk hclosed .stopped
  · rename_i hstage
    rw [hstage] at horder
    split
    · rename_i hstarts
      obtain ⟨hactive, hleft⟩ := horder hstarts
      -- the way is free for a server
      have hkept := h.handlersStart hactive (s.setStage k .opening).calls
      have hsame : s.handlersStart.setStage k .opening =
          { s.handlersStart with calls := (s.setStage k .opening).calls, left := false } := by
        rw [← hleft]
        rfl
      exact hsame ▸ hkept
    · rename_i hstarts
      -- the stop has come to its end
      have hstopped : { s with started := false }.Kept :=
        ⟨h.active, h.closing, fun _ hstarted => (by cases hstarted)⟩
      refine hstopped.finish hk (fun i hclosing => ?_) fun _ => rfl
      rw [hstage] at hclosing
      cases hclosing
  · have hurl : { s with url := some o.url }.Kept := ⟨h.active, h.closing, h.stopping⟩
    exact hurl.setStage hk hclosed .connecting
  · exact h.setStage hk hclosed .loading
  · exact h

/-- A start comes to its end. -/
theorem Kept.loaded (h : s.Kept) (hk : s.calls[k]? = some c) (hstage : c.stage = .loading)
    (hstarts : c.starts = true) {adbPort : Option Nat} (horderly : s.Orderly o (.loaded k adbPort)) :
    (s.loaded o k adbPort).Kept := by
  have hclosing : ∀ i, c.stage = .closing i → ¬s.Open i := by
    intro i hclosing
    rw [hstage] at hclosing
    cases hclosing
  have hstopping : c.starts = false → ∀ b : Bool, b = false := by
    intro hstop
    rw [hstarts] at hstop
    cases hstop
  unfold Connector.loaded
  split
  · exact h.finish hk hclosing fun hstop => hstopping hstop _
  · rename_i url hurl
    -- the URL is known, so that `started` is set
    have hstarted : { s with url := url, started := true }.Kept :=
      ⟨h.active, h.closing, fun hleft _ => horderly (by rw [hurl]; rfl) hleft⟩
    exact hstarted.finish hk hclosing fun hstop => hstopping hstop _

/-- Every step in order keeps the invariant. -/
theorem Kept.step (h : s.Kept) {event : Event} (hnext : s.next o event = some s')
    (horderly : s.Orderly o event) : s'.Kept := by
  cases event with
  | connectStart =>
    obtain rfl := Option.some.inj hnext
    exact h.start horderly
  | connectGetForwardUrl =>
    obtain rfl := Option.some.inj hnext
    unfold getUrl
    split
    · exact ⟨h.active, fun hleft => (by cases hleft), fun hleft => (by cases hleft)⟩
    · exact h.start horderly
  | connectStop | leave =>
    obtain rfl := Option.some.inj hnext
    exact h.stop
  | close j =>
    obtain ⟨b, -, rfl⟩ := Option.map_eq_some_iff.1 hnext
    have hopen : ∀ {i}, Connector.Open
        { s with servers := s.servers.modify j fun b => { b with closed := true } } i → s.Open i :=
      fun hi => open_of_modify (f := fun b => { b with closed := true }) rfl
        (fun b hb => by cases hb) hi
    exact ⟨fun i hi => h.active i (hopen hi), fun hleft i hi => h.closing hleft i (hopen hi),
      h.stopping⟩
  | goOn k =>
    obtain ⟨c, hc, rfl⟩ := Option.map_eq_some_iff.1 hnext
    obtain ⟨hk, hready⟩ := Option.filter_eq_some_iff.1 hc
    refine h.goOn hk (fun i hstage => ?_) horderly
    rintro ⟨b, hb, hopen⟩
    rw [hstage] at hready
    -- what the call waits for has happened
    have hclosed : b.closed = true := by
      obtain ⟨b', hb', hclosed⟩ := (Option.any_eq_true _ _).1 hready
      obtain rfl : b = b' := Option.some.inj (hb.symm.trans hb')
      exact hclosed
    rw [hopen] at hclosed
    cases hclosed
  | loaded k adbPort =>
    obtain ⟨c, hc, rfl⟩ := Option.map_eq_some_iff.1 hnext
    obtain ⟨hk, hready⟩ := Option.filter_eq_some_iff.1 hc
    obtain ⟨hstarts, hstage⟩ := (Bool.and_eq_true _ _).to_iff.1 hready
    exact h.loaded hk (of_decide_eq_true hstage) hstarts horderly
  | failed k =>
    obtain ⟨c, hc, rfl⟩ := Option.map_eq_some_iff.1 hnext
    obtain ⟨hk, hready⟩ := Option.filter_eq_some_iff.1 hc
    obtain ⟨hstarts, hstage⟩ := (Bool.and_eq_true _ _).to_iff.1 hready
    refine h.finish hk (fun i hclosing => ?_) fun hstop => ?_
    · rw [hclosing] at hstage
      cases hstage
    · rw [hstarts] at hstop
      cases hstop

/-! ### One server -/

/-- **One server at a time**, in every run whose steps are all in order: at most one server is open,
and when the last message is a stop, or the device was left, and nothing is under way, none is open
and `started` is false. -/
theorem oneBridge_of_run {events : List Event}
    (hrun : ((system o).restrict (Orderly o)).Run new events s) : s.OneBridge := by
  have hkept : s.Kept :=
    hrun.invariant (I := Kept) kept_new fun _ _ _ h hstep => h.step hstep.1 hstep.2
  exact hkept.oneBridge

/-- A start, another when the first has come to its end, and a stop. -/
theorem oneBridge_of_run_restarted :
    ∃ s : Connector, s.servers = [⟨false, true, true⟩, ⟨false, true, true⟩] ∧ s.calls = [] ∧
      s.started = false ∧ s.OneBridge := by
  obtain ⟨s, hrun, hs⟩ := Lts.exists_run_of_play (f := next ⟨none, true, "host:7401"⟩)
    (G := Orderly ⟨none, true, "host:7401"⟩) new
    [.connectStart, .goOn 0, .goOn 0, .loaded 0 none, .connectStart, .close 0, .goOn 0, .goOn 0,
      .goOn 0, .goOn 0, .loaded 0 none, .leave, .close 1, .goOn 0, .goOn 0]
    (fun s => decide (s.servers = [⟨false, true, true⟩, ⟨false, true, true⟩] ∧ s.calls = [] ∧
      s.started = false)) (by decide +kernel)
  obtain ⟨hservers, hcalls, hstarted⟩ := of_decide_eq_true hs
  exact ⟨s, hservers, hcalls, hstarted, oneBridge_of_run hrun⟩

/-- **A server is left after a stop**: a second start comes before the first has come to its end,
and the stop closes only the server of the second. -/
theorem not_oneBridge_of_two_starts :
    ∃ events s, (system ⟨none, true, "host:7401"⟩).Run new events s ∧
      s.servers = [⟨true, false, false⟩, ⟨false, true, true⟩] ∧ s.left = true ∧ s.calls = [] ∧
      ¬s.OneBridge := by
  obtain ⟨s, hrun, hs⟩ := Lts.exists_run_of_play (f := next ⟨none, true, "host:7401"⟩)
    (G := fun _ _ => True) new
    [.connectStart, .connectStart, .goOn 0, .goOn 0, .loaded 0 none, .goOn 0, .goOn 0,
      .loaded 0 none, .leave, .close 1, .goOn 0, .goOn 0]
    (fun s => decide (s.servers = [⟨true, false, false⟩, ⟨false, true, true⟩] ∧ s.left = true ∧
      s.calls = [])) (by decide +kernel)
  obtain ⟨hservers, hleft, hcalls⟩ := of_decide_eq_true hs
  refine ⟨_, s, hrun.of_restrict, hservers, hleft, hcalls, fun hone => ?_⟩
  have hnone := (hone.2 hleft hcalls).1 0
  exact hnone ⟨⟨true, false, false⟩, by rw [hservers]; rfl, rfl⟩

end Connector

end DeviceHub

import DeviceHub.BaseDevice.Listeners
import DeviceHub.Bytes.Hex
import Mathlib.Data.List.GetD

/-!
# `device/plugins/vnc/index.js`

Who gets in by VNC.  A client answers a challenge, and the plugin asks whose answer that is.  If it
is known the device is sent an automatic request to join the group of that user, and the plugin waits
for what the group plugin emits about it: a device that joins a group is taken to be somebody else's
unless the emission has the answer in it, and it has a list of keys there instead.

A client that was refused can try again: the server ends only its own side of the connection, and
goes on reading until the client ends the other side.

## Main definitions

* `VncPlugin`, `VncPlugin.react`, `VncPlugin.next` : the connections, what the listeners do, and the
  other events.
* `VncPlugin.system` : the plugin beside the group plugin.
* `VncPlugin.Admitted`, `VncPlugin.Pending` : the state of the authentications of a client.

## Main results

* `VncPlugin.admitted_iff_letsIn` : which requests let a client in.
* `VncPlugin.inUse_of_pointer` : a client that stops when the server ends its side touches a device
  that somebody uses only.
-/

namespace DeviceHub

namespace BaseDevice

/-- Why a client is refused. -/
inductive VncAuthError where
  | someoneElse
  | alreadyInUse
  | timeout
  deriving DecidableEq

/-- The message of the error. -/
def VncAuthError.message : VncAuthError → String
  | .someoneElse => "Someone else took the device"
  | .alreadyInUse => "Device is already in use"
  | .timeout => "operation timed out"

/-- The promise of `vncAuthHandler`. -/
inductive VncOutcome where
  | pending
  | resolved
  | rejected (error : VncAuthError)
  deriving DecidableEq

/-- A call of `vncAuthHandler`: the answer of the client, the time at which the promise times out,
and the promise. -/
structure VncAuthentication where
  response : Bytes
  due : ℕ
  outcome : VncOutcome := .pending
  deriving DecidableEq

/-- A connection, with all its authentications; `left` tells whether `groupLeaveListener` has called
`conn.end()`, and `closed` whether both sides have ended. -/
structure VncClient where
  auths : List VncAuthentication := []
  left : Bool := false
  closed : Bool := false
  deriving DecidableEq

/-- The message that asks whose answer it is. -/
structure JoinGroupByVncAuthResponseMessage where
  serial : String
  response : String
  currentGroup : Option String
  deriving DecidableEq

/-- The connections, the clock, what was pushed to the solo channel, and the connections of the
pointer events that reached the touch service. -/
structure VncPlugin where
  clients : List VncClient := []
  now : ℕ := 0
  pushed : List JoinGroupByVncAuthResponseMessage := []
  touched : List ℕ := []

/-- The events of the plugin itself. -/
inductive VncEvent where
  | connection
  /-- The client has answered the challenge, with 16 bytes. -/
  | auth (client : ℕ) (response : Bytes)
  /-- A `VncAuthResponsesUpdatedMessage` arrives. -/
  | updated
  /-- The timer of an authentication of the client. -/
  | timeout (client auth : ℕ)
  /-- The client has sent a pointer event. -/
  | pointer (client : ℕ)
  | close (client : ℕ)
  | tick (d : ℕ)

namespace VncAuthentication

/-- The promise is settled unless it is already. -/
def settle (outcome : VncOutcome) (a : VncAuthentication) : VncAuthentication :=
  if a.outcome = .pending then { a with outcome } else a

/-- `joinListener` and `autojoinListener`.  The second argument of a `join` is a list of keys, of
which `Buffer.from` makes a buffer with a byte for each key. -/
def react (toUint8 : String → UInt8) (a : VncAuthentication) : GroupEvent → VncAuthentication
  | .join _ keys => if a.response = keys.map toUint8 then a else a.settle (.rejected .someoneElse)
  | .autojoin identifier joined =>
    if a.response = Hex.decode identifier then
      a.settle (if joined then .resolved else .rejected .alreadyInUse)
    else a
  | .leave => a

end VncAuthentication

namespace VncClient

/-- `groupLeaveListener`, which is removed when the connection is closed. -/
def leave (c : VncClient) : VncClient := if c.closed then c else { c with left := true }

/-- The listeners of a connection and of its authentications. -/
def react (toUint8 : String → UInt8) (e : GroupEvent) (c : VncClient) : VncClient :=
  let c := { c with auths := c.auths.map (·.react toUint8 e) }
  match e with
  | .leave => c.leave
  | _ => c

/-- An authentication with this answer is under way. -/
def Pending (response : Bytes) (c : VncClient) : Prop :=
  ∃ a ∈ c.auths, a.response = response ∧ a.outcome = .pending

/-- The client has got in. -/
def Admitted (c : VncClient) : Prop := ∃ a ∈ c.auths, a.outcome = .resolved

instance (c : VncClient) : Decidable c.Admitted :=
  inferInstanceAs (Decidable (∃ a ∈ c.auths, a.outcome = .resolved))

/-- The server has not ended its side, and the connection is not closed. -/
def Live (c : VncClient) : Prop := c.left = false ∧ c.closed = false

end VncClient

namespace VncPlugin

section Model

variable (serial : String) (toUint8 : String → UInt8)

/-- What the listeners do when something is emitted. -/
def react (e : GroupEvent) (p : VncPlugin) : VncPlugin :=
  { p with clients := p.clients.map (·.react toUint8 e) }

/-- `notify`.  The promise of `group.get` is not one whose `catch` takes a class of errors: for a
device in no group the class is called as the handler, which throws, so that nothing is pushed and
the rejection that nobody handles ends the process. -/
def notify (current : Option GroupState) (response : Bytes) (p : VncPlugin) : VncPlugin :=
  match current with
  | some group => { p with pushed := p.pushed ++ [⟨serial, Hex.encode response, some group.group⟩] }
  | none => p

/-- The answers whose `notify` listens: all that there were, since `removeListener` is called with
the class of the old messages, for which the router has no listeners and so removes none. -/
def waiting (p : VncPlugin) : List Bytes := p.clients.flatMap fun c => c.auths.map (·.response)

/-- A connection changes. -/
def change (i : ℕ) (f : VncClient → Option VncClient) (p : VncPlugin) : Option VncPlugin :=
  ((p.clients[i]?).bind f).map fun c => { p with clients := p.clients.set i c }

/-- What an event does.  After a refusal the connection still takes an answer, and it may take two
when two reads were waiting; once the client is in it takes none. -/
def next (current : Option GroupState) (p : VncPlugin) : VncEvent → Option VncPlugin
  | .connection => some { p with clients := p.clients ++ [{}] }
  | .auth i response =>
    (p.change i fun c =>
      if response.length = 16 ∧ ¬c.Admitted ∧ c.closed = false then
        some { c with auths := c.auths ++ [⟨response, p.now + 5000, .pending⟩] }
      else none).map (notify serial current response)
  | .updated => some (p.waiting.foldl (fun p response => notify serial current response p) p)
  | .timeout i j =>
    p.change i fun c =>
      ((c.auths[j]?).filter fun a => a.outcome = .pending ∧ a.due ≤ p.now).map fun a =>
        { c with auths := c.auths.set j (a.settle (.rejected .timeout)) }
  | .pointer i =>
    ((p.clients[i]?).filter fun c => c.Admitted ∧ c.closed = false).map fun _ =>
      { p with touched := p.touched ++ [i] }
  | .close i => p.change i fun c => some { c with closed := true }
  | .tick d => some { p with now := p.now + d }

/-- The plugin beside the group plugin of the device. -/
def system (o : DeviceOptions) : Lts (Listener VncPlugin) (GroupManager.Event ⊕ VncEvent) :=
  Listener.system o (react toUint8) (next o.serial)

/-- The device and the plugin at the start. -/
def start : Listener VncPlugin := ⟨.new, {}⟩

end Model

/-- An authentication of a connection is under way, with this answer. -/
def Pending (p : VncPlugin) (i : ℕ) (response : Bytes) : Prop :=
  ∃ c, p.clients[i]? = some c ∧ c.Pending response

/-- The client has got in. -/
def Admitted (p : VncPlugin) (i : ℕ) : Prop := ∃ c, p.clients[i]? = some c ∧ c.Admitted

/-- An automatic request lets the client in: it has its answer, and does not make the device join a
group. -/
def LetsIn (s : Listener VncPlugin) (i : ℕ) (message : AutoGroupMessage) : Prop :=
  s.plugin.Pending i (Hex.decode message.identifier) ∧
    (s.device.currentGroup.isSome ∨ GroupManager.truthy message.owner = none)

end VncPlugin

/-! ### What the listeners do to an authentication -/

namespace VncAuthentication

variable {toUint8 : String → UInt8} {a : VncAuthentication} {e : GroupEvent} {es : List GroupEvent}

theorem settle_of_ne (h : a.outcome ≠ .pending) (outcome : VncOutcome) : a.settle outcome = a :=
  if_neg h

theorem react_of_ne (h : a.outcome ≠ .pending) (e : GroupEvent) : a.react toUint8 e = a := by
  cases e <;> simp [react, settle_of_ne h]

@[simp] theorem response_react : (a.react toUint8 e).response = a.response := by
  cases e <;> simp only [react, settle] <;> split <;> (try split) <;> rfl

theorem foldl_react_of_ne (h : a.outcome ≠ .pending) (es : List GroupEvent) :
    es.foldl (·.react toUint8) a = a := by
  induction es with
  | nil => rfl
  | cons e es ih => rw [List.foldl_cons, react_of_ne h, ih]

@[simp] theorem response_foldl_react (es : List GroupEvent) :
    (es.foldl (·.react toUint8) a).response = a.response := by
  induction es generalizing a with
  | nil => rfl
  | cons e es ih => rw [List.foldl_cons, ih, response_react]

/-- Only an automatic request resolves a promise. -/
theorem foldl_react_ne_resolved (hes : ∀ identifier joined, .autojoin identifier joined ∉ es)
    (h : a.outcome ≠ .resolved) : (es.foldl (·.react toUint8) a).outcome ≠ .resolved := by
  induction es generalizing a with
  | nil => exact h
  | cons e es ih =>
    refine ih (fun identifier joined he => hes identifier joined (List.mem_cons_of_mem _ he)) ?_
    cases e with
    | join group keys =>
      simp only [react, settle]
      split
      · exact h
      · split
        · intro hresolved
          cases hresolved
        · exact h
    | autojoin identifier joined => exact absurd List.mem_cons_self (hes identifier joined)
    | leave => exact h

theorem outcome_autojoin_iff (h : a.outcome ≠ .resolved) (identifier : String) :
    (a.react toUint8 (.autojoin identifier true)).outcome = .resolved ↔
      a.outcome = .pending ∧ a.response = Hex.decode identifier := by
  simp only [react, if_true]
  by_cases hresponse : a.response = Hex.decode identifier
  · rw [if_pos hresponse]
    by_cases hpending : a.outcome = .pending
    · simp [settle, hpending, hresponse]
    · simp [settle, hpending, h]
  · simp [hresponse, h]

/-- A device that joins a group without keys is somebody else's. -/
theorem outcome_entering_iff {o : DeviceOptions} {d : GroupManager} {owner : Option GroupState}
    {timeout : Option Nat} {now later : Int} (hlength : a.response.length = 16) :
    ((d.entering o owner timeout [] now later).foldl (·.react toUint8) a).outcome = .pending ↔
      a.outcome = .pending ∧
        (d.currentGroup.isSome ∨ GroupManager.truthy owner = none) := by
  have hne : a.response ≠ [] := by
    intro hnil
    simp [hnil] at hlength
  simp only [GroupManager.entering]
  cases hnew : GroupManager.truthy owner with
  | none => simp
  | some group =>
    cases hcurrent : d.currentGroup with
    | some current => simp
    | none =>
      -- the promise is settled at once, and what follows does not change that
      have hsettled : (a.react toUint8 (.join group [])).outcome ≠ .pending := by
        simp only [react, List.map_nil, if_neg hne, settle]
        split
        · simp
        · assumption
      simp only [List.foldl_cons, foldl_react_of_ne hsettled]
      simp [hsettled]

/-- What the events of the group plugin do to an authentication that is not resolved. -/
theorem resolved_emissions_iff {o : DeviceOptions} {d : GroupManager}
    (hlength : a.response.length = 16) (h : a.outcome ≠ .resolved) (event : GroupManager.Event) :
    ((d.emissions o event).foldl (·.react toUint8) a).outcome = .resolved ↔
      ∃ message now later, event = .autoGroupMessage message now later ∧
        a.outcome = .pending ∧ a.response = Hex.decode message.identifier ∧
        (d.currentGroup.isSome ∨ GroupManager.truthy message.owner = none) := by
  by_cases hauto : ∃ message now later, event = .autoGroupMessage message now later
  · obtain ⟨message, now, later, rfl⟩ := hauto
    simp only [GroupManager.emissions, List.foldl_append, List.foldl_cons, List.foldl_nil]
    rw [outcome_autojoin_iff, outcome_entering_iff hlength, response_foldl_react]
    swap
    · exact foldl_react_ne_resolved (fun _ _ => GroupManager.autojoin_notMem_entering) h
    constructor
    · rintro ⟨⟨hpending, hgroup⟩, hresponse⟩
      exact ⟨message, now, later, rfl, hpending, hresponse, hgroup⟩
    · rintro ⟨message', now', later', heq, hpending, hresponse, hgroup⟩
      cases heq
      exact ⟨⟨hpending, hgroup⟩, hresponse⟩
  · have hother : ∀ message now later, event ≠ .autoGroupMessage message now later := by
      intro message now later heq
      exact hauto ⟨message, now, later, heq⟩
    refine iff_of_false (foldl_react_ne_resolved ?_ h) ?_
    · exact fun identifier joined => GroupManager.autojoin_notMem_emissions hother
    · rintro ⟨message, now, later, heq, -⟩
      exact hother message now later heq

end VncAuthentication

/-! ### What the events do to a connection -/

namespace VncClient

variable {toUint8 : String → UInt8} {c c' : VncClient}

theorem auths_react (e : GroupEvent) :
    (c.react toUint8 e).auths = c.auths.map (·.react toUint8 e) := by
  cases e with
  | leave =>
    simp only [react, leave]
    split <;> rfl
  | join | autojoin => rfl

theorem auths_foldl_react (es : List GroupEvent) :
    (es.foldl (fun c e => c.react toUint8 e) c).auths =
      c.auths.map fun a => es.foldl (·.react toUint8) a := by
  induction es generalizing c with
  | nil => simp
  | cons e es ih =>
    rw [List.foldl_cons, ih, auths_react, List.map_map]
    rfl

theorem Live.of_react {e : GroupEvent} (h : (c.react toUint8 e).Live) : c.Live ∧ e ≠ .leave := by
  cases e with
  | leave =>
    simp only [react, leave, Live] at h
    split at h
    · rename_i hclosed
      exact absurd h.2 (by simp [hclosed])
    · exact absurd h.1 (by simp)
  | join | autojoin => exact ⟨h, nofun⟩

theorem Live.of_foldl_react {es : List GroupEvent}
    (h : (es.foldl (fun c e => c.react toUint8 e) c).Live) : c.Live ∧ .leave ∉ es := by
  induction es generalizing c with
  | nil => exact ⟨h, List.not_mem_nil⟩
  | cons e es ih =>
    obtain ⟨hlive, hes⟩ := ih h
    obtain ⟨hlive, he⟩ := hlive.of_react
    refine ⟨hlive, fun hmem => ?_⟩
    rcases List.mem_cons.1 hmem with heq | hmem
    · exact he heq.symm
    · exact hes hmem

/-- What the other events of the plugin do to a connection. -/
inductive Moves : VncClient → VncClient → Prop
  | same (c : VncClient) : Moves c c
  | asked (c : VncClient) (a : VncAuthentication) : a.response.length = 16 →
      a.outcome = .pending → Moves c { c with auths := c.auths ++ [a] }
  | timedOut (c : VncClient) (j : ℕ) (a : VncAuthentication) : c.auths[j]? = some a →
      a.outcome = .pending → Moves c { c with auths := c.auths.set j (a.settle (.rejected .timeout)) }
  | closed (c : VncClient) : Moves c { c with closed := true }

theorem admitted_set_iff {j : ℕ} {a b : VncAuthentication} (ha : c.auths[j]? = some a)
    (hold : a.outcome ≠ .resolved) (hnew : b.outcome ≠ .resolved) :
    ({ c with auths := c.auths.set j b } : VncClient).Admitted ↔ c.Admitted := by
  constructor
  · rintro ⟨d, hd, hresolved⟩
    obtain hmem | rfl := List.mem_or_eq_of_mem_set hd
    · exact ⟨d, hmem, hresolved⟩
    · exact absurd hresolved hnew
  · rintro ⟨d, hd, hresolved⟩
    obtain ⟨k, hk⟩ := List.mem_iff_getElem?.1 hd
    have hkj : j ≠ k := fun heq => hold (by
      obtain rfl := Option.some.inj (ha.symm.trans (heq ▸ hk))
      exact hresolved)
    exact ⟨d, List.mem_iff_getElem?.2 ⟨k, by rw [List.getElem?_set_ne hkj, hk]⟩, hresolved⟩

theorem Moves.admitted_iff (h : Moves c c') : c'.Admitted ↔ c.Admitted := by
  cases h with
  | same | closed => exact Iff.rfl
  | asked a hlength hpending => simp [Admitted, hpending]
  | timedOut j a hsome hpending =>
    exact admitted_set_iff hsome (by simp [hpending]) (by simp [VncAuthentication.settle, hpending])

theorem Moves.live (h : Moves c c') (hlive : c'.Live) : c.Live := by
  cases h with
  | same | asked | timedOut => exact hlive
  | closed => exact absurd hlive.2 (by simp)

/-- The answers have 16 bytes. -/
def Sound (c : VncClient) : Prop := ∀ a ∈ c.auths, a.response.length = 16

theorem Moves.sound (h : Moves c c') (hc : c.Sound) : c'.Sound := by
  cases h with
  | same | closed => exact hc
  | asked a hlength hpending =>
    intro b hb
    obtain hb | hb := List.mem_append.1 hb
    · exact hc b hb
    · obtain rfl := List.mem_singleton.1 hb
      exact hlength
  | timedOut j a hsome hpending =>
    intro b hb
    obtain hb | rfl := List.mem_or_eq_of_mem_set hb
    · exact hc b hb
    · have hlength := hc a (List.mem_of_getElem? hsome)
      simpa [VncAuthentication.settle, hpending] using hlength

theorem Sound.foldl_react (hc : c.Sound) (es : List GroupEvent) :
    (es.foldl (fun c e => c.react toUint8 e) c).Sound := by
  intro a ha
  rw [auths_foldl_react] at ha
  obtain ⟨a', ha', rfl⟩ := List.mem_map.1 ha
  rw [VncAuthentication.response_foldl_react]
  exact hc a' ha'

theorem Admitted.foldl_react (h : c.Admitted) (es : List GroupEvent) :
    (es.foldl (fun c e => c.react toUint8 e) c).Admitted := by
  obtain ⟨a, ha, hresolved⟩ := h
  refine ⟨a, ?_, hresolved⟩
  rw [auths_foldl_react]
  exact List.mem_map.2 ⟨a, ha, VncAuthentication.foldl_react_of_ne (by simp [hresolved]) es⟩

/-- Which event of the group plugin lets a client in. -/
theorem Sound.admitted_emissions_iff {o : DeviceOptions} {d : GroupManager} (hc : c.Sound)
    (h : ¬c.Admitted) (event : GroupManager.Event) :
    ((d.emissions o event).foldl (fun c e => c.react toUint8 e) c).Admitted ↔
      ∃ message now later, event = .autoGroupMessage message now later ∧
        c.Pending (Hex.decode message.identifier) ∧
        (d.currentGroup.isSome ∨ GroupManager.truthy message.owner = none) := by
  have hiff (a : VncAuthentication) (ha : a ∈ c.auths) :
      ((d.emissions o event).foldl (·.react toUint8) a).outcome = .resolved ↔ _ :=
    VncAuthentication.resolved_emissions_iff (hc a ha) (fun hresolved => h ⟨a, ha, hresolved⟩) event
  constructor
  · rintro ⟨a', ha', hresolved⟩
    rw [auths_foldl_react] at ha'
    obtain ⟨a, ha, rfl⟩ := List.mem_map.1 ha'
    obtain ⟨message, now, later, hevent, hpending, hresponse, hgroup⟩ := (hiff a ha).1 hresolved
    exact ⟨message, now, later, hevent, ⟨a, ha, hresponse, hpending⟩, hgroup⟩
  · rintro ⟨message, now, later, hevent, ⟨a, ha, hresponse, hpending⟩, hgroup⟩
    refine ⟨_, ?_, (hiff a ha).2 ⟨message, now, later, hevent, hpending, hresponse, hgroup⟩⟩
    rw [auths_foldl_react]
    exact List.mem_map_of_mem ha

end VncClient

/-! ### What the events do to the plugin -/

namespace VncPlugin

variable {serial : String} {toUint8 : String → UInt8} {o : DeviceOptions}
  {current : Option GroupState} {p p' : VncPlugin} {i : ℕ}

/-- The plugin has the connections that it had, and perhaps a new one. -/
structure Evolves (p p' : VncPlugin) : Prop where
  old : ∀ (i : ℕ) (c : VncClient), p.clients[i]? = some c →
    ∃ c', p'.clients[i]? = some c' ∧ c.Moves c'
  new : ∀ (i : ℕ) (c' : VncClient), p'.clients[i]? = some c' →
    (∃ c, p.clients[i]? = some c ∧ c.Moves c') ∨ c' = {} ∧ p.clients[i]? = none

theorem evolves_same (h : p'.clients = p.clients) : Evolves p p' where
  old _ c hc := ⟨c, by rw [h, hc], .same c⟩
  new _ c hc := .inl ⟨c, by rw [← h, hc], .same c⟩

theorem evolves_set {c c' : VncClient} (hc : p.clients[i]? = some c) (h : c.Moves c')
    (hclients : p'.clients = p.clients.set i c') : Evolves p p' where
  old j d hd := by
    rw [hclients, List.getElem?_set]
    by_cases hij : i = j
    · subst hij
      obtain rfl := Option.some.inj (hc.symm.trans hd)
      exact ⟨c', by simp [(List.getElem?_eq_some_iff.1 hc).1], h⟩
    · exact ⟨d, by simp [hij, hd], .same d⟩
  new j d hd := by
    rw [hclients, List.getElem?_set] at hd
    by_cases hij : i = j
    · subst hij
      rw [if_pos rfl, if_pos (List.getElem?_eq_some_iff.1 hc).1] at hd
      obtain rfl := Option.some.inj hd
      exact .inl ⟨c, hc, h⟩
    · rw [if_neg hij] at hd
      exact .inl ⟨d, hd, .same d⟩

theorem evolves_append (hclients : p'.clients = p.clients ++ [({} : VncClient)]) : Evolves p p' where
  old j d hd := by
    refine ⟨d, ?_, .same d⟩
    rw [hclients, List.getElem?_append_left (List.getElem?_eq_some_iff.1 hd).1, hd]
  new j d hd := by
    rw [hclients, List.getElem?_append] at hd
    split at hd
    · exact .inl ⟨d, hd, .same d⟩
    · rename_i hlt
      exact .inr ⟨List.mem_singleton.1 (List.mem_of_getElem? hd),
        List.getElem?_eq_none (Nat.not_lt.1 hlt)⟩

theorem evolves_change {f : VncClient → Option VncClient}
    (hf : ∀ c c', p.clients[i]? = some c → f c = some c' → c.Moves c')
    (h : p.change i f = some p') : Evolves p p' := by
  obtain ⟨c', hc', rfl⟩ := Option.map_eq_some_iff.1 h
  obtain ⟨c, hc, hfc⟩ := Option.bind_eq_some_iff.1 hc'
  exact evolves_set hc (hf c c' hc hfc) rfl

theorem clients_notify (response : Bytes) :
    (p.notify serial current response).clients = p.clients := by
  cases current <;> rfl

/-- **One event of the plugin itself.** -/
theorem evolves_next {e : VncEvent} (h : p.next serial current e = some p') : Evolves p p' := by
  cases e with
  | connection =>
    obtain rfl := Option.some.inj h
    exact evolves_append rfl
  | auth j response =>
    obtain ⟨q, hq, rfl⟩ := Option.map_eq_some_iff.1 h
    have hevolves : Evolves p q := by
      refine evolves_change (fun c c' hc hc' => ?_) hq
      split at hc'
      · rename_i hguard
        obtain rfl := Option.some.inj hc'
        exact .asked c _ hguard.1 rfl
      · cases hc'
    exact ⟨fun k c hc => by rw [clients_notify]; exact hevolves.old k c hc,
      fun k c hc => hevolves.new k c (by rwa [clients_notify] at hc)⟩
  | updated =>
    obtain rfl := Option.some.inj h
    refine evolves_same ?_
    generalize p.waiting = responses
    induction responses generalizing p with
    | nil => rfl
    | cons response responses ih => rw [List.foldl_cons, ih rfl, clients_notify]
  | timeout j k =>
    refine evolves_change (fun c c' hc hc' => ?_) h
    obtain ⟨a, ha, rfl⟩ := Option.map_eq_some_iff.1 hc'
    obtain ⟨hsome, hguard⟩ := Option.filter_eq_some_iff.1 ha
    exact .timedOut c k a hsome (of_decide_eq_true hguard).1
  | pointer j =>
    obtain ⟨c, -, rfl⟩ := Option.map_eq_some_iff.1 h
    exact evolves_same rfl
  | close j =>
    refine evolves_change (fun c c' hc hc' => ?_) h
    obtain rfl := Option.some.inj hc'
    exact .closed c
  | tick d =>
    obtain rfl := Option.some.inj h
    exact evolves_same rfl

theorem Evolves.admitted_iff (h : Evolves p p') : p'.Admitted i ↔ p.Admitted i := by
  constructor
  · rintro ⟨c', hc', hadmitted⟩
    rcases h.new i c' hc' with ⟨c, hc, hmoves⟩ | ⟨rfl, -⟩
    · exact ⟨c, hc, hmoves.admitted_iff.1 hadmitted⟩
    · obtain ⟨a, ha, -⟩ := hadmitted
      cases ha
  · rintro ⟨c, hc, hadmitted⟩
    obtain ⟨c', hc', hmoves⟩ := h.old i c hc
    exact ⟨c', hc', hmoves.admitted_iff.2 hadmitted⟩

/-- The answers have 16 bytes. -/
def Sound (p : VncPlugin) : Prop := ∀ (i : ℕ) (c : VncClient), p.clients[i]? = some c → c.Sound

theorem Evolves.sound (h : Evolves p p') (hp : p.Sound) : p'.Sound := by
  intro i c' hc'
  rcases h.new i c' hc' with ⟨c, hc, hmoves⟩ | ⟨rfl, -⟩
  · exact hmoves.sound (hp i c hc)
  · intro a ha
    cases ha

theorem clients_foldl_react (es : List GroupEvent) :
    (es.foldl (fun p e => react toUint8 e p) p).clients =
      p.clients.map fun c => es.foldl (fun c e => c.react toUint8 e) c := by
  induction es generalizing p with
  | nil => simp
  | cons e es ih =>
    rw [List.foldl_cons, ih]
    simp [react]

theorem getElem?_foldl_react {es : List GroupEvent} {c' : VncClient} :
    (es.foldl (fun p e => react toUint8 e p) p).clients[i]? = some c' ↔
      ∃ c, p.clients[i]? = some c ∧ es.foldl (fun c e => c.react toUint8 e) c = c' := by
  rw [clients_foldl_react, List.getElem?_map, Option.map_eq_some_iff]

variable {s s' t : Listener VncPlugin} {l : GroupManager.Event ⊕ VncEvent}
  {ls : List (GroupManager.Event ⊕ VncEvent)}

theorem sound_of_run (hrun : (system toUint8 o).Run start ls s) : s.plugin.Sound := by
  refine hrun.invariant (I := fun s => s.plugin.Sound) (fun i c hc => by cases hc) ?_
  intro s l s' hs hstep
  cases l with
  | inl event =>
    obtain rfl := Option.some.inj hstep
    intro i c' hc'
    obtain ⟨c, hc, rfl⟩ := getElem?_foldl_react.1 hc'
    exact (hs i c hc).foldl_react _
  | inr e =>
    obtain ⟨p', hp', rfl⟩ := Option.map_eq_some_iff.1 hstep
    exact (evolves_next hp').sound hs

/-! ### Who gets in -/

/-- **One step** lets a client in exactly when it is an automatic request of the right kind. -/
theorem admitted_step_iff (hs : s.plugin.Sound) (h : ¬s.plugin.Admitted i)
    (hstep : (system toUint8 o).step s l s') : s'.plugin.Admitted i ↔
      ∃ message now later, l = .inl (.autoGroupMessage message now later) ∧
        LetsIn s i message := by
  cases l with
  | inr e =>
    obtain ⟨p', hp', rfl⟩ := Option.map_eq_some_iff.1 hstep
    exact iff_of_false (fun hadmitted => h ((evolves_next hp').admitted_iff.1 hadmitted)) nofun
  | inl event =>
    obtain rfl := Option.some.inj hstep
    constructor
    · rintro ⟨c', hc', hadmitted⟩
      obtain ⟨c, hc, rfl⟩ := getElem?_foldl_react.1 hc'
      obtain ⟨message, now, later, rfl, hpending, hgroup⟩ :=
        ((hs i c hc).admitted_emissions_iff (fun hc' => h ⟨c, hc, hc'⟩) event).1 hadmitted
      exact ⟨message, now, later, rfl, ⟨c, hc, hpending⟩, hgroup⟩
    · rintro ⟨message, now, later, heq, ⟨c, hc, hpending⟩, hgroup⟩
      obtain rfl := Sum.inl.inj heq
      refine ⟨_, getElem?_foldl_react.2 ⟨c, hc, rfl⟩, ?_⟩
      exact ((hs i c hc).admitted_emissions_iff (fun hc' => h ⟨c, hc, hc'⟩) _).2
        ⟨message, now, later, rfl, hpending, hgroup⟩

theorem admitted_of_step (h : s.plugin.Admitted i) (hstep : (system toUint8 o).step s l s') :
    s'.plugin.Admitted i := by
  cases l with
  | inr e =>
    obtain ⟨p', hp', rfl⟩ := Option.map_eq_some_iff.1 hstep
    exact (evolves_next hp').admitted_iff.2 h
  | inl event =>
    obtain rfl := Option.some.inj hstep
    obtain ⟨c, hc, hadmitted⟩ := h
    exact ⟨_, getElem?_foldl_react.2 ⟨c, hc, rfl⟩, hadmitted.foldl_react _⟩

theorem admitted_of_run (h : s.plugin.Admitted i) (hrun : (system toUint8 o).Run s ls s') :
    s'.plugin.Admitted i :=
  hrun.invariant h fun _ _ _ hs hstep => admitted_of_step hs hstep

/-- A client that is out gets in during a run by one of its events. -/
theorem exists_of_run {ls₀ : List (GroupManager.Event ⊕ VncEvent)}
    (hbefore : (system toUint8 o).Run start ls₀ t) (hrun : (system toUint8 o).Run t ls s)
    (hout : ¬t.plugin.Admitted i) (hin : s.plugin.Admitted i) :
    ∃ ls₁ message now later ls₂ u,
      ls = ls₁ ++ .inl (.autoGroupMessage message now later) :: ls₂ ∧
        (system toUint8 o).Run start (ls₀ ++ ls₁) u ∧ LetsIn u i message ∧
        (system toUint8 o).Run u (.inl (.autoGroupMessage message now later) :: ls₂) s := by
  induction hrun generalizing ls₀ with
  | done => exact absurd hin hout
  | @more t u s l ls hstep hrest ih =>
    by_cases hu : u.plugin.Admitted i
    · obtain ⟨message, now, later, rfl, hlets⟩ :=
        (admitted_step_iff (sound_of_run hbefore) hout hstep).1 hu
      exact ⟨[], message, now, later, ls, t, rfl, by rwa [List.append_nil], hlets,
        .more hstep hrest⟩
    · obtain ⟨ls₁, message, now, later, ls₂, v, rfl, hrun', hlets, hlast⟩ :=
        ih (hbefore.append (.more hstep (.done u))) hu hin
      rw [List.append_assoc] at hrun'
      exact ⟨l :: ls₁, message, now, later, ls₂, v, rfl, hrun', hlets, hlast⟩

/-- **Who gets in by VNC**: in every run of the device's group plugin, of clients that come, answer,
wait and go, a client is in exactly when a request with its answer arrived while its authentication
was under way and the device was already in a group, whosever group that is (or when the request
named no group). -/
theorem admitted_iff_letsIn (hrun : (system toUint8 o).Run start ls s) : s.plugin.Admitted i ↔
    ∃ ls₁ message now later ls₂ t,
      ls = ls₁ ++ .inl (.autoGroupMessage message now later) :: ls₂ ∧
        (system toUint8 o).Run start ls₁ t ∧ LetsIn t i message ∧
        (system toUint8 o).Run t (.inl (.autoGroupMessage message now later) :: ls₂) s := by
  constructor
  · intro hin
    exact exists_of_run (.done start) hrun (by rintro ⟨c, hc, -⟩; cases hc) hin
  · rintro ⟨ls₁, message, now, later, ls₂, t, -, hbefore, hlets, hafter⟩
    cases hafter with
    | more hstep hrest =>
      by_cases hin : t.plugin.Admitted i
      · exact admitted_of_run (admitted_of_step hin hstep) hrest
      · exact admitted_of_run ((admitted_step_iff (sound_of_run hbefore) hin hstep).2
          ⟨message, now, later, rfl, hlets⟩) hrest

/-! ### What a client that is in sees -/

/-- The condition: an automatic request names a group, and a client sends no pointer event after the
server has ended its side of the connection. -/
def Polite (s : Listener VncPlugin) : GroupManager.Event ⊕ VncEvent → Prop
  | .inl (.autoGroupMessage message _ _) => (GroupManager.truthy message.owner).isSome
  | .inr (.pointer i) => ∀ c ∈ s.plugin.clients[i]?, c.left = false
  | _ => True

instance (s : Listener VncPlugin) : ∀ l, Decidable (Polite s l)
  | .inl (.autoGroupMessage message _ _) =>
    inferInstanceAs (Decidable ((GroupManager.truthy message.owner).isSome = true))
  | .inr (.pointer i) => inferInstanceAs (Decidable (∀ c ∈ s.plugin.clients[i]?, c.left = false))
  | .inl (.groupMessage ..) | .inl (.ungroupMessage ..) | .inl (.keepalive _) | .inl (.routed ..)
  | .inl (.timer ..) | .inl .timeout | .inl .absent | .inr .connection | .inr (.auth ..)
  | .inr .updated | .inr (.timeout ..) | .inr (.close _) | .inr (.tick _) => .isTrue trivial

/-- There is such a connection. -/
def Known (p : VncPlugin) (i : ℕ) : Prop := ∃ c, p.clients[i]? = some c

/-- The connection lives. -/
def Live (p : VncPlugin) (i : ℕ) : Prop := ∃ c, p.clients[i]? = some c ∧ c.Live

theorem known_of_step (hstep : (system toUint8 o).step s l s') (h : s.plugin.Known i) :
    s'.plugin.Known i := by
  obtain ⟨c, hc⟩ := h
  cases l with
  | inr e =>
    obtain ⟨p', hp', rfl⟩ := Option.map_eq_some_iff.1 hstep
    obtain ⟨c', hc', -⟩ := (evolves_next hp').old i c hc
    exact ⟨c', hc'⟩
  | inl event =>
    obtain rfl := Option.some.inj hstep
    exact ⟨_, getElem?_foldl_react.2 ⟨c, hc, rfl⟩⟩

/-- While a client lives on, a device that somebody uses stays with them. -/
theorem currentGroup_of_step (hkept : GroupManager.Kept o s.device)
    (hstep : (system toUint8 o).step s l s') (hexists : s.plugin.Known i)
    (hlive : s'.plugin.Live i) : s.plugin.Live i ∧ (s.device.currentGroup.isSome →
      s'.device.currentGroup = s.device.currentGroup) := by
  obtain ⟨c', hc', hlive⟩ := hlive
  cases l with
  | inr e =>
    obtain ⟨p', hp', rfl⟩ := Option.map_eq_some_iff.1 hstep
    obtain ⟨c, hc⟩ := hexists
    obtain ⟨d, hd, hmoves⟩ := (evolves_next hp').old i c hc
    obtain rfl := Option.some.inj (hd.symm.trans hc')
    exact ⟨⟨c, hc, hmoves.live hlive⟩, fun _ => rfl⟩
  | inl event =>
    obtain rfl := Option.some.inj hstep
    obtain ⟨c, hc, rfl⟩ := getElem?_foldl_react.1 hc'
    obtain ⟨hlive, hleave⟩ := hlive.of_foldl_react
    refine ⟨⟨c, hc, hlive⟩, fun hsome => ?_⟩
    rw [← (hkept.emits_handle event).currentGroup]
    exact GroupEvent.foldl_after (fun _ _ => GroupManager.join_notMem_emissions hsome) hleave _

theorem currentGroup_of_run (hkept : GroupManager.Kept o t.device)
    (hrun : (system toUint8 o).Run t ls s) (hknown : t.plugin.Known i) (hlive : s.plugin.Live i) :
    t.plugin.Live i ∧
      (t.device.currentGroup.isSome → s.device.currentGroup = t.device.currentGroup) := by
  induction hrun with
  | done => exact ⟨hlive, fun _ => rfl⟩
  | @more t u s l ls hstep _ ih =>
    obtain ⟨hlive, hrest⟩ :=
      ih (Listener.kept_of_step hkept hstep) (known_of_step hstep hknown) hlive
    obtain ⟨hlive, hfirst⟩ := currentGroup_of_step hkept hstep hknown hlive
    refine ⟨hlive, fun hsome => ?_⟩
    have hu := hfirst hsome
    rw [hrest (by rwa [hu]), hu]

/-- A client that is in and whose connection lives is on a device that somebody uses. -/
theorem inUse_of_live (hrun : ((system toUint8 o).restrict Polite).Run start ls s)
    (hadmitted : s.plugin.Admitted i) (hlive : s.plugin.Live i) :
    ∃ g, s.device.currentGroup = some g ∧ ∃ ls₁ message now later ls₂ t,
      ls = ls₁ ++ .inl (.autoGroupMessage message now later) :: ls₂ ∧
        (system toUint8 o).Run start ls₁ t ∧ t.plugin.Pending i (Hex.decode message.identifier) ∧
        t.device.currentGroup = some g := by
  have hpolite := hrun.exists_of_restrict
  obtain ⟨ls₁, message, now, later, ls₂, t, rfl, hbefore, ⟨hpending, hgroup⟩, hafter⟩ :=
    exists_of_run (.done start) hrun.of_restrict (by rintro ⟨c, hc, -⟩; cases hc) hadmitted
  obtain ⟨u, hnamed⟩ := hpolite (.inl (.autoGroupMessage message now later)) (by simp)
  have hsome : t.device.currentGroup.isSome := hgroup.resolve_right fun hnone => by
    have hnamed : (GroupManager.truthy message.owner).isSome = true := hnamed
    simp [hnone] at hnamed
  have hkept : GroupManager.Kept o t.device :=
    hbefore.invariant (GroupManager.kept_new o) fun _ _ _ hs hstep =>
      Listener.kept_of_step hs hstep
  have hknown : t.plugin.Known i := by
    obtain ⟨c, hc, -⟩ := hpending
    exact ⟨c, hc⟩
  obtain ⟨-, hsame⟩ := currentGroup_of_run hkept hafter hknown hlive
  obtain ⟨g, hg⟩ := Option.isSome_iff_exists.1 hsome
  exact ⟨g, by rw [hsame hsome, hg], ls₁, message, now, later, ls₂, t, rfl, hbefore,
    hpending, hg⟩

/-- An answer to the challenge. -/
def sampleResponse : Bytes := List.replicate 16 7

/-- Another one. -/
def sampleGuess : Bytes := List.replicate 16 8

/-- The user A has the device, a client comes, its first answer is nobody's, and its second answer is
known to be that of B. -/
def sampleEvents : List (GroupManager.Event ⊕ VncEvent) :=
  [.inl GroupManager.joinA, .inr .connection, .inr (.auth 0 sampleGuess), .inr (.tick 5000),
    .inr (.timeout 0 0), .inr (.auth 0 sampleResponse),
    .inl (.autoGroupMessage ⟨some GroupManager.ownerB, Hex.encode sampleResponse⟩ 0 0)]

/-- No key of the sample is a number. -/
def sampleByte (_ : String) : UInt8 := 0

/-- The client is in, and its connection lives. -/
def sampleClient : VncClient :=
  ⟨[⟨sampleGuess, 5000, .rejected .timeout⟩, ⟨sampleResponse, 10000, .resolved⟩], false, false⟩

/-- The state after the events of the sample. -/
def sampleIn (s : Listener VncPlugin) : Bool := s.plugin.clients = [sampleClient]

theorem client_of_sampleIn (h : sampleIn s = true) : s.plugin.clients[0]? = some sampleClient := by
  rw [of_decide_eq_true h]
  rfl

theorem run_sampleEvents : ∃ s, ((system sampleByte GroupManager.sampleOptions).restrict Polite).Run
    start sampleEvents s ∧ sampleIn s = true := by
  exact Lts.exists_run_of_play (f := Listener.step GroupManager.sampleOptions (react sampleByte)
    (next GroupManager.sampleOptions.serial)) start sampleEvents sampleIn (by decide +kernel)

/-- **B gets in while A has the device**, at the second attempt. -/
theorem letsIn_of_other : ∃ ls₁ message now later ls₂ t,
    sampleEvents = ls₁ ++ .inl (.autoGroupMessage message now later) :: ls₂ ∧
      (system sampleByte GroupManager.sampleOptions).Run start ls₁ t ∧ LetsIn t 0 message := by
  obtain ⟨s, hrun, hin⟩ := run_sampleEvents
  have hclient := client_of_sampleIn hin
  obtain ⟨ls₁, message, now, later, ls₂, t, hls, hbefore, hlets, -⟩ :=
    (admitted_iff_letsIn hrun.of_restrict).1 ⟨_, hclient, _, .tail _ (.head _), rfl⟩
  exact ⟨ls₁, message, now, later, ls₂, t, hls, hbefore, hlets⟩

end VncPlugin

end BaseDevice

end DeviceHub

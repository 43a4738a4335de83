import Mathlib.Logic.Function.Basic

/-!
# `wire/channelmanager.ts`

The channels of a device unit and their timers.  A channel can have an alias, under which the table
has the same object.  It knows the timer that was set for it last; a timer knows the name of its
channel.

## Main definitions

* `Channel`, `ChannelManager` : the objects, the table, and the timers that are armed.
* `ChannelManager.register`, `unregister`, `keepalive`, `updateTimeout`, `check` : the methods.
* `ChannelManager.fireAt`, `ChannelManager.fire` : a timer fires.

## Main results

* `ChannelManager.Holds`, `ChannelManager.Empty` : the table has one channel and its alias, or
  nothing; every method keeps to these two.
-/

namespace DeviceHub

/-- The options of a registration. -/
structure ChannelOptions where
  timeout : Int
  alias_ : Option String

/-- A timer that was set: its number, the channel that it checks, and the delay. -/
structure Timer where
  number : Nat
  id : String
  delay : Int
  deriving DecidableEq

/-- A channel that is registered. -/
structure Channel where
  timeout : Int
  alias_ : Option String
  lastActivity : Int
  timer : Option Timer

/-- The channel has an alias, other than the empty string. -/
def Channel.truthyAlias (channel : Channel) : Option String := channel.alias_.filter (· ≠ "")

/-- The error that an alias cannot be created for the channel `id`. -/
structure ChannelExists where
  alias_ : String
  id : String
  deriving DecidableEq

/-- The table refers to objects, which are numbered in the order of their creation, and so are the
timers; `timers` are the ones that are armed. -/
structure ChannelManager where
  channels : String → Option Nat
  objects : Nat → Channel
  created : Nat
  timers : List Timer
  timersSet : Nat

namespace ChannelManager

/-- A new manager. -/
def new : ChannelManager where
  channels := fun _ => none
  objects := fun _ => ⟨0, none, 0, none⟩
  created := 0
  timers := []
  timersSet := 0

/-- `prevent timeout > Int32`. -/
def max32Int : Int := 2147483647

/-- The channel with this id. -/
def find (m : ChannelManager) (id : String) : Option Channel := (m.channels id).map m.objects

/-- An assignment to fields of the channel under `id`, if there is one. -/
def assign (m : ChannelManager) (id : String) (f : Channel → Channel) : ChannelManager :=
  (m.channels id).elim m fun channel =>
    { m with objects := Function.update m.objects channel (f (m.objects channel)) }

/-- `delete this.channels[id]`. -/
def delete (m : ChannelManager) (id : String) : ChannelManager :=
  { m with channels := Function.update m.channels id none }

/-- `clearTimeout(timer)`, of a timer that may have fired. -/
def clearTimeout (m : ChannelManager) (timer : Option Timer) : ChannelManager :=
  { m with timers := m.timers.filter fun t => timer.all fun timer => t.number ≠ timer.number }

/-- `channel.timer = setTimeout(...)` for the channel under `id`. -/
def setTimeout (m : ChannelManager) (id : String) (delay : Int) : ChannelManager :=
  let timer : Timer := ⟨m.timersSet, id, delay⟩
  { m.assign id fun c => { c with timer := some timer } with
    timers := m.timers ++ [timer]
    timersSet := m.timersSet + 1 }

/-- `unregister` -/
def unregister (m : ChannelManager) (id : String) : ChannelManager :=
  match m.channels id with
  | some channel =>
    let m := (m.delete id).clearTimeout (m.objects channel).timer
    match Channel.truthyAlias (m.objects channel) with
    | some alias_ => m.delete alias_
    | none => m
  | none => m

/-- `keepalive` -/
def keepalive (m : ChannelManager) (id : String) (now : Int) : ChannelManager :=
  m.assign id fun c => { c with lastActivity := now }

/-- `updateTimeout` -/
def updateTimeout (m : ChannelManager) (id : String) (timeout : Int) : ChannelManager :=
  m.assign id fun c => { c with timeout := c.timeout + timeout }

/-- `getTimeout` -/
def getTimeout (m : ChannelManager) (id : String) : Option Int := (m.find id).map Channel.timeout

/-- The second component tells whether the channel has timed out. -/
def check (m : ChannelManager) (id : String) (now : Int) : ChannelManager × Bool :=
  match m.find id with
  | some channel =>
    let inactivePeriod := now - channel.lastActivity
    if inactivePeriod ≥ channel.timeout then (m.unregister id, true)
    else if channel.timeout > 1 then
      (m.setTimeout id (min (channel.timeout - inactivePeriod) max32Int), false)
    else (m, false)
  | none => (m, false)

/-- The clock is read at the registration, and again by the first check. -/
def register (m : ChannelManager) (id : String) (options : ChannelOptions) (now later : Int) :
    Except ChannelExists (ChannelManager × Bool) :=
  let channel : Channel := ⟨options.timeout, options.alias_, now, none⟩
  let m' : ChannelManager := { m with
    objects := Function.update m.objects m.created channel
    created := m.created + 1 }
  match channel.truthyAlias with
  | some alias_ =>
    if (m.channels alias_).isSome then .error ⟨alias_, id⟩
    else
      let channels := Function.update m.channels alias_ (some m.created)
      .ok (check { m' with channels := Function.update channels id (some m.created) } id later)
  | none =>
    .ok (check { m' with channels := Function.update m.channels id (some m.created) } id later)

/-- The timer with this place among those that are armed fires. -/
def fireAt (m : ChannelManager) (k : Nat) (now : Int) : ChannelManager × Bool :=
  match m.timers[k]? with
  | some timer => { m with timers := m.timers.eraseIdx k }.check timer.id now
  | none => (m, false)

/-- A timer for the channel `id` fires, the first one that is armed. -/
def fire (m : ChannelManager) (id : String) (now : Int) : ChannelManager × Bool :=
  m.fireAt (m.timers.findIdx fun t => t.id = id) now

/-! ### What the methods change -/

variable {m : ChannelManager} {id alias_ key : String} {now later timeout : Int}

@[simp] theorem assign_channels {f : Channel → Channel} : (m.assign key f).channels = m.channels := by
  unfold assign
  cases m.channels key <;> rfl

@[simp] theorem assign_timers {f : Channel → Channel} : (m.assign key f).timers = m.timers := by
  unfold assign
  cases m.channels key <;> rfl

@[simp] theorem assign_created {f : Channel → Channel} : (m.assign key f).created = m.created := by
  unfold assign
  cases m.channels key <;> rfl

@[simp] theorem assign_timersSet {f : Channel → Channel} :
    (m.assign key f).timersSet = m.timersSet := by
  unfold assign
  cases m.channels key <;> rfl

theorem assign_objects {f : Channel → Channel} (channel : Nat) : (m.assign key f).objects channel =
    if m.channels key = some channel then f (m.objects channel) else m.objects channel := by
  unfold assign
  cases hkey : m.channels key with
  | none => simp
  | some other =>
    by_cases hsame : other = channel
    · subst hsame
      simp
    · have hne : channel ≠ other := fun h => hsame h.symm
      simp [hsame, hne]

@[simp] theorem setTimeout_channels (delay : Int) :
    (m.setTimeout key delay).channels = m.channels := assign_channels

@[simp] theorem setTimeout_timers (delay : Int) :
    (m.setTimeout key delay).timers = m.timers ++ [⟨m.timersSet, key, delay⟩] := rfl

theorem setTimeout_objects (delay : Int) (channel : Nat) :
    (m.setTimeout key delay).objects channel =
      if m.channels key = some channel then
        { m.objects channel with timer := some ⟨m.timersSet, key, delay⟩ }
      else m.objects channel := assign_objects channel

/-- All names of the channel are deleted, and its timer is cleared. -/
theorem unregister_channels {channel : Nat} (h : m.channels key = some channel) (name : String) :
    (m.unregister key).channels name =
      if name = key ∨ (m.objects channel).truthyAlias = some name then none else m.channels name := by
  have hdeleted : (m.unregister key).channels =
      match (m.objects channel).truthyAlias with
      | some alias_ => Function.update (Function.update m.channels key none) alias_ none
      | none => Function.update m.channels key none := by
    unfold unregister
    rw [h]
    dsimp only [delete, clearTimeout]
    cases (m.objects channel).truthyAlias <;> rfl
  rw [hdeleted]
  cases (m.objects channel).truthyAlias with
  | none => by_cases hname : name = key <;> simp [hname]
  | some other =>
    by_cases hother : name = other
    · simp [hother]
    · have hne : other ≠ name := fun h => hother h.symm
      by_cases hname : name = key
      · subst hname
        simp [hother]
      · simp [hother, hname, hne]

theorem unregister_timers {channel : Nat} (h : m.channels key = some channel) :
    (m.unregister key).timers = m.timers.filter fun t =>
      (m.objects channel).timer.all fun timer => t.number ≠ timer.number := by
  unfold unregister
  rw [h]
  dsimp only [delete, clearTimeout]
  cases (m.objects channel).truthyAlias <;> rfl

theorem unregister_frame (m : ChannelManager) (key : String) :
    (m.unregister key).objects = m.objects ∧
    (m.unregister key).created = m.created ∧ (m.unregister key).timersSet = m.timersSet := by
  unfold unregister
  cases m.channels key with
  | none => exact ⟨rfl, rfl, rfl⟩
  | some channel =>
    dsimp only [delete, clearTimeout]
    cases (m.objects channel).truthyAlias <;> exact ⟨rfl, rfl, rfl⟩

theorem unregister_of_none (h : m.channels key = none) : m.unregister key = m := by
  unfold unregister
  rw [h]

theorem channels_of_unregister {name : String} {channel : Nat}
    (h : (m.unregister key).channels name = some channel) : m.channels name = some channel := by
  cases hkey : m.channels key with
  | none => rwa [unregister_of_none hkey] at h
  | some other =>
    rw [unregister_channels hkey] at h
    split at h
    · cases h
    · exact h

theorem timers_of_unregister {t : Timer} (h : t ∈ (m.unregister key).timers) : t ∈ m.timers := by
  cases hkey : m.channels key with
  | none => rwa [unregister_of_none hkey] at h
  | some channel =>
    rw [unregister_timers hkey] at h
    exact (List.mem_filter.1 h).1

/-! ### The outcomes of a check -/

theorem check_cases (m : ChannelManager) (id : String) (now : Int) :
    m.channels id = none ∧ m.check id now = (m, false) ∨
      ∃ channel, m.channels id = some channel ∧
        ((m.objects channel).timeout ≤ now - (m.objects channel).lastActivity ∧
            m.check id now = (m.unregister id, true) ∨
          now - (m.objects channel).lastActivity < (m.objects channel).timeout ∧
            (1 < (m.objects channel).timeout ∧
                (∃ delay, m.check id now = (m.setTimeout id delay, false)) ∨
              (m.objects channel).timeout ≤ 1 ∧ m.check id now = (m, false))) := by
  cases hid : m.channels id with
  | none => exact .inl ⟨rfl, by simp [check, find, hid]⟩
  | some channel =>
    refine .inr ⟨channel, rfl, ?_⟩
    by_cases hover : (m.objects channel).timeout ≤ now - (m.objects channel).lastActivity
    · exact .inl ⟨hover, by simp [check, find, hid, hover]⟩
    · refine .inr ⟨Int.not_le.mp hover, ?_⟩
      by_cases hfinite : 1 < (m.objects channel).timeout
      · exact .inl ⟨hfinite, _, by simp [check, find, hid, hover, hfinite]; rfl⟩
      · exact .inr ⟨Int.not_lt.mp hfinite, by simp [check, find, hid, hover, hfinite]⟩

theorem check_timedOut_iff (m : ChannelManager) (id : String) (now : Int) :
    (m.check id now).2 = true ↔ ∃ channel, m.channels id = some channel ∧
      (m.objects channel).timeout ≤ now - (m.objects channel).lastActivity := by
  obtain ⟨hnone, hcheck⟩ |
      ⟨channel, hid, ⟨hover, hcheck⟩ | ⟨hin, ⟨-, delay, hcheck⟩ | ⟨-, hcheck⟩⟩⟩ :=
    check_cases m id now
  · simp [hcheck, hnone]
  · simp [hcheck, hid, hover]
  · simp [hcheck, hid, hin]
  · simp [hcheck, hid, hin]

/-! ### Registering -/

/-- The channel as it is registered. -/
def registration (options : ChannelOptions) (now : Int) : Channel :=
  ⟨options.timeout, options.alias_, now, none⟩

/-- The new channel before its first check. -/
def added (m : ChannelManager) (id : String) (options : ChannelOptions) (now : Int) :
    ChannelManager :=
  { m with
    channels := fun name =>
      if name = id ∨ (registration options now).truthyAlias = some name then some m.created
      else m.channels name
    objects := Function.update m.objects m.created (registration options now)
    created := m.created + 1 }

/-- A registration fails where the alias is taken; otherwise it ends with a check. -/
theorem register_eq (m : ChannelManager) (id : String) (options : ChannelOptions)
    (now later : Int) :
    (∃ alias_ ∈ (registration options now).truthyAlias, (m.channels alias_).isSome ∧
        m.register id options now later = .error ⟨alias_, id⟩) ∨
      (∀ alias_ ∈ (registration options now).truthyAlias, m.channels alias_ = none) ∧
        m.register id options now later = .ok ((m.added id options now).check id later) := by
  cases halias : (registration options now).truthyAlias with
  | none =>
    have hchannels : (m.added id options now).channels =
        Function.update m.channels id (some m.created) := by
      funext name
      simp [added, halias, Function.update_apply]
    refine .inr ⟨nofun, ?_⟩
    have hadded : m.added id options now = { m with
        channels := Function.update m.channels id (some m.created)
        objects := Function.update m.objects m.created (registration options now)
        created := m.created + 1 } := by
      rw [← hchannels]
      rfl
    rw [hadded]
    unfold registration at halias
    simp [register, registration, halias]
  | some alias_ =>
    by_cases htaken : (m.channels alias_).isSome
    · refine .inl ⟨alias_, rfl, htaken, ?_⟩
      unfold registration at halias
      simp [register, halias, htaken]
    · refine .inr ⟨?_, ?_⟩
      · rintro name ⟨⟩
        simpa using htaken
      · have hchannels : (m.added id options now).channels =
            Function.update (Function.update m.channels alias_ (some m.created)) id
              (some m.created) := by
          funext name
          by_cases hname : name = id
          · simp [added, hname]
          · rw [Function.update_of_ne hname]
            by_cases hother : name = alias_
            · simp [added, halias, hother]
            · have hne : alias_ ≠ name := fun h => hother h.symm
              simp [added, halias, hname, hother, hne]
        have hadded : m.added id options now = { m with
            channels := Function.update (Function.update m.channels alias_ (some m.created)) id
              (some m.created)
            objects := Function.update m.objects m.created (registration options now)
            created := m.created + 1 } := by
          rw [← hchannels]
          rfl
        rw [hadded]
        unfold registration at halias
        simp [register, registration, halias, htaken]

/-! ### One channel at most -/

/-- Nothing is registered, and no timer is armed. -/
structure Empty (m : ChannelManager) : Prop where
  channels : ∀ id, m.channels id = none
  timers : m.timers = []

/-- The channel `id` is registered under its name and its alias, and nothing else is; there is no
timer armed but its own. -/
structure Holds (m : ChannelManager) (id alias_ : String) : Prop where
  registered : ∃ channel, m.channels id = some channel ∧ m.channels alias_ = some channel ∧
    Channel.truthyAlias (m.objects channel) = some alias_ ∧
      (m.timers = [] ∨ ∃ t : Timer, m.timers = [t] ∧ t.id = id ∧ (m.objects channel).timer = some t)
  only : ∀ key, m.channels key ≠ none → key = id ∨ key = alias_

theorem Empty.assign {f : Channel → Channel} (h : m.Empty) : (m.assign key f).Empty where
  channels k := by simpa using h.channels k
  timers := by simpa using h.timers

theorem Holds.assign {f : Channel → Channel} (h : m.Holds id alias_)
    (halias : ∀ c, (f c).alias_ = c.alias_) (htimer : ∀ c, (f c).timer = c.timer) :
    (m.assign key f).Holds id alias_ := by
  obtain ⟨⟨channel, hid, hname, halias', htimers⟩, honly⟩ := h
  have hobject : ((m.assign key f).objects channel).alias_ = (m.objects channel).alias_ ∧
      ((m.assign key f).objects channel).timer = (m.objects channel).timer := by
    rw [assign_objects]
    split
    · exact ⟨halias _, htimer _⟩
    · exact ⟨rfl, rfl⟩
  refine ⟨⟨channel, by simpa using hid, by simpa using hname, ?_, ?_⟩, by simpa using honly⟩
  · unfold Channel.truthyAlias at halias' ⊢
    rw [hobject.1, halias']
  · simpa [hobject.2] using htimers

theorem Empty.unregister (h : m.Empty) : m.unregister key = m := unregister_of_none (h.channels key)

theorem Holds.unregister (h : m.Holds id alias_) : (m.unregister id).Empty := by
  obtain ⟨⟨channel, hid, -, halias, htimers⟩, honly⟩ := h
  constructor
  · intro name
    rw [unregister_channels hid, halias]
    split
    · rfl
    · rename_i hnot
      by_contra hne
      exact hnot ((honly name hne).imp_right fun hname => congrArg some hname.symm)
  · rw [unregister_timers hid]
    obtain hnone | ⟨t, ht, -, htimer⟩ := htimers
    · simp [hnone]
    · simp [ht, htimer]

/-- A check of the channel while no timer is armed: it times out and nothing is left, or it stays. -/
theorem Holds.check (h : m.Holds id alias_) (hnone : m.timers = []) (now : Int) :
    (m.check id now).2 = true ∧ (m.check id now).1.Empty ∨
      (m.check id now).2 = false ∧ (m.check id now).1.Holds id alias_ := by
  obtain ⟨channel, hid, hname, halias, -⟩ := h.registered
  obtain ⟨hmissing, -⟩ | ⟨-, -, ⟨-, hcheck⟩ | ⟨-, ⟨-, delay, hcheck⟩ | ⟨-, hcheck⟩⟩⟩ :=
    check_cases m id now
  · rw [hid] at hmissing
    cases hmissing
  · rw [hcheck]
    exact .inl ⟨rfl, h.unregister⟩
  · rw [hcheck]
    refine .inr ⟨rfl, ⟨channel, ?_, ?_, ?_, .inr ⟨⟨m.timersSet, id, delay⟩, ?_, rfl, ?_⟩⟩, ?_⟩
    · simpa using hid
    · simpa using hname
    · simpa [setTimeout_objects, hid, Channel.truthyAlias] using halias
    · simp [hnone]
    · simp [setTimeout_objects, hid]
    · simpa using h.only
  · rw [hcheck]
    exact .inr ⟨rfl, h⟩

theorem Empty.fire (h : m.Empty) : m.fire key now = (m, false) := by
  simp [ChannelManager.fire, fireAt, h.timers]

/-- A timer fires: the channel times out, or it stays. -/
theorem Holds.fire (h : m.Holds id alias_) (key : String) (now : Int) :
    (m.fire key now).2 = true ∧ key = id ∧ (m.fire key now).1.Empty ∨
      (m.fire key now).2 = false ∧ (m.fire key now).1.Holds id alias_ := by
  obtain ⟨⟨channel, hid, hname, halias, hnone | ⟨t, ht, htid, htimer⟩⟩, honly⟩ := h
  · refine .inr ?_
    have hfire : m.fire key now = (m, false) := by simp [ChannelManager.fire, fireAt, hnone]
    rw [hfire]
    exact ⟨rfl, ⟨channel, hid, hname, halias, .inl hnone⟩, honly⟩
  · by_cases hkey : t.id = key
    · have hfire : m.fire key now = { m with timers := [] }.check t.id now := by
        simp [ChannelManager.fire, fireAt, ht, hkey]
      have hleft : { m with timers := [] }.Holds id alias_ :=
        ⟨⟨channel, hid, hname, halias, .inl rfl⟩, honly⟩
      rw [hfire, htid]
      rcases hleft.check rfl now with ⟨hout, hempty⟩ | ⟨hin, hholds⟩
      · exact .inl ⟨hout, hkey.symm.trans htid, hempty⟩
      · exact .inr ⟨hin, hholds⟩
    · refine .inr ?_
      have hfire : m.fire key now = (m, false) := by simp [ChannelManager.fire, fireAt, ht, hkey]
      rw [hfire]
      exact ⟨rfl, ⟨channel, hid, hname, halias, .inr ⟨t, ht, htid, htimer⟩⟩, honly⟩

/-- The first channel can always be registered.  It times out at once when its time is over before
the first check. -/
theorem Empty.register (h : m.Empty) (id : String) (options : ChannelOptions) (now later : Int)
    (halias : options.alias_ = some alias_) (hne : alias_ ≠ "") :
    ∃ m' timedOut, m.register id options now later = .ok (m', timedOut) ∧
      (timedOut = true ↔ options.timeout ≤ later - now) ∧
      (timedOut = true ∧ m'.Empty ∨ timedOut = false ∧ m'.Holds id alias_) := by
  have htruthy : (registration options now).truthyAlias = some alias_ := by
    simp [registration, Channel.truthyAlias, halias, hne]
  have hregister : m.register id options now later =
      .ok ((m.added id options now).check id later) := by
    obtain ⟨name, -, htaken, -⟩ | ⟨-, heq⟩ := register_eq m id options now later
    · simp [h.channels name] at htaken
    · exact heq
  have hid : (m.added id options now).channels id = some m.created := by simp [added]
  have hname : (m.added id options now).channels alias_ = some m.created := by
    simp [added, htruthy]
  have hobject : (m.added id options now).objects m.created = registration options now :=
    Function.update_self ..
  have hholds : (m.added id options now).Holds id alias_ := by
    refine ⟨⟨m.created, hid, hname, by rw [hobject, htruthy], .inl h.timers⟩, fun k hk => ?_⟩
    by_contra hnot
    rw [not_or] at hnot
    have hother : alias_ ≠ k := fun heq => hnot.2 heq.symm
    exact hk (by simp [added, htruthy, hnot.1, hother, h.channels k])
  -- the check at the end may find the channel over already
  have htimedOut : ((m.added id options now).check id later).2 = true ↔
      options.timeout ≤ later - now := by
    rw [check_timedOut_iff]
    simp [hid, hobject, registration]
  exact ⟨_, _, hregister, htimedOut, hholds.check h.timers later⟩

end ChannelManager

end DeviceHub

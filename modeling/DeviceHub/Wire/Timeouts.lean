import DeviceHub.Wire.ChannelManager
import DeviceHub.Async.Lts
import Mathlib.Data.List.Nodup

/-!
# The timeouts of the channels of `wire/channelmanager.ts`

A timer knows only the name of its channel, and the channel only the timer that was set last.  A
channel that is registered again leaves the timer of the earlier one armed.

## Main definitions

* `TimedChannels` : a channel manager in the course of time, with the timeouts that were emitted.
* `TimedChannels.next` : the calls, and the timers, with a clock that does not go back.
* `TimedChannels.Exact` : what is expected of the timeouts.
* `TimedChannels.OnTime` : the condition on the steps.

## Main results

* `ChannelManager.Named` : the timers of a channel have its name; every method keeps to it.
* `ChannelManager.armed_check` : a check arms a timer for its channel, where it should have one.
* `TimedChannels.exact_iff` : the runs with exact timeouts are the ones whose steps meet the
  condition.
-/

namespace DeviceHub

namespace ChannelManager

variable {m : ChannelManager} {isAlias : String → Bool} {registered : List (String × Int)}
  {id name : String} {now : Int}

/-! ### The names of channels and timers -/

/-- The objects are the channels that were `registered`.  What the table has under a name, which is
no alias, was registered under the name; a timer has the name of its channel, also the one that a
channel knows. -/
structure Named (isAlias : String → Bool) (registered : List (String × Int)) (m : ChannelManager) :
    Prop where
  length : registered.length = m.created
  plain : ∀ r ∈ registered, isAlias r.1 = false
  created : ∀ name channel, m.channels name = some channel → channel < m.created
  name : ∀ name channel, isAlias name = false → m.channels name = some channel →
    ∃ timeout, registered[channel]? = some (name, timeout)
  aliased : ∀ channel, channel < m.created → ∀ name ∈ (m.objects channel).truthyAlias,
    isAlias name = true
  timer : ∀ channel, channel < m.created → ∀ t ∈ (m.objects channel).timer,
    t.number < m.timersSet ∧ ∃ timeout, registered[channel]? = some (t.id, timeout)
  timers : ∀ t ∈ m.timers, t.number < m.timersSet ∧ isAlias t.id = false
  number : ∀ t ∈ m.timers, ∀ channel, channel < m.created → ∀ t' ∈ (m.objects channel).timer,
    t.number = t'.number → t.id = t'.id

theorem named_new (isAlias : String → Bool) : Named isAlias [] new where
  length := rfl
  plain := nofun
  created := nofun
  name := nofun
  aliased := nofun
  timer := nofun
  timers := nofun
  number := nofun

/-- Names and timers are taken away, and the channels keep their aliases and timers. -/
theorem Named.sub {m' : ChannelManager} (h : Named isAlias registered m)
    (hcreated : m'.created = m.created) (hset : m'.timersSet = m.timersSet)
    (hobjects : ∀ channel, (m'.objects channel).alias_ = (m.objects channel).alias_ ∧
      (m'.objects channel).timer = (m.objects channel).timer)
    (hchannels : ∀ name channel, m'.channels name = some channel → m.channels name = some channel)
    (htimers : ∀ t ∈ m'.timers, t ∈ m.timers) : Named isAlias registered m' where
  length := by rw [hcreated, h.length]
  plain := h.plain
  created name channel hname := hcreated ▸ h.created name channel (hchannels name channel hname)
  name name channel halias hname := h.name name channel halias (hchannels name channel hname)
  aliased channel hlt name hname := by
    refine h.aliased channel (hcreated ▸ hlt) name ?_
    rwa [Channel.truthyAlias, (hobjects channel).1] at hname
  timer channel hlt t ht := by
    rw [hset]
    exact h.timer channel (hcreated ▸ hlt) t ((hobjects channel).2 ▸ ht)
  timers t ht := by
    rw [hset]
    exact h.timers t (htimers t ht)
  number t ht channel hlt t' ht' :=
    h.number t (htimers t ht) channel (hcreated ▸ hlt) t' ((hobjects channel).2 ▸ ht')

theorem Named.assign (h : Named isAlias registered m) {f : Channel → Channel}
    (halias : ∀ c, (f c).alias_ = c.alias_) (htimer : ∀ c, (f c).timer = c.timer) :
    Named isAlias registered (m.assign name f) := by
  refine h.sub assign_created assign_timersSet (fun channel => ?_) (fun name channel hname => ?_)
    fun t ht => ?_
  · rw [assign_objects]
    split
    · exact ⟨halias _, htimer _⟩
    · exact ⟨rfl, rfl⟩
  · rwa [assign_channels] at hname
  · rwa [assign_timers] at ht

theorem Named.unregister (h : Named isAlias registered m) :
    Named isAlias registered (m.unregister name) := by
  obtain ⟨hobjects, hcreated, hset⟩ := m.unregister_frame name
  refine h.sub hcreated hset (fun channel => ?_) (fun _ _ => channels_of_unregister)
    fun _ => timers_of_unregister
  rw [hobjects]
  exact ⟨rfl, rfl⟩

/-- A new timer has a number of its own. -/
theorem Named.setTimeout (h : Named isAlias registered m) (halias : isAlias id = false)
    (delay : Int) : Named isAlias registered (m.setTimeout id delay) where
  length := by simpa [ChannelManager.setTimeout] using h.length
  plain := h.plain
  created name channel hname := by
    simpa [ChannelManager.setTimeout] using h.created name channel (by simpa using hname)
  name name channel halias hname := h.name name channel halias (by simpa using hname)
  aliased channel hlt name hname := by
    refine h.aliased channel (by simpa [ChannelManager.setTimeout] using hlt) name ?_
    rw [setTimeout_objects] at hname
    split at hname
    · exact hname
    · exact hname
  timer channel hlt t ht := by
    have hlt : channel < m.created := by simpa [ChannelManager.setTimeout] using hlt
    rw [setTimeout_objects] at ht
    split at ht
    · rename_i hid
      obtain rfl := Option.some.inj ht
      exact ⟨Nat.lt_succ_self _, h.name id channel halias hid⟩
    · obtain ⟨hnumber, hregistered⟩ := h.timer channel hlt t ht
      exact ⟨Nat.lt_succ_of_lt hnumber, hregistered⟩
  timers t ht := by
    rw [setTimeout_timers] at ht
    obtain ht | ht := List.mem_append.1 ht
    · obtain ⟨hnumber, hname⟩ := h.timers t ht
      exact ⟨Nat.lt_succ_of_lt hnumber, hname⟩
    · obtain rfl := List.mem_singleton.1 ht
      exact ⟨Nat.lt_succ_self _, halias⟩
  number t ht channel hlt t' ht' hsame := by
    have hlt : channel < m.created := by simpa [ChannelManager.setTimeout] using hlt
    rw [setTimeout_timers] at ht
    rw [setTimeout_objects] at ht'
    -- an old and a new timer differ in their numbers
    obtain ht | ht := List.mem_append.1 ht
    · split at ht'
      · obtain rfl := Option.some.inj ht'
        exact absurd hsame (Nat.ne_of_lt (h.timers t ht).1)
      · exact h.number t ht channel hlt t' ht' hsame
    · obtain rfl := List.mem_singleton.1 ht
      split at ht'
      · obtain rfl := Option.some.inj ht'
        rfl
      · exact absurd hsame.symm (Nat.ne_of_lt (h.timer channel hlt t' ht').1)

/-! ### The outcomes of a check -/

/-- A check takes names away, and changes nothing but timers in the channels. -/
theorem check_frame (m : ChannelManager) (id : String) (now : Int) :
    (m.check id now).1.created = m.created ∧
      (∀ channel, ((m.check id now).1.objects channel).lastActivity =
        (m.objects channel).lastActivity) ∧
      ∀ name channel, (m.check id now).1.channels name = some channel →
        m.channels name = some channel := by
  obtain ⟨-, hcheck⟩ | ⟨channel, hid, ⟨-, hcheck⟩ | ⟨-, ⟨-, delay, hcheck⟩ | ⟨-, hcheck⟩⟩⟩ :=
    check_cases m id now
  · rw [hcheck]
    exact ⟨rfl, fun _ => rfl, fun _ _ h => h⟩
  · rw [hcheck]
    obtain ⟨hobjects, hcreated, -⟩ := m.unregister_frame id
    exact ⟨hcreated, fun _ => by rw [hobjects], fun _ _ => channels_of_unregister⟩
  · rw [hcheck]
    refine ⟨assign_created, fun channel' => ?_, fun _ _ h => by simpa using h⟩
    rw [setTimeout_objects]
    split <;> rfl
  · rw [hcheck]
    exact ⟨rfl, fun _ => rfl, fun _ _ h => h⟩

/-- A channel that has timed out is in the table under no name. -/
theorem Named.gone_of_check (h : Named isAlias registered m) (halias : isAlias id = false)
    {channel : Nat} (hid : m.channels id = some channel) (hout : (m.check id now).2 = true)
    {name : String} (hname : isAlias name = false) :
    (m.check id now).1.channels name ≠ some channel := by
  intro hchannel
  have hbefore := (check_frame m id now).2.2 name channel hchannel
  obtain ⟨timeout, hr⟩ := h.name name channel hname hbefore
  obtain ⟨timeout', hr'⟩ := h.name id channel halias hid
  obtain rfl : name = id := congrArg Prod.fst (Option.some.inj (hr.symm.trans hr'))
  obtain ⟨hnone, -⟩ | ⟨channel', hid', ⟨-, hcheck⟩ | ⟨-, ⟨-, delay, hcheck⟩ | ⟨-, hcheck⟩⟩⟩ :=
    check_cases m name now
  · rw [hid] at hnone
    cases hnone
  · rw [hcheck, unregister_channels hid', if_pos (.inl rfl)] at hchannel
    cases hchannel
  · rw [hcheck] at hout
    cases hout
  · rw [hcheck] at hout
    cases hout

theorem Named.check (h : Named isAlias registered m) (halias : isAlias id = false) (now : Int) :
    Named isAlias registered (m.check id now).1 := by
  obtain ⟨-, hcheck⟩ | ⟨channel, -, ⟨-, hcheck⟩ | ⟨-, ⟨-, delay, hcheck⟩ | ⟨-, hcheck⟩⟩⟩ :=
    check_cases m id now
  · rwa [hcheck]
  · rw [hcheck]
    exact h.unregister
  · rw [hcheck]
    exact h.setTimeout halias delay
  · rwa [hcheck]

/-! ### Armed timers -/

/-- A timer for the channel `id` is armed. -/
def HasTimer (m : ChannelManager) (id : String) : Prop := ∃ t ∈ m.timers, t.id = id

/-- If the channel has a finite timeout greater than 1, a timer is armed for it. -/
def Armed (m : ChannelManager) (id : String) : Prop :=
  ∀ channel, m.channels id = some channel → 1 < (m.objects channel).timeout → m.HasTimer id

/-- Unregistering a channel under its name clears no timer of another one. -/
theorem Named.armed_unregister (h : Named isAlias registered m) (halias : isAlias id = false)
    {other : String} (hother : other ≠ id) (harmed : m.Armed other) :
    (m.unregister id).Armed other := by
  cases hid : m.channels id with
  | none => rwa [unregister_of_none hid]
  | some channel =>
    intro channel' hchannel' hfinite
    rw [unregister_channels hid] at hchannel'
    split at hchannel'
    · cases hchannel'
    · rw [(unregister_frame _ _).1] at hfinite
      obtain ⟨t, ht, rfl⟩ := harmed channel' hchannel' hfinite
      refine ⟨t, ?_, rfl⟩
      rw [unregister_timers hid]
      refine List.mem_filter.2 ⟨ht, ?_⟩
      cases htimer : (m.objects channel).timer with
      | none => rfl
      | some timer =>
        have hlt := h.created id channel hid
        -- the timer that is cleared has the name of the channel
        obtain ⟨timeout, hregistered⟩ := h.name id channel halias hid
        obtain ⟨-, timeout', hregistered'⟩ := h.timer channel hlt timer htimer
        have hname : timer.id = id := by
          rw [hregistered] at hregistered'
          exact congrArg Prod.fst (Option.some.inj hregistered').symm
        have hne : t.number ≠ timer.number := by
          intro hsame
          exact hother ((h.number t ht channel hlt timer htimer hsame).trans hname)
        simpa using hne

/-- After a check of the channel it has a timer, if it should have one and was not unregistered, and
so have the others. -/
theorem Named.armed_check (h : Named isAlias registered m) (halias : isAlias id = false)
    (hothers : ∀ other, isAlias other = false → other ≠ id → m.Armed other) (now : Int)
    (other : String) (hother : isAlias other = false) : (m.check id now).1.Armed other := by
  obtain ⟨hnone, hcheck⟩ | ⟨channel, hid, ⟨-, hcheck⟩ | ⟨-, ⟨-, delay, hcheck⟩ | ⟨hle, hcheck⟩⟩⟩ :=
    check_cases m id now
  · rw [hcheck]
    by_cases hsame : other = id
    · intro channel hchannel
      rw [hsame, hnone] at hchannel
      cases hchannel
    · exact hothers other hother hsame
  · rw [hcheck]
    by_cases hsame : other = id
    · intro channel' hchannel'
      rw [unregister_channels hid, hsame, if_pos (.inl rfl)] at hchannel'
      cases hchannel'
    · exact h.armed_unregister halias hsame (hothers other hother hsame)
  · rw [hcheck]
    intro channel' hchannel' hfinite
    by_cases hsame : other = id
    · exact ⟨⟨m.timersSet, id, delay⟩, by simp, hsame.symm⟩
    · rw [setTimeout_channels] at hchannel'
      have hfinite : 1 < (m.objects channel').timeout := by
        rw [setTimeout_objects] at hfinite
        split at hfinite <;> exact hfinite
      obtain ⟨t, ht, htid⟩ := hothers other hother hsame channel' hchannel' hfinite
      exact ⟨t, by simp [ht], htid⟩
  · rw [hcheck]
    by_cases hsame : other = id
    · intro channel' hchannel' hfinite
      rw [hsame, hid] at hchannel'
      obtain rfl := Option.some.inj hchannel'
      exact absurd hfinite (Int.not_lt.mpr hle)
    · exact hothers other hother hsame

/-! ### Registering -/

variable {options : ChannelOptions}

theorem added_channels_of_ne {name : String} (hname : isAlias name = false) (hne : name ≠ id)
    (halias : ∀ name ∈ (registration options now).truthyAlias, isAlias name = true) :
    (m.added id options now).channels name = m.channels name := by
  have hnot : (registration options now).truthyAlias ≠ some name := by
    intro h
    rw [halias name h] at hname
    cases hname
  simp [added, hne, hnot]

theorem added_objects_of_lt {channel : Nat} (h : channel < m.created) :
    (m.added id options now).objects channel = m.objects channel :=
  Function.update_of_ne (Nat.ne_of_lt h) _ _

/-- The new channel is in the table under its name and its alias. -/
theorem Named.added (h : Named isAlias registered m) (hid : isAlias id = false)
    (halias : ∀ name ∈ (registration options now).truthyAlias, isAlias name = true) :
    Named isAlias (registered ++ [(id, options.timeout)]) (m.added id options now) := by
  have hnew : (m.added id options now).objects m.created = registration options now :=
    Function.update_self ..
  have hold : ∀ {channel : Nat} {r : String × Int}, registered[channel]? = some r →
      (registered ++ [(id, options.timeout)])[channel]? = some r :=
    fun hr => List.getElem?_append_left (List.getElem?_eq_some_iff.1 hr).1 ▸ hr
  constructor
  case length => simp [ChannelManager.added, h.length]
  case plain => exact List.forall_mem_append.2 ⟨h.plain, by simpa using hid⟩
  case created =>
    intro name channel hname
    simp only [ChannelManager.added] at hname ⊢
    split at hname
    · obtain rfl := Option.some.inj hname
      exact Nat.lt_succ_self _
    · exact Nat.lt_succ_of_lt (h.created name channel hname)
  case name =>
    intro name channel hname hchannel
    by_cases hne : name = id
    · subst hne
      obtain rfl : m.created = channel := by simpa [ChannelManager.added] using hchannel
      exact ⟨options.timeout, by simp [← h.length]⟩
    · rw [added_channels_of_ne hname hne halias] at hchannel
      obtain ⟨timeout, hr⟩ := h.name name channel hname hchannel
      exact ⟨timeout, hold hr⟩
  case aliased =>
    intro channel hlt name hname
    obtain hlt | rfl := Nat.lt_or_eq_of_le (Nat.le_of_lt_succ hlt)
    · rw [added_objects_of_lt hlt] at hname
      exact h.aliased channel hlt name hname
    · rw [hnew] at hname
      exact halias name hname
  case timer =>
    intro channel hlt t ht
    obtain hlt | rfl := Nat.lt_or_eq_of_le (Nat.le_of_lt_succ hlt)
    · rw [added_objects_of_lt hlt] at ht
      obtain ⟨hnumber, timeout, hr⟩ := h.timer channel hlt t ht
      exact ⟨hnumber, timeout, hold hr⟩
    · rw [hnew] at ht
      cases ht
  case timers => exact h.timers
  case number =>
    intro t ht channel hlt t' ht'
    obtain hlt | rfl := Nat.lt_or_eq_of_le (Nat.le_of_lt_succ hlt)
    · rw [added_objects_of_lt hlt] at ht'
      exact h.number t ht channel hlt t' ht'
    · rw [hnew] at ht'
      cases ht'

theorem Named.armed_added (h : Named isAlias registered m)
    (halias : ∀ name ∈ (registration options now).truthyAlias, isAlias name = true) {other : String}
    (hother : isAlias other = false) (hne : other ≠ id) (harmed : m.Armed other) :
    (m.added id options now).Armed other := by
  intro channel hchannel hfinite
  rw [added_channels_of_ne hother hne halias] at hchannel
  rw [added_objects_of_lt (h.created other channel hchannel)] at hfinite
  exact harmed channel hchannel hfinite

end ChannelManager

/-! ### The manager in the course of time -/

/-- A timeout that was emitted: the channel, the time since its last activity, and its timeout. -/
structure Emission where
  channel : Nat
  inactive : Int
  timeout : Int
  deriving DecidableEq

/-- A channel manager with the last reading of the clock; what is expected of it is said of the names
and timeouts with which the channels were registered, of their last activities, and of the events
`timeout`. -/
structure TimedChannels where
  manager : ChannelManager
  clock : Int
  registered : List (String × Int)
  activity : Nat → Int
  emitted : List Emission

/-- The calls, with the readings of the clock, and the timers by their places among those armed. -/
inductive TimedEvent where
  | register (id : String) (options : ChannelOptions) (now later : Int)
  | unregister (name : String)
  | keepalive (name : String) (now : Int)
  | updateTimeout (name : String) (timeout : Int)
  | fire (k : Nat) (now : Int)

namespace TimedChannels

/-- No channel is registered. -/
def new (clock : Int) : TimedChannels := ⟨.new, clock, [], fun _ => 0, []⟩

/-- A channel is registered; one that is over at its first check times out at once. -/
def register (s : TimedChannels) (id : String) (options : ChannelOptions) (now later : Int) :
    TimedChannels :=
  match s.manager.register id options now later with
  | .error _ => { s with clock := now }
  | .ok (manager, timedOut) =>
    { manager
      clock := later
      registered := s.registered ++ [(id, options.timeout)]
      activity := Function.update s.activity s.manager.created now
      emitted := s.emitted ++
        if timedOut then [⟨s.manager.created, later - now, options.timeout⟩] else [] }

/-- A channel is kept alive, and its activity noted. -/
def keepalive (s : TimedChannels) (name : String) (now : Int) : TimedChannels :=
  { s with
    manager := s.manager.keepalive name now
    clock := now
    activity := (s.manager.channels name).elim s.activity fun channel =>
      Function.update s.activity channel now }

/-- A timer of the channel `id` fires. -/
def fire (s : TimedChannels) (k : Nat) (id : String) (now : Int) : TimedChannels :=
  { s with
    manager := (s.manager.fireAt k now).1
    clock := now
    emitted := s.emitted ++
      if (s.manager.fireAt k now).2 then (s.manager.channels id).toList.map fun channel =>
        ⟨channel, now - s.activity channel, (s.manager.objects channel).timeout⟩
      else [] }

variable (isAlias : String → Bool)

/-- What comes after an event, where the clock does not go back, and names and aliases are
distinct. -/
def next (s : TimedChannels) : TimedEvent → Option TimedChannels
  | .register id options now later =>
    if s.clock ≤ now ∧ now ≤ later ∧ isAlias id = false ∧
        (ChannelManager.registration options now).truthyAlias.all isAlias then
      some (s.register id options now later)
    else none
  | .unregister name => some { s with manager := s.manager.unregister name }
  | .keepalive name now => if s.clock ≤ now then some (s.keepalive name now) else none
  | .updateTimeout name timeout =>
    some { s with manager := s.manager.updateTimeout name timeout }
  | .fire k now =>
    if s.clock ≤ now then (s.manager.timers[k]?).map fun t => s.fire k t.id now else none

/-- The runs of the channels. -/
def system : Lts TimedChannels TimedEvent := .ofNext (next isAlias)

/-- The timeouts are exact: at most one for a registration, none before its time, and none for a
channel that was registered with the infinite timeout; and a timer is armed for every channel with a
finite one. -/
structure Exact (s : TimedChannels) : Prop where
  once : (s.emitted.map Emission.channel).Nodup
  inTime : ∀ e ∈ s.emitted, e.timeout ≤ e.inactive
  finite : ∀ e ∈ s.emitted, ∀ r ∈ s.registered[e.channel]?, r.2 ≠ 1
  armed : ∀ id, isAlias id = false → s.manager.Armed id

/-- The condition on the steps.  A channel with the infinite timeout is checked within the same
millisecond, and a timer that is left of an earlier registration does not find it inactive; a timeout
is only raised above 1 while a timer is armed; and a channel that is unregistered under its alias
leaves another timer, if its name stays registered with a finite timeout. -/
def OnTime (s : TimedChannels) : TimedEvent → Prop
  | .register _ options now later => options.timeout = 1 → later = now ∨
      ∃ name ∈ (ChannelManager.registration options now).truthyAlias,
        (s.manager.channels name).isSome
  | .unregister name => ∀ channel ∈ s.manager.channels name,
      ∀ t ∈ (s.manager.objects channel).timer, t.id ≠ name →
        ∀ other ∈ s.manager.channels t.id, 1 < (s.manager.objects other).timeout →
          ∃ t' ∈ s.manager.timers, t'.id = t.id ∧ t'.number ≠ t.number
  | .updateTimeout name timeout => ∀ channel ∈ s.manager.channels name, ∀ id, isAlias id = false →
      s.manager.channels id = some channel →
        1 < (s.manager.objects channel).timeout + timeout → s.manager.HasTimer id
  | .fire k now => ∀ t ∈ s.manager.timers[k]?, ∀ channel ∈ s.manager.channels t.id,
      s.registered[channel]? = some (t.id, 1) →
        now - s.activity channel < (s.manager.objects channel).timeout
  | .keepalive _ _ => True

variable {isAlias} {s s' : TimedChannels}

/-! ### The invariant -/

/-- The ghosts are what the manager has, and a channel whose timeout was emitted has no name. -/
structure Sound (isAlias : String → Bool) (s : TimedChannels) : Prop where
  named : s.manager.Named isAlias s.registered
  activity : ∀ channel, channel < s.manager.created →
    (s.manager.objects channel).lastActivity = s.activity channel
  gone : ∀ e ∈ s.emitted, e.channel < s.manager.created ∧
    ∀ name, isAlias name = false → s.manager.channels name ≠ some e.channel

theorem sound_new (isAlias : String → Bool) (clock : Int) : (new clock).Sound isAlias :=
  ⟨ChannelManager.named_new isAlias, nofun, nofun⟩

theorem exact_new (isAlias : String → Bool) (clock : Int) : (new clock).Exact isAlias :=
  ⟨List.nodup_nil, nofun, nofun, nofun⟩

/-! ### The steps -/

/-- A check of the channel `id`, with the timeout that it may emit. -/
def checked (s : TimedChannels) (id : String) (now : Int) : TimedChannels :=
  { s with
    manager := (s.manager.check id now).1
    clock := now
    emitted := s.emitted ++
      if (s.manager.check id now).2 then (s.manager.channels id).toList.map fun channel =>
        ⟨channel, now - s.activity channel, (s.manager.objects channel).timeout⟩
      else [] }

/-- The new channel before its first check. -/
def added (s : TimedChannels) (id : String) (options : ChannelOptions) (now : Int) :
    TimedChannels :=
  { s with
    manager := s.manager.added id options now
    clock := now
    registered := s.registered ++ [(id, options.timeout)]
    activity := Function.update s.activity s.manager.created now }

/-- The timer with this place is armed no longer. -/
def fired (s : TimedChannels) (k : Nat) : TimedChannels :=
  { s with manager := { s.manager with timers := s.manager.timers.eraseIdx k } }

variable {id : String} {options : ChannelOptions} {now later : Int}

theorem fire_eq {k : Nat} {t : Timer} (h : s.manager.timers[k]? = some t) :
    s.fire k t.id now = (s.fired k).checked t.id now := by
  simp only [fire, ChannelManager.fireAt, h]
  rfl

theorem register_eq (s : TimedChannels) (id : String) (options : ChannelOptions) (now later : Int) :
    (∃ name ∈ (ChannelManager.registration options now).truthyAlias,
        (s.manager.channels name).isSome) ∧
        s.register id options now later = { s with clock := now } ∨
      (∀ name ∈ (ChannelManager.registration options now).truthyAlias,
        s.manager.channels name = none) ∧
        s.register id options now later = (s.added id options now).checked id later := by
  obtain ⟨name, hname, htaken, heq⟩ | ⟨hfree, heq⟩ :=
    s.manager.register_eq id options now later
  · exact .inl ⟨⟨name, hname, htaken⟩, by simp [register, heq]⟩
  · refine .inr ⟨hfree, ?_⟩
    simp [register, heq, checked, added, ChannelManager.added, ChannelManager.registration]

theorem Sound.added (h : s.Sound isAlias) (hid : isAlias id = false)
    (halias : ∀ name ∈ (ChannelManager.registration options now).truthyAlias, isAlias name = true) :
    (s.added id options now).Sound isAlias where
  named := h.named.added hid halias
  activity channel hlt := by
    obtain hlt | rfl := Nat.lt_or_eq_of_le (Nat.le_of_lt_succ hlt)
    · dsimp only [TimedChannels.added]
      rw [ChannelManager.added_objects_of_lt hlt, Function.update_of_ne (Nat.ne_of_lt hlt)]
      exact h.activity channel hlt
    · simp [TimedChannels.added, ChannelManager.added, ChannelManager.registration]
  gone e he := by
    obtain ⟨hlt, hgone⟩ := h.gone e he
    refine ⟨Nat.lt_succ_of_lt hlt, fun name hname hchannel => ?_⟩
    by_cases hne : name = id
    · have hnew : s.manager.created = e.channel := by
        simpa [TimedChannels.added, ChannelManager.added, hne] using hchannel
      exact Nat.lt_irrefl _ (hnew ▸ hlt)
    · dsimp only [TimedChannels.added] at hchannel
      rw [ChannelManager.added_channels_of_ne hname hne halias] at hchannel
      exact hgone name hname hchannel

theorem Sound.fired (h : s.Sound isAlias) (k : Nat) : (s.fired k).Sound isAlias where
  named := h.named.sub rfl rfl (fun _ => ⟨rfl, rfl⟩) (fun _ _ hname => hname)
    fun _ ht => List.mem_of_mem_eraseIdx ht
  activity := h.activity
  gone := h.gone

theorem mem_emitted_checked {e : Emission} (he : e ∈ (s.checked id now).emitted) :
    e ∈ s.emitted ∨ (s.manager.check id now).2 = true ∧ s.manager.channels id = some e.channel ∧
      e.inactive = now - s.activity e.channel ∧
      e.timeout = (s.manager.objects e.channel).timeout := by
  obtain he | he := List.mem_append.1 he
  · exact .inl he
  · split at he
    · rename_i hout
      obtain ⟨channel, hchannel, rfl⟩ := List.mem_map.1 he
      exact .inr ⟨hout, Option.mem_toList.1 hchannel, rfl, rfl⟩
    · cases he

theorem Sound.checked (h : s.Sound isAlias) (hid : isAlias id = false) :
    (s.checked id now).Sound isAlias := by
  obtain ⟨hcreated, hactivity, hchannels⟩ := ChannelManager.check_frame s.manager id now
  refine ⟨h.named.check hid now, fun channel hlt => ?_, fun e he => ?_⟩
  · dsimp only [TimedChannels.checked] at hlt ⊢
    rw [hactivity]
    exact h.activity channel (hcreated ▸ hlt)
  · dsimp only [TimedChannels.checked]
    rw [hcreated]
    obtain he | ⟨hout, hchannel, -⟩ := mem_emitted_checked he
    · obtain ⟨hlt, hgone⟩ := h.gone e he
      exact ⟨hlt, fun name hname hchannel => hgone name hname (hchannels name e.channel hchannel)⟩
    · exact ⟨h.named.created id e.channel hchannel,
        fun name hname => h.named.gone_of_check hid hchannel hout hname⟩

/-- What is expected of the timeouts that were emitted. -/
structure Emits (s : TimedChannels) : Prop where
  once : (s.emitted.map Emission.channel).Nodup
  inTime : ∀ e ∈ s.emitted, e.timeout ≤ e.inactive
  finite : ∀ e ∈ s.emitted, ∀ r ∈ s.registered[e.channel]?, r.2 ≠ 1

theorem Exact.emits (h : s.Exact isAlias) : s.Emits := ⟨h.once, h.inTime, h.finite⟩

/-- The timeout of a check is in time, and the only one of its channel. -/
theorem exact_checked_iff (h : s.Sound isAlias) (hemits : s.Emits) (hid : isAlias id = false)
    (hothers : ∀ other, isAlias other = false → other ≠ id → s.manager.Armed other) :
    (s.checked id now).Exact isAlias ↔ ∀ channel ∈ s.manager.channels id,
      s.registered[channel]? = some (id, 1) →
        now - s.activity channel < (s.manager.objects channel).timeout := by
  have hout := s.manager.check_timedOut_iff id now
  constructor
  · intro hexact channel hchannel hr
    by_contra hover
    have hlt := h.named.created id channel hchannel
    have hemitted : (⟨channel, now - s.activity channel, (s.manager.objects channel).timeout⟩ :
        Emission) ∈ (s.checked id now).emitted := by
      have htimedOut : (s.manager.check id now).2 = true :=
        hout.2 ⟨channel, hchannel, by rw [h.activity channel hlt]; exact Int.not_lt.mp hover⟩
      simp [TimedChannels.checked, htimedOut, Option.mem_def.1 hchannel]
    exact hexact.finite _ hemitted (id, 1) hr rfl
  · intro honTime
    refine ⟨?_, fun e he => ?_, fun e he r hr => ?_, fun other hother =>
      h.named.armed_check hid hothers now other hother⟩
    · have hnew : (s.checked id now).emitted.map Emission.channel =
          s.emitted.map Emission.channel ++
            if (s.manager.check id now).2 then (s.manager.channels id).toList else [] := by
        simp only [TimedChannels.checked, List.map_append]
        split <;> simp [Function.comp_def]
      rw [hnew]
      split
      · cases hchannel : s.manager.channels id with
        | none => simpa using hemits.once
        | some channel =>
          refine List.nodup_append.2 ⟨hemits.once, List.nodup_singleton channel, ?_⟩
          intro other hother channel' hchannel' hsame
          obtain ⟨e, he, rfl⟩ := List.mem_map.1 hother
          obtain rfl := List.mem_singleton.1 hchannel'
          exact (h.gone e he).2 id hid (hsame ▸ hchannel)
      · simpa using hemits.once
    · obtain he | ⟨htimedOut, hchannel, hinactive, htimeout⟩ := mem_emitted_checked he
      · exact hemits.inTime e he
      · obtain ⟨channel, hchannel', hover⟩ := hout.1 htimedOut
        obtain rfl := Option.some.inj (hchannel.symm.trans hchannel')
        rw [hinactive, htimeout, ← h.activity _ (h.named.created id _ hchannel)]
        exact hover
    · obtain he | ⟨htimedOut, hchannel, -⟩ := mem_emitted_checked he
      · exact hemits.finite e he r hr
      · obtain ⟨channel, hchannel', hover⟩ := hout.1 htimedOut
        obtain rfl := Option.some.inj (hchannel.symm.trans hchannel')
        intro hinfinite
        obtain ⟨timeout, hr'⟩ := h.named.name id _ hid hchannel
        obtain rfl : r = (id, timeout) := Option.some.inj (hr.symm.trans hr')
        obtain rfl : timeout = 1 := hinfinite
        have hin := honTime _ hchannel hr'
        rw [← h.activity _ (h.named.created id _ hchannel)] at hin
        exact absurd hover (Int.not_le.mpr hin)

theorem Sound.unregister (h : s.Sound isAlias) (name : String) :
    Sound isAlias { s with manager := s.manager.unregister name } := by
  obtain ⟨hobjects, hcreated, -⟩ := s.manager.unregister_frame name
  refine ⟨h.named.unregister, fun channel hlt => ?_, fun e he => ?_⟩
  · dsimp only at hlt ⊢
    rw [hobjects]
    exact h.activity channel (hcreated ▸ hlt)
  · obtain ⟨hlt, hgone⟩ := h.gone e he
    dsimp only
    rw [hcreated]
    exact ⟨hlt, fun other hother hchannel =>
      hgone other hother (ChannelManager.channels_of_unregister hchannel)⟩

theorem Sound.keepalive (h : s.Sound isAlias) (name : String) (now : Int) :
    (s.keepalive name now).Sound isAlias := by
  have hnamed : (s.manager.keepalive name now).Named isAlias s.registered :=
    h.named.assign (f := fun c => { c with lastActivity := now }) (fun _ => rfl) fun _ => rfl
  refine ⟨hnamed, fun channel hlt => ?_, fun e he => ?_⟩
  · have hlt : channel < s.manager.created := by
      simpa [TimedChannels.keepalive, ChannelManager.keepalive] using hlt
    simp only [TimedChannels.keepalive, ChannelManager.keepalive, ChannelManager.assign_objects]
    cases hname : s.manager.channels name with
    | none => simpa using h.activity channel hlt
    | some other =>
      by_cases hsame : other = channel
      · simp [hsame]
      · have hne : channel ≠ other := fun h => hsame h.symm
        simpa [hsame, hne] using h.activity channel hlt
  · simpa [TimedChannels.keepalive, ChannelManager.keepalive] using h.gone e he

theorem Sound.updateTimeout (h : s.Sound isAlias) (name : String) (timeout : Int) :
    Sound isAlias { s with manager := s.manager.updateTimeout name timeout } := by
  have hnamed : (s.manager.updateTimeout name timeout).Named isAlias s.registered :=
    h.named.assign (f := fun c => { c with timeout := c.timeout + timeout }) (fun _ => rfl)
      fun _ => rfl
  refine ⟨hnamed, fun channel hlt => ?_, fun e he => ?_⟩
  · have hlt : channel < s.manager.created := by simpa [ChannelManager.updateTimeout] using hlt
    simp only [ChannelManager.updateTimeout, ChannelManager.assign_objects]
    split <;> exact h.activity channel hlt
  · simpa [ChannelManager.updateTimeout] using h.gone e he

/-- Every step keeps what the names and the activities are. -/
theorem Sound.next (h : s.Sound isAlias) {event : TimedEvent}
    (hnext : s.next isAlias event = some s') : s'.Sound isAlias := by
  cases event with
  | register id options now later =>
    obtain ⟨hguard, ⟨⟩⟩ := Option.ite_none_right_eq_some.1 hnext
    obtain ⟨-, -, hid, halias⟩ := hguard
    have halias : ∀ name ∈ (ChannelManager.registration options now).truthyAlias,
        isAlias name = true := (Option.all_eq_true _ _).1 halias
    obtain ⟨-, heq⟩ | ⟨-, heq⟩ := register_eq s id options now later
    · rw [heq]
      exact ⟨h.named, h.activity, h.gone⟩
    · rw [heq]
      exact (h.added hid halias).checked hid
  | unregister name =>
    obtain rfl := Option.some.inj hnext
    exact h.unregister name
  | keepalive name now =>
    obtain ⟨-, ⟨⟩⟩ := Option.ite_none_right_eq_some.1 hnext
    exact h.keepalive name now
  | updateTimeout name timeout =>
    obtain rfl := Option.some.inj hnext
    exact h.updateTimeout name timeout
  | fire k now =>
    obtain ⟨-, hnext⟩ := Option.ite_none_right_eq_some.1 hnext
    obtain ⟨t, ht, rfl⟩ := Option.map_eq_some_iff.1 hnext
    rw [fire_eq ht]
    exact (h.fired k).checked (h.named.timers t (List.mem_of_getElem? ht)).2

/-! ### Exact timeouts -/

theorem exact_register_iff (h : s.Sound isAlias) (hexact : s.Exact isAlias)
    (hid : isAlias id = false)
    (halias : ∀ name ∈ (ChannelManager.registration options now).truthyAlias, isAlias name = true)
    (hlater : now ≤ later) :
    (s.register id options now later).Exact isAlias
      ↔ s.OnTime isAlias (.register id options now later) := by
  obtain ⟨htaken, heq⟩ | ⟨hfree, heq⟩ := register_eq s id options now later
  · rw [heq]
    exact iff_of_true ⟨hexact.once, hexact.inTime, hexact.finite, hexact.armed⟩ fun _ => .inr htaken
  · have hemits : (s.added id options now).Emits := by
      refine ⟨hexact.once, hexact.inTime, fun e he r hr => hexact.finite e he r ?_⟩
      have hlt : e.channel < s.registered.length := h.named.length ▸ (h.gone e he).1
      rwa [TimedChannels.added, List.getElem?_append_left hlt] at hr
    have hnew : (s.added id options now).manager.channels id = some s.manager.created := by
      simp [TimedChannels.added, ChannelManager.added]
    have hregistered : (s.added id options now).registered[s.manager.created]? =
        some (id, options.timeout) := by
      simp [TimedChannels.added, ← h.named.length]
    have hobject : (s.added id options now).manager.objects s.manager.created =
        ChannelManager.registration options now := Function.update_self ..
    have hactivity : (s.added id options now).activity s.manager.created = now :=
      Function.update_self ..
    rw [heq, exact_checked_iff (h.added hid halias) hemits hid fun other hother hne =>
      h.named.armed_added halias hother hne (hexact.armed other hother)]
    constructor
    · intro hin hinfinite
      have hlt := hin _ hnew (hregistered.trans (by rw [hinfinite]))
      rw [hactivity, hobject] at hlt
      simp only [ChannelManager.registration, hinfinite] at hlt
      exact .inl (by omega)
    · intro honTime channel hchannel hr
      obtain rfl := Option.some.inj (hnew.symm.trans hchannel)
      have hinfinite : options.timeout = 1 :=
        congrArg Prod.snd (Option.some.inj (hregistered.symm.trans hr))
      obtain rfl | ⟨name, hname, htaken⟩ := honTime hinfinite
      · rw [hactivity, hobject]
        simp [ChannelManager.registration, hinfinite]
      · simp [hfree name hname] at htaken

/-- Only the timer of the channel is cleared, which is missed by another channel of its name. -/
theorem exact_unregister_iff (h : s.Sound isAlias) (hexact : s.Exact isAlias) (name : String) :
    Exact isAlias { s with manager := s.manager.unregister name }
      ↔ s.OnTime isAlias (.unregister name) := by
  constructor
  · intro hafter channel hchannel t ht hne other hother hfinite
    have hlt := h.named.created name channel hchannel
    obtain ⟨-, timeout, hr⟩ := h.named.timer channel hlt t ht
    have hplain : isAlias t.id = false := h.named.plain _ (List.mem_of_getElem? hr)
    have hkept : (s.manager.unregister name).channels t.id = some other := by
      rw [ChannelManager.unregister_channels hchannel, if_neg]
      · exact hother
      · rintro (hsame | hsame)
        · exact hne hsame
        · rw [h.named.aliased channel hlt t.id hsame] at hplain
          cases hplain
    obtain ⟨t', ht', hid'⟩ := hafter.armed t.id hplain other hkept
      (by rw [(ChannelManager.unregister_frame _ _).1]; exact hfinite)
    rw [ChannelManager.unregister_timers hchannel, Option.mem_def.1 ht] at ht'
    obtain ⟨ht', hnumber⟩ := List.mem_filter.1 ht'
    exact ⟨t', ht', hid', by simpa using hnumber⟩
  · intro honTime
    refine ⟨hexact.once, hexact.inTime, hexact.finite, fun id hid => ?_⟩
    cases hname : s.manager.channels name with
    | none =>
      rw [ChannelManager.unregister_of_none hname]
      exact hexact.armed id hid
    | some channel =>
      intro other hother hfinite
      rw [ChannelManager.unregister_channels hname] at hother
      split at hother
      · cases hother
      · rename_i hkept
        rw [(ChannelManager.unregister_frame _ _).1] at hfinite
        obtain ⟨t, ht, rfl⟩ := hexact.armed id hid other hother hfinite
        by_cases hcleared : ∃ timer ∈ (s.manager.objects channel).timer, t.number = timer.number
        · obtain ⟨timer, htimer, hnumber⟩ := hcleared
          have hlt := h.named.created name channel hname
          have hsame := h.named.number t ht channel hlt timer htimer hnumber
          obtain ⟨t', ht', hid', hne'⟩ := honTime channel hname timer htimer
            (fun hn => hkept (.inl (hsame.trans hn))) other (hsame ▸ hother) hfinite
          refine ⟨t', ?_, hid'.trans hsame.symm⟩
          rw [ChannelManager.unregister_timers hname, Option.mem_def.1 htimer]
          exact List.mem_filter.2 ⟨ht', by simpa using hne'⟩
        · refine ⟨t, ?_, rfl⟩
          rw [ChannelManager.unregister_timers hname]
          refine List.mem_filter.2 ⟨ht, (Option.all_eq_true _ _).2 fun timer htimer => ?_⟩
          have hne : t.number ≠ timer.number := fun hsame => hcleared ⟨timer, htimer, hsame⟩
          simpa using hne

theorem Exact.keepalive (hexact : s.Exact isAlias) (name : String) (now : Int) :
    (s.keepalive name now).Exact isAlias := by
  refine ⟨hexact.once, hexact.inTime, hexact.finite, fun id hid channel hchannel hfinite => ?_⟩
  simp only [TimedChannels.keepalive, ChannelManager.keepalive, ChannelManager.assign_channels,
    ChannelManager.assign_objects] at hchannel hfinite
  have hfinite : 1 < (s.manager.objects channel).timeout := by
    split at hfinite <;> exact hfinite
  obtain ⟨t, ht, htid⟩ := hexact.armed id hid channel hchannel hfinite
  exact ⟨t, by simpa [TimedChannels.keepalive, ChannelManager.keepalive] using ht, htid⟩

/-- An extension arms no timer. -/
theorem exact_updateTimeout_iff (hexact : s.Exact isAlias) (name : String)
    (timeout : Int) :
    Exact isAlias { s with manager := s.manager.updateTimeout name timeout }
      ↔ s.OnTime isAlias (.updateTimeout name timeout) := by
  have htimers : (s.manager.updateTimeout name timeout).timers = s.manager.timers :=
    ChannelManager.assign_timers
  have hchannels : (s.manager.updateTimeout name timeout).channels = s.manager.channels :=
    ChannelManager.assign_channels
  have hobject : ∀ channel, ((s.manager.updateTimeout name timeout).objects channel).timeout =
      if s.manager.channels name = some channel then (s.manager.objects channel).timeout + timeout
      else (s.manager.objects channel).timeout := by
    intro channel
    simp only [ChannelManager.updateTimeout, ChannelManager.assign_objects]
    split <;> rfl
  constructor
  · intro hafter channel hchannel id hid hname hfinite
    obtain ⟨t, ht, htid⟩ := hafter.armed id hid channel (by rw [hchannels]; exact hname)
      (by rw [hobject, if_pos (Option.mem_def.1 hchannel)]; exact hfinite)
    exact ⟨t, htimers ▸ ht, htid⟩
  · intro honTime
    refine ⟨hexact.once, hexact.inTime, hexact.finite, fun id hid channel hchannel hfinite => ?_⟩
    dsimp only at hchannel hfinite
    rw [hchannels] at hchannel
    rw [hobject] at hfinite
    have hhas : s.manager.HasTimer id := by
      split at hfinite
      · rename_i hname
        exact honTime channel hname id hid hchannel hfinite
      · exact hexact.armed id hid channel hchannel hfinite
    obtain ⟨t, ht, htid⟩ := hhas
    exact ⟨t, htimers.symm ▸ ht, htid⟩

theorem exact_fire_iff (h : s.Sound isAlias) (hexact : s.Exact isAlias) {k : Nat} {t : Timer}
    (ht : s.manager.timers[k]? = some t) :
    (s.fire k t.id now).Exact isAlias ↔ s.OnTime isAlias (.fire k now) := by
  have hid := (h.named.timers t (List.mem_of_getElem? ht)).2
  have hemits : (s.fired k).Emits := ⟨hexact.once, hexact.inTime, hexact.finite⟩
  rw [fire_eq ht, exact_checked_iff (h.fired k) hemits hid]
  · simp [OnTime, ht, TimedChannels.fired]
  · intro other hother hne channel hchannel hfinite
    obtain ⟨t', ht', rfl⟩ := hexact.armed other hother channel hchannel hfinite
    obtain ⟨i, hi⟩ := List.mem_iff_getElem?.1 ht'
    refine ⟨t', List.mem_eraseIdx_iff_getElem?.2 ⟨i, ?_, hi⟩, rfl⟩
    rintro rfl
    rw [ht] at hi
    exact hne (congrArg Timer.id (Option.some.inj hi)).symm

/-- A step leaves the timeouts exact exactly when it meets the condition. -/
theorem exact_next_iff (h : s.Sound isAlias) (hexact : s.Exact isAlias) {event : TimedEvent}
    (hnext : s.next isAlias event = some s') : s'.Exact isAlias ↔ s.OnTime isAlias event := by
  cases event with
  | register id options now later =>
    obtain ⟨hguard, ⟨⟩⟩ := Option.ite_none_right_eq_some.1 hnext
    obtain ⟨-, hlater, hid, halias⟩ := hguard
    exact exact_register_iff h hexact hid ((Option.all_eq_true _ _).1 halias) hlater
  | unregister name =>
    obtain rfl := Option.some.inj hnext
    exact exact_unregister_iff h hexact name
  | keepalive name now =>
    obtain ⟨-, ⟨⟩⟩ := Option.ite_none_right_eq_some.1 hnext
    exact iff_of_true (hexact.keepalive name now) trivial
  | updateTimeout name timeout =>
    obtain rfl := Option.some.inj hnext
    exact exact_updateTimeout_iff hexact name timeout
  | fire k now =>
    obtain ⟨-, hnext⟩ := Option.ite_none_right_eq_some.1 hnext
    obtain ⟨t, ht, rfl⟩ := Option.map_eq_some_iff.1 hnext
    exact exact_fire_iff h hexact ht

/-- The runs whose timeouts are exact throughout are the runs whose steps all meet the condition. -/
theorem exact_iff (isAlias : String → Bool) (clock : Int) (events : List TimedEvent)
    (s : TimedChannels) :
    (system isAlias).Along (Exact isAlias) (new clock) events s ↔
      ((system isAlias).restrict (OnTime isAlias)).Run (new clock) events s :=
  Lts.along_iff_restrict (I := Sound isAlias) (fun _ _ _ h hnext => h.next hnext)
    (fun _ _ _ h hexact hnext => exact_next_iff h hexact hnext) (sound_new isAlias clock)
    (exact_new isAlias clock)

/-- A millisecond passes between the two readings of the clock in one call, and the channel with the
infinite timeout is over. -/
theorem not_exact_of_infinite : ¬∀ (isAlias : String → Bool) (clock : Int)
    (events : List TimedEvent) (s : TimedChannels),
      (system isAlias).Run (new clock) events s → s.Exact isAlias := by
  intro h
  have hrun : (system fun _ => false).Run (new 0) [.register "group" ⟨1, none⟩ 0 1]
      ((new 0).register "group" ⟨1, none⟩ 0 1) := .more rfl (.done _)
  have hemitted : ((new 0).register "group" ⟨1, none⟩ 0 1).emitted = [⟨0, 1, 1⟩] := rfl
  have hregistered : ((new 0).register "group" ⟨1, none⟩ 0 1).registered = [("group", 1)] := rfl
  refine (h _ _ _ _ hrun).finite ⟨0, 1, 1⟩ (by simp [hemitted]) ("group", 1) ?_ rfl
  simp [hregistered]

end TimedChannels

end DeviceHub

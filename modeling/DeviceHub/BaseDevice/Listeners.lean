import DeviceHub.BaseDevice.Bookkeeping

/-!
# Listeners of the group plugin

Other plugins of a device listen to what the group plugin emits when the device joins and leaves a
group.  A plugin of this kind is told of the group in no other way, unless it asks for the group
itself.

## Main definitions

* `GroupEvent.after` : the group that the listeners know of.
* `GroupManager.emissions` : what an event makes the group plugin emit.
* `Listener`, `Listener.system` : a plugin that listens, beside the group plugin.

## Main results

* `GroupManager.Kept.emits_handle` : what is emitted tells of every change of the group.
* `Listener.along_iff` : an invariant of the plugin that what is emitted cannot break holds in
  exactly the runs in which its own events do not.
-/

namespace DeviceHub

namespace BaseDevice

/-- The group after something was emitted. -/
def GroupEvent.after (current : Option GroupState) : GroupEvent → Option GroupState
  | .join group _ => some group
  | .leave => none
  | .autojoin _ _ => current

/-- The group plugin emits a `join` for a device in no group, and a `leave` for one in a group. -/
def GroupEvent.Possible (current : Option GroupState) : GroupEvent → Prop
  | .join _ _ => current = none
  | .leave => current.isSome
  | .autojoin _ _ => True

/-- A list of emissions that can follow each other. -/
def GroupEvent.Follow : Option GroupState → List GroupEvent → Prop
  | _, [] => True
  | current, e :: es => e.Possible current ∧ Follow (e.after current) es

theorem GroupEvent.foldl_after {es : List GroupEvent} (hjoin : ∀ group keys, .join group keys ∉ es)
    (hleave : .leave ∉ es) (current : Option GroupState) :
    es.foldl GroupEvent.after current = current := by
  induction es with
  | nil => rfl
  | cons e es ih =>
    rw [List.mem_cons, not_or] at hleave
    cases e with
    | join group keys => exact absurd List.mem_cons_self (hjoin group keys)
    | leave => exact absurd rfl hleave.1
    | autojoin identifier joined =>
      exact ih (fun group keys he => hjoin group keys (List.mem_cons_of_mem _ he)) hleave.2

namespace GroupManager

section Emissions

variable (o : DeviceOptions) (d : GroupManager)

/-- What `leave` emits. -/
def leaving : List GroupEvent := if d.currentGroup.isSome then [.leave] else []

/-- What `join` emits; a rental that is over at once is left again. -/
def entering (newGroup : Option GroupState) (timeout : Option Nat) (keys : List String)
    (now later : Int) : List GroupEvent :=
  match truthy newGroup, d.currentGroup with
  | some group, none =>
    .join group keys :: if rentTime o timeout ≤ later - now then [.leave] else []
  | _, _ => []

/-- What an event makes the plugin emit. -/
def emissions : Event → List GroupEvent
  | .groupMessage _ message check now later =>
    match check with
    | .allowed => d.entering o message.owner message.timeout message.keys now later
    | _ => []
  | .autoGroupMessage message now later =>
    d.entering o message.owner (some 0) [] now later ++ [.autojoin message.identifier true]
  | .ungroupMessage _ check =>
    match check with
    | .allowed => d.leaving
    | _ => []
  | .timeout =>
    match d.timeouts with
    | timeout :: _ => if timeout.1 = timeout.2.group then d.leaving else []
    | [] => []
  | .absent => d.leaving
  | .keepalive _ | .routed _ _ | .timer _ _ => []

end Emissions

section NotEmitted

variable {o : DeviceOptions} {d : GroupManager} {identifier : String} {joined : Bool}

theorem autojoin_notMem_leaving : .autojoin identifier joined ∉ d.leaving := by
  simp only [leaving]
  split <;> simp

theorem autojoin_notMem_entering {newGroup : Option GroupState} {timeout : Option Nat}
    {keys : List String} {now later : Int} :
    .autojoin identifier joined ∉ d.entering o newGroup timeout keys now later := by
  simp only [entering]
  split
  · split <;> simp
  · simp

/-- Only an automatic request is answered with an `autojoin`. -/
theorem autojoin_notMem_emissions {event : Event}
    (hevent : ∀ message now later, event ≠ .autoGroupMessage message now later) :
    .autojoin identifier joined ∉ d.emissions o event := by
  cases event with
  | groupMessage channel message check now later =>
    cases check with
    | allowed => exact autojoin_notMem_entering
    | denied | failed => exact List.not_mem_nil
  | autoGroupMessage message now later => exact absurd rfl (hevent message now later)
  | ungroupMessage channel check =>
    cases check with
    | allowed => exact autojoin_notMem_leaving
    | denied | failed => exact List.not_mem_nil
  | timeout =>
    simp only [emissions]
    split
    · split
      · exact autojoin_notMem_leaving
      · exact List.not_mem_nil
    · exact List.not_mem_nil
  | absent => exact autojoin_notMem_leaving
  | keepalive | routed | timer => exact List.not_mem_nil

/-- A device in a group joins no other. -/
theorem join_notMem_emissions (hcurrent : d.currentGroup.isSome) {event : Event}
    {group : GroupState} {keys : List String} : .join group keys ∉ d.emissions o event := by
  have hentering {newGroup : Option GroupState} {timeout : Option Nat} {keys : List String}
      {now later : Int} : d.entering o newGroup timeout keys now later = [] := by
    obtain ⟨current, hsome⟩ := Option.isSome_iff_exists.1 hcurrent
    simp only [entering, hsome]
    split <;> simp_all
  have hleaving : .join group keys ∉ d.leaving := by
    simp only [leaving]
    split <;> simp
  cases event with
  | groupMessage channel message check now later =>
    cases check with
    | allowed => simp [emissions, hentering]
    | denied | failed => exact List.not_mem_nil
  | autoGroupMessage message now later => simp [emissions, hentering]
  | ungroupMessage channel check =>
    cases check with
    | allowed => exact hleaving
    | denied | failed => exact List.not_mem_nil
  | timeout =>
    simp only [emissions]
    split
    · split
      · exact hleaving
      · exact List.not_mem_nil
    · exact List.not_mem_nil
  | absent => exact hleaving
  | keepalive | routed | timer => exact List.not_mem_nil

theorem follow_leaving : GroupEvent.Follow d.currentGroup d.leaving := by
  simp only [leaving]
  split
  · rename_i hsome
    exact ⟨hsome, trivial⟩
  · trivial

/-- The emissions of an event can follow each other. -/
theorem follow_emissions (event : Event) :
    GroupEvent.Follow d.currentGroup (d.emissions o event) := by
  have hentering (newGroup : Option GroupState) (timeout : Option Nat) (keys : List String)
      (now later : Int) {es : List GroupEvent} (hes : ∀ current, GroupEvent.Follow current es) :
      GroupEvent.Follow d.currentGroup (d.entering o newGroup timeout keys now later ++ es) := by
    simp only [entering]
    split
    · rename_i hnone
      rw [hnone]
      split
      · exact ⟨rfl, rfl, hes _⟩
      · exact ⟨rfl, hes _⟩
    · exact hes _
  cases event with
  | groupMessage channel message check now later =>
    cases check with
    | allowed =>
      rw [emissions, ← List.append_nil (d.entering _ _ _ _ _ _)]
      exact hentering _ _ _ _ _ fun _ => trivial
    | denied | failed => trivial
  | autoGroupMessage message now later => exact hentering _ _ _ _ _ fun _ => ⟨trivial, trivial⟩
  | ungroupMessage channel check =>
    cases check with
    | allowed => exact follow_leaving
    | denied | failed => trivial
  | timeout =>
    simp only [emissions]
    split
    · split
      · exact follow_leaving
      · trivial
    · trivial
  | absent => exact follow_leaving
  | keepalive | routed | timer => trivial

end NotEmitted

/-- From `d` to `d'` the events `es` were emitted, and they tell how the group changed. -/
structure Emits (d d' : GroupManager) (es : List GroupEvent) : Prop where
  emitted : d'.emitted = d.emitted ++ es
  currentGroup : es.foldl GroupEvent.after d.currentGroup = d'.currentGroup

variable {o : DeviceOptions} {d d' d'' : GroupManager} {es es' : List GroupEvent}

theorem emits_refl (hemitted : d'.emitted = d.emitted)
    (hgroup : d'.currentGroup = d.currentGroup) : Emits d d' [] :=
  ⟨hemitted.trans (List.append_nil _).symm, hgroup.symm⟩

theorem Emits.trans (h : Emits d d' es) (h' : Emits d' d'' es') : Emits d d'' (es ++ es') where
  emitted := by rw [h'.emitted, h.emitted, List.append_assoc]
  currentGroup := by rw [List.foldl_append, h.currentGroup, h'.currentGroup]

theorem Emits.quiet (h : Emits d d' es) (h' : Emits d' d'' []) : Emits d d'' es := by
  have htrans := h.trans h'
  rwa [List.append_nil] at htrans

theorem emits_emit_autojoin (identifier : String) (joined : Bool) :
    Emits d (d.emit (.autojoin identifier joined)) [.autojoin identifier joined] :=
  ⟨rfl, rfl⟩

theorem emits_reply (channel : String) (reply : Reply) : Emits d (d.reply o channel reply) [] := by
  cases reply <;> exact emits_refl rfl rfl

theorem emits_timedOut (channel : String) : Emits d (d.timedOut channel) [] := by
  unfold GroupManager.timedOut
  split <;> exact emits_refl rfl rfl

theorem emits_leave (reason : String) : Emits d (d.leave o reason).2 d.leaving := by
  unfold GroupManager.leave leaving
  cases hd : d.currentGroup with
  | none => exact emits_refl rfl rfl
  | some group => exact ⟨rfl, rfl⟩

/-! ### Joining -/

theorem emits_extend (current : GroupState) : Emits d (d.extend o current).2 [] := by
  unfold GroupManager.extend
  dsimp only
  split <;> exact emits_refl rfl rfl

theorem Kept.emits_enter (h : Kept o d) (hnone : d.currentGroup = none) (newGroup : GroupState)
    (timeout : Option Nat) (usage : Option String) (keys : List String) (now later : Int) :
    Emits d (d.enter o newGroup timeout usage keys now later).2 [.join newGroup keys] := by
  -- the table of channels is empty, and so the channel of the group can be registered
  obtain ⟨channels, timedOut, hregister, -, -⟩ :=
    (h.unregistered hnone).register newGroup.group ⟨rentTime o timeout, some o.solo⟩ now later rfl
      o.solo_ne
  unfold GroupManager.enter
  dsimp only
  rw [hregister]
  cases timedOut with
  | false => exact ⟨rfl, rfl⟩
  | true =>
    dsimp only
    rw [if_pos rfl,
      timedOut_of_some (d := { d with currentGroup := some newGroup, channels := channels }) rfl]
    exact ⟨rfl, rfl⟩

/-- What `join` emits before it is awaited. -/
theorem Kept.emits_join (h : Kept o d) (newGroup : Option GroupState) (timeout : Option Nat)
    (usage : Option String) (keys : List String) (now later : Int) :
    Emits d (d.join o newGroup timeout usage keys now later).2
      (match truthy newGroup, d.currentGroup with
        | some group, none => [.join group keys]
        | _, _ => []) := by
  show Emits d (d.tryJoin o newGroup timeout usage keys now later).2 _
  unfold GroupManager.tryJoin
  cases hnew : truthy newGroup with
  | none => exact emits_refl rfl rfl
  | some group =>
    cases hd : d.currentGroup with
    | none => exact h.emits_enter hd group timeout usage keys now later
    | some current =>
      rw [truthy_of_ne (h.valid current hd)]
      dsimp only
      split
      · exact emits_refl rfl rfl
      · exact emits_extend current

theorem Kept.emits_awaitJoin (h : Kept o d) (newGroup : Option GroupState) (timeout : Option Nat)
    (usage : Option String) (keys : List String) (now later : Int) :
    Emits d (d.awaitJoin o newGroup timeout usage keys now later).2
      (d.entering o newGroup timeout keys now later) := by
  have hjoin := h.emits_join newGroup timeout usage keys now later
  obtain ⟨-, hjoins⟩ := h.join newGroup timeout usage keys now later
  set d' := (d.join o newGroup timeout usage keys now later).2 with hd'
  have hawait : (d.awaitJoin o newGroup timeout usage keys now later).2 =
      (d'.timeouts.drop d.timeouts.length).foldl
        (fun d timeout => GroupManager.onTimeout o timeout d)
        { d' with timeouts := d'.timeouts.take d.timeouts.length } := rfl
  -- without a new timeout there is nothing to handle at the await
  have hquiet : d'.timeouts = d.timeouts →
      (d.awaitJoin o newGroup timeout usage keys now later).2 = d' := by
    intro hsame
    rw [hawait, ← hsame, List.drop_length, List.take_length]
    rfl
  unfold entering
  cases hjoins with
  | invalid hnew heq =>
    rw [hnew] at hjoin ⊢
    rw [hquiet (by rw [heq])]
    exact hjoin
  | other hnew hcurrent hne heq =>
    rw [hnew, hcurrent] at hjoin ⊢
    rw [hquiet (by rw [heq])]
    exact hjoin
  | same hnew hcurrent heq hgroup htimeouts =>
    rw [hnew, hcurrent] at hjoin ⊢
    rw [hquiet htimeouts]
    exact hjoin
  | @entered g hnew hnone hgroup htimeouts =>
    rw [hnew, hnone] at hjoin ⊢
    dsimp only at hjoin ⊢
    by_cases hover : rentTime o timeout ≤ later - now
    · rw [if_pos hover] at htimeouts ⊢
      have hdrained : (d.awaitJoin o newGroup timeout usage keys now later).2 =
          (GroupManager.leave o "automatic_timeout" { d' with timeouts := d.timeouts }).2 := by
        rw [hawait, htimeouts, List.drop_left, List.take_left]
        exact if_pos rfl
      have hleave : Emits d' (d.awaitJoin o newGroup timeout usage keys now later).2 [.leave] := by
        rw [hdrained, leave_setTimeouts]
        have hemits := emits_leave (o := o) (d := d') "automatic_timeout"
        rw [leaving, if_pos (by rw [hgroup]; rfl)] at hemits
        exact ⟨hemits.emitted, hemits.currentGroup⟩
      exact hjoin.trans hleave
    · rw [if_neg hover, List.append_nil] at htimeouts
      rw [if_neg hover, hquiet htimeouts]
      exact hjoin

/-! ### The handlers -/

/-- **What an event makes the plugin emit** tells of every change of the group. -/
theorem Kept.emits_handle (h : Kept o d) (event : Event) :
    Emits d (d.handle o event) (d.emissions o event) := by
  cases event with
  | groupMessage channel message check now later =>
    show Emits d (d.onGroupMessage o channel message check now later).2 _
    unfold GroupManager.onGroupMessage
    cases check with
    | denied => exact emits_refl rfl rfl
    | failed text => exact emits_reply channel (.fail text)
    | allowed => exact (h.emits_awaitJoin _ _ _ _ _ _).quiet (emits_reply channel .okay)
  | autoGroupMessage message now later =>
    exact (h.emits_awaitJoin _ _ _ _ _ _).trans (emits_emit_autojoin _ _)
  | ungroupMessage channel check =>
    show Emits d (d.onUngroupMessage o channel check).2 _
    unfold GroupManager.onUngroupMessage
    cases check with
    | denied => exact emits_refl rfl rfl
    | failed text => exact emits_reply channel (.fail text)
    | allowed =>
      have hleave := emits_leave (o := o) (d := d) "ungroup_request"
      dsimp only
      split
      · rename_i heq
        rw [heq] at hleave
        exact hleave.quiet (emits_reply channel .okay)
      · rename_i heq
        rw [heq] at hleave
        exact hleave.quiet (emits_reply channel (.fail _))
      · rename_i heq
        rw [heq] at hleave
        exact hleave
  | keepalive now =>
    show Emits d (d.keepalive now) []
    unfold GroupManager.keepalive
    split <;> exact emits_refl rfl rfl
  | routed channel now => exact emits_refl rfl rfl
  | timer id now =>
    show Emits d (d.onTimer id now) []
    unfold GroupManager.onTimer
    dsimp only
    split
    · have hemits := emits_timedOut (d := { d with channels := (d.channels.fire id now).1 }) id
      exact ⟨hemits.emitted, hemits.currentGroup⟩
    · exact emits_refl rfl rfl
  | timeout =>
    unfold GroupManager.handle emissions
    cases hd : d.timeouts with
    | nil => exact emits_refl rfl rfl
    | cons timeout timeouts =>
      dsimp only
      unfold GroupManager.onTimeout
      split
      · rw [leave_setTimeouts]
        have hemits := emits_leave (o := o) (d := d) "automatic_timeout"
        exact ⟨hemits.emitted, hemits.currentGroup⟩
      · exact emits_refl rfl rfl
  | absent => exact emits_leave _

end GroupManager

/-! ### A plugin that listens -/

/-- The group plugin and a plugin that listens to it. -/
structure Listener (P : Type) where
  device : GroupManager
  plugin : P

namespace Listener

variable {P L : Type}

section Model

variable (o : DeviceOptions) (react : GroupEvent → P → P)
  (next : Option GroupState → P → L → Option P)

/-- An event of the group plugin, or one of the plugin that listens; the latter can ask for the
group. -/
def step (s : Listener P) : GroupManager.Event ⊕ L → Option (Listener P)
  | .inl event => some ⟨s.device.handle o event,
      (s.device.emissions o event).foldl (fun p e => react e p) s.plugin⟩
  | .inr l => (next s.device.currentGroup s.plugin l).map (⟨s.device, ·⟩)

/-- The plugin beside the group plugin. -/
def system : Lts (Listener P) (GroupManager.Event ⊕ L) := .ofNext (step o react next)

end Model

/-- What the plugin does by itself meets a condition on the group, the plugin and the event. -/
def Meets (G : Option GroupState → P → L → Prop) (s : Listener P) :
    GroupManager.Event ⊕ L → Prop
  | .inl _ => True
  | .inr l => G s.device.currentGroup s.plugin l

variable {o : DeviceOptions} {react : GroupEvent → P → P}
  {next : Option GroupState → P → L → Option P} {I : Option GroupState → P → Prop}

/-- What the listeners do keeps an invariant. -/
def Keeps (react : GroupEvent → P → P) (I : Option GroupState → P → Prop) : Prop :=
  ∀ current p e, e.Possible current → I current p → I (e.after current) (react e p)

theorem Keeps.foldl (hreact : Keeps react I) (es : List GroupEvent) {current : Option GroupState}
    {p : P} (hes : GroupEvent.Follow current es) (h : I current p) :
    I (es.foldl GroupEvent.after current) (es.foldl (fun p e => react e p) p) := by
  induction es generalizing current p with
  | nil => exact h
  | cons e es ih => exact ih hes.2 (hreact current p e hes.1 h)

theorem kept_of_step {s s' : Listener P} {l : GroupManager.Event ⊕ L}
    (h : GroupManager.Kept o s.device) (hstep : s.step o react next l = some s') :
    GroupManager.Kept o s'.device := by
  cases l with
  | inl event =>
    obtain rfl := Option.some.inj hstep
    exact h.handle event
  | inr l =>
    obtain ⟨p, -, rfl⟩ := Option.map_eq_some_iff.1 hstep
    exact h

theorem Keeps.handle (hreact : Keeps react I) {s : Listener P} (hkept : GroupManager.Kept o s.device)
    (event : GroupManager.Event) (h : I s.device.currentGroup s.plugin) :
    I (s.device.handle o event).currentGroup
      ((s.device.emissions o event).foldl (fun p e => react e p) s.plugin) := by
  rw [← (hkept.emits_handle event).currentGroup]
  exact hreact.foldl _ (GroupManager.follow_emissions event) h

/-- **The rule for plugins that listen**: an invariant of the plugin and the group that what is
emitted cannot break holds all along exactly the runs in which the plugin does not break it
itself. -/
theorem along_iff {G : Option GroupState → P → L → Prop} (hreact : Keeps react I)
    (hnext : ∀ current p l p', I current p → next current p l = some p' →
      (I current p' ↔ G current p l)) {p : P} (h₀ : I none p) {s : Listener P}
    {ls : List (GroupManager.Event ⊕ L)} :
    (system o react next).Along (fun s => I s.device.currentGroup s.plugin) ⟨.new, p⟩ ls s ↔
      ((system o react next).restrict (Meets G)).Run ⟨.new, p⟩ ls s := by
  refine Lts.along_iff_restrict (I := fun s => GroupManager.Kept o s.device)
    (fun _ _ _ => kept_of_step) (fun s l s' hkept hI hstep => ?_) (GroupManager.kept_new o) h₀
  cases l with
  | inl event =>
    obtain rfl := Option.some.inj hstep
    exact ⟨fun _ => trivial, fun _ => hreact.handle hkept event hI⟩
  | inr l =>
    obtain ⟨p', hp', rfl⟩ := Option.map_eq_some_iff.1 hstep
    exact hnext _ _ _ _ hI hp'

end Listener

end BaseDevice

end DeviceHub

import DeviceHub.BaseDevice.Listeners

/-!
# `device/plugins/logcat.js`

The log of a device is told to the channel of the group that asked for it.  A log is opened some
time after it was asked for, and the plugin knows only of the one that was opened last: of another
one, and of one whose opening has taken too long, nobody stops the process any more.

## Main definitions

* `LogcatCall` : a call of `plugin.start`, with the process that it has opened.
* `LogcatPlugin`, `LogcatPlugin.stop`, `LogcatPlugin.next` : the plugin and its events.
* `LogcatPlugin.system` : the plugin beside the group plugin, to which it listens.
* `LogcatPlugin.Right` : the only process that runs is known, and tells the group in the device.
* `LogcatPlugin.InTime` : a log is opened before it is given up, and when the device is still in the
  group that asked for it and no other log has been opened.

## Main results

* `LogcatPlugin.along_log_iff` : the log is told to the right group, and once, in exactly the runs in
  which every log is opened in time.
-/

namespace DeviceHub

namespace BaseDevice

/-- A filter of the log. -/
structure LogcatFilter where
  tag : String
  priority : ℕ
  deriving DecidableEq

/-- What a process is told about its filters. -/
inductive LogcatFilterCall where
  | resetFilters
  | excludeAll
  | include (filter : LogcatFilter)
  deriving DecidableEq

/-- An entry of the log; the date is in milliseconds. -/
structure LogcatEntry where
  date : Int
  pid : Int
  tid : Int
  priority : ℕ
  tag : String
  message : String
  deriving DecidableEq

/-- What is pushed: a `DeviceLogcatEntryMessage`, whose date is in seconds, or a reply. -/
inductive LogcatMessage where
  | entry (serial : String) (date : Rat) (pid tid : Int) (priority : ℕ) (tag message : String)
  | okay
  | fail
  deriving DecidableEq

/-- How far a call of `plugin.start` has come. -/
inductive LogcatPhase where
  /-- It has got the group. -/
  | got
  /-- Another log has been stopped, and the process is being opened. -/
  | opening
  /-- Opening has taken more than ten seconds. -/
  | abandoned
  /-- The process has been opened after all. -/
  | lost
  | failed
  /-- The process has been opened, and is to become the active one. -/
  | opened
  | installed
  deriving DecidableEq

/-- A call of `plugin.start`.  `running` tells whether its process runs, and `told` what that has
been told about its filters. -/
structure LogcatCall where
  channel : String
  filters : List LogcatFilter
  group : GroupState
  phase : LogcatPhase := .got
  deadline : ℕ := 0
  running : Bool := false
  told : List LogcatFilterCall := []
  deriving DecidableEq

/-- The variable `activeLogcat`, the calls of `plugin.start` in their order, the clock, and what was
pushed to which channel. -/
structure LogcatPlugin where
  activeLogcat : Option ℕ := none
  calls : List LogcatCall := []
  now : ℕ := 0
  sent : List (String × LogcatMessage) := []

/-- What can happen to the plugin. -/
inductive LogcatEvent where
  /-- A `LogcatStartMessage` arrives. -/
  | start (channel : String) (filters : List LogcatFilter)
  /-- A call goes on, stops the active log and opens another one. -/
  | proceed (call : ℕ)
  | opened (call : ℕ)
  | openFailed (call : ℕ)
  | timeout (call : ℕ)
  /-- A call goes on with the process that it has opened. -/
  | install (call : ℕ)
  /-- A `LogcatApplyFiltersMessage` arrives. -/
  | applyFilters (channel : String) (filters : List LogcatFilter)
  /-- A `LogcatStopMessage` arrives. -/
  | stop (channel : String)
  /-- A process finds an entry. -/
  | entry (call : ℕ) (entry : LogcatEntry)
  /-- A process ends by itself. -/
  | closed (call : ℕ)
  | tick (d : ℕ)

namespace LogcatPlugin

section Model

variable (serial : String) (p : LogcatPlugin)

/-- A message is pushed to a channel. -/
def push (channel : String) (message : LogcatMessage) : LogcatPlugin :=
  { p with sent := p.sent ++ [(channel, message)] }

/-- A call changes. -/
def modify (k : ℕ) (f : LogcatCall → LogcatCall) : LogcatPlugin :=
  { p with calls := p.calls.modify k f }

/-- `plugin.stop`. -/
def stop : LogcatPlugin :=
  match p.activeLogcat with
  | some k => { p.modify k fun c => { c with running := false } with activeLogcat := none }
  | none => p

/-- What `plugin.reset` tells the active log. -/
def resetCalls (filters : List LogcatFilter) : List LogcatFilterCall :=
  .resetFilters :: if filters = [] then [] else .excludeAll :: filters.map .include

/-- `plugin.reset` with the log `k`. -/
def reset (k : ℕ) (filters : List LogcatFilter) : LogcatPlugin :=
  p.modify k fun c => { c with told := c.told ++ resetCalls filters }

/-- The listener of the entries of a log. -/
def onEntry (c : LogcatCall) (entry : LogcatEntry) : LogcatPlugin :=
  p.push c.group.group (.entry serial (entry.date / 1000) entry.pid entry.tid entry.priority
    entry.tag entry.message)

/-- The call `k` goes on, if it has come to one of the phases. -/
def resume (k : ℕ) (phases : List LogcatPhase) (f : LogcatCall → LogcatPlugin) :
    Option LogcatPlugin :=
  ((p.calls[k]?).filter fun c => c.phase ∈ phases).map f

/-- What an event does, while `current` is the group in the device. -/
def next (current : Option GroupState) : LogcatEvent → Option LogcatPlugin
  | .start channel filters =>
    match current with
    | some group => some { p with calls := p.calls ++ [{ channel, filters, group }] }
    | none => some (p.push channel .fail)
  | .proceed k =>
    p.resume k [.got] fun _ => p.stop.modify k fun c =>
      { c with phase := .opening, deadline := p.now + 10000 }
  | .opened k =>
    p.resume k [.opening, .abandoned] fun c => p.modify k fun c' =>
      { c' with phase := if c.phase = .opening then .opened else .lost, running := true }
  | .openFailed k =>
    p.resume k [.opening, .abandoned] fun c =>
      let failed := p.modify k fun c' => { c' with phase := .failed }
      if c.phase = .opening then failed.push c.channel .fail else failed
  | .timeout k =>
    ((p.calls[k]?).filter fun c => c.phase = .opening ∧ c.deadline ≤ p.now).map fun c =>
      (p.modify k fun c' => { c' with phase := .abandoned }).push c.channel .fail
  | .install k =>
    p.resume k [.opened] fun c =>
      ({ p.modify k fun c' => { c' with phase := .installed } with
        activeLogcat := some k }.reset k c.filters).push c.channel .okay
  | .applyFilters channel filters =>
    match p.activeLogcat with
    | some k => some ((p.reset k filters).push channel .okay)
    | none => some (p.push channel .fail)
  | .stop channel => some (p.stop.push channel .okay)
  | .entry k entry =>
    ((p.calls[k]?).filter fun c => c.phase = .installed ∧ c.running).map fun c =>
      p.onEntry serial c entry
  | .closed k =>
    ((p.calls[k]?).filter (·.running)).map fun _ => p.modify k fun c => { c with running := false }
  | .tick d => some { p with now := p.now + d }

end Model

/-- The plugin stops the log when the device leaves the group. -/
def react : GroupEvent → LogcatPlugin → LogcatPlugin
  | .leave, p => p.stop
  | _, p => p

/-- The plugin beside the group plugin of the device. -/
def system (o : DeviceOptions) : Lts (Listener LogcatPlugin) (GroupManager.Event ⊕ LogcatEvent) :=
  Listener.system o react fun current p => next o.serial p current

/-- The device and the plugin at the start. -/
def start : Listener LogcatPlugin := ⟨.new, {}⟩

/-- **The log is told to the right group, and once**: a process that runs is the active one, and the
group that it tells, which is the one that asked for it, is the group in the device; unless it has
just been opened. -/
structure Right (current : Option GroupState) (p : LogcatPlugin) : Prop where
  active : ∀ k ∈ p.activeLogcat, ∃ c, p.calls[k]? = some c ∧ c.phase = .installed
  running : ∀ (k : ℕ) (c : LogcatCall), p.calls[k]? = some c → c.running = true →
    c.phase = .opened ∨ p.activeLogcat = some k ∧ ∃ g ∈ current, g.group = c.group.group

/-- A log is opened in time: it has not been given up, and when it is to become the active one no
other log runs as such and the device is still in the group that asked for it, unless the process
has ended by then. -/
def InTime (current : Option GroupState) (p : LogcatPlugin) : LogcatEvent → Prop
  | .opened k => ∀ c ∈ p.calls[k]?, c.phase ≠ .abandoned
  | .install k =>
    (∀ j ∈ p.activeLogcat, ∀ c ∈ p.calls[j]?, c.running = false) ∧
      ∀ c ∈ p.calls[k]?, c.running = true → ∃ g ∈ current, g.group = c.group.group
  | _ => True

variable {serial : String} {o : DeviceOptions} {current : Option GroupState}
  {p p' : LogcatPlugin} {k : ℕ}

theorem getElem?_modify {f : LogcatCall → LogcatCall} {j : ℕ} {c' : LogcatCall} :
    (p.modify k f).calls[j]? = some c' ↔
      ∃ c, p.calls[j]? = some c ∧ (if k = j then f c else c) = c' := by
  simp only [modify, List.getElem?_modify]
  exact Option.map_eq_some_iff

theorem Right.congr (h : Right current p) (hactive : p'.activeLogcat = p.activeLogcat)
    (hcalls : p'.calls = p.calls) : Right current p' where
  active j hj := by
    rw [hcalls]
    exact h.active j (hactive ▸ hj)
  running j c hc hrunning := by
    rw [hactive]
    exact h.running j c (hcalls ▸ hc) hrunning

/-- A call changes, and no process is started. -/
theorem Right.modify (h : Right current p) {f : LogcatCall → LogcatCall}
    (hgroup : ∀ c, (f c).group = c.group)
    (hphase : ∀ c ∈ p.calls[k]?, c.phase = .installed → (f c).phase = .installed)
    (hrunning : ∀ c ∈ p.calls[k]?, (f c).running = true →
      (f c).phase = .opened ∨ c.running = true ∧ c.phase ≠ .opened) :
    Right current (p.modify k f) where
  active j hj := by
    obtain ⟨c, hc, hinstalled⟩ := h.active j hj
    refine ⟨_, getElem?_modify.2 ⟨c, hc, rfl⟩, ?_⟩
    split
    · rename_i hkj
      subst hkj
      exact hphase c hc hinstalled
    · exact hinstalled
  running j c' hc' hrun := by
    obtain ⟨c, hc, rfl⟩ := getElem?_modify.1 hc'
    by_cases hkj : k = j
    · subst hkj
      rw [if_pos rfl] at hrun ⊢
      rcases hrunning c hc hrun with hopened | ⟨hrun, hphase⟩
      · exact .inl hopened
      · rw [hgroup]
        exact .inr ((h.running k c hc hrun).resolve_left hphase)
    · rw [if_neg hkj] at hrun ⊢
      exact h.running j c hc hrun

theorem Right.setPhase (h : Right current p) {c : LogcatCall} (hc : p.calls[k]? = some c)
    (hinstalled : c.phase ≠ .installed) (hopened : c.phase ≠ .opened) (phase : LogcatPhase)
    (deadline : LogcatCall → ℕ) :
    Right current (p.modify k fun c' => { c' with phase, deadline := deadline c' }) := by
  refine h.modify (fun _ => rfl) (fun c' hc' h' => ?_) fun c' hc' hrun => .inr ⟨hrun, ?_⟩
  · obtain rfl := Option.some.inj (hc.symm.trans hc')
    exact absurd h' hinstalled
  · obtain rfl := Option.some.inj (hc.symm.trans hc')
    exact hopened

theorem Right.setTold (h : Right current p) (told : LogcatCall → List LogcatFilterCall) :
    Right current (p.modify k fun c => { c with told := told c }) := by
  refine h.modify (fun _ => rfl) (fun _ _ hinstalled => hinstalled) fun c hc hrun => ?_
  by_cases hopened : c.phase = .opened
  · exact .inl hopened
  · exact .inr ⟨hrun, hopened⟩

theorem Right.stop (h : Right current p) (current' : Option GroupState) :
    Right current' p.stop := by
  cases hactive : p.activeLogcat with
  | none =>
    simp only [LogcatPlugin.stop, hactive]
    refine ⟨by simp [hactive], fun j c hc hrun => .inl ?_⟩
    exact (h.running j c hc hrun).resolve_right (by simp [hactive])
  | some k =>
    simp only [LogcatPlugin.stop, hactive]
    refine ⟨by simp, fun j c' hc' hrun => .inl ?_⟩
    obtain ⟨c, hc, rfl⟩ := getElem?_modify.1 hc'
    by_cases hkj : k = j
    · simp [hkj] at hrun
    · rw [if_neg hkj] at hrun ⊢
      exact (h.running j c hc hrun).resolve_right (by simp [hactive, hkj])

theorem phase_stop {c : LogcatCall} (hc : p.calls[k]? = some c) :
    ∃ c', p.stop.calls[k]? = some c' ∧ c'.phase = c.phase := by
  simp only [LogcatPlugin.stop]
  split
  · exact ⟨_, getElem?_modify.2 ⟨c, hc, rfl⟩, by split <;> rfl⟩
  · exact ⟨c, hc, rfl⟩

theorem keeps_react : Listener.Keeps react Right := by
  intro current p e hpossible h
  cases e with
  | join group keys =>
    -- the device was in no group, and so nothing was told
    obtain rfl : current = none := hpossible
    refine ⟨h.active, fun j c hc hrun => .inl ?_⟩
    exact (h.running j c hc hrun).resolve_right (by simp)
  | leave => exact h.stop none
  | autojoin identifier joined => exact h

theorem resume_eq_some {phases : List LogcatPhase} {f : LogcatCall → LogcatPlugin} :
    p.resume k phases f = some p' ↔
      ∃ c, p.calls[k]? = some c ∧ c.phase ∈ phases ∧ f c = p' := by
  simp [resume, Option.filter_eq_some_iff, and_assoc]

/-- A process has been opened. -/
theorem right_opened_iff (h : Right current p) {c : LogcatCall} (hc : p.calls[k]? = some c)
    (hphase : c.phase ∈ [.opening, .abandoned]) :
    Right current (p.modify k fun c' =>
      { c' with phase := if c.phase = .opening then .opened else .lost, running := true }) ↔
      InTime current p (.opened k) := by
  by_cases hopening : c.phase = .opening
  · refine iff_of_true (h.modify (fun _ => rfl) (fun c' hc' hinstalled => ?_)
      fun c' _ _ => .inl (if_pos hopening)) fun c' hc' => ?_
    · obtain rfl := Option.some.inj (hc.symm.trans hc')
      simp [hopening] at hinstalled
    · obtain rfl := Option.some.inj (hc.symm.trans hc')
      simp [hopening]
  · have habandoned : c.phase = .abandoned := by simpa [hopening] using hphase
    refine iff_of_false (fun h' => ?_) fun hintime => hintime c hc habandoned
    -- the process runs, and is neither the active one nor to become it
    rcases h'.running k _ (getElem?_modify.2 ⟨c, hc, rfl⟩) (by simp) with hopened | ⟨hactive, -⟩
    · simp [habandoned] at hopened
    · obtain ⟨c', hc', hinstalled⟩ := h.active k hactive
      obtain rfl := Option.some.inj (hc.symm.trans hc')
      simp [habandoned] at hinstalled

/-- The process that has been opened becomes the active one. -/
theorem right_install_iff (h : Right current p) {c : LogcatCall} (hc : p.calls[k]? = some c)
    (hphase : c.phase = .opened) (filters : List LogcatFilter) :
    Right current ({ p.modify k fun c' => { c' with phase := .installed } with
        activeLogcat := some k }.reset k filters) ↔ InTime current p (.install k) := by
  set q : LogcatPlugin := { p.modify k fun c' => { c' with phase := .installed } with
    activeLogcat := some k }.reset k filters with hq
  have hcalls {j : ℕ} {c' : LogcatCall} : q.calls[j]? = some c' ↔ ∃ c, p.calls[j]? = some c ∧
      (if k = j then { c with phase := .installed, told := c.told ++ resetCalls filters } else c)
        = c' := by
    rw [hq, reset, getElem?_modify]
    constructor
    · rintro ⟨c₁, hc₁, rfl⟩
      obtain ⟨c₂, hc₂, rfl⟩ := getElem?_modify.1 hc₁
      exact ⟨c₂, hc₂, by split <;> rfl⟩
    · rintro ⟨c₂, hc₂, rfl⟩
      exact ⟨_, getElem?_modify.2 ⟨c₂, hc₂, rfl⟩, by split <;> rfl⟩
  constructor
  · intro h'
    refine ⟨fun j hj c' hc' => ?_, fun c' hc' hrun => ?_⟩
    · -- another active log would go on running
      by_contra hrun
      obtain ⟨c₁, hc₁, hinstalled⟩ := h.active j hj
      obtain rfl := Option.some.inj (hc₁.symm.trans hc')
      have hkj : k ≠ j := by
        rintro rfl
        obtain rfl := Option.some.inj (hc.symm.trans hc')
        simp [hphase] at hinstalled
      rcases h'.running j c₁ (hcalls.2 ⟨c₁, hc', if_neg hkj⟩) (by simpa using hrun) with
        hopened | ⟨hactive, -⟩
      · simp [hinstalled] at hopened
      · exact hkj (Option.some.inj hactive)
    · obtain rfl := Option.some.inj (hc.symm.trans hc')
      rcases h'.running k _ (hcalls.2 ⟨c, hc, if_pos rfl⟩) hrun with hopened | ⟨-, hgroup⟩
      · cases hopened
      · exact hgroup
  · rintro ⟨hothers, hgroup⟩
    refine ⟨fun j hj => ?_, fun j c' hc' hrun => ?_⟩
    · obtain rfl := Option.some.inj hj
      exact ⟨_, hcalls.2 ⟨c, hc, if_pos rfl⟩, rfl⟩
    · obtain ⟨c₁, hc₁, rfl⟩ := hcalls.1 hc'
      by_cases hkj : k = j
      · subst hkj
        rw [if_pos rfl] at hrun ⊢
        exact .inr ⟨rfl, hgroup c₁ hc₁ hrun⟩
      · rw [if_neg hkj] at hrun ⊢
        refine (h.running j c₁ hc₁ hrun).imp_right fun hactive => ?_
        have hactive := hactive.1
        rw [hothers j hactive c₁ hc₁] at hrun
        cases hrun

/-- Another call of `plugin.start`, which has no process yet. -/
theorem Right.concat (h : Right current p) {c : LogcatCall} (hidle : c.running = false) :
    Right current { p with calls := p.calls ++ [c] } := by
  refine ⟨fun j hj => ?_, fun j c' hc' hrun => ?_⟩
  · obtain ⟨c', hc', hinstalled⟩ := h.active j hj
    exact ⟨c', by simp [List.getElem?_append_left (List.getElem?_eq_some_iff.1 hc').1, hc'],
      hinstalled⟩
  · rw [List.getElem?_append] at hc'
    split at hc'
    · exact h.running j c' hc' hrun
    · obtain rfl := List.mem_singleton.1 (List.mem_of_getElem? hc')
      rw [hidle] at hrun
      cases hrun

/-- **One event of the plugin** keeps the log right exactly when it is in time. -/
theorem right_next_iff (h : Right current p) {e : LogcatEvent}
    (hnext : next serial p current e = some p') : Right current p' ↔ InTime current p e := by
  cases e with
  | start channel filters =>
    refine iff_of_true ?_ trivial
    cases current with
    | none =>
      obtain rfl := Option.some.inj hnext
      exact h.congr rfl rfl
    | some group =>
      obtain rfl := Option.some.inj hnext
      exact h.concat rfl
  | proceed k =>
    obtain ⟨c, hc, hphase, rfl⟩ := resume_eq_some.1 hnext
    obtain ⟨c', hc', hphase'⟩ := phase_stop hc
    rw [List.mem_singleton.1 hphase] at hphase'
    exact iff_of_true ((h.stop current).setPhase hc' (by simp [hphase']) (by simp [hphase']) _
      fun _ => p.now + 10000) trivial
  | opened k =>
    obtain ⟨c, hc, hphase, rfl⟩ := resume_eq_some.1 hnext
    exact right_opened_iff h hc hphase
  | openFailed k =>
    obtain ⟨c, hc, hphase, rfl⟩ := resume_eq_some.1 hnext
    have hfailed := h.setPhase hc (by rintro hphase'; simp [hphase'] at hphase)
      (by rintro hphase'; simp [hphase'] at hphase) .failed (·.deadline)
    refine iff_of_true ?_ trivial
    split
    · exact hfailed.congr rfl rfl
    · exact hfailed
  | timeout k =>
    obtain ⟨c, hc, rfl⟩ := Option.map_eq_some_iff.1 hnext
    obtain ⟨hc, hguard⟩ := Option.filter_eq_some_iff.1 hc
    have hopening : c.phase = .opening := (of_decide_eq_true hguard).1
    have habandoned := h.setPhase hc (by simp [hopening]) (by simp [hopening]) .abandoned
      (·.deadline)
    exact iff_of_true (habandoned.congr rfl rfl) trivial
  | install k =>
    obtain ⟨c, hc, hphase, rfl⟩ := resume_eq_some.1 hnext
    rw [← right_install_iff h hc (List.mem_singleton.1 hphase) c.filters]
    exact ⟨fun h' => h'.congr rfl rfl, fun h' => h'.congr rfl rfl⟩
  | applyFilters channel filters =>
    refine iff_of_true ?_ trivial
    cases hactive : p.activeLogcat with
    | none =>
      simp only [next, hactive] at hnext
      obtain rfl := Option.some.inj hnext
      exact h.congr rfl rfl
    | some j =>
      simp only [next, hactive] at hnext
      obtain rfl := Option.some.inj hnext
      exact (h.setTold fun c => c.told ++ resetCalls filters).congr rfl rfl
  | stop channel =>
    obtain rfl := Option.some.inj hnext
    exact iff_of_true ((h.stop current).congr rfl rfl) trivial
  | entry k entry =>
    obtain ⟨c, hc, rfl⟩ := Option.map_eq_some_iff.1 hnext
    exact iff_of_true (h.congr rfl rfl) trivial
  | closed k =>
    obtain ⟨c, hc, rfl⟩ := Option.map_eq_some_iff.1 hnext
    exact iff_of_true (h.modify (fun _ => rfl) (fun _ _ hinstalled => hinstalled)
      fun _ _ hrun => absurd hrun (by simp)) trivial
  | tick d =>
    obtain rfl := Option.some.inj hnext
    exact iff_of_true (h.congr rfl rfl) trivial

end LogcatPlugin

end BaseDevice

end DeviceHub

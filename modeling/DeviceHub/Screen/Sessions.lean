import DeviceHub.Screen.FrameProducer
import Mathlib.Data.List.Nodup
import Mathlib.Data.Nat.Notation
import Mathlib.Logic.Function.Basic

/-!
# The sessions of `units/device/plugins/screen/stream.js`

Clients that want to see the screen are put into a set.  The producer is asked to start when the
first one comes and to stop when the last one goes, and it is restarted when its configuration
changes.  A client is told of a start, with the banner of the stream, when the producer has started,
or when it is put into the set while the producer runs.

## Main definitions

* `BroadcastSet` : the set, with the events that it emits.
* `ScreenSessions`, `ScreenSessions.next` : the producer with its clients, and what can happen.
* `ScreenSessions.Shown` : the clients see the screen as it was configured last.
* `ScreenSessions.Steady` : the condition on the steps, that of the producer.

## Main results

* `FrameProducer.Effect.of_next` : what a step does to the queue and to the state of the producer.
* `ScreenSessions.shown_of_run` : the screen is shown when nothing is under way.
-/

namespace DeviceHub

/-! ### `BroadcastSet` -/

/-- The keys of the set. -/
structure BroadcastSet (I : Type) where
  set : List I := []
  count : ℕ := 0

namespace BroadcastSet

/-- What the set emits. -/
inductive Emitted (I : Type) where
  | insert (id : I)
  | nonempty
  | remove (id : I)
  | empty

variable {I : Type} [DecidableEq I]

/-- A client comes; the set tells when it is the first one. -/
def insert (s : BroadcastSet I) (id : I) : BroadcastSet I × List (Emitted I) :=
  if id ∈ s.set then (s, [])
  else (⟨s.set ++ [id], s.count + 1⟩, .insert id :: if s.count + 1 = 1 then [.nonempty] else [])

/-- A client goes; the set tells when it was the last one. -/
def remove (s : BroadcastSet I) (id : I) : BroadcastSet I × List (Emitted I) :=
  if id ∈ s.set then
    (⟨s.set.erase id, s.count - 1⟩,
      .remove id :: if s.count - 1 = 0 then [.empty] else [])
  else (s, [])

end BroadcastSet

/-! ### The producer -/

namespace StateQueue

variable {State : Type} [DecidableEq State]

theorem mem_push {queue : StateQueue State} {state x : State} (h : x ∈ queue.push state) :
    x ∈ queue ∨ x = state := by
  induction queue with
  | nil => exact .inr (List.mem_singleton.1 h)
  | cons first rest ih =>
    unfold push at h
    split at h
    · exact .inl (List.mem_cons.2 (.inl (List.mem_singleton.1 h)))
    · rcases List.mem_cons.1 h with rfl | h
      · exact .inl (List.mem_cons_self ..)
      · exact (ih h).imp_left (List.mem_cons_of_mem _)

theorem nodup_push {queue : StateQueue State} (h : queue.Nodup) (state : State) :
    (queue.push state).Nodup := by
  induction queue with
  | nil => exact List.nodup_singleton _
  | cons first rest ih =>
    obtain ⟨hfirst, hrest⟩ := List.nodup_cons.1 h
    unfold push
    split
    · exact List.nodup_singleton _
    · rename_i hne
      exact List.nodup_cons.2 ⟨fun hmem => (mem_push hmem).elim hfirst hne, ih hrest⟩

theorem head?_push (queue : StateQueue State) (state : State) :
    List.head? (queue.push state) = (List.head? queue).or (some state) := by
  cases queue with
  | nil => rfl
  | cons first rest =>
    unfold push
    split <;> rfl

theorem push_ne_nil (queue : StateQueue State) (state : State) : queue.push state ≠ [] := by
  intro h
  have hhead := head?_push queue state
  rw [h] at hhead
  cases hq : List.head? queue <;> simp [hq] at hhead

end StateQueue

namespace FrameProducer

/-- The service runs, or is going to. -/
def Runs (producer : FrameProducer) : Prop :=
  producer.runningState = .starting ∨ producer.runningState = .started

/-- The service has just begun to start. -/
def Begins (producer after : FrameProducer) : Prop :=
  producer.runningState ≠ .starting ∧ after.runningState = .starting

instance (producer after : FrameProducer) : Decidable (Begins producer after) :=
  inferInstanceAs (Decidable (_ ∧ _))

/-- A service that runs is not to be started next. -/
structure Tidy (producer : FrameProducer) : Prop where
  nodup : producer.desiredState.Nodup
  head : producer.Runs → producer.desiredState.head? ≠ some .started

/-- What a step does to the producer.  A service that runs with nothing left to do has just begun to
start, or was there before. -/
structure Effect (launched : Prop) (producer after : FrameProducer) : Prop where
  tidy : after.Tidy
  runs : after.Runs → after.desiredState = [] →
    Begins producer after ∨ producer.Runs ∧ producer.desiredState = []
  started : after.runningState = .started → producer.runningState = .started ∨ launched

variable {producer after : FrameProducer} {launched : Prop}

theorem Effect.refl (h : producer.Tidy) : Effect launched producer producer :=
  ⟨h, fun hruns hnil => .inr ⟨hruns, hnil⟩, .inl⟩

theorem Effect.congr {same : FrameProducer} (h : Effect launched same after)
    (hqueue : same.desiredState = producer.desiredState)
    (hstate : same.runningState = producer.runningState) : Effect launched producer after := by
  obtain ⟨htidy, hruns, hstarted⟩ := h
  unfold Begins Runs at *
  rw [hqueue, hstate] at hruns
  rw [hstate] at hstarted
  exact ⟨htidy, hruns, hstarted⟩

theorem Tidy.push (h : producer.Tidy) (state : DesiredState)
    (hstate : producer.Runs → producer.desiredState = [] → state ≠ .started) :
    (producer.push state).Tidy where
  nodup := StateQueue.nodup_push h.nodup state
  head hruns := by
    have hhead := h.head hruns
    unfold FrameProducer.push
    dsimp only
    rw [StateQueue.head?_push]
    cases hqueue : producer.desiredState with
    | nil => simpa using hstate hruns hqueue
    | cons first rest => simpa [hqueue] using hhead

/-- The queue is looked at. -/
theorem Tidy.ensureState (h : producer.Tidy) : Effect launched producer producer.ensureState := by
  unfold FrameProducer.ensureState
  split
  · exact .refl h
  · rename_i state rest hqueue
    obtain ⟨hnotMem, hrest⟩ := List.nodup_cons.1 (hqueue ▸ h.nodup)
    split
    · exact .refl h
    · split
      · exact .refl h
      · exact .refl h
      · rename_i hstopped
        split
        · refine ⟨⟨hrest, fun _ hhead => hnotMem (List.mem_of_mem_head? hhead)⟩,
            fun _ _ => .inl ⟨by simp [hstopped], rfl⟩, nofun⟩
        · refine ⟨⟨hrest, fun hruns => ?_⟩, fun hruns => ?_, fun hstarted => ?_⟩
          · simp [Runs, hstopped] at hruns
          · simp [Runs, hstopped] at hruns
          · simp [hstopped] at hstarted
      · rename_i hstarted
        split
        · exact ⟨⟨hrest, fun hruns => by simp [Runs] at hruns⟩, fun hruns => by
            simp [Runs] at hruns, nofun⟩
        · exact absurd (by rw [hqueue]; rfl) (h.head (.inr hstarted))

theorem Tidy.request (htidy : after.Tidy) (hrunning : after.runningState = producer.runningState)
    (hne : after.desiredState ≠ []) : Effect launched producer after.ensureState := by
  have heffect : Effect launched after after.ensureState := htidy.ensureState
  obtain ⟨htidy, hruns, hstarted⟩ := heffect
  refine ⟨htidy, fun hr hnil => ?_, fun hs => ?_⟩
  · obtain hbegins | ⟨-, hempty⟩ := hruns hr hnil
    · exact .inl ⟨hrunning ▸ hbegins.1, hbegins.2⟩
    · exact absurd hempty hne
  · exact (hstarted hs).imp_left fun hbefore => hrunning ▸ hbefore

theorem Tidy.start (h : producer.Tidy) (hne : producer.Runs → producer.desiredState ≠ []) :
    Effect launched producer producer.start := by
  have htidy := h.push .started fun hruns hnil => absurd hnil (hne hruns)
  exact Tidy.request ⟨htidy.nodup, htidy.head⟩ rfl (StateQueue.push_ne_nil _ _)

theorem Tidy.stop (h : producer.Tidy) : Effect launched producer producer.stop := by
  have htidy := h.push .stopped fun _ _ => nofun
  exact Tidy.request ⟨htidy.nodup, htidy.head⟩ rfl (StateQueue.push_ne_nil _ _)

theorem restart_of_runs (h : producer.Runs) :
    producer.restart = ((producer.push .stopped).push .started).ensureState := by
  unfold restart
  obtain h | h := h <;> rw [h]

theorem restart_of_not_runs (h : ¬ producer.Runs) : producer.restart = producer := by
  unfold restart
  split
  · exact absurd (.inr ‹_›) h
  · exact absurd (.inl ‹_›) h
  · rfl
  · rfl

theorem Tidy.push_restart (h : producer.Tidy) :
    ((producer.push .stopped).push .started).Tidy :=
  (h.push .stopped fun _ _ => nofun).push .started fun _ hnil =>
    absurd hnil (StateQueue.push_ne_nil _ _)

theorem Tidy.restart (h : producer.Tidy) : Effect launched producer producer.restart := by
  by_cases hruns : producer.Runs
  · rw [restart_of_runs hruns]
    exact h.push_restart.request rfl (StateQueue.push_ne_nil _ _)
  · rw [restart_of_not_runs hruns]
    exact .refl h

theorem Effect.of_eq (h : producer.Tidy) (hqueue : after.desiredState = producer.desiredState)
    (hstate : after.runningState = producer.runningState) : Effect launched producer after := by
  have hruns : after.Runs ↔ producer.Runs := by
    unfold Runs
    rw [hstate]
  refine ⟨⟨hqueue ▸ h.nodup, fun hr => hqueue ▸ h.head (hruns.1 hr)⟩, fun hr hnil => ?_,
    fun hs => .inl (hstate ▸ hs)⟩
  exact .inr ⟨hruns.1 hr, hqueue ▸ hnil⟩

theorem Effect.of_stopped (h : producer.Tidy)
    (hqueue : after.desiredState = producer.desiredState)
    (hstate : after.runningState = .stopped) : Effect launched producer after := by
  have hnot : ¬ after.Runs := by simp [Runs, hstate]
  exact ⟨⟨hqueue ▸ h.nodup, fun hr => absurd hr hnot⟩, fun hr => absurd hr hnot,
    fun hs => absurd (.inr hs) hnot⟩

/-- What the steps of the service do, and the requests but for one to start. -/
theorem Effect.of_next {needScrcpy : Bool} {event : FrameProducerEvent} (h : producer.Tidy)
    (htends : producer.Tends) (hstart : event ≠ .start)
    (hnext : producer.next needScrcpy event = some after) (hafter : after.failed = false) :
    Effect (event = .launched) producer after := by
  cases event with
  | start => exact absurd rfl hstart
  | stop =>
    cases hnext
    exact h.stop
  | restart =>
    cases hnext
    exact h.restart
  | unexpectedEnd now =>
    obtain ⟨-, ⟨⟩⟩ := Option.ite_none_left_eq_some.1 hnext
    rw [failed_restart] at hafter
    rw [inc_eq now hafter]
    have htidy : ({ producer with failCounter := producer.failCounter.inc now } :
        FrameProducer).Tidy := ⟨h.nodup, h.head⟩
    exact htidy.restart.congr rfl rfl
  | launched =>
    obtain ⟨hmem, ⟨⟩⟩ := Option.ite_none_right_eq_some.1 hnext
    have hstarting := htends.operates.starting_of_launch hmem
    cases needScrcpy <;> exact ⟨⟨h.nodup, fun _ => h.head (.inl hstarting)⟩,
      fun _ hnil => .inr ⟨.inl hstarting, hnil⟩, fun _ => .inr rfl⟩
  | launchFailed cancelled =>
    obtain ⟨-, ⟨⟩⟩ := Option.ite_none_right_eq_some.1 hnext
    cases needScrcpy <;> exact .of_eq h rfl rfl
  | aborted cancelled =>
    obtain ⟨-, ⟨⟩⟩ := Option.ite_none_right_eq_some.1 hnext
    exact .of_stopped h rfl rfl
  | counted now =>
    obtain ⟨-, ⟨⟩⟩ := Option.ite_none_right_eq_some.1 hnext
    rw [@inc_eq (producer.finish .count) now hafter]
    exact .of_eq h rfl rfl
  | stopped =>
    obtain ⟨-, ⟨⟩⟩ := Option.ite_none_right_eq_some.1 hnext
    exact .of_stopped h rfl rfl
  | limitStopped =>
    obtain ⟨-, ⟨⟩⟩ := Option.ite_none_right_eq_some.1 hnext
    exact .of_stopped h rfl rfl
  | ensured =>
    obtain ⟨-, ⟨⟩⟩ := Option.ite_none_right_eq_some.1 hnext
    have htidy : (producer.finish .ensure).Tidy := ⟨h.nodup, h.head⟩
    exact htidy.ensureState.congr rfl rfl

theorem Begins.stopped (h : producer.Begins producer.ensureState) :
    producer.runningState = .stopped := by
  obtain ⟨hnot, hstarting⟩ := h
  unfold FrameProducer.ensureState at hstarting
  split at hstarting
  · exact absurd hstarting hnot
  · split at hstarting
    · exact absurd hstarting hnot
    · split at hstarting
      · exact absurd hstarting hnot
      · exact absurd hstarting hnot
      · assumption
      · split at hstarting <;> simp_all

theorem Tidy.restart_ne_nil (h : producer.Tidy) (hruns : producer.restart.Runs) :
    producer.restart.desiredState ≠ [] := by
  by_cases hbefore : producer.Runs
  · rw [restart_of_runs hbefore] at hruns ⊢
    have heffect : Effect False ((producer.push .stopped).push .started)
        ((producer.push .stopped).push .started).ensureState := h.push_restart.ensureState
    intro hnil
    obtain hbegins | ⟨-, hempty⟩ := heffect.runs hruns hnil
    · have hstopped : producer.runningState = .stopped := hbegins.stopped
      obtain hstate | hstate := hbefore <;> rw [hstopped] at hstate <;> cases hstate
    · exact StateQueue.push_ne_nil _ _ hempty
  · rw [restart_of_not_runs hbefore] at hruns
    exact absurd hruns hbefore

/-- A producer that was not asked for anything yet. -/
def Fresh (producer : FrameProducer) : Prop :=
  producer.requested = none → producer.runningState = .stopped ∧ producer.pending = []

@[simp] theorem requested_start (producer : FrameProducer) :
    producer.start.requested = some .started :=
  requested_ensureState _

@[simp] theorem requested_stop (producer : FrameProducer) :
    producer.stop.requested = some .stopped :=
  requested_ensureState _

@[simp] theorem requested_restart (producer : FrameProducer) :
    producer.restart.requested = producer.requested := by
  unfold restart
  split <;> simp [push]

theorem Fresh.not_runs (h : producer.Fresh) (hnone : producer.requested = none) :
    ¬ producer.Runs := by
  simp [Runs, (h hnone).1]

theorem Fresh.restart (h : producer.Fresh) : producer.restart.Fresh := by
  intro hnone
  rw [requested_restart] at hnone
  rw [restart_of_not_runs (h.not_runs hnone)]
  exact h hnone

theorem fresh_start : producer.start.Fresh := fun hnone => by simp at hnone

theorem fresh_stop : producer.stop.Fresh := fun hnone => by simp at hnone

theorem requested_of_next {needScrcpy : Bool} {event : FrameProducerEvent}
    (hstart : event ≠ .start) (hstop : event ≠ .stop)
    (hnext : producer.next needScrcpy event = some after) (hafter : after.failed = false) :
    after.requested = producer.requested := by
  cases event with
  | start => exact absurd rfl hstart
  | stop => exact absurd rfl hstop
  | restart =>
    cases hnext
    exact requested_restart _
  | unexpectedEnd now =>
    obtain ⟨-, ⟨⟩⟩ := Option.ite_none_left_eq_some.1 hnext
    rw [failed_restart] at hafter
    rw [requested_restart, inc_eq now hafter]
  | launched | launchFailed =>
    obtain ⟨-, ⟨⟩⟩ := Option.ite_none_right_eq_some.1 hnext
    cases needScrcpy <;> rfl
  | counted now =>
    obtain ⟨-, ⟨⟩⟩ := Option.ite_none_right_eq_some.1 hnext
    rw [@inc_eq (producer.finish .count) now hafter]
    rfl
  | ensured =>
    obtain ⟨-, ⟨⟩⟩ := Option.ite_none_right_eq_some.1 hnext
    exact requested_ensureState _
  | aborted _ | stopped | limitStopped =>
    obtain ⟨-, ⟨⟩⟩ := Option.ite_none_right_eq_some.1 hnext
    rfl

theorem Fresh.next {needScrcpy : Bool} {event : FrameProducerEvent} (h : producer.Fresh)
    (hstart : event ≠ .start) (hstop : event ≠ .stop)
    (hnext : producer.next needScrcpy event = some after) (hafter : after.failed = false) :
    after.Fresh := by
  intro hnone
  rw [requested_of_next hstart hstop hnext hafter] at hnone
  obtain ⟨hstopped, hpending⟩ := h hnone
  cases event with
  | start => exact absurd rfl hstart
  | stop => exact absurd rfl hstop
  | restart =>
    cases hnext
    rw [restart_of_not_runs (h.not_runs hnone)]
    exact ⟨hstopped, hpending⟩
  | unexpectedEnd now =>
    obtain ⟨-, ⟨⟩⟩ := Option.ite_none_left_eq_some.1 hnext
    rw [failed_restart] at hafter
    rw [inc_eq now hafter, restart_of_not_runs]
    · exact ⟨hstopped, hpending⟩
    · exact h.not_runs hnone
  | launched | launchFailed | aborted | counted | stopped | limitStopped | ensured =>
    obtain ⟨hmem, -⟩ := Option.ite_none_right_eq_some.1 hnext
    rw [hpending] at hmem
    exact absurd hmem List.not_mem_nil

end FrameProducer

/-! ### The sessions -/

/-- The part of the configuration that changes. -/
structure FrameConfig where
  virtualWidth : ℕ
  virtualHeight : ℕ
  rotation : ℕ
  quality : ℕ
  deriving DecidableEq

/-- The producer and its clients.  The number of the starts, the configuration with which the
service was begun last, and the start that each client was told of last are not part of the
program. -/
structure ScreenSessions where
  producer : FrameProducer := {}
  frameConfig : FrameConfig
  broadcastSet : BroadcastSet ℕ := {}
  starts : ℕ := 0
  service : Option FrameConfig := none
  told : ℕ → Option ℕ := fun _ => none

namespace ScreenSessions

section Model

variable (s : ScreenSessions)

/-- A step of the producer, which begins the service with the configuration that it finds: minicap,
which is started with it (`scrcpyClient.start` takes none). -/
def produce (producer : FrameProducer) : ScreenSessions :=
  { s with
    producer
    service := if s.producer.Begins producer then some s.frameConfig else s.service }

/-- `broadcastSet.get(id).onStart(frameProducer)` -/
def onStart (id : ℕ) : ScreenSessions :=
  { s with told := Function.update s.told id (some s.starts) }

/-- The listeners of the set. -/
def listen : BroadcastSet.Emitted ℕ → ScreenSessions
  | .nonempty => s.produce s.producer.start
  | .empty => s.produce s.producer.stop
  | .insert id => if s.producer.runningState = .started then s.onStart id else s
  | .remove _ => s

/-- A client comes. -/
def insert (id : ℕ) : ScreenSessions :=
  (s.broadcastSet.insert id).2.foldl listen
    { s with broadcastSet := (s.broadcastSet.insert id).1 }

/-- A client goes. -/
def remove (id : ℕ) : ScreenSessions :=
  (s.broadcastSet.remove id).2.foldl listen
    { s with broadcastSet := (s.broadcastSet.remove id).1 }

/-- The listener of `start`. -/
def started : ScreenSessions :=
  s.broadcastSet.set.foldl onStart { s with starts := s.starts + 1 }

/-- `_configChanged` -/
def configChanged (frameConfig : FrameConfig) : ScreenSessions :=
  produce { s with frameConfig } s.producer.restart

/-- The projection changes, unless it is the same. -/
def updateProjection (width height : ℕ) : ScreenSessions :=
  if s.frameConfig.virtualWidth = width ∧ s.frameConfig.virtualHeight = height then s
  else s.configChanged
    { s.frameConfig with virtualWidth := width, virtualHeight := height }

/-- The rotation changes, unless it is the same. -/
def updateRotation (rotation : ℕ) : ScreenSessions :=
  if s.frameConfig.rotation = rotation then s
  else s.configChanged { s.frameConfig with rotation }

/-- The quality changes. -/
def changeQuality (quality : ℕ) : ScreenSessions :=
  s.configChanged { s.frameConfig with quality }

end Model

/-- A client comes or goes, the configuration is changed, or the service makes a step. -/
inductive Event where
  | insert (id : ℕ)
  | remove (id : ℕ)
  | updateProjection (width height : ℕ)
  | updateRotation (rotation : ℕ)
  | changeQuality (quality : ℕ)
  | service (event : FrameProducerEvent)
  deriving DecidableEq

/-- What an event does. -/
def next (needScrcpy : Bool) (s : ScreenSessions) : Event → Option ScreenSessions
  | .insert id => some (s.insert id)
  | .remove id => some (s.remove id)
  | .updateProjection width height => some (s.updateProjection width height)
  | .updateRotation rotation => some (s.updateRotation rotation)
  | .changeQuality quality => some (s.changeQuality quality)
  | .service event =>
    if event = .start ∨ event = .stop ∨ event = .restart then none
    else (s.producer.next needScrcpy event).map fun producer =>
      if event = .launched then (s.produce producer).started else s.produce producer

/-- The runs of the clients, the configuration and the producer. -/
def system (needScrcpy : Bool) : Lts ScreenSessions Event := .ofNext (next needScrcpy)

/-- **The screen is shown**: the service runs when there are clients, with the configuration as it
is, and each client was told of its start; when there are none it is stopped. -/
structure Shown (s : ScreenSessions) : Prop where
  watched : s.broadcastSet.set ≠ [] → s.producer.runningState = .started ∧
    s.service = some s.frameConfig ∧ ∀ id ∈ s.broadcastSet.set, s.told id = some s.starts
  unwatched : s.broadcastSet.set = [] → s.producer.runningState = .stopped

/-- The condition on the steps of the service; and the configuration is not changed while a service
without clients is not stopped yet. -/
def Steady (needScrcpy : Bool) (s : ScreenSessions) : Event → Prop
  | .insert _ | .remove _ => True
  | .updateProjection width height =>
    ¬ (s.frameConfig.virtualWidth = width ∧ s.frameConfig.virtualHeight = height) →
      s.producer.Followed needScrcpy .restart
  | .updateRotation rotation =>
    s.frameConfig.rotation ≠ rotation → s.producer.Followed needScrcpy .restart
  | .changeQuality _ => s.producer.Followed needScrcpy .restart
  | .service event => s.producer.Followed needScrcpy event

instance (needScrcpy : Bool) (s : ScreenSessions) :
    (event : Event) → Decidable (Steady needScrcpy s event)
  | .insert _ | .remove _ => .isTrue trivial
  | .updateProjection _ _ => inferInstanceAs (Decidable (¬ (_ ∧ _) → FrameProducer.Followed _ _ _))
  | .updateRotation _ => inferInstanceAs (Decidable (_ ≠ _ → FrameProducer.Followed _ _ _))
  | .changeQuality _ =>
    inferInstanceAs (Decidable (FrameProducer.Followed needScrcpy s.producer .restart))
  | .service event =>
    inferInstanceAs (Decidable (FrameProducer.Followed needScrcpy s.producer event))

/-- A producer without too many failures that is headed where its clients want it. -/
structure Serves (s : ScreenSessions) : Prop where
  nodup : s.broadcastSet.set.Nodup
  count : s.broadcastSet.count = s.broadcastSet.set.length
  tends : s.producer.Tends
  tidy : s.producer.Tidy
  fresh : s.producer.Fresh
  asked : s.producer.requested = some .started ↔ s.broadcastSet.set ≠ []
  config : s.producer.Runs → s.producer.desiredState = [] → s.service = some s.frameConfig
  told : s.producer.runningState = .started →
    ∀ id ∈ s.broadcastSet.set, s.told id = some s.starts

variable {s s' : ScreenSessions} {producer : FrameProducer} {needScrcpy : Bool} {id : ℕ}

theorem Serves.produce (h : s.Serves) {launched : Prop} {broadcastSet : BroadcastSet ℕ}
    {starts : ℕ} {told : ℕ → Option ℕ} (hnodup : broadcastSet.set.Nodup)
    (hcount : broadcastSet.count = broadcastSet.set.length) (htends : producer.Tends)
    (heffect : FrameProducer.Effect launched s.producer producer) (hfresh : producer.Fresh)
    (hasked : producer.requested = some .started ↔ broadcastSet.set ≠ [])
    (htold : producer.runningState = .started → ∀ id ∈ broadcastSet.set, told id = some starts) :
    ({ s.produce producer with broadcastSet, starts, told } : ScreenSessions).Serves where
  nodup := hnodup
  count := hcount
  tends := htends
  tidy := heffect.tidy
  fresh := hfresh
  asked := hasked
  config hruns hnil := by
    obtain hbegins | ⟨hbefore, hempty⟩ := heffect.runs hruns hnil
    · exact if_pos hbegins
    · unfold ScreenSessions.produce
      dsimp only
      split
      · rfl
      · exact h.config hbefore hempty
  told := htold

theorem Serves.ne_nil_of_runs (h : s.Serves) (hempty : s.broadcastSet.set = [])
    (hruns : s.producer.Runs) : s.producer.desiredState ≠ [] := by
  intro hnil
  have hgoal : s.producer.goal = .started := by
    unfold FrameProducer.goal
    rw [hnil]
    obtain hstate | hstate := hruns <;> rw [hstate] <;> rfl
  cases hrequested : s.producer.requested with
  | none =>
    exact h.fresh.not_runs hrequested hruns
  | some state =>
    have hstate := h.tends.goal state hrequested
    rw [hgoal] at hstate
    exact h.asked.1 (hstate ▸ hrequested) hempty

theorem Serves.same (h : s.Serves) {broadcastSet : BroadcastSet ℕ} {told : ℕ → Option ℕ}
    (hnodup : broadcastSet.set.Nodup) (hcount : broadcastSet.count = broadcastSet.set.length)
    (hempty : broadcastSet.set = [] ↔ s.broadcastSet.set = [])
    (htold : s.producer.runningState = .started →
      ∀ id ∈ broadcastSet.set, told id = some s.starts) :
    ({ s with broadcastSet, told } : ScreenSessions).Serves :=
  ⟨hnodup, hcount, h.tends, h.tidy, h.fresh, h.asked.trans (not_congr hempty.symm), h.config, htold⟩

theorem Serves.insert (h : s.Serves) (hfailed : s.producer.failed = false) (id : ℕ) :
    (s.insert id).Serves := by
  unfold ScreenSessions.insert BroadcastSet.insert
  by_cases hmem : id ∈ s.broadcastSet.set
  · rw [if_pos hmem]
    exact h
  rw [if_neg hmem]
  have hnodup : (s.broadcastSet.set ++ [id]).Nodup := by
    refine List.nodup_append.2 ⟨h.nodup, by simp, fun a ha b hb => ?_⟩
    obtain rfl := List.mem_singleton.1 hb
    exact fun hab => hmem (hab ▸ ha)
  have hcount : s.broadcastSet.count + 1 = (s.broadcastSet.set ++ [id]).length := by
    rw [List.length_append, h.count]
    rfl
  -- the client is told at once when the producer runs
  have htold : s.producer.runningState = .started → ∀ x ∈ s.broadcastSet.set ++ [id],
      (if s.producer.runningState = .started then Function.update s.told id (some s.starts)
        else s.told) x = some s.starts := by
    intro hstarted x hx
    rw [if_pos hstarted, Function.update_apply]
    split
    · rfl
    · rename_i hne
      exact h.told hstarted x ((List.mem_append.1 hx).resolve_right (by simpa using hne))
  have hlisten : listen { s with broadcastSet := ⟨s.broadcastSet.set ++ [id],
      s.broadcastSet.count + 1⟩ } (.insert id) =
      { s with
        broadcastSet := ⟨s.broadcastSet.set ++ [id], s.broadcastSet.count + 1⟩
        told := if s.producer.runningState = .started then
          Function.update s.told id (some s.starts) else s.told } := by
    unfold listen onStart
    dsimp only
    split <;> rfl
  have hone : s.broadcastSet.count + 1 = 1 ↔ s.broadcastSet.set = [] := by
    rw [h.count, Nat.add_eq_right, List.length_eq_zero_iff]
  dsimp only
  by_cases hfirst : s.broadcastSet.set = []
  · rw [if_pos (hone.2 hfirst), List.foldl_cons, hlisten]
    have heffect : FrameProducer.Effect False s.producer s.producer.start :=
      h.tidy.start (h.ne_nil_of_runs hfirst)
    have hasked : s.producer.start.requested = some .started ↔ s.broadcastSet.set ++ [id] ≠ [] :=
      iff_of_true (FrameProducer.requested_start _) (by simp)
    exact h.produce hnodup hcount (h.tends.start hfailed) heffect FrameProducer.fresh_start hasked
      fun hstarted => htold ((heffect.started hstarted).resolve_right fun hfalse => hfalse)
  · rw [if_neg (mt hone.1 hfirst), List.foldl_cons, hlisten]
    exact h.same hnodup hcount (by simp [hfirst]) htold

theorem Serves.remove (h : s.Serves) (hfailed : s.producer.failed = false) (id : ℕ) :
    (s.remove id).Serves := by
  unfold ScreenSessions.remove BroadcastSet.remove
  by_cases hmem : id ∈ s.broadcastSet.set
  · rw [if_pos hmem]
    have hnodup : (s.broadcastSet.set.erase id).Nodup := h.nodup.erase id
    have hcount : s.broadcastSet.count - 1 = (s.broadcastSet.set.erase id).length := by
      rw [List.length_erase_of_mem hmem, h.count]
    have htold : s.producer.runningState = .started →
        ∀ x ∈ s.broadcastSet.set.erase id, s.told x = some s.starts :=
      fun hstarted x hx => h.told hstarted x (List.mem_of_mem_erase hx)
    have hzero : s.broadcastSet.count - 1 = 0 ↔ s.broadcastSet.set.erase id = [] := by
      rw [hcount, List.length_eq_zero_iff]
    dsimp only
    by_cases hlast : s.broadcastSet.set.erase id = []
    · rw [if_pos (hzero.2 hlast)]
      have heffect : FrameProducer.Effect False s.producer s.producer.stop := h.tidy.stop
      have hasked : s.producer.stop.requested = some .started ↔
          s.broadcastSet.set.erase id ≠ [] :=
        iff_of_false (by simp) (not_not_intro hlast)
      exact h.produce hnodup hcount (h.tends.stop hfailed) heffect FrameProducer.fresh_stop hasked
        fun hstarted => htold ((heffect.started hstarted).resolve_right fun hfalse => hfalse)
    · rw [if_neg (mt hzero.1 hlast)]
      refine h.same hnodup hcount (iff_of_false hlast fun hnil => ?_) htold
      rw [hnil] at hmem
      exact List.not_mem_nil hmem
  · rw [if_neg hmem]
    exact h

theorem Serves.configChanged (h : s.Serves) (hfailed : s.producer.failed = false)
    (hmay : s.producer.MayRestart) (frameConfig : FrameConfig) :
    (s.configChanged frameConfig).Serves := by
  have heffect : FrameProducer.Effect False s.producer s.producer.restart := h.tidy.restart
  refine ⟨h.nodup, h.count, h.tends.restart hfailed hmay, heffect.tidy, h.fresh.restart, ?_, ?_, ?_⟩
  · unfold ScreenSessions.configChanged ScreenSessions.produce
    rw [FrameProducer.requested_restart]
    exact h.asked
  · exact fun hruns hnil => absurd hnil (h.tidy.restart_ne_nil hruns)
  · exact fun hstarted => h.told ((heffect.started hstarted).resolve_right id)

theorem foldl_onStart (ids : List ℕ) (s : ScreenSessions) : ids.foldl onStart s =
    { s with told := fun id => if id ∈ ids then some s.starts else s.told id } := by
  induction ids generalizing s with
  | nil => simp
  | cons i ids ih =>
    rw [List.foldl_cons, ih]
    unfold onStart
    congr 1
    funext id
    dsimp only
    rw [Function.update_apply]
    by_cases hid : id = i <;> simp [hid]

theorem Serves.service (h : s.Serves) {event : FrameProducerEvent}
    (hfollowed : s.producer.Followed needScrcpy event)
    (hnext : next needScrcpy s (.service event) = some s') (hafter : s'.producer.failed = false) :
    s'.Serves := by
  obtain ⟨hevent, hmap⟩ := Option.ite_none_left_eq_some.1 hnext
  obtain ⟨producer, hproducer, rfl⟩ := Option.map_eq_some_iff.1 hmap
  obtain ⟨hstart, hstop, -⟩ : event ≠ .start ∧ event ≠ .stop ∧ event ≠ .restart := by
    simpa [not_or] using hevent
  have hfailed : producer.failed = false := by
    split at hafter
    · rwa [started, foldl_onStart] at hafter
    · exact hafter
  have htends := h.tends.next hfollowed hproducer hfailed
  have heffect := FrameProducer.Effect.of_next h.tidy h.tends hstart hproducer hfailed
  have hfresh := h.fresh.next hstart hstop hproducer hfailed
  have hasked : producer.requested = some .started ↔ s.broadcastSet.set ≠ [] := by
    rw [FrameProducer.requested_of_next hstart hstop hproducer hfailed]
    exact h.asked
  split
  · rw [started, foldl_onStart]
    exact h.produce h.nodup h.count htends heffect hfresh hasked fun _ id hid => if_pos hid
  · rename_i hlaunched
    exact h.produce h.nodup h.count htends heffect hfresh hasked fun hstarted =>
      h.told ((heffect.started hstarted).resolve_right hlaunched)

/-! ### Runs -/

theorem producer_insert (s : ScreenSessions) (id : ℕ) :
    (s.insert id).producer = s.producer ∨ (s.insert id).producer = s.producer.start := by
  have hlisten (s : ScreenSessions) : (listen s (.insert id)).producer = s.producer := by
    unfold listen
    dsimp only
    split <;> rfl
  unfold ScreenSessions.insert BroadcastSet.insert
  split
  · exact .inl rfl
  · dsimp only
    split
    · refine .inr ?_
      rw [List.foldl_cons]
      exact congrArg FrameProducer.start (hlisten _)
    · exact .inl (hlisten _)

theorem producer_remove (s : ScreenSessions) (id : ℕ) :
    (s.remove id).producer = s.producer ∨ (s.remove id).producer = s.producer.stop := by
  unfold ScreenSessions.remove BroadcastSet.remove
  split
  · dsimp only
    split
    · exact .inr rfl
    · exact .inl rfl
  · exact .inl rfl

theorem failed_of_configChanged {frameConfig : FrameConfig}
    (h : (s.configChanged frameConfig).producer.failed = false) : s.producer.failed = false := by
  rw [← FrameProducer.failed_restart]
  exact h

/-- Too many failures stay so. -/
theorem failed_of_next {event : Event} (hnext : next needScrcpy s event = some s')
    (hafter : s'.producer.failed = false) : s.producer.failed = false := by
  cases event with
  | insert id =>
    obtain rfl := Option.some.inj hnext
    obtain h | h := producer_insert s id
    · rwa [h] at hafter
    · have hstart : s.producer.next needScrcpy .start = some s.producer.start := rfl
      exact FrameProducer.failed_of_next hstart (h ▸ hafter)
  | remove id =>
    obtain rfl := Option.some.inj hnext
    obtain h | h := producer_remove s id
    · rwa [h] at hafter
    · have hstop : s.producer.next needScrcpy .stop = some s.producer.stop := rfl
      exact FrameProducer.failed_of_next hstop (h ▸ hafter)
  | updateProjection width height =>
    obtain rfl := Option.some.inj hnext
    unfold updateProjection at hafter
    split at hafter
    · exact hafter
    · exact failed_of_configChanged hafter
  | updateRotation rotation =>
    obtain rfl := Option.some.inj hnext
    unfold updateRotation at hafter
    split at hafter
    · exact hafter
    · exact failed_of_configChanged hafter
  | changeQuality quality =>
    obtain rfl := Option.some.inj hnext
    exact failed_of_configChanged hafter
  | service event =>
    obtain ⟨-, hmap⟩ := Option.ite_none_left_eq_some.1 hnext
    obtain ⟨producer, hproducer, rfl⟩ := Option.map_eq_some_iff.1 hmap
    refine FrameProducer.failed_of_next hproducer ?_
    split at hafter
    · rwa [started, foldl_onStart] at hafter
    · exact hafter

theorem Serves.next {event : Event} (h : s.Serves) (hsteady : s.Steady needScrcpy event)
    (hnext : next needScrcpy s event = some s') (hafter : s'.producer.failed = false) :
    s'.Serves := by
  have hfailed := failed_of_next hnext hafter
  cases event with
  | insert id =>
    obtain rfl := Option.some.inj hnext
    exact h.insert hfailed id
  | remove id =>
    obtain rfl := Option.some.inj hnext
    exact h.remove hfailed id
  | updateProjection width height =>
    obtain rfl := Option.some.inj hnext
    unfold updateProjection
    split
    · exact h
    · rename_i hchanged
      exact h.configChanged hfailed (hsteady hchanged hfailed) _
  | updateRotation rotation =>
    obtain rfl := Option.some.inj hnext
    unfold updateRotation
    split
    · exact h
    · rename_i hchanged
      exact h.configChanged hfailed (hsteady hchanged hfailed) _
  | changeQuality quality =>
    obtain rfl := Option.some.inj hnext
    exact h.configChanged hfailed (hsteady hfailed) _
  | service event => exact h.service hsteady hnext hafter

theorem Serves.shown (h : s.Serves) (hpending : s.producer.pending = [])
    (hfailed : s.producer.failed = false) : s.Shown := by
  obtain ⟨hnil, hstarted, hstopped⟩ := h.tends.settled hpending hfailed
  constructor
  · intro hne
    have hrunning := hstarted (h.asked.2 hne)
    exact ⟨hrunning, h.config (.inr hrunning) hnil, h.told hrunning⟩
  · intro hempty
    cases hrequested : s.producer.requested with
    | none => exact (h.fresh hrequested).1
    | some state =>
      cases state with
      | started => exact absurd hempty (h.asked.1 hrequested)
      | stopped => exact hstopped hrequested

theorem serves_new (frameConfig : FrameConfig) : (⟨{}, frameConfig, {}, 0, none, fun _ => none⟩ :
    ScreenSessions).Serves where
  nodup := List.nodup_nil
  count := rfl
  tends := FrameProducer.tends_init
  tidy := ⟨List.nodup_nil, fun _ => nofun⟩
  fresh _ := ⟨rfl, rfl⟩
  asked := iff_of_false nofun fun h => h rfl
  config hruns := absurd hruns (by simp [FrameProducer.Runs])
  told _ _ hid := absurd hid List.not_mem_nil

/-- **The screen is shown** whenever nothing is under way and there were not too many failures, in
every run whose steps meet the condition. -/
theorem shown_of_run {frameConfig : FrameConfig} {events : List Event}
    (hrun : ((system needScrcpy).restrict (Steady needScrcpy)).Run
      ⟨{}, frameConfig, {}, 0, none, fun _ => none⟩ events s)
    (hpending : s.producer.pending = []) (hfailed : s.producer.failed = false) : s.Shown := by
  have hserves : s.producer.failed = false → s.Serves :=
    hrun.invariant_of_restrict (I := fun s => s.producer.failed = false → s.Serves)
      (fun _ => serves_new frameConfig) fun _ _ _ h hsteady hnext hafter =>
        (h (failed_of_next hnext hafter)).next hsteady hnext hafter
  exact (hserves hfailed).shown hpending hfailed

/-- A second client, a new projection, and the first client goes. -/
theorem shown_of_projection :
    ∃ s : ScreenSessions, s.Shown ∧ s.broadcastSet.set = [2] ∧ s.starts = 2 := by
  have hplayed : (Lts.play (next false) (Steady false)
      ⟨{}, ⟨1080, 1920, 0, 80⟩, {}, 0, none, fun _ => none⟩
      [.insert 1, .service .launched, .insert 2, .updateProjection 540 960, .remove 1,
        .service .ensured, .service .stopped, .service .ensured, .service .launched,
        .service .ensured]).any
      (fun s => s.producer.pending = [] ∧ s.producer.failed = false ∧ s.broadcastSet.set = [2] ∧
        s.starts = 2) := by decide
  obtain ⟨s, hrun, hend⟩ := Lts.exists_run_of_play _ _ _ hplayed
  obtain ⟨hpending, hfailed, hset, hstarts⟩ := of_decide_eq_true hend
  exact ⟨s, shown_of_run hrun hpending hfailed, hset, hstarts⟩

end ScreenSessions

end DeviceHub
